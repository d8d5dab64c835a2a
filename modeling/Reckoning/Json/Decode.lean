import Reckoning.Json.Value
import Reckoning.RuleError

/-!
# Reading records out of JSON

A record is a table whose members are its fields, in any order and among others that are
skipped, or the list of its fields in their own order.

* `Decoder α` reads an `α` out of a value.
* `Members α` reads an `α` out of the members of a table.  It is put together field by field
  with `required` and `optional`; of two faults the one that stands first in the text is
  reported (`Members.both`), and a missing field comes after all others.
* `record` makes a decoder of it.
-/

namespace Reckoning.Json

/-- Why a value cannot be read as a record. -/
inductive Fault
  /-- A value has another form than the record asks for. -/
  | form
  /-- The values have the right form but break a rule. -/
  | rule (error : RuleError)
deriving DecidableEq, Repr

/-- The sentence that reports a fault, where a broken rule has one. -/
def Fault.message? : Fault → Option String
  | .form => none
  | .rule e => some e.message

/-- A way to read a value. -/
abbrev Decoder (α : Type) := Value → Except Fault α

/-! ### Scalars -/

/-- A rule's verdict as that of a decoder. -/
def ofRule {α : Type} : Except RuleError α → Except Fault α
  | .ok a => .ok a
  | .error e => .error (.rule e)

/-- A text. -/
def text : Decoder String
  | .text s => .ok s
  | _ => .error .form

/-- A truth value. -/
def bool : Decoder Bool
  | .bool b => .ok b
  | _ => .error .form

/-- An integer between two bounds. -/
def intBetween (least most : Int) : Decoder Int
  | .int n => if least ≤ n ∧ n ≤ most then .ok n else .error .form
  | _ => .error .form

/-- An integer of 32 bits. -/
def int32 : Decoder Int := intBetween (-0x80000000) 0x7FFFFFFF

/-- A natural number of 64 bits. -/
def word : Decoder UInt64 := fun v => (fun n : Int => n.toNat.toUInt64) <$>
  intBetween 0 0xFFFFFFFFFFFFFFFF v

/-- A number, also one written as an integer. -/
def real : Decoder Float
  | .real x => .ok x
  | .int n => .ok (if n < 0 then -(n.natAbs.toUInt64.toFloat) else n.natAbs.toUInt64.toFloat)
  | _ => .error .form

/-- One of some names.  A name may also be the only member of a table, with null for its
value. -/
def oneOf {α : Type} (ofName? : String → Option α) : Decoder α
  | .text s => (ofName? s).elim (.error .form) .ok
  | .table [(s, .null)] => (ofName? s).elim (.error .form) .ok
  | _ => .error .form

/-- Null, or a value. -/
def nullable {α : Type} (d : Decoder α) : Decoder (Option α)
  | .null => .ok none
  | v => some <$> d v

/-- A list of values. -/
def list {α : Type} (d : Decoder α) : Decoder (List α)
  | .list vs => vs.mapM d
  | _ => .error .form

/-! ### Records -/

/-- A way to read an `α` out of members.  A fault comes with the place of its member; a
missing field has the place behind the last member. -/
structure Members (α : Type) where
  /-- The names of the fields, in their own order. -/
  names : List String
  /-- Read the members. -/
  run : List (String × Value) → Except (Nat × Fault) α

namespace Members

variable {α β : Type}

/-- Of two faults, the one that stands first. -/
def earlier (a b : Nat × Fault) : Nat × Fault := if b.1 < a.1 then b else a

/-- Read two parts of a record. -/
def both (f : Except (Nat × Fault) (α → β)) (x : Except (Nat × Fault) α) :
    Except (Nat × Fault) β :=
  match f, x with
  | .ok f, .ok x => .ok (f x)
  | .error e, .ok _ => .error e
  | .ok _, .error e => .error e
  | .error e, .error e' => .error (earlier e e')

instance : Functor Members where
  map f m := ⟨m.names, fun ms => f <$> m.run ms⟩

instance : Seq Members where
  seq f x := ⟨f.names ++ (x ()).names, fun ms => both (f.run ms) ((x ()).run ms)⟩

/-- The members with a name, with their places. -/
def named (name : String) (ms : List (String × Value)) : List (Value × Nat) :=
  ms.zipIdx.filterMap fun p => if p.1.1 == name then some (p.1.2, p.2) else none

/-- Read the members with the name of a field.  A second one is a fault. -/
def field (name : String) (d : Decoder α) (missing : Nat → Except (Nat × Fault) α) :
    Members α where
  names := [name]
  run ms := match named name ms with
    | [] => missing ms.length
    | (v, i) :: more =>
      match d v with
      | .error e => .error (i, e)
      | .ok a =>
        match more with
        | [] => .ok a
        | (_, j) :: _ => .error (j, .form)

/-- A field that has to be there. -/
def required (name : String) (d : Decoder α) : Members α :=
  field name d fun place => .error (place, .form)

/-- A field with a default. -/
def optional (name : String) (default : α) (d : Decoder α) : Members α :=
  field name d fun _ => .ok default

end Members

/-- A record, as a table or as a list of its fields. -/
def record {α : Type} (m : Members α) : Decoder α
  | .table ms => (m.run ms).mapError (·.2)
  | .list vs =>
    match m.run (m.names.zip vs) with
    | .error e => .error e.2
    | .ok a => if m.names.length < vs.length then .error .form else .ok a
  | _ => .error .form

end Reckoning.Json
