import Reckoning.Ron.Value
import Reckoning.Saturation

/-!
# Reading records out of RON

A record is a structure that bears the name of the record or no name.  Fields that the record
does not know are skipped.

* `fieldsOf?` are the fields of such a structure.
* `required` and `optional` read one of them; a field that is written twice cannot be read.
-/

namespace Reckoning.Ron

/-- A way to read a value. -/
abbrev Decoder (α : Type) := Value → Option α

/-! ### Scalars, lists and maps -/

/-- A text. -/
def text : Decoder String
  | .text s => some s
  | _ => none

/-- A truth value. -/
def bool : Decoder Bool
  | .bool b => some b
  | _ => none

/-- An integer of 32 bits. -/
def int32 : Decoder Int
  | .number n => (n.toInt? "i32").filter fun k => decide (InRange k)
  | _ => none

/-- A number. -/
def real : Decoder Float
  | .number n => n.toFloat?
  | _ => none

/-- One of some names, as a bare word. -/
def oneOf {α : Type} (ofName? : String → Option α) : Decoder α
  | .word s => ofName? s
  | _ => none

/-- Any value that can be written without extensions. -/
def plain : Decoder Value := fun v => if v.isPlain then some v else none

/-- Two values in parentheses. -/
def pair {α β : Type} (d : Decoder α) (e : Decoder β) : Decoder (α × β)
  | .tuple none [v, w] => return (← d v, ← e w)
  | _ => none

/-- A list of values. -/
def list {α : Type} (d : Decoder α) : Decoder (List α)
  | .list vs => vs.mapM d
  | _ => none

/-- Put a value under a key into a list that is sorted by its keys.  A key that is there
already gets the new value. -/
def insertSorted {α : Type} (key : String) (a : α) : List (String × α) → List (String × α)
  | [] => [(key, a)]
  | (k, b) :: rest =>
    if key < k then (key, a) :: (k, b) :: rest
    else if key = k then (key, a) :: rest
    else (k, b) :: insertSorted key a rest

/-- A map from texts to values, sorted by its keys.  Of two entries with one key the second
counts. -/
def mapOf {α : Type} (d : Decoder α) : Decoder (List (String × α))
  | .map es => do
    let pairs ← es.mapM fun e => return (← text e.1, ← d e.2)
    return pairs.foldl (fun acc p => insertSorted p.1 p.2 acc) []
  | _ => none

/-! ### Records -/

/-- A structure may bear this name, and has to if names are required. -/
def allowsName (name : String) (namesRequired : Bool) : Option String → Bool
  | some n => n == name
  | none => !namesRequired

/-- The fields of a record with a name. -/
def fieldsOf? (name : String) (namesRequired : Bool) : Value → Option (List (String × Value))
  | .struct n fs => if allowsName name namesRequired n then some fs else none
  | .tuple n [] => if allowsName name namesRequired n then some [] else none
  | _ => none

/-- The values of a field. -/
def named (fields : List (String × Value)) (name : String) : List Value :=
  (fields.filter (·.1 == name)).map (·.2)

/-- Read a field that has to be there. -/
def required {α : Type} (fields : List (String × Value)) (name : String) (d : Decoder α) :
    Option α :=
  match named fields name with
  | [v] => d v
  | _ => none

/-- Read a field with a default. -/
def optional {α : Type} (fields : List (String × Value)) (name : String) (default : α)
    (d : Decoder α) : Option α :=
  match named fields name with
  | [] => some default
  | [v] => d v
  | _ => none

end Reckoning.Ron
