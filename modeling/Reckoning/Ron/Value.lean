import Reckoning.Decimal.Double

/-!
# RON values

A RON document as a tree.  Fields of a structure and entries of a map keep their order, and a
name or a key may occur twice.

* `Numeral` is a number as it is written; `Numeral.toInt?` and `Numeral.toFloat?` read it.
* `Value` is a tree; `Value.isPlain` says that it can be written without extensions.
-/

namespace Reckoning.Ron

/-- A number as it is written.  A type may stand behind it. -/
inductive Numeral
  /-- An integer, to base ten or to another one. -/
  | integer (negative : Bool) (size : Nat) (baseTen : Bool) (type : Option String)
  /-- The number `digits * 10 ^ power`. -/
  | decimal (negative : Bool) (digits : Nat) (power : Int) (type : Option String)
  | infinite (negative : Bool) (type : Option String)
  | nan (type : Option String)
deriving DecidableEq, Repr

namespace Numeral

/-- The type behind a numeral. -/
def type? : Numeral → Option String
  | integer _ _ _ type | decimal _ _ _ type | infinite _ type | nan type => type

/-- The integer that a numeral writes, as a value of a type.  Another type behind the numeral
is refused. -/
def toInt? (type : String) (n : Numeral) : Option Int :=
  match n with
  | integer negative size _ written =>
    if written.all (· == type) then some (if negative then -(size : Int) else size) else none
  | _ => none

/-- The double that a numeral writes.  Another type behind it is refused, and so is an integer
to another base than ten or with a type. -/
def toFloat? (n : Numeral) : Option Float :=
  if n.type?.all (· == "f64") then
    match n with
    | integer negative size baseTen _ =>
      if baseTen then some (Decimal.Double.ofDecimal negative size 0) else none
    | decimal negative digits power _ => some (Decimal.Double.ofDecimal negative digits power)
    | infinite negative _ => some (Decimal.Double.infinity negative)
    | nan _ => some Decimal.Double.notANumber
  else
    none

end Numeral

/-- A RON value. -/
inductive Value
  | bool (b : Bool)
  | number (n : Numeral)
  | real (x : Float)
  | text (s : String)
  /-- A bare identifier. -/
  | word (s : String)
  /-- A character, a text of bytes, or a range: a value that no field takes. -/
  | foreign
  /-- A value that only an extension allows. -/
  | extended
  | absent
  | present (v : Value)
  | list (items : List Value)
  | map (entries : List (Value × Value))
  /-- Values in parentheses, maybe behind a name. -/
  | tuple (name : Option String) (items : List Value)
  /-- Fields in parentheses, maybe behind a name. -/
  | struct (name : Option String) (fields : List (String × Value))
deriving Inhabited

namespace Value

mutual

/-- The value can be written without extensions. -/
def isPlain : Value → Bool
  | .extended => false
  | .present v => v.isPlain
  | .list items => allPlain items
  | .map entries => entriesPlain entries
  | .tuple _ items => allPlain items
  | .struct _ fields => fieldsPlain fields
  | _ => true

/-- All items can be written without extensions. -/
def allPlain : List Value → Bool
  | [] => true
  | v :: rest => v.isPlain && allPlain rest

/-- All entries can be written without extensions. -/
def entriesPlain : List (Value × Value) → Bool
  | [] => true
  | (k, v) :: rest => k.isPlain && v.isPlain && entriesPlain rest

/-- All fields can be written without extensions. -/
def fieldsPlain : List (String × Value) → Bool
  | [] => true
  | (_, v) :: rest => v.isPlain && fieldsPlain rest

end

end Value

/-- A whole text. -/
structure Document where
  /-- The text asks that structures bear their names. -/
  namesRequired : Bool
  value : Value

end Reckoning.Ron
