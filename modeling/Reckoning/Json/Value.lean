/-!
# JSON values

A JSON document as a tree.  Members of a table keep their order, and a name may occur twice.

* `Value.unreadable` stands for a part that is well formed but denotes nothing: a number
  beyond every double, or a text with half of a surrogate pair.
-/

namespace Reckoning.Json

/-- A JSON value. -/
inductive Value
  | null
  | bool (b : Bool)
  /-- A number written as an integer that fits into 64 bits. -/
  | int (n : Int)
  /-- Any other number. -/
  | real (x : Float)
  | text (s : String)
  | list (items : List Value)
  | table (members : List (String × Value))
  /-- Well formed, but without a meaning. -/
  | unreadable
deriving Inhabited

namespace Value

/-- The last member of a table with a name. -/
def member? (v : Value) (name : String) : Option Value :=
  match v with
  | .table members => (members.reverse.find? (·.1 == name)).map (·.2)
  | _ => none

/-- A list of texts. -/
def texts (ss : List String) : Value := .list (ss.map .text)

end Value

end Reckoning.Json
