import Reckoning.Decimal.Text
import Reckoning.Json.Value

/-!
# Writing JSON

* `Value.compact` writes a value on one line without blanks.
* `Value.pretty` writes every item and member on a line of its own.

Both write texts by `quoted` and numbers by `Decimal.Layout.compact`; a number without a
finite value is written as null.
-/

namespace Reckoning.Json

/-- A hexadecimal digit in lower case. -/
def hexDigit (n : Nat) : Char := Nat.digitChar n

/-- A character inside a quoted text. -/
def escaped (c : Char) : List Char :=
  if c = '"' then ['\\', '"']
  else if c = '\\' then ['\\', '\\']
  else if c = '\x08' then ['\\', 'b']
  else if c = '\x0c' then ['\\', 'f']
  else if c = '\n' then ['\\', 'n']
  else if c = '\r' then ['\\', 'r']
  else if c = '\t' then ['\\', 't']
  else if c.toNat < 0x20 then
    ['\\', 'u', '0', '0', hexDigit (c.toNat / 16), hexDigit (c.toNat % 16)]
  else [c]

/-- A text in quotes. -/
def quoted (s : String) : String :=
  String.ofList ('"' :: s.toList.flatMap escaped ++ ['"'])

/-- A number that need not be finite. -/
def realText (x : Float) : String :=
  if x.isFinite then Decimal.Layout.compact.write x else "null"

namespace Value

/-- Texts with a comma between them. -/
def joined (parts : List String) : String := String.intercalate "," parts

mutual

/-- The value on one line, without blanks. -/
def compact : Value → String
  | .null => "null"
  | .bool b => if b then "true" else "false"
  | .int n => toString n
  | .real x => realText x
  | .text s => quoted s
  | .list items => "[" ++ joined (compactItems items) ++ "]"
  | .table members => "\x7b" ++ joined (compactMembers members) ++ "\x7d"
  | .unreadable => "null"

/-- The items of a list, each on its own. -/
def compactItems : List Value → List String
  | [] => []
  | v :: rest => v.compact :: compactItems rest

/-- The members of a table, each on its own. -/
def compactMembers : List (String × Value) → List String
  | [] => []
  | (name, v) :: rest => (quoted name ++ ":" ++ v.compact) :: compactMembers rest

end

/-- The start of a line inside `depth` brackets. -/
def newLine (depth : Nat) : String := "\n" ++ String.ofList (List.replicate (2 * depth) ' ')

/-- Parts between brackets, each on a line of its own. -/
def block (opening closing : String) (depth : Nat) (parts : List String) : String :=
  if parts.isEmpty then
    opening ++ closing
  else
    opening ++ newLine (depth + 1) ++ String.intercalate ("," ++ newLine (depth + 1)) parts
      ++ newLine depth ++ closing

mutual

/-- The value inside `depth` brackets, with every item and member on a line of its own. -/
def prettyAt (depth : Nat) : Value → String
  | .list items => block "[" "]" depth (prettyItems (depth + 1) items)
  | .table members => block "\x7b" "\x7d" depth (prettyMembers (depth + 1) members)
  | .null => "null"
  | .bool b => if b then "true" else "false"
  | .int n => toString n
  | .real x => realText x
  | .text s => quoted s
  | .unreadable => "null"

/-- The items of a list, each on its own. -/
def prettyItems (depth : Nat) : List Value → List String
  | [] => []
  | v :: rest => v.prettyAt depth :: prettyItems depth rest

/-- The members of a table, each on its own. -/
def prettyMembers (depth : Nat) : List (String × Value) → List String
  | [] => []
  | (name, v) :: rest =>
    (quoted name ++ ": " ++ v.prettyAt depth) :: prettyMembers depth rest

end

/-- The value with every item and member on a line of its own. -/
def pretty (v : Value) : String := v.prettyAt 0

end Value

end Reckoning.Json
