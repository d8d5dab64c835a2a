import Reckoning.Decimal.Text
import Reckoning.Ron.Value
import Reckoning.Text.Hidden

/-!
# Writing RON

* `Value.pretty` writes a value with every item, entry and field on a line of its own, each
  followed by a comma.  Values in parentheses without names stay on one line.
-/

namespace Reckoning.Ron

/-- A character inside a quoted text.  Hidden characters are written by their numbers. -/
def escaped (c : Char) : List Char :=
  if c.toNat = 0 then ['\\', '0']
  else if c = '\t' then ['\\', 't']
  else if c = '\r' then ['\\', 'r']
  else if c = '\n' then ['\\', 'n']
  else if c = '\\' then ['\\', '\\']
  else if c = '"' then ['\\', '"']
  else if c = '\'' then ['\\', '\'']
  else if Text.isHidden c then ['\\', 'u', '{'] ++ Nat.toDigits 16 c.toNat ++ ['}']
  else [c]

/-- A text in quotes. -/
def quoted (s : String) : String :=
  String.ofList ('"' :: s.toList.flatMap escaped ++ ['"'])

/-- A double. -/
def realText (x : Float) : String :=
  let d := Decimal.Double.ofFloat x
  if d.size = .nan && d.negative then "-NaN" else Decimal.Layout.pointed.write x

/-- A number. -/
def numeralText : Numeral → String
  | .integer negative size _ _ => (if negative then "-" else "") ++ toString size
  | n => match n.toFloat? with
    | some x => realText x
    | none => ""

namespace Value

/-- The start of a line inside `depth` brackets. -/
def newLine (depth : Nat) : String := "\n" ++ String.ofList (List.replicate (4 * depth) ' ')

/-- Parts between brackets, each on a line of its own and followed by a comma. -/
def block (opening closing : String) (depth : Nat) (parts : List String) : String :=
  if parts.isEmpty then
    opening ++ closing
  else
    opening ++ String.join (parts.map fun p => newLine (depth + 1) ++ p ++ ",")
      ++ newLine depth ++ closing

mutual

/-- The value inside `depth` brackets. -/
def prettyAt (depth : Nat) : Value → String
  | .bool b => if b then "true" else "false"
  | .number n => numeralText n
  | .real x => realText x
  | .text s => quoted s
  | .word s => s
  | .foreign => ""
  | .extended => ""
  | .absent => "None"
  | .present v => "Some(" ++ v.prettyAt depth ++ ")"
  | .list vs => block "[" "]" depth (prettyItems (depth + 1) vs)
  | .map es => block "\x7b" "\x7d" depth (prettyEntries (depth + 1) es)
  | .tuple name vs =>
    name.getD "" ++ "(" ++ String.intercalate ", " (prettyItems depth vs) ++ ")"
  | .struct name fs => name.getD "" ++ block "(" ")" depth (prettyFields (depth + 1) fs)

/-- The items of a list, each on its own. -/
def prettyItems (depth : Nat) : List Value → List String
  | [] => []
  | v :: rest => v.prettyAt depth :: prettyItems depth rest

/-- The entries of a map, each on its own. -/
def prettyEntries (depth : Nat) : List (Value × Value) → List String
  | [] => []
  | (k, v) :: rest =>
    (k.prettyAt depth ++ ": " ++ v.prettyAt depth) :: prettyEntries depth rest

/-- The fields of a structure, each on its own. -/
def prettyFields (depth : Nat) : List (String × Value) → List String
  | [] => []
  | (name, v) :: rest => (name ++ ": " ++ v.prettyAt depth) :: prettyFields depth rest

end

/-- The value with every item, entry and field on a line of its own. -/
def pretty (v : Value) : String := v.prettyAt 0

end Value

end Reckoning.Ron
