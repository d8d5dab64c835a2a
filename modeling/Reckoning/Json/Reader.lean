import Reckoning.Json.Number

/-!
# Reading JSON

* `Value.read?` is the value of a whole text, if the text is well formed.

A number that no double can hold and a text with half of a surrogate pair are well formed,
and read as `Value.unreadable`.
-/

namespace Reckoning.Json

namespace Reader

/-- Drop blanks in front. -/
def skip (cs : List Char) : List Char :=
  cs.dropWhile fun c => c = ' ' || c = '\n' || c = '\t' || c = '\r'

/-- The value of a hexadecimal digit. -/
def hexValue? (c : Char) : Option Nat :=
  if '0' ≤ c ∧ c ≤ '9' then some (c.toNat - '0'.toNat)
  else if 'a' ≤ c ∧ c ≤ 'f' then some (c.toNat - 'a'.toNat + 10)
  else if 'A' ≤ c ∧ c ≤ 'F' then some (c.toNat - 'A'.toNat + 10)
  else none

/-- The value of four hexadecimal digits. -/
def hex4? (a b c d : Char) : Option Nat := do
  let a ← hexValue? a
  let b ← hexValue? b
  let c ← hexValue? c
  let d ← hexValue? d
  return ((a * 16 + b) * 16 + c) * 16 + d

/-- The first half of a surrogate pair. -/
def isLead (n : Nat) : Bool := 0xD800 ≤ n && n < 0xDC00

/-- The second half of a surrogate pair. -/
def isTrail (n : Nat) : Bool := 0xDC00 ≤ n && n < 0xE000

/-- The character that a letter behind a backslash stands for. -/
def escape? : Char → Option Char
  | '"' => some '"'
  | '\\' => some '\\'
  | '/' => some '/'
  | 'b' => some '\x08'
  | 'f' => some '\x0c'
  | 'n' => some '\n'
  | 'r' => some '\r'
  | 't' => some '\t'
  | _ => none

/-- The code units of a text up to its closing quote, the last one first.  A character that
is written as itself is one unit. -/
def textUnits (acc : List Nat) : List Char → Option (List Nat × List Char)
  | [] => none
  | '"' :: rest => some (acc, rest)
  | '\\' :: 'u' :: a :: b :: c :: d :: rest =>
    match hex4? a b c d with
    | some n => textUnits (n :: acc) rest
    | none => none
  | '\\' :: c :: rest =>
    match escape? c with
    | some e => textUnits (e.toNat :: acc) rest
    | none => none
  | c :: rest => if c.toNat < 0x20 then none else textUnits (c.toNat :: acc) rest

/-- The characters of code units, the last one first.  Each half of a surrogate pair has to
stand by the other half. -/
def joinUnits (acc : List Char) : List Nat → Option (List Char)
  | [] => some acc
  | t :: rest =>
    if isTrail t then
      match rest with
      | l :: rest =>
        if isLead l then
          joinUnits (Char.ofNat (0x10000 + (l - 0xD800) * 0x400 + (t - 0xDC00)) :: acc) rest
        else none
      | [] => none
    else if isLead t then none
    else joinUnits (Char.ofNat t :: acc) rest

/-- Read a text behind its opening quote. -/
def textBody (cs : List Char) : Option (Value × List Char) :=
  (textUnits [] cs).map fun p =>
    (match joinUnits [] p.1 with
      | some cs => .text (String.ofList cs)
      | none => .unreadable, p.2)

/-- The value of a decimal digit. -/
def digitValue (c : Char) : Nat := c.toNat - '0'.toNat

/-- The digits in front, and the rest. -/
def digits (cs : List Char) : List Nat × List Char :=
  ((cs.takeWhile Char.isDigit).map digitValue, cs.dropWhile Char.isDigit)

/-- At least one digit, and the rest. -/
def digits1 (cs : List Char) : Option (List Nat × List Char) :=
  match digits cs with
  | ([], _) => none
  | found => some found

/-- The number that some digits write. -/
def number (ds : List Nat) : Nat := ds.foldl (fun n d => 10 * n + d) 0

/-- Read the digits behind a point, if there is one. -/
def fraction : List Char → Option (Option (List Nat) × List Char)
  | '.' :: rest => (digits1 rest).map fun p => (some p.1, p.2)
  | cs => some (none, cs)

/-- Read an exponent without its letter. -/
def exponentBody : List Char → Option (Int × List Char)
  | '+' :: rest => (digits1 rest).map fun p => ((number p.1 : Int), p.2)
  | '-' :: rest => (digits1 rest).map fun p => (-(number p.1 : Int), p.2)
  | cs => (digits1 cs).map fun p => ((number p.1 : Int), p.2)

/-- Read an exponent, if there is one. -/
def exponent : List Char → Option (Option Int × List Char)
  | 'e' :: rest => (exponentBody rest).map fun p => (some p.1, p.2)
  | 'E' :: rest => (exponentBody rest).map fun p => (some p.1, p.2)
  | cs => some (none, cs)

/-- Read a number behind its sign.  A zero in front stands alone. -/
def numberBody (negative : Bool) (cs : List Char) : Option (Value × List Char) := do
  let (whole, cs) ← digits1 cs
  if whole.head? = some 0 ∧ 1 < whole.length then
    none
  else
    let (fraction, cs) ← fraction cs
    let (exponent, cs) ← exponent cs
    return ((Number.mk negative whole fraction exponent).value, cs)

mutual

/-- Read a value.  `n` bounds the number of calls that are open. -/
def value : Nat → List Char → Option (Value × List Char)
  | 0, _ => none
  | n + 1, cs =>
    match skip cs with
    | 'n' :: 'u' :: 'l' :: 'l' :: rest => some (.null, rest)
    | 't' :: 'r' :: 'u' :: 'e' :: rest => some (.bool true, rest)
    | 'f' :: 'a' :: 'l' :: 's' :: 'e' :: rest => some (.bool false, rest)
    | '"' :: rest => textBody rest
    | '-' :: rest => numberBody true rest
    | '[' :: rest =>
      match skip rest with
      | ']' :: rest => some (.list [], rest)
      | rest => (items n rest).map fun p => (.list p.1, p.2)
    | '{' :: rest =>
      match skip rest with
      | '}' :: rest => some (.table [], rest)
      | rest => (members n rest).map fun p =>
          (match p.1 with | some ms => .table ms | none => .unreadable, p.2)
    | rest => numberBody false rest

/-- Read the items of a list and the closing bracket. -/
def items : Nat → List Char → Option (List Value × List Char)
  | 0, _ => none
  | n + 1, cs => do
    let (v, rest) ← value n cs
    match skip rest with
    | ',' :: rest =>
      let (vs, rest) ← items n rest
      return (v :: vs, rest)
    | ']' :: rest => return ([v], rest)
    | _ => none

/-- Read the members of a table and the closing bracket.  A table with an unreadable name has
no members to give. -/
def members : Nat → List Char → Option (Option (List (String × Value)) × List Char)
  | 0, _ => none
  | n + 1, cs => do
    let (name, rest) ← match skip cs with
      | '"' :: rest => textBody rest
      | _ => none
    match skip rest with
    | ':' :: rest =>
      let (v, rest) ← value n rest
      let member : Option (String × Value) := match name with
        | .text s => some (s, v)
        | _ => none
      match skip rest with
      | ',' :: rest =>
        let (ms, rest) ← members n rest
        return ((· :: ·) <$> member <*> ms, rest)
      | '}' :: rest => return (member.map fun m => [m], rest)
      | _ => none
    | _ => none

end

end Reader

/-- The value of a whole text, if it is well formed. -/
def Value.read? (text : String) : Option Value :=
  let cs := text.toList
  match Reader.value (2 * cs.length + 2) cs with
  | some (v, rest) => if (Reader.skip rest).isEmpty then some v else none
  | none => none

end Reckoning.Json
