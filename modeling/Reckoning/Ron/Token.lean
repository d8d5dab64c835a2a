import Reckoning.Ron.Value
import Reckoning.Text.Identifier

/-!
# RON tokens

A text is cut into tokens: marks, identifiers, numbers, ranges and texts.  Blanks and comments
stand between tokens.

* `Token` is a token, `tokens?` cuts a whole text.
* `Token.number?` reads a number, `Token.range?` a range, `Token.textBody` a quoted text.
-/

namespace Reckoning.Ron

/-- A token. -/
inductive Token
  /-- A bracket, a comma, a colon, or a mark of the header. -/
  | mark (c : Char)
  /-- An opening parenthesis with the closing one right behind it. -/
  | unit
  /-- An identifier; one that is written raw is never a keyword. -/
  | identifier (name : String) (raw : Bool)
  | number (n : Numeral)
  | text (s : String)
  /-- A character, a text of bytes, or a range. -/
  | foreign
deriving DecidableEq, Repr

namespace Token

/-! ### Blanks and comments -/

/-- The character is a blank. -/
def isBlank (c : Char) : Bool :=
  let n := c.toNat
  n == 0x20 || (0x09 ≤ n && n ≤ 0x0D) || n == 0x85 || n == 0x200E || n == 0x200F
    || n == 0x2028 || n == 0x2029

/-- Skip a comment inside `depth` open ones. -/
def skipComment : Nat → List Char → Option (List Char)
  | 0, cs => some cs
  | depth + 1, '/' :: '*' :: rest => skipComment (depth + 2) rest
  | depth + 1, '*' :: '/' :: rest => skipComment depth rest
  | depth + 1, _ :: rest => skipComment (depth + 1) rest
  | _ + 1, [] => none
termination_by _ cs => cs.length

/-! ### Numbers -/

/-- A character of a number with a point or an exponent. -/
def isDecimalChar (c : Char) : Bool :=
  c.isDigit || c == 'e' || c == 'E' || c == '.' || c == '+' || c == '-' || c == '_'

/-- The characters of a decimal at the start of a text.  Two points in a row belong to a range
and end it. -/
def decimalChars : List Char → List Char
  | [] => []
  | '.' :: '.' :: _ => []
  | c :: rest => if isDecimalChar c then c :: decimalChars rest else []

/-- A hexadecimal digit. -/
def isHexChar (c : Char) : Bool :=
  c.isDigit || ('a' ≤ c && c ≤ 'f') || ('A' ≤ c && c ≤ 'F')

/-- A character of an integer. -/
def isIntegerChar (c : Char) : Bool := isHexChar c || c == '_'

/-- The value of a hexadecimal digit. -/
def hexValue (c : Char) : Nat :=
  if c.isDigit then c.toNat - '0'.toNat
  else if 'a' ≤ c then c.toNat - 'a'.toNat + 10
  else c.toNat - 'A'.toNat + 10

/-- The value of decimal digits. -/
def decimalValue (cs : List Char) : Nat := cs.foldl (fun n c => 10 * n + hexValue c) 0

/-- The end of an identifier is reached. -/
def atBoundary (cs : List Char) : Bool :=
  match cs with
  | c :: _ => !Text.isIdentifierPart c
  | [] => true

/-- What is left behind a word that no identifier continues. -/
def word? (word : List Char) (cs : List Char) : Option (List Char) :=
  if word.isPrefixOf cs && atBoundary (cs.drop word.length) then some (cs.drop word.length)
  else none

/-- The widths that the type behind an integer can have. -/
def integerWidths : List Nat := [8, 16, 32, 64]

/-- The integers of a type. -/
structure IntegerType where
  name : String
  /-- The size of the least one. -/
  mostBelow : Nat
  /-- The size of the largest one. -/
  mostAbove : Nat

namespace IntegerType

/-- The integers of `width` bits with a sign. -/
def signed (width : Nat) : IntegerType :=
  ⟨"i" ++ toString width, Nat.pow 2 (width - 1), Nat.pow 2 (width - 1) - 1⟩

/-- The integers of `width` bits without a sign. -/
def unsigned (width : Nat) : IntegerType :=
  ⟨"u" ++ toString width, 0, Nat.pow 2 width - 1⟩

/-- Every type. -/
def all : List IntegerType := integerWidths.map signed ++ integerWidths.map unsigned

/-- The integers without a type: those that some type holds. -/
def widest : IntegerType := ⟨"", 0x8000000000000000, 0xFFFFFFFFFFFFFFFF⟩

/-- An integer belongs to a type. -/
def holds (t : IntegerType) (negative : Bool) (size : Nat) : Bool :=
  size ≤ if negative then t.mostBelow else t.mostAbove

end IntegerType

/-- Read the digits of an integer to some base, and the type behind them. -/
def integerBody (negative : Bool) (base : Nat) (cs : List Char) :
    Option (Numeral × List Char) :=
  let digits := cs.takeWhile isIntegerChar
  let rest := cs.dropWhile isIntegerChar
  let values := (digits.filter (· != '_')).map hexValue
  if digits.isEmpty || digits.head? == some '_' || values.any (base ≤ ·) then
    none
  else
    let size := values.foldl (fun n d => base * n + d) 0
    let typed := IntegerType.all.findSome? fun t => (word? t.name.toList rest).map (t, ·)
    match typed with
    | none =>
      if IntegerType.widest.holds negative size then
        some (.integer negative size (base == 10) none, rest)
      else none
    | some (t, rest) =>
      if t.holds negative size then
        some (.integer negative size (base == 10) (some t.name), rest)
      else none

/-- Read an integer behind its sign. -/
def integer? (negative : Bool) : List Char → Option (Numeral × List Char)
  | '0' :: 'b' :: rest => integerBody negative 2 rest
  | '0' :: 'o' :: rest => integerBody negative 8 rest
  | '0' :: 'x' :: rest => integerBody negative 16 rest
  | cs => integerBody negative 10 cs

/-- Drop the underscores of a decimal.  One may stand behind a digit or an exponent's letter
and behind another underscore there, but not behind a point. -/
def dropUnderscores (allowed : Bool) : List Char → Option (List Char)
  | [] => some []
  | c :: rest =>
    if c == '_' then
      if allowed then dropUnderscores allowed rest else none
    else
      let allowed := if c == '.' then false
        else if c.isDigit || c == 'e' || c == 'E' then true else allowed
      (dropUnderscores allowed rest).map (c :: ·)

/-- Read an exponent without its letter. -/
def exponent? (cs : List Char) : Option Int :=
  let (negative, digits) := match cs with
    | '-' :: rest => (true, rest)
    | '+' :: rest => (false, rest)
    | _ => (false, cs)
  if digits.isEmpty || !digits.all Char.isDigit then none
  else some (if negative then -(decimalValue digits : Int) else decimalValue digits)

/-- Read a decimal without its sign. -/
def decimalBody (cs : List Char) : Option (Nat × Int) :=
  let whole := cs.takeWhile Char.isDigit
  let cs := cs.dropWhile Char.isDigit
  let (fraction, cs) := match cs with
    | '.' :: rest => (rest.takeWhile Char.isDigit, rest.dropWhile Char.isDigit)
    | _ => ([], cs)
  if whole.isEmpty && fraction.isEmpty then
    none
  else
    let power := match cs with
      | [] => some 0
      | c :: rest => if c == 'e' || c == 'E' then exponent? rest else none
    power.map fun p => (decimalValue (whole ++ fraction), p - fraction.length)

/-- The types that can stand behind a decimal. -/
def floatTypes : List String := ["f32", "f64"]

/-- Read a decimal with its sign. -/
def decimal? (cs : List Char) : Option (Numeral × List Char) := do
  let written := decimalChars cs
  let rest := cs.drop written.length
  let plain ← dropUnderscores false written
  let (negative, size) := match plain with
    | '-' :: size => (true, size)
    | '+' :: size => (false, size)
    | _ => (false, plain)
  let (digits, power) ← decimalBody size
  match floatTypes.findSome? fun t => (word? t.toList rest).map (t, ·) with
  | some (t, rest) => some (.decimal negative digits power (some t), rest)
  | none => some (.decimal negative digits power none, rest)

/-- The words for numbers without digits, and the numbers. -/
def numberWords (negative : Bool) : List (String × Numeral) :=
  (none :: floatTypes.map some).flatMap fun t =>
    [("inf" ++ t.getD "", .infinite negative t), ("NaN" ++ t.getD "", .nan t)]

/-- Read a word for a number without digits. -/
def numberWord? (negative : Bool) (cs : List Char) : Option (Numeral × List Char) :=
  (numberWords negative).findSome? fun w => (word? w.1.toList cs).map (w.2, ·)

/-- Read a number.  What could be an integer and a decimal is an integer where that is
possible. -/
def number? (cs : List Char) : Option (Numeral × List Char) :=
  let (negative, size) := match cs with
    | '-' :: rest => (true, rest)
    | '+' :: rest => (false, rest)
    | _ => (false, cs)
  match numberWord? negative size with
  | some found => some found
  | none =>
    -- the letter of an exponent is a hexadecimal digit too, so the length alone does not tell
    if (size.takeWhile isIntegerChar).length < (decimalChars size).length then
      decimal? cs
    else
      match integer? negative size with
      | some found => some found
      | none => decimal? cs

/-! ### Texts -/

/-- Two hexadecimal digits. -/
def hexByte? : List Char → Option (Nat × List Char)
  | a :: b :: rest =>
    if isHexChar a && isHexChar b then some (hexValue a * 16 + hexValue b, rest) else none
  | _ => none

/-- The character with a number. -/
def charOf? (n : Nat) : Option Char :=
  if n.isValidChar then some (Char.ofNat n) else none

/-- Read a character by its number in braces, behind the letter u. -/
def braced? : List Char → Option (Char × List Char)
  | '{' :: rest =>
    let digits := (rest.take 6).takeWhile isHexChar
    match rest.drop digits.length with
    | '}' :: rest =>
      if digits.isEmpty then none
      else (charOf? (digits.foldl (fun n c => 16 * n + hexValue c) 0)).map (·, rest)
    | _ => none
  | _ => none

/-- The character that a letter behind a backslash stands for. -/
def simpleEscape? : Char → Option Char
  | '\'' => some '\''
  | '"' => some '"'
  | '\\' => some '\\'
  | 'n' => some '\n'
  | 'r' => some '\r'
  | 't' => some '\t'
  | '0' => some (Char.ofNat 0)
  | _ => none

/-- Up to `n` more bytes of a character, each written behind a backslash and the letter x. -/
def moreBytes : Nat → List Char → List UInt8
  | n + 1, '\\' :: 'x' :: rest =>
    match hexByte? rest with
    | some (b, rest) => b.toUInt8 :: moreBytes n rest
    | none => []
  | _, _ => []

/-- The character that the shortest valid start of some bytes encodes, and the number of its
bytes. -/
def decodeFirst? (bytes : List UInt8) : Option (Char × Nat) :=
  (List.range bytes.length).findSome? fun n =>
    match String.fromUTF8? (ByteArray.mk (bytes.take (n + 1)).toArray) with
    | some s => match s.toList with
      | [c] => some (c, n + 1)
      | _ => none
    | none => none

/-- Read a character by its bytes, behind the letter x.  A character beyond ASCII is written
as all the bytes of its encoding. -/
def bytes? (cs : List Char) : Option (Char × List Char) := do
  let (b, rest) ← hexByte? cs
  let (c, n) ← decodeFirst? (b.toUInt8 :: moreBytes 3 rest)
  return (c, rest.drop (4 * (n - 1)))

/-- Read what stands behind a backslash: a character, or nothing for the end of a line, which
is skipped together with the blanks that follow. -/
def escape? : List Char → Option (Option Char × List Char)
  | 'u' :: rest => (braced? rest).map fun p => (some p.1, p.2)
  | 'x' :: rest => (bytes? rest).map fun p => (some p.1, p.2)
  | '\n' :: rest => some (none, rest.dropWhile Char.isWhitespace)
  | '\r' :: '\n' :: rest => some (none, rest.dropWhile Char.isWhitespace)
  | c :: rest => (simpleEscape? c).map fun e => (some e, rest)
  | [] => none

/-- Read a text up to its closing quote; the characters gathered so far are in reverse. -/
def textBody : Nat → List Char → List Char → Option (String × List Char)
  | 0, _, _ => none
  | _ + 1, _, [] => none
  | n + 1, acc, c :: rest =>
    if c = '"' then
      some (String.ofList acc.reverse, rest)
    else if c = '\\' then
      match escape? rest with
      | some (some e, rest) => textBody n (e :: acc) rest
      | some (none, rest) => textBody n acc rest
      | none => none
    else
      textBody n (c :: acc) rest

/-- Read a text up to a closing mark, without escapes. -/
def verbatim (closing : List Char) (acc : List Char) : List Char → Option (String × List Char)
  | [] => none
  | c :: rest =>
    if closing.isPrefixOf (c :: rest) then
      some (String.ofList acc.reverse, (c :: rest).drop closing.length)
    else verbatim closing (c :: acc) rest

/-- Read a raw text behind its letter: some marks, a quote, the text, a quote and the same
marks. -/
def rawText? (cs : List Char) : Option (String × List Char) :=
  let hashes := cs.takeWhile (· == '#')
  match cs.dropWhile (· == '#') with
  | '"' :: rest => verbatim ('"' :: hashes) [] rest
  | _ => none

/-- Read a character behind a quote, and its closing quote.  A byte can only stand for an ASCII
character here. -/
def quotedChar? : List Char → Option (Char × List Char)
  | '\\' :: 'x' :: rest =>
    match hexByte? rest with
    | some (b, '\'' :: rest) => if b < 0x80 then some (Char.ofNat b, rest) else none
    | _ => none
  | '\\' :: rest =>
    match escape? rest with
    | some (some c, '\'' :: rest) => some (c, rest)
    | _ => none
  | c :: '\'' :: rest => some (c, rest)
  | _ => none

/-- Read a text of bytes up to its closing quote.  It has the escapes of a text, but a number
behind the letter x is a byte on its own. -/
def byteText : Nat → List Char → Option (List Char)
  | 0, _ => none
  | _ + 1, [] => none
  | n + 1, c :: rest =>
    if c = '"' then
      some rest
    else if c = '\\' then
      match rest with
      | 'x' :: rest => (hexByte? rest).bind fun p => byteText n p.2
      | _ => (escape? rest).bind fun p => byteText n p.2
    else
      byteText n rest

/-- Read a single byte behind a quote, and its closing quote. -/
def byte? : List Char → Option (Nat × List Char)
  | '\\' :: 'x' :: a :: b :: '\'' :: rest =>
    if isHexChar a && isHexChar b then some (hexValue a * 16 + hexValue b, rest) else none
  | '\\' :: c :: '\'' :: rest => (simpleEscape? c).map fun e => (e.toNat, rest)
  | c :: '\'' :: rest => if c.toNat < 0x80 ∧ c ≠ '\\' then some (c.toNat, rest) else none
  | _ => none

/-! ### Ranges -/

/-- Read an end of a range, a number or a byte; what is left behind it. -/
def bound? : List Char → Option (List Char)
  | 'b' :: '\'' :: rest => (byte? rest).map (·.2)
  | cs => (number? cs).map (·.2)

/-- Read a range; what is left behind it.  Each end may be left out, but a range that includes
its end has to name it. -/
def range? (cs : List Char) : Option (List Char) :=
  match (bound? cs).getD cs with
  | '.' :: '.' :: '=' :: rest => bound? rest
  | '.' :: '.' :: rest => some ((bound? rest).getD rest)
  | _ => none

/-! ### Cutting a text -/

/-- A character that may stand in a raw identifier. -/
def isRawPart (c : Char) : Bool :=
  Text.isIdentifierPart c || c == '.' || c == '+' || c == '-'

/-- The marks that are tokens on their own. -/
def marks : List Char := ['(', ')', '[', ']', '{', '}', ',', ':', '#', '!', '=']

/-- Read one token that is no range. -/
def single? (cs : List Char) : Option (Token × List Char) :=
  match cs with
  | [] => none
  | '"' :: rest => (textBody (rest.length + 1) [] rest).map fun p => (.text p.1, p.2)
  | '(' :: ')' :: rest => some (.unit, rest)
  | '\'' :: rest => (quotedChar? rest).map fun p => (.foreign, p.2)
  | 'b' :: '\'' :: rest =>
    (byte? rest).map fun p => (.number (.integer false p.1 false (some "u8")), p.2)
  | 'b' :: '"' :: rest => (byteText (rest.length + 1) rest).map fun r => (.foreign, r)
  | 'b' :: 'r' :: '"' :: rest => (rawText? ('"' :: rest)).map fun p => (.foreign, p.2)
  | 'b' :: 'r' :: '#' :: rest => (rawText? ('#' :: rest)).map fun p => (.foreign, p.2)
  | 'r' :: '"' :: rest => (rawText? ('"' :: rest)).map fun p => (.text p.1, p.2)
  | 'r' :: '#' :: rest =>
    match rest with
    | '"' :: _ => (rawText? ('#' :: rest)).map fun p => (.text p.1, p.2)
    | '#' :: _ => (rawText? ('#' :: rest)).map fun p => (.text p.1, p.2)
    | _ =>
      let name := rest.takeWhile isRawPart
      if name.isEmpty then none
      else some (.identifier (String.ofList name) true, rest.dropWhile isRawPart)
  | c :: rest =>
    if marks.contains c then
      some (.mark c, rest)
    else if Text.isIdentifierStart c then
      some (.identifier (String.ofList (c :: rest.takeWhile Text.isIdentifierPart)) false,
        rest.dropWhile Text.isIdentifierPart)
    else if c.isDigit || c == '+' || c == '-' || c == '.' then
      (number? cs).map fun p => (.number p.1, p.2)
    else
      none

/-- Read one token. -/
def next? (cs : List Char) : Option (Token × List Char) :=
  match range? cs with
  | some rest => some (.foreign, rest)
  | none => single? cs

/-- Cut a text, with at most `n` steps. -/
def cut : Nat → List Char → Option (List Token)
  | 0, _ => none
  | _ + 1, [] => some []
  | n + 1, c :: rest =>
    if isBlank c then
      cut n rest
    else if c == '/' then
      match rest with
      | '/' :: rest => cut n (rest.dropWhile (· != '\n'))
      | '*' :: rest => (skipComment 1 rest).bind (cut n)
      | _ => none
    else do
      let (t, rest) ← next? (c :: rest)
      let ts ← cut n rest
      return t :: ts

end Token

/-- The tokens of a whole text. -/
def tokens? (text : String) : Option (List Token) :=
  let cs := text.toList
  Token.cut (cs.length + 1) cs

end Reckoning.Ron
