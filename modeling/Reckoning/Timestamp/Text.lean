import Reckoning.Text.Blank
import Reckoning.Timestamp
import Reckoning.Timestamp.Calendar

/-!
# Written moments

A moment is written as a date, the letter T, a time and the letter Z, with as many digits
behind the second as it needs, in groups of three.

* `Timestamp.write` writes a moment.
* `Timestamp.read?` reads one.  It also takes a blank or a small t between date and time,
  blanks in front of numbers and separators, numbers without their leading zeros, and an
  offset from universal time.
-/

namespace Reckoning

namespace Timestamp

/-- The first year of the calendar in use. -/
def leastYear : Int := -262143

/-- The last year of the calendar in use. -/
def mostYear : Int := 262142

/-- The seconds of a day. -/
def secondsPerDay : Int := 86400

/-- The nanoseconds of a second. -/
def nanosPerSecond : Nat := 1000000000

/-! ### Writing -/

/-- A number with zeros in front, up to a width. -/
def padded (width n : Nat) : String :=
  let digits := toString n
  String.ofList (List.replicate (width - digits.length) '0') ++ digits

/-- A year: four digits, with a sign outside the years of four digits. -/
def yearText (year : Int) : String :=
  if 0 ≤ year ∧ year ≤ 9999 then padded 4 year.natAbs
  else (if year < 0 then "-" else "+") ++ padded 4 year.natAbs

/-- The digits behind a second. -/
def nanosText (nanos : Nat) : String :=
  if nanos == 0 then ""
  else if nanos % 1000000 == 0 then "." ++ padded 3 (nanos / 1000000)
  else if nanos % 1000 == 0 then "." ++ padded 6 (nanos / 1000)
  else "." ++ padded 9 nanos

/-- Write a moment. -/
def write (t : Timestamp) : String :=
  let date := Date.ofDay (t.seconds / secondsPerDay)
  let time := (t.seconds % secondsPerDay).toNat
  let leap := nanosPerSecond ≤ t.nanos
  let second := time % 60 + (if leap then 1 else 0)
  let nanos := if leap then t.nanos - nanosPerSecond else t.nanos
  yearText date.year ++ "-" ++ padded 2 date.month ++ "-" ++ padded 2 date.day
    ++ "T" ++ padded 2 (time / 3600) ++ ":" ++ padded 2 (time / 60 % 60) ++ ":"
    ++ padded 2 second ++ nanosText nanos ++ "Z"

/-! ### Reading -/

/-- The number that some digits write. -/
def decimal (cs : List Char) : Nat :=
  cs.foldl (fun n c => 10 * n + (c.toNat - '0'.toNat)) 0

/-- Read a number of at least one and at most `width` digits. -/
def digitsUpTo (width : Nat) (cs : List Char) : Option (Nat × List Char) :=
  let ds := (cs.take width).takeWhile Char.isDigit
  if ds.isEmpty then none else some (decimal ds, cs.drop ds.length)

/-- Read a number behind blanks. -/
def field (width : Nat) (cs : List Char) : Option (Nat × List Char) :=
  digitsUpTo width (Text.trimStart cs)

/-- Read a number between two bounds behind blanks. -/
def fieldBetween (least most : Nat) (cs : List Char) : Option (Nat × List Char) := do
  let (n, cs) ← field 2 cs
  if least ≤ n ∧ n ≤ most then some (n, cs) else none

/-- Read a year behind blanks: up to four digits, or a sign and any number of digits. -/
def year (cs : List Char) : Option (Int × List Char) :=
  match Text.trimStart cs with
  | '-' :: rest => (digitsUpTo rest.length rest).map fun p => (-(p.1 : Int), p.2)
  | '+' :: rest => (digitsUpTo rest.length rest).map fun p => ((p.1 : Int), p.2)
  | rest => (digitsUpTo 4 rest).map fun p => ((p.1 : Int), p.2)

/-- Read a separator behind blanks. -/
def separator (c : Char) (cs : List Char) : Option (List Char) :=
  match Text.trimStart cs with
  | d :: rest => if d = c then some rest else none
  | [] => none

/-- Read the digits behind a second.  Digits past the ninth are dropped. -/
def nanosField : List Char → Option (Nat × List Char)
  | '.' :: cs => do
    let ds := (cs.take 9).takeWhile Char.isDigit
    if ds.isEmpty then
      none
    else
      some (decimal ds * Nat.pow 10 (9 - ds.length), (cs.drop ds.length).dropWhile Char.isDigit)
  | cs => some (0, cs)

/-- Read two digits. -/
def twoDigits : List Char → Option (Nat × List Char)
  | a :: b :: rest => if a.isDigit && b.isDigit then some (decimal [a, b], rest) else none
  | _ => none

/-- Read the sign of an offset. -/
def offsetSign : List Char → Option (Bool × List Char)
  | '+' :: rest => some (false, rest)
  | '-' :: rest => some (true, rest)
  | '−' :: rest => some (true, rest)
  | _ => none

/-- Read hours and minutes of an offset, in seconds. -/
def offsetBody (cs : List Char) : Option (Int × List Char) := do
  let (negative, cs) ← offsetSign cs
  let (hours, cs) ← twoDigits cs
  let (minutes, cs) ← twoDigits (cs.dropWhile fun c => c == ':' || Text.isBlank c)
  let seconds : Int := hours * 3600 + minutes * 60
  if minutes ≤ 59 ∧ seconds < secondsPerDay then
    some (if negative then -seconds else seconds, cs)
  else
    none

/-- Read an offset from universal time: a letter Z, the letters UTC, or hours and minutes. -/
def offset (cs : List Char) : Option (Int × List Char) :=
  match cs with
  | 'Z' :: rest => some (0, rest)
  | 'z' :: rest => some (0, rest)
  | a :: b :: c :: rest =>
    if a.toLower = 'u' ∧ b.toLower = 't' ∧ c.toLower = 'c' then some (0, rest)
    else offsetBody cs
  | _ => offsetBody cs

/-- Read a moment. -/
def read? (text : String) : Option Timestamp := do
  let (year, cs) ← year text.toList
  let cs ← separator '-' cs
  let (month, cs) ← fieldBetween 1 12 cs
  let cs ← separator '-' cs
  let (day, cs) ← fieldBetween 1 31 cs
  let cs ← match cs with
    | c :: rest => if c = 'T' ∨ c = 't' ∨ c = ' ' then some rest else none
    | [] => none
  let (hour, cs) ← fieldBetween 0 23 cs
  let cs ← separator ':' cs
  let (minute, cs) ← fieldBetween 0 59 cs
  let cs ← separator ':' cs
  let (second, cs) ← fieldBetween 0 60 cs
  let (nanos, cs) ← nanosField cs
  let (offset, cs) ← offset (Text.trimStart cs)
  let date : Date := ⟨year, month, day⟩
  if !Text.allBlank cs || !date.isValid then
    none
  else
    let leap := second == 60
    let time : Int := hour * 3600 + minute * 60 + (if leap then 59 else second)
    let seconds := date.toDay * secondsPerDay + time - offset
    let inUse := (Date.ofDay (seconds / secondsPerDay)).year
    if leastYear ≤ inUse ∧ inUse ≤ mostYear ∧ leastYear ≤ year ∧ year ≤ mostYear then
      some ⟨seconds, if leap then nanos + nanosPerSecond else nanos⟩
    else
      none

end Timestamp

end Reckoning
