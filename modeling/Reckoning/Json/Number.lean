import Reckoning.Json.Value
import Reckoning.Decimal.Double

/-!
# Reading JSON numbers

A number without point and exponent that fits into 64 bits is an integer.  Of any other
number the digits are gathered into a 64-bit word as long as it holds them, and the word,
rounded to a double, is multiplied or divided by one power of ten.  Digits that the word
cannot hold are dropped, so a long number may come out as a neighbour of the nearest double.

* `Number.value` is the value of a number that is given by its parts.
-/

namespace Reckoning.Json

/-- The parts of a number. -/
structure Number where
  negative : Bool
  /-- The digits before the point. -/
  whole : List Nat
  /-- The digits behind the point, where there is one. -/
  fraction : Option (List Nat)
  /-- The exponent, where there is one. -/
  exponent : Option Int

namespace Number

/-- The largest word. -/
def mostWord : Nat := 0xFFFFFFFFFFFFFFFF

/-- Gather digits into a word as long as it holds them, and return those that are left. -/
def gather (word : Nat) : List Nat → Nat × List Nat
  | [] => (word, [])
  | d :: rest =>
    if 10 * word + d ≤ mostWord then gather (10 * word + d) rest else (word, d :: rest)

/-- The double nearest to a power of ten. -/
def powerOfTen (n : Nat) : Float := Float.ofScientific 1 false n

/-- The largest power of ten below infinity. -/
def mostPower : Nat := 308

/-- Divide by a power of ten, in steps of the largest one. -/
def divide (x : Float) (n : Nat) : Float :=
  if n ≤ mostPower then
    x / powerOfTen n
  else if x == 0.0 then
    x
  else
    divide (x / powerOfTen mostPower) (n - mostPower)
termination_by n
decreasing_by
  simp only [mostPower] at *
  omega

/-- A word times a power of ten, unless that is beyond every double. -/
def scale (word : Nat) (power : Int) : Option Float :=
  let x := word.toUInt64.toFloat
  if power < 0 then
    some (divide x power.natAbs)
  else if power.natAbs ≤ mostPower then
    let y := x * powerOfTen power.natAbs
    if y.isFinite then some y else none
  else if word = 0 then
    some x
  else
    none

/-- The value of a number. -/
def value (n : Number) : Value :=
  let (word, dropped) := gather 0 n.whole
  let isInteger := n.fraction.isNone && n.exponent.isNone && dropped.isEmpty
  if isInteger && !n.negative then
    .int word
  else if isInteger && 0 < word && word ≤ 0x8000000000000000 then
    .int (-(word : Int))
  else
    let (word, left) := gather word (n.fraction.getD [])
    let taken := (n.fraction.getD []).length - left.length
    let power := (dropped.length : Int) - taken + n.exponent.getD 0
    match scale word power with
    | some x => .real (if n.negative then -x else x)
    | none => .unreadable

end Number

end Reckoning.Json
