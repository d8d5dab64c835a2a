import Reckoning.Decimal.Double

/-!
# Shortest decimals

The decimal with the fewest digits that reads back as a given double.  The reals that read
back as `m * 2 ^ e` form an interval around it, which contains its ends when `m` is even.
For one digit, two digits and so on, the two neighbours of the value on that decimal grid are
tried; the first grid with a neighbour inside the interval wins, and of two the nearer.

* `Interval.contains` is the interval.
* `shortest` is the decimal.
-/

namespace Reckoning.Decimal

/-- A decimal `digits * 10 ^ power`. -/
structure Scientific where
  digits : Nat
  power : Int
deriving DecidableEq, Repr

/-- A quotient of natural numbers. -/
structure Ratio where
  num : Nat
  den : Nat

/-- The value `n * b ^ e`. -/
def Ratio.scaled (n b : Nat) (e : Int) : Ratio :=
  if e < 0 then ⟨n, Nat.pow b e.natAbs⟩ else ⟨n * Nat.pow b e.natAbs, 1⟩

/-- The first quotient is smaller. -/
def Ratio.lt (a b : Ratio) : Bool := a.num * b.den < b.num * a.den

/-- The reals that read back as a double. -/
structure Interval where
  low : Ratio
  high : Ratio
  /-- The ends belong to the interval. -/
  closed : Bool

namespace Interval

/-- The interval of the double `m * 2 ^ e`.  Below a power of two the neighbours are half as
far apart as above it. -/
def around (m : Nat) (e : Int) : Interval where
  low :=
    if m == Double.leadingBit && Double.leastExponent < e then
      .scaled (4 * m - 1) 2 (e - 2)
    else
      .scaled (2 * m - 1) 2 (e - 1)
  high := .scaled (2 * m + 1) 2 (e - 1)
  closed := m % 2 == 0

/-- The interval contains a value. -/
def contains (i : Interval) (r : Ratio) : Bool :=
  if i.closed then !r.lt i.low && !i.high.lt r else i.low.lt r && r.lt i.high

end Interval

/-- The largest `p` with `10 ^ p` not above a value. -/
def leadingPower (v : Ratio) : Int :=
  if v.den ≤ v.num then
    (Double.digitCount (v.num / v.den) : Int) - 1
  else
    -(Double.digitCount ((v.den - 1) / v.num) : Int)

/-- The neighbours of a value on the grid of multiples of `10 ^ power`: of those that lie in
the interval, the nearer one. -/
def onGrid (i : Interval) (v : Ratio) (power : Int) : Option Scientific :=
  let unit : Ratio := if power < 0 then ⟨v.num * Nat.pow 10 power.natAbs, v.den⟩
    else ⟨v.num, v.den * Nat.pow 10 power.natAbs⟩
  let below := unit.num / unit.den
  let rest := unit.num % unit.den
  let lowerFits := i.contains (.scaled below 10 power)
  let upperFits := i.contains (.scaled (below + 1) 10 power)
  let upperIsNearer :=
    unit.den < 2 * rest || (unit.den == 2 * rest && below % 2 == 1)
  match lowerFits, upperFits with
  | true, true => some ⟨if upperIsNearer then below + 1 else below, power⟩
  | true, false => some ⟨below, power⟩
  | false, true => some ⟨below + 1, power⟩
  | false, false => none

/-- Seventeen digits suffice for every double. -/
def mostDigits : Nat := 17

/-- Move zeros at the end of the digits into the power. -/
def Scientific.trimmed (d : Scientific) : Scientific :=
  go d.digits d.power (Double.digitCount d.digits)
where
  /-- At most `n` zeros are moved. -/
  go (digits : Nat) (power : Int) : Nat → Scientific
    | 0 => ⟨digits, power⟩
    | n + 1 => if digits % 10 == 0 then go (digits / 10) (power + 1) n else ⟨digits, power⟩

/-- The shortest decimal that reads back as the double `m * 2 ^ e`, for `m` above zero. -/
def shortest (m : Nat) (e : Int) : Scientific :=
  let v := Ratio.scaled m 2 e
  let i := Interval.around m e
  let lead := leadingPower v
  match (List.range mostDigits).findSome? fun (n : Nat) => onGrid i v (lead - n) with
  | some d => d.trimmed
  | none => ⟨0, 0⟩

end Reckoning.Decimal
