/-!
# Doubles in exact arithmetic

A finite double is an integer times a power of two, which exact arithmetic can work on.

* `Double.ofFloat` takes a float apart.
* `Double.ofDecimal` is the double nearest to an integer times a power of ten.
-/

namespace Reckoning.Decimal

/-- The size of a float. -/
inductive Size
  | nan
  | infinite
  /-- The value `mantissa * 2 ^ exponent`. -/
  | finite (mantissa : Nat) (exponent : Int)
deriving DecidableEq, Repr

/-- A float, taken apart. -/
structure Double where
  negative : Bool
  size : Size
deriving DecidableEq, Repr

namespace Double

/-- The leading bit of a full mantissa. -/
def leadingBit : Nat := 0x10000000000000

/-- The exponent of the smallest double above zero. -/
def leastExponent : Int := -1074

/-- Take a float apart. -/
def ofFloat (x : Float) : Double :=
  let bits := x.toBits.toNat
  let fraction := bits % leadingBit
  let field : Nat := bits / leadingBit % 2048
  ⟨bits / 0x8000000000000000 == 1,
    if field == 2047 then
      if fraction == 0 then .infinite else .nan
    else if field == 0 then
      .finite fraction leastExponent
    else
      .finite (leadingBit + fraction) (leastExponent + ((field : Int) - 1))⟩

/-- Beyond these powers of ten every double is infinite or zero. -/
def mostPower : Int := 400

/-- The number of decimal digits of a natural number. -/
def digitCount (n : Nat) : Nat := (Nat.toDigits 10 n).length

/-- The double nearest to `digits * 10 ^ power`, with the sign. -/
def ofDecimal (negative : Bool) (digits : Nat) (power : Int) : Float :=
  let size : Float :=
    if digits = 0 then 0.0
    else if power > mostPower then Float.ofBits 0x7FF0000000000000
    else if power + digitCount digits < -mostPower then 0.0
    else Float.ofScientific digits (power < 0) power.natAbs
  if negative then -size else size

/-- Infinity, with the sign. -/
def infinity (negative : Bool) : Float :=
  Float.ofBits (if negative then 0xFFF0000000000000 else 0x7FF0000000000000)

/-- The value that no number equals. -/
def notANumber : Float := Float.ofBits 0x7FF8000000000000

end Double

end Reckoning.Decimal
