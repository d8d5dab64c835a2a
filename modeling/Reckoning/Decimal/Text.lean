import Reckoning.Decimal.Shortest

/-!
# Written numbers

How a double is written: with the fewest digits that read back, or with a fixed number of
places.

* `Layout` holds what one way of writing decides: where positional notation ends and whether
  an integer keeps a point.  `Layout.plain`, `Layout.pointed` and `Layout.compact` are the
  three in use.
* `Layout.write` writes the shortest digits; `writeFixed` rounds to a number of places.
-/

namespace Reckoning.Decimal

/-- What one way of writing a double decides. -/
structure Layout where
  /-- The least and the largest place of the point, counted from the first digit, at which the
  number is written without an exponent; none means at every place. -/
  positional : Option (Int × Int)
  /-- An integer keeps a point and a zero. -/
  point : Bool

/-- Positional at any length, an integer without a point. -/
def Layout.plain : Layout := ⟨none, false⟩

/-- Positional from `0.0001` to below `10 ^ 16`, with an exponent elsewhere. -/
def Layout.pointed : Layout := ⟨some (-3, 16), true⟩

/-- Positional from `0.00001` to below `10 ^ 16`, with an exponent elsewhere. -/
def Layout.compact : Layout := ⟨some (-4, 16), true⟩

/-- Some zeros. -/
def zeros (n : Nat) : List Char := List.replicate n '0'

/-- The digits of a natural number. -/
def digitChars (n : Nat) : List Char := Nat.toDigits 10 n

/-- Positional notation, with the point after `place` digits. -/
def placePoint (keepPoint : Bool) (digits : List Char) (place : Int) : List Char :=
  if place ≤ 0 then
    '0' :: '.' :: (zeros place.natAbs ++ digits)
  else if digits.length ≤ place.natAbs then
    digits ++ zeros (place.natAbs - digits.length) ++ (if keepPoint then ['.', '0'] else [])
  else
    digits.take place.natAbs ++ '.' :: digits.drop place.natAbs

/-- One digit before the point, then the exponent. -/
def exponential (digits : List Char) (place : Int) : List Char :=
  let mantissa := match digits with
    | [] => []
    | [d] => [d]
    | d :: rest => d :: '.' :: rest
  mantissa ++ 'e' :: (toString (place - 1)).toList

/-- Write a decimal. -/
def Layout.writeDecimal (l : Layout) (d : Scientific) : List Char :=
  let digits := digitChars d.digits
  let place := d.power + digits.length
  match l.positional with
  | none => placePoint l.point digits place
  | some (least, most) =>
    if least ≤ place ∧ place ≤ most then placePoint l.point digits place
    else exponential digits place

/-- The sign in front of a text. -/
def signed (negative : Bool) (text : List Char) : String :=
  String.ofList (if negative then '-' :: text else text)

/-- Write a double with the fewest digits that read back. -/
def Layout.write (l : Layout) (x : Float) : String :=
  let d := Double.ofFloat x
  match d.size with
  | .nan => "NaN"
  | .infinite => signed d.negative "inf".toList
  | .finite 0 _ => signed d.negative (if l.point then ['0', '.', '0'] else ['0'])
  | .finite m e => signed d.negative (l.writeDecimal (shortest m e))

/-- The integer nearest to a quotient; a half goes to the even neighbour. -/
def Ratio.round (r : Ratio) : Nat :=
  let below := r.num / r.den
  let rest := r.num % r.den
  if r.den < 2 * rest || (r.den == 2 * rest && below % 2 == 1) then below + 1 else below

/-- Write a double with a fixed number of places. -/
def writeFixed (places : Nat) (x : Float) : String :=
  let d := Double.ofFloat x
  match d.size with
  | .nan => "NaN"
  | .infinite => signed d.negative "inf".toList
  | .finite m e =>
    let v := Ratio.scaled m 2 e
    let n := Ratio.round ⟨v.num * Nat.pow 10 places, v.den⟩
    let digits := digitChars n
    let padded := zeros (places + 1 - digits.length) ++ digits
    let whole := padded.length - places
    signed d.negative (padded.take whole ++
      (if places = 0 then [] else '.' :: padded.drop whole))

end Reckoning.Decimal
