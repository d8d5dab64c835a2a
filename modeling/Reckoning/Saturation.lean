/-!
# Saturating sums

Points on an axis are integers that stay within 32 signed bits.  A sum that would leave the
range stops at its bound.

* `saturate` is the nearest integer inside the range.
* `saturate_of_inRange`: inside the range nothing is lost.
-/

namespace Reckoning

/-- The smallest number of points. -/
def leastPoints : Int := -2147483648

/-- The largest number of points. -/
def mostPoints : Int := 2147483647

/-- The nearest integer between `leastPoints` and `mostPoints`. -/
def saturate (n : Int) : Int := max leastPoints (min n mostPoints)

/-- An integer that `saturate` keeps. -/
def InRange (n : Int) : Prop := leastPoints ≤ n ∧ n ≤ mostPoints

instance (n : Int) : Decidable (InRange n) := inferInstanceAs (Decidable (_ ∧ _))

theorem inRange_saturate (n : Int) : InRange (saturate n) := by
  unfold InRange saturate leastPoints mostPoints
  omega

theorem saturate_of_inRange {n : Int} (h : InRange n) : saturate n = n := by
  unfold InRange leastPoints mostPoints at h
  unfold saturate leastPoints mostPoints
  omega

theorem saturate_mono {m n : Int} (h : m ≤ n) : saturate m ≤ saturate n := by
  unfold saturate leastPoints mostPoints
  omega

end Reckoning
