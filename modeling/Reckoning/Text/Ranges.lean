/-!
# Sets of characters as boundaries

A set of characters is given by the numbers at which a run of members starts or has just
ended, in ascending order.  A character is a member when an odd number of boundaries are not
above it.
-/

namespace Reckoning.Text

/-- Membership in the set that some boundaries give. -/
def withinRanges (boundaries : Array Nat) (c : Char) : Bool :=
  (boundaries.filter (· ≤ c.toNat)).size % 2 == 1

theorem withinRanges_pair {low high : Nat} (h : low ≤ high) (c : Char) :
    withinRanges #[low, high] c = decide (low ≤ c.toNat ∧ c.toNat < high) := by
  by_cases h1 : low ≤ c.toNat <;> by_cases h2 : high ≤ c.toNat <;>
    simp [withinRanges, Array.filter, h1, h2] <;> omega

end Reckoning.Text
