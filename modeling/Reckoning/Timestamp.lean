/-!
# Moments

A moment is counted in seconds from the start of 1970 in universal time, with its nanoseconds
beside it.  During a leap second the second of the minute before it goes on, so the
nanoseconds then lie between one and two thousand million.

* `Timestamp.epoch` is the start of 1970.
* `Timestamp.atMost` orders moments.
-/

namespace Reckoning

/-- A moment in universal time. -/
structure Timestamp where
  /-- Whole seconds since the start of 1970. -/
  seconds : Int
  /-- Nanoseconds beyond the second. -/
  nanos : Nat
deriving DecidableEq, Repr, Inhabited

namespace Timestamp

/-- The start of 1970. -/
def epoch : Timestamp := ⟨0, 0⟩

/-- The first moment is not later than the second. -/
def atMost (a b : Timestamp) : Bool :=
  a.seconds < b.seconds || (a.seconds == b.seconds && a.nanos ≤ b.nanos)

theorem atMost_refl (a : Timestamp) : a.atMost a := by simp [atMost]

theorem atMost_total (a b : Timestamp) : a.atMost b ∨ b.atMost a := by
  simp only [atMost, Bool.or_eq_true, decide_eq_true_eq, Bool.and_eq_true, beq_iff_eq]
  omega

end Timestamp

end Reckoning
