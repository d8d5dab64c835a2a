import Reckoning.Timestamp

/-!
# Periods

A period of time contains both of its ends.  An end that is missing leaves it open.
-/

namespace Reckoning

/-- A period of time. -/
structure Period where
  first : Option Timestamp
  last : Option Timestamp
deriving DecidableEq, Repr

namespace Period

/-- All of time. -/
def always : Period := ⟨none, none⟩

/-- A moment lies in the period. -/
def contains (p : Period) (t : Timestamp) : Bool :=
  p.first.all (·.atMost t) && p.last.all (t.atMost ·)

@[simp] theorem contains_always (t : Timestamp) : always.contains t = true := rfl

end Period

end Reckoning
