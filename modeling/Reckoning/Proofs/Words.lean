import Mathlib.Algebra.Order.Group.Int
import Reckoning.Saturation

/-!
# Arithmetic in words

Words hold only some of the numbers.  To say that nothing overflows on the way to a result, it is
computed a second time, with a check at every step.

* `word?` gives up where a signed word does not hold a number, `natural?` where an unsigned one does
  not, and `remainder?` where it would divide by zero.
-/

namespace Reckoning

/-- A number, if a signed word of so many bits holds it. -/
def word? (bits : Nat) (n : Int) : Option Int :=
  if -2 ^ (bits - 1) ≤ n ∧ n < 2 ^ (bits - 1) then some n else none

/-- A number, if an unsigned word of so many bits holds it. -/
def natural? (bits : Nat) (n : Int) : Option Nat :=
  if 0 ≤ n ∧ n < 2 ^ bits then some n.toNat else none

/-- A remainder, unless it is by zero. -/
def remainder? (n d : Nat) : Option Nat := if d = 0 then none else some (n % d)

theorem word?_eq {bits : Nat} {n : Int} (hl : -2 ^ (bits - 1) ≤ n) (hm : n < 2 ^ (bits - 1)) :
    word? bits n = some n :=
  if_pos ⟨hl, hm⟩

theorem word?_of_inRange {n : Int} (h : InRange n) : word? 32 n = some n := by
  unfold InRange leastPoints mostPoints at h
  exact word?_eq (by omega) (by omega)

theorem natural?_eq {bits : Nat} {n : Int} (h0 : 0 ≤ n) (hm : n < 2 ^ bits) :
    natural? bits n = some n.toNat :=
  if_pos ⟨h0, hm⟩

theorem natural?_eq_none {bits : Nat} {n : Int} (hm : 2 ^ bits ≤ n) : natural? bits n = none :=
  if_neg fun h => Int.not_lt.2 hm h.2

theorem remainder?_eq {n d : Nat} (hd : 0 < d) : remainder? n d = some (n % d) :=
  if_neg (Nat.ne_of_gt hd)

end Reckoning
