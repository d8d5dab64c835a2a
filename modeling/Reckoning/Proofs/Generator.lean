import Reckoning.Generator

/-!
# How far a generator goes

Whatever is drawn, the generator goes on by as many words as the draw takes: one for a number with
some room, none for a number without, and one less than there are elements for a shuffle.

* `Generator.advance` is the generator after some words; `advance_advance` adds them up.
* `between_of_lt` and `between_of_le` are the two ways in which a number is drawn.
* `snd_between_of_lt`, `snd_swapIndices` and their siblings count the words of every draw.
-/

namespace Reckoning

namespace Generator

/-- The generator after some words are drawn. -/
def advance (g : Generator) : Nat → Generator
  | 0 => g
  | n + 1 => g.next.2.advance n

@[simp] theorem advance_zero (g : Generator) : g.advance 0 = g := rfl

@[simp] theorem advance_advance (g : Generator) (m n : Nat) :
    (g.advance m).advance n = g.advance (m + n) := by
  induction m generalizing g with
  | zero => rw [advance_zero, Nat.zero_add]
  | succ m ih =>
    rw [Nat.succ_add]
    exact ih g.next.2

@[simp] theorem snd_fraction (g : Generator) : g.fraction.2 = g.advance 1 := rfl

@[simp] theorem snd_below (g : Generator) (n : Nat) : (g.below n).2 = g.advance 1 := rfl

theorem between_of_lt (g : Generator) {low high : Int} (h : low < high) :
    g.between low high =
      (low + ((g.next.1.toNat % (high - low + 1).toNat : Nat) : Int), g.advance 1) := by
  unfold between
  rw [if_neg (Int.not_le.2 h)]
  rfl

theorem between_of_le (g : Generator) {low high : Int} (h : high ≤ low) :
    g.between low high = (low, g) := by
  unfold between
  exact if_pos h

theorem snd_between_of_lt (g : Generator) {low high : Int} (h : low < high) :
    (g.between low high).2 = g.advance 1 := by
  rw [g.between_of_lt h]

theorem pickBetween_of_lt (g : Generator) {low high : Nat} (h : low < high) :
    g.pickBetween low high = (low + g.next.1.toNat % (high - low + 1), g.advance 1) := by
  unfold pickBetween
  rw [if_neg (Nat.not_le.2 h)]
  rfl

theorem pickBetween_of_le (g : Generator) {low high : Nat} (h : high ≤ low) :
    g.pickBetween low high = (low, g) := by
  unfold pickBetween
  exact if_pos h

theorem snd_swapIndices (n : Nat) (g : Generator) : (swapIndices n g).2 = g.advance (n - 1) := by
  induction n generalizing g with
  | zero => rfl
  | succ n ih =>
    cases n with
    | zero => rfl
    | succ n =>
      change (swapIndices (n + 1) (g.below (n + 2)).2).2 = g.advance (n + 1)
      rw [ih, snd_below, advance_advance, Nat.add_sub_cancel, Nat.add_comm]

theorem snd_shuffle {α : Type} (g : Generator) (xs : List α) :
    (g.shuffle xs).2 = g.advance (xs.length - 1) :=
  snd_swapIndices xs.length g

end Generator

end Reckoning
