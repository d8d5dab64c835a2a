import Mathlib.Tactic.SplitIfs
import Reckoning.Proofs.Draws
import Reckoning.Proofs.Words

/-!
# Draws between two bounds

A number is drawn from a range by the remainder of a word by the number of choices, counted from the
lower bound.

* `Generator.betweenInWords?` draws an integer of 32 bits, with words of 64 bits on the way.
  `Generator.betweenInWords?_eq`: no number on the way is too large for its word.
* `Generator.pickInWords?` draws a word, with words as large on the way.
  `Generator.picks_within`: that works for all ranges but one, since the range of all words has one
  choice more than a word can count.
-/

namespace Reckoning

namespace Generator

/-! ### Integers -/

/-- Draw an integer in words. -/
def betweenInWords? (g : Generator) (low high : Int) : Option (Int × Generator) :=
  if high ≤ low then
    some (low, g)
  else do
    let width ← word? 64 (high - low)
    let count ← word? 64 (width + 1)
    let choices ← natural? 64 count
    let k ← remainder? g.next.1.toNat choices
    let k ← word? 64 k
    let n ← word? 64 (low + k)
    let n ← word? 32 n
    return (n, g.next.2)

/-- **Nothing overflows on the way to an integer of 32 bits**, even if it is drawn from all of
them. -/
theorem betweenInWords?_eq (g : Generator) {low high : Int} (hl : InRange low) (hm : InRange high) :
    g.betweenInWords? low high = some (g.between low high) := by
  unfold betweenInWords?
  split_ifs with h
  · rw [between_of_le g h]
  · unfold InRange leastPoints mostPoints at hl hm
    have hlt : low < high := Int.not_le.1 h
    rw [between_of_lt g hlt]
    have hk : g.next.1.toNat % (high - low + 1).toNat < (high - low + 1).toNat :=
      Nat.mod_lt _ (by omega)
    generalize hkdef : g.next.1.toNat % (high - low + 1).toNat = k at hk ⊢
    have hwidth : word? 64 (high - low) = some (high - low) := word?_eq (by omega) (by omega)
    have hcount : word? 64 (high - low + 1) = some (high - low + 1) :=
      word?_eq (by omega) (by omega)
    have hchoices : natural? 64 (high - low + 1) = some (high - low + 1).toNat :=
      natural?_eq (by omega) (by omega)
    have hremainder : remainder? g.next.1.toNat (high - low + 1).toNat = some k := by
      rw [remainder?_eq (by omega), hkdef]
    have hword : word? 64 k = some (k : Int) := word?_eq (by omega) (by omega)
    have hsum : word? 64 (low + k) = some (low + k) := word?_eq (by omega) (by omega)
    have hresult : word? 32 (low + k) = some (low + k) := word?_eq (by omega) (by omega)
    simp only [Option.bind_eq_bind, Option.pure_def]
    rw [hwidth, Option.bind_some, hcount, Option.bind_some, hchoices, Option.bind_some, hremainder,
      Option.bind_some, hword, Option.bind_some, hsum, Option.bind_some, hresult, Option.bind_some]
    rfl

/-! ### Words -/

/-- The largest word. -/
def lastWord : UInt64 := 0xFFFFFFFFFFFFFFFF

/-- Draw a word in words. -/
def pickInWords? (g : Generator) (low high : UInt64) : Option (UInt64 × Generator) :=
  if high ≤ low then
    some (low, g)
  else do
    let width ← natural? 64 (high.toNat - low.toNat)
    let choices ← natural? 64 (width + 1)
    let k ← remainder? g.next.1.toNat choices
    let n ← natural? 64 (low.toNat + k)
    return (.ofNat n, g.next.2)

/-- The number of choices, as far as a word counts it. -/
theorem toNat_choices {low high : UInt64} (h : low ≤ high) :
    (high - low + 1).toNat = (high.toNat - low.toNat + 1) % 2 ^ 64 := by
  rw [UInt64.toNat_add, UInt64.toNat_sub_of_le _ _ h]
  rfl

theorem lt_of_not_all {low high : UInt64} (hall : ¬(low = 0 ∧ high = lastWord)) :
    high.toNat - low.toNat + 1 < 2 ^ 64 := by
  have hhigh := high.toNat_lt
  have hends : ¬(low.toNat = 0 ∧ high.toNat = 2 ^ 64 - 1) := by
    rwa [← UInt64.toNat_inj, ← UInt64.toNat_inj] at hall
  omega

/-- There is no draw from all words: the number of choices is zero as a word. -/
theorem pickWord_all (g : Generator) : g.pickWord 0 lastWord = none := rfl

theorem pickInWords?_all (g : Generator) : g.pickInWords? 0 lastWord = none := by
  have hwidth : natural? 64 ((lastWord.toNat : Int) - (0 : UInt64).toNat) = some (2 ^ 64 - 1) :=
    natural?_eq (by decide) (by decide)
  have hchoices : natural? 64 (((2 ^ 64 - 1 : Nat) : Int) + 1) = none :=
    natural?_eq_none (by decide)
  unfold pickInWords?
  rw [if_neg (by decide)]
  simp only [Option.bind_eq_bind, Option.pure_def]
  rw [hwidth, Option.bind_some, hchoices, Option.bind_none]

section

variable {low high : UInt64}

/-- From any other range a word is drawn as a number is. -/
theorem pickWord_eq (g : Generator) (hall : ¬(low = 0 ∧ high = lastWord)) :
    g.pickWord low high = some (.ofNat (g.pickBetween low.toNat high.toNat).1,
      (g.pickBetween low.toNat high.toNat).2) := by
  unfold pickWord
  by_cases hle : high ≤ low
  · rw [if_pos hle, pickBetween_of_le g (UInt64.le_iff_toNat_le.1 hle), UInt64.ofNat_toNat]
  · have hlt : low < high := UInt64.not_le.1 hle
    have hchoices : (high - low + 1).toNat = high.toNat - low.toNat + 1 := by
      rw [toNat_choices (UInt64.le_of_lt hlt), Nat.mod_eq_of_lt (lt_of_not_all hall)]
    have hne : high - low + 1 ≠ 0 := by
      intro hzero
      rw [hzero] at hchoices
      cases hchoices
    rw [if_neg hle, if_neg hne, pickBetween_of_lt g (UInt64.lt_iff_toNat_lt.1 hlt), ← hchoices,
      UInt64.ofNat_add, UInt64.ofNat_toNat, ← UInt64.toNat_mod, UInt64.ofNat_toNat]
    rfl

/-- Nothing overflows on the way. -/
theorem pickInWords?_eq (g : Generator) (hall : ¬(low = 0 ∧ high = lastWord)) :
    g.pickInWords? low high = some (.ofNat (g.pickBetween low.toNat high.toNat).1,
      (g.pickBetween low.toNat high.toNat).2) := by
  unfold pickInWords?
  by_cases hle : high ≤ low
  · rw [if_pos hle, pickBetween_of_le g (UInt64.le_iff_toNat_le.1 hle), UInt64.ofNat_toNat]
  · have hlt : low.toNat < high.toNat := UInt64.lt_iff_toNat_lt.1 (UInt64.not_le.1 hle)
    have hhigh := high.toNat_lt
    have hfew := lt_of_not_all hall
    rw [if_neg hle, pickBetween_of_lt g hlt]
    have hk : g.next.1.toNat % (high.toNat - low.toNat + 1) < high.toNat - low.toNat + 1 :=
      Nat.mod_lt _ (by omega)
    generalize hkdef : g.next.1.toNat % (high.toNat - low.toNat + 1) = k at hk ⊢
    have hwidth : natural? 64 ((high.toNat : Int) - low.toNat) = some (high.toNat - low.toNat) := by
      rw [natural?_eq (by omega) (by omega), Int.toNat_sub]
    have hchoices : natural? 64 (((high.toNat - low.toNat : Nat) : Int) + 1) =
        some (high.toNat - low.toNat + 1) :=
      natural?_eq (by omega) (by omega)
    have hremainder : remainder? g.next.1.toNat (high.toNat - low.toNat + 1) = some k := by
      rw [remainder?_eq (by omega), hkdef]
    have hsum : natural? 64 ((low.toNat : Int) + k) = some (low.toNat + k) :=
      natural?_eq (by omega) (by omega)
    simp only [Option.bind_eq_bind, Option.pure_def]
    rw [hwidth, Option.bind_some, hchoices, Option.bind_some, hremainder, Option.bind_some, hsum,
      Option.bind_some]
    rfl

end

/-- What a draw from a range of words does. -/
structure PicksWithin (g : Generator) (low high : UInt64) : Prop where
  /-- Only the range of all words has no draw. -/
  none_iff : g.pickWord low high = none ↔ low = 0 ∧ high = lastWord
  /-- What is drawn is in the range, and it is the number that would be drawn without an end to
  numbers. -/
  within : ∀ w g', g.pickWord low high = some (w, g') →
    low ≤ w ∧ w ≤ high ∧ (w.toNat, g') = g.pickBetween low.toNat high.toNat
  /-- Nothing overflows and nothing is divided by zero on the way to a number. -/
  checked : g.pickInWords? low high = g.pickWord low high

/-- **A word drawn between two bounds is between them, and nothing overflows on the way, unless the
bounds are the least and the largest word**, for then there is no draw. -/
theorem picks_within (g : Generator) {low high : UInt64} (h : low ≤ high) :
    g.PicksWithin low high := by
  by_cases hall : low = 0 ∧ high = lastWord
  · obtain ⟨rfl, rfl⟩ := hall
    have hnone := g.pickWord_all
    refine ⟨iff_of_true hnone ⟨rfl, rfl⟩, fun w g' hw => ?_, ?_⟩
    · rw [hnone] at hw
      cases hw
    · rw [g.pickInWords?_all, hnone]
  · have hdraw := g.pickWord_eq hall
    refine ⟨iff_of_false (by rw [hdraw]; exact nofun) hall, fun w g' hw => ?_, ?_⟩
    · rw [hdraw] at hw
      cases hw
      obtain ⟨hl, hm⟩ := g.pickBetween_bounds (UInt64.le_iff_toNat_le.1 h)
      have hsize : (g.pickBetween low.toNat high.toNat).1 < 2 ^ 64 :=
        Nat.lt_of_le_of_lt hm high.toNat_lt
      rw [UInt64.le_iff_toNat_le, UInt64.le_iff_toNat_le, UInt64.toNat_ofNat_of_lt' hsize]
      exact ⟨hl, hm, rfl⟩
    · rw [g.pickInWords?_eq hall, hdraw]

end Generator

/-! ### All words -/

namespace Lottery

/-- A range that leaves out the least word has a draw, the range of all words has none. -/
theorem drawn_from_all_but_one :
    (1 : UInt64) ≤ Generator.lastWord ∧ (0 : UInt64) ≤ Generator.lastWord ∧
      (∃ w g', (Generator.ofSeed 7).pickWord 1 Generator.lastWord = some (w, g') ∧ 1 ≤ w) ∧
      (Generator.ofSeed 7).pickWord 0 Generator.lastWord = none := by
  have h1 : (1 : UInt64) ≤ Generator.lastWord := by decide
  have h0 : (0 : UInt64) ≤ Generator.lastWord := by decide
  have hone := (Generator.ofSeed 7).picks_within h1
  have hall := (Generator.ofSeed 7).picks_within h0
  refine ⟨h1, h0, ?_, hall.none_iff.2 ⟨rfl, rfl⟩⟩
  cases hdraw : (Generator.ofSeed 7).pickWord 1 Generator.lastWord with
  | none => exact absurd (hone.none_iff.1 hdraw).1 (by decide)
  | some p => exact ⟨p.1, p.2, rfl, (hone.within p.1 p.2 hdraw).1⟩

/-- Not every range has a draw. -/
theorem not_always_within : ¬∀ (g : Generator) (low high : UInt64), low ≤ high →
    ∃ w g', g.pickWord low high = some (w, g') ∧ low ≤ w ∧ w ≤ high := by
  intro h
  obtain ⟨w, g', hw, -⟩ := h (.ofSeed 1) 0 Generator.lastWord (by decide)
  cases hw

end Lottery

end Reckoning
