import Mathlib.Logic.Function.Iterate
import Reckoning.Proofs.Draws

/-!
# Stirring loses nothing

Each of the three steps of stirring can be undone: a step that is made twice is a step twice as far,
and a step farther than the word is long changes nothing.  So no two words are stirred into one, and
only zero is stirred into zero.

* `IsShift` is what shifts to both sides have in common, `bijective_stirBy` what follows for a step.
* `Generator.bijective_stir`: stirring is a bijection.
* `Draw` is a draw of any kind, `Generator.after_eq` counts the words that it takes.
* `Generator.keeps_going`: whatever is drawn, no generator of a seed ends in zero, and generators
  that differ still differ after equally many words.
-/

namespace Reckoning

/-! ### Steps -/

section

variable {w : Nat} {shift : BitVec w → Nat → BitVec w}

/-- Moving the bits of a word to one side, out of the word in the end. -/
structure IsShift (shift : BitVec w → Nat → BitVec w) : Prop where
  xor : ∀ x y n, shift (x ^^^ y) n = shift x n ^^^ shift y n
  add : ∀ x m n, shift x (m + n) = shift (shift x m) n
  gone : ∀ x n, w ≤ n → shift x n = 0#w

theorem isShift_shiftLeft : IsShift fun (x : BitVec w) (n : Nat) => x <<< n :=
  ⟨BitVec.shiftLeft_xor_distrib, BitVec.shiftLeft_add, fun _ _ => BitVec.shiftLeft_eq_zero⟩

theorem isShift_shiftRight : IsShift fun (x : BitVec w) (n : Nat) => x >>> n :=
  ⟨BitVec.ushiftRight_xor_distrib, BitVec.shiftRight_add, fun _ _ => BitVec.ushiftRight_eq_zero⟩

/-- A step of stirring. -/
def stirBy (shift : BitVec w → Nat → BitVec w) (n : Nat) (x : BitVec w) : BitVec w :=
  x ^^^ shift x n

/-- A step made twice is a step twice as far. -/
theorem IsShift.stirBy_stirBy (h : IsShift shift) (n : Nat) (x : BitVec w) :
    stirBy shift n (stirBy shift n x) = stirBy shift (n + n) x := by
  unfold stirBy
  calc x ^^^ shift x n ^^^ shift (x ^^^ shift x n) n
    _ = x ^^^ shift x n ^^^ (shift x n ^^^ shift (shift x n) n) := by rw [h.xor]
    _ = x ^^^ (shift x n ^^^ shift x n) ^^^ shift (shift x n) n := by simp only [BitVec.xor_assoc]
    _ = x ^^^ shift x (n + n) := by rw [BitVec.xor_self, BitVec.xor_zero, h.add]

/-- **A step can be undone.** -/
theorem IsShift.bijective_stirBy (h : IsShift shift) {n : Nat} (hn : 0 < n) :
    Function.Bijective (stirBy shift n) := by
  -- the induction is on how far the step is from the end of the word
  by_cases hw : w ≤ n
  · have hid : stirBy shift n = id := by
      funext x
      unfold stirBy
      rw [h.gone x n hw, BitVec.xor_zero]
      rfl
    rw [hid]
    exact Function.bijective_id
  · -- a step twice as far can be undone, and that is this step made twice
    have htwice : stirBy shift n ∘ stirBy shift n = stirBy shift (n + n) :=
      funext (h.stirBy_stirBy n)
    have hfar : Function.Bijective (stirBy shift n ∘ stirBy shift n) := by
      rw [htwice]
      exact h.bijective_stirBy (by omega)
    exact ⟨hfar.1.of_comp, hfar.2.of_comp⟩
termination_by w - n

end

namespace Generator

/-! ### Stirring -/

theorem toBitVec_stir (x : UInt64) :
    (stir x).toBitVec = stirBy (· <<< ·) 17 (stirBy (· >>> ·) 7 (stirBy (· <<< ·) 13 x.toBitVec)) :=
  rfl

/-- **Stirring maps the words one to one.** -/
theorem bijective_stir : Function.Bijective stir := by
  have h13 := (isShift_shiftLeft (w := 64)).bijective_stirBy (n := 13) (by decide)
  have h7 := (isShift_shiftRight (w := 64)).bijective_stirBy (n := 7) (by decide)
  have h17 := (isShift_shiftLeft (w := 64)).bijective_stirBy (n := 17) (by decide)
  have hbits := h17.comp (h7.comp h13)
  constructor
  · intro x y hxy
    have h := congrArg UInt64.toBitVec hxy
    rw [toBitVec_stir, toBitVec_stir] at h
    exact UInt64.toBitVec_inj.1 (hbits.1 h)
  · intro y
    obtain ⟨x, hx⟩ := hbits.2 y.toBitVec
    exact ⟨⟨x⟩, UInt64.toBitVec_inj.1 hx⟩

theorem stir_zero : stir 0 = 0 := rfl

theorem stir_ne_zero {x : UInt64} (h : x ≠ 0) : stir x ≠ 0 :=
  fun hx => h (bijective_stir.1 (hx.trans stir_zero.symm))

theorem state_ofSeed_ne_zero (seed : UInt64) : (ofSeed seed).state ≠ 0 := by
  unfold ofSeed
  split_ifs with h
  · decide
  · exact h

/-! ### Words -/

theorem state_advance_ne_zero {g : Generator} (h : g.state ≠ 0) (n : Nat) :
    (g.advance n).state ≠ 0 := by
  induction n generalizing g with
  | zero => exact h
  | succ n ih => exact ih (stir_ne_zero h)

/-- Equally many words keep generators apart. -/
theorem injective_advance (n : Nat) : Function.Injective (advance · n) := by
  induction n with
  | zero => exact fun _ _ h => h
  | succ n ih =>
    intro g g' h
    have hnext : g.next.2 = g'.next.2 := ih h
    have hstate : stir g.state = stir g'.state := congrArg Generator.state hnext
    cases g
    cases g'
    exact congrArg Generator.mk (bijective_stir.1 hstate)

end Generator

/-! ### Draws of all kinds -/

/-- A draw of any kind. -/
inductive Draw : Type 1
  | word
  | fraction
  | between (low high : Int)
  | pick (low high : UInt64)
  | weighted (weights : List Float)
  | shuffle {α : Type} (xs : List α)

/-- The number of words that a draw takes. -/
def Draw.words : Draw → Nat
  | .word => 1
  | .fraction => 1
  | .between low high => if low < high then 1 else 0
  | .pick low high => if low < high then 1 else 0
  | .weighted weights => if weights.any (0.0 < ·) then 1 else 0
  | .shuffle xs => xs.length - 1

namespace Generator

/-- The generator after a draw.  A pick from all words has no number, but it takes its word before
it fails. -/
def after (g : Generator) : Draw → Generator
  | .word => g.next.2
  | .fraction => g.fraction.2
  | .between low high => (g.between low high).2
  | .pick low high => ((g.pickWord low high).map (·.2)).getD g.next.2
  | .weighted weights => (g.weighted weights).2
  | .shuffle xs => (g.shuffle xs).2

/-- What a draw does to a generator, it does by the words that it takes. -/
theorem after_eq (g : Generator) (d : Draw) : g.after d = g.advance d.words := by
  cases d with
  | word => rfl
  | fraction => rfl
  | between low high =>
    change (g.between low high).2 = g.advance (if low < high then 1 else 0)
    split_ifs with h
    · exact g.snd_between_of_lt h
    · rw [g.between_of_le (Int.not_lt.1 h)]
      rfl
  | pick low high =>
    unfold after Draw.words pickWord
    simp only [← UInt64.not_lt]
    split_ifs <;> rfl
  | weighted weights =>
    change (g.weighted weights).2 = g.advance (if weights.any (0.0 < ·) then 1 else 0)
    split_ifs with h
    · obtain ⟨w, hw, hpos⟩ := List.any_eq_true.1 h
      obtain ⟨i, v, hdraw, -⟩ := g.exists_weighted hw (by simpa using hpos)
      rw [hdraw]
    · rw [g.weighted_of_none (by simpa using h)]
      rfl
  | shuffle xs => exact g.snd_shuffle xs

/-- The generator after some draws. -/
def run (g : Generator) (ds : List Draw) : Generator := ds.foldl after g

theorem run_eq (g : Generator) (ds : List Draw) :
    g.run ds = g.advance (ds.map Draw.words).sum := by
  induction ds generalizing g with
  | nil => rfl
  | cons d ds ih =>
    change (g.after d).run ds = _
    rw [ih, after_eq, advance_advance, List.map_cons, List.sum_cons]

/-- **A generator never gets stuck and loses no state.**  Stirring maps the words one to one and
leaves zero alone, no generator of a seed comes to zero by draws of whatever kinds, and generators
that differ are kept apart by draws that take equally many words. -/
theorem keeps_going :
    (Function.Bijective stir ∧ stir 0 = 0) ∧
    (∀ (seed : UInt64) (ds : List Draw), ((ofSeed seed).run ds).state ≠ 0) ∧
    ∀ g g' : Generator, g ≠ g' → (∀ n, g.advance n ≠ g'.advance n) ∧
      ∀ ds ds' : List Draw, (ds.map Draw.words).sum = (ds'.map Draw.words).sum →
        g.run ds ≠ g'.run ds' := by
  refine ⟨⟨bijective_stir, stir_zero⟩, fun seed ds => ?_, fun g g' hne => ⟨fun n h => ?_, ?_⟩⟩
  · rw [run_eq]
    exact state_advance_ne_zero (state_ofSeed_ne_zero seed) _
  · exact hne (injective_advance n h)
  · intro ds ds' hwords h
    rw [run_eq, run_eq, hwords] at h
    exact hne (injective_advance _ h)

end Generator

/-! ### Two seeds -/

namespace Market

/-- A morning of draws, with a pick from all words among them. -/
def morning : List Draw :=
  [.word, .pick 0 (-1), .shuffle ["apple", "pear", "plum"], .between 3 3, .weighted [0.0, 1.5]]

/-- An afternoon that takes as many words. -/
def afternoon : List Draw := [.fraction, .between (-3) 3, .shuffle [1, 2, 3, 4]]

theorem stay_apart : (Generator.ofSeed 0 ≠ Generator.ofSeed 1) ∧
    (morning.map Draw.words).sum = (afternoon.map Draw.words).sum ∧
    (Generator.ofSeed 0).run morning ≠ (Generator.ofSeed 1).run afternoon := by
  have hne : Generator.ofSeed 0 ≠ Generator.ofSeed 1 := by decide
  have hwords : (morning.map Draw.words).sum = (afternoon.map Draw.words).sum := by decide +kernel
  exact ⟨hne, hwords, (Generator.keeps_going.2.2 _ _ hne).2 morning afternoon hwords⟩

end Market

end Reckoning
