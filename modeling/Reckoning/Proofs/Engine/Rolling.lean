import Reckoning.Proofs.Engine.Issuance
import Reckoning.Proofs.Generator

/-!
# Attributes that are rolled

Attributes are drawn until they differ enough.  They do so at once, because a high value and a low
one are always among them.

* `rollWithin` is the loop with a number of passes that it may take, and with the check that admits
  what is drawn.
* `AttributeSet.Promised` says what rolled attributes are like.
* `rollAttributes_at_once`: the first pass ends the loop, it takes 13 words, and what it admits is
  as promised.
-/

namespace Reckoning

/-! ### The loop -/

/-- Draw attributes until they are refused or their spread is large enough.  There is none if the
passes do not suffice. -/
def rollWithin : Nat → Generator → Option (Except RuleError AttributeSet × Generator)
  | 0, _ => none
  | passes + 1, g =>
    match AttributeSet.ofValues (drawValues g).1 (length_drawValues g) with
    | .error e => some (.error e, (drawValues g).2)
    | .ok s =>
      if leastSpread ≤ s.spread then some (.ok s, (drawValues g).2)
      else rollWithin passes (drawValues g).2

theorem rollWithin_succ (passes : Nat) (g : Generator) :
    rollWithin (passes + 1) g = some (.ok (rollAttributes g).1, (rollAttributes g).2) := by
  unfold rollWithin
  rw [ofValues_drawValues, rollAttributes_eq]
  exact if_pos (leastSpread_le_spread g)

/-! ### The words that it takes -/

theorem snd_drawOrdinary (n : Nat) (g : Generator) : (drawOrdinary n g).2 = g.advance n := by
  induction n generalizing g with
  | zero => rfl
  | succ n ih =>
    change (drawOrdinary n (g.between 1 6).2).2 = g.advance (n + 1)
    rw [ih, Generator.snd_between_of_lt g (by decide), Generator.advance_advance, Nat.add_comm]

/-- Seven values are drawn and six of them exchanged. -/
theorem snd_drawValues (g : Generator) : (drawValues g).2 = g.advance 13 := by
  unfold drawValues
  simp only [Generator.snd_shuffle, snd_drawOrdinary, List.length_cons, length_drawOrdinary]
  rw [Generator.snd_between_of_lt _ (by decide), Generator.snd_between_of_lt _ (by decide)]
  simp only [Generator.advance_advance]

/-! ### What is rolled -/

/-- One value is high, the others are ordinary, and one of them is low. -/
structure AttributeSet.Promised (s : AttributeSet) : Prop where
  bounds : ∀ v ∈ s.values, 1 ≤ v ∧ v ≤ 10
  one_high : s.values.countP (8 ≤ ·) = 1
  others : ∃ high others, s.values.Perm (high :: others) ∧ (8 ≤ high ∧ high ≤ 10) ∧
    others.length = 6 ∧ ∀ v ∈ others, 1 ≤ v ∧ v ≤ 6
  low : ∃ v ∈ s.values, 1 ≤ v ∧ v ≤ 3
  spread : 5 ≤ s.spread

theorem promised_drawAttributes (g : Generator) : (drawAttributes g).Promised := by
  obtain ⟨high, low, rest, hp, hhigh, hlow, hlength, hrest⟩ := drawValues_perm g
  have hmem : high ∈ (drawAttributes g).values ∧ low ∈ (drawAttributes g).values := by
    simp [drawAttributes, hp.mem_iff]
  have hspread := (drawAttributes g).le_spread hmem.1 hmem.2
  refine ⟨(drawAttributes g).bounds, countP_drawValues g, ⟨high, low :: rest, hp, hhigh, ?_, ?_⟩,
    ⟨low, hmem.2, hlow⟩, by omega⟩
  · rw [List.length_cons, hlength]
  · intro v hv
    rcases List.mem_cons.1 hv with rfl | hv
    · omega
    · exact hrest v hv

/-- **The first attributes that are rolled stand.**  However many passes the loop may take, it takes
one, and 13 words with it, and whatever the luck the attributes are as promised. -/
theorem rollAttributes_at_once (g : Generator) :
    (∀ passes, rollWithin (passes + 1) g = some (.ok (rollAttributes g).1, (rollAttributes g).2)) ∧
    (rollAttributes g).2 = g.advance 13 ∧ (rollAttributes g).1.Promised := by
  refine ⟨fun passes => rollWithin_succ passes g, ?_, ?_⟩
  · rw [rollAttributes_eq, snd_drawValues]
  · rw [rollAttributes_eq]
    exact promised_drawAttributes g

end Reckoning
