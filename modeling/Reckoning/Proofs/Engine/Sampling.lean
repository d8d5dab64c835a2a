import Mathlib.Data.List.Perm.Subperm
import Reckoning.Engine.Issuance
import Reckoning.Proofs.Draws

/-!
# Samples

A sample draws ids by weight and puts none of them back.

* `swapRemove_perm`: what is taken out and what is left are what there was.
* `sampleDistinct_cases` is one draw of a sample.  `sampleDistinct_subperm` and
  `length_sampleDistinct`: so it takes ids with a weight above zero, none twice, and as many as it
  is asked for or all there are.
* `picks_weighed` collects what draws by weight and samples do, whatever the weights are.
-/

namespace Reckoning

/-- What is taken out and what is left are what there was. -/
theorem swapRemove_perm {α : Type} {xs : List α} {i : Nat} {x : α} (h : xs[i]? = some x) :
    (x :: swapRemove xs i).Perm xs := by
  rcases List.eq_nil_or_concat' xs with rfl | ⟨front, last, rfl⟩
  · cases h
  · unfold swapRemove
    rw [List.getLast?_concat]
    by_cases hi : i < front.length
    · -- the last element takes the place of the one that is taken
      rw [List.getElem?_append_left hi] at h
      obtain ⟨-, rfl⟩ := List.getElem?_eq_some_iff.1 h
      simp only [List.set_append_left _ _ hi, List.dropLast_concat]
      calc
        (front[i] :: front.set i last).Perm (front[i] :: last :: front.eraseIdx i) :=
          (List.set_perm_cons_eraseIdx hi last).cons _
        (front[i] :: last :: front.eraseIdx i).Perm (last :: front[i] :: front.eraseIdx i) :=
          .swap ..
        (last :: front[i] :: front.eraseIdx i).Perm (last :: front) :=
          (List.getElem_cons_eraseIdx_perm hi).cons _
        (last :: front).Perm (front ++ [last]) := (List.perm_append_singleton last front).symm
    · rw [List.getElem?_append_right (Nat.not_lt.1 hi)] at h
      have hlast : i = front.length := by
        have := (List.getElem?_eq_some_iff.1 h).1
        rw [List.length_singleton] at this
        omega
      subst hlast
      rw [Nat.sub_self] at h
      cases h
      simp only [List.set_append_right _ _ (Nat.le_refl _), Nat.sub_self, List.set_cons_zero,
        List.dropLast_concat]
      exact (List.perm_append_singleton x front).symm

/-- The entries of a pool that can be drawn. -/
def weighed (pool : List (DefId × Float)) : List (DefId × Float) := pool.filter (0.0 < ·.2)

section

variable {pool : List (DefId × Float)}

theorem mem_weighed {p : DefId × Float} : p ∈ weighed pool ↔ p ∈ pool ∧ 0.0 < p.2 := by
  simp [weighed]

/-- What is drawn was weighed, and what is left is weighed as before. -/
theorem weighed_swapRemove {i : Nat} {p : DefId × Float} (hp : pool[i]? = some p)
    (hpos : 0.0 < p.2) : (p :: weighed (swapRemove pool i)).Perm (weighed pool) := by
  have hperm := (swapRemove_perm hp).filter (0.0 < ·.2)
  rwa [List.filter_cons_of_pos (by simpa using hpos)] at hperm

/-- A sample ends where nothing can be drawn, and otherwise takes something out and goes on. -/
theorem sampleDistinct_cases (count : Nat) (pool : List (DefId × Float)) (g : Generator) :
    (weighed pool = [] ∧ sampleDistinct (count + 1) pool g = ([], g)) ∨
    ∃ i p, pool[i]? = some p ∧ 0.0 < p.2 ∧
      sampleDistinct (count + 1) pool g =
        (p.1 :: (sampleDistinct count (swapRemove pool i) (g.advance 1)).1,
          (sampleDistinct count (swapRemove pool i) (g.advance 1)).2) := by
  rw [sampleDistinct]
  by_cases h : ∃ p ∈ pool, 0.0 < p.2
  · obtain ⟨p, hp, hpos⟩ := h
    obtain ⟨i, w, hdraw, hw, hw0⟩ := g.exists_weighted (List.mem_map_of_mem hp) hpos
    rw [List.getElem?_map] at hw
    obtain ⟨q, hq, rfl⟩ := Option.map_eq_some_iff.1 hw
    refine .inr ⟨i, q, hq, hw0, ?_⟩
    simp only [hdraw, Option.bind_some, hq, Option.map_some]
  · have hnone : ∀ p ∈ pool, ¬0.0 < p.2 := fun p hp hpos => h ⟨p, hp, hpos⟩
    refine .inl ⟨by simpa [weighed, List.filter_eq_nil_iff] using hnone, ?_⟩
    rw [g.weighted_of_none (by simpa using fun w id hp => hnone (id, w) hp)]
    rfl

/-- A sample takes ids out that have a weight above zero, and nothing twice. -/
theorem sampleDistinct_subperm (count : Nat) (pool : List (DefId × Float)) (g : Generator) :
    (sampleDistinct count pool g).1.Subperm ((weighed pool).map (·.1)) := by
  induction count generalizing pool g with
  | zero => exact List.nil_subperm
  | succ count ih =>
    rcases sampleDistinct_cases count pool g with ⟨-, h⟩ | ⟨i, p, hp, hpos, h⟩
    · rw [h]
      exact List.nil_subperm
    · rw [h]
      have hrest := ih (swapRemove pool i) (g.advance 1)
      exact ((List.subperm_cons p.1).2 hrest).trans
        ((weighed_swapRemove hp hpos).map Prod.fst).subperm

/-- A sample takes as many ids as it is asked for, or all that can be drawn. -/
theorem length_sampleDistinct (count : Nat) (pool : List (DefId × Float)) (g : Generator) :
    (sampleDistinct count pool g).1.length = min count (weighed pool).length := by
  induction count generalizing pool g with
  | zero => simp [sampleDistinct]
  | succ count ih =>
    rcases sampleDistinct_cases count pool g with ⟨hnil, h⟩ | ⟨i, p, hp, hpos, h⟩
    · rw [h, hnil]
      rfl
    · rw [h, ← (weighed_swapRemove hp hpos).length_eq, List.length_cons, List.length_cons, ih]
      omega

/-- Every id takes one word. -/
theorem snd_sampleDistinct (count : Nat) (pool : List (DefId × Float)) (g : Generator) :
    (sampleDistinct count pool g).2 = g.advance (sampleDistinct count pool g).1.length := by
  induction count generalizing pool g with
  | zero => rfl
  | succ count ih =>
    rcases sampleDistinct_cases count pool g with ⟨-, h⟩ | ⟨i, p, -, -, h⟩
    · rw [h]
      rfl
    · rw [h]
      simp only [List.length_cons]
      rw [ih, Generator.advance_advance, Nat.add_comm]

/-! ### Whatever the weights are -/

/-- What a draw by weight does. -/
structure Generator.PicksWeighed (g : Generator) (weights : List Float) : Prop where
  found : (∃ i, (g.weighted weights).1 = some i) ↔ ∃ w ∈ weights, 0.0 < w
  positive : ∀ i, (g.weighted weights).1 = some i → ∃ w, weights[i]? = some w ∧ 0.0 < w
  one_word : ∀ i, (g.weighted weights).1 = some i → (g.weighted weights).2 = g.advance 1
  no_word : (g.weighted weights).1 = none → (g.weighted weights).2 = g

theorem Generator.picksWeighed (g : Generator) (weights : List Float) :
    g.PicksWeighed weights := by
  by_cases h : ∃ w ∈ weights, 0.0 < w
  · obtain ⟨w, hw, hpos⟩ := h
    obtain ⟨i, v, hdraw, hv, hv0⟩ := g.exists_weighted hw hpos
    constructor <;> rw [hdraw]
    · exact ⟨fun _ => ⟨w, hw, hpos⟩, fun _ => ⟨i, rfl⟩⟩
    · rintro j ⟨⟩
      exact ⟨v, hv, hv0⟩
    · exact fun _ _ => rfl
    · exact nofun
  · have hdraw := g.weighted_of_none fun w hw hpos => h ⟨w, hw, hpos⟩
    constructor <;> rw [hdraw]
    · exact iff_of_false nofun h
    · exact nofun
    · exact nofun
    · exact fun _ => rfl

/-- What a sample does. -/
structure SamplesWeighed (count : Nat) (pool : List (DefId × Float)) (g : Generator) : Prop where
  nodup : (sampleDistinct count pool g).1.Nodup
  positive : ∀ id ∈ (sampleDistinct count pool g).1, ∃ w, (id, w) ∈ pool ∧ 0.0 < w
  length : (sampleDistinct count pool g).1.length = min count (pool.countP (0.0 < ·.2))
  words : (sampleDistinct count pool g).2 = g.advance (sampleDistinct count pool g).1.length

theorem samplesWeighed (hn : (pool.map (·.1)).Nodup) (count : Nat) (g : Generator) :
    SamplesWeighed count pool g where
  nodup := by
    obtain ⟨ids, hperm, hsub⟩ := sampleDistinct_subperm count pool g
    exact hperm.nodup_iff.1 (hn.sublist (hsub.trans (List.filter_sublist.map Prod.fst)))
  positive id hid := by
    obtain ⟨p, hp, rfl⟩ := List.mem_map.1 ((sampleDistinct_subperm count pool g).subset hid)
    exact ⟨p.2, mem_weighed.1 hp⟩
  length := by
    rw [length_sampleDistinct, List.countP_eq_length_filter]
    rfl
  words := snd_sampleDistinct count pool g

end

/-- **Only what has a weight above zero is drawn, and all of it can be.** -/
theorem picks_weighed :
    (∀ (g : Generator) (weights : List Float), g.PicksWeighed weights) ∧
    ∀ pool : List (DefId × Float), (pool.map (·.1)).Nodup → ∀ count g, SamplesWeighed count pool g :=
  ⟨Generator.picksWeighed, fun _ => samplesWeighed⟩

/-! ### Weights of all sorts -/

namespace Scales

/-- One weight is no number, one is without end, one is below zero and one is zero. -/
def pool : List (DefId × Float) :=
  [("fog", 0.0 / 0.0), ("anvil", 1.0 / 0.0), ("balloon", -1.0), ("feather", 0.5), ("shadow", 0.0)]

theorem two_weighed : (pool.map (·.1)).Nodup ∧ SamplesWeighed 4 pool ⟨7⟩ ∧
    (sampleDistinct 4 pool ⟨7⟩).1.length = 2 := by
  have hn : (pool.map (·.1)).Nodup := by decide
  have h := picks_weighed.2 pool hn 4 ⟨7⟩
  refine ⟨hn, h, h.length.trans ?_⟩
  decide +kernel

end Scales

end Reckoning
