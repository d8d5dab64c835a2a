import Mathlib.Tactic.SplitIfs
import Mathlib.Data.List.Basic
import Reckoning.Character

/-!
# The rules of characters

A character is made of attributes in range and of traits without a fault, and of nothing else.

* `firstRepeated?_eq_some_iff`: the trait that is found to be repeated is the first that is.
* `AttributeSet.ofValues_eq_ok_iff` and `AttributeSet.exists_ofValues_iff`: which values are
  admitted.
* `traitFault?_eq_none_iff` and `traitFault?_eq_repeated_iff`: which traits are in order, and when
  the fault is a repetition.
* `Character.ofSheet_eq_ok_iff`: a new character is its sheet, and active.
-/

namespace Reckoning

/-! ### The first repetition -/

section

variable {α : Type} [DecidableEq α] {x : α}

theorem firstRepeated?_go_eq_some {xs seen : List α} : firstRepeated?.go seen xs = some x ↔
    ∃ before after, xs = before ++ x :: after ∧ before.Nodup ∧ (∀ y ∈ before, y ∉ seen) ∧
      (x ∈ before ∨ x ∈ seen) := by
  induction xs generalizing seen with
  | nil => simp [firstRepeated?.go]
  | cons y ys ih =>
    unfold firstRepeated?.go
    split_ifs with hy
    · constructor
      · rintro ⟨⟩
        exact ⟨[], ys, rfl, List.nodup_nil, by simp, .inr hy⟩
      · rintro ⟨_ | ⟨z, before⟩, after, hsplit, -, hnew, -⟩
        · exact congrArg some (List.cons.inj hsplit).1
        · -- nothing in front of the first repetition was seen
          obtain ⟨rfl, -⟩ := List.cons.inj hsplit
          exact absurd hy (hnew y List.mem_cons_self)
    · rw [ih]
      constructor
      · rintro ⟨before, after, rfl, hn, hnew, hx⟩
        refine ⟨y :: before, after, rfl, List.nodup_cons.2 ⟨fun hm => ?_, hn⟩, ?_, ?_⟩
        · exact hnew y hm List.mem_cons_self
        · exact List.forall_mem_cons.2 ⟨hy, fun z hz hs => hnew z hz (List.mem_cons_of_mem y hs)⟩
        · simpa [or_assoc, or_comm, or_left_comm] using hx
      · rintro ⟨_ | ⟨z, before⟩, after, hsplit, hn, hnew, hx⟩
        · obtain ⟨rfl, -⟩ := List.cons.inj hsplit
          exact absurd (hx.resolve_left List.not_mem_nil) hy
        · obtain ⟨rfl, rfl⟩ := List.cons.inj hsplit
          obtain ⟨hy', hn⟩ := List.nodup_cons.1 hn
          obtain ⟨-, hnew⟩ := List.forall_mem_cons.1 hnew
          refine ⟨before, after, rfl, hn, fun z hz => ?_, ?_⟩
          · rw [List.mem_cons, not_or]
            exact ⟨fun hzy => hy' (hzy ▸ hz), hnew z hz⟩
          · simpa [or_assoc, or_comm, or_left_comm] using hx

/-- The search finds the first element that repeats an earlier one. -/
theorem firstRepeated?_eq_some_iff {xs : List α} : firstRepeated? xs = some x ↔
    ∃ before after, xs = before ++ x :: after ∧ before.Nodup ∧ x ∈ before := by
  simp [firstRepeated?, firstRepeated?_go_eq_some]

end

/-! ### Attributes -/

namespace AttributeSet

theorem firstOutside?_eq_none_iff {values : List Int} (hl : values.length = 7) :
    firstOutside? values = none ↔ ∀ v ∈ values, leastAttribute ≤ v ∧ v ≤ mostAttribute := by
  refine ⟨bounds_of_firstOutside?_eq_none hl, fun h => List.find?_eq_none.2 fun p hp => ?_⟩
  simpa using h p.2 (List.of_mem_zip hp).2

theorem ofValues_eq_ok_iff {values : List Int} {hl : values.length = 7} {as : AttributeSet} :
    ofValues values hl = .ok as ↔ as.values = values := by
  refine ⟨values_of_ofValues, ?_⟩
  rintro rfl
  have hnone := (firstOutside?_eq_none_iff as.length_eq).2 as.bounds
  unfold ofValues
  split
  · simp_all
  · rfl

/-- Seven values are admitted just when all of them are in range. -/
theorem exists_ofValues_iff {values : List Int} (hl : values.length = 7) :
    (∃ as, ofValues values hl = .ok as) ↔
      ∀ v ∈ values, leastAttribute ≤ v ∧ v ≤ mostAttribute := by
  constructor
  · rintro ⟨as, h⟩
    exact ofValues_eq_ok_iff.1 h ▸ as.bounds
  · exact fun h => ⟨⟨values, hl, h⟩, ofValues_eq_ok_iff.2 rfl⟩

theorem ofValues_ne_invalidCharacter {values : List Int} (hl : values.length = 7)
    (fault : TraitFault) : ofValues values hl ≠ .error (.invalidCharacter fault) := by
  unfold ofValues
  split <;> exact nofun

end AttributeSet

/-! ### Traits -/

section

variable {quirks failings uselessBits : List DefId}

theorem traitFault?_eq_none_iff : traitFault? quirks failings uselessBits = none ↔
    (2 ≤ quirks.length ∧ quirks.length ≤ 4) ∧ uselessBits ≠ [] ∧
      (quirks ++ failings ++ uselessBits).Nodup := by
  unfold traitFault? leastQuirks mostQuirks
  rw [← firstRepeated?_eq_none]
  split_ifs with hcount hempty
  · refine iff_of_false nofun fun h => ?_
    omega
  · simp_all
  · have hcount' : 2 ≤ quirks.length ∧ quirks.length ≤ 4 := by omega
    simp_all

theorem traitFault?_eq_repeated_iff {id : DefId} :
    traitFault? quirks failings uselessBits = some (.repeated id.text) ↔
      (2 ≤ quirks.length ∧ quirks.length ≤ 4) ∧ uselessBits ≠ [] ∧
        firstRepeated? (quirks ++ failings ++ uselessBits) = some id := by
  unfold traitFault? leastQuirks mostQuirks
  split_ifs with hcount hempty
  · refine iff_of_false nofun fun h => ?_
    omega
  · simp_all
  · have hcount' : 2 ≤ quirks.length ∧ quirks.length ≤ 4 := by omega
    have hid (i : DefId) : i.text = id.text ↔ i = id := by rw [DefId.mk.injEq]
    simp_all

end

namespace Character

theorem ofSheet_eq_ok_iff {s : Sheet} {c : Character} :
    ofSheet s = .ok c ↔ c.toSheet = s ∧ c.active = true := by
  obtain ⟨sheet, active, sound⟩ := c
  unfold ofSheet
  split
  · refine iff_of_false nofun ?_
    rintro ⟨rfl, -⟩
    simp_all
  · constructor
    · rintro ⟨⟩
      exact ⟨rfl, rfl⟩
    · rintro ⟨rfl, rfl⟩
      rfl

theorem ofSheet_eq_error_iff {s : Sheet} {fault : TraitFault} :
    ofSheet s = .error (.invalidCharacter fault) ↔ s.fault? = some fault := by
  unfold ofSheet
  split
  · rename_i found h
    simp [h]
  · rename_i h
    simp [h]

end Character

end Reckoning
