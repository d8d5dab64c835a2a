import Mathlib.Logic.Unique
import Mathlib.Order.Defs.LinearOrder
import Reckoning.Content.Draft
import Reckoning.Proofs.Results

/-!
# What checks let through

A draft passes when every rule of its kind is kept, and what comes out is the draft with its names
read.

* `checkBounded_eq_ok_iff`, `checkWeight_eq_ok_iff` and `ne_nil_of_checkTriggers` say what the rules
  ask for.
* `QuirkDraft.check_eq_ok_iff` and its siblings say which rules a kind has, and what is made of a
  draft that keeps them.
-/

namespace Reckoning

/-! ### Rules -/

theorem checkBounded_eq_ok_iff {what : String} {n : Int} :
    checkBounded what n = .ok () ↔ -contentLimit ≤ n ∧ n ≤ contentLimit := by
  unfold checkBounded
  split_ifs with hb
  · exact iff_of_true rfl hb
  · exact iff_of_false nofun hb

/-- A weight by which something can be drawn. -/
def IsWeight (w : Float) : Prop := w.isFinite = true ∧ 0.0 < w

theorem checkWeight_eq_ok_iff {w : Float} : checkWeight w = .ok () ↔ IsWeight w := by
  unfold checkWeight IsWeight
  split_ifs with hw
  · exact iff_of_true rfl (by simpa using hw)
  · exact iff_of_false nofun (by simpa using hw)

theorem ne_nil_of_checkTriggers {raw : List String} {ts : List Trigger}
    (h : checkTriggers raw = .ok ts) : ts ≠ [] := by
  unfold checkTriggers at h
  split_ifs at h with hraw
  -- every name that is read gives one trigger
  have hl := (mapM_eq_ok_iff.1 (mapError_eq_ok_iff.1 h)).length_eq
  rintro rfl
  rw [List.length_nil, List.length_eq_zero_iff] at hl
  simp [hl] at hraw

/-! ### Kinds -/

theorem QuirkDraft.check_eq_ok_iff {d : QuirkDraft} {q : Quirk} :
    d.check = .ok q ↔ checkWeight d.weight = .ok () ∧ ∃ ts, checkTriggers d.triggers = .ok ts ∧
      ∃ m, checkModifiers d.modifiers = .ok m ∧ q = { d with triggers := ts, modifiers := m } := by
  simp only [check, bind_eq_ok_iff, pure_eq_ok_iff, Unique.exists_iff]

theorem FailingDraft.check_eq_ok_iff {d : FailingDraft} {f : Failing} :
    d.check = .ok f ↔ (0 ≤ d.magnitude.1 ∧ d.magnitude.1 ≤ d.magnitude.2) ∧
      checkBounded "magnitude" d.magnitude.2 = .ok () ∧
      ∃ as, (d.affected.mapM Attribute.ofName).mapError Refusal.rule = .ok as ∧
      checkWeight d.weight = .ok () ∧ ∃ ts, checkTriggers d.triggers = .ok ts ∧
      ∃ m, checkModifiers d.modifiers = .ok m ∧
        f = { d with affected := as, triggers := ts, modifiers := m,
                     leastMagnitude := d.magnitude.1, mostMagnitude := d.magnitude.2 } := by
  unfold check
  simp only
  by_cases hr : d.magnitude.1 < 0 ∨ d.magnitude.2 < d.magnitude.1
  · rw [if_pos hr]
    exact iff_of_false nofun fun h => by omega
  · have hr' : 0 ≤ d.magnitude.1 ∧ d.magnitude.1 ≤ d.magnitude.2 := by omega
    rw [if_neg hr, and_iff_right hr']
    simp only [bind_eq_ok_iff, pure_eq_ok_iff, Unique.exists_iff]

theorem UselessBitDraft.check_eq_ok_iff {d : UselessBitDraft} {b : UselessBit} :
    d.check = .ok b ↔ checkWeight d.weight = .ok () ∧ ∃ ts, checkTriggers d.triggers = .ok ts ∧
      ∃ m, checkModifiers d.bonus = .ok m ∧ ∃ n, checkModifiers d.penalty = .ok n ∧
        b = { d with triggers := ts, bonus := m, penalty := n } := by
  simp only [check, bind_eq_ok_iff, pure_eq_ok_iff, Unique.exists_iff]

theorem ItemQuirkDraft.check_eq_ok_iff {d : ItemQuirkDraft} {q : ItemQuirk} :
    d.check = .ok q ↔ ∃ m, checkModifiers d.modifiers = .ok m ∧ q = { d with modifiers := m } := by
  simp only [check, bind_eq_ok_iff, pure_eq_ok_iff]

theorem EnvironmentalQuirkDraft.check_eq_ok_iff {d : EnvironmentalQuirkDraft}
    {q : EnvironmentalQuirk} :
    d.check = .ok q ↔ ∃ m, checkModifiers d.modifiers = .ok m ∧ q = { d with modifiers := m } := by
  simp only [check, bind_eq_ok_iff, pure_eq_ok_iff]

theorem ActionDraft.check_eq_ok_iff {d : ActionDraft} {a : Action} :
    d.check = .ok a ↔ (0 ≤ d.threshold ∧ 0 ≤ d.spread) ∧
      checkBounded "deviation threshold" d.threshold = .ok () ∧
      checkBounded "stability floor" d.floor = .ok () ∧
      checkBounded "deviation spread" d.spread = .ok () ∧
      ∃ m, checkModifiers d.unarmedModifiers = .ok m ∧ a = { d with unarmedModifiers := m } := by
  unfold check
  by_cases ht : d.threshold < 0
  · rw [if_pos ht]
    exact iff_of_false nofun fun h => by omega
  by_cases hs : d.spread < 0
  · rw [if_neg ht, if_pos hs]
    exact iff_of_false nofun fun h => by omega
  · have hr : 0 ≤ d.threshold ∧ 0 ≤ d.spread := by omega
    rw [if_neg ht, if_neg hs, and_iff_right hr]
    simp only [bind_eq_ok_iff, pure_eq_ok_iff, Unique.exists_iff]

end Reckoning
