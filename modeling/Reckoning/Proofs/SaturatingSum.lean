import Mathlib.Algebra.BigOperators.Group.List.Basic
import Mathlib.Data.List.Induction
import Mathlib.Tactic.Linarith
import Mathlib.Tactic.Ring
import Reckoning.Modifiers

/-!
# Saturating sums of modifiers

Points are added one after the other, and every addition saturates.

* `saturatingSum` is the value that such a chain of additions reaches.
* `StaysInRange` says that no addition of the chain leaves the range; then the chain reaches the
  true sum (`saturatingSum_eq_sum`).  `prefix_sum_bounds` bounds the sums on the way.
* `Modifiers.get_merge`, `AxisResults.get_shiftBase`: on one axis, stacking a set of modifiers is
  one such addition.
-/

namespace Reckoning

/-- The sum of integers, saturating at every addition. -/
def saturatingSum (xs : List Int) : Int := xs.foldl (fun sum x => saturate (sum + x)) 0

/-- No addition on the way from left to right leaves the range. -/
def StaysInRange (xs : List Int) : Prop := ∀ ys, ys <+: xs → InRange ys.sum

theorem saturatingSum_concat (xs : List Int) (x : Int) :
    saturatingSum (xs ++ [x]) = saturate (saturatingSum xs + x) := by
  simp [saturatingSum]

theorem inRange_zero : InRange 0 := by decide

theorem inRange_saturatingSum (xs : List Int) : InRange (saturatingSum xs) := by
  induction xs using List.reverseRecOn with
  | nil => exact inRange_zero
  | append_singleton xs x _ =>
    rw [saturatingSum_concat]
    exact inRange_saturate _

/-- Adding nothing, however often, changes no sum. -/
theorem saturatingSum_append_of_eq_zero (xs : List Int) {ys : List Int} (h : ∀ y ∈ ys, y = 0) :
    saturatingSum (xs ++ ys) = saturatingSum xs := by
  induction ys using List.reverseRecOn with
  | nil => rw [List.append_nil]
  | append_singleton ys y ih =>
    have hy : y = 0 := h y (by simp)
    rw [← List.append_assoc, saturatingSum_concat, ih fun z hz => h z (List.mem_append_left _ hz),
      hy, Int.add_zero, saturate_of_inRange (inRange_saturatingSum xs)]

theorem StaysInRange.of_prefix {xs ys : List Int} (h : StaysInRange xs) (hp : ys <+: xs) :
    StaysInRange ys :=
  fun zs hz => h zs (hz.trans hp)

/-- **A chain of additions that stays in range reaches the true sum.** -/
theorem saturatingSum_eq_sum {xs : List Int} (h : StaysInRange xs) :
    saturatingSum xs = xs.sum := by
  induction xs using List.reverseRecOn with
  | nil => rfl
  | append_singleton xs x ih =>
    have hx : InRange (xs ++ [x]).sum := h _ List.prefix_rfl
    rw [List.sum_append, List.sum_singleton] at hx
    rw [saturatingSum_concat, ih (h.of_prefix (List.prefix_append _ _)), List.sum_append,
      List.sum_singleton, saturate_of_inRange hx]

theorem sum_bounds {xs : List Int} {bound : Int} (h : ∀ x ∈ xs, -bound ≤ x ∧ x ≤ bound) :
    -(xs.length * bound) ≤ xs.sum ∧ xs.sum ≤ xs.length * bound := by
  induction xs with
  | nil => simp
  | cons x xs ih =>
    have hx := h x List.mem_cons_self
    have hxs := ih fun y hy => h y (List.mem_cons_of_mem _ hy)
    have hl : ((x :: xs).length : Int) * bound = xs.length * bound + bound := by
      rw [List.length_cons]
      push_cast
      ring
    rw [hl, List.sum_cons]
    omega

/-- The sums on the way are no larger than the number of terms times their largest size. -/
theorem prefix_sum_bounds {xs ys : List Int} {bound : Int} (h0 : 0 ≤ bound)
    (h : ∀ x ∈ xs, -bound ≤ x ∧ x ≤ bound) (hp : ys <+: xs) :
    -(xs.length * bound) ≤ ys.sum ∧ ys.sum ≤ xs.length * bound := by
  have hy := sum_bounds fun y hy => h y (hp.subset hy)
  have hl : (ys.length : Int) ≤ xs.length := by exact_mod_cast hp.length_le
  have hm : (ys.length : Int) * bound ≤ xs.length * bound :=
    Int.mul_le_mul_of_nonneg_right hl h0
  omega

/-! ### Walking the entries of a set of modifiers -/

namespace Modifiers

theorem filter_entriesAmong (m : Modifiers) (a : Axis) {axes : List Axis} (hn : axes.Nodup) :
    (axes.filterMap fun b => (m.slots.get b).map (b, ·)).filter (·.1 = a) =
      if a ∈ axes then ((m.slots.get a).map (a, ·)).toList else [] := by
  induction axes with
  | nil => rfl
  | cons b axes ih =>
    obtain ⟨hb, hn⟩ := List.nodup_cons.1 hn
    have ih := ih hn
    by_cases hab : a = b
    · -- the axis does not come again
      subst hab
      simp only [hb, if_false] at ih
      cases hs : m.slots.get a <;> simp [hs, ih]
    · have hba : b ≠ a := Ne.symm hab
      cases hs : m.slots.get b <;> simp [hs, hab, hba, ih]

/-- An axis has at most one entry. -/
theorem filter_entries (m : Modifiers) (a : Axis) :
    m.entries.filter (·.1 = a) = ((m.slots.get a).map (a, ·)).toList := by
  have h := m.filter_entriesAmong a Axis.nodup_all
  rwa [if_pos (Axis.mem_all a)] at h

/-- A fold over pairs whose steps touch `view` only on axis `a`. -/
theorem foldl_onAxis {σ τ : Type} (view : σ → τ) (step : σ → Axis × Int → σ)
    (on : τ → Int → τ) (a : Axis)
    (h : ∀ s p, view (step s p) = if a = p.1 then on (view s) p.2 else view s)
    (pairs : List (Axis × Int)) (s : σ) :
    view (pairs.foldl step s) =
      ((pairs.filter (·.1 = a)).map (·.2)).foldl on (view s) := by
  induction pairs generalizing s with
  | nil => rfl
  | cons p pairs ih =>
    rw [List.foldl_cons, ih, h]
    by_cases hp : a = p.1
    · simp [hp]
    · simp [hp, Ne.symm hp]

/-- A fold over the entries of a set, seen on one axis, is one step or none. -/
theorem foldl_entries {σ τ : Type} (view : σ → τ) (step : σ → Axis × Int → σ)
    (on : τ → Int → τ) (a : Axis)
    (h : ∀ s p, view (step s p) = if a = p.1 then on (view s) p.2 else view s)
    (m : Modifiers) (s : σ) :
    view (m.entries.foldl step s) = ((m.slots.get a).map (on (view s))).getD (view s) := by
  rw [foldl_onAxis view step on a h, filter_entries]
  cases m.slots.get a <;> rfl

/-- Stacking a set on top of another one adds its points on every axis. -/
theorem get_merge {m : Modifiers} {a : Axis} (h : InRange (m.get a)) (other : Modifiers) :
    (m.merge other).get a = saturate (m.get a + other.get a) := by
  have := foldl_entries (fun m : Modifiers => m.get a) (fun m p => m.add p.1 p.2)
    (fun n k => saturate (n + k)) a (fun s p => get_add s p.1 p.2 a) other m
  change (m.merge other).get a = _ at this
  rw [this]
  cases hs : other.slots.get a with
  | some n => simp [get, hs]
  | none =>
    -- nothing is added, which is no different from adding nothing, as the points are in range
    have h0 : other.get a = 0 := by simp [get, hs]
    rw [h0, Int.add_zero, saturate_of_inRange h]
    rfl

theorem get_mapValues {f : Int → Int} (hf : f 0 = 0) (m : Modifiers) (a : Axis) :
    (m.mapValues f).get a = f (m.get a) := by
  unfold mapValues get
  rw [PerAxis.get_map]
  cases m.slots.get a with
  | some n => rfl
  | none => exact hf.symm

/-- A set is neutral when it has no points on any axis. -/
theorem isNeutral_eq (m : Modifiers) : m.isNeutral = Axis.all.all fun a => m.get a == 0 := by
  unfold isNeutral entries
  rw [List.all_filterMap]
  congr 1
  funext a
  cases hs : m.slots.get a <;> simp [get, hs]

theorem get_of_isNeutral {m : Modifiers} (h : m.isNeutral = true) (a : Axis) : m.get a = 0 := by
  rw [isNeutral_eq, List.all_eq_true] at h
  simpa using h a (Axis.mem_all a)

end Modifiers

/-! ### Results on the axes -/

namespace AxisResults

theorem get_resolve (base : Modifiers) (deviation : Axis → Int) (a : Axis) :
    (resolve base deviation).get a = .sum (base.get a) (deviation a) := by
  simp [resolve]

theorem get_shiftBase (r : AxisResults) (axis : Axis) (points : Int) (a : Axis) :
    (r.shiftBase axis points).get a =
      if a = axis then .sum (saturate ((r.get a).base + points)) (r.get a).deviation
      else r.get a := by
  unfold shiftBase
  rw [PerAxis.get_update]

end AxisResults

end Reckoning
