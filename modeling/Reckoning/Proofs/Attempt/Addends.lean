import Reckoning.Engine.Attempt
import Reckoning.Proofs.SaturatingSum

/-!
# What is added on an axis

The results of an attempt come about in stages: contributions are stacked, the outcome is judged,
late traits shift the bases, degradations shift the recovery cost.  Seen on one axis this is one
chain of saturating additions.

* `Attempt.addends` lists the terms of that chain in order.
* `Attempt.get_judged` says what the outcome is judged by.
* `Attempt.get_axes` says that the result on an axis is the saturating sum of its addends,
  together with the luck drawn for it.
-/

namespace Reckoning

theorem get_total (cs : List Contribution) (a : Axis) :
    (total cs).get a = saturatingSum (cs.map (·.modifiers.get a)) := by
  induction cs using List.reverseRecOn with
  | nil => exact Modifiers.get_empty a
  | append_singleton cs c ih =>
    -- the total so far is in range, so stacking is one addition
    have hr : InRange ((total cs).get a) := ih ▸ inRange_saturatingSum _
    have hc : total (cs ++ [c]) = (total cs).merge c.modifiers := by simp [total]
    rw [hc, Modifiers.get_merge hr, ih, List.map_append, List.map_singleton, saturatingSum_concat]

/-- Luck stays within the spread. -/
theorem drawLuck_bounds (seed : UInt64) {spread : Int} (h : 0 ≤ spread) (a : Axis) :
    -spread ≤ (drawLuck seed spread).get a ∧ (drawLuck seed spread).get a ≤ spread := by
  have hs : max spread 0 = spread := max_eq_left h
  have hb (g : Generator) := g.between_bounds (by omega : -spread ≤ spread)
  unfold drawLuck
  rw [hs]
  cases a <;> exact hb _

namespace Attempt

variable (library : Library) (a : Attempt)

/-- The terms that are added on an axis, in the order in which they are added. -/
def addends (axis : Axis) : List Int :=
  (a.participants library).map (·.modifiers.get axis)
    ++ if axis = .recoveryCost then a.degradations library else []

variable {library a}

/-- Adding modifiers to the bases is one more addition on every axis. -/
theorem get_shiftAll {r : AxisResults} {axis : Axis} {xs : List Int} {luck : Int}
    (h : r.get axis = .sum (saturatingSum xs) luck) (m : Modifiers) :
    (shiftAll r m).get axis = .sum (saturatingSum (xs ++ [m.get axis])) luck := by
  have := Modifiers.foldl_entries (fun r : AxisResults => r.get axis)
    (fun r p => r.shiftBase p.1 p.2) (fun x n => .sum (saturate (x.base + n)) x.deviation)
    axis (fun r p => r.get_shiftBase p.1 p.2 axis) m r
  change (shiftAll r m).get axis = _ at this
  rw [this, h, saturatingSum_concat]
  cases hs : m.slots.get axis with
  | some n => simp [Modifiers.get, hs, AxisResult.sum]
  | none =>
    -- an axis without an entry is left alone, which adds nothing to a sum in range
    have h0 : m.get axis = 0 := by simp [Modifiers.get, hs]
    rw [h0, Int.add_zero, saturate_of_inRange (inRange_saturatingSum xs)]
    rfl

theorem get_shiftLate {r : AxisResults} {axis : Axis} {xs : List Int} {luck : Int}
    (h : r.get axis = .sum (saturatingSum xs) luck) (late : List Source) :
    (late.foldl (fun r s => shiftAll r s.modifiers) r).get axis =
      .sum (saturatingSum (xs ++ late.map (·.modifiers.get axis))) luck := by
  induction late generalizing r xs with
  | nil => simpa using h
  | cons s late ih =>
    rw [List.foldl_cons, ih (get_shiftAll h s.modifiers)]
    simp

theorem get_shiftDegradations {r : AxisResults} {axis : Axis} {xs : List Int} {luck : Int}
    (h : r.get axis = .sum (saturatingSum xs) luck) (ns : List Int) :
    (ns.foldl (fun r n => r.shiftBase .recoveryCost n) r).get axis =
      .sum (saturatingSum (xs ++ if axis = .recoveryCost then ns else [])) luck := by
  induction ns generalizing r xs with
  | nil => simpa using h
  | cons n ns ih =>
    rw [List.foldl_cons]
    by_cases ha : axis = .recoveryCost
    · have hn : (r.shiftBase .recoveryCost n).get axis = .sum (saturatingSum (xs ++ [n])) luck := by
        rw [AxisResults.get_shiftBase, if_pos ha, h, saturatingSum_concat]
        rfl
      rw [ih hn]
      simp [ha]
    · have hn : (r.shiftBase .recoveryCost n).get axis = .sum (saturatingSum xs) luck := by
        rw [AxisResults.get_shiftBase, if_neg ha, h]
      rw [ih hn]
      simp [ha]

/-- The outcome is judged by the saturating sum of what took part before it. -/
theorem get_judged (library : Library) (a : Attempt) (axis : Axis) :
    (a.judged library).get axis =
      .sum (saturatingSum ((a.contributions library).map (·.modifiers.get axis)))
        (a.luck.get axis) := by
  unfold judged
  rw [AxisResults.get_resolve, get_total]

/-- **The result on an axis is the saturating sum of its addends**, with the luck drawn for it. -/
theorem get_axes (library : Library) (a : Attempt) (axis : Axis) :
    (a.axes library).get axis =
      .sum (saturatingSum (a.addends library axis)) (a.luck.get axis) := by
  -- the stages after the judgement go on with the same chain
  have hl := get_shiftDegradations (get_shiftLate (a.get_judged library axis) (a.late library))
    (a.degradations library)
  have hp : (a.contributions library).map (·.modifiers.get axis) ++
      (a.late library).map (·.modifiers.get axis) =
        (a.participants library).map (·.modifiers.get axis) := by
    simp only [participants, List.map_append, List.map_map]
    rfl
  rw [hp] at hl
  exact hl

end Attempt

end Reckoning
