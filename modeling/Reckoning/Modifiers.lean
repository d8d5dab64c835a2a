import Reckoning.Axis
import Reckoning.Saturation

/-!
# Modifiers

A set of modifiers assigns points to some of the axes.  An axis without an entry counts as
zero; an entry of zero is kept, so a set remembers which axes were named.

* `Modifiers.add` and `Modifiers.merge` stack sets on top of each other, saturating.
* `Modifiers.get` is the view that the rules of resolution read.
-/

namespace Reckoning

/-- Points on some of the axes. -/
structure Modifiers where
  /-- The entry of each axis, if it has one. -/
  slots : PerAxis (Option Int)
deriving DecidableEq, Repr

namespace Modifiers

/-- The set without entries. -/
def empty : Modifiers := ⟨.ofFn fun _ => none⟩

instance : EmptyCollection Modifiers := ⟨empty⟩

instance : Inhabited Modifiers := ⟨empty⟩

/-- The points on an axis, zero where it has no entry. -/
def get (m : Modifiers) (axis : Axis) : Int := (m.slots.get axis).getD 0

/-- Add points on one axis. -/
def add (m : Modifiers) (axis : Axis) (points : Int) : Modifiers :=
  ⟨m.slots.update axis fun entry => some (saturate (entry.getD 0 + points))⟩

/-- The entries, in the order of the axes. -/
def entries (m : Modifiers) : List (Axis × Int) :=
  Axis.all.filterMap fun a => (m.slots.get a).map (a, ·)

/-- Add pairs of an axis and points, one after the other. -/
def addAll (m : Modifiers) (pairs : List (Axis × Int)) : Modifiers :=
  pairs.foldl (fun acc p => acc.add p.1 p.2) m

/-- The sum of pairs of an axis and points. -/
def ofPairs (pairs : List (Axis × Int)) : Modifiers := empty.addAll pairs

/-- Stack another set on top of this one. -/
def merge (m other : Modifiers) : Modifiers := m.addAll other.entries

/-- Change the points of every entry. -/
def mapValues (f : Int → Int) (m : Modifiers) : Modifiers := ⟨m.slots.map (·.map f)⟩

/-- The sum over all entries, in the order of the axes, saturating at every step. -/
def net (m : Modifiers) : Int := m.entries.foldl (fun acc p => saturate (acc + p.2)) 0

/-- No entry differs from zero. -/
def isNeutral (m : Modifiers) : Bool := m.entries.all (·.2 == 0)

/-- Read pairs of an axis name and points; the first unknown name is the error. -/
def ofNamed (pairs : List (String × Int)) : Except RuleError Modifiers :=
  ofPairs <$> pairs.mapM fun p => (·, p.2) <$> Axis.ofName p.1

@[simp] theorem get_empty (a : Axis) : empty.get a = 0 := by simp [empty, get]

theorem get_add (m : Modifiers) (axis : Axis) (points : Int) (a : Axis) :
    (m.add axis points).get a =
      if a = axis then saturate (m.get a + points) else m.get a := by
  unfold get add
  rw [PerAxis.get_update]
  split <;> simp

theorem mem_entries {m : Modifiers} {a : Axis} {n : Int} :
    (a, n) ∈ m.entries ↔ m.slots.get a = some n := by
  simp only [entries, List.mem_filterMap, Option.map_eq_some_iff, Prod.mk.injEq]
  constructor
  · rintro ⟨b, -, k, hk, rfl, rfl⟩
    exact hk
  · intro h
    exact ⟨a, Axis.mem_all a, n, h, rfl, rfl⟩

end Modifiers

/-- How an action came out on one axis. -/
structure AxisResult where
  /-- The points of everything that took part. -/
  base : Int
  /-- The luck that was drawn. -/
  deviation : Int
  /-- What counts in the end. -/
  final : Int
deriving DecidableEq, Repr

/-- The result of a base and a deviation. -/
def AxisResult.sum (base deviation : Int) : AxisResult :=
  ⟨base, deviation, saturate (base + deviation)⟩

/-- The results on all axes. -/
abbrev AxisResults := PerAxis AxisResult

namespace AxisResults

/-- Results from the points on each axis and the luck drawn for it. -/
def resolve (base : Modifiers) (deviation : Axis → Int) : AxisResults :=
  .ofFn fun a => .sum (base.get a) (deviation a)

/-- Move the base of one axis, keeping the luck that was drawn. -/
def shiftBase (r : AxisResults) (axis : Axis) (points : Int) : AxisResults :=
  r.update axis fun x => .sum (saturate (x.base + points)) x.deviation

end AxisResults

end Reckoning
