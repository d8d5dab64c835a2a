import Reckoning.RuleError

/-!
# Axes

An action unfolds along six independent axes.

* `Axis` is one of them, `Axis.all` lists them in the order in which luck is drawn.
* `PerAxis α` holds one `α` for each axis, read with `get` and changed with `update`.
-/

namespace Reckoning

/-- A dimension along which an action unfolds. -/
inductive Axis
  | timing
  | precision
  | stability
  | visibility
  | interpretability
  | recoveryCost
deriving DecidableEq, Repr

namespace Axis

/-- Every axis, in the order in which luck is drawn. -/
def all : List Axis :=
  [timing, precision, stability, visibility, interpretability, recoveryCost]

/-- The written name of an axis. -/
def name : Axis → String
  | timing => "timing"
  | precision => "precision"
  | stability => "stability"
  | visibility => "visibility"
  | interpretability => "interpretability"
  | recoveryCost => "recovery_cost"

/-- The axis with a written name. -/
def ofName? (text : String) : Option Axis := all.find? (·.name == text)

/-- The axis with a written name, or the rule that the name breaks. -/
def ofName (text : String) : Except RuleError Axis :=
  match ofName? text with
  | some axis => .ok axis
  | none => .error (.unknownAxis text)

@[simp] theorem mem_all (a : Axis) : a ∈ all := by cases a <;> decide

theorem nodup_all : all.Nodup := by decide

theorem ofName?_name (a : Axis) : ofName? a.name = some a := by cases a <;> decide

end Axis

/-- One value for each axis. -/
structure PerAxis (α : Type) where
  timing : α
  precision : α
  stability : α
  visibility : α
  interpretability : α
  recoveryCost : α
deriving DecidableEq, Repr

namespace PerAxis

variable {α β : Type}

/-- The value on an axis. -/
def get (p : PerAxis α) : Axis → α
  | .timing => p.timing
  | .precision => p.precision
  | .stability => p.stability
  | .visibility => p.visibility
  | .interpretability => p.interpretability
  | .recoveryCost => p.recoveryCost

/-- The table of a function on axes. -/
def ofFn (f : Axis → α) : PerAxis α where
  timing := f .timing
  precision := f .precision
  stability := f .stability
  visibility := f .visibility
  interpretability := f .interpretability
  recoveryCost := f .recoveryCost

/-- Change the value on one axis. -/
def update (p : PerAxis α) (axis : Axis) (f : α → α) : PerAxis α :=
  ofFn fun a => if a = axis then f (p.get a) else p.get a

/-- Change every value. -/
def map (f : α → β) (p : PerAxis α) : PerAxis β := ofFn fun a => f (p.get a)

/-- The values with their axes, in the order of `Axis.all`. -/
def toList (p : PerAxis α) : List (Axis × α) := Axis.all.map fun a => (a, p.get a)

@[simp] theorem get_ofFn (f : Axis → α) (a : Axis) : (ofFn f).get a = f a := by
  cases a <;> rfl

@[simp] theorem get_map (f : α → β) (p : PerAxis α) (a : Axis) :
    (p.map f).get a = f (p.get a) := by simp [map]

theorem get_update (p : PerAxis α) (axis : Axis) (f : α → α) (a : Axis) :
    (p.update axis f).get a = if a = axis then f (p.get a) else p.get a := by
  simp [update]

@[ext] theorem ext_get {p q : PerAxis α} (h : ∀ a, p.get a = q.get a) : p = q := by
  have h1 := h .timing
  have h2 := h .precision
  have h3 := h .stability
  have h4 := h .visibility
  have h5 := h .interpretability
  have h6 := h .recoveryCost
  cases p
  cases q
  simp_all [get]

end PerAxis

end Reckoning
