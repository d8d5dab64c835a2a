import Reckoning.RuleError

/-!
# Attributes

A character has seven attributes, each from one to ten.

* `AttributeSet.ofValues` admits seven values, or names the first attribute out of range.
* `AttributeSet.get` reads one of them; `AttributeSet.get_bounds` says that it is in range.
* `AttributeSet.spread` is the distance between the best and the worst.
-/

namespace Reckoning

/-- An attribute of a character. -/
inductive Attribute
  | cunning
  | gripStrength
  | patience
  | spatialSense
  | stamina
  | bookLearning
  | administrativeLuck
deriving DecidableEq, Repr

namespace Attribute

/-- Every attribute, in the order in which a character sheet lists them. -/
def all : List Attribute :=
  [cunning, gripStrength, patience, spatialSense, stamina, bookLearning, administrativeLuck]

/-- The written name of an attribute. -/
def name : Attribute → String
  | cunning => "cunning"
  | gripStrength => "grip_strength"
  | patience => "patience"
  | spatialSense => "spatial_sense"
  | stamina => "stamina"
  | bookLearning => "book_learning"
  | administrativeLuck => "administrative_luck"

/-- The attribute with a written name, or the rule that the name breaks. -/
def ofName (text : String) : Except RuleError Attribute :=
  match all.find? (·.name == text) with
  | some a => .ok a
  | none => .error (.unknownAttribute text)

/-- The place of an attribute on a character sheet. -/
def index : Attribute → Nat
  | cunning => 0
  | gripStrength => 1
  | patience => 2
  | spatialSense => 3
  | stamina => 4
  | bookLearning => 5
  | administrativeLuck => 6

theorem index_lt (a : Attribute) : a.index < 7 := by cases a <;> decide

end Attribute

/-- The smallest value of an attribute. -/
def leastAttribute : Int := 1

/-- The largest value of an attribute. -/
def mostAttribute : Int := 10

/-- Seven attribute values, all of them in range. -/
structure AttributeSet where
  /-- The values, in the order of `Attribute.all`. -/
  values : List Int
  length_eq : values.length = 7
  bounds : ∀ v ∈ values, leastAttribute ≤ v ∧ v ≤ mostAttribute
deriving DecidableEq, Repr

namespace AttributeSet

/-- The first attribute whose value is out of range. -/
def firstOutside? (values : List Int) : Option (Attribute × Int) :=
  (Attribute.all.zip values).find? fun p =>
    !decide (leastAttribute ≤ p.2 ∧ p.2 ≤ mostAttribute)

theorem bounds_of_firstOutside?_eq_none {values : List Int} (hl : values.length = 7)
    (h : firstOutside? values = none) :
    ∀ v ∈ values, leastAttribute ≤ v ∧ v ≤ mostAttribute := by
  intro v hv
  have hz : (Attribute.all.zip values).map Prod.snd = values :=
    List.map_snd_zip (by rw [hl]; decide)
  rw [← hz, List.mem_map] at hv
  obtain ⟨p, hp, rfl⟩ := hv
  simpa using List.find?_eq_none.1 h p hp

/-- Admit seven values, or name the first attribute out of range. -/
def ofValues (values : List Int) (hl : values.length = 7) : Except RuleError AttributeSet :=
  match h : firstOutside? values with
  | some (a, v) => .error (.attributeOutOfRange a.name v)
  | none => .ok ⟨values, hl, bounds_of_firstOutside?_eq_none hl h⟩

/-- The value of one attribute. -/
def get (s : AttributeSet) (a : Attribute) : Int :=
  s.values.get ⟨a.index, by rw [s.length_eq]; exact a.index_lt⟩

theorem get_bounds (s : AttributeSet) (a : Attribute) :
    leastAttribute ≤ s.get a ∧ s.get a ≤ mostAttribute :=
  s.bounds _ (List.get_mem _ _)

/-- The values with their attributes. -/
def toList (s : AttributeSet) : List (Attribute × Int) := Attribute.all.zip s.values

/-- The largest value less the smallest. -/
def spread (s : AttributeSet) : Int :=
  s.values.max?.getD leastAttribute - s.values.min?.getD leastAttribute

theorem values_of_ofValues {values : List Int} {hl : values.length = 7} {s : AttributeSet}
    (h : ofValues values hl = .ok s) : s.values = values := by
  unfold ofValues at h
  split at h
  · cases h
  · cases h
    rfl

theorem le_spread (s : AttributeSet) {a b : Int} (ha : a ∈ s.values) (hb : b ∈ s.values) :
    a - b ≤ s.spread := by
  have hmax : a ≤ s.values.max?.getD leastAttribute := by
    cases hm : s.values.max? with
    | none => simp_all
    | some m => exact (List.max?_eq_some_iff.1 hm).2 a ha
  have hmin : s.values.min?.getD leastAttribute ≤ b := by
    cases hm : s.values.min? with
    | none => simp_all
    | some m => exact (List.min?_eq_some_iff.1 hm).2 b hb
  unfold spread
  omega

end AttributeSet

end Reckoning
