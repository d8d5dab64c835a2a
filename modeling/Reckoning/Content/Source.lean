import Reckoning.Content.Definition

/-!
# Sources of modifiers

Traits, item quirks and environmental quirks all contribute in the same way: under some
circumstances, or after some outcome, they add their modifiers.

* `Source` is what they have in common; `Scope` says when it contributes.
* `Source.applies` decides it before the outcome is known, `Source.appliesAfter` once it is.
-/

namespace Reckoning

/-- Where a contribution comes from. -/
inductive Origin
  | quirk
  | failing
  | uselessBit
  | item
  | environment
deriving DecidableEq, Repr

namespace Origin

/-- The written name of an origin. -/
def name : Origin → String
  | quirk => "quirk"
  | failing => "failing"
  | uselessBit => "useless_bit"
  | item => "item"
  | environment => "environment"

/-- The contribution is the character's own. -/
def isControlled : Origin → Bool
  | quirk => true
  | failing => true
  | uselessBit => true
  | item => false
  | environment => false

end Origin

/-- When a source contributes. -/
inductive Scope
  /-- When one of the triggers matches. -/
  | triggered (triggers : List Trigger)
  /-- In these types of rooms and for these actions.  An empty list stands for all. -/
  | confined (roomTypes actions : List DefId)
deriving DecidableEq, Repr

/-- Something that contributes modifiers. -/
structure Source where
  id : DefId
  origin : Origin
  scope : Scope
  modifiers : Modifiers
deriving DecidableEq, Repr

namespace Source

/-- A list of ids is open to an id. -/
def isOpenTo (ids : List DefId) (id : DefId) : Bool := ids.isEmpty || ids.contains id

/-- The source contributes before the outcome is known. -/
def applies (s : Source) (c : Circumstances) : Bool :=
  match s.scope with
  | .triggered ts => ts.any (·.holdsIn c)
  | .confined roomTypes actions => isOpenTo roomTypes c.roomType && isOpenTo actions c.action

/-- The source waits for this outcome. -/
def appliesAfter (s : Source) (o : Outcome) : Bool :=
  match s.scope with
  | .triggered ts => ts.any (·.holdsAfter o)
  | .confined _ _ => false

end Source

/-- What a quirk contributes. -/
def Quirk.source (d : Quirk) : Source := ⟨d.id, .quirk, .triggered d.triggers, d.modifiers⟩

/-- What a failing contributes, apart from its degradation. -/
def Failing.source (d : Failing) : Source :=
  ⟨d.id, .failing, .triggered d.triggers, d.modifiers⟩

/-- What a useless bit contributes. -/
def UselessBit.source (d : UselessBit) : Source :=
  ⟨d.id, .uselessBit, .triggered d.triggers, d.combined⟩

/-- What an item quirk contributes, apart from its interactions. -/
def ItemQuirk.source (d : ItemQuirk) : Source :=
  ⟨d.id, .item, .confined [] d.actions, d.modifiers⟩

/-- What an environmental quirk contributes. -/
def EnvironmentalQuirk.source (d : EnvironmentalQuirk) : Source :=
  ⟨d.id, .environment, .confined d.roomTypes d.actions, d.modifiers⟩

/-- What a definition contributes, if its kind contributes. -/
def Definition.source? : Definition → Option Source
  | .quirk d => some d.source
  | .failing d => some d.source
  | .uselessBit d => some d.source
  | .itemQuirk d => some d.source
  | .environmentalQuirk d => some d.source
  | .itemType _ => none
  | .action _ => none
  | .reputationBias _ => none

end Reckoning
