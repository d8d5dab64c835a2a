import Reckoning.Identity
import Reckoning.Modifiers

/-!
# Items and their quirks

* `ItemQuirk` is a property of an item, with a table of the quirks of characters that it
  interacts with.
* `Effect.applyTo` is what an interaction adds.
* `ItemType` is a kind of item and what its items start with.
-/

namespace Reckoning

/-- What a quirk of an item does with a quirk of a character. -/
inductive Effect
  /-- The character's quirk counts again. -/
  | amplify
  /-- Half of the character's quirk is taken back. -/
  | dampen
deriving DecidableEq, Repr

namespace Effect

/-- The written name of an effect. -/
def name : Effect → String
  | amplify => "amplify"
  | dampen => "dampen"

/-- The effect with a written name. -/
def ofName? (text : String) : Option Effect := [amplify, dampen].find? (·.name == text)

/-- What is added to the modifiers of the character's quirk.  Halves are rounded toward
zero. -/
def applyTo (e : Effect) (m : Modifiers) : Modifiers :=
  match e with
  | amplify => m
  | dampen => m.mapValues fun n => -(n.tdiv 2)

end Effect

/-- A row in the table of an item quirk. -/
structure Interaction where
  /-- The quirk of the character. -/
  quirk : DefId
  effect : Effect
  note : String
deriving DecidableEq, Repr

/-- A property of an item. -/
structure ItemQuirk where
  id : DefId
  modifiers : Modifiers
  /-- The actions that it bends; all of them if there is none. -/
  actions : List DefId
  /-- The table of interactions, in the order of the quirk ids. -/
  interactions : List Interaction
  description : String

/-- The item quirk bends an action. -/
def ItemQuirk.appliesTo (q : ItemQuirk) (action : DefId) : Bool :=
  q.actions.isEmpty || q.actions.contains action

/-- A kind of item. -/
structure ItemType where
  id : DefId
  /-- The quirks that every item of the kind starts with. -/
  defaultQuirks : List DefId
  description : String
deriving DecidableEq, Repr

end Reckoning
