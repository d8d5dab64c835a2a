import Reckoning.Character
import Reckoning.Content.Action
import Reckoning.Content.Gear
import Reckoning.Content.Place
import Reckoning.Content.Trait

/-!
# Definitions

* `Definition` is a definition of any kind, with its `Kind` and its id.
* `ReputationBias` is a reputation that characters start from.
-/

namespace Reckoning

/-- A reputation to start from. -/
structure ReputationBias where
  id : DefId
  weight : Float
  score : Int
  notes : String

/-- The reputation that a character starts from. -/
def ReputationBias.reputation (b : ReputationBias) : Reputation := ⟨b.score, b.notes⟩

/-- The kinds of definitions. -/
inductive Kind
  | quirk
  | failing
  | uselessBit
  | itemQuirk
  | itemType
  | environmentalQuirk
  | action
  | reputationBias
deriving DecidableEq, Repr

/-- The name by which messages call a kind. -/
def Kind.name : Kind → String
  | quirk => "quirk"
  | failing => "failing"
  | uselessBit => "useless bit"
  | itemQuirk => "item quirk"
  | itemType => "item type"
  | environmentalQuirk => "environmental quirk"
  | action => "action"
  | reputationBias => "reputation bias"

/-- The name by which requests call a kind. -/
def Kind.word : Kind → String
  | quirk => "quirk"
  | failing => "failing"
  | uselessBit => "useless_bit"
  | itemQuirk => "item_quirk"
  | itemType => "item_type"
  | environmentalQuirk => "environmental_quirk"
  | action => "action"
  | reputationBias => "reputation_bias"

/-- Every kind, in the order in which content is loaded. -/
def Kind.all : List Kind :=
  [quirk, failing, uselessBit, itemQuirk, itemType, environmentalQuirk, action, reputationBias]

/-- The kind that requests call by a name. -/
def Kind.ofWord? (text : String) : Option Kind := all.find? (·.word == text)

/-- A definition of any kind. -/
inductive Definition
  | quirk (d : Quirk)
  | failing (d : Failing)
  | uselessBit (d : UselessBit)
  | itemQuirk (d : ItemQuirk)
  | itemType (d : ItemType)
  | environmentalQuirk (d : EnvironmentalQuirk)
  | action (d : Action)
  | reputationBias (d : ReputationBias)

namespace Definition

/-- The kind of a definition. -/
def kind : Definition → Kind
  | quirk _ => .quirk
  | failing _ => .failing
  | uselessBit _ => .uselessBit
  | itemQuirk _ => .itemQuirk
  | itemType _ => .itemType
  | environmentalQuirk _ => .environmentalQuirk
  | action _ => .action
  | reputationBias _ => .reputationBias

/-- The id of a definition. -/
def id : Definition → DefId
  | quirk d => d.id
  | failing d => d.id
  | uselessBit d => d.id
  | itemQuirk d => d.id
  | itemType d => d.id
  | environmentalQuirk d => d.id
  | action d => d.id
  | reputationBias d => d.id

end Definition

end Reckoning
