import Reckoning.Content.Definition
import Reckoning.Stored.Character

/-!
# Stored form of definitions

How the definitions of each kind look in JSON.  `Definition.toJson` writes a definition of any
kind.
-/

namespace Reckoning

open Json (Value)

/-- A list of ids. -/
def idsToJson (ids : List DefId) : Value := .list (ids.map DefId.toJson)

/-- A list of triggers. -/
def triggersToJson (triggers : List Trigger) : Value := .list (triggers.map Trigger.toJson)

/-- The stored form. -/
def Quirk.toJson (d : Quirk) : Value := .table [
  ("id", d.id.toJson),
  ("category", d.category.toJson),
  ("rarity_weight", .real d.weight),
  ("triggers", triggersToJson d.triggers),
  ("modifiers", d.modifiers.toJson),
  ("severity", .text d.severity.name),
  ("discovery", .text d.discovery.name),
  ("reinterprets_failure", .bool d.reinterpretsFailure),
  ("description", .text d.description)]

/-- The stored form. -/
def Failing.toJson (d : Failing) : Value := .table [
  ("id", d.id.toJson),
  ("severity", .text d.severity.name),
  ("affected_attributes", .texts (d.affected.map Attribute.name)),
  ("triggers", triggersToJson d.triggers),
  ("modifiers", d.modifiers.toJson),
  ("magnitude", .list [.int d.leastMagnitude, .int d.mostMagnitude]),
  ("applies_on_success", .bool d.appliesOnSuccess),
  ("rarity_weight", .real d.weight),
  ("description", .text d.description)]

/-- The stored form. -/
def UselessBit.toJson (d : UselessBit) : Value := .table [
  ("id", d.id.toJson),
  ("triggers", triggersToJson d.triggers),
  ("bonus", d.bonus.toJson),
  ("penalty", d.penalty.toJson),
  ("rarity_weight", .real d.weight),
  ("description", .text d.description)]

/-- The stored form: a member named by the quirk. -/
def Interaction.toMember (i : Interaction) : String × Value :=
  (i.quirk.text, .table [("effect", .text i.effect.name), ("note", .text i.note)])

/-- The stored form. -/
def ItemQuirk.toJson (d : ItemQuirk) : Value := .table [
  ("id", d.id.toJson),
  ("modifiers", d.modifiers.toJson),
  ("action_types", idsToJson d.actions),
  ("interactions", .table (d.interactions.map Interaction.toMember)),
  ("description", .text d.description)]

/-- The stored form. -/
def ItemType.toJson (d : ItemType) : Value := .table [
  ("id", d.id.toJson),
  ("default_quirks", idsToJson d.defaultQuirks),
  ("description", .text d.description)]

/-- The stored form. -/
def EnvironmentalQuirk.toJson (d : EnvironmentalQuirk) : Value := .table [
  ("id", d.id.toJson),
  ("room_types", idsToJson d.roomTypes),
  ("modifiers", d.modifiers.toJson),
  ("action_types", idsToJson d.actions),
  ("severity", .text d.severity.name),
  ("description", .text d.description)]

/-- The stored form. -/
def Action.toJson (d : Action) : Value := .table [
  ("id", d.id.toJson),
  ("deviation_threshold", .int d.threshold),
  ("stability_floor", .int d.floor),
  ("deviation_spread", .int d.spread),
  ("high_risk", .bool d.highRisk),
  ("item_types", idsToJson d.itemTypes),
  ("unarmed_modifiers", d.unarmedModifiers.toJson),
  ("description", .text d.description)]

/-- The stored form. -/
def ReputationBias.toJson (d : ReputationBias) : Value := .table [
  ("id", d.id.toJson),
  ("weight", .real d.weight),
  ("score", .int d.score),
  ("notes", .text d.notes)]

/-- The stored form of a definition of any kind. -/
def Definition.toJson : Definition → Value
  | .quirk d => d.toJson
  | .failing d => d.toJson
  | .uselessBit d => d.toJson
  | .itemQuirk d => d.toJson
  | .itemType d => d.toJson
  | .environmentalQuirk d => d.toJson
  | .action d => d.toJson
  | .reputationBias d => d.toJson

end Reckoning
