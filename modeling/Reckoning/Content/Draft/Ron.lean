import Reckoning.Content.Draft
import Reckoning.Ron.Decode

/-!
# Reading drafts

How the drafts are written in content files.  Only the id has to be there.

* `Draft.ofRon?` reads a draft of a kind.
-/

namespace Reckoning

open Ron (Decoder Value fieldsOf? required optional)

/-- An id. -/
def DefId.ofRon? : Decoder DefId := fun v => DefId.mk <$> Ron.text v

namespace Draft

/-- A list of ids. -/
def ids : Decoder (List DefId) := Ron.list DefId.ofRon?

/-- A list of names. -/
def names : Decoder (List String) := Ron.list Ron.text

/-- Modifiers by the names of their axes. -/
def points : Decoder (List (String × Int)) := Ron.mapOf Ron.int32

/-- The triggers of a definition that names none. -/
def defaultTriggers : List String := [Trigger.always.name]

/-- The weight of a definition that names none. -/
def defaultWeight : Float := 1.0

/-- A row of interactions, without the quirk that it is about. -/
def interaction : Decoder (Effect × String) := fun v => do
  let fs ← fieldsOf? "Interaction" false v
  return (← required fs "effect" (Ron.oneOf Effect.ofName?),
    ← optional fs "note" "" Ron.text)

/-- A table of interactions, by the ids of the quirks. -/
def interactions : Decoder (List Interaction) := fun v => do
  return (← Ron.mapOf interaction v).map fun r => ⟨⟨r.1⟩, r.2.1, r.2.2⟩

/-- A severity. -/
def severity : Decoder Severity := Ron.oneOf Severity.ofName?

/-- Read a quirk. -/
def quirkOfRon? : Decoder QuirkDraft := fun v => do
  let fs ← fieldsOf? "RawQuirkDef" false v
  return {
    id := ← required fs "id" DefId.ofRon?
    category := ← optional fs "category" ⟨"general"⟩ DefId.ofRon?
    weight := ← optional fs "rarity_weight" defaultWeight Ron.real
    triggers := ← optional fs "triggers" defaultTriggers names
    modifiers := ← optional fs "modifiers" [] points
    severity := ← optional fs "severity" .minor severity
    discovery := ← optional fs "discovery" .visible (Ron.oneOf Discovery.ofName?)
    reinterpretsFailure := ← optional fs "reinterprets_failure" false Ron.bool
    description := ← optional fs "description" "" Ron.text }

/-- Read a failing. -/
def failingOfRon? : Decoder FailingDraft := fun v => do
  let fs ← fieldsOf? "RawFailingDef" false v
  return {
    id := ← required fs "id" DefId.ofRon?
    severity := ← optional fs "severity" .minor severity
    affected := ← optional fs "affected_attributes" [] names
    triggers := ← optional fs "triggers" defaultTriggers names
    modifiers := ← optional fs "modifiers" [] points
    magnitude := ← optional fs "magnitude" (0, 0) (Ron.pair Ron.int32 Ron.int32)
    appliesOnSuccess := ← optional fs "applies_on_success" true Ron.bool
    weight := ← optional fs "rarity_weight" defaultWeight Ron.real
    description := ← optional fs "description" "" Ron.text }

/-- Read a useless bit. -/
def uselessBitOfRon? : Decoder UselessBitDraft := fun v => do
  let fs ← fieldsOf? "RawUselessBitDef" false v
  return {
    id := ← required fs "id" DefId.ofRon?
    triggers := ← optional fs "triggers" defaultTriggers names
    bonus := ← optional fs "bonus" [] points
    penalty := ← optional fs "penalty" [] points
    weight := ← optional fs "rarity_weight" defaultWeight Ron.real
    description := ← optional fs "description" "" Ron.text }

/-- Read an item quirk. -/
def itemQuirkOfRon? : Decoder ItemQuirkDraft := fun v => do
  let fs ← fieldsOf? "RawItemQuirkDef" false v
  return {
    id := ← required fs "id" DefId.ofRon?
    modifiers := ← optional fs "modifiers" [] points
    actions := ← optional fs "action_types" [] ids
    interactions := ← optional fs "interactions" [] interactions
    description := ← optional fs "description" "" Ron.text }

/-- Read an item type. -/
def itemTypeOfRon? : Decoder ItemType := fun v => do
  let fs ← fieldsOf? "ItemTypeDef" false v
  return {
    id := ← required fs "id" DefId.ofRon?
    defaultQuirks := ← optional fs "default_quirks" [] ids
    description := ← optional fs "description" "" Ron.text }

/-- Read an environmental quirk. -/
def environmentalQuirkOfRon? : Decoder EnvironmentalQuirkDraft := fun v => do
  let fs ← fieldsOf? "RawEnvironmentalQuirkDef" false v
  return {
    id := ← required fs "id" DefId.ofRon?
    roomTypes := ← optional fs "room_types" [] ids
    modifiers := ← optional fs "modifiers" [] points
    actions := ← optional fs "action_types" [] ids
    severity := ← optional fs "severity" .minor severity
    description := ← optional fs "description" "" Ron.text }

/-- Read an action. -/
def actionOfRon? : Decoder ActionDraft := fun v => do
  let fs ← fieldsOf? "RawActionDef" false v
  return {
    id := ← required fs "id" DefId.ofRon?
    threshold := ← optional fs "deviation_threshold" 2 Ron.int32
    floor := ← optional fs "stability_floor" 0 Ron.int32
    spread := ← optional fs "deviation_spread" 3 Ron.int32
    highRisk := ← optional fs "high_risk" false Ron.bool
    itemTypes := ← optional fs "item_types" [] ids
    unarmedModifiers := ← optional fs "unarmed_modifiers" [] points
    description := ← optional fs "description" "" Ron.text }

/-- Read a reputation to start from. -/
def reputationBiasOfRon? : Decoder ReputationBias := fun v => do
  let fs ← fieldsOf? "ReputationBias" false v
  return {
    id := ← required fs "id" DefId.ofRon?
    weight := ← optional fs "weight" defaultWeight Ron.real
    score := ← optional fs "score" 0 Ron.int32
    notes := ← optional fs "notes" "" Ron.text }

/-- Read a draft of a kind. -/
def ofRon? (kind : Kind) (v : Value) : Option Draft :=
  match kind with
  | .quirk => quirk <$> quirkOfRon? v
  | .failing => failing <$> failingOfRon? v
  | .uselessBit => uselessBit <$> uselessBitOfRon? v
  | .itemQuirk => itemQuirk <$> itemQuirkOfRon? v
  | .itemType => itemType <$> itemTypeOfRon? v
  | .environmentalQuirk => environmentalQuirk <$> environmentalQuirkOfRon? v
  | .action => action <$> actionOfRon? v
  | .reputationBias => reputationBias <$> reputationBiasOfRon? v

/-- Read the id alone, of a definition of any kind. -/
def idOfRon? (v : Value) : Option DefId := do
  required (← fieldsOf? "Named" false v) "id" DefId.ofRon?

end Draft

end Reckoning
