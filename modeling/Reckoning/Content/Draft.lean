import Reckoning.Content.Refusal

/-!
# Drafts

A draft is a definition as it is written, with axes, triggers and attributes by name.  Checking
a draft makes a definition of it or names the first rule that it breaks.

* `checkModifiers`, `checkTriggers`, `checkBounded` and `checkWeight` are the rules that the
  kinds share.
* `Draft` is a draft of any kind; `Draft.check` checks it.
-/

namespace Reckoning

/-! ### Rules -/

/-- An integer may not be farther from zero than `contentLimit`. -/
def checkBounded (what : String) (value : Int) : Except Refusal Unit :=
  if -contentLimit ≤ value ∧ value ≤ contentLimit then .ok ()
  else .error (.outOfBounds what value)

/-- Modifiers by the names of their axes.  Every value is checked before the first name. -/
def checkModifiers (raw : List (String × Int)) : Except Refusal Modifiers := do
  raw.forM fun p => checkBounded s!"modifier '{p.1}'" p.2
  (Modifiers.ofNamed raw).mapError .rule

/-- Triggers by their names.  There has to be one. -/
def checkTriggers (raw : List String) : Except Refusal (List Trigger) :=
  if raw.isEmpty then .error .noTrigger
  else (raw.mapM Trigger.ofName).mapError .rule

/-- A weight has to be finite and above zero. -/
def checkWeight (weight : Float) : Except Refusal Unit :=
  if weight.isFinite && 0.0 < weight then .ok () else .error (.weight weight)

/-! ### Drafts of each kind -/

/-- A quirk as it is written. -/
structure QuirkDraft where
  id : DefId
  category : DefId
  weight : Float
  triggers : List String
  modifiers : List (String × Int)
  severity : Severity
  discovery : Discovery
  reinterpretsFailure : Bool
  description : String

/-- Check a quirk. -/
def QuirkDraft.check (d : QuirkDraft) : Except Refusal Quirk := do
  checkWeight d.weight
  let triggers ← checkTriggers d.triggers
  let modifiers ← checkModifiers d.modifiers
  return { d with triggers, modifiers }

/-- A failing as it is written. -/
structure FailingDraft where
  id : DefId
  severity : Severity
  affected : List String
  triggers : List String
  modifiers : List (String × Int)
  magnitude : Int × Int
  appliesOnSuccess : Bool
  weight : Float
  description : String

/-- Check a failing. -/
def FailingDraft.check (d : FailingDraft) : Except Refusal Failing := do
  let (leastMagnitude, mostMagnitude) := d.magnitude
  if leastMagnitude < 0 ∨ mostMagnitude < leastMagnitude then
    throw (.magnitude leastMagnitude mostMagnitude)
  checkBounded "magnitude" mostMagnitude
  let affected ← (d.affected.mapM Attribute.ofName).mapError .rule
  checkWeight d.weight
  let triggers ← checkTriggers d.triggers
  let modifiers ← checkModifiers d.modifiers
  return { d with affected, triggers, modifiers, leastMagnitude, mostMagnitude }

/-- A useless bit as it is written. -/
structure UselessBitDraft where
  id : DefId
  triggers : List String
  bonus : List (String × Int)
  penalty : List (String × Int)
  weight : Float
  description : String

/-- Check a useless bit. -/
def UselessBitDraft.check (d : UselessBitDraft) : Except Refusal UselessBit := do
  checkWeight d.weight
  let triggers ← checkTriggers d.triggers
  let bonus ← checkModifiers d.bonus
  let penalty ← checkModifiers d.penalty
  return { d with triggers, bonus, penalty }

/-- An item quirk as it is written. -/
structure ItemQuirkDraft where
  id : DefId
  modifiers : List (String × Int)
  actions : List DefId
  interactions : List Interaction
  description : String

/-- Check an item quirk. -/
def ItemQuirkDraft.check (d : ItemQuirkDraft) : Except Refusal ItemQuirk := do
  let modifiers ← checkModifiers d.modifiers
  return { d with modifiers }

/-- An environmental quirk as it is written. -/
structure EnvironmentalQuirkDraft where
  id : DefId
  roomTypes : List DefId
  modifiers : List (String × Int)
  actions : List DefId
  severity : Severity
  description : String

/-- Check an environmental quirk. -/
def EnvironmentalQuirkDraft.check (d : EnvironmentalQuirkDraft) :
    Except Refusal EnvironmentalQuirk := do
  let modifiers ← checkModifiers d.modifiers
  return { d with modifiers }

/-- An action as it is written. -/
structure ActionDraft where
  id : DefId
  threshold : Int
  floor : Int
  spread : Int
  highRisk : Bool
  itemTypes : List DefId
  unarmedModifiers : List (String × Int)
  description : String

/-- Check an action. -/
def ActionDraft.check (d : ActionDraft) : Except Refusal Action := do
  if d.threshold < 0 then throw (.negative "deviation threshold" d.threshold)
  if d.spread < 0 then throw (.negative "deviation spread" d.spread)
  checkBounded "deviation threshold" d.threshold
  checkBounded "stability floor" d.floor
  checkBounded "deviation spread" d.spread
  let unarmedModifiers ← checkModifiers d.unarmedModifiers
  return { d with unarmedModifiers }

/-! ### Drafts of any kind -/

/-- A draft of any kind.  Item types and reputations are written as they are. -/
inductive Draft
  | quirk (d : QuirkDraft)
  | failing (d : FailingDraft)
  | uselessBit (d : UselessBitDraft)
  | itemQuirk (d : ItemQuirkDraft)
  | itemType (d : ItemType)
  | environmentalQuirk (d : EnvironmentalQuirkDraft)
  | action (d : ActionDraft)
  | reputationBias (d : ReputationBias)

/-- Make a definition of a draft, or name the first rule that it breaks. -/
def Draft.check : Draft → Except Refusal Definition
  | quirk d => .quirk <$> d.check
  | failing d => .failing <$> d.check
  | uselessBit d => .uselessBit <$> d.check
  | itemQuirk d => .itemQuirk <$> d.check
  | itemType d => .ok (.itemType d)
  | environmentalQuirk d => .environmentalQuirk <$> d.check
  | action d => .action <$> d.check
  | reputationBias d => (fun _ => .reputationBias d) <$> checkWeight d.weight

end Reckoning
