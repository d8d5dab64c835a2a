import Reckoning.Content.Library

/-!
# Built-in content

Enough to issue characters and to resolve a handful of everyday actions.

* `Library.builtin` is the library.
-/

namespace Reckoning.Builtin

/-- A quirk of a common kind. -/
def quirk (id category : String) (weight : Float) (trigger : Trigger)
    (modifiers : List (Axis × Int)) : Quirk where
  id := id
  category := category
  weight := weight
  triggers := [trigger]
  modifiers := .ofPairs modifiers
  severity := .minor
  discovery := .visible
  reinterpretsFailure := false
  description := ""

/-- The quirks. -/
def quirks : List Quirk := [
  { quirk "steady_hands" "dexterity" 3.0 .always [(.precision, 1)] with
    description := "Holds things still. Mostly." },
  { quirk "butterfingers" "dexterity" 4.0 .always [(.precision, -1)] with
    severity := .moderate },
  { quirk "stage_fright" "temperament" 2.0 .whenObserved [(.timing, -1), (.visibility, 1)] with
    discovery := .hidden },
  quirk "thrill_seeker" "temperament" 1.5 .whenHighRisk [(.timing, 1), (.stability, -1)],
  { quirk "lucky_mishap" "fortune" 0.5 .onFailure [(.interpretability, 2)] with
    discovery := .hidden
    reinterpretsFailure := true
    description := "Things go wrong in ways that turn out fine." },
  quirk "overthinker" "temperament" 2.5 .always [(.timing, -1), (.interpretability, 1)],
  quirk "improviser" "dexterity" 1.0 .whenUnarmed [(.precision, 1), (.recoveryCost, -1)],
  quirk "tidy_finisher" "fortune" 1.0 .onSuccess [(.recoveryCost, -1)]]

/-- A failing of a common kind. -/
def failing (id : String) (affected : List Attribute) (trigger : Trigger)
    (modifiers : List (Axis × Int)) (leastMagnitude mostMagnitude : Int) : Failing where
  id := id
  severity := .minor
  affected := affected
  triggers := [trigger]
  modifiers := .ofPairs modifiers
  leastMagnitude := leastMagnitude
  mostMagnitude := mostMagnitude
  appliesOnSuccess := true
  weight := 1.0
  description := ""

/-- The failings. -/
def failings : List Failing := [
  { failing "early_action" [.patience] .always [(.timing, -2)] 1 3 with
    severity := .moderate
    weight := 2.0
    description := "Moves before the moment arrives." },
  failing "poor_follow_through" [.stamina] .always [(.recoveryCost, 1)] 0 2,
  { failing "paperwork_dread" [.administrativeLuck, .bookLearning] .whenObserved
      [(.stability, -1)] 1 2 with
    weight := 0.5 }]

/-- A useless bit of a common kind. -/
def uselessBit (id : String) (trigger : Trigger) (bonus penalty : List (Axis × Int)) :
    UselessBit where
  id := id
  triggers := [trigger]
  bonus := .ofPairs bonus
  penalty := .ofPairs penalty
  weight := 1.0
  description := ""

/-- The useless bits. -/
def uselessBits : List UselessBit := [
  { uselessBit "knot_trivia" .always [(.interpretability, 1)] [(.timing, -1)] with
    description := "Knows forty knots. Ties none of them quickly." },
  uselessBit "weather_smell" .whenHighRisk [(.visibility, -1)] [(.stability, -1)],
  { uselessBit "bureaucratic_latin" .whenObserved [(.interpretability, 1)]
      [(.timing, -1), (.stability, -1)] with
    weight := 0.5 }]

/-- The item quirks. -/
def itemQuirks : List ItemQuirk := [
  { id := "springy_rod"
    modifiers := .ofPairs [(.timing, 1)]
    actions := ["fish"]
    interactions := [
      ⟨"butterfingers", .dampen, "the cork handle forgives"⟩,
      ⟨"steady_hands", .amplify, "the rod rewards a calm grip"⟩]
    description := "" },
  { id := "loud_hinge"
    modifiers := .ofPairs [(.visibility, 2)]
    actions := ["sneak", "pick_lock"]
    interactions := []
    description := "" },
  { id := "bent_tines"
    modifiers := .ofPairs [(.precision, -1), (.recoveryCost, -1)]
    actions := ["pick_lock"]
    interactions := [⟨"improviser", .amplify, "improvisers like bent tools"⟩]
    description := "" }]

/-- The kinds of items. -/
def itemTypes : List ItemType := [
  ⟨"fishing_rod", ["springy_rod"], ""⟩,
  ⟨"lockpick", ["bent_tines"], ""⟩,
  ⟨"lantern", [], ""⟩]

/-- The quirks of places. -/
def environmentalQuirks : List EnvironmentalQuirk := [
  { id := "strong_current"
    roomTypes := ["river"]
    modifiers := .ofPairs [(.timing, 1), (.stability, -1)]
    actions := []
    severity := .moderate
    description := "" },
  { id := "echoing_halls"
    roomTypes := ["archive", "bank"]
    modifiers := .ofPairs [(.visibility, 1)]
    actions := ["sneak", "pick_lock"]
    severity := .minor
    description := "" },
  { id := "fluorescent_hum"
    roomTypes := ["bank"]
    modifiers := .ofPairs [(.interpretability, -1)]
    actions := []
    severity := .minor
    description := "" }]

/-- The actions. -/
def actions : List Action := [
  { id := "fish"
    threshold := 2
    floor := 0
    spread := 3
    highRisk := false
    itemTypes := ["fishing_rod"]
    unarmedModifiers := .ofPairs [(.recoveryCost, 2)]
    description := "" },
  { id := "pick_lock"
    threshold := 1
    floor := 0
    spread := 3
    highRisk := true
    itemTypes := ["lockpick"]
    unarmedModifiers := .ofPairs [(.precision, -2), (.timing, -1)]
    description := "" },
  { id := "sneak"
    threshold := 2
    floor := -1
    spread := 3
    highRisk := true
    itemTypes := []
    unarmedModifiers := ∅
    description := "" },
  { id := "file_complaint"
    threshold := 3
    floor := -2
    spread := 2
    highRisk := false
    itemTypes := []
    unarmedModifiers := ∅
    description := "" }]

/-- The reputations to start from. -/
def reputationBiases : List ReputationBias := [
  ⟨"unknown", 5.0, 0, "Nobody has heard of them."⟩,
  ⟨"local_nuisance", 2.0, -2, "Known to the harbour master."⟩,
  ⟨"minor_celebrity", 1.0, 2, "Once appeared in the paper."⟩,
  ⟨"mistaken_identity", 0.5, -1, "Often confused with a cousin."⟩]

end Reckoning.Builtin

namespace Reckoning

/-- The library of the built-in content. -/
def Library.builtin : Library where
  quirks := Builtin.quirks
  failings := Builtin.failings
  uselessBits := Builtin.uselessBits
  itemQuirks := Builtin.itemQuirks
  itemTypes := Builtin.itemTypes
  environmentalQuirks := Builtin.environmentalQuirks
  actions := Builtin.actions
  reputationBiases := Builtin.reputationBiases

end Reckoning
