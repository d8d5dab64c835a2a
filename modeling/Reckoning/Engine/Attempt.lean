import Reckoning.Content.Library
import Reckoning.Content.Source
import Reckoning.Item
import Reckoning.Record
import Reckoning.Room
import Reckoning.Generator
import Reckoning.Seed

/-!
# Attempts

A character attempts an action.  What becomes of it is a function of the attempt and the
library alone.

* `Attempt.contributions` is everything that takes part before the outcome, in order: traits,
  quirks of items, quirks of the place, the lack of an item, interactions.
* `Attempt.luck` is drawn from the seed; `Attempt.outcome` judges both together.
* `Attempt.late` are the traits that waited for the outcome, `Attempt.axes` what all of it
  comes to.
* `Attempt.factors`, `Attempt.blame` and `Attempt.interpretation` say who is to blame.
* `Attempt.record` is the record of the attempt.
-/

namespace Reckoning

/-- Everything that a resolution reads, apart from the library. -/
structure Attempt where
  character : Character
  action : Action
  room : Room
  /-- The items as they were named.  They count for the seed. -/
  requested : List ItemId
  /-- The items among them that the character holds. -/
  possessed : List Item
  rushed : Bool
  seed : String
  timestamp : Timestamp

/-- Something that took part, with what it added. -/
structure Contribution where
  id : DefId
  origin : Origin
  modifiers : Modifiers
deriving DecidableEq, Repr

/-- What a source adds when it takes part. -/
def Source.contribution (s : Source) : Contribution := ⟨s.id, s.origin, s.modifiers⟩

/-- Something of this id took part. -/
def takesPart (cs : List Contribution) (id : DefId) : Bool := cs.any (·.id == id)

/-- The sum of what was added. -/
def total (cs : List Contribution) : Modifiers :=
  cs.foldl (fun sum c => sum.merge c.modifiers) ∅

/-- The first contribution of each id. -/
def firstOfEach (cs : List Contribution) : List Contribution :=
  cs.foldl (fun seen c => if takesPart seen c.id then seen else seen ++ [c]) []

/-- The luck on each axis, at most `spread` from zero, drawn in the order of the axes. -/
def drawLuck (seed : UInt64) (spread : Int) : PerAxis Int :=
  let s := max spread 0
  let (timing, g) := (Generator.ofSeed seed).between (-s) s
  let (precision, g) := g.between (-s) s
  let (stability, g) := g.between (-s) s
  let (visibility, g) := g.between (-s) s
  let (interpretability, g) := g.between (-s) s
  let (recoveryCost, _) := g.between (-s) s
  ⟨timing, precision, stability, visibility, interpretability, recoveryCost⟩

/-- Judge results.  Luck beyond the threshold on timing or precision breaks the action, and a
broken action needs stability. -/
def classify (action : Action) (axes : AxisResults) : Outcome :=
  if action.threshold < axes.timing.deviation.natAbs
      ∨ action.threshold < axes.precision.deviation.natAbs then
    if axes.stability.final < action.floor then .failure else .partialSuccess
  else
    .success

namespace Attempt

variable (library : Library) (a : Attempt)

/-! ### What takes part -/

/-- No item backs the action.  Where it expects items, only one of an expected type counts. -/
def unarmed : Bool :=
  if a.action.expectsItems then !a.possessed.any fun i => a.action.itemTypes.contains i.itemType
  else a.possessed.isEmpty

/-- The circumstances of the action. -/
def circumstances : Circumstances where
  action := a.action.id
  roomType := a.room.roomType
  observed := a.room.observed
  highRisk := a.action.highRisk
  unarmed := a.unarmed
  rushed := a.rushed

/-- The quirks of the character, as far as the library knows them. -/
def quirks : List Quirk := a.character.quirks.filterMap library.quirk?

/-- The failings of the character, as far as the library knows them. -/
def failings : List Failing := a.character.failings.filterMap library.failing?

/-- The useless bits of the character, as far as the library knows them. -/
def uselessBits : List UselessBit := a.character.uselessBits.filterMap library.uselessBit?

/-- The traits of the character. -/
def traits : List Source :=
  (a.quirks library).map (·.source) ++ (a.failings library).map (·.source)
    ++ (a.uselessBits library).map (·.source)

/-- The quirks of the items at hand that take part, item by item. -/
def itemQuirks : List ItemQuirk :=
  (a.possessed.flatMap fun i => i.quirks.filterMap library.itemQuirk?).filter
    (·.source.applies a.circumstances)

/-- The quirks of the place that take part. -/
def environmentalQuirks : List EnvironmentalQuirk :=
  (a.room.environmentalQuirks.filterMap library.environmentalQuirk?).filter
    (·.source.applies a.circumstances)

/-- What the lack of an item adds. -/
def lack : List Contribution :=
  if a.unarmed && !a.action.unarmedModifiers.isNeutral then
    [⟨⟨s!"unarmed:{a.action.id}"⟩, .item, a.action.unarmedModifiers⟩]
  else
    []

/-- What takes part before interactions are looked at. -/
def gathered : List Contribution :=
  ((a.traits library).filter (·.applies a.circumstances)).map (·.contribution)
    ++ (a.itemQuirks library).map (·.source.contribution)
    ++ (a.environmentalQuirks library).map (·.source.contribution)
    ++ a.lack

/-- The rows of interactions to look at, with their item quirks. -/
def interactions : List (ItemQuirk × Interaction) :=
  (a.itemQuirks library).flatMap fun q => q.interactions.map (q, ·)

/-- What an interaction adds, if its quirk is one of the character's and took part. -/
def pairing? (cs : List Contribution) (r : ItemQuirk × Interaction) : Option Contribution :=
  ((a.quirks library).find? fun q => q.id == r.2.quirk && takesPart cs q.id).map fun q =>
    ⟨⟨s!"{r.1.id}×{q.id}"⟩, .item, r.2.effect.applyTo q.modifiers⟩

/-- Add interactions one after the other. -/
def addPairings (cs : List Contribution) : List (ItemQuirk × Interaction) → List Contribution
  | [] => cs
  | r :: rest => addPairings (cs ++ (a.pairing? library cs r).toList) rest

/-- Everything that takes part before the outcome is known, in order. -/
def contributions : List Contribution :=
  a.addPairings library (a.gathered library) (a.interactions library)

/-! ### What comes of it -/

/-- The seed that luck is drawn from. -/
def derivedSeed : UInt64 :=
  resolutionSeed a.character.id a.action.id a.room.id a.requested a.seed

/-- The luck on each axis. -/
def luck : PerAxis Int := drawLuck a.derivedSeed a.action.spread

/-- The results that the outcome is judged by. -/
def judged : AxisResults := .resolve (total (a.contributions library)) a.luck.get

/-- The outcome. -/
def outcome : Outcome := classify a.action (a.judged library)

/-- The traits that waited for the outcome and got it. -/
def late : List Source :=
  let outcome := a.outcome library
  (a.traits library).filter fun s => !s.applies a.circumstances && s.appliesAfter outcome

/-- Everything that took part. -/
def participants : List Contribution :=
  a.contributions library ++ (a.late library).map (·.contribution)

/-- Add modifiers to the bases of results. -/
def shiftAll (axes : AxisResults) (m : Modifiers) : AxisResults :=
  m.entries.foldl (fun axes p => axes.shiftBase p.1 p.2) axes

/-- The degradation by the failings that took part.  A failure is bad enough as it is. -/
def degradations : List Int :=
  let participants := a.participants library
  -- a failing counts by its id alone, whatever kind of source bears that id
  if a.outcome library = .failure then
    []
  else
    ((a.failings library).filter fun f => f.appliesOnSuccess && takesPart participants f.id).map
      (·.magnitudeFor a.character.attributes)

/-- The results in the end. -/
def axes : AxisResults :=
  let shifted := (a.late library).foldl (fun axes s => shiftAll axes s.modifiers)
    (a.judged library)
  (a.degradations library).foldl (fun axes n => axes.shiftBase .recoveryCost n) shifted

/-! ### Who is to blame -/

/-- What took part, each once, in the order in which it was applied. -/
def factors : List Contribution := firstOfEach (a.participants library)

/-- The share of the factors that the character controls. -/
def blame : Float :=
  let factors := a.factors library
  if factors.isEmpty then 0.0
  else (factors.countP (·.origin.isControlled)).toFloat / factors.length.toFloat

/-- A quirk of the character that took part turns a failure into luck. -/
def isReinterpreted : Bool :=
  let participants := a.participants library
  a.outcome library == .failure
    && (a.quirks library).any fun q => q.reinterpretsFailure && takesPart participants q.id

/-- How the outcome should be read, with the weight of blame from which on it reads as
avoidable. -/
def interpretation (threshold : Float) : Interpretation :=
  if a.isReinterpreted library then .fortunate
  else if threshold ≤ a.blame library then .avoidable
  else .inevitable

/-- The record of an attempt. -/
def record (threshold : Float) : ActionRecord where
  character := a.character.id
  action := a.action.id
  room := a.room.id
  itemsUsed := a.requested
  unarmed := a.unarmed
  rushed := a.rushed
  axes := a.axes library
  outcome := a.outcome library
  factors := (a.factors library).map (·.id)
  interpretation := a.interpretation library threshold
  blameWeight := a.blame library
  seed := a.seed
  derivedSeed := a.derivedSeed
  supersedes := none
  timestamp := a.timestamp

end Attempt

end Reckoning
