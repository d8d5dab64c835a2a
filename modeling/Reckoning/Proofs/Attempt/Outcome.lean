import Mathlib.Algebra.Order.Group.Unbundled.Int
import Reckoning.Proofs.Attempt.Addends
import Reckoning.Proofs.Attempt.Participation

/-!
# What decides the outcome

The outcome is judged by luck on timing and precision, and by stability where that luck is bad.
Late traits and degradations shift the bases afterwards, so the numbers of a record are not always
those that it was judged by.

* `Attempt.outcome_eq_success_iff` and its siblings say what it takes for each outcome.
* `Attempt.get_axes_of_untouched`: an axis that nothing touches late comes out as it was judged.
* `Attempt.TellsOutcome` is what can be read off a record, and `Attempt.record_tellsOutcome` says
  that it can be read off every record.
* `Attempt.SameTask` compares attempts by what luck is drawn from; `Attempt.luck_apart` is what they
  have in common, whoever makes them and with whatever at hand.
-/

namespace Reckoning

/-- Nothing waits for a partial success. -/
theorem Source.not_appliesAfter_partialSuccess (s : Source) :
    s.appliesAfter .partialSuccess = false := by
  unfold appliesAfter
  cases s.scope with
  | triggered ts =>
    rw [List.any_eq_false]
    intro t _
    cases t <;> simp [Trigger.holdsAfter]
  | confined roomTypes actions => rfl

namespace Attempt

variable {library : Library} {a : Attempt}

/-! ### The judgement -/

/-- Luck on timing and precision is within the threshold of the action. -/
def IsLucky (a : Attempt) : Prop :=
  |a.luck.timing| ≤ a.action.threshold ∧ |a.luck.precision| ≤ a.action.threshold

instance (a : Attempt) : Decidable a.IsLucky := inferInstanceAs (Decidable (_ ∧ _))

theorem deviation_judged (axis : Axis) :
    ((a.judged library).get axis).deviation = a.luck.get axis := by
  rw [get_judged]
  rfl

theorem not_isLucky_iff :
    ¬ a.IsLucky ↔ a.action.threshold < a.luck.timing.natAbs ∨
      a.action.threshold < a.luck.precision.natAbs := by
  unfold IsLucky
  rw [Int.abs_eq_natAbs, Int.abs_eq_natAbs]
  omega

theorem outcome_eq :
    a.outcome library =
      if a.IsLucky then .success
      else if (a.judged library).stability.final < a.action.floor then .failure
      else .partialSuccess := by
  have ht : (a.judged library).timing.deviation = a.luck.timing := deviation_judged .timing
  have hp : (a.judged library).precision.deviation = a.luck.precision := deviation_judged .precision
  unfold outcome classify
  rw [ht, hp]
  by_cases hl : a.IsLucky
  · rw [if_pos hl, if_neg (mt not_isLucky_iff.2 (not_not.2 hl))]
  · rw [if_neg hl, if_pos (not_isLucky_iff.1 hl)]

/-- Only luck makes an action succeed. -/
theorem outcome_eq_success_iff : a.outcome library = .success ↔ a.IsLucky := by
  rw [outcome_eq]
  by_cases hl : a.IsLucky
  · simp [hl]
  · rw [if_neg hl]
    split_ifs <;> simp [hl]

theorem outcome_eq_failure_iff :
    a.outcome library = .failure ↔
      ¬ a.IsLucky ∧ (a.judged library).stability.final < a.action.floor := by
  rw [outcome_eq]
  by_cases hl : a.IsLucky
  · simp [hl]
  · rw [if_neg hl, ite_eq_left_iff]
    simp [hl]

theorem outcome_eq_partialSuccess_iff :
    a.outcome library = .partialSuccess ↔
      ¬ a.IsLucky ∧ a.action.floor ≤ (a.judged library).stability.final := by
  rw [outcome_eq]
  by_cases hl : a.IsLucky
  · simp [hl]
  · rw [if_neg hl, ite_eq_right_iff]
    simp [hl]

/-! ### The record -/

theorem deviation_axes (axis : Axis) :
    ((a.axes library).get axis).deviation = a.luck.get axis := by
  rw [get_axes]
  rfl

theorem final_axes (axis : Axis) :
    ((a.axes library).get axis).final =
      saturate (((a.axes library).get axis).base + ((a.axes library).get axis).deviation) := by
  rw [get_axes]
  rfl

/-- Where no late trait has points, the result is the one that was judged.  Only the recovery cost
is degraded. -/
theorem get_axes_of_untouched (axis : Axis) (haxis : axis ≠ .recoveryCost)
    (h : ∀ s ∈ a.late library, s.modifiers.get axis = 0) :
    (a.axes library).get axis = (a.judged library).get axis := by
  have hzero : ∀ n ∈ ((a.late library).map (·.contribution)).map (·.modifiers.get axis),
      n = 0 := by
    simpa [Source.contribution] using h
  rw [get_axes, get_judged]
  unfold addends participants
  rw [if_neg haxis, List.append_nil, List.map_append, saturatingSum_append_of_eq_zero _ hzero]

theorem late_of_partialSuccess (h : a.outcome library = .partialSuccess) : a.late library = [] := by
  rw [List.eq_nil_iff_forall_not_mem]
  intro s hs
  have hafter := (mem_late.1 hs).2.2
  rw [h, s.not_appliesAfter_partialSuccess] at hafter
  exact Bool.false_ne_true hafter

/-- What a record of an attempt tells of the outcome. -/
structure TellsOutcome (library : Library) (a : Attempt) (r : ActionRecord) : Prop where
  /-- A success is an action whose luck on timing and precision is within the threshold. -/
  success : r.outcome = .success ↔
    |r.axes.timing.deviation| ≤ a.action.threshold ∧
      |r.axes.precision.deviation| ≤ a.action.threshold
  /-- A partial success is as stable as the action asks for, and no trait was added for it. -/
  partialSuccess : r.outcome = .partialSuccess →
    a.action.floor ≤ r.axes.stability.final ∧ a.late library = []
  /-- A failure is less stable, unless a trait that waited for it has points on stability. -/
  failure : r.outcome = .failure →
    (∀ s ∈ a.traits library, s.applies a.circumstances = false →
      s.appliesAfter .failure = true → s.modifiers.get .stability = 0) →
    r.axes.stability.final < a.action.floor
  /-- What counts in the end is base and luck together, on every axis. -/
  sums : ∀ axis, (r.axes.get axis).final =
    saturate ((r.axes.get axis).base + (r.axes.get axis).deviation)

/-- **The outcome can be read off every record**, although its numbers are shifted after it was
judged. -/
theorem record_tellsOutcome (library : Library) (a : Attempt) (threshold : Float) :
    a.TellsOutcome library (a.record library threshold) where
  success := by
    have ht : (a.axes library).timing.deviation = a.luck.timing := deviation_axes .timing
    have hp : (a.axes library).precision.deviation = a.luck.precision := deviation_axes .precision
    change a.outcome library = .success ↔ |(a.axes library).timing.deviation| ≤ _ ∧
      |(a.axes library).precision.deviation| ≤ _
    rw [ht, hp]
    exact outcome_eq_success_iff
  partialSuccess := by
    intro h
    have hlate := late_of_partialSuccess h
    -- nothing is late, so stability is as it was judged
    have hstability : (a.axes library).stability = (a.judged library).stability :=
      get_axes_of_untouched .stability (by decide) (by simp [hlate])
    have hfinal := (outcome_eq_partialSuccess_iff.1 h).2
    rw [← hstability] at hfinal
    exact ⟨hfinal, hlate⟩
  failure := by
    intro h huntouched
    have hstability : (a.axes library).stability = (a.judged library).stability := by
      refine get_axes_of_untouched .stability (by decide) fun s hs => ?_
      obtain ⟨ht, hnow, hafter⟩ := mem_late.1 hs
      exact huntouched s ht hnow (h ▸ hafter)
    have hfinal := (outcome_eq_failure_iff.1 h).2
    rw [← hstability] at hfinal
    exact hfinal
  sums := final_axes

/-! ### Two attempts at one task -/

/-- Attempts at one task: luck is drawn for them from one seed, and it is judged alike.  Who makes
them, with which traits and what at hand, is left open. -/
structure SameTask (a b : Attempt) : Prop where
  character : a.character.id = b.character.id
  action : a.action = b.action
  room : a.room.id = b.room.id
  requested : a.requested = b.requested
  seed : a.seed = b.seed

variable {b : Attempt}

namespace SameTask

theorem derivedSeed_eq (h : a.SameTask b) : a.derivedSeed = b.derivedSeed := by
  unfold derivedSeed
  rw [h.character, h.action, h.room, h.requested, h.seed]

theorem luck_eq (h : a.SameTask b) : a.luck = b.luck := by
  unfold luck
  rw [h.derivedSeed_eq, h.action]

theorem isLucky_iff (h : a.SameTask b) : a.IsLucky ↔ b.IsLucky := by
  unfold IsLucky
  rw [h.luck_eq, h.action]

/-- With the same luck, points only add up to more stability. -/
theorem stability_mono (library other : Library) (h : a.SameTask b)
    (hbase : (b.judged other).stability.base ≤ (a.judged library).stability.base) :
    (b.judged other).stability.final ≤ (a.judged library).stability.final := by
  have hfinal (l : Library) (x : Attempt) :
      (x.judged l).stability.final = saturate ((x.judged l).stability.base + x.luck.stability) := by
    change ((x.judged l).get .stability).final =
      saturate (((x.judged l).get .stability).base + x.luck.get .stability)
    rw [get_judged]
    rfl
  rw [hfinal, hfinal, h.luck_eq]
  exact saturate_mono (by omega)

/-- The outcome is no worse with more stability. -/
theorem rank_outcome_mono (library other : Library) (h : a.SameTask b)
    (hbase : (b.judged other).stability.base ≤ (a.judged library).stability.base) :
    (b.outcome other).rank ≤ (a.outcome library).rank := by
  have hfinal := h.stability_mono library other hbase
  have hlucky := h.isLucky_iff
  rw [outcome_eq, outcome_eq, ← h.action]
  by_cases hl : a.IsLucky
  · rw [if_pos hl, if_pos (hlucky.1 hl)]
  · rw [if_neg hl, if_neg (mt hlucky.2 hl)]
    -- the same floor is asked of the smaller one and of the larger one
    split_ifs <;> first | decide | omega

end SameTask

/-- **Luck is drawn apart from traits.**  Attempts at one task have the same luck, whatever else
differs between them; they succeed together, and otherwise the one with more stability fares no
worse. -/
theorem luck_apart (library other : Library) (h : a.SameTask b) (threshold otherThreshold : Float) :
    (a.record library threshold).derivedSeed = (b.record other otherThreshold).derivedSeed ∧
    (∀ axis, ((a.record library threshold).axes.get axis).deviation =
      ((b.record other otherThreshold).axes.get axis).deviation) ∧
    ((a.record library threshold).outcome = .success ↔
      (b.record other otherThreshold).outcome = .success) ∧
    ((b.judged other).stability.base ≤ (a.judged library).stability.base →
      (b.record other otherThreshold).outcome.rank ≤
        (a.record library threshold).outcome.rank) := by
  refine ⟨h.derivedSeed_eq, fun axis => ?_, ?_, h.rank_outcome_mono library other⟩
  · change ((a.axes library).get axis).deviation = ((b.axes other).get axis).deviation
    rw [deviation_axes, deviation_axes, h.luck_eq]
  · change a.outcome library = .success ↔ b.outcome other = .success
    rw [outcome_eq_success_iff, outcome_eq_success_iff, h.isLucky_iff]

end Attempt

/-! ### Two walks on a rope -/

namespace Tightrope

/-- A quirk with points on stability. -/
def quirk (id : DefId) (points : Int) : Quirk where
  id := id
  category := "general"
  weight := 1.0
  triggers := [.always]
  modifiers := .ofPairs [(.stability, points)]
  severity := .minor
  discovery := .visible
  reinterpretsFailure := false
  description := ""

/-- A quirk that helps on a rope, and one that does not. -/
def library : Library :=
  { Library.empty with quirks := [quirk "steady" 4, quirk "giddy" (-4)] }

/-- Somebody who is steady. -/
def steady : Character where
  id := ⟨1⟩
  account := ""
  sex := .unspecified
  attributes := ⟨[3, 5, 7, 4, 6, 6, 2], rfl, by decide⟩
  quirks := ["steady", "vain"]
  failings := []
  uselessBits := ["whistler"]
  reputation := ⟨0, ""⟩
  issuedSeed := ""
  createdAt := .epoch
  active := true
  sound := by decide

/-- Somebody of the same number who is giddy. -/
def giddy : Character := { steady with quirks := ["giddy", "vain"], sound := by decide }

/-- A walk on a rope that asks for perfect luck. -/
def walk (c : Character) (rushed : Bool) : Attempt where
  character := c
  action := ⟨"balance", 0, 0, 3, true, [], ∅, ""⟩
  room := ⟨"square", "town", [], true⟩
  requested := []
  possessed := []
  rushed := rushed
  seed := "dawn"
  timestamp := .epoch

theorem giddy_fares_no_better :
    (walk steady false).SameTask (walk giddy true) ∧
    ((walk giddy true).judged library).stability.base ≤
      ((walk steady false).judged library).stability.base ∧
    (∀ axis, (((walk steady false).record library 0.5).axes.get axis).deviation =
      (((walk giddy true).record library 0.5).axes.get axis).deviation) ∧
    ((walk giddy true).record library 0.5).outcome.rank ≤
      ((walk steady false).record library 0.5).outcome.rank := by
  have htask : (walk steady false).SameTask (walk giddy true) := ⟨rfl, rfl, rfl, rfl, rfl⟩
  have hbase : ((walk giddy true).judged library).stability.base ≤
      ((walk steady false).judged library).stability.base := by decide +kernel
  obtain ⟨-, hluck, -, hrank⟩ := Attempt.luck_apart library library htask 0.5 0.5
  exact ⟨htask, hbase, hluck, hrank hbase⟩

end Tightrope

end Reckoning
