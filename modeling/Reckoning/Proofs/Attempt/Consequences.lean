import Reckoning.Proofs.Attempt.Participation
import Reckoning.Proofs.Content.Loading

/-!
# Consequences of taking part

Pairings, degradations, the interpretation and the share of blame all depend on which traits took
part.  Each is decided by an id among the contributions, so each of them is right unless a trait
that was held back shares its id with a contribution that is not the character's own.

* `Attempt.OwnConsequences`: only traits that participate have consequences, and they have theirs
  as the character's own.
* `Attempt.Unmistaken` names the four coincidences of ids that break it.
* `Attempt.ownConsequences_iff`: nothing else does.
-/

namespace Reckoning

namespace Attempt

variable (library : Library) (a : Attempt)

/-- The failings that degrade the result. -/
def degrading : List Failing :=
  if a.outcome library = .failure then []
  else (a.failings library).filter fun f =>
    f.appliesOnSuccess && takesPart (a.participants library) f.id

theorem degradations_eq :
    a.degradations library =
      (a.degrading library).map (·.magnitudeFor a.character.attributes) := by
  unfold degradations degrading
  split_ifs <;> rfl

/-- Only sources that took part have consequences. -/
structure OwnConsequences : Prop where
  /-- What an interaction adds comes from a quirk that applies. -/
  pairings : ∀ s ∈ a.stages library, ∀ c, a.pairing? library s.1 s.2 = some c →
    ∃ q ∈ a.quirks library, q.id = s.2.2.quirk ∧ q.source.applies a.circumstances = true ∧
      c.modifiers = s.2.2.effect.applyTo q.modifiers
  /-- What degrades the result is a failing that participates. -/
  degradations : ∀ f ∈ a.degrading library, f.magnitudeFor a.character.attributes ≠ 0 →
    a.participates library f.source = true
  /-- Only a quirk that participates turns a failure into luck, and each such quirk does. -/
  interpretation : ∀ threshold, a.interpretation library threshold = .fortunate ↔
    a.outcome library = .failure ∧ ∃ q ∈ a.quirks library,
      q.reinterpretsFailure = true ∧ a.participates library q.source = true
  /-- The factor of a trait that participates counts as the character's own. -/
  factors : ∀ s ∈ a.traits library, a.participates library s = true →
    ∃ c ∈ a.factors library, c.id = s.id ∧ c.origin.isControlled = true

/-- No trait that was held back is mistaken for something else, where that has a consequence. -/
structure Unmistaken : Prop where
  /-- No row of an interaction finds a quirk that was held back. -/
  pairings : ∀ s ∈ a.stages library, ∀ q ∈ a.quirks library, q.id = s.2.2.quirk →
    q.source.applies a.circumstances = false → foreign s.1 q.id = false
  /-- No failing that stayed out degrades the result. -/
  degradations : a.outcome library ≠ .failure → ∀ f ∈ a.failings library,
    f.appliesOnSuccess = true → f.magnitudeFor a.character.attributes ≠ 0 →
      a.participates library f.source = false → foreign (a.contributions library) f.id = false
  /-- No quirk that stayed out turns a failure into luck on its own. -/
  interpretation : a.outcome library = .failure → ∀ q ∈ a.quirks library,
    q.reinterpretsFailure = true → foreign (a.contributions library) q.id = true →
      ∃ q ∈ a.quirks library, q.reinterpretsFailure = true ∧ a.participates library q.source = true
  /-- No trait that waited for the outcome finds its id taken. -/
  factors : ∀ s ∈ a.late library, foreign (a.contributions library) s.id = false

variable {library a}

/-! ### Each consequence in turn -/

theorem pairings_iff {s : List Contribution × ItemQuirk × Interaction}
    (hs : s ∈ a.stages library) :
    (∀ c, a.pairing? library s.1 s.2 = some c →
      ∃ q ∈ a.quirks library, q.id = s.2.2.quirk ∧ q.source.applies a.circumstances = true ∧
        c.modifiers = s.2.2.effect.applyTo q.modifiers) ↔
    ∀ q ∈ a.quirks library, q.id = s.2.2.quirk →
      q.source.applies a.circumstances = false → foreign s.1 q.id = false := by
  constructor
  · intro h q hq hid ha
    -- were its id taken, the row would find the quirk and add its points
    rw [Bool.eq_false_iff]
    intro hf
    have ht : takesPart s.1 q.id = true :=
      ((hasTraits_stages hs).takesPart_iff (source_mem_traits_of_quirk hq)).2 (.inr hf)
    obtain ⟨q', hq', hid', ha', -⟩ := h _ ((pairing?_eq_some library a).2 ⟨q, hq, hid, ht, rfl⟩)
    have he : q' = q := quirk_eq_of_id_eq hq' hq (hid'.trans hid.symm)
    rw [he, ha] at ha'
    cases ha'
  · intro h c hc
    obtain ⟨q, hq, hid, ht, rfl⟩ := (pairing?_eq_some library a).1 hc
    refine ⟨q, hq, hid, ?_, rfl⟩
    rcases ((hasTraits_stages hs).takesPart_iff (source_mem_traits_of_quirk hq)).1 ht with ha | hf
    · exact ha
    · by_contra ha
      have hn := h q hq hid (by simpa using ha)
      exact Bool.false_ne_true (hn.symm.trans hf)

/-- Whether a trait seems to have taken part in the end. -/
theorem takesPart_participants_iff {s : Source} (hs : s ∈ a.traits library) :
    takesPart (a.participants library) s.id = true ↔
      a.participates library s = true ∨ foreign (a.contributions library) s.id = true := by
  rw [hasTraits_participants.takesPart_iff hs, foreign_participants]

theorem degradations_iff :
    (∀ f ∈ a.degrading library, f.magnitudeFor a.character.attributes ≠ 0 →
      a.participates library f.source = true) ↔
    (a.outcome library ≠ .failure → ∀ f ∈ a.failings library, f.appliesOnSuccess = true →
      f.magnitudeFor a.character.attributes ≠ 0 → a.participates library f.source = false →
        foreign (a.contributions library) f.id = false) := by
  unfold degrading
  by_cases ho : a.outcome library = .failure
  · simp [ho]
  rw [if_neg ho]
  constructor
  · intro h _ f hf hs hm hp
    rw [Bool.eq_false_iff]
    intro hfo
    have ht := (takesPart_participants_iff (source_mem_traits_of_failing hf)).2 (.inr hfo)
    have hd := h f (List.mem_filter.2 ⟨hf, Bool.and_eq_true_iff.2 ⟨hs, ht⟩⟩) hm
    exact Bool.false_ne_true (hp.symm.trans hd)
  · intro h f hf hm
    obtain ⟨hf, hc⟩ := List.mem_filter.1 hf
    obtain ⟨hs, ht⟩ := Bool.and_eq_true_iff.1 hc
    by_contra hp
    have hfo := h ho f hf hs hm (by simpa using hp)
    rcases (takesPart_participants_iff (source_mem_traits_of_failing hf)).1 ht with hp' | hf'
    · exact hp hp'
    · exact Bool.false_ne_true (hfo.symm.trans hf')

theorem interpretation_eq_fortunate {threshold : Float} :
    a.interpretation library threshold = .fortunate ↔ a.isReinterpreted library = true := by
  unfold interpretation
  split_ifs with h <;> simp [h]

theorem isReinterpreted_iff :
    a.isReinterpreted library = true ↔ a.outcome library = .failure ∧
      ∃ q ∈ a.quirks library, q.reinterpretsFailure = true ∧
        (a.participates library q.source = true ∨
          foreign (a.contributions library) q.id = true) := by
  unfold isReinterpreted
  simp only [Bool.and_eq_true, beq_iff_eq, List.any_eq_true]
  refine and_congr_right fun _ => exists_congr fun q => ?_
  refine and_congr_right fun hq => and_congr_right fun _ => ?_
  exact takesPart_participants_iff (source_mem_traits_of_quirk hq)

theorem interpretation_iff :
    (∀ threshold, a.interpretation library threshold = .fortunate ↔
      a.outcome library = .failure ∧ ∃ q ∈ a.quirks library,
        q.reinterpretsFailure = true ∧ a.participates library q.source = true) ↔
    (a.outcome library = .failure → ∀ q ∈ a.quirks library, q.reinterpretsFailure = true →
      foreign (a.contributions library) q.id = true → ∃ q ∈ a.quirks library,
        q.reinterpretsFailure = true ∧ a.participates library q.source = true) := by
  simp only [interpretation_eq_fortunate, isReinterpreted_iff, forall_const]
  constructor
  · intro h ho q hq hr hf
    exact (h.1 ⟨ho, q, hq, hr, .inr hf⟩).2
  · intro h
    refine and_congr_right fun ho => ⟨?_, ?_⟩
    · rintro ⟨q, hq, hr, hp | hf⟩
      · exact ⟨q, hq, hr, hp⟩
      · exact h ho q hq hr hf
    · rintro ⟨q, hq, hr, hp⟩
      exact ⟨q, hq, hr, .inl hp⟩

theorem mem_factors_iff {c : Contribution} {id : DefId} :
    c ∈ a.factors library ∧ c.id = id ↔
      (a.participants library).find? (·.id == id) = some c := by
  unfold factors
  rw [mem_firstOfEach]
  constructor
  · rintro ⟨hc, rfl⟩
    exact hc
  · intro hc
    have hid : c.id = id := by simpa using List.find?_some hc
    exact ⟨hid ▸ hc, hid⟩

theorem exists_find?_of_takesPart {cs : List Contribution} {id : DefId}
    (h : takesPart cs id = true) : ∃ c ∈ cs, cs.find? (·.id == id) = some c ∧ c.id = id := by
  obtain ⟨d, hd, hid⟩ := takesPart_eq_true.1 h
  obtain ⟨c, hc, hf, hp⟩ := exists_find? (p := (·.id == id)) hd (by simpa using hid)
  exact ⟨c, hc, hf, by simpa using hp⟩

/-- Traits that apply come first of all, so they keep their ids. -/
theorem find?_participants_of_applies {s : Source} (hs : s ∈ a.traits library)
    (ha : s.applies a.circumstances = true) :
    ∃ c, (a.participants library).find? (·.id == s.id) = some c ∧ c.origin.isControlled = true := by
  -- what applies is gathered in front, so the search ends among it
  let own := ((a.traits library).filter (·.applies a.circumstances)).map (·.contribution)
  have hown : takesPart own s.id = true :=
    takesPart_eq_true.2 ⟨_, List.mem_map_of_mem (List.mem_filter.2 ⟨hs, ha⟩), rfl⟩
  have hpre : own <+: a.participants library := by
    unfold participants
    rw [contributions_eq, gathered]
    simp only [List.append_assoc]
    exact List.prefix_append _ _
  obtain ⟨c, hc, hf, -⟩ := exists_find?_of_takesPart hown
  obtain ⟨t, ht, rfl⟩ := List.mem_map.1 hc
  exact ⟨_, hpre.find?_eq_some hf, isControlled_of_mem_traits (List.mem_filter.1 ht).1⟩

/-- What came first under an id that is taken is not a trait. -/
theorem find?_participants_of_foreign {s : Source} (hs : s ∈ a.late library)
    (hf : foreign (a.contributions library) s.id = true) :
    ∃ c, (a.participants library).find? (·.id == s.id) = some c ∧
      c.origin.isControlled = false := by
  obtain ⟨ht, ha, -⟩ := mem_late.1 hs
  obtain ⟨c, hc, hfind, hid⟩ :=
    exists_find?_of_takesPart ((hasTraits_contributions.takesPart_iff ht).2 (.inr hf))
  refine ⟨c, (List.prefix_append _ _).find?_eq_some hfind, ?_⟩
  -- if it were the character's own, it would be the trait itself, which was held back
  rw [Bool.eq_false_iff]
  intro ho
  obtain ⟨t, ht', hat, rfl⟩ := (hasTraits_contributions c ho).1 hc
  rw [eq_of_id_eq ht' ht hid] at hat
  exact Bool.false_ne_true (ha.symm.trans hat)

/-- A trait that waited for the outcome gets an id that is free. -/
theorem find?_participants_of_free {s : Source} (hs : s ∈ a.late library)
    (hf : foreign (a.contributions library) s.id = false) :
    ∃ c, (a.participants library).find? (·.id == s.id) = some c ∧ c.origin.isControlled = true := by
  obtain ⟨ht, ha, -⟩ := mem_late.1 hs
  -- nothing bore the id before the outcome, so the search goes on among the late traits
  have hnone : (a.contributions library).find? (·.id == s.id) = none := by
    rw [List.find?_eq_none]
    intro c hc hid
    have htakes := takesPart_eq_true.2 ⟨c, hc, by simpa using hid⟩
    rcases (hasTraits_contributions.takesPart_iff ht).1 htakes with h | h
    · exact Bool.false_ne_true (ha.symm.trans h)
    · exact Bool.false_ne_true (hf.symm.trans h)
  have hl : takesPart ((a.late library).map (·.contribution)) s.id = true :=
    takesPart_eq_true.2 ⟨_, List.mem_map_of_mem hs, rfl⟩
  obtain ⟨c, hc, hfind, -⟩ := exists_find?_of_takesPart hl
  obtain ⟨t, ht', rfl⟩ := List.mem_map.1 hc
  refine ⟨t.contribution, ?_, isControlled_of_mem_traits (mem_late.1 ht').1⟩
  unfold participants
  rw [List.find?_append, hnone, Option.none_or, hfind]

/-- The factor of a trait that participates is its own, unless the trait waited for the outcome
and found its id taken. -/
theorem factor_iff {s : Source} (hs : s ∈ a.traits library) (hp : a.participates library s = true) :
    (∃ c ∈ a.factors library, c.id = s.id ∧ c.origin.isControlled = true) ↔
      s.applies a.circumstances = true ∨ foreign (a.contributions library) s.id = false := by
  simp only [← and_assoc, mem_factors_iff]
  -- whoever comes first under the id has the factor
  by_cases ha : s.applies a.circumstances = true
  · exact iff_of_true (find?_participants_of_applies hs ha) (.inl ha)
  have hl : s ∈ a.late library :=
    mem_late.2 ⟨hs, by simpa using ha, by simpa [participates, ha] using hp⟩
  rw [or_iff_right ha]
  cases hf : foreign (a.contributions library) s.id with
  | true =>
    obtain ⟨c, hc, ho⟩ := find?_participants_of_foreign hl hf
    refine iff_of_false ?_ (by simp)
    rintro ⟨d, hd, ho'⟩
    obtain rfl : c = d := Option.some.inj (hc.symm.trans hd)
    exact Bool.false_ne_true (ho.symm.trans ho')
  | false => exact iff_of_true (find?_participants_of_free hl hf) rfl

theorem factors_iff :
    (∀ s ∈ a.traits library, a.participates library s = true →
      ∃ c ∈ a.factors library, c.id = s.id ∧ c.origin.isControlled = true) ↔
    ∀ s ∈ a.late library, foreign (a.contributions library) s.id = false := by
  constructor
  · intro h s hs
    obtain ⟨ht, ha, -⟩ := mem_late.1 hs
    have hp := participates_of_mem_late hs
    exact ((factor_iff ht hp).1 (h s ht hp)).resolve_left (by simp [ha])
  · intro h s hs hp
    rw [factor_iff hs hp, or_iff_not_imp_left]
    intro ha
    have ha : s.applies a.circumstances = false := by simpa using ha
    exact h s (mem_late.2 ⟨hs, ha, by simpa [participates, ha] using hp⟩)

theorem ownConsequences_of_unmistaken (h : a.Unmistaken library) : a.OwnConsequences library :=
  ⟨fun s hs => (pairings_iff hs).2 (h.pairings s hs), degradations_iff.2 h.degradations,
    interpretation_iff.2 h.interpretation, factors_iff.2 h.factors⟩

/-- **Consequences are those of sources that took part, exactly unless a trait that was held back
shares its id with something else that took part where it matters.** -/
theorem ownConsequences_iff (library : Library) (a : Attempt) :
    a.OwnConsequences library ↔ a.Unmistaken library := by
  constructor
  · intro h
    exact ⟨fun s hs => (pairings_iff hs).1 (h.pairings s hs), degradations_iff.1 h.degradations,
      interpretation_iff.1 h.interpretation, factors_iff.1 h.factors⟩
  · exact ownConsequences_of_unmistaken

/-- Where no trait of the character shares its id with anything else, consequences are right. -/
theorem TraitsApart.ownConsequences (h : a.TraitsApart library) : a.OwnConsequences library := by
  refine (ownConsequences_of_unmistaken ⟨?_, ?_, ?_, ?_⟩)
  · exact fun s hs q hq _ _ => h.foreign_stage (source_mem_traits_of_quirk hq) hs
  · exact fun _ f hf _ _ _ => h.foreign_contributions (source_mem_traits_of_failing hf)
  · intro _ q hq _ hf
    have := h.foreign_contributions (source_mem_traits_of_quirk hq)
    exact absurd (this.symm.trans hf) Bool.false_ne_true
  · exact fun s hs => h.foreign_contributions (mem_late.1 hs).1

end Attempt

/-! ### A rusty rod -/

namespace Rusty

/-- A failing that waits for a failure. -/
def failing : Failing where
  id := "rusty"
  severity := .minor
  affected := []
  triggers := [.onFailure]
  modifiers := ∅
  leastMagnitude := 3
  mostMagnitude := 3
  appliesOnSuccess := true
  weight := 1.0
  description := ""

/-- A quirk of items that bears the id of the failing. -/
def itemQuirk : ItemQuirk := ⟨"rusty", ∅, [], [], ""⟩

/-- An action without luck, so it succeeds. -/
def action : Action := ⟨"fish", 2, 0, 0, false, [], ∅, ""⟩

/-- The definitions, as they are loaded. -/
def steps : List LoadStep :=
  [.definition (.failing failing), .definition (.itemQuirk itemQuirk),
    .definition (.action action)]

/-- The library that they make. -/
def library : Library := (Loader.run true steps).library

/-- Somebody with the failing. -/
def character : Character where
  id := ⟨1⟩
  account := ""
  sex := .unspecified
  attributes := ⟨[5, 5, 5, 5, 5, 5, 5], rfl, by decide⟩
  quirks := ["calm", "vain"]
  failings := ["rusty"]
  uselessBits := ["whistler"]
  reputation := ⟨0, ""⟩
  issuedSeed := ""
  createdAt := .epoch
  active := true
  sound := by decide

/-- They fish with a rod that has the quirk. -/
def attempt : Attempt where
  character := character
  action := action
  room := ⟨"pond", "meadow", [], false⟩
  requested := [⟨10⟩]
  possessed := [⟨⟨10⟩, "rod", ⟨1⟩, .capture character .epoch, ["rusty"], .epoch⟩]
  rushed := false
  seed := "dawn"
  timestamp := .epoch

/-- A success is degraded by a failing that waited for a failure. -/
theorem not_ownConsequences :
    library.ComesFrom (Loader.run true steps) ∧ ¬ attempt.OwnConsequences library := by
  refine ⟨.inl rfl, fun h => ?_⟩
  -- the part about degradations, as a test that can be run
  have hall : (attempt.degrading library).all (fun f =>
      f.magnitudeFor attempt.character.attributes == 0 || attempt.participates library f.source) =
      true := by
    rw [List.all_eq_true]
    intro f hf
    by_cases hm : f.magnitudeFor attempt.character.attributes = 0
    · simp [hm]
    · simp [h.degradations f hf hm]
  exact absurd hall (by decide +kernel)

end Rusty

end Reckoning
