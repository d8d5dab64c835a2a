import Reckoning.Proofs.Character
import Reckoning.Proofs.Content.Valid
import Reckoning.Proofs.Engine.Sampling

/-!
# Issued characters are legal

A library that a loader hands over is good enough to issue from: whatever the account, the seed and
the luck, a character comes out of it, and it keeps the rules.

* `rollAttributes_eq`: the first roll of attributes stands; `countP_drawValues` and
  `exists_low_drawValues` say what it is like.
* `samplePool_spec`: a sample takes ids out of its pool and none twice, and as many as it can where
  all weights are good; `exists_rollReputation` does the same for one reputation.
* `Sheet.DrawnFrom` is what a sheet of issuance is made of, `exists_drawnSheet` that there is one.
* `Character.LegalIn` lists the rules, and `Sheet.DrawnFrom.legalIn` follows from a library that is
  `Library.Sufficient`; `Loader.issueCharacter_legal`: issuance always succeeds and keeps them.
-/

namespace Reckoning

/-! ### Attributes -/

theorem rollAttributes_eq (g : Generator) :
    rollAttributes g = (drawAttributes g, (drawValues g).2) := by
  unfold rollAttributes
  exact dif_pos (leastSpread_le_spread g)

/-- The values that are drawn pass the check of attributes. -/
theorem ofValues_drawValues (g : Generator) :
    AttributeSet.ofValues (drawValues g).1 (length_drawValues g) = .ok (drawAttributes g) :=
  AttributeSet.ofValues_eq_ok_iff.2 rfl

theorem countP_drawValues (g : Generator) : (drawValues g).1.countP (8 ≤ ·) = 1 := by
  obtain ⟨high, low, rest, hp, hh, hl, -, hr⟩ := drawValues_perm g
  have hrest : rest.countP (8 ≤ ·) = 0 := by
    rw [List.countP_eq_zero]
    intro v hv
    have := hr v hv
    simp only [decide_eq_true_eq]
    omega
  have hlow : ¬(8 : Int) ≤ low := by omega
  rw [hp.countP_eq, List.countP_cons, List.countP_cons, hrest]
  simp [hh.1, hlow]

theorem exists_low_drawValues (g : Generator) : ∃ v ∈ (drawValues g).1, v ≤ 3 := by
  obtain ⟨high, low, rest, hp, -, hl, -, -⟩ := drawValues_perm g
  exact ⟨low, hp.mem_iff.2 (by simp), hl.2⟩

/-! ### Samples -/

/-- A sample of definitions takes their ids, and none twice. -/
theorem samplePool_subperm {δ : Type} (defs : List δ) (id : δ → DefId) (weight : δ → Float)
    (least most : Nat) (g : Generator) :
    (samplePool least most (defs.map fun d => (id d, weight d)) g).1.Subperm (defs.map id) := by
  have hs := sampleDistinct_subperm (g.pickBetween least most).1
    (defs.map fun d => (id d, weight d)) (g.pickBetween least most).2
  have hall := hs.trans ((List.filter_sublist.map Prod.fst).subperm)
  rwa [List.map_map] at hall

/-- A sample of definitions, as many as are drawn or all there are. -/
theorem samplePool_spec {δ : Type} {defs : List δ} (id : δ → DefId) {weight : δ → Float}
    {least most : Nat} (h : least ≤ most) (hw : ∀ d ∈ defs, IsWeight (weight d)) (g : Generator) :
    min least defs.length ≤
        (samplePool least most (defs.map fun d => (id d, weight d)) g).1.length ∧
      (samplePool least most (defs.map fun d => (id d, weight d)) g).1.length ≤
        min most defs.length ∧
      (samplePool least most (defs.map fun d => (id d, weight d)) g).1.Subperm (defs.map id) := by
  obtain ⟨hleast, hmost⟩ := g.pickBetween_bounds h
  have hpool : weighed (defs.map fun d => (id d, weight d)) = defs.map fun d => (id d, weight d) := by
    simpa [weighed, List.filter_eq_self] using fun d hd => (hw d hd).2
  have hl := length_sampleDistinct (g.pickBetween least most).1
    (defs.map fun d => (id d, weight d)) (g.pickBetween least most).2
  rw [hpool, List.length_map] at hl
  refine ⟨?_, ?_, samplePool_subperm defs id weight least most g⟩ <;>
    unfold samplePool <;> simp only <;> omega

/-! ### Reputations -/

theorem rollReputation_nil (g : Generator) : rollReputation [] g = ⟨0, ""⟩ := rfl

theorem exists_rollReputation {biases : List ReputationBias} (g : Generator)
    (hw : ∀ b ∈ biases, IsWeight b.weight) (hne : biases ≠ []) :
    ∃ b ∈ biases, (rollReputation biases g).score = b.score ∧
      (rollReputation biases g).notes = b.notes := by
  obtain ⟨b, hb⟩ := List.exists_mem_of_ne_nil biases hne
  obtain ⟨i, w, hdraw, hi, -⟩ := g.exists_weighted (List.mem_map_of_mem hb) (hw b hb).2
  rw [List.getElem?_map] at hi
  obtain ⟨c, hc, -⟩ := Option.map_eq_some_iff.1 hi
  have hroll : rollReputation biases g = c.reputation := by
    unfold rollReputation
    simp [hdraw, hc]
  rw [hroll]
  exact ⟨c, List.mem_of_getElem? hc, rfl, rfl⟩

/-! ### Sheets -/

/-- The sheet was drawn from a library, with some luck. -/
structure Sheet.DrawnFrom (l : Library) (s : Sheet) : Prop where
  attributes : ∃ g, AttributeSet.ofValues (drawValues g).1 (length_drawValues g) = .ok s.attributes
  quirks : ∃ g, s.quirks = (samplePool leastQuirks mostQuirks
    (l.quirks.map fun d => (d.id, d.weight)) g).1
  failings : ∃ g, s.failings = (samplePool 0 mostFailings
    (l.failings.map fun d => (d.id, d.weight)) g).1
  uselessBits : ∃ g, s.uselessBits = (samplePool 1 mostUselessBits
    (l.uselessBits.map fun d => (d.id, d.weight)) g).1
  reputation : ∃ g, s.reputation = rollReputation l.reputationBiases g

theorem exists_drawnSheet {l : Library} (account : String) {sex : String} {s : Sex} (seed : String)
    (createdAt : Timestamp) (hs : Sex.read sex = .ok s) (hq : leastQuirks ≤ l.quirks.length)
    (hu : l.uselessBits.isEmpty = false) :
    ∃ sheet : Sheet, sheet.DrawnFrom l ∧ sheet.account = account ∧ sheet.sex = s ∧
      sheet.issuedSeed = seed ∧ sheet.createdAt = createdAt ∧
      issueCharacter l account sex seed createdAt = (Character.ofSheet sheet).mapError .rule := by
  unfold issueCharacter
  rw [hs]
  simp only [rollAttributes_eq, if_neg (Nat.not_lt.2 hq), hu]
  have hdrawn := ofValues_drawValues
  refine ⟨_, ⟨⟨_, hdrawn _⟩, ⟨_, rfl⟩, ⟨_, rfl⟩, ⟨_, rfl⟩, ⟨_, rfl⟩⟩, ?_, ?_, ?_, ?_, rfl⟩ <;> rfl

/-- What every character keeps to that is issued from a library. -/
structure Character.LegalIn (l : Library) (c : Character) : Prop where
  attributes : ∀ a, 1 ≤ c.attributes.get a ∧ c.attributes.get a ≤ 10
  high : c.attributes.values.countP (8 ≤ ·) = 1
  low : ∃ v ∈ c.attributes.values, v ≤ 3
  quirkCount : 2 ≤ c.quirks.length ∧ c.quirks.length ≤ min 4 l.quirks.length
  failingCount : c.failings.length ≤ 2
  uselessBitCount : c.uselessBits.length = 1 ∨ c.uselessBits.length = 2
  distinct : (c.quirks ++ c.failings ++ c.uselessBits).Nodup
  quirks : ∀ id ∈ c.quirks, id ∈ l.ids .quirk
  failings : ∀ id ∈ c.failings, id ∈ l.ids .failing
  uselessBits : ∀ id ∈ c.uselessBits, id ∈ l.ids .uselessBit
  reputation : (∃ b ∈ l.reputationBiases,
      c.reputation.score = b.score ∧ c.reputation.notes = b.notes) ∨
    l.reputationBiases = [] ∧ c.reputation.score = 0 ∧ c.reputation.notes = ""
  active : c.active = true

/-- The library has enough to issue from. -/
structure Library.Sufficient (l : Library) : Prop where
  valid : l.Valid
  quirks : leastQuirks ≤ l.quirks.length
  uselessBits : l.uselessBits ≠ []

namespace Sheet.DrawnFrom

variable {l : Library} {s : Sheet}

theorem quirks_spec (h : s.DrawnFrom l) (hl : l.Sufficient) :
    2 ≤ s.quirks.length ∧ s.quirks.length ≤ min 4 l.quirks.length ∧
      s.quirks.Subperm (l.ids .quirk) := by
  obtain ⟨g, hg⟩ := h.quirks
  have hw : ∀ d ∈ l.quirks, IsWeight d.weight :=
    fun d hd => (hl.valid.sound (.quirk d) hd).drawable.2
  obtain ⟨hleast, hmost, hs⟩ := samplePool_spec Quirk.id
    (by decide : leastQuirks ≤ mostQuirks) hw g
  have hq := hl.quirks
  unfold leastQuirks mostQuirks at *
  rw [hg]
  exact ⟨by omega, hmost, hs⟩

theorem failings_spec (h : s.DrawnFrom l) (hl : l.Sufficient) :
    s.failings.length ≤ 2 ∧ s.failings.Subperm (l.ids .failing) := by
  obtain ⟨g, hg⟩ := h.failings
  have hw : ∀ d ∈ l.failings, IsWeight d.weight :=
    fun d hd => (hl.valid.sound (.failing d) hd).drawable.2
  obtain ⟨-, hmost, hs⟩ := samplePool_spec Failing.id
    (by decide : 0 ≤ mostFailings) hw g
  unfold mostFailings at *
  rw [hg]
  exact ⟨by omega, hs⟩

theorem uselessBits_spec (h : s.DrawnFrom l) (hl : l.Sufficient) :
    (s.uselessBits.length = 1 ∨ s.uselessBits.length = 2) ∧
      s.uselessBits.Subperm (l.ids .uselessBit) := by
  obtain ⟨g, hg⟩ := h.uselessBits
  have hw : ∀ d ∈ l.uselessBits, IsWeight d.weight :=
    fun d hd => (hl.valid.sound (.uselessBit d) hd).drawable.2
  obtain ⟨hleast, hmost, hs⟩ := samplePool_spec UselessBit.id
    (by decide : 1 ≤ mostUselessBits) hw g
  have hu := List.length_pos_iff.2 hl.uselessBits
  unfold mostUselessBits at *
  rw [hg]
  exact ⟨by omega, hs⟩

/-- Traits of characters share one space of ids, so no two samples have an id in common. -/
theorem nodup (h : s.DrawnFrom l) (hl : l.Sufficient) :
    (s.quirks ++ s.failings ++ s.uselessBits).Nodup := by
  have hq := (h.quirks_spec hl).2.2
  have hf := (h.failings_spec hl).2
  have hu := (h.uselessBits_spec hl).2
  obtain ⟨ids, hperm, hsub⟩ := (hq.append hf).append hu
  exact hperm.nodup_iff.1 (hl.valid.distinct.traits.sublist hsub)

theorem fault?_eq_none (h : s.DrawnFrom l) (hl : l.Sufficient) : s.fault? = none := by
  obtain ⟨hleast, hmost, -⟩ := h.quirks_spec hl
  obtain ⟨hu, -⟩ := h.uselessBits_spec hl
  have hempty : s.uselessBits.isEmpty = false := by
    rw [List.isEmpty_eq_false_iff, ← List.length_pos_iff]
    omega
  unfold Sheet.fault? traitFault?
  rw [if_neg (by unfold leastQuirks mostQuirks; omega), hempty,
    firstRepeated?_eq_none.2 (h.nodup hl)]
  rfl

/-- A sheet that was drawn makes a legal character. -/
theorem legalIn (h : s.DrawnFrom l) (hl : l.Sufficient) :
    Character.LegalIn l ⟨s, true, h.fault?_eq_none hl⟩ := by
  obtain ⟨hleast, hmost, hq⟩ := h.quirks_spec hl
  obtain ⟨hfl, hf⟩ := h.failings_spec hl
  obtain ⟨hul, hu⟩ := h.uselessBits_spec hl
  obtain ⟨g, hg⟩ := h.attributes
  have hvalues := AttributeSet.values_of_ofValues hg
  refine ⟨s.attributes.get_bounds, ?_, ?_, ⟨hleast, hmost⟩, hfl, hul, h.nodup hl, hq.subset,
    hf.subset, hu.subset, ?_, rfl⟩
  · exact hvalues ▸ countP_drawValues g
  · exact hvalues ▸ exists_low_drawValues g
  · obtain ⟨g, hg⟩ := h.reputation
    change (∃ b ∈ _, s.reputation.score = _ ∧ s.reputation.notes = _) ∨
      _ ∧ s.reputation.score = 0 ∧ s.reputation.notes = ""
    rw [hg]
    by_cases hne : l.reputationBiases = []
    · rw [hne, rollReputation_nil]
      exact .inr ⟨rfl, rfl, rfl⟩
    · exact .inl (exists_rollReputation g
        (fun b hb => (hl.valid.sound (.reputationBias b) hb).drawable) hne)

end Sheet.DrawnFrom

theorem Character.ofSheet_eq_ok {s : Sheet} (h : s.fault? = none) :
    ofSheet s = .ok ⟨s, true, h⟩ :=
  ofSheet_eq_ok_iff.2 ⟨rfl, rfl⟩

/-! ### Loading and issuing -/

namespace Loader

/-- A library that is handed over has enough to issue from. -/
theorem sufficient_of_finish {calls : List LoadCall} {library : Library} {report : LoadReport}
    (h : (loadAll calls).finish = .ok (library, report)) : library.Sufficient := by
  have hvalid := valid_of_finish h
  unfold finish at h
  obtain ⟨l, -, h⟩ := bind_eq_ok_iff.1 h
  cases hs : l.library.shortage? with
  | some shortage =>
    rw [hs] at h
    cases h
  | none =>
    rw [hs] at h
    cases h
    unfold Library.shortage? at hs
    split_ifs at hs with hq hu
    exact ⟨hvalid, Nat.not_lt.1 hq, by simpa using hu⟩

/-- **Whoever asks, a library that is handed over issues a legal character**, and it refuses only
what is not a sex. -/
theorem issueCharacter_legal {calls : List LoadCall} {library : Library} {report : LoadReport}
    (h : (loadAll calls).finish = .ok (library, report)) (account sex seed : String)
    (createdAt : Timestamp) :
    (∀ s, Sex.read sex = .ok s → ∃ c : Character,
      issueCharacter library account sex seed createdAt = .ok c ∧ c.LegalIn library ∧
      c.account = account ∧ c.sex = s ∧ c.issuedSeed = seed ∧ c.createdAt = createdAt) ∧
    (∀ e, Sex.read sex = .error e → ∀ l : Library,
      issueCharacter l account sex seed createdAt = .error (.invalidSex sex)) := by
  have hl := sufficient_of_finish h
  constructor
  · intro s hs
    obtain ⟨sheet, hd, ha, hsex, hseed, hat, hi⟩ := exists_drawnSheet account seed createdAt hs
      hl.quirks (List.isEmpty_eq_false_iff.2 hl.uselessBits)
    rw [Character.ofSheet_eq_ok (hd.fault?_eq_none hl)] at hi
    exact ⟨_, hi, hd.legalIn hl, ha, hsex, hseed, hat⟩
  · intro e he l
    unfold issueCharacter
    rw [he]
    rfl

end Loader

/-! ### A library that is just large enough -/

namespace Village

/-- Two quirks, a useless bit and a reputation to draw from, and one thing to do. -/
def calls : List LoadCall := [
  ⟨false, "(quirks: [(id: \"calm\"), (id: \"vain\", rarity_weight: 0.1)])"⟩,
  ⟨false, "(useless_bits: [(id: \"hums\")], actions: [(id: \"bake\")])"⟩,
  ⟨false, "(reputation_biases: [(id: \"late\", score: -2, notes: \"Late again\")])"⟩]

theorem finished : ∃ library report, (Loader.loadAll calls).finish = .ok (library, report) ∧
    library.reputationBiases.map (fun b => (b.score, b.notes)) = [(-2, "Late again")] := by
  have hrows : ((Loader.loadAll calls).finish.toOption.map fun p =>
      p.1.reputationBiases.map fun b => (b.score, b.notes)) = some [(-2, "Late again")] := by
    decide +kernel
  obtain ⟨⟨library, report⟩, h, hlibrary⟩ := Option.map_eq_some_iff.1 hrows
  exact ⟨library, report, toOption_eq_some_iff.1 h, hlibrary⟩

/-- Everybody in the village starts from the same reputation. -/
theorem issues_legal : ∃ library report,
    (Loader.loadAll calls).finish = .ok (library, report) ∧ Sex.read " F " = .ok .female ∧
    ∃ c, issueCharacter library "ada" " F " "dawn" .epoch = .ok c ∧ c.LegalIn library ∧
      c.sex = .female ∧ c.reputation.score = -2 ∧ c.reputation.notes = "Late again" := by
  have hsex : Sex.read " F " = .ok .female := by decide +kernel
  obtain ⟨library, report, h, hlibrary⟩ := finished
  obtain ⟨c, hc, hlegal, -, hs, -⟩ :=
    (Loader.issueCharacter_legal h "ada" " F " "dawn" .epoch).1 .female hsex
  refine ⟨library, report, h, hsex, c, hc, hlegal, hs, ?_⟩
  -- there is only one row that a reputation can come from
  rcases hlegal.reputation with ⟨b, hb, hscore, hnotes⟩ | ⟨hnone, -⟩
  · have hrow : (b.score, b.notes) ∈ library.reputationBiases.map fun b => (b.score, b.notes) :=
      List.mem_map_of_mem hb
    rw [hlibrary, List.mem_singleton, ← hscore, ← hnotes] at hrow
    exact Prod.mk.inj hrow
  · rw [hnone] at hlibrary
    cases hlibrary

end Village

end Reckoning
