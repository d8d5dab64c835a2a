import Mathlib.Data.List.Induction
import Mathlib.Data.List.Nodup
import Reckoning.Engine.Attempt
import Reckoning.Proofs.Lookup

/-!
# Who took part

Whether a source took part is read off the ids of the contributions, so a trait that was held back
is taken for a participant when an item, a place or an interaction contributed under its id.

* `foreign` finds contributions under an id that are not the character's own.
* `Attempt.stages` are the rows of interactions, each with what took part when it was looked at.
* `Attempt.HasTraits` says which traits are among some contributions; it holds of every stage
  and of all participants, and `HasTraits.takesPart_iff` says what an id stands for then.
-/

namespace Reckoning

/-- Something that is not the character's own took part under an id. -/
def foreign (cs : List Contribution) (id : DefId) : Bool :=
  cs.any fun c => c.id == id && !c.origin.isControlled

theorem takesPart_eq_true {cs : List Contribution} {id : DefId} :
    takesPart cs id = true ↔ ∃ c ∈ cs, c.id = id := by
  simp [takesPart]

theorem foreign_eq_true {cs : List Contribution} {id : DefId} :
    foreign cs id = true ↔ ∃ c ∈ cs, c.id = id ∧ c.origin.isControlled = false := by
  simp [foreign]

theorem foreign_append (cs ds : List Contribution) (id : DefId) :
    foreign (cs ++ ds) id = (foreign cs id || foreign ds id) :=
  List.any_append

/-! ### The first contribution of each id -/

theorem firstOfEach_concat (cs : List Contribution) (c : Contribution) :
    firstOfEach (cs ++ [c]) =
      if takesPart (firstOfEach cs) c.id then firstOfEach cs else firstOfEach cs ++ [c] := by
  unfold firstOfEach
  rw [List.foldl_concat]

/-- The factors are the contributions that come first under their ids. -/
theorem mem_firstOfEach {cs : List Contribution} {c : Contribution} :
    c ∈ firstOfEach cs ↔ cs.find? (·.id == c.id) = some c := by
  induction cs using List.reverseRecOn generalizing c with
  | nil => simp [firstOfEach]
  | append_singleton cs d ih =>
    -- an id is among the factors exactly when it was seen
    have hseen : takesPart (firstOfEach cs) d.id = true ↔ (cs.find? (·.id == d.id)).isSome := by
      rw [takesPart_eq_true, Option.isSome_iff_exists]
      constructor
      · rintro ⟨e, he, hid⟩
        exact ⟨e, hid ▸ ih.1 he⟩
      · rintro ⟨e, he⟩
        have hid : e.id = d.id := by simpa using List.find?_some he
        exact ⟨e, ih.2 (hid ▸ he), hid⟩
    rw [firstOfEach_concat, List.find?_append]
    by_cases hid : d.id = c.id
    · rw [hid] at hseen ⊢
      cases hf : cs.find? (·.id == c.id) with
      | none =>
        rw [if_neg (by simp [hseen, hf])]
        simp [ih, hf, hid, eq_comm]
      | some e =>
        rw [if_pos (by simp [hseen, hf])]
        simp [ih, hf]
    · have hd : c ≠ d := fun h => hid (h ▸ rfl)
      split_ifs <;> simp [ih, hid, hd]

/-! ### The traits of a character -/

/-- The ids of the traits that a character carries. -/
def Character.traitIds (c : Character) : List DefId := c.quirks ++ c.failings ++ c.uselessBits

/-- A character carries no trait twice. -/
theorem Character.nodup_traitIds (c : Character) : c.traitIds.Nodup := by
  have h := c.sound
  unfold Sheet.fault? traitFault? at h
  split_ifs at h
  exact firstRepeated?_eq_none.1 (Option.map_eq_none_iff.1 h)

namespace Attempt

variable (library : Library) (a : Attempt)

/-- A source takes part: before the outcome is known, or once it is. -/
def participates (s : Source) : Bool :=
  s.applies a.circumstances || s.appliesAfter (a.outcome library)

variable {library a}

theorem isControlled_of_mem_traits {s : Source} (h : s ∈ a.traits library) :
    s.origin.isControlled = true := by
  simp only [traits, List.mem_append, List.mem_map] at h
  rcases h with (⟨q, -, rfl⟩ | ⟨f, -, rfl⟩) | ⟨b, -, rfl⟩ <;> rfl

theorem source_mem_traits_of_quirk {q : Quirk} (h : q ∈ a.quirks library) :
    q.source ∈ a.traits library := by
  unfold traits
  exact List.mem_append_left _ (List.mem_append_left _ (List.mem_map_of_mem h))

theorem source_mem_traits_of_failing {f : Failing} (h : f ∈ a.failings library) :
    f.source ∈ a.traits library := by
  unfold traits
  exact List.mem_append_left _ (List.mem_append_right _ (List.mem_map_of_mem h))

theorem ids_traits_sublist :
    ((a.traits library).map (·.id)).Sublist a.character.traitIds := by
  have hq := map_filterMap_sublist (f := library.quirk?) id_of_find? a.character.quirks
  have hf := map_filterMap_sublist (f := library.failing?) id_of_find? a.character.failings
  have hb := map_filterMap_sublist (f := library.uselessBit?) id_of_find? a.character.uselessBits
  simp only [traits, quirks, failings, uselessBits, List.map_append, List.map_map]
  exact (hq.append hf).append hb

theorem nodup_ids_traits : ((a.traits library).map (·.id)).Nodup :=
  a.character.nodup_traitIds.sublist ids_traits_sublist

theorem nodup_ids_quirks : ((a.quirks library).map (·.id)).Nodup := by
  have h : ((a.traits library).map (·.id)).Nodup := nodup_ids_traits
  have hq := h.sublist
    (((List.sublist_append_left _ _).trans (List.sublist_append_left _ _)).map _)
  simpa [Function.comp_def, Quirk.source] using hq

/-- A quirk of a character is known by its id. -/
theorem quirk_eq_of_id_eq {p q : Quirk} (hp : p ∈ a.quirks library) (hq : q ∈ a.quirks library)
    (h : p.id = q.id) : p = q :=
  List.inj_on_of_nodup_map nodup_ids_quirks hp hq h

/-- A trait of a character is known by its id. -/
theorem eq_of_id_eq {s t : Source} (hs : s ∈ a.traits library) (ht : t ∈ a.traits library)
    (h : s.id = t.id) : s = t :=
  List.inj_on_of_nodup_map nodup_ids_traits hs ht h

/-! ### Interactions, one by one -/

variable (library a)

/-- The rows of interactions, each with what took part when it was looked at. -/
def stagesFrom (cs : List Contribution) :
    List (ItemQuirk × Interaction) → List (List Contribution × ItemQuirk × Interaction)
  | [] => []
  | r :: rest => (cs, r) :: stagesFrom (cs ++ (a.pairing? library cs r).toList) rest

/-- The rows of interactions of an attempt, each with what took part before it. -/
def stages : List (List Contribution × ItemQuirk × Interaction) :=
  a.stagesFrom library (a.gathered library) (a.interactions library)

theorem map_snd_stagesFrom (cs : List Contribution) (rows : List (ItemQuirk × Interaction)) :
    (a.stagesFrom library cs rows).map (·.2) = rows := by
  induction rows generalizing cs with
  | nil => rfl
  | cons r rows ih => rw [stagesFrom, List.map_cons, ih]

theorem addPairings_eq (cs : List Contribution) (rows : List (ItemQuirk × Interaction)) :
    a.addPairings library cs rows =
      cs ++ (a.stagesFrom library cs rows).filterMap fun s => a.pairing? library s.1 s.2 := by
  induction rows generalizing cs with
  | nil => simp [addPairings, stagesFrom]
  | cons r rows ih =>
    rw [addPairings, ih, stagesFrom, List.append_assoc]
    cases hp : a.pairing? library cs r <;> simp [hp]

/-- Interactions only ever add to what took part. -/
theorem contributions_eq :
    a.contributions library =
      a.gathered library ++ (a.stages library).filterMap fun s => a.pairing? library s.1 s.2 :=
  addPairings_eq library a _ _

/-- What interactions add depends on no more of an attempt than the quirks of the character. -/
theorem addPairings_congr {library : Library} {a b : Attempt}
    (h : b.quirks library = a.quirks library) (cs : List Contribution)
    (rows : List (ItemQuirk × Interaction)) :
    b.addPairings library cs rows = a.addPairings library cs rows := by
  induction rows generalizing cs with
  | nil => rfl
  | cons r rows ih =>
    unfold addPairings pairing?
    rw [h, ih]

/-- A quirk of the character that interacts, and how. -/
theorem pairing?_eq_some {cs : List Contribution} {r : ItemQuirk × Interaction}
    {c : Contribution} :
    a.pairing? library cs r = some c ↔
      ∃ q ∈ a.quirks library, q.id = r.2.quirk ∧ takesPart cs q.id = true ∧
        c = ⟨⟨s!"{r.1.id}×{q.id}"⟩, .item, r.2.effect.applyTo q.modifiers⟩ := by
  unfold pairing?
  rw [Option.map_eq_some_iff]
  constructor
  · rintro ⟨q, hq, rfl⟩
    obtain ⟨hid, ht⟩ : q.id = r.2.quirk ∧ takesPart cs q.id = true := by
      simpa using List.find?_some hq
    exact ⟨q, List.mem_of_find?_eq_some hq, hid, ht, rfl⟩
  · rintro ⟨q, hq, hid, ht, rfl⟩
    obtain ⟨q', hm, hf, hp⟩ := exists_find? (p := fun q => q.id == r.2.quirk && takesPart cs q.id)
      hq (by simp [hid.symm, ht])
    -- the search may stop at another quirk only if that one has the same id
    have hid' : q'.id = r.2.quirk := by
      simp only [Bool.and_eq_true, beq_iff_eq] at hp
      exact hp.1
    have heq : q' = q := quirk_eq_of_id_eq hm hq (hid'.trans hid.symm)
    exact ⟨q', hf, by rw [heq]⟩

/-! ### What an id stands for -/

/-- The character's own contributions are those of the traits with a property. -/
def HasTraits (cs : List Contribution) (p : Source → Bool) : Prop :=
  ∀ c, c.origin.isControlled = true →
    (c ∈ cs ↔ ∃ s ∈ a.traits library, p s = true ∧ s.contribution = c)

namespace HasTraits

variable {library a} {cs ds : List Contribution} {p : Source → Bool}

theorem append (h : a.HasTraits library cs p) (hd : ∀ c ∈ ds, c.origin.isControlled = false) :
    a.HasTraits library (cs ++ ds) p := by
  intro c hc
  have hn : c ∉ ds := fun hm => by simp [hd c hm] at hc
  rw [List.mem_append, or_iff_left hn, h c hc]

/-- **A trait seems to take part when it does, or when something else does under its id.** -/
theorem takesPart_iff (h : a.HasTraits library cs p) {s : Source} (hs : s ∈ a.traits library) :
    takesPart cs s.id = true ↔ p s = true ∨ foreign cs s.id = true := by
  rw [takesPart_eq_true, foreign_eq_true]
  constructor
  · rintro ⟨c, hc, hid⟩
    -- the character's own contribution under the id of a trait is that trait
    by_cases ho : c.origin.isControlled
    · obtain ⟨t, ht, hp, rfl⟩ := (h c ho).1 hc
      rw [eq_of_id_eq hs ht hid.symm]
      exact .inl hp
    · exact .inr ⟨c, hc, hid, by simpa using ho⟩
  · rintro (hp | ⟨c, hc, hid, -⟩)
    · exact ⟨s.contribution, (h _ (isControlled_of_mem_traits hs)).2 ⟨s, hs, hp, rfl⟩, rfl⟩
    · exact ⟨c, hc, hid⟩

end HasTraits

variable {library a}

theorem hasTraits_gathered :
    a.HasTraits library (a.gathered library) (·.applies a.circumstances) := by
  have h : a.HasTraits library
      (((a.traits library).filter (·.applies a.circumstances)).map (·.contribution))
      (·.applies a.circumstances) := by
    intro c _
    simp only [List.mem_map, List.mem_filter, and_assoc]
  unfold gathered
  refine ((h.append ?_).append ?_).append ?_
  · intro c hc
    obtain ⟨q, -, rfl⟩ := List.mem_map.1 hc
    rfl
  · intro c hc
    obtain ⟨q, -, rfl⟩ := List.mem_map.1 hc
    rfl
  · intro c hc
    unfold lack at hc
    split_ifs at hc
    · rw [List.mem_singleton.1 hc]
      rfl
    · exact absurd hc List.not_mem_nil

theorem isControlled_of_pairing? {cs : List Contribution} {r : ItemQuirk × Interaction}
    {c : Contribution} (h : a.pairing? library cs r = some c) :
    c.origin.isControlled = false := by
  obtain ⟨q, -, -, -, rfl⟩ := (pairing?_eq_some library a).1 h
  rfl

theorem hasTraits_stagesFrom {p : Source → Bool} {rows : List (ItemQuirk × Interaction)}
    {cs : List Contribution} (h : a.HasTraits library cs p) :
    ∀ s ∈ a.stagesFrom library cs rows, a.HasTraits library s.1 p := by
  induction rows generalizing cs with
  | nil => exact fun s hs => absurd hs List.not_mem_nil
  | cons r rows ih =>
    rw [stagesFrom, List.forall_mem_cons]
    -- what a row adds is never the character's own, so the next row sees the same traits
    refine ⟨h, ih (h.append fun c hc => ?_)⟩
    exact isControlled_of_pairing? (Option.mem_toList.1 hc)

/-- At every stage the traits that apply have taken part. -/
theorem hasTraits_stages {s : List Contribution × ItemQuirk × Interaction}
    (hs : s ∈ a.stages library) : a.HasTraits library s.1 (·.applies a.circumstances) :=
  hasTraits_stagesFrom hasTraits_gathered s hs

theorem hasTraits_contributions :
    a.HasTraits library (a.contributions library) (·.applies a.circumstances) := by
  rw [contributions_eq]
  refine hasTraits_gathered.append fun c hc => ?_
  obtain ⟨s, -, hp⟩ := List.mem_filterMap.1 hc
  exact isControlled_of_pairing? hp

theorem mem_late {s : Source} :
    s ∈ a.late library ↔ s ∈ a.traits library ∧ s.applies a.circumstances = false ∧
      s.appliesAfter (a.outcome library) = true := by
  simp [late]

theorem participates_of_mem_late {s : Source} (h : s ∈ a.late library) :
    a.participates library s = true := by
  simp [participates, (mem_late.1 h).2.2]

/-- In the end the traits that participate have taken part. -/
theorem hasTraits_participants :
    a.HasTraits library (a.participants library) (a.participates library) := by
  intro c hc
  unfold participants
  rw [List.mem_append, hasTraits_contributions c hc, List.mem_map]
  -- a trait participates when it applies at once, or when it waited and applies then
  constructor
  · rintro (⟨s, hs, hp, rfl⟩ | ⟨s, hs, rfl⟩)
    · exact ⟨s, hs, by simp [participates, hp], rfl⟩
    · exact ⟨s, (mem_late.1 hs).1, participates_of_mem_late hs, rfl⟩
  · rintro ⟨s, hs, hp, rfl⟩
    cases ha : s.applies a.circumstances with
    | true => exact .inl ⟨s, hs, ha, rfl⟩
    | false => exact .inr ⟨s, mem_late.2 ⟨hs, ha, by simpa [participates, ha] using hp⟩, rfl⟩

/-- Only the character's own traits wait for the outcome. -/
theorem foreign_participants (id : DefId) :
    foreign (a.participants library) id = foreign (a.contributions library) id := by
  unfold participants
  rw [foreign_append, Bool.or_eq_left_iff_imp]
  intro h
  obtain ⟨c, hc, -, ho⟩ := foreign_eq_true.1 h
  obtain ⟨s, hs, rfl⟩ := List.mem_map.1 hc
  have := isControlled_of_mem_traits (mem_late.1 hs).1
  simp_all [Source.contribution]

/-! ### Traits that share no id -/

variable (library a)

/-- An id that something else than a trait of the character may contribute under. -/
def ForeignId (id : DefId) : Prop :=
  id ∈ library.ids .itemQuirk ∨ id ∈ library.ids .environmentalQuirk ∨
    id = ⟨s!"unarmed:{a.action.id}"⟩ ∨
    ∃ i ∈ library.ids .itemQuirk, ∃ q ∈ library.ids .quirk, id = ⟨s!"{i}×{q}"⟩

/-- No trait of the character bears an id that something else may contribute under. -/
def TraitsApart : Prop := ∀ id ∈ a.character.traitIds, ¬ a.ForeignId library id

variable {library a}

theorem mem_of_mem_itemQuirks {q : ItemQuirk} (h : q ∈ a.itemQuirks library) :
    q ∈ library.itemQuirks := by
  obtain ⟨i, -, hq⟩ := List.mem_flatMap.1 (List.mem_filter.1 h).1
  exact mem_of_mem_filterMap_find? hq

theorem mem_of_mem_environmentalQuirks {q : EnvironmentalQuirk}
    (h : q ∈ a.environmentalQuirks library) : q ∈ library.environmentalQuirks :=
  mem_of_mem_filterMap_find? (List.mem_filter.1 h).1

theorem mem_of_mem_quirks {q : Quirk} (h : q ∈ a.quirks library) : q ∈ library.quirks :=
  mem_of_mem_filterMap_find? h

theorem mem_of_mem_failings {f : Failing} (h : f ∈ a.failings library) : f ∈ library.failings :=
  mem_of_mem_filterMap_find? h

theorem mem_of_mem_uselessBits {b : UselessBit} (h : b ∈ a.uselessBits library) :
    b ∈ library.uselessBits :=
  mem_of_mem_filterMap_find? h

theorem foreignId_gathered {c : Contribution} (h : c ∈ a.gathered library)
    (ho : c.origin.isControlled = false) : a.ForeignId library c.id := by
  simp only [gathered, List.mem_append, List.mem_map] at h
  rcases h with ((⟨s, hs, rfl⟩ | ⟨q, hq, rfl⟩) | ⟨q, hq, rfl⟩) | hl
  · have := isControlled_of_mem_traits (List.mem_filter.1 hs).1
    simp_all [Source.contribution]
  · exact .inl (List.mem_map_of_mem (mem_of_mem_itemQuirks hq))
  · exact .inr (.inl (List.mem_map_of_mem (mem_of_mem_environmentalQuirks hq)))
  · unfold lack at hl
    split_ifs at hl
    · rw [List.mem_singleton.1 hl]
      exact .inr (.inr (.inl rfl))
    · exact absurd hl List.not_mem_nil

theorem foreignId_of_pairing? {cs : List Contribution} {r : ItemQuirk × Interaction}
    {c : Contribution} (hr : r ∈ a.interactions library) (h : a.pairing? library cs r = some c) :
    a.ForeignId library c.id := by
  obtain ⟨q, hq, -, -, rfl⟩ := (pairing?_eq_some library a).1 h
  obtain ⟨i, hi, hm⟩ := List.mem_flatMap.1 hr
  obtain ⟨x, -, rfl⟩ := List.mem_map.1 hm
  exact .inr (.inr (.inr ⟨_, List.mem_map_of_mem (mem_of_mem_itemQuirks hi), _,
    List.mem_map_of_mem (mem_of_mem_quirks hq), rfl⟩))

theorem foreignId_stagesFrom {rows : List (ItemQuirk × Interaction)} {cs : List Contribution}
    (hr : ∀ r ∈ rows, r ∈ a.interactions library)
    (h : ∀ c ∈ cs, c.origin.isControlled = false → a.ForeignId library c.id) :
    ∀ s ∈ a.stagesFrom library cs rows, ∀ c ∈ s.1, c.origin.isControlled = false →
      a.ForeignId library c.id := by
  induction rows generalizing cs with
  | nil => exact fun s hs => absurd hs List.not_mem_nil
  | cons r rows ih =>
    obtain ⟨hrr, hrs⟩ := List.forall_mem_cons.1 hr
    rw [stagesFrom, List.forall_mem_cons]
    -- a row adds at most one contribution, named after two quirks of the library
    refine ⟨h, ih hrs fun c hc ho => ?_⟩
    rcases List.mem_append.1 hc with hc | hc
    · exact h c hc ho
    · exact foreignId_of_pairing? hrr (Option.mem_toList.1 hc)

theorem mem_interactions_of_mem_stages {s : List Contribution × ItemQuirk × Interaction}
    (h : s ∈ a.stages library) : s.2 ∈ a.interactions library := by
  have := map_snd_stagesFrom library a (a.gathered library) (a.interactions library)
  exact this ▸ List.mem_map_of_mem h

theorem foreignId_contributions {c : Contribution} (h : c ∈ a.contributions library)
    (ho : c.origin.isControlled = false) : a.ForeignId library c.id := by
  rw [contributions_eq] at h
  rcases List.mem_append.1 h with h | h
  · exact foreignId_gathered h ho
  · obtain ⟨s, hs, hp⟩ := List.mem_filterMap.1 h
    exact foreignId_of_pairing? (mem_interactions_of_mem_stages hs) hp

theorem mem_traitIds {s : Source} (h : s ∈ a.traits library) : s.id ∈ a.character.traitIds :=
  ids_traits_sublist.subset (List.mem_map_of_mem h)

namespace TraitsApart

variable {s : Source}

theorem foreign_stage (h : a.TraitsApart library) (hs : s ∈ a.traits library)
    {stage : List Contribution × ItemQuirk × Interaction} (hst : stage ∈ a.stages library) :
    foreign stage.1 s.id = false := by
  rw [Bool.eq_false_iff]
  intro hf
  obtain ⟨c, hc, hid, ho⟩ := foreign_eq_true.1 hf
  have := foreignId_stagesFrom (fun _ hr => hr) (fun c hc ho => foreignId_gathered hc ho)
    stage hst c hc ho
  exact h _ (mem_traitIds hs) (hid ▸ this)

theorem foreign_contributions (h : a.TraitsApart library) (hs : s ∈ a.traits library) :
    foreign (a.contributions library) s.id = false := by
  rw [Bool.eq_false_iff]
  intro hf
  obtain ⟨c, hc, hid, ho⟩ := foreign_eq_true.1 hf
  exact h _ (mem_traitIds hs) (hid ▸ foreignId_contributions hc ho)

end TraitsApart

end Attempt

end Reckoning
