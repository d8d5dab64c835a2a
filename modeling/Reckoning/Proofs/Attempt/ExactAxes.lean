import Reckoning.Proofs.Attempt.Bounds

/-!
# Exact axes

The points of everything that takes part in an attempt, added up as integers.

* `Attempt.exactBase` is that sum on an axis, source by source.
* `Attempt.contributions_eq_of_traitsApart`: where no trait of the character shares its id with
  anything else, interactions do not depend on each other.
* `Attempt.sum_addends`: there it is the sum of what is added.
* `Attempt.axes_exact`: in a library that is loaded from texts, it is the base of the result.
-/

namespace Reckoning

/-- What an interaction makes of points of the character's quirk. -/
def Effect.points : Effect → Int → Int
  | .amplify, n => n
  | .dampen, n => -(n.tdiv 2)

theorem Effect.get_applyTo (e : Effect) (m : Modifiers) (axis : Axis) :
    (e.applyTo m).get axis = e.points (m.get axis) := by
  cases e with
  | amplify => rfl
  | dampen => exact Modifiers.get_mapValues (f := fun n => -(n.tdiv 2)) rfl m axis

namespace Attempt

variable (library : Library) (a : Attempt) (axis : Axis)

/-! ### The sum, source by source -/

/-- The quirks of the items at hand that bend the action, as often as an item has them. -/
def wieldedQuirks : List ItemQuirk :=
  ((a.possessed.flatMap (·.quirks)).filterMap library.itemQuirk?).filter
    (·.appliesTo a.action.id)

/-- The quirks of the place that bend the action, as often as the room has them. -/
def ambientQuirks : List EnvironmentalQuirk :=
  (a.room.environmentalQuirks.filterMap library.environmentalQuirk?).filter fun q =>
    Source.isOpenTo q.roomTypes a.room.roomType && Source.isOpenTo q.actions a.action.id

/-- The points of the traits that participate, each of them once. -/
def traitPoints : Int :=
  (((a.quirks library).filter (a.participates library ·.source)).map
      (·.modifiers.get axis)).sum
    + (((a.failings library).filter (a.participates library ·.source)).map
      (·.modifiers.get axis)).sum
    + (((a.uselessBits library).filter (a.participates library ·.source)).map
      fun b => b.bonus.get axis + b.penalty.get axis).sum

/-- The points of the quirks of items. -/
def itemPoints : Int := ((a.wieldedQuirks library).map (·.modifiers.get axis)).sum

/-- The points of the quirks of the place. -/
def placePoints : Int := ((a.ambientQuirks library).map (·.modifiers.get axis)).sum

/-- The points for the lack of an item. -/
def lackPoints : Int := if a.unarmed then a.action.unarmedModifiers.get axis else 0

/-- What the rows of some quirks of items add: each row with the quirk of the character that it
names, if that one applies. -/
def pairings (is : List ItemQuirk) : List Contribution :=
  is.flatMap fun i => i.interactions.flatMap fun r =>
    ((a.quirks library).filter fun q => q.id == r.quirk && q.source.applies a.circumstances).map
      fun q => ⟨⟨s!"{i.id}×{q.id}"⟩, .item, r.effect.applyTo q.modifiers⟩

/-- The points of interactions: of every row of every quirk of an item, with the quirk of the
character that it names, if that one applies. -/
def pairingPoints : Int :=
  ((a.wieldedQuirks library).flatMap fun i => i.interactions.flatMap fun r =>
    ((a.quirks library).filter fun q =>
      q.id == r.quirk && q.source.applies a.circumstances).map fun q =>
        r.effect.points (q.modifiers.get axis)).sum

/-- The degradation by the failings that participate, unless the action failed. -/
def degradationPoints : Int :=
  if axis = .recoveryCost ∧ a.outcome library ≠ .failure then
    (((a.failings library).filter fun f =>
      f.appliesOnSuccess && a.participates library f.source).map
        (·.magnitudeFor a.character.attributes)).sum
  else 0

/-- The points of everything that takes part. -/
def exactBase : Int :=
  a.traitPoints library axis + a.itemPoints library axis + a.placePoints library axis
    + a.lackPoints axis + a.pairingPoints library axis + a.degradationPoints library axis

variable {library a axis}

/-! ### The parts of the sum -/

theorem itemQuirks_eq : a.itemQuirks library = a.wieldedQuirks library := by
  unfold itemQuirks wieldedQuirks
  rw [List.filterMap_flatMap]
  rfl

theorem environmentalQuirks_eq : a.environmentalQuirks library = a.ambientQuirks library := rfl

theorem sum_lack : (a.lack.map (·.modifiers.get axis)).sum = a.lackPoints axis := by
  unfold lack lackPoints
  cases hu : a.unarmed with
  | false => simp
  | true =>
    cases hn : a.action.unarmedModifiers.isNeutral with
    | false => simp
    | true => simp [Modifiers.get_of_isNeutral hn]

/-- What waits and then joins is added once. -/
theorem sum_filter_or {α : Type} (p q : α → Bool) (f : α → Int) (xs : List α) :
    ((xs.filter p).map f).sum + ((xs.filter fun x => !p x && q x).map f).sum =
      ((xs.filter fun x => p x || q x).map f).sum := by
  induction xs with
  | nil => rfl
  | cons x xs ih =>
    cases hp : p x <;> cases hq : q x <;> simp [hp, hq] <;> omega

theorem sum_traits (hl : library.InLimits) :
    (((a.traits library).filter (·.applies a.circumstances)).map (·.modifiers.get axis)).sum
      + ((a.late library).map (·.modifiers.get axis)).sum = a.traitPoints library axis := by
  unfold late
  simp only
  rw [sum_filter_or]
  have hb : (((a.uselessBits library).filter (a.participates library ·.source)).map
      (·.combined.get axis)) =
      ((a.uselessBits library).filter (a.participates library ·.source)).map
        fun b => b.bonus.get axis + b.penalty.get axis := by
    refine List.map_congr_left fun b hb => ?_
    have hb : (Definition.uselessBit b).InLimits :=
      hl _ (mem_of_mem_uselessBits (List.mem_filter.1 hb).1)
    exact UselessBit.get_combined hb.1 hb.2 axis
  unfold traitPoints traits
  rw [← hb]
  simp only [List.filter_append, List.filter_map, List.map_append, List.map_map, List.sum_append]
  rfl

/-- Where ids are apart, a row interacts with the quirk that it names if that one applies. -/
theorem toList_pairing? (h : a.TraitsApart library)
    {s : List Contribution × ItemQuirk × Interaction} (hs : s ∈ a.stages library) :
    (a.pairing? library s.1 s.2).toList =
      ((a.quirks library).filter fun q =>
        q.id == s.2.2.quirk && q.source.applies a.circumstances).map fun q =>
          ⟨⟨s!"{s.2.1.id}×{q.id}"⟩, .item, s.2.2.effect.applyTo q.modifiers⟩ := by
  -- no id is taken by anything else, so an id that took part is a quirk that applies
  have hown : ∀ q ∈ a.quirks library, takesPart s.1 q.id = q.source.applies a.circumstances := by
    intro q hq
    have hq := source_mem_traits_of_quirk hq
    have ht := (hasTraits_stages hs).takesPart_iff hq
    rw [h.foreign_stage hq hs, or_iff_left Bool.false_ne_true] at ht
    exact Bool.eq_iff_iff.2 ht
  have hfilter : ((a.quirks library).filter fun q =>
      q.id == s.2.2.quirk && q.source.applies a.circumstances) =
      ((a.quirks library).find? fun q => q.id == s.2.2.quirk && takesPart s.1 q.id).toList := by
    rw [← filter_eq_toList_find? nodup_ids_quirks s.2.2.quirk (by simp +contextual)]
    exact List.filter_congr fun q hq => by rw [hown q hq]
  rw [hfilter]
  unfold pairing?
  cases (a.quirks library).find? fun q => q.id == s.2.2.quirk && takesPart s.1 q.id <;> rfl

/-- Where ids are apart, what interactions add does not depend on what took part before. -/
theorem contributions_eq_of_traitsApart (h : a.TraitsApart library) :
    a.contributions library =
      a.gathered library ++ a.pairings library (a.wieldedQuirks library) := by
  have hrows : a.pairings library (a.wieldedQuirks library) =
      (a.interactions library).flatMap fun r => ((a.quirks library).filter fun q =>
        q.id == r.2.quirk && q.source.applies a.circumstances).map fun q =>
          ⟨⟨s!"{r.1.id}×{q.id}"⟩, .item, r.2.effect.applyTo q.modifiers⟩ := by
    unfold pairings interactions
    rw [itemQuirks_eq, List.flatMap_assoc]
    simp only [List.flatMap_map]
  rw [contributions_eq, hrows]
  -- rows and stages run in step, so they agree row by row
  conv_rhs => rw [← map_snd_stagesFrom library a (a.gathered library) (a.interactions library)]
  rw [List.filterMap_eq_flatMap_toList, List.flatMap_map]
  exact congrArg _ (List.flatMap_congr fun s hs => toList_pairing? h hs)

theorem sum_pairings :
    ((a.pairings library (a.wieldedQuirks library)).map (·.modifiers.get axis)).sum =
      a.pairingPoints library axis := by
  unfold pairings pairingPoints
  simp only [List.map_flatMap, List.map_map, Function.comp_def, Effect.get_applyTo]

theorem sum_degradations (h : a.TraitsApart library) :
    (if axis = .recoveryCost then a.degradations library else []).sum =
      a.degradationPoints library axis := by
  unfold degradations degradationPoints
  simp only
  by_cases hx : axis = .recoveryCost
  · by_cases ho : a.outcome library = .failure
    · simp [ho]
    · rw [if_pos hx, if_neg ho, if_pos ⟨hx, ho⟩]
      -- the same failings are left: a failing's id is taken exactly when it participates
      congr 2
      refine List.filter_congr fun f hf => ?_
      have hf := source_mem_traits_of_failing hf
      have ht := hasTraits_participants.takesPart_iff hf
      rw [foreign_participants, h.foreign_contributions hf, or_iff_left Bool.false_ne_true] at ht
      exact congrArg _ (Bool.eq_iff_iff.2 ht)
  · simp [hx]

/-- **What is added on an axis sums up source by source**, where ids are apart. -/
theorem sum_addends (hl : library.InLimits) (h : a.TraitsApart library) (axis : Axis) :
    (a.addends library axis).sum = a.exactBase library axis := by
  have hgathered : ((a.gathered library).map (·.modifiers.get axis)).sum =
      (((a.traits library).filter (·.applies a.circumstances)).map (·.modifiers.get axis)).sum
        + a.itemPoints library axis + a.placePoints library axis + a.lackPoints axis := by
    unfold gathered itemPoints placePoints
    rw [itemQuirks_eq, environmentalQuirks_eq, ← sum_lack]
    simp only [List.map_append, List.map_map, List.sum_append]
    rfl
  have hlate : (((a.late library).map (·.contribution)).map (·.modifiers.get axis)).sum =
      ((a.late library).map (·.modifiers.get axis)).sum := by
    rw [List.map_map]
    rfl
  unfold addends participants exactBase
  rw [contributions_eq_of_traitsApart h, ← sum_traits hl, ← sum_pairings, ← sum_degradations h]
  simp only [List.map_append, List.sum_append]
  simp only [hgathered, hlate]
  omega

/-- **Results are exact.**  In a library that is loaded from texts, fewer than a million
contributions never saturate, and each base is the sum of the points of what took part. -/
theorem axes_exact {library : Library} {strict : Bool} {texts : List String}
    (hl : library.ComesFrom (Loader.run strict (texts.map .text)))
    {a : Attempt} (ha : a.action ∈ library.actions) (h : a.TraitsApart library)
    (hn : (a.participants library).length + (a.degradations library).length < 1000000)
    (axis : Axis) :
    (∀ ns, ns <+: a.addends library axis →
      InRange ns.sum ∧ InRange (ns.sum + a.luck.get axis)) ∧
    (a.axes library).get axis =
      ⟨a.exactBase library axis, a.luck.get axis,
        a.exactBase library axis + a.luck.get axis⟩ := by
  have hrange {ns : List Int} (hp : ns <+: a.addends library axis) :=
    sum_addends_inRange hl.inLimits ha hn axis hp
  refine ⟨fun ns hp => hrange hp, ?_⟩
  have hsum : saturatingSum (a.addends library axis) = a.exactBase library axis := by
    rw [saturatingSum_eq_sum fun ns hp => (hrange hp).1, sum_addends hl.inLimits h]
  have hfinal := (hrange List.prefix_rfl).2
  rw [sum_addends hl.inLimits h] at hfinal
  rw [get_axes, hsum, AxisResult.sum, saturate_of_inRange hfinal]

end Attempt

/-! ### Two springy rods in the fog -/

namespace Riverside

/-- Content files: traits, what rods are like, and the place. -/
def texts : List String := [
  "(quirks: [(id: \"patient\", modifiers: \x7b\"timing\": 2\x7d), " ++
  "(id: \"vain\", triggers: [\"on_success\"], modifiers: \x7b\"timing\": -1\x7d)])",
  "(failings: [(id: \"clumsy\", magnitude: (3, 3))])",
  "(item_quirks: [(id: \"springy\", modifiers: \x7b\"timing\": 3\x7d, " ++
  "interactions: \x7b\"patient\": (effect: amplify)\x7d)])",
  "(environmental_quirks: [(id: \"fog\", modifiers: \x7b\"timing\": -1\x7d)], " ++
  "actions: [(id: \"fish\", deviation_spread: 0)])"]

/-- The files, loaded. -/
def loader : Loader := Loader.run true (texts.map .text)

/-- The action of the files.  It is kept folded, as the library of the files is large to unfold. -/
@[irreducible]
def fish : Action := loader.library.actions.headD ⟨"", 0, 0, 0, false, [], ∅, ""⟩

/-- Somebody patient, vain and clumsy.  What whistlers do is unknown here. -/
def character : Character where
  id := ⟨1⟩
  account := ""
  sex := .unspecified
  attributes := ⟨[7, 3, 5, 6, 4, 2, 8], rfl, by decide⟩
  quirks := ["patient", "vain"]
  failings := ["clumsy"]
  uselessBits := ["whistler"]
  reputation := ⟨0, ""⟩
  issuedSeed := ""
  createdAt := .epoch
  active := true
  sound := by decide

/-- A rod. -/
def rod (id : ItemId) : Item := ⟨id, "rod", ⟨1⟩, .capture character .epoch, ["springy"], .epoch⟩

/-- They fish in the fog with two rods at once. -/
def attempt : Attempt where
  character := character
  action := fish
  room := ⟨"river", "river", ["fog"], false⟩
  requested := [⟨10⟩, ⟨11⟩]
  possessed := [rod ⟨10⟩, rod ⟨11⟩]
  rushed := false
  seed := "dawn"
  timestamp := .epoch

/-- What the files come to.  Vanity waits for the success, and clumsiness makes it a bad one. -/
theorem loaded : loader.library.actions.isEmpty = false ∧
    (∀ id ∈ character.traitIds, id ∉ loader.library.ids .itemQuirk ∧
      id ∉ loader.library.ids .environmentalQuirk ∧ id ≠ ⟨s!"unarmed:{attempt.action.id}"⟩ ∧
      ∀ i ∈ loader.library.ids .itemQuirk, ∀ q ∈ loader.library.ids .quirk, id ≠ ⟨s!"{i}×{q}"⟩) ∧
    (attempt.participants loader.library).length +
      (attempt.degradations loader.library).length < 1000000 ∧
    (attempt.late loader.library).map (·.id) = ["vain"] ∧
    attempt.degradations loader.library = [3] ∧
    attempt.exactBase loader.library .timing = 10 ∧ attempt.luck.get .timing = 0 ∧
    attempt.exactBase loader.library .recoveryCost = 3 ∧ attempt.luck.get .recoveryCost = 0 := by
  decide +kernel

theorem fish_mem : fish ∈ loader.library.actions := by
  have hne := loaded.1
  unfold fish
  cases h : loader.library.actions with
  | nil => simp [h] at hne
  | cons x xs => exact List.mem_cons_self

theorem traitsApart : attempt.TraitsApart loader.library := by
  obtain ⟨-, hids, -⟩ := loaded
  intro id hid
  obtain ⟨hitem, hplace, hunarmed, hpair⟩ := hids id hid
  rintro (h | h | h | ⟨i, hi, q, hq, h⟩)
  · exact hitem h
  · exact hplace h
  · exact hunarmed h
  · exact hpair i hi q hq h

theorem fishing_exact :
    (∀ ns, ns <+: attempt.addends loader.library .timing →
      InRange ns.sum ∧ InRange (ns.sum + attempt.luck.get .timing)) ∧
    (attempt.axes loader.library).get .timing = ⟨10, 0, 10⟩ ∧
    (attempt.axes loader.library).get .recoveryCost = ⟨3, 0, 3⟩ := by
  have hl : loader.library.ComesFrom loader := .inl rfl
  obtain ⟨-, -, hcount, -, -, htiming, hluck, hrecovery, hbad⟩ := loaded
  have hexact := Attempt.axes_exact (a := attempt) hl fish_mem traitsApart hcount
  obtain ⟨hrange, ht⟩ := hexact .timing
  obtain ⟨-, hr⟩ := hexact .recoveryCost
  rw [htiming, hluck] at ht
  rw [hrecovery, hbad] at hr
  exact ⟨hrange, ht, hr⟩

end Riverside

end Reckoning
