import Mathlib.Algebra.Order.Group.Multiset
import Mathlib.Tactic.Abel
import Reckoning.Engine.Registry
import Reckoning.Proofs.Attempt.Factors
import Reckoning.Proofs.Attempt.Outcome
import Reckoning.Proofs.Engine.Registry

/-!
# Items that are named again

An item that is named twice is at hand twice.  The quirks that it has then count twice, and so do
their interactions, while the factors name each of them once.

* `Attempt.naming` is an attempt with the items of a request, `Attempt.once` has each of them once.
* `Attempt.repeated` is what items add when they come again.
* `Attempt.perm_contributions`: exactly that is added on top of what each item adds once.
* `Attempt.firstOfEach_contributions_once`: it leaves no trace in the factors.
* `Attempt.CountsRepeats` is what naming items again comes to, and `Attempt.naming_again` says that
  it comes to that for every request.
-/

namespace Reckoning

/-! ### What comes again in a list -/

section

variable {α β : Type} [DecidableEq α]

theorem eraseDups_sublist (xs : List α) : xs.eraseDups.Sublist xs := by
  induction xs using List.reverseRecOn with
  | nil => exact .slnil
  | append_singleton xs x ih =>
    rw [eraseDups_concat]
    split_ifs
    · exact ih.trans (List.sublist_append_left _ _)
    · exact ih.append_right _

/-- A list has its elements once, and some of them again. -/
theorem perm_eraseDups_append_diff (xs : List α) :
    (xs.eraseDups ++ xs.diff xs.eraseDups).Perm xs :=
  List.subperm_append_diff_self_of_count_le fun x _ => (eraseDups_sublist xs).count_le x

/-- Elements that come again count for nothing where nothing comes of them. -/
theorem flatMap_eraseDups {g : α → List β} {xs : List α} (h : ∀ x, 1 < xs.count x → g x = []) :
    xs.eraseDups.flatMap g = xs.flatMap g := by
  induction xs using List.reverseRecOn with
  | nil => rfl
  | append_singleton xs x ih =>
    have hxs : ∀ y, 1 < xs.count y → g y = [] := fun y hy =>
      h y (hy.trans_le ((List.sublist_append_left xs [x]).count_le y))
    rw [eraseDups_concat, List.flatMap_append, List.flatMap_singleton, ← ih hxs]
    split_ifs with hx
    · -- it came before, so it comes at least twice
      have hx : 0 < xs.count x := List.count_pos_iff.2 hx
      rw [h x (by rw [List.count_append, List.count_singleton_self]; omega), List.append_nil]
    · rw [List.flatMap_append, List.flatMap_singleton]

/-- Looking ids up keeps apart what is apart. -/
theorem eraseDups_filterMap [DecidableEq β] {f : β → Option α} {g : α → β}
    (h : ∀ i x, f i = some x → g x = i) (is : List β) :
    (is.filterMap f).eraseDups = is.eraseDups.filterMap f := by
  induction is using List.reverseRecOn with
  | nil => rfl
  | append_singleton is i ih =>
    rw [List.filterMap_append, eraseDups_concat]
    cases hf : f i with
    | none =>
      rw [List.filterMap_cons_none hf, List.filterMap_nil, List.append_nil, ih]
      split_ifs <;> simp [hf]
    | some x =>
      -- what is looked up comes again just when its id does
      have hx : x ∈ is.filterMap f ↔ i ∈ is := by
        rw [List.mem_filterMap]
        constructor
        · rintro ⟨k, hk, hkx⟩
          rwa [← h i x hf, h k x hkx]
        · exact fun hi => ⟨i, hi, hf⟩
      rw [List.filterMap_cons_some hf, List.filterMap_nil, eraseDups_concat, ih]
      simp only [hx]
      split_ifs
      · rfl
      · simp [hf]

end

/-! ### Contributions that come again -/

/-- What took part is told by the first contributions. -/
theorem takesPart_congr {cs ds : List Contribution} (h : firstOfEach cs = firstOfEach ds)
    (id : DefId) : takesPart cs id = takesPart ds id := by
  rw [← takesPart_firstOfEach cs, ← takesPart_firstOfEach ds, h]

theorem firstOfEach_append_congr {cs ds : List Contribution} (h : firstOfEach cs = firstOfEach ds)
    (es : List Contribution) : firstOfEach (cs ++ es) = firstOfEach (ds ++ es) := by
  rw [firstOfEach_append, firstOfEach_append, h]
  simp only [takesPart_congr h]

/-- Contributions under ids that took part are not the first ones. -/
theorem firstOfEach_append_of_takesPart {cs ds : List Contribution}
    (h : ∀ d ∈ ds, takesPart cs d.id = true) : firstOfEach (cs ++ ds) = firstOfEach cs := by
  have hnone : (firstOfEach ds).filter (fun d => !takesPart cs d.id) = [] := by
    rw [List.filter_eq_nil_iff]
    intro d hd
    rw [h d (List.mem_of_find?_eq_some (mem_firstOfEach.1 hd))]
    exact Bool.false_ne_true
  rw [firstOfEach_append, hnone, List.append_nil]

/-- What comes again is not the first to come. -/
theorem firstOfEach_flatMap_eraseDups {α : Type} [DecidableEq α] (g : α → List Contribution)
    (cs : List Contribution) (xs : List α) :
    firstOfEach (cs ++ xs.eraseDups.flatMap g) = firstOfEach (cs ++ xs.flatMap g) := by
  induction xs using List.reverseRecOn with
  | nil => rfl
  | append_singleton xs x ih =>
    rw [eraseDups_concat, List.flatMap_append, List.flatMap_singleton, ← List.append_assoc]
    split_ifs with hx
    · rw [ih, eq_comm]
      refine firstOfEach_append_of_takesPart fun d hd => takesPart_eq_true.2 ⟨d, ?_, rfl⟩
      exact List.mem_append_right _ (List.mem_flatMap.2 ⟨x, hx, hd⟩)
    · rw [List.flatMap_append, List.flatMap_singleton, ← List.append_assoc]
      exact firstOfEach_append_congr ih _

/-! ### Items at hand -/

/-- What is possessed of items that are named once each is what is possessed, once each. -/
theorem Registry.eraseDups_possessedBy (r : Registry) (c : CharacterId) (requested : List ItemId) :
    (r.possessedBy c requested).eraseDups = r.possessedBy c requested.eraseDups := by
  have hfind (ids : List ItemId) : r.possessedBy c ids = ids.filterMap fun id =>
      ((r.holding? id).filter (·.holder == c)).map (·.item) := by
    unfold possessedBy
    rw [List.filter_filterMap, List.map_filterMap]
  rw [hfind, hfind]
  refine eraseDups_filterMap (g := (·.id)) (fun id i h => ?_) requested
  obtain ⟨x, hx, rfl⟩ := Option.map_eq_some_iff.1 h
  exact id_of_holding? (Option.filter_eq_some_iff.1 hx).1

namespace Attempt

variable (library : Library) (a : Attempt)

/-- The attempt with the items of a request, as far as the character holds them. -/
def naming (r : Registry) (requested : List ItemId) : Attempt :=
  { a with requested := requested, possessed := r.possessedBy a.character.id requested }

/-- The attempt with each item at hand once.  The request is as it was. -/
def once : Attempt := { a with possessed := a.possessed.eraseDups }

/-- The items that come again. -/
def repeats : List Item := a.possessed.diff a.possessed.eraseDups

/-- The quirks of an item that bend the action. -/
def quirksOf (i : Item) : List ItemQuirk :=
  (i.quirks.filterMap library.itemQuirk?).filter (·.appliesTo a.action.id)

/-- What an item adds by itself. -/
def broughtBy (i : Item) : List Contribution :=
  (a.quirksOf library i).map (·.source.contribution)

/-- What an item adds by interactions. -/
def pairedBy (i : Item) : List Contribution := a.pairings library (a.quirksOf library i)

/-- What items add when they come again. -/
def repeated : List Contribution :=
  a.repeats.flatMap (a.broughtBy library) ++ a.repeats.flatMap (a.pairedBy library)

variable {library a}

theorem wieldedQuirks_eq : a.wieldedQuirks library = a.possessed.flatMap (a.quirksOf library) := by
  unfold wieldedQuirks quirksOf
  rw [List.filterMap_flatMap, List.filter_flatMap]

theorem unarmed_once : a.once.unarmed = a.unarmed := by
  have hany (p : Item → Bool) : a.possessed.eraseDups.any p = a.possessed.any p := by
    rw [Bool.eq_iff_iff, List.any_eq_true, List.any_eq_true]
    simp only [List.mem_eraseDups]
  have hempty : a.possessed.eraseDups.isEmpty = a.possessed.isEmpty := by
    cases a.possessed with
    | nil => rfl
    | cons i is => rw [List.eraseDups_cons]; rfl
  unfold unarmed once
  simp only [hany, hempty]

theorem circumstances_once : a.once.circumstances = a.circumstances := by
  unfold circumstances
  rw [unarmed_once]
  rfl

/-- Of what is gathered, only quirks of items depend on how often items come. -/
theorem gathered_once : a.once.gathered library =
    ((a.traits library).filter (·.applies a.circumstances)).map (·.contribution)
      ++ (a.once.itemQuirks library).map (·.source.contribution)
      ++ (a.environmentalQuirks library).map (·.source.contribution)
      ++ a.lack := by
  unfold gathered environmentalQuirks lack
  rw [circumstances_once, unarmed_once]
  rfl

theorem pairedBy_once : a.once.pairedBy library = a.pairedBy library := by
  funext i
  unfold pairedBy pairings
  rw [circumstances_once]
  rfl

theorem pairings_wieldedQuirks (a : Attempt) :
    a.pairings library (a.wieldedQuirks library) = a.possessed.flatMap (a.pairedBy library) := by
  rw [wieldedQuirks_eq]
  exact List.flatMap_assoc

theorem map_itemQuirks (a : Attempt) :
    (a.itemQuirks library).map (·.source.contribution) =
      a.possessed.flatMap (a.broughtBy library) := by
  rw [itemQuirks_eq, wieldedQuirks_eq, List.map_flatMap]
  rfl

/-- Where ids are apart, items add what they bring and what they pair, and nothing else depends on
how often they come. -/
theorem exists_contributions (h : a.TraitsApart library) : ∃ before between : List Contribution,
    a.contributions library =
      before ++ a.possessed.flatMap (a.broughtBy library) ++ between
        ++ a.possessed.flatMap (a.pairedBy library) ∧
    a.once.contributions library =
      before ++ a.possessed.eraseDups.flatMap (a.broughtBy library) ++ between
        ++ a.possessed.eraseDups.flatMap (a.pairedBy library) := by
  refine ⟨((a.traits library).filter (·.applies a.circumstances)).map (·.contribution),
    (a.environmentalQuirks library).map (·.source.contribution) ++ a.lack, ?_, ?_⟩
  · rw [contributions_eq_of_traitsApart h, pairings_wieldedQuirks]
    unfold gathered
    rw [map_itemQuirks]
    simp only [List.append_assoc]
  · have h : a.once.TraitsApart library := h
    rw [contributions_eq_of_traitsApart h, pairings_wieldedQuirks, pairedBy_once, gathered_once,
      map_itemQuirks]
    simp only [List.append_assoc]
    rfl

/-- **Items that come again add what they bring and what they pair once more.** -/
theorem perm_contributions (h : a.TraitsApart library) :
    (a.contributions library).Perm (a.once.contributions library ++ a.repeated library) := by
  obtain ⟨before, between, ha, ho⟩ := exists_contributions h
  have hagain (g : Item → List Contribution) : (a.possessed.flatMap g).Perm
      (a.possessed.eraseDups.flatMap g ++ a.repeats.flatMap g) := by
    rw [← List.flatMap_append]
    exact (perm_eraseDups_append_diff a.possessed).symm.flatMap_right g
  rw [ha, ho]
  unfold repeated
  have hb := hagain (a.broughtBy library)
  have hp := hagain (a.pairedBy library)
  rw [← Multiset.coe_eq_coe] at hb hp ⊢
  simp only [← Multiset.coe_add] at hb hp ⊢
  rw [hb, hp]
  abel

/-- Nothing that items add when they come again is new. -/
theorem firstOfEach_contributions_once (h : a.TraitsApart library) :
    firstOfEach (a.once.contributions library) = firstOfEach (a.contributions library) := by
  obtain ⟨before, between, ha, ho⟩ := exists_contributions h
  rw [ha, ho]
  refine (firstOfEach_append_congr (firstOfEach_append_congr ?_ between) _).trans
    (firstOfEach_flatMap_eraseDups (a.pairedBy library) _ a.possessed)
  exact firstOfEach_flatMap_eraseDups (a.broughtBy library) before a.possessed

/-- Items that come again change nothing if none of their quirks bends the action. -/
theorem contributions_once_of_idle
    (h : ∀ i, 1 < a.possessed.count i → a.quirksOf library i = []) :
    a.once.contributions library = a.contributions library := by
  have hquirks : a.once.itemQuirks library = a.itemQuirks library := by
    rw [itemQuirks_eq, itemQuirks_eq, wieldedQuirks_eq, wieldedQuirks_eq]
    exact flatMap_eraseDups h
  have hgathered : a.once.gathered library = a.gathered library := by
    rw [gathered_once, hquirks]
    rfl
  have hcharacter : a.once.quirks library = a.quirks library := rfl
  unfold contributions interactions
  rw [hgathered, hquirks, addPairings_congr hcharacter]

/-! ### What becomes of it -/

section

variable (hc : firstOfEach (a.once.contributions library) = firstOfEach (a.contributions library))

theorem late_once (ho : a.once.outcome library = a.outcome library) :
    a.once.late library = a.late library := by
  unfold late
  rw [circumstances_once, ho]
  rfl

include hc

/-- Where the outcome is the same, the same are the first to take part. -/
theorem firstOfEach_participants_once (ho : a.once.outcome library = a.outcome library) :
    firstOfEach (a.once.participants library) = firstOfEach (a.participants library) := by
  unfold participants
  rw [late_once ho]
  exact firstOfEach_append_congr hc _

theorem degradations_once (ho : a.once.outcome library = a.outcome library) :
    a.once.degradations library = a.degradations library := by
  unfold degradations
  simp only [ho, takesPart_congr (firstOfEach_participants_once hc ho)]
  rfl

/-- Where the outcome is the same, records differ in the results at most. -/
theorem record_once (ho : a.once.outcome library = a.outcome library) (threshold : Float) :
    { a.once.record library threshold with axes := a.axes library } =
      a.record library threshold := by
  have hfirst := firstOfEach_participants_once hc ho
  have hfactors : a.once.factors library = a.factors library := hfirst
  have hblame : a.once.blame library = a.blame library := by
    unfold blame
    rw [hfactors]
  have hinterpretation : a.once.interpretation library threshold =
      a.interpretation library threshold := by
    unfold interpretation isReinterpreted
    simp only [hblame, ho, takesPart_congr hfirst]
    rfl
  unfold record
  simp only [hfactors, hblame, hinterpretation, ho, unarmed_once]
  rfl

/-- Where the same results are judged, records are the same. -/
theorem record_once_of_judged (hj : a.once.judged library = a.judged library)
    (threshold : Float) : a.once.record library threshold = a.record library threshold := by
  have ho : a.once.outcome library = a.outcome library := by
    unfold outcome
    rw [hj]
    rfl
  have haxes : a.once.axes library = a.axes library := by
    unfold axes
    rw [hj, late_once ho, degradations_once hc ho]
  rw [← record_once hc ho, ← haxes]
  rfl

end

/-! ### Points -/

section

variable (hl : library.InLimits) (ha : a.action ∈ library.actions)

include hl ha

/-- Fewer than a million contributions are judged by their true sum. -/
theorem base_judged (hn : (a.contributions library).length < 1000000) (axis : Axis) :
    ((a.judged library).get axis).base =
      ((a.contributions library).map (·.modifiers.get axis)).sum := by
  have hbound : ∀ n ∈ (a.contributions library).map (·.modifiers.get axis),
      -contributionLimit ≤ n ∧ n ≤ contributionLimit := by
    intro n hn
    obtain ⟨c, hc, rfl⟩ := List.mem_map.1 hn
    exact within_participants hl ha (List.mem_append_left _ hc) axis
  have hrange : StaysInRange ((a.contributions library).map (·.modifiers.get axis)) := by
    intro ns hp
    have hsum := prefix_sum_bounds (by decide) hbound hp
    rw [List.length_map] at hsum
    unfold contributionLimit contentLimit at hsum
    unfold InRange leastPoints mostPoints
    omega
  rw [get_judged]
  exact saturatingSum_eq_sum hrange

/-- Fewer than a million contributions come to their true sum. -/
theorem base_axes
    (hn : (a.participants library).length + (a.degradations library).length < 1000000)
    (axis : Axis) : ((a.axes library).get axis).base = (a.addends library axis).sum := by
  rw [get_axes]
  exact saturatingSum_eq_sum fun ns hp => (sum_addends_inRange hl ha hn axis hp).1

end

/-- The points that items add when they come again. -/
def repeatedPoints (library : Library) (a : Attempt) (axis : Axis) : Int :=
  ((a.repeated library).map (·.modifiers.get axis)).sum

theorem sum_contributions (h : a.TraitsApart library) (axis : Axis) :
    ((a.contributions library).map (·.modifiers.get axis)).sum =
      ((a.once.contributions library).map (·.modifiers.get axis)).sum
        + a.repeatedPoints library axis := by
  unfold repeatedPoints
  rw [((perm_contributions h).map _).sum_eq, List.map_append, List.sum_append]

theorem length_contributions_once_le (h : a.TraitsApart library) :
    (a.once.contributions library).length ≤ (a.contributions library).length := by
  rw [(perm_contributions h).length_eq, List.length_append]
  exact Nat.le_add_right _ _

section

variable (hl : library.InLimits) (ha : a.action ∈ library.actions) (h : a.TraitsApart library)

include hl ha h

/-- The outcome is judged by points that count again. -/
theorem base_judged_once
    (hn : (a.participants library).length + (a.degradations library).length < 1000000)
    (axis : Axis) :
    ((a.judged library).get axis).base =
      ((a.once.judged library).get axis).base + a.repeatedPoints library axis := by
  have hn : (a.contributions library).length < 1000000 := by
    unfold participants at hn
    rw [List.length_append] at hn
    omega
  have hn' := (length_contributions_once_le h).trans_lt hn
  have ha' : a.once.action ∈ library.actions := ha
  rw [base_judged hl ha hn, base_judged hl ha' hn', sum_contributions h]

/-- **Naming items again changes nothing just when it adds no points.** -/
theorem record_once_eq_iff
    (hn : (a.participants library).length + (a.degradations library).length < 1000000)
    (threshold : Float) :
    a.once.record library threshold = a.record library threshold ↔
      ∀ axis, a.repeatedPoints library axis = 0 := by
  have hc := firstOfEach_contributions_once h
  constructor
  · intro hr axis
    have ho : a.once.outcome library = a.outcome library := congrArg ActionRecord.outcome hr
    have haxes : a.once.axes library = a.axes library := congrArg ActionRecord.axes hr
    -- late traits and degradations are the same, so only the contributions can differ
    have hlate := late_once ho
    have hdegradations := degradations_once hc ho
    have hn' : (a.once.participants library).length + (a.once.degradations library).length
        < 1000000 := by
      have hlength := length_contributions_once_le h
      rw [hdegradations]
      unfold participants at hn ⊢
      rw [List.length_append] at hn ⊢
      rw [hlate]
      omega
    have ha' : a.once.action ∈ library.actions := ha
    have hbase := base_axes hl ha' hn' axis
    rw [haxes, base_axes hl ha hn axis] at hbase
    unfold addends participants at hbase
    rw [hlate, hdegradations] at hbase
    simp only [List.map_append, List.sum_append, sum_contributions h] at hbase
    omega
  · intro hzero
    refine record_once_of_judged hc (PerAxis.ext_get fun axis => ?_) threshold
    have hbase := base_judged_once hl ha h hn axis
    rw [hzero axis, Int.add_zero] at hbase
    have hluck : a.once.luck = a.luck := rfl
    have hsum (x : Attempt) : (x.judged library).get axis =
        .sum ((x.judged library).get axis).base (x.luck.get axis) := by
      rw [get_judged]
      rfl
    rw [hsum a.once, hsum a, hbase, hluck]

end

/-- What naming items again comes to. -/
structure CountsRepeats (library : Library) (a : Attempt) : Prop where
  /-- The luck is the same. -/
  luck : a.once.luck = a.luck
  /-- A success is one without items that come again, too. -/
  success : a.once.outcome library = .success ↔ a.outcome library = .success
  /-- Items that bend nothing come again for nothing. -/
  idle : (∀ i, 1 < a.possessed.count i → a.quirksOf library i = []) →
    ∀ threshold, a.once.record library threshold = a.record library threshold
  /-- Items that bend the action add what they add once more. -/
  contributions : a.TraitsApart library →
    (a.contributions library).Perm (a.once.contributions library ++ a.repeated library)
  /-- Where that leaves the outcome alone, it leaves everything but the results alone. -/
  record : a.TraitsApart library → a.once.outcome library = a.outcome library → ∀ threshold,
    { a.once.record library threshold with axes := a.axes library } = a.record library threshold
  /-- Where nothing saturates, the outcome is judged by the points that come again, and the record
  is the same just when there are none. -/
  points : library.InLimits → a.action ∈ library.actions → a.TraitsApart library →
    (a.participants library).length + (a.degradations library).length < 1000000 →
    (∀ axis, ((a.judged library).get axis).base =
      ((a.once.judged library).get axis).base + a.repeatedPoints library axis) ∧
    ∀ threshold, a.once.record library threshold = a.record library threshold ↔
      ∀ axis, a.repeatedPoints library axis = 0

/-- **An item counts as often as it is named.** -/
theorem naming_again (library : Library) (r : Registry) (a : Attempt) (requested : List ItemId) :
    (a.naming r requested).once.possessed = r.possessedBy a.character.id requested.eraseDups ∧
    CountsRepeats library (a.naming r requested) where
  left := r.eraseDups_possessedBy a.character.id requested
  right := {
    luck := rfl
    success := by
      rw [outcome_eq_success_iff, outcome_eq_success_iff]
      rfl
    idle := fun h => by
      have hc := contributions_once_of_idle h
      refine record_once_of_judged (by rw [hc]) ?_
      unfold judged
      rw [hc]
      rfl
    contributions := perm_contributions
    record := fun h => record_once (firstOfEach_contributions_once h)
    points := fun hl ha h hn =>
      ⟨base_judged_once hl ha h hn, record_once_eq_iff hl ha h hn⟩ }

end Attempt

/-! ### One rod, named twice -/

namespace Jetty

/-- Patience, which goes well with a springy rod. -/
def patient : Quirk where
  id := "patient"
  category := "general"
  weight := 1.0
  triggers := [.always]
  modifiers := .ofPairs [(.timing, 2)]
  severity := .minor
  discovery := .visible
  reinterpretsFailure := false
  description := ""

/-- A rod that springs. -/
def springy : ItemQuirk where
  id := "springy"
  modifiers := .ofPairs [(.timing, 3)]
  actions := ["fish"]
  interactions := [⟨"patient", .amplify, ""⟩]
  description := ""

/-- An action that leaves nothing to luck. -/
def fish : Action := ⟨"fish", 0, 0, 0, false, ["rod"], ∅, ""⟩

/-- All of it. -/
def library : Library :=
  { Library.empty with quirks := [patient], itemQuirks := [springy], actions := [fish] }

/-- Somebody patient. -/
def angler : Character where
  id := ⟨1⟩
  account := ""
  sex := .unspecified
  attributes := ⟨[2, 6, 5, 3, 7, 4, 5], rfl, by decide⟩
  quirks := ["patient", "vain"]
  failings := []
  uselessBits := ["whistler"]
  reputation := ⟨0, ""⟩
  issuedSeed := ""
  createdAt := .epoch
  active := true
  sound := by decide

/-- They hold a springy rod. -/
def registry : Registry :=
  Registry.empty.insertItem
    ⟨⟨10⟩, "rod", ⟨1⟩, .capture angler .epoch, ["springy"], .epoch⟩ angler.id

/-- They fish. -/
def attempt : Attempt where
  character := angler
  action := fish
  room := ⟨"jetty", "river", [], false⟩
  requested := []
  possessed := []
  rushed := false
  seed := "dawn"
  timestamp := .epoch

/-- They fish with the rod and the rod. -/
def twice : Attempt := attempt.naming registry [⟨10⟩, ⟨10⟩]

theorem inLimits : library.InLimits := by
  intro d hd
  cases d with
  | quirk q =>
    rw [List.mem_singleton.1 hd]
    intro axis
    cases axis <;> decide
  | itemQuirk q =>
    rw [List.mem_singleton.1 hd]
    intro axis
    cases axis <;> decide
  | action x =>
    rw [List.mem_singleton.1 hd]
    refine ⟨fun axis => ?_, by decide⟩
    cases axis <;> decide
  | _ => exact absurd hd List.not_mem_nil

theorem traitsApart : twice.TraitsApart library := by
  unfold Attempt.TraitsApart Attempt.ForeignId
  decide +kernel

/-- The spring of the rod counts twice, and so does their patience with it. -/
theorem rod_counts_twice : twice.possessed.length = 2 ∧ twice.once.possessed.length = 1 ∧
    ((twice.judged library).get .timing).base =
      ((twice.once.judged library).get .timing).base + 5 ∧
    twice.once.record library 0.5 ≠ twice.record library 0.5 := by
  have h : Attempt.CountsRepeats library twice :=
    (Attempt.naming_again library registry attempt [⟨10⟩, ⟨10⟩]).2
  have hpoints : twice.repeatedPoints library .timing = 5 := by decide +kernel
  obtain ⟨hbase, hrecord⟩ := h.points inLimits List.mem_cons_self traitsApart (by decide +kernel)
  refine ⟨by decide +kernel, by decide +kernel, ?_, fun he => ?_⟩
  · rw [hbase, hpoints]
  · have hzero := (hrecord 0.5).1 he .timing
    rw [hpoints] at hzero
    exact absurd hzero (by decide)

/-- A request that names a rod twice is not the same as one that names it once. -/
theorem not_counted_once : ¬ ∀ (library : Library) (r : Registry) (a : Attempt)
    (requested : List ItemId), ¬ requested.Nodup → ∀ threshold,
      (a.naming r requested).record library threshold =
        (a.naming r requested).once.record library threshold := by
  intro h
  have hrecord := h library registry attempt [⟨10⟩, ⟨10⟩] (by decide) 0.5
  have hbase : (twice.axes library).timing.base = (twice.once.axes library).timing.base :=
    congrArg (fun r : ActionRecord => r.axes.timing.base) hrecord
  exact absurd hbase (by decide +kernel)

end Jetty

end Reckoning
