import Mathlib.Data.List.Perm.Basic
import Reckoning.Proofs.Content.Loading
import Reckoning.Proofs.Lookup

/-!
# What becomes of an entry

A lenient loader judges the entries one after the other, each by the library as it is then.  In the
end it looks at the item types once more and takes out those that are at fault.  So every entry
comes to rest either in the library or in the report.

* `Library.verdict` judges an entry and `Library.verdicts` some entries in a row.
  `Library.acceptAll` is the library with those that are accepted, `Library.refused` tells of the
  others.
* `Loader.each_offerOrStop_lenient` and `Loader.dropDangling_lenient`: that is what a lenient loader
  does.
* `Library.definitions` lists a library; `Library.definitions_acceptAll` and
  `Library.definitions_purged` say what is in it.
* `Fate` is what becomes of an entry in the end, `Library.fates` tells it file by file.
-/

namespace Reckoning

namespace Library

/-! ### Definitions in a list -/

/-- The definitions of one kind. -/
def ofKind (l : Library) : Kind → List Definition
  | .quirk => l.quirks.map .quirk
  | .failing => l.failings.map .failing
  | .uselessBit => l.uselessBits.map .uselessBit
  | .itemQuirk => l.itemQuirks.map .itemQuirk
  | .itemType => l.itemTypes.map .itemType
  | .environmentalQuirk => l.environmentalQuirks.map .environmentalQuirk
  | .action => l.actions.map .action
  | .reputationBias => l.reputationBiases.map .reputationBias

/-- Every definition, kind by kind. -/
def definitions (l : Library) : List Definition := Kind.all.flatMap l.ofKind

theorem length_definitions (l : Library) : l.definitions.length = l.size := by
  simp only [definitions, Kind.all, List.flatMap_cons, List.flatMap_nil, ofKind, List.length_append,
    List.length_map, List.length_nil, size]
  omega

theorem ofKind_append (l : Library) (d : Definition) (k : Kind) :
    (l.append d).ofKind k = l.ofKind k ++ if k = d.kind then [d] else [] := by
  cases d <;> cases k <;> simp [append, ofKind, Definition.kind]

theorem definitions_append (l : Library) (d : Definition) :
    (l.append d).definitions.Perm (l.definitions ++ [d]) := by
  have hone : (Kind.all.flatMap fun k => if k = d.kind then [d] else []) = [d] := by
    cases d <;> rfl
  have hsplit : (l.append d).definitions =
      Kind.all.flatMap fun k => l.ofKind k ++ if k = d.kind then [d] else [] :=
    List.flatMap_congr fun k _ => ofKind_append l d k
  have hperm := List.flatMap_append_perm Kind.all l.ofKind fun k => if k = d.kind then [d] else []
  rw [hone] at hperm
  rw [hsplit]
  exact hperm.symm

/-! ### Verdicts -/

/-- The definition that an entry adds, or why it is refused. -/
def verdict (l : Library) (e : Entry) : Except Refusal Definition := do
  let d ← e.definition
  match l.refusal? d with
  | some refusal => throw refusal
  | none => return d

/-- The library with an entry, if that is accepted. -/
def accept (l : Library) (e : Entry) : Library := (l.verdict e).toOption.elim l l.append

/-- The library with those of some entries that it accepts. -/
def acceptAll (l : Library) (es : List Entry) : Library := es.foldl accept l

/-- Entries with the verdicts on them, each by the library with those before it. -/
def verdicts (l : Library) : List Entry → List (Entry × Except Refusal Definition)
  | [] => []
  | e :: rest => (e, l.verdict e) :: verdicts (l.accept e) rest

/-- What the report says of a verdict. -/
def rejection? (e : Entry) : Except Refusal Definition → Option Rejection
  | .error reason => some ⟨e.kind, e.label, reason⟩
  | .ok _ => none

/-- What the report says of some entries. -/
def refused (l : Library) (es : List Entry) : List Rejection :=
  (l.verdicts es).filterMap fun v => rejection? v.1 v.2

/-- The definitions of those entries that are accepted. -/
def accepted (l : Library) (es : List Entry) : List Definition :=
  (l.verdicts es).filterMap (·.2.toOption)

theorem verdict_eq_ok {l : Library} {e : Entry} {d : Definition} (h : l.verdict e = .ok d) :
    e.definition = .ok d ∧ l.refusal? d = none := by
  obtain ⟨d', hd, h⟩ := bind_eq_ok_iff.1 h
  cases hr : l.refusal? d' with
  | some refusal =>
    rw [hr] at h
    cases h
  | none =>
    rw [hr] at h
    cases h
    exact ⟨hd, hr⟩

theorem accept_of_ok {l : Library} {e : Entry} {d : Definition} (h : l.verdict e = .ok d) :
    l.accept e = l.append d := by
  simp [accept, h, Except.toOption]

theorem accept_of_error {l : Library} {e : Entry} {reason : Refusal}
    (h : l.verdict e = .error reason) : l.accept e = l := by
  simp [accept, h, Except.toOption]

theorem verdicts_append (l : Library) (es fs : List Entry) :
    l.verdicts (es ++ fs) = l.verdicts es ++ (l.acceptAll es).verdicts fs := by
  induction es generalizing l with
  | nil => rfl
  | cons e es ih => exact congrArg (_ :: ·) (ih _)

theorem acceptAll_cons (l : Library) (e : Entry) (es : List Entry) :
    l.acceptAll (e :: es) = (l.accept e).acceptAll es := rfl

theorem acceptAll_append (l : Library) (es fs : List Entry) :
    l.acceptAll (es ++ fs) = (l.acceptAll es).acceptAll fs := List.foldl_append

theorem refused_append (l : Library) (es fs : List Entry) :
    l.refused (es ++ fs) = l.refused es ++ (l.acceptAll es).refused fs := by
  rw [refused, verdicts_append, List.filterMap_append]
  rfl

theorem accepted_cons (l : Library) (e : Entry) (es : List Entry) :
    l.accepted (e :: es) = (l.verdict e).toOption.toList ++ (l.accept e).accepted es := by
  rw [accepted, verdicts, List.filterMap_cons]
  cases l.verdict e <;> rfl

theorem refused_cons (l : Library) (e : Entry) (es : List Entry) :
    l.refused (e :: es) = (rejection? e (l.verdict e)).toList ++ (l.accept e).refused es := by
  rw [refused, verdicts, List.filterMap_cons]
  cases l.verdict e <;> rfl

theorem definitions_accept (l : Library) (e : Entry) :
    (l.accept e).definitions.Perm (l.definitions ++ (l.verdict e).toOption.toList) := by
  cases hv : l.verdict e with
  | error reason => simp [accept_of_error hv, Except.toOption]
  | ok d =>
    rw [accept_of_ok hv]
    exact definitions_append l d

theorem definitions_acceptAll (l : Library) (es : List Entry) :
    (l.acceptAll es).definitions.Perm (l.definitions ++ l.accepted es) := by
  induction es generalizing l with
  | nil => simp [acceptAll, accepted, verdicts]
  | cons e es ih =>
    have hfirst := (definitions_accept l e).append_right ((l.accept e).accepted es)
    rw [List.append_assoc, ← accepted_cons] at hfirst
    exact (ih (l.accept e)).trans hfirst

theorem Distinct.acceptAll {l : Library} (h : l.Distinct) (es : List Entry) :
    (l.acceptAll es).Distinct := by
  induction es generalizing l with
  | nil => exact h
  | cons e es ih =>
    refine ih ?_
    cases hv : l.verdict e with
    | error reason => rwa [accept_of_error hv]
    | ok d =>
      rw [accept_of_ok hv]
      exact h.add (add_eq_ok.2 ⟨(verdict_eq_ok hv).2, rfl⟩)

/-! ### Faults -/

/-- What the report says of a definition that other definitions do not bear out. -/
def faults (l : Library) : Definition → List Rejection
  | .itemType t => (t.defaultQuirks.filter fun q => !(l.ids .itemQuirk).contains q).map fun q =>
      ⟨.itemType, t.id.text, .unknownDefault q⟩
  | _ => []

/-- The library without the item types that are at fault in `last`. -/
def purged (l last : Library) : Library :=
  { l with itemTypes := l.itemTypes.filter fun t => (last.faults (.itemType t)).isEmpty }

theorem definitions_purged (l last : Library) :
    (l.purged last).definitions = l.definitions.filter fun d => (last.faults d).isEmpty := by
  have hkind : ∀ k, (l.purged last).ofKind k =
      (l.ofKind k).filter fun d => (last.faults d).isEmpty := by
    intro k
    cases k with
    | itemType =>
      simp only [ofKind, purged, List.filter_map]
      rfl
    | _ =>
      -- only item types can be at fault
      symm
      refine List.filter_eq_self.2 fun d hd => ?_
      obtain ⟨x, -, rfl⟩ := List.mem_map.1 hd
      rfl
  unfold definitions
  rw [List.filter_flatMap]
  exact List.flatMap_congr fun k _ => hkind k

theorem flatMap_faults_definitions (l last : Library) :
    l.definitions.flatMap last.faults = l.itemTypes.flatMap fun t => last.faults (.itemType t) := by
  have hnone : ∀ {α : Type} (xs : List α), (xs.flatMap fun _ => ([] : List Rejection)) = [] :=
    fun xs => List.flatMap_eq_nil_iff.2 fun _ _ => rfl
  simp [definitions, Kind.all, ofKind, List.flatMap_map, faults, hnone]

theorem dangling_map (l : Library) :
    (l.dangling.map fun p => ⟨.itemType, p.1.text, .unknownDefault p.2⟩) =
      l.definitions.flatMap l.faults := by
  rw [flatMap_faults_definitions]
  simp [dangling, faults, List.map_flatMap, Function.comp_def]

theorem foldl_withoutItemType (l : Library) (rows : List (DefId × DefId)) :
    rows.foldl (fun l p => l.withoutItemType p.1) l =
      { l with itemTypes := l.itemTypes.filter fun t => rows.all (·.1 != t.id) } := by
  induction rows generalizing l with
  | nil => simp
  | cons p rows ih =>
    have hrows : (l.withoutItemType p.1).itemTypes.filter (fun t => rows.all (·.1 != t.id)) =
        l.itemTypes.filter fun t => (p :: rows).all (·.1 != t.id) := by
      unfold withoutItemType
      rw [List.filter_filter]
      refine List.filter_congr fun t _ => ?_
      rw [List.all_cons, Bool.and_comm, bne_comm]
    rw [List.foldl_cons, ih, hrows]
    rfl

/-- Taking out every item type that starts with something unknown leaves the others. -/
theorem Distinct.foldl_dangling {l : Library} (h : l.Distinct) :
    l.dangling.foldl (fun l p => l.withoutItemType p.1) l = l.purged l := by
  rw [foldl_withoutItemType]
  unfold purged
  congr 1
  refine List.filter_congr fun t ht => ?_
  rw [Bool.eq_iff_iff]
  simp only [List.all_eq_true, bne_iff_ne, List.isEmpty_iff, dangling, List.mem_flatMap,
    List.mem_map, faults, List.map_eq_nil_iff]
  constructor
  · intro hall
    rw [List.eq_nil_iff_forall_not_mem]
    exact fun q hq => hall (t.id, q) ⟨t, ht, q, hq, rfl⟩ rfl
  · rintro hnone p ⟨t', ht', q, hq, rfl⟩ heq
    -- ids are unique, so it is this item type that starts with something unknown
    have htt : t' = t := List.inj_on_of_nodup_map (h.kinds .itemType) ht' ht heq
    rw [htt, hnone] at hq
    exact absurd hq List.not_mem_nil

end Library

namespace Loader

/-! ### A lenient loader -/

theorem offer_eq (l : Loader) (e : Entry) :
    l.offer e = match l.library.verdict e with
      | .ok d => .ok { l with library := l.library.append d }
      | .error reason => l.reject ⟨e.kind, e.label, reason⟩ := by
  unfold offer add Library.add Library.verdict
  cases e.definition with
  | error reason => rfl
  | ok d => cases hr : l.library.refusal? d <;> simp [hr, bind, Except.bind] <;> rfl

theorem offerOrStop_lenient (library : Library) (rejected : List Rejection) (e : Entry) :
    offerOrStop ⟨library, rejected, false⟩ e =
      (⟨library.accept e, rejected ++ (Library.rejection? e (library.verdict e)).toList, false⟩,
        none) := by
  unfold offerOrStop
  rw [offer_eq]
  cases hv : library.verdict e with
  | error reason => simp [reject, Library.accept_of_error hv, Library.rejection?]
  | ok d => simp [Library.accept_of_ok hv, Library.rejection?]

theorem each_offerOrStop_lenient (library : Library) (rejected : List Rejection)
    (es : List Entry) :
    each offerOrStop ⟨library, rejected, false⟩ es =
      (⟨library.acceptAll es, rejected ++ library.refused es, false⟩, none) := by
  induction es generalizing library rejected with
  | nil => simp [each, Library.acceptAll, Library.refused, Library.verdicts]
  | cons e es ih =>
    rw [each, offerOrStop_lenient, Library.refused_cons, ← List.append_assoc]
    exact ih _ _

theorem foldlM_reject_lenient (library : Library) (rejected : List Rejection)
    (rows : List (DefId × DefId)) :
    rows.foldlM (fun l p => reject { l with library := l.library.withoutItemType p.1 }
        ⟨.itemType, p.1.text, .unknownDefault p.2⟩) (⟨library, rejected, false⟩ : Loader) =
      .ok ⟨rows.foldl (fun l p => l.withoutItemType p.1) library,
        rejected ++ rows.map fun p => ⟨.itemType, p.1.text, .unknownDefault p.2⟩, false⟩ := by
  induction rows generalizing library rejected with
  | nil => simp [pure, Except.pure]
  | cons p rows ih =>
    have hrest := ih (library.withoutItemType p.1)
      (rejected ++ [⟨.itemType, p.1.text, .unknownDefault p.2⟩])
    rw [List.append_assoc] at hrest
    exact hrest

/-- In the end a lenient loader reports the faults of all item types, and takes those out that have
any. -/
theorem dropDangling_lenient {library : Library} (h : library.Distinct)
    (rejected : List Rejection) :
    dropDangling ⟨library, rejected, false⟩ =
      .ok ⟨library.purged library, rejected ++ library.definitions.flatMap library.faults,
        false⟩ := by
  unfold dropDangling
  rw [foldlM_reject_lenient, h.foldl_dangling, Library.dangling_map]

end Loader

/-! ### Fates -/

/-- What becomes of an entry: its definition is kept, or it is left out for a reason, and perhaps
for more. -/
inductive Fate
  | kept (d : Definition)
  | leftOut (first : Rejection) (more : List Rejection)

namespace Fate

/-- The definition that is kept. -/
def definition? : Fate → Option Definition
  | kept d => some d
  | leftOut _ _ => none

/-- What the report says. -/
def rejections : Fate → List Rejection
  | kept _ => []
  | leftOut first more => first :: more

/-- The definition is in the library in the end. -/
def isKept : Fate → Bool
  | kept _ => true
  | leftOut _ _ => false

/-- How often the report comes back to an entry. -/
def repeats : Fate → Nat
  | kept _ => 0
  | leftOut _ more => more.length

end Fate

namespace Library

/-- The fate of an entry after a verdict, in the light of the library in the end. -/
def fate (last : Library) (e : Entry) : Except Refusal Definition → Fate
  | .error reason => .leftOut ⟨e.kind, e.label, reason⟩ []
  | .ok d => match last.faults d with
    | [] => .kept d
    | first :: more => .leftOut first more

/-- Entries with their fates. -/
def rows (l last : Library) (es : List Entry) : List (Entry × Fate) :=
  (l.verdicts es).map fun v => (v.1, last.fate v.1 v.2)

/-- The entries of files with their fates. -/
def fates (l last : Library) : List (List Entry) → List (List (Entry × Fate))
  | [] => []
  | es :: files => l.rows last es :: fates (l.acceptAll es) last files

theorem rejections_fate (last : Library) (e : Entry) (v : Except Refusal Definition) :
    (last.fate e v).rejections =
      (rejection? e v).toList ++ v.toOption.toList.flatMap last.faults := by
  cases v with
  | error reason => rfl
  | ok d =>
    simp only [fate, rejection?, Except.toOption, Option.toList_none, Option.toList_some,
      List.nil_append, List.flatMap_singleton]
    split <;> simp_all [Fate.rejections]

theorem definition?_fate (last : Library) (e : Entry) (v : Except Refusal Definition) :
    (last.fate e v).definition? = v.toOption.filter fun d => (last.faults d).isEmpty := by
  cases v with
  | error reason => rfl
  | ok d =>
    simp only [fate, Except.toOption]
    split <;> simp_all [Fate.definition?, Option.filter]

theorem isKept_fate (last : Library) (e : Entry) (d : Definition) :
    (last.fate e (.ok d)).isKept = (last.faults d).isEmpty := by
  unfold fate
  simp only
  split <;> simp_all [Fate.isKept]

theorem rows_cons (l last : Library) (e : Entry) (es : List Entry) :
    l.rows last (e :: es) = (e, last.fate e (l.verdict e)) :: (l.accept e).rows last es := rfl

theorem rows_append (l last : Library) (es fs : List Entry) :
    l.rows last (es ++ fs) = l.rows last es ++ (l.acceptAll es).rows last fs := by
  rw [rows, verdicts_append, List.map_append]
  rfl

theorem filterMap_definition?_rows (l last : Library) (es : List Entry) :
    (l.rows last es).filterMap (·.2.definition?) =
      (l.accepted es).filter fun d => (last.faults d).isEmpty := by
  induction es generalizing l with
  | nil => rfl
  | cons e es ih =>
    rw [rows_cons, List.filterMap_cons, ih, definition?_fate, accepted_cons, List.filter_append]
    cases (l.verdict e).toOption with
    | none => rfl
    | some d => cases hd : (last.faults d).isEmpty <;> simp [Option.filter, hd]

/-- The report says what the fates say, though in another order. -/
theorem flatMap_rejections_rows (l last : Library) (es : List Entry) :
    ((l.rows last es).flatMap (·.2.rejections)).Perm
      (l.refused es ++ (l.accepted es).flatMap last.faults) := by
  induction es generalizing l with
  | nil => exact .refl _
  | cons e es ih =>
    rw [rows_cons, List.flatMap_cons, rejections_fate, refused_cons, accepted_cons,
      List.flatMap_append, List.append_assoc, List.append_assoc]
    refine .append_left _ ((List.Perm.append_left _ (ih _)).trans ?_)
    exact List.perm_append_comm_assoc _ _ _

theorem flatten_fates (l last : Library) (files : List (List Entry)) :
    (l.fates last files).flatten = l.rows last files.flatten := by
  induction files generalizing l with
  | nil => rfl
  | cons es files ih =>
    rw [fates, List.flatten_cons, List.flatten_cons, rows_append, ih]

/-! ### Files -/

/-- What a lenient loader has gathered from files when it comes to the end. -/
def gathered (files : List (List Entry)) : Library := acceptAll ∅ files.flatten

/-- What becomes of the entries of files from which a library is built. -/
def fatesOf (files : List (List Entry)) : List (List (Entry × Fate)) :=
  fates ∅ (gathered files) files

theorem distinct_gathered (files : List (List Entry)) : (gathered files).Distinct :=
  Distinct.empty.acceptAll files.flatten

theorem flatten_fatesOf (files : List (List Entry)) :
    (fatesOf files).flatten = rows ∅ (gathered files) files.flatten :=
  flatten_fates ∅ (gathered files) files

theorem definitions_gathered (files : List (List Entry)) :
    (gathered files).definitions.Perm (accepted ∅ files.flatten) :=
  definitions_acceptAll ∅ files.flatten

end Library

end Reckoning
