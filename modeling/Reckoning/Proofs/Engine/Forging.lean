import Reckoning.Engine.Forge
import Reckoning.Proofs.Content.Handover

/-!
# Forged quirks

Whoever has an item forged gets the quirks of its type and then those that they ask for, each of
them once.

* `firstSeen_concat` follows the loop that leaves out what it has seen.  `OnceEach` says what a list
  is like that went through it, and `onceEach_firstSeen` that it is.
* `firstSeen_append_firstSeen`: to go through it again, behind what was in front, changes nothing.
* `Library.defaultsOf` and `Library.FirstUnknown` are what an item starts with and what keeps it from
  being forged.
* `Library.AnswersForge` collects what is told to who asks for an item, and
  `Library.forges_once_each` says that the forge tells it.
-/

namespace Reckoning

/-! ### What comes first -/

section

variable {α : Type} [DecidableEq α]

theorem firstSeen_concat (xs : List α) (x : α) :
    firstSeen (xs ++ [x]) = if x ∈ xs then firstSeen xs else firstSeen xs ++ [x] := by
  have hstep : firstSeen (xs ++ [x]) =
      if x ∈ firstSeen xs then firstSeen xs else firstSeen xs ++ [x] := by
    unfold firstSeen
    rw [List.foldl_append]
    rfl
  simpa only [mem_firstSeen] using hstep

/-- The elements of a list, each of them once, in the order in which they come first. -/
structure OnceEach (once xs : List α) : Prop where
  nodup : once.Nodup
  mem_iff : ∀ x, x ∈ once ↔ x ∈ xs
  inOrder : once.Pairwise fun x y => xs.idxOf x < xs.idxOf y

theorem pairwise_firstSeen (xs : List α) :
    (firstSeen xs).Pairwise fun x y => xs.idxOf x < xs.idxOf y := by
  induction xs using List.reverseRecOn with
  | nil => exact .nil
  | append_singleton xs x ih =>
    have hold : ∀ y ∈ firstSeen xs, (xs ++ [x]).idxOf y = xs.idxOf y := fun y hy =>
      List.idxOf_append_of_mem (mem_firstSeen.1 hy)
    have hfront : (firstSeen xs).Pairwise fun y z =>
        (xs ++ [x]).idxOf y < (xs ++ [x]).idxOf z := by
      refine ih.imp_of_mem fun {y z} hy hz hlt => ?_
      rwa [hold y hy, hold z hz]
    rw [firstSeen_concat]
    split_ifs with hx
    · exact hfront
    · -- what is new comes after all that was there
      refine List.pairwise_append.2 ⟨hfront, List.pairwise_singleton _ _, fun y hy z hz => ?_⟩
      rw [List.mem_singleton.1 hz, hold y hy, List.idxOf_append_of_notMem hx]
      have := List.idxOf_lt_length_iff.2 (mem_firstSeen.1 hy)
      omega

theorem onceEach_firstSeen (xs : List α) : OnceEach (firstSeen xs) xs :=
  ⟨nodup_firstSeen xs, fun _ => mem_firstSeen, pairwise_firstSeen xs⟩

/-- What came before is not seen again. -/
theorem firstSeen_append_of_subset {xs ys : List α} (h : ∀ y ∈ ys, y ∈ xs) :
    firstSeen (xs ++ ys) = firstSeen xs := by
  induction ys using List.reverseRecOn with
  | nil => rw [List.append_nil]
  | append_singleton ys y ih =>
    have hy : y ∈ xs ++ ys := List.mem_append_left _ (h y (by simp))
    rw [← List.append_assoc, firstSeen_concat, if_pos hy]
    exact ih fun z hz => h z (List.mem_append_left _ hz)

/-- What did not come before is seen, once each. -/
theorem firstSeen_append_of_notMem {xs ys : List α} (hn : ys.Nodup) (h : ∀ y ∈ ys, y ∉ xs) :
    firstSeen (xs ++ ys) = firstSeen xs ++ ys := by
  induction ys using List.reverseRecOn with
  | nil => rw [List.append_nil, List.append_nil]
  | append_singleton ys y ih =>
    obtain ⟨hys, -, hapart⟩ := List.nodup_append.1 hn
    have hy : y ∉ xs ++ ys := by
      rw [List.mem_append, not_or]
      exact ⟨h y (by simp), fun hm => hapart y hm y (by simp) rfl⟩
    rw [← List.append_assoc, firstSeen_concat, if_neg hy,
      ih hys fun z hz => h z (List.mem_append_left _ hz), List.append_assoc]

/-- More elements only add to what was seen. -/
theorem exists_firstSeen_append (xs ys : List α) :
    ∃ rest, firstSeen (xs ++ ys) = firstSeen xs ++ rest := by
  induction ys using List.reverseRecOn with
  | nil => exact ⟨[], by rw [List.append_nil, List.append_nil]⟩
  | append_singleton ys y ih =>
    obtain ⟨rest, hrest⟩ := ih
    rw [← List.append_assoc, firstSeen_concat, hrest]
    split_ifs
    · exact ⟨rest, rfl⟩
    · exact ⟨rest ++ [y], List.append_assoc _ _ _⟩

theorem firstSeen_append_firstSeen (xs ys : List α) :
    firstSeen (xs ++ firstSeen (xs ++ ys)) = firstSeen (xs ++ ys) := by
  obtain ⟨rest, hrest⟩ := exists_firstSeen_append xs ys
  have hn := nodup_firstSeen (xs ++ ys)
  rw [hrest] at hn ⊢
  obtain ⟨-, hnodup, hapart⟩ := List.nodup_append.1 hn
  have hnew : ∀ y ∈ rest, y ∉ xs ++ firstSeen xs := by
    intro y hy hmem
    refine hapart y ?_ y hy rfl
    rcases List.mem_append.1 hmem with hxs | hseen
    · exact mem_firstSeen.2 hxs
    · exact hseen
  rw [← List.append_assoc, firstSeen_append_of_notMem hnodup hnew,
    firstSeen_append_of_subset fun y hy => mem_firstSeen.1 hy]

end

/-! ### The forge -/

namespace Library

variable {l : Library}

/-- The quirks that every item of a type starts with.  There are none where the type is not
known. -/
def defaultsOf (l : Library) (itemType : DefId) : List DefId :=
  match l.itemType? itemType with
  | some t => t.defaultQuirks
  | none => []

/-- A library that knows what its item types start with knows what items of every type start
with. -/
theorem known_defaultsOf (hl : ∀ t ∈ l.itemTypes, l.knowsDefaults t = true) (itemType : DefId) :
    ∀ q ∈ l.defaultsOf itemType, q ∈ l.ids .itemQuirk := by
  intro q hq
  unfold defaultsOf at hq
  cases ht : l.itemType? itemType with
  | none =>
    rw [ht] at hq
    cases hq
  | some t =>
    rw [ht] at hq
    have hknown := hl t (List.mem_of_find?_eq_some ht)
    exact List.contains_iff_mem.1 (List.all_eq_true.1 hknown q hq)

theorem isNone_itemQuirk?_iff {q : DefId} :
    (l.itemQuirk? q).isNone = true ↔ q ∉ l.ids .itemQuirk := by
  simp [itemQuirk?, ids]

end Library

/-- The first of some ids that is no item quirk of the library. -/
structure Library.FirstUnknown (l : Library) (ids : List DefId) (unknown : DefId) : Prop where
  notMem : unknown ∉ l.ids .itemQuirk
  first : ∃ known rest, ids = known ++ unknown :: rest ∧ ∀ q ∈ known, q ∈ l.ids .itemQuirk

section

variable {l : Library} {itemType : DefId} {custom : List DefId}

theorem find?_unknown_eq_some_iff {unknown : DefId} :
    custom.find? (fun q => (l.itemQuirk? q).isNone) = some unknown ↔
      l.FirstUnknown custom unknown := by
  rw [List.find?_eq_some_iff_append, Library.isNone_itemQuirk?_iff]
  simp only [Bool.not_eq_true', ← Bool.not_eq_true, Library.isNone_itemQuirk?_iff, not_not]
  exact ⟨fun ⟨hunknown, hfirst⟩ => ⟨hunknown, hfirst⟩, fun h => ⟨h.notMem, h.first⟩⟩

theorem find?_unknown_eq_none_iff :
    custom.find? (fun q => (l.itemQuirk? q).isNone) = none ↔ ∀ q ∈ custom, q ∈ l.ids .itemQuirk := by
  rw [List.find?_eq_none]
  simp only [Library.isNone_itemQuirk?_iff, not_not]

/-- What is asked for is known, or there is a first that is not. -/
theorem known_or_firstUnknown (l : Library) (custom : List DefId) :
    (∀ q ∈ custom, q ∈ l.ids .itemQuirk) ∨ ∃ unknown, l.FirstUnknown custom unknown := by
  cases h : custom.find? fun q => (l.itemQuirk? q).isNone with
  | none => exact .inl (find?_unknown_eq_none_iff.1 h)
  | some unknown => exact .inr ⟨unknown, find?_unknown_eq_some_iff.1 h⟩

theorem forgeItem_of_firstUnknown {unknown : DefId} (h : l.FirstUnknown custom unknown)
    (id : ItemId) (itemType : DefId) (maker : Character) (createdAt : Timestamp) :
    forgeItem l id itemType maker custom createdAt = .error (.unknownItemQuirk unknown) := by
  unfold forgeItem
  rw [find?_unknown_eq_some_iff.2 h]

theorem exists_forgeItem (h : ∀ q ∈ custom, q ∈ l.ids .itemQuirk) (id : ItemId) (itemType : DefId)
    (maker : Character) (createdAt : Timestamp) :
    ∃ item, forgeItem l id itemType maker custom createdAt = .ok item ∧
      item.quirks = firstSeen (l.defaultsOf itemType ++ custom) := by
  unfold forgeItem Library.defaultsOf
  rw [find?_unknown_eq_none_iff.2 h]
  cases l.itemType? itemType <;> exact ⟨_, rfl, rfl⟩

/-- What is forged was asked for in known words. -/
theorem known_of_forgeItem {id : ItemId} {maker : Character} {createdAt : Timestamp} {item : Item}
    (h : forgeItem l id itemType maker custom createdAt = .ok item) :
    (∀ q ∈ custom, q ∈ l.ids .itemQuirk) ∧
      item.quirks = firstSeen (l.defaultsOf itemType ++ custom) := by
  rcases known_or_firstUnknown l custom with hknown | ⟨unknown, hunknown⟩
  · obtain ⟨item', hitem, hquirks⟩ := exists_forgeItem hknown id itemType maker createdAt
    cases h.symm.trans hitem
    exact ⟨hknown, hquirks⟩
  · cases h.symm.trans (forgeItem_of_firstUnknown hunknown id itemType maker createdAt)

/-- An item has only known quirks where its type starts with known ones. -/
theorem known_quirks_of_forgeItem (hdefaults : ∀ q ∈ l.defaultsOf itemType, q ∈ l.ids .itemQuirk)
    {id : ItemId} {maker : Character} {createdAt : Timestamp} {item : Item}
    (h : forgeItem l id itemType maker custom createdAt = .ok item) :
    ∀ q ∈ item.quirks, q ∈ l.ids .itemQuirk := by
  obtain ⟨hknown, hquirks⟩ := known_of_forgeItem h
  intro q hq
  rw [hquirks, mem_firstSeen, List.mem_append] at hq
  exact hq.elim (hdefaults q) (hknown q)

/-- What is told to who asks for an item of a type with some quirks. -/
structure Library.AnswersForge (l : Library) (itemType : DefId) (custom : List DefId)
    (answer : EngineResult Item) : Prop where
  /-- A refusal names the first quirk that is not known. -/
  refused : ∀ error, answer = .error error ↔
    ∃ unknown, l.FirstUnknown custom unknown ∧ error = .unknownItemQuirk unknown
  /-- An item is forged as soon as all of them are known. -/
  served : (∃ item, answer = .ok item) ↔ ∀ q ∈ custom, q ∈ l.ids .itemQuirk
  /-- It has the quirks of its type and those that are asked for, once each. -/
  quirks : ∀ item, answer = .ok item → OnceEach item.quirks (l.defaultsOf itemType ++ custom)
  /-- Who asks for the quirks that an item has gets them, where the type starts with known ones. -/
  again : (∀ q ∈ l.defaultsOf itemType, q ∈ l.ids .itemQuirk) → ∀ item, answer = .ok item →
    ∀ id maker createdAt, ∃ twin,
      forgeItem l id itemType maker item.quirks createdAt = .ok twin ∧ twin.quirks = item.quirks

theorem answersForge (l : Library) (id : ItemId) (itemType : DefId) (maker : Character)
    (custom : List DefId) (createdAt : Timestamp) :
    l.AnswersForge itemType custom (forgeItem l id itemType maker custom createdAt) where
  refused error := by
    constructor
    · intro h
      rcases known_or_firstUnknown l custom with hknown | ⟨unknown, hunknown⟩
      · obtain ⟨item, hitem, -⟩ := exists_forgeItem hknown id itemType maker createdAt
        cases h.symm.trans hitem
      · refine ⟨unknown, hunknown, ?_⟩
        cases h.symm.trans (forgeItem_of_firstUnknown hunknown id itemType maker createdAt)
        rfl
    · rintro ⟨unknown, hunknown, rfl⟩
      exact forgeItem_of_firstUnknown hunknown id itemType maker createdAt
  served := by
    constructor
    · rintro ⟨item, hitem⟩
      exact (known_of_forgeItem hitem).1
    · intro hknown
      obtain ⟨item, hitem, -⟩ := exists_forgeItem hknown id itemType maker createdAt
      exact ⟨item, hitem⟩
  quirks item hitem := by
    rw [(known_of_forgeItem hitem).2]
    exact onceEach_firstSeen _
  again hdefaults item hitem id' maker' createdAt' := by
    have hall := known_quirks_of_forgeItem hdefaults hitem
    obtain ⟨twin, htwin, hsame⟩ := exists_forgeItem hall id' itemType maker' createdAt'
    refine ⟨twin, htwin, ?_⟩
    rw [hsame, (known_of_forgeItem hitem).2, firstSeen_append_firstSeen]

end

/-- **Forged quirks are those of the type and those that are asked for, once each.**  Only what the
library does not know is refused, and a library that is handed over knows what its items start
with, so there an item can always be forged again from its own quirks. -/
theorem Library.forges_once_each (l : Library) :
    (∀ id itemType maker custom createdAt,
      l.AnswersForge itemType custom (forgeItem l id itemType maker custom createdAt)) ∧
    ∀ turns report, (Loader.assemble turns).finish = .ok (l, report) →
      ∀ itemType, ∀ q ∈ l.defaultsOf itemType, q ∈ l.ids .itemQuirk :=
  ⟨answersForge l, fun _ _ h => known_defaultsOf (Loader.knowsDefaults_of_finish h)⟩

/-! ### A rod that is asked for twice -/

namespace Smithy

/-- A quirk of a smith. -/
def quirk (id : DefId) : Quirk := ⟨id, "", 1.0, [.always], ∅, .minor, .visible, false, ""⟩

/-- What can be done to a rod. -/
def itemQuirk (id : DefId) : ItemQuirk := ⟨id, ∅, [], [], ""⟩

/-- A rod is bent, and bent again. -/
def definitions : List Definition :=
  [.quirk (quirk "calm"), .quirk (quirk "vain"),
    .uselessBit ⟨"hums", [.always], ∅, ∅, 1.0, ""⟩, .itemQuirk (itemQuirk "bent"),
    .itemQuirk (itemQuirk "loud"), .itemType ⟨"rod", ["bent", "bent"], ""⟩,
    .action ⟨"fish", 0, 0, 0, false, [], ∅, ""⟩]

/-- It is all added by itself. -/
def turns : List LoadTurn := definitions.map fun d => .take (.definition d)

/-- All of it. -/
def library : Library := definitions.foldl Library.append ∅

/-- The smith. -/
def smith : Character where
  id := ⟨1⟩
  account := ""
  sex := .unspecified
  attributes := ⟨[5, 9, 4, 6, 8, 2, 3], rfl, by decide⟩
  quirks := ["calm", "vain"]
  failings := []
  uselessBits := ["hums"]
  reputation := ⟨0, ""⟩
  issuedSeed := ""
  createdAt := .epoch
  active := true
  sound := rfl

theorem forges_loud_rod : ∃ report item twin,
    (Loader.assemble turns).finish = .ok (library, report) ∧
    forgeItem library ⟨1⟩ "rod" smith ["loud", "ghost", "spook"] .epoch =
      .error (.unknownItemQuirk "ghost") ∧
    forgeItem library ⟨1⟩ "rod" smith ["loud", "bent", "loud"] .epoch = .ok item ∧
    OnceEach item.quirks ["bent", "bent", "loud", "bent", "loud"] ∧
    forgeItem library ⟨2⟩ "rod" smith item.quirks .epoch = .ok twin ∧
    twin.quirks = item.quirks := by
  obtain ⟨hforge, hfinish⟩ := library.forges_once_each
  obtain ⟨report, h⟩ : ∃ report, (Loader.assemble turns).finish = .ok (library, report) :=
    ⟨_, rfl⟩
  -- a ghost is nothing to forge
  have hghost : library.FirstUnknown ["loud", "ghost", "spook"] "ghost" :=
    ⟨by decide, ["loud"], ["spook"], rfl, by decide⟩
  have hrefused := ((hforge ⟨1⟩ "rod" smith _ .epoch).refused _).2 ⟨_, hghost, rfl⟩
  -- but what is loud and bent is
  have hanswer := hforge ⟨1⟩ "rod" smith ["loud", "bent", "loud"] .epoch
  obtain ⟨item, hitem⟩ := hanswer.served.2 (by decide)
  obtain ⟨twin, htwin, hsame⟩ := hanswer.again (hfinish _ _ h "rod") item hitem ⟨2⟩ smith .epoch
  exact ⟨report, item, twin, h, hrefused, hitem, hanswer.quirks item hitem, htwin, hsame⟩

end Smithy

end Reckoning
