import Reckoning.Engine.Attempt
import Reckoning.Proofs.Engine.Forging
import Reckoning.Proofs.Engine.Issuance

/-!
# Nothing dangles

What is made from a library names nothing that the library does not know.

* `Library.Forges` and `Library.Issues` are what can be made from a library, `Item.KnownTo` and
  `Character.KnownTo` say that it knows all that is named.
* `Attempt.SkipsNothing`: every id is looked up with success, and in its place.
* `Loader.nothing_dangles` puts this together.
-/

namespace Reckoning

namespace Library

variable {l : Library}

/-! ### What is made from a library -/

/-- The item can be forged from the library. -/
def Forges (l : Library) (i : Item) : Prop :=
  ∃ id itemType maker custom createdAt,
    forgeItem l id itemType maker custom createdAt = .ok i

/-- The character can be issued from the library. -/
def Issues (l : Library) (c : Character) : Prop :=
  ∃ account sex seed createdAt, issueCharacter l account sex seed createdAt = .ok c

end Library

/-- The library knows the quirks of the item. -/
def Item.KnownTo (l : Library) (i : Item) : Prop := ∀ id ∈ i.quirks, id ∈ l.ids .itemQuirk

/-- The library knows the traits of the character, each in its own kind. -/
structure Character.KnownTo (l : Library) (c : Character) : Prop where
  quirks : ∀ id ∈ c.quirks, id ∈ l.ids .quirk
  failings : ∀ id ∈ c.failings, id ∈ l.ids .failing
  uselessBits : ∀ id ∈ c.uselessBits, id ∈ l.ids .uselessBit

namespace Library

variable {l : Library}

/-- A forged item has the quirks that its maker asks for, which are looked up, and those of its
type, which are not. -/
theorem Forges.knownTo (hl : ∀ t ∈ l.itemTypes, l.knowsDefaults t = true) {i : Item}
    (h : l.Forges i) : i.KnownTo l := by
  obtain ⟨id, itemType, maker, custom, createdAt, h⟩ := h
  exact known_quirks_of_forgeItem (known_defaultsOf hl itemType) h

/-- What is issued was drawn. -/
theorem Issues.drawnFrom {c : Character} (h : l.Issues c) : c.toSheet.DrawnFrom l := by
  obtain ⟨account, sex, seed, createdAt, h⟩ := h
  have hpassed := h
  unfold issueCharacter at hpassed
  obtain ⟨s, hs, hpassed⟩ := bind_eq_ok_iff.1 hpassed
  have hq : leastQuirks ≤ l.quirks.length := by
    by_contra hfew
    rw [not_le] at hfew
    simp only [if_pos hfew] at hpassed
    cases hpassed
  have hu : l.uselessBits.isEmpty = false := by
    by_contra hnone
    rw [Bool.not_eq_false] at hnone
    simp only [if_neg (Nat.not_lt.2 hq), hnone] at hpassed
    cases hpassed
  obtain ⟨sheet, hdrawn, -, -, -, -, hissue⟩ :=
    exists_drawnSheet account seed createdAt (mapError_eq_ok_iff.1 hs) hq hu
  rw [h] at hissue
  obtain ⟨rfl, -⟩ := Character.ofSheet_eq_ok_iff.1 (mapError_eq_ok_iff.1 hissue.symm)
  exact hdrawn

theorem Issues.knownTo {c : Character} (h : l.Issues c) : c.KnownTo l where
  quirks := by
    obtain ⟨g, hg⟩ := h.drawnFrom.quirks
    rw [hg]
    exact (samplePool_subperm ..).subset
  failings := by
    obtain ⟨g, hg⟩ := h.drawnFrom.failings
    rw [hg]
    exact (samplePool_subperm ..).subset
  uselessBits := by
    obtain ⟨g, hg⟩ := h.drawnFrom.uselessBits
    rw [hg]
    exact (samplePool_subperm ..).subset

end Library

/-! ### Looking up what is named -/

/-- Every trait of the character and every quirk of the items at hand is looked up with success, and
in its place.  A quirk of an item is left out only where it does not apply. -/
structure Attempt.SkipsNothing (library : Library) (a : Attempt) : Prop where
  quirks : a.character.quirks.map library.quirk? = (a.quirks library).map some
  failings : a.character.failings.map library.failing? = (a.failings library).map some
  uselessBits : a.character.uselessBits.map library.uselessBit? = (a.uselessBits library).map some
  itemQuirks : ∃ found : List ItemQuirk,
    (a.possessed.flatMap (·.quirks)).map library.itemQuirk? = found.map some ∧
      a.itemQuirks library = found.filter (·.source.applies a.circumstances)

theorem Attempt.skipsNothing_of_known {library : Library} {a : Attempt}
    (hc : a.character.KnownTo library) (hi : ∀ i ∈ a.possessed, i.KnownTo library) :
    a.SkipsNothing library where
  quirks := map_eq_map_some_filterMap fun id hid => find?_isSome_of_mem (hc.quirks id hid)
  failings := map_eq_map_some_filterMap fun id hid => find?_isSome_of_mem (hc.failings id hid)
  uselessBits := map_eq_map_some_filterMap fun id hid => find?_isSome_of_mem (hc.uselessBits id hid)
  itemQuirks := by
    have hfound : ∀ id ∈ a.possessed.flatMap (·.quirks), (library.itemQuirk? id).isSome = true := by
      intro id hid
      obtain ⟨i, hmem, hid⟩ := List.mem_flatMap.1 hid
      exact find?_isSome_of_mem (hi i hmem id hid)
    refine ⟨_, map_eq_map_some_filterMap hfound, ?_⟩
    rw [List.filterMap_flatMap]
    rfl

/-- **Nothing that is made from a library dangles.**  However a loader was filled, the library that
it hands over has lost the item types that start with something unknown, and nothing else; so
whatever is forged and issued from it names only what it knows, and an attempt of such a character
with such items skips nothing. -/
theorem Loader.nothing_dangles {turns : List LoadTurn} {library : Library} {report : LoadReport}
    (h : (assemble turns).finish = .ok (library, report)) :
    library = { (assemble turns).library with
      itemTypes := (assemble turns).library.itemTypes.filter
        (assemble turns).library.knowsDefaults } ∧
    (∀ t ∈ library.itemTypes, ∀ id ∈ t.defaultQuirks, id ∈ library.ids .itemQuirk) ∧
    (∀ i, library.Forges i → i.KnownTo library) ∧
    (∀ c, library.Issues c → c.KnownTo library) ∧
    ∀ a : Attempt, library.Issues a.character → (∀ i ∈ a.possessed, library.Forges i) →
      a.SkipsNothing library := by
  have hdefaults := knowsDefaults_of_finish h
  have hitem (i : Item) (hi : library.Forges i) : i.KnownTo library := hi.knownTo hdefaults
  refine ⟨library_of_finish_assemble h, ?_, hitem, fun c hc => hc.knownTo, ?_⟩
  · intro t ht id hid
    exact List.contains_iff_mem.1 (List.all_eq_true.1 (hdefaults t ht) id hid)
  · intro a hc hi
    exact Attempt.skipsNothing_of_known hc.knownTo fun i hmem => hitem i (hi i hmem)

/-! ### A net that is torn -/

namespace Harbour

/-- Item types come before the item quirks that they start with, and nothing is ever torn. -/
def calls : List LoadCall := [
  ⟨true, "(quirks: [(id: \"calm\"), (id: \"vain\")], useless_bits: [(id: \"hums\")], " ++
    "item_types: [(id: \"net\", default_quirks: [\"torn\"]), " ++
    "(id: \"rod\", default_quirks: [\"bent\"])])"⟩,
  ⟨false, "(item_quirks: [(id: \"bent\")], actions: [(id: \"fish\")])"⟩]

/-- The rod, which can be forged. -/
def rod : ItemType := ⟨"rod", ["bent"], ""⟩

/-- A fisher with some items at the river. -/
def fishing (c : Character) (items : List Item) : Attempt where
  character := c
  action := ⟨"fish", 2, 0, 3, false, [], ∅, ""⟩
  room := ⟨⟨"river_bend"⟩, "outdoor", [], false⟩
  requested := items.map (·.id)
  possessed := items
  rushed := false
  seed := "dusk"
  timestamp := .epoch

theorem finished : (Loader.loadAll calls).finish.toOption.map (·.1.itemTypes) = some [rod] := by
  decide +kernel

theorem skips_nothing : ∃ library report c item,
    (Loader.assemble (calls.flatMap (·.turns))).finish = .ok (library, report) ∧
    library.itemTypes = [rod] ∧ library.Issues c ∧ library.Forges item ∧ item.quirks = ["bent"] ∧
    (fishing c [item]).SkipsNothing library := by
  obtain ⟨⟨library, report⟩, h, htypes⟩ := Option.map_eq_some_iff.1 finished
  replace h := toOption_eq_some_iff.1 h
  have hl := Loader.sufficient_of_finish h
  have hsex : Sex.read "f" = .ok .female := by decide +kernel
  rw [← Loader.assemble_turns] at h
  obtain ⟨-, -, -, -, hskips⟩ := Loader.nothing_dangles h
  -- a fisher is issued
  obtain ⟨sheet, hdrawn, -, -, -, -, hissue⟩ := exists_drawnSheet "ada" "dawn" .epoch hsex hl.quirks
    (List.isEmpty_eq_false_iff.2 hl.uselessBits)
  rw [Character.ofSheet_eq_ok (hdrawn.fault?_eq_none hl)] at hissue
  have hc : library.Issues _ := ⟨_, _, _, _, hissue⟩
  -- and a rod is forged
  obtain ⟨item, hitem, hquirks⟩ : ∃ item : Item,
      forgeItem library ⟨1⟩ "rod" ⟨sheet, true, hdrawn.fault?_eq_none hl⟩ [] .epoch = .ok item ∧
        item.quirks = ["bent"] := by
    have hrod : library.itemType? "rod" = some rod := by
      rw [Library.itemType?, htypes]
      decide
    simp only [forgeItem, List.find?_nil, hrod]
    exact ⟨_, rfl, rfl⟩
  have hi : library.Forges item := ⟨_, _, _, _, _, hitem⟩
  refine ⟨library, report, _, item, h, htypes, hc, hi, hquirks, hskips _ hc fun i hmem => ?_⟩
  rw [List.mem_singleton.1 hmem]
  exact hi

end Harbour

end Reckoning
