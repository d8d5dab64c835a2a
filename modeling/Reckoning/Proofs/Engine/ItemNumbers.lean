import Mathlib.Algebra.Group.Nat.Defs
import Mathlib.Data.List.Induction
import Reckoning.Engine.Registry

/-!
# Numbers of items

A registry reserves the number after the largest one that it has met, be it reserved or brought
along by an item.  Numbers are words of 64 bits, so there is an end to them.

* `Registry.Change` is what can be done to a registry, `Registry.Met` says which numbers it has met
  in a run.
* `Registry.le_lastItem` and `Registry.met_lastItem`: what a registry remembers is the largest
  number that it has met.
* `Registry.Fresh`: nothing has the number, and nobody reserved it.  `Registry.numbers_fresh`: so it
  is with every number that is reserved; and there is one unless the last number was met.
-/

namespace Reckoning

namespace Registry

/-- What can be done to a registry. -/
inductive Change
  | insertCharacter (c : Character)
  | changeCharacter (id : CharacterId) (f : Character → Character)
  | nextItem
  | insertItem (item : Item) (holder : CharacterId)
  | transfer (id : ItemId) (recipient : CharacterId)
  | insertRoom (room : Room)

/-- The registry after a change.  A change that is refused, or that comes to no result, leaves it as
it is. -/
def after (r : Registry) : Change → Registry
  | .insertCharacter c => (r.insertCharacter c).2
  | .changeCharacter id f => (r.changeCharacter id f).toOption.getD r
  | .nextItem => (r.nextItem?.map (·.2)).getD r
  | .insertItem item holder => r.insertItem item holder
  | .transfer id recipient => (r.transfer id recipient).toOption.getD r
  | .insertRoom room => r.insertRoom room

/-- A new registry after some changes. -/
def run (ds : List Change) : Registry := ds.foldl after ∅

theorem run_concat (ds : List Change) (d : Change) : run (ds ++ [d]) = (run ds).after d := by
  unfold run
  rw [List.foldl_append]
  rfl

/-! ### Numbers that are met -/

/-- The number was reserved at some point of a run. -/
def Reserved (ds : List Change) (id : ItemId) : Prop :=
  ∃ before r, before ++ [.nextItem] <+: ds ∧ (run before).nextItem? = some (id, r)

/-- An item with the number was brought along. -/
def BroughtAlong (ds : List Change) (id : ItemId) : Prop :=
  ∃ item holder, .insertItem item holder ∈ ds ∧ item.id = id

/-- The number was reserved or brought along. -/
def Met (ds : List Change) (id : ItemId) : Prop := Reserved ds id ∨ BroughtAlong ds id

theorem Met.concat {ds : List Change} {id : ItemId} (h : Met ds id) (d : Change) :
    Met (ds ++ [d]) id := by
  rcases h with ⟨before, r, hbefore, hnext⟩ | ⟨item, holder, hitem, hid⟩
  · exact .inl ⟨before, r, hbefore.trans (List.prefix_append ds [d]), hnext⟩
  · exact .inr ⟨item, holder, List.mem_append_left _ hitem, hid⟩

/-! ### What a change does to the numbers -/

theorem nextItem?_eq_none_iff {r : Registry} : r.nextItem? = none ↔ r.lastItem = mostItem := by
  unfold nextItem?
  split_ifs with h
  · exact iff_of_true rfl h
  · exact iff_of_false nofun h

theorem nextItem?_eq_some_iff {r r' : Registry} {id : ItemId} :
    r.nextItem? = some (id, r') ↔ r.lastItem ≠ mostItem ∧ id.raw = r.lastItem + 1 ∧
      r' = { r with lastItem := id.raw } := by
  unfold nextItem?
  split_ifs with h
  · exact iff_of_false nofun fun h' => h'.1 h
  · constructor
    · rintro ⟨⟩
      exact ⟨h, rfl, rfl⟩
    · rintro ⟨-, hid, rfl⟩
      rw [← hid]

/-- Before the last word, counting goes on. -/
theorem toNat_lastItem_add_one {r : Registry} (h : r.lastItem ≠ mostItem) :
    (r.lastItem + 1).toNat = r.lastItem.toNat + 1 := by
  have hlt := r.lastItem.toNat_lt
  have hne : r.lastItem.toNat ≠ 2 ^ 64 - 1 := fun heq => h (UInt64.toNat_inj.1 heq)
  rw [UInt64.toNat_add]
  exact Nat.mod_eq_of_lt (by change r.lastItem.toNat + 1 < 2 ^ 64; omega)

theorem toNat_max (a b : UInt64) : (max a b).toNat = max a.toNat b.toNat := by
  change (if a ≤ b then b else a).toNat = _
  simp only [UInt64.le_iff_toNat_le]
  split_ifs <;> omega

/-- A change to the largest number reserves or brings along the number that it changes to. -/
theorem lastItem_after_cases (r : Registry) (d : Change) :
    (r.after d).lastItem = r.lastItem ∨
      (d = .nextItem ∧ r.nextItem? = some (⟨(r.after d).lastItem⟩, r.after d)) ∨
      ∃ item holder, d = .insertItem item holder ∧ (r.after d).lastItem = item.id.raw := by
  cases d with
  | insertCharacter c =>
    left
    simp only [after, Registry.insertCharacter]
    split_ifs <;> rfl
  | changeCharacter id f =>
    left
    simp only [after, Registry.changeCharacter]
    split <;> rfl
  | nextItem =>
    unfold after
    cases h : r.nextItem? with
    | none => exact .inl rfl
    | some next =>
      obtain ⟨id, r'⟩ := next
      obtain ⟨-, -, rfl⟩ := nextItem?_eq_some_iff.1 h
      exact .inr (.inl ⟨rfl, rfl⟩)
  | insertItem item holder =>
    change max r.lastItem item.id.raw = _ ∨ _
    by_cases h : r.lastItem ≤ item.id.raw
    · exact .inr (.inr ⟨item, holder, rfl, if_pos h⟩)
    · exact .inl (if_neg h)
  | transfer id recipient =>
    left
    simp only [after, Registry.transfer]
    split <;> rfl
  | insertRoom room => exact .inl rfl

theorem lastItem_le_after (r : Registry) (d : Change) :
    r.lastItem.toNat ≤ (r.after d).lastItem.toNat := by
  rcases r.lastItem_after_cases d with h | ⟨-, h⟩ | ⟨item, holder, rfl, -⟩
  · exact Nat.le_of_eq (by rw [h])
  · obtain ⟨hne, hid, -⟩ := nextItem?_eq_some_iff.1 h
    change (r.after d).lastItem = r.lastItem + 1 at hid
    rw [hid, toNat_lastItem_add_one hne]
    exact Nat.le_succ _
  · change _ ≤ (max r.lastItem item.id.raw).toNat
    rw [toNat_max]
    exact Nat.le_max_left _ _

theorem mem_put {α κ : Type} [DecidableEq κ] {key : α → κ} {x y : α} {ys : List α}
    (h : y ∈ put key x ys) : y = x ∨ y ∈ ys := by
  induction ys with
  | nil => exact .inl (List.mem_singleton.1 h)
  | cons z zs ih =>
    unfold put at h
    split_ifs at h
    · rcases List.mem_cons.1 h with rfl | h
      · exact .inl rfl
      · exact .inr (List.mem_cons_of_mem _ h)
    · rcases List.mem_cons.1 h with rfl | h
      · exact .inr List.mem_cons_self
      · exact (ih h).imp_right (List.mem_cons_of_mem _)

/-- An item that is there after a change was there before, or was brought along. -/
theorem mem_holdings_after {r : Registry} {d : Change} {h : Holding}
    (hh : h ∈ (r.after d).holdings) :
    (∃ h' ∈ r.holdings, h'.item = h.item) ∨ d = .insertItem h.item h.holder := by
  cases d with
  | insertCharacter c =>
    refine .inl ⟨h, ?_, rfl⟩
    simp only [after, Registry.insertCharacter] at hh
    split_ifs at hh <;> exact hh
  | changeCharacter id f =>
    refine .inl ⟨h, ?_, rfl⟩
    simp only [after, Registry.changeCharacter] at hh
    split at hh <;> exact hh
  | nextItem =>
    refine .inl ⟨h, ?_, rfl⟩
    simp only [after, nextItem?] at hh
    split_ifs at hh <;> exact hh
  | insertItem item holder =>
    rcases mem_put hh with rfl | hh
    · exact .inr rfl
    · exact .inl ⟨h, hh, rfl⟩
  | transfer id recipient =>
    simp only [after, Registry.transfer] at hh
    split at hh
    · exact .inl ⟨h, hh, rfl⟩
    · exact .inl ⟨h, hh, rfl⟩
    · -- the item that is handed on is the one that was found
      rename_i given _ hgiven
      rcases mem_put hh with rfl | hh
      · exact .inl ⟨given, List.mem_of_find?_eq_some hgiven, rfl⟩
      · exact .inl ⟨h, hh, rfl⟩
  | insertRoom room => exact .inl ⟨h, hh, rfl⟩

/-! ### Runs -/

theorem lastItem_le_of_isPrefix {before ds : List Change} (h : before <+: ds) :
    (run before).lastItem.toNat ≤ (run ds).lastItem.toNat := by
  obtain ⟨rest, rfl⟩ := h
  induction rest using List.reverseRecOn with
  | nil => exact Nat.le_of_eq (by rw [List.append_nil])
  | append_singleton rest d ih =>
    rw [← List.append_assoc, run_concat]
    exact Nat.le_trans ih (lastItem_le_after _ d)

/-- No number that was met is larger than the one that the registry remembers. -/
theorem le_lastItem {ds : List Change} {id : ItemId} (h : Met ds id) :
    id.raw.toNat ≤ (run ds).lastItem.toNat := by
  rcases h with ⟨before, r, hbefore, hnext⟩ | ⟨item, holder, hitem, rfl⟩
  · have hlast : (run (before ++ [.nextItem])).lastItem = id.raw := by
      rw [run_concat, after, hnext]
      obtain ⟨-, -, rfl⟩ := nextItem?_eq_some_iff.1 hnext
      rfl
    rw [← hlast]
    exact lastItem_le_of_isPrefix hbefore
  · obtain ⟨before, rest, rfl⟩ := List.append_of_mem hitem
    have hlast : item.id.raw.toNat ≤
        (run (before ++ [.insertItem item holder])).lastItem.toNat := by
      rw [run_concat]
      change _ ≤ (max (run before).lastItem item.id.raw).toNat
      rw [toNat_max]
      exact Nat.le_max_right _ _
    exact Nat.le_trans hlast (lastItem_le_of_isPrefix ⟨rest, by simp⟩)

/-- The number that the registry remembers was met, unless no number was met so far. -/
theorem met_lastItem (ds : List Change) :
    (run ds).lastItem = 0 ∨ Met ds ⟨(run ds).lastItem⟩ := by
  induction ds using List.reverseRecOn with
  | nil => exact .inl rfl
  | append_singleton ds d ih =>
    rw [run_concat]
    rcases (run ds).lastItem_after_cases d with h | ⟨rfl, h⟩ | ⟨item, holder, rfl, h⟩
    · rw [h]
      exact ih.imp_right fun hmet => hmet.concat d
    · exact .inr (.inl ⟨ds, _, List.prefix_refl _, h⟩)
    · rw [h]
      exact .inr (.inr ⟨item, holder, List.mem_concat_self, rfl⟩)

/-- An item that is there has a number that was met. -/
theorem met_of_mem_holdings {ds : List Change} {h : Holding} (hh : h ∈ (run ds).holdings) :
    Met ds h.item.id := by
  induction ds using List.reverseRecOn generalizing h with
  | nil => cases hh
  | append_singleton ds d ih =>
    rw [run_concat] at hh
    rcases mem_holdings_after hh with ⟨h', hh', hitem⟩ | rfl
    · rw [← hitem]
      exact (ih hh').concat d
    · exact .inr ⟨h.item, h.holder, List.mem_concat_self, rfl⟩

/-- No item has the number, and it was not reserved before. -/
structure Fresh (ds : List Change) (id : ItemId) : Prop where
  unused : (run ds).item? id = none
  unreserved : ¬ Reserved ds id

theorem fresh_of_not_met {ds : List Change} {id : ItemId} (h : ¬ Met ds id) : Fresh ds id where
  unused := by
    rw [item?, Option.map_eq_none_iff, holding?, List.find?_eq_none]
    intro x hx heq
    rw [← eq_of_beq heq] at h
    exact h (met_of_mem_holdings hx)
  unreserved hreserved := h (.inl hreserved)

theorem fresh_nextItem {ds : List Change} {id : ItemId} {r : Registry}
    (h : (run ds).nextItem? = some (id, r)) : Fresh ds id := by
  refine fresh_of_not_met fun hmet => ?_
  obtain ⟨hne, hid, -⟩ := nextItem?_eq_some_iff.1 h
  have hle := le_lastItem hmet
  rw [hid, toNat_lastItem_add_one hne] at hle
  omega

theorem exhausted_iff (ds : List Change) :
    (run ds).nextItem? = none ↔ Met ds ⟨mostItem⟩ := by
  rw [nextItem?_eq_none_iff]
  constructor
  · intro h
    rcases met_lastItem ds with h0 | hmet
    · cases h.symm.trans h0
    · rwa [h] at hmet
  · intro hmet
    have hle := le_lastItem hmet
    have hlt := (run ds).lastItem.toNat_lt
    refine UInt64.toNat_inj.1 ?_
    change 2 ^ 64 - 1 ≤ _ at hle
    change _ = 2 ^ 64 - 1
    omega

/-- **Every number that is reserved is fresh, and there is one unless the last word was met**, be it
reserved or brought along. -/
theorem numbers_fresh (ds : List Change) :
    (∀ id r, (run ds).nextItem? = some (id, r) → Fresh ds id) ∧
    ((run ds).nextItem? = none ↔ Reserved ds ⟨mostItem⟩ ∨ BroughtAlong ds ⟨mostItem⟩) :=
  ⟨fun _ _ h => fresh_nextItem h, exhausted_iff ds⟩

end Registry

/-! ### A shelf with the last number -/

namespace Shelf

/-- An item with a number. -/
def item (n : UInt64) : Item where
  id := ⟨n⟩
  itemType := "jar"
  creator := ⟨1⟩
  makerProfile := ⟨⟨1⟩, ⟨[3, 8, 5, 4, 6, 2, 9], rfl, by decide⟩, ["calm", "vain"], .epoch⟩
  quirks := []
  createdAt := .epoch

/-- Two jars are put there, and a number is reserved. -/
def filled : List Registry.Change :=
  [.insertItem (item 1) ⟨1⟩, .insertItem (item 41) ⟨1⟩, .nextItem]

/-- The first jar and the last one are put there. -/
def full : List Registry.Change :=
  [.insertItem (item 1) ⟨1⟩, .insertItem (item Registry.mostItem) ⟨2⟩]

/-- Behind 41 jars and a number comes the next number, behind the last jar there is none. -/
theorem next_number : (∃ r, (Registry.run filled).nextItem? = some (⟨43⟩, r)) ∧
    Registry.Fresh filled ⟨43⟩ ∧ (Registry.run full).nextItem? = none := by
  have hnext : (Registry.run filled).nextItem? =
      some (⟨43⟩, { Registry.run filled with lastItem := 43 }) := rfl
  have hlast : Registry.BroughtAlong full ⟨Registry.mostItem⟩ :=
    ⟨item Registry.mostItem, ⟨2⟩, List.mem_cons_of_mem _ List.mem_cons_self, rfl⟩
  exact ⟨⟨_, hnext⟩, (Registry.numbers_fresh filled).1 _ _ hnext,
    (Registry.numbers_fresh full).2.2 (.inr hlast)⟩

/-- With the last jar there, no number is reserved at all. -/
theorem not_always_fresh : ¬ ∀ ds : List Registry.Change,
    ∃ id r, (Registry.run ds).nextItem? = some (id, r) ∧ Registry.Fresh ds id := by
  intro h
  obtain ⟨id, r, hnext, -⟩ := h full
  cases hnext

end Shelf

end Reckoning
