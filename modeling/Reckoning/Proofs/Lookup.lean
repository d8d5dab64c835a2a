import Mathlib.Data.List.Nodup
import Mathlib.Data.List.Basic

/-!
# Looking things up

Definitions, contributions and entries are looked up in lists by a test on their ids.

* `exists_find?`: a search succeeds where something passes its test.
* `id_of_find?`: a search by id finds what has it.
* `mem_of_mem_filterMap_find?`, `map_filterMap_sublist` and `map_eq_map_some_filterMap`: ids that
  are looked up one by one lead into the list, in their own order, and none is skipped that is known.
* `map_filter_filterMap`: testing what ids lead to is testing the ids.
* `find?_eq_some_of_nodup`: where ids are distinct, a search by id finds the one that has it.
* `filter_eq_toList_find?`: where ids are distinct, a test that fixes the id finds all there is.
-/

namespace Reckoning

variable {α β ι : Type}

theorem exists_find? {p : α → Bool} {xs : List α} {x : α} (hx : x ∈ xs) (hp : p x = true) :
    ∃ y ∈ xs, xs.find? p = some y ∧ p y = true := by
  obtain ⟨y, hy⟩ := Option.isSome_iff_exists.1 (List.find?_isSome.2 ⟨x, hx, hp⟩)
  exact ⟨y, List.mem_of_find?_eq_some hy, hy, List.find?_some hy⟩

theorem id_of_find? [BEq ι] [LawfulBEq ι] {id : α → ι} {xs : List α} (i : ι) (x : α)
    (h : xs.find? (id · == i) = some x) : id x = i := by
  simpa using List.find?_some h

theorem mem_of_mem_filterMap_find? {p : ι → α → Bool} {xs : List α} {ids : List ι} {x : α}
    (h : x ∈ ids.filterMap fun id => xs.find? (p id)) : x ∈ xs := by
  obtain ⟨id, -, hf⟩ := List.mem_filterMap.1 h
  exact List.mem_of_find?_eq_some hf

/-- Looking ids up keeps their order and makes none twice. -/
theorem map_filterMap_sublist {f : ι → Option β} {g : β → ι}
    (h : ∀ id d, f id = some d → g d = id) (ids : List ι) :
    ((ids.filterMap f).map g).Sublist ids := by
  induction ids with
  | nil => exact .slnil
  | cons id ids ih =>
    cases hf : f id with
    | none => simpa [hf] using ih.cons id
    | some d => simpa [hf, h id d hf] using ih

/-- Of ids that are looked up, a test of what is found keeps those that it is passed for. -/
theorem map_filter_filterMap {f : ι → Option β} {g : β → ι} (h : ∀ id d, f id = some d → g d = id)
    (p : β → Bool) (ids : List ι) :
    ((ids.filterMap f).filter p).map g = ids.filter fun id => (f id).any p := by
  induction ids with
  | nil => rfl
  | cons id ids ih =>
    cases hf : f id with
    | none => simpa [hf] using ih
    | some d => cases hp : p d <;> simp [hf, hp, h id d hf, ih]

/-- Where every id is known, looking ids up skips none. -/
theorem map_eq_map_some_filterMap {f : ι → Option β} {ids : List ι}
    (h : ∀ id ∈ ids, (f id).isSome = true) : ids.map f = (ids.filterMap f).map some := by
  induction ids with
  | nil => rfl
  | cons id ids ih =>
    obtain ⟨hid, hids⟩ := List.forall_mem_cons.1 h
    obtain ⟨d, hd⟩ := Option.isSome_iff_exists.1 hid
    simp [hd, ih hids]

theorem find?_isSome_of_mem [BEq ι] [LawfulBEq ι] {id : α → ι} {xs : List α} {i : ι}
    (h : i ∈ xs.map id) : (xs.find? (id · == i)).isSome = true := by
  obtain ⟨x, hx, rfl⟩ := List.mem_map.1 h
  exact List.find?_isSome.2 ⟨x, hx, by simp⟩

/-- Among things with distinct ids, a search by id finds the one that has it. -/
theorem find?_eq_some_of_nodup [BEq ι] [LawfulBEq ι] {id : α → ι} {xs : List α}
    (hn : (xs.map id).Nodup) {i : ι} {x : α} :
    xs.find? (id · == i) = some x ↔ x ∈ xs ∧ id x = i := by
  constructor
  · intro h
    exact ⟨List.mem_of_find?_eq_some h, id_of_find? i x h⟩
  · rintro ⟨hx, rfl⟩
    obtain ⟨y, hy, hf, hid⟩ := exists_find? (p := (id · == id x)) hx (by simp)
    rw [hf, List.inj_on_of_nodup_map hn hy hx (by simpa using hid)]

/-- Of things with distinct ids, at most one has the id that is looked for. -/
theorem filter_eq_toList_find? {id : α → ι} {xs : List α} (hn : (xs.map id).Nodup)
    {p : α → Bool} (i : ι) (hp : ∀ x ∈ xs, p x = true → id x = i) :
    xs.filter p = (xs.find? p).toList := by
  induction xs with
  | nil => rfl
  | cons x xs ih =>
    rw [List.map_cons, List.nodup_cons] at hn
    obtain ⟨hpx, hps⟩ := List.forall_mem_cons.1 hp
    cases hx : p x with
    | false => simp [hx, ih hn.2 hps]
    | true =>
      -- a second one would bear the id of the first
      have hrest : xs.filter p = [] := by
        rw [List.filter_eq_nil_iff]
        intro y hy hpy
        refine hn.1 ?_
        rw [hpx hx, ← hps y hy hpy]
        exact List.mem_map_of_mem hy
      simp [hx, hrest]

end Reckoning
