import Mathlib.Data.List.Sort
import Mathlib.Data.String.Basic
import Reckoning.Proofs.Content.Limits

/-!
# Tables of interactions

An item quirk keeps its interactions as a map does: by the quirks that they are about, in ascending
order, with one row for each.

* `Library.TablesAscend` says that of every item quirk of a library.
* `Library.ComesFrom.tablesAscend`: it holds where content is loaded from texts, in whatever order
  the rows are written there.
-/

namespace Reckoning

/-- Rows are in ascending order of the quirks that they are about, with one row for each. -/
def Ascending (rows : List Interaction) : Prop :=
  rows.Pairwise fun r s => r.quirk.text < s.quirk.text

/-- Every table of interactions is in ascending order. -/
def Library.TablesAscend (l : Library) : Prop := ∀ q ∈ l.itemQuirks, Ascending q.interactions

/-- Sorting rows that are in order leaves them as they are. -/
theorem Ascending.insertionSort_eq {rows : List Interaction} (h : Ascending rows) :
    rows.insertionSort (fun r s => r.quirk.atMost s.quirk) = rows :=
  List.Pairwise.insertionSort_eq (h.imp fun hlt => decide_eq_true hlt.le)

namespace Draft

theorem ascending_interactions {v : Ron.Value} {rows : List Interaction}
    (h : interactions v = some rows) : Ascending rows := by
  simp only [interactions, Option.bind_eq_bind, Option.bind_eq_some_iff] at h
  obtain ⟨keyed, hk, hr⟩ := h
  cases hr
  unfold Ron.mapOf at hk
  split at hk
  · obtain ⟨pairs, -, hp⟩ := Option.bind_eq_some_iff.1 hk
    cases hp
    exact List.pairwise_map.2 (Ron.pairwise_foldl_insertSorted .nil pairs)
  · cases hk

theorem ascending_of_optional {fs : List (String × Ron.Value)} {name : String}
    {rows : List Interaction} (h : Ron.optional fs name [] interactions = some rows) :
    Ascending rows := by
  unfold Ron.optional at h
  split at h
  · cases h
    exact .nil
  · exact ascending_interactions h
  · cases h

/-- The table of an item quirk that is read from a content file is in order. -/
theorem ascending_of_ofRon? {k : Kind} {v : Ron.Value} {d : ItemQuirkDraft}
    (h : ofRon? k v = some (.itemQuirk d)) : Ascending d.interactions := by
  cases k <;> simp only [ofRon?, Option.map_eq_map, Option.map_eq_some_iff, reduceCtorEq,
    and_false, exists_false] at h
  obtain ⟨x, h, hx⟩ := h
  cases hx
  simp only [itemQuirkOfRon?, Option.bind_eq_bind, Option.bind_eq_some_iff] at h
  obtain ⟨fs, -, _, -, _, -, _, -, rows, hr, _, -, h⟩ := h
  cases h
  exact ascending_of_optional hr

/-- Checking an item quirk leaves its table alone. -/
theorem interactions_of_check {d : Draft} {q : ItemQuirk} (h : d.check = .ok (.itemQuirk q)) :
    ∃ x, d = .itemQuirk x ∧ q.interactions = x.interactions := by
  cases d <;> rw [check] at h
  case itemQuirk x =>
    obtain ⟨y, hy, hq⟩ := map_eq_ok_iff.1 h
    cases hq
    obtain ⟨m, -, rfl⟩ := ItemQuirkDraft.check_eq_ok_iff.1 hy
    exact ⟨x, rfl, rfl⟩
  case itemType => cases h
  all_goals
    obtain ⟨y, -, hq⟩ := map_eq_ok_iff.1 h
    cases hq

end Draft

/-- The table that an entry of a content file defines is in order. -/
theorem ascending_of_definition {e : Entry} {q : ItemQuirk}
    (h : e.definition = .ok (.itemQuirk q)) : Ascending q.interactions := by
  unfold Entry.definition at h
  split at h
  · rename_i draft hd
    obtain ⟨x, rfl, hq⟩ := Draft.interactions_of_check h
    rw [hq]
    exact Draft.ascending_of_ofRon? hd
  · cases h

/-- **Every table that is loaded from texts is in ascending order.** -/
theorem Library.ComesFrom.tablesAscend {library : Library} {strict : Bool} {texts : List String}
    (h : library.ComesFrom (Loader.run strict (texts.map .text))) : library.TablesAscend := by
  -- leaving item types out changes no table, and an entry adds only a table of its own
  refine h.induction (fun l id hl => hl) ?_
  refine Loader.run_texts_induction (fun q hq => absurd hq List.not_mem_nil) ?_ strict texts
  intro l l' e d hl he ha q hq
  obtain ⟨-, rfl⟩ := Library.add_eq_ok.1 ha
  rcases Library.has_append (x := .itemQuirk q).1 hq with hq | rfl
  · exact hl q hq
  · exact ascending_of_definition he

end Reckoning
