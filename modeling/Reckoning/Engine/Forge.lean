import Reckoning.Content.Library
import Reckoning.Engine.Error
import Reckoning.Item

/-!
# Forging

An item starts with the quirks of its type, followed by those that its maker asks for.

* `firstSeen` keeps the first of equal elements; `mem_firstSeen` and `nodup_firstSeen` say what
  that leaves.
* `forgeItem` forges an item.
-/

namespace Reckoning

/-- The elements in the order in which they first occur, each of them once. -/
def firstSeen {α : Type} [DecidableEq α] (xs : List α) : List α :=
  xs.foldl (fun seen x => if x ∈ seen then seen else seen ++ [x]) []

theorem mem_foldl_firstSeen {α : Type} [DecidableEq α] {xs seen : List α} {x : α} :
    x ∈ xs.foldl (fun seen x => if x ∈ seen then seen else seen ++ [x]) seen ↔
      x ∈ seen ∨ x ∈ xs := by
  induction xs generalizing seen with
  | nil => simp
  | cons y ys ih =>
    rw [List.foldl_cons, ih]
    by_cases hy : y ∈ seen
    · rw [if_pos hy, List.mem_cons]
      constructor
      · exact Or.imp_right .inr
      · rintro (h | rfl | h)
        · exact .inl h
        · exact .inl hy
        · exact .inr h
    · simp [hy, or_assoc]

theorem mem_firstSeen {α : Type} [DecidableEq α] {xs : List α} {x : α} :
    x ∈ firstSeen xs ↔ x ∈ xs := by
  simp [firstSeen, mem_foldl_firstSeen]

theorem nodup_firstSeen {α : Type} [DecidableEq α] (xs : List α) : (firstSeen xs).Nodup := by
  suffices h : ∀ seen : List α, seen.Nodup →
      (xs.foldl (fun seen x => if x ∈ seen then seen else seen ++ [x]) seen).Nodup from
    h [] List.nodup_nil
  induction xs with
  | nil => exact fun seen hn => hn
  | cons y ys ih =>
    intro seen hn
    rw [List.foldl_cons]
    refine ih _ ?_
    split
    · exact hn
    · rename_i hy
      refine List.nodup_append.2 ⟨hn, by simp, ?_⟩
      rintro x hx z hz rfl
      exact hy (List.mem_singleton.1 hz ▸ hx)

/-- Forge an item.  A type that the library does not know has no quirks of its own. -/
def forgeItem (library : Library) (id : ItemId) (itemType : DefId) (maker : Character)
    (custom : List DefId) (createdAt : Timestamp) : EngineResult Item :=
  match custom.find? fun q => (library.itemQuirk? q).isNone with
  | some unknown => .error (.unknownItemQuirk unknown)
  | none =>
    let defaults := ((library.itemType? itemType).map (·.defaultQuirks)).getD []
    .ok {
      id, itemType, createdAt
      creator := maker.id
      makerProfile := .capture maker createdAt
      quirks := firstSeen (defaults ++ custom) }

end Reckoning
