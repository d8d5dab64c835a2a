import Mathlib.Data.List.Induction
import Mathlib.Data.List.Nodup
import Mathlib.Data.List.Perm.Basic
import Reckoning.Content.Loader
import Reckoning.Proofs.Results

/-!
# Runs of a loader

A loader takes content in step by step, and each step may add definitions, refuse some, or stop.

* `Loader.run` is a loader after any steps, `Library.ComesFrom` a library that it shows or hands
  over.
* `Library.Distinct` says that ids are unique: within each kind, and among all traits of
  characters.
* `Loader.run_induction`, `Library.ComesFrom.induction`: what every admitted definition keeps
  holds of every library that a loader builds.
* `Library.ComesFrom.distinct`: such a library has distinct ids.
-/

namespace Reckoning

/-! ### Definitions of a library -/

namespace Library

/-- The library has a definition. -/
def Has (l : Library) : Definition → Prop
  | .quirk d => d ∈ l.quirks
  | .failing d => d ∈ l.failings
  | .uselessBit d => d ∈ l.uselessBits
  | .itemQuirk d => d ∈ l.itemQuirks
  | .itemType d => d ∈ l.itemTypes
  | .environmentalQuirk d => d ∈ l.environmentalQuirks
  | .action d => d ∈ l.actions
  | .reputationBias d => d ∈ l.reputationBiases

/-- No two definitions of one kind share an id, and no two traits of characters. -/
structure Distinct (l : Library) : Prop where
  traits : l.traitIds.Nodup
  kinds : ∀ k, (l.ids k).Nodup

theorem not_has_empty (d : Definition) : ¬ empty.Has d := by
  cases d <;> simp [Has, empty]

theorem has_append {l : Library} {d x : Definition} :
    (l.append d).Has x ↔ l.Has x ∨ x = d := by
  cases d <;> cases x <;> simp [append, Has]

theorem has_of_withoutItemType {l : Library} {id : DefId} {x : Definition}
    (h : (l.withoutItemType id).Has x) : l.Has x := by
  cases x <;> first | exact h | exact (List.mem_filter.1 h).1

theorem add_eq_ok {l l' : Library} {d : Definition} :
    l.add d = .ok l' ↔ l.refusal? d = none ∧ l' = l.append d := by
  unfold add
  cases hr : l.refusal? d with
  | some r => simp
  | none =>
    simp only [Except.ok.injEq, true_and]
    exact eq_comm

theorem not_mem_ids_of_refusal? {l : Library} {d : Definition} (h : l.refusal? d = none) :
    d.id ∉ l.ids d.kind := by
  unfold refusal? at h
  split_ifs at h with ht hc hc
  · intro hm
    refine hc (List.contains_iff_mem.2 ?_)
    unfold traitIds
    rcases ht with hk | hk | hk <;> rw [hk] at hm <;> simp [hm]
  · exact fun hm => hc (List.contains_iff_mem.2 hm)

theorem not_mem_traitIds_of_refusal? {l : Library} {d : Definition} (h : l.refusal? d = none)
    (ht : d.kind = .quirk ∨ d.kind = .failing ∨ d.kind = .uselessBit) : d.id ∉ l.traitIds := by
  unfold refusal? at h
  rw [if_pos ht] at h
  split_ifs at h with hc
  exact fun hm => hc (List.contains_iff_mem.2 hm)

/-- Adding a definition adds its id to the ids of traits, if it is a trait. -/
theorem traitIds_append (l : Library) (d : Definition) :
    (l.append d).traitIds.Perm
      (if d.kind = .quirk ∨ d.kind = .failing ∨ d.kind = .uselessBit then d.id :: l.traitIds
        else l.traitIds) := by
  -- a new id stands at the end of its kind, in the middle of all of them
  have move (xs ys : List DefId) : (xs ++ [d.id] ++ ys).Perm (d.id :: (xs ++ ys)) := by
    rw [List.append_assoc]
    exact List.perm_middle
  unfold traitIds
  simp only [ids_append]
  cases hk : d.kind
  case failing => simpa using move (l.ids .quirk ++ l.ids .failing) (l.ids .uselessBit)
  case uselessBit =>
    simpa using move (l.ids .quirk ++ l.ids .failing ++ l.ids .uselessBit) []
  all_goals simp

theorem ids_withoutItemType {k : Kind} (hk : k ≠ .itemType) (l : Library) (id : DefId) :
    (l.withoutItemType id).ids k = l.ids k := by
  cases k <;> first | rfl | exact absurd rfl hk

namespace Distinct

theorem empty : Distinct Library.empty :=
  ⟨List.nodup_nil, fun k => by cases k <;> exact List.nodup_nil⟩

theorem add {l l' : Library} {d : Definition} (h : l.Distinct) (ha : l.add d = .ok l') :
    l'.Distinct := by
  obtain ⟨hr, rfl⟩ := add_eq_ok.1 ha
  refine ⟨?_, fun k => ?_⟩
  · rw [(traitIds_append l d).nodup_iff]
    split_ifs with ht
    · exact List.nodup_cons.2 ⟨not_mem_traitIds_of_refusal? hr ht, h.traits⟩
    · exact h.traits
  · rw [ids_append]
    split_ifs with hk
    · subst hk
      refine List.nodup_append.2 ⟨h.kinds _, List.nodup_singleton _, ?_⟩
      rintro x hx y hy rfl
      rw [List.mem_singleton.1 hy] at hx
      exact not_mem_ids_of_refusal? hr hx
    · simpa using h.kinds k

theorem withoutItemType {l : Library} (h : l.Distinct) (id : DefId) :
    (l.withoutItemType id).Distinct := by
  refine ⟨h.traits, fun k => ?_⟩
  by_cases hk : k = .itemType
  · subst hk
    exact (h.kinds .itemType).sublist (List.filter_sublist.map _)
  · rw [ids_withoutItemType hk]
    exact h.kinds k

end Distinct

end Library

/-! ### Steps of loading -/

/-- A way to take content in. -/
inductive LoadStep
  /-- The text of a content file. -/
  | text (text : String)
  /-- A content file. -/
  | file (bytes : List UInt8)
  /-- A folder of content files. -/
  | folder (tree : Option Node)
  /-- A definition that was made in another way. -/
  | definition (d : Definition)

namespace Loader

/-- The loader that a step leaves behind, whether it was stopped or not. -/
def take (l : Loader) : LoadStep → Loader
  | .text text => (l.load text).1
  | .file bytes => (l.loadBytes bytes).1
  | .folder tree => (l.loadTree tree).1
  | .definition d => (l.add d).toOption.getD l

/-- A loader after some steps. -/
def run (strict : Bool) (steps : List LoadStep) : Loader := steps.foldl take (start strict)

theorem each_induction {α : Type} {P : Loader → Prop}
    {f : Loader → α → Loader × Option ContentError} (hf : ∀ l x, P l → P (f l x).1)
    (xs : List α) {l : Loader} (h : P l) : P (l.each f xs).1 := by
  induction xs generalizing l with
  | nil => exact h
  | cons x xs ih =>
    have hx := hf l x h
    unfold each
    split
    · rename_i l' hl
      rw [hl] at hx
      exact ih hx
    · rename_i l' error hl
      rw [hl] at hx
      exact hx

theorem library_of_reject {l l' : Loader} {r : Rejection} (h : l.reject r = .ok l') :
    l'.library = l.library := by
  unfold reject at h
  split_ifs at h
  cases h
  rfl

theorem add_eq_ok {l l' : Loader} {d : Definition} (h : l.add d = .ok l') :
    l.library.add d = .ok l'.library := by
  unfold add at h
  cases ha : l.library.add d with
  | error r => rw [ha] at h; cases h
  | ok library =>
    rw [ha] at h
    cases h
    rfl

/-- An entry leaves the library as it is, or adds its definition. -/
theorem library_of_offer {l l' : Loader} {e : Entry} (h : l.offer e = .ok l') :
    l'.library = l.library ∨ ∃ d, e.definition = .ok d ∧ l.library.add d = .ok l'.library := by
  unfold offer at h
  cases hd : e.definition with
  | error reason =>
    rw [hd] at h
    exact .inl (library_of_reject h)
  | ok d =>
    simp only [hd, bind, Except.bind] at h
    split at h
    · rename_i ha
      cases h
      exact .inr ⟨d, rfl, add_eq_ok ha⟩
    · exact .inl (library_of_reject h)

section

variable {P : Library → Prop}

/-- What every admitted entry keeps, a text keeps. -/
theorem load_induction
    (entry : ∀ l l' e d, P l → Entry.definition e = .ok d → l.add d = .ok l' → P l')
    {l : Loader} (h : P l.library) (text : String) : P (l.load text).1.library := by
  unfold load
  split
  · refine each_induction (P := fun l => P l.library) (fun l e hl => ?_) _ h
    unfold offerOrStop
    split
    · rename_i l' ho
      rcases library_of_offer ho with hs | ⟨d, hd, ha⟩
      · exact hs ▸ hl
      · exact entry _ _ e d hl hd ha
    · exact hl
  · exact h

theorem loadBytes_induction
    (entry : ∀ l l' e d, P l → Entry.definition e = .ok d → l.add d = .ok l' → P l')
    {l : Loader} (h : P l.library) (bytes : List UInt8) : P (l.loadBytes bytes).1.library := by
  unfold loadBytes
  split
  · exact load_induction entry h _
  · exact h

theorem loadTree_induction
    (entry : ∀ l l' e d, P l → Entry.definition e = .ok d → l.add d = .ok l' → P l')
    {l : Loader} (h : P l.library) (tree : Option Node) : P (l.loadTree tree).1.library := by
  unfold loadTree
  split
  · exact each_induction (P := fun l => P l.library)
      (fun l b hl => loadBytes_induction entry hl b) _ h
  · exact h

/-- What every added definition keeps, a step keeps, also one that is stopped on its way. -/
theorem take_induction (add : ∀ l l' d, P l → l.add d = .ok l' → P l') {l : Loader}
    (h : P l.library) (s : LoadStep) : P (l.take s).library := by
  -- it does not matter here which entry a definition comes from
  have entry (l l' : Library) (e : Entry) (d : Definition) (h : P l) (_ : e.definition = .ok d)
      (ha : l.add d = .ok l') : P l' := add l l' d h ha
  cases s with
  | text t => exact load_induction entry h t
  | file bytes => exact loadBytes_induction entry h bytes
  | folder tree => exact loadTree_induction entry h tree
  | definition d =>
    change P ((l.add d).toOption.getD l).library
    cases ha : l.add d with
    | error r => exact h
    | ok l' => exact add _ _ d h (add_eq_ok ha)

/-- What every added definition keeps, a run keeps. -/
theorem run_induction (empty : P ∅) (add : ∀ l l' d, P l → l.add d = .ok l' → P l')
    (strict : Bool) (steps : List LoadStep) : P (run strict steps).library := by
  unfold run
  induction steps using List.reverseRecOn with
  | nil => exact empty
  | append_singleton steps s ih =>
    rw [List.foldl_concat]
    exact take_induction add ih s

/-- What every admitted entry keeps, a run over texts keeps. -/
theorem run_texts_induction (empty : P ∅)
    (entry : ∀ l l' e d, P l → Entry.definition e = .ok d → l.add d = .ok l' → P l')
    (strict : Bool) (texts : List String) : P (run strict (texts.map .text)).library := by
  unfold run
  induction texts using List.reverseRecOn with
  | nil => exact empty
  | append_singleton texts t ih =>
    rw [List.map_append, List.map_singleton, List.foldl_concat]
    exact load_induction entry ih t

/-- What keeps when an item type is left out, the search for dangling ones keeps. -/
theorem dropDangling_induction (drop : ∀ l id, P l → P (l.withoutItemType id)) {l l' : Loader}
    (h : P l.library) (hd : l.dropDangling = .ok l') : P l'.library := by
  unfold dropDangling at hd
  -- the rows were found in the library as it was, so the fold goes on with them while it changes
  generalize l.library.dangling = rows at hd
  induction rows generalizing l with
  | nil =>
    cases hd
    exact h
  | cons p rows ih =>
    rw [List.foldlM_cons] at hd
    obtain ⟨l₁, hr, hd⟩ := bind_eq_ok_iff.1 hd
    refine ih ?_ hd
    rw [library_of_reject hr]
    exact drop _ _ h

theorem finish_induction (drop : ∀ l id, P l → P (l.withoutItemType id)) {l : Loader}
    (h : P l.library) {library : Library} {report : LoadReport}
    (hf : l.finish = .ok (library, report)) : P library := by
  unfold finish at hf
  cases hd : l.dropDangling with
  | error e => rw [hd] at hf; cases hf
  | ok l' =>
    have hl' : P l'.library := dropDangling_induction drop h hd
    rw [hd] at hf
    simp only [bind, Except.bind] at hf
    split at hf
    · cases hf
    · cases hf
      exact hl'

end

end Loader

/-- The library is what a loader has gathered so far, or what it hands over in the end. -/
def Library.ComesFrom (library : Library) (l : Loader) : Prop :=
  library = l.library ∨ ∃ report, l.finish = .ok (library, report)

namespace Library.ComesFrom

variable {library : Library} {l : Loader}

theorem induction {P : Library → Prop} (h : library.ComesFrom l)
    (drop : ∀ l id, P l → P (l.withoutItemType id)) (hl : P l.library) : P library := by
  rcases h with rfl | ⟨report, hf⟩
  · exact hl
  · exact Loader.finish_induction drop hl hf

/-- **Every library that a loader builds has distinct ids.** -/
theorem distinct {strict : Bool} {steps : List LoadStep}
    (h : library.ComesFrom (Loader.run strict steps)) : library.Distinct :=
  h.induction (fun _ id hl => hl.withoutItemType id)
    (Loader.run_induction .empty (fun _ _ _ hl ha => hl.add ha) strict steps)

end Library.ComesFrom

end Reckoning
