import Mathlib.Data.List.Sort
import Mathlib.Data.String.Basic
import Reckoning.Content.Loader

/-!
# Folders in any order

The order in which an operating system lists a folder does not matter: content files load in the
order of their paths.

* `Node.HasFile` says where the files of a tree are, `Node.WellNamed` that no folder has two
  children of one name, and `Node.Relisted` that folders are listed in another order.
* `Node.sortChildren_perm` and `Node.pairwise_sortChildren`: children are sorted, and nothing else
  happens to them.
* `Node.exists_listing`: the content files of a tree in the order of their paths.
* `Loader.loadTree_congr`: trees with the same files load alike, and so do relisted ones.
-/

namespace Reckoning

namespace Node

/-! ### Trees -/

/-- A file with some bytes stands under a path. -/
inductive HasFile : Node → List String → List UInt8 → Prop
  | here (bytes : List UInt8) : HasFile (.file bytes) [] bytes
  | inside {children : List (String × Node)} {name : String} {child : Node} {path : List String}
      {bytes : List UInt8} (hc : (name, child) ∈ children) (h : HasFile child path bytes) :
      HasFile (.folder children) (name :: path) bytes

/-- No folder has two children of one name. -/
inductive WellNamed : Node → Prop
  | file (bytes : List UInt8) : WellNamed (.file bytes)
  | folder {children : List (String × Node)} (hn : (children.map (·.1)).Nodup)
      (h : ∀ p ∈ children, WellNamed p.2) : WellNamed (.folder children)

/-- The same tree, with folders listed in another order. -/
inductive Relisted : Node → Node → Prop
  | refl (t : Node) : Relisted t t
  | trans {t₁ t₂ t₃ : Node} (h : Relisted t₁ t₂) (h' : Relisted t₂ t₃) : Relisted t₁ t₃
  | folder {children children' : List (String × Node)} (h : children.Perm children') :
      Relisted (.folder children) (.folder children')
  | child (before after : List (String × Node)) (name : String) {c c' : Node} (h : Relisted c c') :
      Relisted (.folder (before ++ (name, c) :: after)) (.folder (before ++ (name, c') :: after))

@[simp] theorem hasFile_file {bytes bytes' : List UInt8} {path : List String} :
    (Node.file bytes).HasFile path bytes' ↔ path = [] ∧ bytes' = bytes := by
  constructor
  · intro h
    cases h
    exact ⟨rfl, rfl⟩
  · rintro ⟨rfl, rfl⟩
    exact .here _

@[simp] theorem hasFile_folder {children : List (String × Node)} {path : List String}
    {bytes : List UInt8} : (Node.folder children).HasFile path bytes ↔
      ∃ p ∈ children, ∃ rest, path = p.1 :: rest ∧ p.2.HasFile rest bytes := by
  constructor
  · intro h
    cases h with
    | inside hc h => exact ⟨_, hc, _, rfl, h⟩
  · rintro ⟨⟨name, child⟩, hc, rest, rfl, h⟩
    exact .inside hc h

theorem wellNamed_folder {children : List (String × Node)} : (Node.folder children).WellNamed ↔
    (children.map (·.1)).Nodup ∧ ∀ p ∈ children, p.2.WellNamed := by
  constructor
  · intro h
    cases h with
    | folder hn h => exact ⟨hn, h⟩
  · exact fun h => .folder h.1 h.2

namespace Relisted

variable {t t' : Node}

theorem hasFile_iff (h : t.Relisted t') (path : List String) (bytes : List UInt8) :
    t.HasFile path bytes ↔ t'.HasFile path bytes := by
  induction h generalizing path bytes with
  | refl t => rfl
  | trans _ _ ih ih' => rw [ih, ih']
  | folder h => simp [h.mem_iff]
  | child _ _ _ _ ih => simp [or_and_right, exists_or, ih]

theorem wellNamed_iff (h : t.Relisted t') : t.WellNamed ↔ t'.WellNamed := by
  induction h with
  | refl t => rfl
  | trans _ _ ih ih' => rw [ih, ih']
  | folder h => simp [wellNamed_folder, h.mem_iff, (h.map _).nodup_iff]
  | child _ _ _ _ ih => simp [wellNamed_folder, or_imp, forall_and, ih]

end Relisted

/-! ### Sorted children -/

section

variable {α β : Type}

theorem insertChild_perm (name : String) (child : α) (children : List (String × α)) :
    (insertChild name child children).Perm ((name, child) :: children) := by
  induction children with
  | nil => exact .refl _
  | cons p children ih =>
    unfold insertChild
    split
    · exact .refl _
    · exact (ih.cons p).trans (.swap ..)

theorem sortChildren_perm (children : List (String × α)) :
    (sortChildren children).Perm children := by
  induction children with
  | nil => exact .refl _
  | cons p children ih => exact (insertChild_perm p.1 p.2 _).trans (ih.cons p)

theorem pairwise_insertChild {name : String} {child : α} {children : List (String × α)}
    (h : children.Pairwise (·.1 ≤ ·.1)) :
    (insertChild name child children).Pairwise (·.1 ≤ ·.1) := by
  induction children with
  | nil => exact List.pairwise_singleton _ _
  | cons p children ih =>
    obtain ⟨hp, hrest⟩ := List.pairwise_cons.1 h
    unfold insertChild
    split
    · rename_i hle
      refine List.pairwise_cons.2 ⟨fun q hq => ?_, h⟩
      rcases List.mem_cons.1 hq with rfl | hq
      · exact hle
      · exact hle.trans (hp q hq)
    · rename_i hlt
      refine List.pairwise_cons.2 ⟨fun q hq => ?_, ih hrest⟩
      rcases List.mem_cons.1 ((insertChild_perm name child children).mem_iff.1 hq) with rfl | hq
      · exact (String.not_le.1 hlt).le
      · exact hp q hq

theorem pairwise_sortChildren (children : List (String × α)) :
    (sortChildren children).Pairwise (·.1 ≤ ·.1) := by
  induction children with
  | nil => exact .nil
  | cons p children ih => exact pairwise_insertChild ih

/-- Distinct names are in strict order. -/
theorem pairwise_lt_sortChildren {children : List (String × α)}
    (hn : (children.map (·.1)).Nodup) : (sortChildren children).Pairwise (·.1 < ·.1) := by
  have hn' : (sortChildren children).Pairwise (·.1 ≠ ·.1) :=
    List.pairwise_map.1 (((sortChildren_perm children).map _).nodup_iff.2 hn)
  exact (pairwise_sortChildren children).imp₂ (fun _ _ hle hne => lt_of_le_of_ne hle hne) hn'

theorem insertChild_map (f : String → α → β) (name : String) (child : α)
    (children : List (String × α)) :
    insertChild name (f name child) (children.map fun p => (p.1, f p.1 p.2)) =
      (insertChild name child children).map fun p => (p.1, f p.1 p.2) := by
  induction children with
  | nil => rfl
  | cons p children ih =>
    rw [List.map_cons, insertChild, insertChild]
    split
    · rfl
    · rw [List.map_cons, ih]

/-- What belongs to children moves with them. -/
theorem sortChildren_map (f : String → α → β) (children : List (String × α)) :
    sortChildren (children.map fun p => (p.1, f p.1 p.2)) =
      (sortChildren children).map fun p => (p.1, f p.1 p.2) := by
  induction children with
  | nil => rfl
  | cons p children ih =>
    rw [List.map_cons, sortChildren, ih, insertChild_map]
    rfl

end

/-! ### Content files in the order of their paths -/

theorem filesOfEach_eq (children : List (String × Node)) :
    filesOfEach children = children.map fun p => (p.1, filesBelow p.1 p.2) := by
  induction children with
  | nil => rfl
  | cons p children ih => rw [filesOfEach, ih, List.map_cons]

theorem filesBelow_folder (name : String) (children : List (String × Node)) :
    filesBelow name (.folder children) =
      (sortChildren children).flatMap fun p => filesBelow p.1 p.2 := by
  rw [filesBelow, filesOfEach_eq, sortChildren_map, List.map_map, List.flatMap_def]
  rfl

/-- The last name of a path is that of a content file. -/
def IsContentPath (path : List String) : Prop := ∃ name ∈ path.getLast?, isContentName name = true

/-- The content files below a node that has a name, with their paths and in the order of these. -/
structure IsListing (name : String) (t : Node) (files : List (List String × List UInt8)) :
    Prop where
  ordered : files.Pairwise (·.1 < ·.1)
  mem_iff : ∀ path bytes,
    (path, bytes) ∈ files ↔ t.HasFile path bytes ∧ IsContentPath (name :: path)

theorem isContentPath_cons_cons {name first : String} {path : List String} :
    IsContentPath (name :: first :: path) ↔ IsContentPath (first :: path) := by
  simp [IsContentPath]

/-- There is only one order of the paths. -/
theorem IsListing.unique {name : String} {t t' : Node}
    {files files' : List (List String × List UInt8)} (h : IsListing name t files)
    (h' : IsListing name t' files')
    (hsame : ∀ path bytes, t.HasFile path bytes ↔ t'.HasFile path bytes) : files = files' := by
  have hmem : ∀ f, f ∈ files ↔ f ∈ files' := fun f => by
    rw [h.mem_iff, h'.mem_iff, hsame]
  have hirrefl : Std.Irrefl fun f g : List String × List UInt8 => f.1 < g.1 :=
    ⟨fun f => lt_irrefl f.1⟩
  have hantisymm : Std.Antisymm fun f g : List String × List UInt8 => f.1 < g.1 :=
    ⟨fun _ _ hfg hgf => absurd hfg hgf.asymm⟩
  exact h.ordered.eq_of_mem_iff h'.ordered hmem

/-- The files below children, under the names of the children. -/
theorem IsListing.flatMap {name : String} {children : List (String × Node)}
    (hn : (children.map (·.1)).Nodup)
    (files : String × Node → List (List String × List UInt8))
    (h : ∀ p ∈ children, IsListing p.1 p.2 (files p)) :
    IsListing name (.folder children) ((sortChildren children).flatMap fun p =>
      (files p).map fun f => (p.1 :: f.1, f.2)) where
  ordered := by
    refine List.pairwise_flatMap.2 ⟨fun p hp => ?_, ?_⟩
    · have hordered := (h p ((sortChildren_perm children).mem_iff.1 hp)).ordered
      rw [List.pairwise_map]
      exact hordered.imp fun hlt => List.cons_lt_cons_iff.2 (.inr ⟨rfl, hlt⟩)
    · refine (pairwise_lt_sortChildren hn).imp fun hlt f hf g hg => ?_
      obtain ⟨f', -, rfl⟩ := List.mem_map.1 hf
      obtain ⟨g', -, rfl⟩ := List.mem_map.1 hg
      exact List.cons_lt_cons_iff.2 (.inl hlt)
  mem_iff path bytes := by
    simp only [List.mem_flatMap, List.mem_map, (sortChildren_perm children).mem_iff, hasFile_folder]
    constructor
    · rintro ⟨p, hp, ⟨rest, bytes'⟩, hf, heq⟩
      cases heq
      obtain ⟨hfile, hcontent⟩ := ((h p hp).mem_iff rest _).1 hf
      exact ⟨⟨p, hp, rest, rfl, hfile⟩, isContentPath_cons_cons.2 hcontent⟩
    · rintro ⟨⟨p, hp, rest, rfl, hfile⟩, hcontent⟩
      have hf := ((h p hp).mem_iff rest bytes).2 ⟨hfile, isContentPath_cons_cons.1 hcontent⟩
      exact ⟨p, hp, (rest, bytes), hf, rfl⟩

/-- Content files load in the order of their paths. -/
theorem exists_listing {t : Node} (h : t.WellNamed) (name : String) :
    ∃ files, IsListing name t files ∧ filesBelow name t = files.map (·.2) := by
  induction h generalizing name with
  | file bytes =>
    cases hname : isContentName name with
    | false => exact ⟨[], ⟨.nil, by simp [IsContentPath, hname]⟩, by simp [filesBelow, hname]⟩
    | true =>
      refine ⟨[([], bytes)], ⟨List.pairwise_singleton _ _, ?_⟩, by simp [filesBelow, hname]⟩
      rintro path bytes'
      simp only [List.mem_singleton, Prod.mk.injEq, hasFile_file]
      constructor
      · rintro ⟨rfl, rfl⟩
        exact ⟨⟨rfl, rfl⟩, name, rfl, hname⟩
      · exact And.left
  | @folder children hn _ ih =>
    choose! files hfiles hbelow using ih
    refine ⟨_, IsListing.flatMap hn (fun p => files p p.1) fun p hp => hfiles p hp p.1, ?_⟩
    rw [filesBelow_folder, List.map_flatMap]
    refine List.flatMap_congr fun p hp => ?_
    rw [hbelow p ((sortChildren_perm children).mem_iff.1 hp) p.1, List.map_map]
    rfl

/-- The content files depend on what files there are and where, and on nothing else. -/
theorem contentFiles?_congr {t t' : Node} (h : t.WellNamed) (h' : t'.WellNamed)
    (hsame : ∀ path bytes, t.HasFile path bytes ↔ t'.HasFile path bytes) :
    t.contentFiles? = t'.contentFiles? := by
  cases t with
  | file bytes =>
    cases t' with
    | file bytes' => rfl
    | folder children' => simpa using hsame [] bytes
  | folder children =>
    cases t' with
    | file bytes' => simpa using hsame [] bytes'
    | folder children' =>
      obtain ⟨files, hfiles, hbelow⟩ := exists_listing h ""
      obtain ⟨files', hfiles', hbelow'⟩ := exists_listing h' ""
      rw [contentFiles?, contentFiles?, hbelow, hbelow', hfiles.unique hfiles' hsame]

end Node

namespace Loader

/-- Trees with the same files load alike, whether into a strict loader or into a lenient one. -/
theorem loadTree_congr (l : Loader) {t t' : Node} (h : t.WellNamed) (h' : t'.WellNamed)
    (hsame : ∀ path bytes, t.HasFile path bytes ↔ t'.HasFile path bytes) :
    l.loadTree (some t) = l.loadTree (some t') := by
  unfold loadTree
  rw [Option.bind_some, Option.bind_some, Node.contentFiles?_congr h h' hsame]

/-- The order in which folders are listed does not matter. -/
theorem loadTree_relisted (l : Loader) {t t' : Node} (h : t.WellNamed) (ht : t.Relisted t') :
    l.loadTree (some t) = l.loadTree (some t') :=
  l.loadTree_congr h (ht.wellNamed_iff.1 h) ht.hasFile_iff

end Loader

end Reckoning
