import Reckoning.Proofs.Content.Fates
import Reckoning.Proofs.Content.Valid

/-!
# Handing a library over

Whatever turns a loader takes, the library that it hands over is the one that it gathered, without
the item types that start with something unknown.

* `Loader.assemble` is a loader after any turns, among them such that make it strict or lenient.
* `Loader.library_of_finish`: handing the library over takes out the item types that start with
  something unknown, and nothing else.
* `Loader.knowsDefaults_of_finish`: so it knows what those that are left start with.
-/

namespace Reckoning

/-! ### From turns to a library -/

/-- A turn of a loader. -/
inductive LoadTurn
  /-- From here on the first refused definition is an error, or is not. -/
  | beStrict (strict : Bool)
  | take (step : LoadStep)

/-- The turns of a call. -/
def LoadCall.turns (c : LoadCall) : List LoadTurn := [.beStrict c.strict, .take (.text c.text)]

namespace Loader

/-- The loader that a turn leaves behind. -/
def turn (l : Loader) : LoadTurn → Loader
  | .beStrict strict => { l with strict }
  | .take step => l.take step

/-- A new loader after some turns. -/
def assemble (turns : List LoadTurn) : Loader := turns.foldl turn (start false)

theorem assemble_turns (calls : List LoadCall) :
    assemble (calls.flatMap (·.turns)) = loadAll calls := by
  unfold assemble loadAll
  rw [List.foldl_flatMap]
  rfl

theorem distinct_turn {l : Loader} (h : l.library.Distinct) (t : LoadTurn) :
    (l.turn t).library.Distinct := by
  cases t with
  | beStrict strict => exact h
  | take step => exact take_induction (fun _ _ _ hl ha => hl.add ha) h step

theorem distinct_assemble (turns : List LoadTurn) : (assemble turns).library.Distinct := by
  unfold assemble
  induction turns using List.reverseRecOn with
  | nil => exact Library.Distinct.empty
  | append_singleton turns t ih =>
    rw [List.foldl_concat]
    exact distinct_turn ih t

/-- Strict or lenient: whoever comes through has taken the rows out. -/
theorem library_of_foldlM_reject {l l' : Loader} {rows : List (DefId × DefId)}
    (h : rows.foldlM (fun l p => reject { l with library := l.library.withoutItemType p.1 }
      ⟨.itemType, p.1.text, .unknownDefault p.2⟩) l = .ok l') :
    l'.library = rows.foldl (fun library p => library.withoutItemType p.1) l.library := by
  induction rows generalizing l with
  | nil =>
    cases h
    rfl
  | cons p rows ih =>
    rw [List.foldlM_cons] at h
    obtain ⟨l₁, hr, h⟩ := bind_eq_ok_iff.1 h
    rw [ih h, library_of_reject hr, List.foldl_cons]

/-- The library that is handed over is what was gathered, without the item types that start with
something unknown. -/
theorem library_of_finish {l : Loader} (hl : l.library.Distinct) {library : Library}
    {report : LoadReport} (h : l.finish = .ok (library, report)) :
    library = l.library.purged l.library := by
  obtain ⟨l', hd, h⟩ := bind_eq_ok_iff.1 h
  have hl' : l'.library = l.library.purged l.library := by
    rw [library_of_foldlM_reject hd, hl.foldl_dangling]
  cases hs : l'.library.shortage? with
  | some shortage =>
    rw [hs] at h
    cases h
  | none =>
    rw [hs] at h
    cases h
    exact hl'

end Loader

namespace Library

variable {l : Library}

/-- The library knows every item quirk that an item type starts with. -/
def knowsDefaults (l : Library) (t : ItemType) : Bool :=
  t.defaultQuirks.all fun q => (l.ids .itemQuirk).contains q

theorem isEmpty_faults_itemType (t : ItemType) :
    (l.faults (.itemType t)).isEmpty = l.knowsDefaults t := by
  rw [Bool.eq_iff_iff]
  simp [faults, knowsDefaults, List.filter_eq_nil_iff]

theorem purged_self : l.purged l = { l with itemTypes := l.itemTypes.filter l.knowsDefaults } := by
  unfold purged
  simp only [isEmpty_faults_itemType]

end Library

theorem Loader.library_of_finish_assemble {turns : List LoadTurn} {library : Library}
    {report : LoadReport} (h : (assemble turns).finish = .ok (library, report)) :
    library = { (assemble turns).library with
      itemTypes := (assemble turns).library.itemTypes.filter
        (assemble turns).library.knowsDefaults } :=
  (library_of_finish (distinct_assemble turns) h).trans Library.purged_self

/-- A library that is handed over knows what its item types start with. -/
theorem Loader.knowsDefaults_of_finish {turns : List LoadTurn} {library : Library}
    {report : LoadReport} (h : (assemble turns).finish = .ok (library, report)) :
    ∀ t ∈ library.itemTypes, library.knowsDefaults t = true := by
  rw [library_of_finish_assemble h]
  exact fun t ht => (List.mem_filter.1 ht).2

end Reckoning
