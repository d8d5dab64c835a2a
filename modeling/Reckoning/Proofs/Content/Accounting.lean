import Mathlib.Algebra.Ring.Nat
import Reckoning.Proofs.Content.Strictness

/-!
# Every entry is accounted for

An entry ends as one definition of the library or is told of in the report.  An item type that
starts with several unknown item quirks is told of several times.

* `Fate.Concerns` says that a fate is that of an entry and not of another one.
* `Fate.length_rejections` and `length_of_fates` count; `Library.repeats_eq_zero_iff` says when
  every entry counts once.
* `LoadReport.Accounts` is the account, `Loader.accounts_for_entries`: what a lenient loader hands
  over gives it.
-/

namespace Reckoning

/-! ### An entry and its fate -/

/-- The kind of a definition is that of the entry. -/
theorem Entry.kind_of_definition {e : Entry} {d : Definition} (h : e.definition = .ok d) :
    d.kind = e.kind := by
  obtain ⟨kind, v⟩ := e
  simp only [definition] at h
  cases hdraft : Draft.ofRon? kind v with
  | none =>
    rw [hdraft] at h
    cases h
  | some draft =>
    rw [hdraft] at h
    cases kind <;> obtain ⟨x, -, rfl⟩ := Option.map_eq_some_iff.1 hdraft
    case itemType =>
      cases h
      rfl
    all_goals
      obtain ⟨y, -, rfl⟩ := map_eq_ok_iff.1 h
      rfl

namespace Fate

/-- The fate is that of an entry: the definition that is kept is its own, and so is what the report
says. -/
def Concerns (e : Entry) : Fate → Prop
  | kept d => e.definition = .ok d
  | leftOut first more => ∀ r ∈ first :: more, r.kind = e.kind ∧
      (r.id = e.label ∨ ∃ d, e.definition = .ok d ∧ r.id = d.id.text)

/-- What is not kept is told of once, and once more for every repetition. -/
theorem length_rejections (f : Fate) :
    f.definition?.toList.length + f.rejections.length = 1 + f.repeats := by
  cases f with
  | kept d => rfl
  | leftOut first more => simp [definition?, rejections, repeats, Nat.add_comm]

end Fate

theorem length_of_fates (rows : List (Entry × Fate)) :
    (rows.filterMap (·.2.definition?)).length + (rows.flatMap (·.2.rejections)).length =
      rows.length + (rows.map (·.2.repeats)).sum := by
  induction rows with
  | nil => rfl
  | cons row rows ih =>
    have hrow := row.2.length_rejections
    have hcons : ((row :: rows).filterMap (·.2.definition?)).length =
        row.2.definition?.toList.length + (rows.filterMap (·.2.definition?)).length := by
      rw [List.filterMap_cons]
      cases row.2.definition? with
      | none => simp
      | some d => simp [Nat.add_comm]
    rw [hcons, List.flatMap_cons, List.length_append, List.length_cons, List.map_cons,
      List.sum_cons]
    omega

namespace Library

theorem mem_definitions {l : Library} {d : Definition} : d ∈ l.definitions ↔ l.Has d := by
  cases d <;> simp [definitions, Kind.all, ofKind, Has]

/-- What is at fault is an item type, and the report calls it by its id. -/
theorem of_mem_faults {last : Library} {d : Definition} {r : Rejection} (h : r ∈ last.faults d) :
    r.kind = d.kind ∧ r.id = d.id.text := by
  cases d with
  | itemType t =>
    obtain ⟨q, -, rfl⟩ := List.mem_map.1 h
    exact ⟨rfl, rfl⟩
  | _ => cases h

theorem concerns_fate {l : Library} (last : Library) (e : Entry) :
    (last.fate e (l.verdict e)).Concerns e := by
  cases hv : l.verdict e with
  | error reason =>
    intro r hr
    obtain rfl := List.mem_singleton.1 hr
    exact ⟨rfl, .inl rfl⟩
  | ok d =>
    have hd := (verdict_eq_ok hv).1
    cases hf : last.faults d with
    | nil =>
      simp only [fate, hf]
      exact hd
    | cons first more =>
      simp only [fate, hf]
      intro r hr
      obtain ⟨hkind, hid⟩ := of_mem_faults (hf ▸ hr)
      exact ⟨hkind.trans (Entry.kind_of_definition hd), .inr ⟨d, hd, hid⟩⟩

theorem concerns_of_mem_rows {l last : Library} {es : List Entry} {row : Entry × Fate}
    (h : row ∈ l.rows last es) : row.2.Concerns row.1 := by
  induction es generalizing l with
  | nil => cases h
  | cons e es ih =>
    rw [rows_cons] at h
    rcases List.mem_cons.1 h with rfl | h
    · exact concerns_fate last e
    · exact ih h

theorem map_fst_rows (l last : Library) (es : List Entry) : (l.rows last es).map (·.1) = es := by
  induction es generalizing l with
  | nil => rfl
  | cons e es ih => rw [rows_cons, List.map_cons, ih]

theorem map_fst_fates (l last : Library) (files : List (List Entry)) :
    (l.fates last files).map (·.map (·.1)) = files := by
  induction files generalizing l with
  | nil => rfl
  | cons es files ih => rw [fates, List.map_cons, map_fst_rows, ih]

/-! ### How often the report comes back to an entry -/

theorem repeats_fate_of_ok (last : Library) (e : Entry) (d : Definition) :
    (last.fate e (.ok d)).repeats = (last.faults d).length - 1 := by
  cases hf : last.faults d <;> simp [fate, hf, Fate.repeats]

theorem repeats_rows_eq_zero_iff (l last : Library) (es : List Entry) :
    (∀ row ∈ l.rows last es, row.2.repeats = 0) ↔
      ∀ d ∈ l.accepted es, (last.faults d).length ≤ 1 := by
  induction es generalizing l with
  | nil => simp [rows, verdicts, accepted]
  | cons e es ih =>
    rw [rows_cons, List.forall_mem_cons, ih, accepted_cons, List.forall_mem_append]
    refine and_congr_left fun _ => ?_
    cases l.verdict e with
    | error reason => simp [fate, Fate.repeats, Except.toOption]
    | ok d =>
      rw [repeats_fate_of_ok, Nat.sub_eq_zero_iff_le]
      simp [Except.toOption]

/-- Every entry counts once just when no item type starts with more than one unknown item quirk. -/
theorem repeats_eq_zero_iff (files : List (List Entry)) :
    (∀ row ∈ (fatesOf files).flatten, row.2.repeats = 0) ↔
      ∀ t ∈ (gathered files).itemTypes, ((gathered files).faults (.itemType t)).length ≤ 1 := by
  have hperm := definitions_gathered files
  rw [flatten_fatesOf, repeats_rows_eq_zero_iff]
  constructor
  · intro h t ht
    exact h _ (hperm.mem_iff.1 (mem_definitions.2 ht))
  · intro h d hd
    have hhas := mem_definitions.1 (hperm.mem_iff.2 hd)
    cases d with
    | itemType t => exact h t hhas
    | _ => exact Nat.zero_le _

theorem definitions_of_fates (files : List (List Entry)) :
    ((gathered files).purged (gathered files)).definitions.Perm
      ((fatesOf files).flatten.filterMap (·.2.definition?)) := by
  rw [definitions_purged, flatten_fatesOf, filterMap_definition?_rows]
  exact (definitions_gathered files).filter _

end Library

/-! ### The whole account -/

/-- A library and a report account for entries with their fates. -/
structure LoadReport.Accounts (report : LoadReport) (library : Library)
    (rows : List (Entry × Fate)) : Prop where
  concerns : ∀ row ∈ rows, row.2.Concerns row.1
  kept : library.definitions.Perm (rows.filterMap (·.2.definition?))
  told : report.rejected.Perm (rows.flatMap (·.2.rejections))
  loaded : report.loaded = library.definitions.length
  /-- The numbers add up, apart from what the report repeats. -/
  counted : report.loaded + report.rejected.length = rows.length + (rows.map (·.2.repeats)).sum

namespace Loader

theorem accounts_of_buildFiles {files : List (List Entry)} {library : Library}
    {report : LoadReport} (h : buildFiles false (files.map some) = .ok (library, report)) :
    report.Accounts library (Library.fatesOf files).flatten := by
  obtain ⟨hlibrary, -, hreport⟩ := buildFiles_lenient_eq_ok.1 h
  have hkept : library.definitions.Perm
      ((Library.fatesOf files).flatten.filterMap (·.2.definition?)) :=
    hlibrary ▸ Library.definitions_of_fates files
  have htold := rejected_perm_of_build h
  have hloaded : report.loaded = library.definitions.length := by
    rw [hreport, Library.length_definitions]
  refine ⟨?_, hkept, htold, hloaded, ?_⟩
  · intro row hrow
    rw [Library.flatten_fatesOf] at hrow
    exact Library.concerns_of_mem_rows hrow
  · rw [hloaded, hkept.length_eq, htold.length_eq, length_of_fates]

/-- **Every entry is accounted for.**  A lenient loader keeps the definition of an entry or tells of
the entry in its report.  It does so exactly once just when no item type starts with more than one
unknown item quirk. -/
theorem accounts_for_entries {texts : List String} {library : Library} {report : LoadReport}
    (h : build false texts = .ok (library, report)) :
    ∃ files : List (List Entry), texts.map contentEntries? = files.map some ∧
      (Library.fatesOf files).map (·.map (·.1)) = files ∧
      report.Accounts library (Library.fatesOf files).flatten ∧
      ((∀ row ∈ (Library.fatesOf files).flatten, row.2.repeats = 0) ↔
        ∀ t ∈ (Library.gathered files).itemTypes,
          ((Library.gathered files).faults (.itemType t)).length ≤ 1) ∧
      (report.loaded + report.rejected.length = files.flatten.length ↔
        ∀ t ∈ (Library.gathered files).itemTypes,
          ((Library.gathered files).faults (.itemType t)).length ≤ 1) := by
  obtain ⟨files, hfiles⟩ := exists_files h
  have hbuild : buildFiles false (files.map some) = .ok (library, report) := by
    rw [← hfiles, ← build_eq, h]
  have haccounts := accounts_of_buildFiles hbuild
  have honce := Library.repeats_eq_zero_iff files
  have hrows : (Library.fatesOf files).flatten.length = files.flatten.length := by
    rw [Library.flatten_fatesOf, ← List.length_map (·.1), Library.map_fst_rows]
  refine ⟨files, hfiles, Library.map_fst_fates _ _ files, haccounts, honce, ?_⟩
  rw [haccounts.counted, hrows, Nat.add_eq_left, List.sum_eq_zero_iff_forall_eq_nat,
    List.forall_mem_map, honce]

end Loader

/-! ### A rod with two unknown quirks -/

namespace Pier

/-- Just enough to issue characters and to fish. -/
def basics : String :=
  "(quirks: [(id: \"calm\"), (id: \"vain\")], useless_bits: [(id: \"hums\")], " ++
  "actions: [(id: \"fish\")])"

/-- A rod that starts with two item quirks that nobody defined. -/
def rod : String := "(item_types: [(id: \"rod\", default_quirks: [\"ghost\", \"spook\"])])"

theorem builds : (Loader.build false [basics, rod]).isOk = true := by decide +kernel

theorem rod_accounted : ∃ library report,
    Loader.build false [basics, rod] = .ok (library, report) ∧
    ∃ files : List (List Entry), [basics, rod].map contentEntries? = files.map some ∧
      report.Accounts library (Library.fatesOf files).flatten := by
  obtain ⟨⟨library, report⟩, h⟩ := exists_of_isOk builds
  obtain ⟨files, hfiles, -, haccounts, -⟩ := Loader.accounts_for_entries h
  exact ⟨library, report, h, files, hfiles, haccounts⟩

/-- The report tells of the rod twice, so five entries come to six. -/
theorem not_accounted_once : ¬ ∀ texts library report (files : List (List Entry)),
    Loader.build false texts = .ok (library, report) →
    texts.map contentEntries? = files.map some →
    report.loaded + report.rejected.length = files.flatten.length := by
  intro hall
  obtain ⟨⟨library, report⟩, h⟩ := exists_of_isOk builds
  obtain ⟨files, hfiles⟩ := Loader.exists_files h
  have hcount : (Loader.build false [basics, rod]).toOption.map
      (fun p => p.2.loaded + p.2.rejected.length) = some 6 := by decide +kernel
  have hentries : ([basics, rod].map contentEntries?).map (fun es => (es.getD []).length) =
      [4, 1] := by decide +kernel
  rw [h] at hcount
  rw [hfiles, List.map_map] at hentries
  have hlength : files.flatten.length = 5 := by
    rw [List.length_flatten]
    exact congrArg List.sum hentries
  have hsix : report.loaded + report.rejected.length = 6 := Option.some.inj hcount
  have hfive := hall _ library report files h hfiles
  omega

end Pier

end Reckoning
