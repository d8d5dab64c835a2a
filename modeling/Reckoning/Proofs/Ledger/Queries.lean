import Reckoning.Ledger.Query
import Reckoning.Proofs.Ledger.Reopening

/-!
# Queries and scans

A query for a character asks the index by the character in the name of an entry, and then decides by
the character in its record.  Where the two differ, the query misses entries that a scan finds.

* `LedgerEntry.AtHome` says that they do not differ; `Index.atHome_of_mem_commits`: they do not for
  entries that were committed here, so it is only a file that can bring in others.
* `Query.scan` goes through all entries, `Query.run_eq_scan_iff` compares.
* `Query.scans_appendAll` is the comparison for ledgers in memory and for files that were opened.
-/

namespace Reckoning

/-- The entry is named after the character that its record is about. -/
def LedgerEntry.AtHome (e : LedgerEntry) : Prop := e.id.character = e.record.character

instance (e : LedgerEntry) : Decidable e.AtHome :=
  inferInstanceAs (Decidable (e.id.character = e.record.character))

namespace Index

theorem atHome_of_mem_commits {i : Index} {rs : List ActionRecord} {e : LedgerEntry}
    (h : e ∈ i.commits rs) : e.AtHome := by
  induction rs generalizing i with
  | nil => cases h
  | cons r rs ih =>
    rcases List.mem_cons.1 h with rfl | h
    · rfl
    · exact ih h

end Index

namespace Query

variable {σ : Type} [Store σ]

/-- The entries of a store that a query selects, by going through all of them. -/
def scan (q : Query) (s : σ) : LedgerResult (List LedgerEntry) :=
  List.filter q.selects <$> Store.entries s

theorem selects_iff {q : Query} {e : LedgerEntry} :
    q.selects e = true ↔ (∀ c, q.character = some c → e.record.character = c) ∧
      q.period.contains e.record.timestamp = true ∧
      (∀ o, q.outcome = some o → e.record.outcome = o) ∧
      ∀ a, q.action = some a → e.record.action = a := by
  simp [selects, Option.all_eq_true, and_assoc]

/-- A query for a character finds what it selects among the entries that are named after it. -/
theorem run_of_character [IndexedStore σ] {s : σ} (h : (IndexedStore.index s).WellFormed)
    {q : Query} {c : CharacterId} (hc : q.character = some c) :
    q.run s = .ok ((IndexedStore.index s).entries.filter
      fun e => decide (e.id.character = c) && q.selects e) := by
  have hquery : q.candidates s = .ok ((IndexedStore.index s).query c q.period) := by
    unfold candidates
    rw [hc]
    exact IndexedStore.query_eq s c q.period
  have hfilter : ((IndexedStore.index s).query c q.period).filter q.selects =
      (IndexedStore.index s).entries.filter
        fun e => decide (e.id.character = c) && q.selects e := by
    rw [Index.query, ← h.filter_entries, List.filter_filter, List.filter_filter]
    refine List.filter_congr fun e _ => ?_
    -- what is selected lies in the period
    rw [Bool.eq_iff_iff]
    simp only [Bool.and_eq_true, selects_iff]
    tauto
  unfold run
  rw [hquery, ← hfilter]
  rfl

/-- A query agrees with a scan unless it asks for a character and an entry is not at home that it
selects. -/
theorem run_eq_scan_iff [IndexedStore σ] {s : σ} (h : (IndexedStore.index s).WellFormed)
    (q : Query) :
    q.run s = q.scan s ↔ (q.character.isSome = true →
      ∀ e ∈ (IndexedStore.index s).entries, q.selects e = true → e.AtHome) := by
  have hscan : q.scan s = .ok ((IndexedStore.index s).entries.filter q.selects) := by
    unfold scan
    rw [IndexedStore.entries_eq]
    rfl
  cases hc : q.character with
  | none =>
    refine iff_of_true ?_ (fun hsome => nomatch hsome)
    unfold run scan candidates
    rw [hc]
  | some c =>
    rw [run_of_character h hc, hscan, Except.ok.injEq]
    have hhome : ∀ e, q.selects e = true → (e.id.character = c ↔ e.AtHome) := fun e he => by
      rw [LedgerEntry.AtHome, (selects_iff.1 he).1 c hc]
    constructor
    · intro heq _ e he hsel
      have hboth := heq ▸ List.mem_filter.2 ⟨he, hsel⟩
      have hchar := Bool.and_eq_true_iff.1 (List.mem_filter.1 hboth).2
      exact (hhome e hsel).1 (of_decide_eq_true hchar.1)
    · intro hall
      refine List.filter_congr fun e he => ?_
      cases hsel : q.selects e with
      | false => exact Bool.and_false _
      | true =>
        have hchar := (hhome e hsel).2 (hall rfl e he hsel)
        rw [decide_eq_true hchar, Bool.and_true]

/-- All queries agree with scans just when every entry is at home. -/
theorem run_eq_scan_forall_iff [IndexedStore σ] {s : σ}
    (h : (IndexedStore.index s).WellFormed) :
    (∀ q : Query, q.run s = q.scan s) ↔ ∀ e ∈ (IndexedStore.index s).entries, e.AtHome := by
  constructor
  · intro hall e he
    -- ask for the character in the record, and for nothing else
    have hself := (run_eq_scan_iff h ⟨some e.record.character, .always, none, none⟩).1 (hall _)
    refine hself rfl e he (selects_iff.2 ⟨?_, rfl, ?_, ?_⟩)
    · rintro c ⟨⟩
      rfl
    · rintro o ⟨⟩
    · rintro a ⟨⟩
  · intro hall q
    exact (run_eq_scan_iff h q).2 fun _ e he _ => hall e he

/-- **Queries agree with scans** on every ledger in memory.  On a ledger that was read from a file a
query does so unless it asks for a character and selects an entry of that file that is named after
another character; and all queries do just when the file has no such entry. -/
theorem scans_appendAll (rs : List ActionRecord) :
    (∃ ids s, Store.appendAll MemoryLedger.empty rs = .ok (ids, s) ∧
      ∀ q : Query, q.run s = q.scan s) ∧
    ∀ (f : LineFormat) (bytes : List UInt8) (l : LineLedger f), LineLedger.ofBytes f bytes = .ok l →
      ∃ ids s, Store.appendAll l rs = .ok (ids, s) ∧
        (∀ q : Query, q.run s = q.scan s ↔ (q.character.isSome = true →
          ∀ e ∈ l.index.entries, q.selects e = true → e.AtHome)) ∧
        ((∀ q : Query, q.run s = q.scan s) ↔ ∀ e ∈ l.index.entries, e.AtHome) := by
  constructor
  · obtain ⟨s, hs, hindex⟩ := Store.exists_appendAll MemoryLedger.empty rs
    have hwell : (IndexedStore.index s).WellFormed :=
      hindex ▸ Index.wellFormed_empty.pushAll_commits rs
    refine ⟨_, s, hs, (run_eq_scan_forall_iff hwell).2 fun e he => ?_⟩
    rw [hindex] at he
    rcases (Index.WellFormed.mem_entries_pushAll Index.wellFormed_empty).1 he with he | he
    · cases he
    · exact Index.atHome_of_mem_commits he
  · intro f bytes l hl
    have hopen := LineLedger.wellFormed_ofBytes hl
    obtain ⟨s, hs, hindex⟩ := Store.exists_appendAll l rs
    have hwell : (IndexedStore.index s).WellFormed := hindex ▸ hopen.pushAll_commits rs
    -- what was committed here is at home, so only the entries of the file count
    have hentries : ∀ P : LedgerEntry → Prop, (∀ e, e.AtHome → P e) →
        ((∀ e ∈ (IndexedStore.index s).entries, P e) ↔ ∀ e ∈ l.index.entries, P e) := by
      intro P hP
      rw [hindex]
      constructor
      · exact fun hall e he => hall e (hopen.mem_entries_pushAll.2 (.inl he))
      · intro hall e he
        rcases hopen.mem_entries_pushAll.1 he with he | he
        · exact hall e he
        · exact hP e (Index.atHome_of_mem_commits he)
    refine ⟨_, s, hs, fun q => ?_, ?_⟩
    · rw [run_eq_scan_iff hwell, hentries (fun e => q.selects e = true → e.AtHome)
        fun e he _ => he]
    · rw [run_eq_scan_forall_iff hwell, hentries LedgerEntry.AtHome fun e he => he]

end Query

/-! ### An entry under another name -/

namespace Mill

/-- Records that were written here are found by scan and query. -/
theorem scans_baked : ∃ l ids s,
    LineLedger.ofBytes jsonLines ((LineLedger.holding jsonLines [baked]).file ++ [123]) = .ok l ∧
      Store.appendAll l [baked] = .ok (ids, s) ∧ ∀ q : Query, q.run s = q.scan s := by
  have hbrace : LineLedger.lineBreak ∉ [123] := by decide
  have hl := LineLedger.ofBytes_holding carries_commits hbrace
  obtain ⟨ids, s, hs, -, hall⟩ := (Query.scans_appendAll [baked]).2 _ _ _ hl
  refine ⟨_, ids, s, hl, hs, hall.2 fun e he => ?_⟩
  rcases (Index.WellFormed.mem_entries_pushAll Index.wellFormed_empty).1 he with he | he
  · cases he
  · exact Index.atHome_of_mem_commits he

/-- The record of the seventh character under the name of the first one. -/
def strayed : LedgerEntry := ⟨⟨⟨1⟩, 1⟩, baked⟩

theorem carries_strayed : jsonLines.Carries strayed := by
  refine carries_jsonLines ?_
  simp only [jsonLines, Json.Value.compact_eq_ofList, Json.Value.read?, String.toList_ofList]
  decide +kernel

/-- A file is opened that says of the seventh character, under the name of the first one, that it
baked: a query for the seventh character finds nothing, and a scan does. -/
theorem not_scans : ¬ ∀ (bytes : List UInt8) (l : JsonLedger),
    LineLedger.ofBytes jsonLines bytes = .ok l → ∀ q : Query, q.run l = q.scan l := by
  intro hall
  have hlined : ∀ e ∈ [strayed], jsonLines.Lined e :=
    List.forall_mem_singleton.2 carries_strayed.lined
  obtain ⟨number, hl⟩ := LineLedger.ofBytes_joined hlined
  have hline := LineLedger.takeLine_next carries_strayed.lined (i := ∅) rfl number
  rw [carries_strayed.readBack] at hline
  rw [List.map_singleton, LineLedger.takeLines, hline] at hl
  have hwell := LineLedger.wellFormed_ofBytes hl
  have hhome := (Query.run_eq_scan_forall_iff hwell).1 (hall _ _ hl) strayed List.mem_cons_self
  exact absurd hhome (by decide)

end Mill

end Reckoning
