import Reckoning.Proofs.Ledger.Recovery
import Reckoning.Proofs.Lookup

/-!
# Quick answers are those of a scan

An index keeps the entries by character and, beside them, a row for every seed.  Whatever is
appended, and whether the index was built entry by entry or read from a file, both tell the same:
what is looked up is what a scan over all entries finds.

* `Index.WellFormed.filter_entries` and `Index.WellFormed.entries_increasing` say which entries
  there are and in which order, `Index.WellFormed.row_eq_some` what a row for a seed tells.
* `Store.Coherent` is the whole agreement, `Store.coherent_of_wellFormed` gets it from an index.
* `LineLedger.wellFormed_ofBytes`: no file is taken in that would break it.
* `Store.coherent_appendAll` puts this together.
-/

namespace Reckoning

/-- A period contains what is not before its first moment and not behind its last one. -/
theorem Period.contains_eq (p : Period) (t : Timestamp) : p.contains t =
    decide ((∀ first ∈ p.first, first.atMost t) ∧ ∀ last ∈ p.last, t.atMost last) := by
  obtain ⟨first, last⟩ := p
  cases first <;> cases last <;> simp [contains]

namespace Index

/-! ### Every entry -/

theorem lookUp_of_mem {rows : List (CharacterId × List LedgerEntry)} (h : Ascending rows)
    {p : CharacterId × List LedgerEntry} (hp : p ∈ rows) : lookUp p.1 rows = some p.2 := by
  induction rows with
  | nil => cases hp
  | cons r rows ih =>
    obtain ⟨hr, hrows⟩ := List.pairwise_cons.1 h
    rw [lookUp_cons]
    rcases List.mem_cons.1 hp with rfl | hp
    · exact if_pos rfl
    · have hne : p.1 ≠ r.1 := fun heq => UInt64.lt_irrefl _ (heq ▸ hr p hp)
      rw [if_neg hne, ih hrows hp]

/-- Of all rows, only that of a character has entries of that character. -/
theorem filter_flatMap_rows {rows : List (CharacterId × List LedgerEntry)}
    (h : Ascending rows) (hid : ∀ p ∈ rows, ∀ e ∈ p.2, e.id.character = p.1) (c : CharacterId) :
    (rows.flatMap (·.2)).filter (·.id.character = c) = (lookUp c rows).getD [] := by
  induction rows with
  | nil => rfl
  | cons r rows ih =>
    obtain ⟨hr, hrows⟩ := List.pairwise_cons.1 h
    obtain ⟨hidr, hids⟩ := List.forall_mem_cons.1 hid
    rw [List.flatMap_cons, List.filter_append, ih hrows hids, lookUp_cons]
    by_cases hc : c = r.1
    · have hall : r.2.filter (·.id.character = c) = r.2 :=
        List.filter_eq_self.2 fun e he => by simpa [hc] using hidr e he
      have hrest : lookUp c rows = none :=
        lookUp_eq_none fun p hp heq => UInt64.lt_irrefl _ (heq ▸ hc ▸ hr p hp)
      rw [if_pos hc, hall, hrest]
      exact List.append_nil _
    · have hnone : r.2.filter (·.id.character = c) = [] :=
        List.filter_eq_nil_iff.2 fun e he => by simpa [hidr e he] using Ne.symm hc
      rw [if_neg hc, hnone, List.nil_append]

namespace WellFormed

variable {i : Index}

theorem history_of_mem (h : i.WellFormed) {p : CharacterId × List LedgerEntry}
    (hp : p ∈ i.histories) : i.history p.1 = p.2 := by
  unfold history
  rw [lookUp_of_mem h.ascending hp]
  rfl

theorem character_of_mem (h : i.WellFormed) {c : CharacterId} {e : LedgerEntry}
    (he : e ∈ i.history c) : e.id.character = c := by
  obtain ⟨n, hn⟩ := List.getElem?_of_mem he
  rw [h.dense c n e hn]

theorem filter_entries (h : i.WellFormed) (c : CharacterId) :
    i.entries.filter (·.id.character = c) = i.history c := by
  refine filter_flatMap_rows h.ascending (fun p hp e he => ?_) c
  rw [← h.history_of_mem hp] at he
  exact h.character_of_mem he

theorem mem_entries (h : i.WellFormed) {e : LedgerEntry} :
    e ∈ i.entries ↔ e ∈ i.history e.id.character := by
  rw [← h.filter_entries, List.mem_filter]
  simp

theorem history_increasing (h : i.WellFormed) (c : CharacterId) :
    (i.history c).Pairwise fun x y => x.id.seq < y.id.seq := by
  rw [List.pairwise_iff_getElem]
  intro m n hm hn hmn
  rw [h.dense c m _ (List.getElem?_eq_getElem hm), h.dense c n _ (List.getElem?_eq_getElem hn)]
  exact Nat.add_lt_add_right hmn 1

/-- Entries come by character, and those of a character by number. -/
theorem entries_increasing (h : i.WellFormed) :
    i.entries.Pairwise fun x y => x.id.atMost y.id ∧ x.id ≠ y.id := by
  have hrow : ∀ p ∈ i.histories, ∀ e ∈ p.2, e.id.character = p.1 := fun p hp e he =>
    h.character_of_mem (h.history_of_mem hp ▸ he)
  unfold entries
  rw [List.pairwise_flatMap]
  constructor
  · intro p hp
    have hinc := h.history_increasing p.1
    rw [h.history_of_mem hp] at hinc
    refine hinc.imp_of_mem fun {x y} hx hy hlt => ⟨?_, fun heq => ?_⟩
    · simp [LedgerId.atMost, hrow p hp x hx, hrow p hp y hy, Nat.le_of_lt hlt]
    · exact Nat.lt_irrefl _ (heq ▸ hlt)
  · refine h.ascending.imp_of_mem fun {p q} hp hq hlt x hx y hy => ⟨?_, fun heq => ?_⟩
    · simp [LedgerId.atMost, hrow p hp x hx, hrow q hq y hy, hlt]
    · rw [← hrow p hp x hx, ← hrow q hq y hy, heq] at hlt
      exact UInt64.lt_irrefl _ hlt

/-! ### Rows of seeds -/

theorem row_isSome (h : i.WellFormed) (c : CharacterId) (seed : UInt64) :
    (lookUp (c, seed) i.latestBySeed).isSome ↔
      ∃ e ∈ i.history c, e.record.derivedSeed = seed := by
  rw [h.latest, Option.isSome_map, List.find?_isSome]
  simp

/-- What a scan from the end finds is the entry with the largest number. -/
theorem seq_le_of_find? (h : i.WellFormed) {c : CharacterId} {seed : UInt64} {e x : LedgerEntry}
    (hf : (i.history c).reverse.find? (·.record.derivedSeed == seed) = some e)
    (hx : x ∈ i.history c) (hs : x.record.derivedSeed = seed) : x.id.seq ≤ e.id.seq := by
  obtain ⟨-, later, earlier, hsplit, hlater⟩ := List.find?_eq_some_iff_append.1 hf
  have hp := List.pairwise_reverse.2 (h.history_increasing c)
  rw [← List.mem_reverse, hsplit] at hx
  rw [hsplit] at hp
  rcases List.mem_append.1 hx with hx | hx
  · -- those behind it have other seeds
    simpa [hs] using hlater x hx
  · rcases List.mem_cons.1 hx with rfl | hx
    · exact Nat.le_refl _
    · have hback := (List.pairwise_append.1 hp).2.1
      exact Nat.le_of_lt ((List.pairwise_cons.1 hback).1 x hx)

/-- A row names the latest entry of its character with its seed. -/
theorem row_eq_some (h : i.WellFormed) {c : CharacterId} {seed : UInt64} {id : LedgerId} :
    lookUp (c, seed) i.latestBySeed = some id ↔
      ∃ e ∈ i.history c, e.record.derivedSeed = seed ∧ e.id = id ∧
        ∀ x ∈ i.history c, x.record.derivedSeed = seed → x.id.seq ≤ id.seq := by
  rw [h.latest, Option.map_eq_some_iff]
  constructor
  · rintro ⟨e, hf, rfl⟩
    have hm := List.mem_reverse.1 (List.mem_of_find?_eq_some hf)
    exact ⟨e, hm, by simpa using List.find?_some hf, rfl, fun x => h.seq_le_of_find? hf⟩
  · rintro ⟨e, hm, hs, rfl, hlast⟩
    obtain ⟨y, -, hf, hy⟩ := exists_find? (p := (·.record.derivedSeed == seed))
      (List.mem_reverse.2 hm) (by simpa using hs)
    have hym := List.mem_reverse.1 (List.mem_of_find?_eq_some hf)
    have hle := h.seq_le_of_find? hf hm hs
    have hge := hlast y hym (by simpa using hy)
    refine ⟨y, hf, ?_⟩
    -- two entries of one character with one number are one entry
    have hc : y.id.character = e.id.character :=
      (h.character_of_mem hym).trans (h.character_of_mem hm).symm
    exact congrArg₂ LedgerId.mk hc (Nat.le_antisymm hge hle)

end WellFormed

end Index

/-! ### Stores -/

namespace Store

variable {σ : Type} [Store σ]

/-- What is looked up in a store is what a scan finds. -/
structure Coherent [IndexedStore σ] (s : σ) : Prop where
  /-- The entries of a character are numbered from one. -/
  numbered : ∀ (c : CharacterId) (n : Nat) (e : LedgerEntry),
    ((IndexedStore.index s).history c)[n]? = some e → e.id = ⟨c, n + 1⟩
  /-- A seed has a row exactly when the character has an entry with it. -/
  row : ∀ c seed, (Index.lookUp (c, seed) (IndexedStore.index s).latestBySeed).isSome ↔
    ∃ e ∈ (IndexedStore.index s).history c, e.record.derivedSeed = seed
  /-- The row names the latest such entry. -/
  rowLatest : ∀ c seed id,
    Index.lookUp (c, seed) (IndexedStore.index s).latestBySeed = some id ↔
      ∃ e ∈ (IndexedStore.index s).history c, e.record.derivedSeed = seed ∧ e.id = id ∧
        ∀ x ∈ (IndexedStore.index s).history c, x.record.derivedSeed = seed → x.id.seq ≤ id.seq
  latest? : ∀ c, Store.latest? s c = scanLatest (query s) c
  findBySeed? : ∀ c seed, Store.findBySeed? s c seed = scanBySeed (query s) c seed
  /-- All entries come in order, and the other answers are made of them. -/
  entries : ∃ es, Store.entries s = .ok es ∧
    es.Pairwise (fun x y => x.id.atMost y.id ∧ x.id ≠ y.id) ∧
    (∀ id, ∃ answer, Store.get? s id = .ok answer ∧ ∀ e, answer = some e ↔ e ∈ es ∧ e.id = id) ∧
    (∀ c, query s c .always = .ok (es.filter (·.id.character = c))) ∧
    ∀ c p, query s c p = .ok ((es.filter (·.id.character = c)).filter fun e =>
      (∀ first ∈ p.first, first.atMost e.record.timestamp) ∧
        ∀ last ∈ p.last, e.record.timestamp.atMost last)
  /-- A commit answers under its own name, which was nobody's, and changes no other answer. -/
  append : ∀ r, ∃ id s', Store.append s r = (.ok id, s') ∧ Store.get? s id = .ok none ∧
    Store.get? s' id = .ok (some ⟨id, r⟩) ∧ ∀ id', id' ≠ id → Store.get? s' id' = Store.get? s id'

theorem coherent_of_wellFormed [IndexedStore σ] {s : σ}
    (h : (IndexedStore.index s).WellFormed) : Coherent s where
  numbered := h.dense
  row := h.row_isSome
  rowLatest c seed id := h.row_eq_some
  latest? c := by
    unfold scanLatest
    rw [IndexedStore.latest?_eq, IndexedStore.query_eq]
    simp [Index.latest?, Index.query]
  findBySeed? c seed := by
    unfold scanBySeed
    rw [IndexedStore.findBySeed?_eq, IndexedStore.query_eq, h.findBySeed?_eq]
    simp [Index.query]
  entries := by
    refine ⟨_, IndexedStore.entries_eq s, h.entries_increasing, fun id => ?_, fun c => ?_,
      fun c p => ?_⟩
    · refine ⟨_, IndexedStore.get?_eq s id, fun e => ?_⟩
      rw [h.get?_eq_some, h.mem_entries]
      constructor
      · rintro ⟨hm, rfl⟩
        exact ⟨hm, rfl⟩
      · rintro ⟨hm, rfl⟩
        exact ⟨hm, rfl⟩
    · rw [IndexedStore.query_eq, h.filter_entries]
      simp [Index.query]
    · rw [IndexedStore.query_eq, h.filter_entries, Index.query]
      exact congrArg _ (List.filter_congr fun e _ => p.contains_eq e.record.timestamp)
  append r := by
    obtain ⟨s', happ, hi⟩ := IndexedStore.append_eq s r
    refine ⟨_, s', happ, ?_, ?_, fun id' hne => ?_⟩
    · rw [IndexedStore.get?_eq, h.get?_nextId]
    · rw [IndexedStore.get?_eq, hi, h.get?_push_self rfl]
    · rw [IndexedStore.get?_eq, IndexedStore.get?_eq, hi, h.get?_push_of_ne rfl hne]

theorem exists_coherent [IndexedStore σ] {s : σ} (h : (IndexedStore.index s).WellFormed)
    (rs : List ActionRecord) : ∃ ids s', appendAll s rs = .ok (ids, s') ∧ Coherent s' := by
  obtain ⟨s', hs', hi⟩ := exists_appendAll s rs
  exact ⟨_, s', hs', coherent_of_wellFormed (hi ▸ h.pushAll_commits rs)⟩

end Store

/-! ### Files -/

namespace LineLedger

variable {f : LineFormat}

theorem wellFormed_takeLine {i i' : Index} {number : Nat} {line : List Char} (h : i.WellFormed)
    (ht : takeLine f i number line = .ok i') : i'.WellFormed := by
  unfold takeLine at ht
  split_ifs at ht with hblank
  · cases ht
    exact h
  · cases hr : f.read? (String.ofList line) with
    | none =>
      rw [hr] at ht
      cases ht
    | some e =>
      rw [hr] at ht
      simp only at ht
      split_ifs at ht with hid
      cases ht
      exact h.push hid

theorem wellFormed_takeLines {i i' : Index} {number : Nat} {lines : List (List Char)}
    (h : i.WellFormed) (ht : takeLines f i number lines = .ok i') : i'.WellFormed := by
  induction lines generalizing i number with
  | nil =>
    cases ht
    exact h
  | cons line lines ih =>
    obtain ⟨i₁, hline, hlines⟩ := bind_eq_ok_iff.1 ht
    exact ih (wellFormed_takeLine h hline) hlines

theorem wellFormed_ofBytes {bytes : List UInt8} {l : LineLedger f} (h : ofBytes f bytes = .ok l) :
    l.index.WellFormed := by
  obtain ⟨i, hi, rfl⟩ := map_eq_ok_iff.1 h
  change indexOf f (completeLines bytes) = .ok i at hi
  unfold indexOf at hi
  split at hi
  · exact wellFormed_takeLines Index.wellFormed_empty hi
  · cases hi

end LineLedger

/-- **What a ledger looks up is what a scan finds**: in memory, and in a file that was opened,
whatever is appended. -/
theorem Store.coherent_appendAll (rs : List ActionRecord) :
    (∃ ids s, appendAll MemoryLedger.empty rs = .ok (ids, s) ∧ Coherent s) ∧
    ∀ (f : LineFormat) (bytes : List UInt8) (l : LineLedger f), LineLedger.ofBytes f bytes = .ok l →
      ∃ ids s, appendAll l rs = .ok (ids, s) ∧ Coherent s :=
  ⟨exists_coherent Index.wellFormed_empty rs,
    fun _ _ _ hl => exists_coherent (LineLedger.wellFormed_ofBytes hl) rs⟩

namespace Mill

/-- A record is on file with a brace behind it, and is appended once more. -/
theorem coherent_baked : ∃ l ids s,
    LineLedger.ofBytes jsonLines ((LineLedger.holding jsonLines [baked]).file ++ [123]) = .ok l ∧
      Store.appendAll l [baked] = .ok (ids, s) ∧ Store.Coherent s := by
  have hbrace : LineLedger.lineBreak ∉ [123] := by decide
  have hl := LineLedger.ofBytes_holding carries_commits hbrace
  obtain ⟨ids, s, hs, hc⟩ := (Store.coherent_appendAll [baked]).2 _ _ _ hl
  exact ⟨_, ids, s, hl, hs, hc⟩

end Mill

end Reckoning
