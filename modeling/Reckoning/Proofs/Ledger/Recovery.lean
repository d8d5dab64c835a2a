import Reckoning.Proofs.Ledger.JsonLines
import Reckoning.Proofs.Ledger.Store
import Reckoning.Proofs.Results

/-!
# A torn file is recovered

Records are appended to a file, and the file is cut off somewhere.  Opened again, it holds the
entries whose lines are whole, and from then on nobody can tell it from a ledger in memory to which
only these were appended.

* `LineLedger.holding` is the ledger in a file to which some records were appended.
  `LineLedger.ofBytes_holding`: it comes back from its file, whatever was torn off behind it.
* `LineLedger.run` appends records and opens the file again in between;
  `LineLedger.run_holding`: only the records count.
* `LineLedger.recovers` puts this together, for every format that carries the entries.
-/

namespace Reckoning

namespace LineLedger

variable {f : LineFormat}

/-! ### Files of entries -/

/-- The bytes of entries, line by line. -/
def linesOf (f : LineFormat) (es : List LedgerEntry) : List (List UInt8) :=
  es.map fun e => (f.write e).toUTF8.toList

/-- The text of entries. -/
def textOf (f : LineFormat) (es : List LedgerEntry) : String :=
  String.ofList ((es.map fun e => (f.write e).toList).flatMap (· ++ ['\n']))

theorem utf8_textOf (es : List LedgerEntry) :
    (textOf f es).toUTF8.toList = joined (linesOf f es) := by
  have hbreak : String.utf8EncodeChar '\n' = [lineBreak] := rfl
  unfold textOf joined linesOf
  rw [toList_toUTF8, String.toList_ofList]
  simp only [List.flatMap_assoc, List.flatMap_map, List.flatMap_append, List.flatMap_singleton,
    toList_toUTF8, hbreak]

theorem line_eq (e : LedgerEntry) : f.line e = joined (linesOf f [e]) := by
  have hbreak : ("\n".toList).flatMap String.utf8EncodeChar = [lineBreak] := rfl
  unfold LineFormat.line
  rw [toList_toUTF8, String.toList_append, List.flatMap_append, hbreak, ← toList_toUTF8]
  simp [joined, linesOf]

/-- The entries that committing records made are taken in again, line by line. -/
theorem takeLines_commits {i : Index} {rs : List ActionRecord}
    (hf : ∀ e ∈ i.commits rs, f.Carries e) (number : Nat) :
    takeLines f i number ((i.commits rs).map fun e => (f.write e).toList) =
      .ok (i.pushAll (i.commits rs)) := by
  induction rs generalizing i number with
  | nil => rfl
  | cons r rs ih =>
    obtain ⟨he, hes⟩ := List.forall_mem_cons.1 hf
    have hline : takeLine f i number (f.write ⟨i.nextId r.character, r⟩).toList =
        .ok (i.push ⟨i.nextId r.character, r⟩) := by
      unfold takeLine
      rw [he.visible, String.ofList_toList, he.readBack]
      simp [Index.nextId]
    rw [Index.commits, List.map_cons, takeLines, hline]
    exact ih hes (number + 1)

theorem indexOf_joined {rs : List ActionRecord} (hf : ∀ e ∈ Index.commits ∅ rs, f.Carries e) :
    indexOf f (joined (linesOf f (Index.commits ∅ rs))) =
      .ok (Index.pushAll ∅ (Index.commits ∅ rs)) := by
  have hcut : ∀ l ∈ (Index.commits ∅ rs).map fun e => (f.write e).toList,
      '\n' ∉ l ∧ '\r' ∉ l := by
    intro l hl
    obtain ⟨e, he, rfl⟩ := List.mem_map.1 hl
    obtain ⟨hbreak, hreturn, -, -⟩ := hf e he
    rw [mem_utf8_iff (c := '\n') (by decide) rfl] at hbreak
    rw [mem_utf8_iff (c := '\r') (by decide) rfl] at hreturn
    exact ⟨hbreak, hreturn⟩
  unfold indexOf
  rw [← utf8_textOf, fromUTF8?_toUTF8]
  simp only [textOf, String.toList_ofList]
  rw [cutLines_flatMap hcut, takeLines_commits hf]

/-! ### Ledgers of records -/

/-- The ledger in a file to which some records were appended. -/
def holding (f : LineFormat) (rs : List ActionRecord) : LineLedger f where
  file := joined (linesOf f (Index.commits ∅ rs))
  index := Index.pushAll ∅ (Index.commits ∅ rs)

theorem index_holding_append (rs ss : List ActionRecord) :
    (holding f (rs ++ ss)).index =
      (holding f rs).index.pushAll ((holding f rs).index.commits ss) := by
  unfold holding
  simp only
  rw [Index.commits_append, Index.pushAll_append]

theorem append_holding (rs : List ActionRecord) (r : ActionRecord) :
    (holding f rs).append r =
      ((holding f rs).index.nextId r.character, holding f (rs ++ [r])) := by
  have hfile : (holding f (rs ++ [r])).file = (holding f rs).file ++
      joined (linesOf f [⟨(holding f rs).index.nextId r.character, r⟩]) := by
    unfold holding
    rw [← joined_append, Index.commits_append]
    exact congrArg joined List.map_append
  unfold append
  simp only
  rw [line_eq, ← hfile]
  exact congrArg (fun i => (_, LineLedger.mk _ i)) (index_holding_append rs [r]).symm

/-- A ledger comes back from its file, whatever was torn off behind it. -/
theorem recover_holding {rs : List ActionRecord} (hf : ∀ e ∈ Index.commits ∅ rs, f.Carries e)
    {torn : List UInt8} (ht : lineBreak ∉ torn) :
    recover f ((holding f rs).file ++ torn) = ((holding f rs).file, .ok (holding f rs).index) := by
  unfold recover holding
  simp only
  rw [completeLines_joined_append _ ht, indexOf_joined hf]

theorem ofBytes_holding {rs : List ActionRecord} (hf : ∀ e ∈ Index.commits ∅ rs, f.Carries e)
    {torn : List UInt8} (ht : lineBreak ∉ torn) :
    ofBytes f ((holding f rs).file ++ torn) = .ok (holding f rs) := by
  unfold ofBytes
  rw [recover_holding hf ht]
  rfl

theorem reopen_holding {rs : List ActionRecord} (hf : ∀ e ∈ Index.commits ∅ rs, f.Carries e) :
    (holding f rs).reopen = (holding f rs, none) := by
  have hnone : lineBreak ∉ ([] : List UInt8) := List.not_mem_nil
  have hback := recover_holding hf hnone
  rw [List.append_nil] at hback
  unfold reopen
  rw [hback]

/-! ### Runs -/

end LineLedger

/-- What is done with a ledger in a file. -/
inductive LedgerStep
  | append (record : ActionRecord)
  | reopen

/-- The records that some steps append. -/
def LedgerStep.records (steps : List LedgerStep) : List ActionRecord :=
  steps.filterMap fun
    | append r => some r
    | reopen => none

namespace LineLedger

variable {f : LineFormat}

/-- Make some steps, and tell under which names records were appended. -/
def run (l : LineLedger f) : List LedgerStep → LedgerResult (List LedgerId × LineLedger f)
  | [] => .ok ([], l)
  | .append r :: steps =>
    match Store.append l r with
    | (.error error, _) => .error error
    | (.ok id, l) => do
      let (ids, l) ← run l steps
      return (id :: ids, l)
  | .reopen :: steps =>
    match l.reopen with
    | (l, none) => run l steps
    | (_, some e) => .error e

theorem store_append_holding (rs : List ActionRecord) (r : ActionRecord) :
    Store.append (holding f rs) r =
      (.ok ((holding f rs).index.nextId r.character), holding f (rs ++ [r])) := by
  change (Except.ok ((holding f rs).append r).1, ((holding f rs).append r).2) = _
  rw [append_holding]

theorem appendAll_holding (rs ss : List ActionRecord) :
    Store.appendAll (holding f rs) ss =
      .ok (((holding f rs).index.commits ss).map (·.id), holding f (rs ++ ss)) := by
  induction ss generalizing rs with
  | nil =>
    rw [List.append_nil]
    rfl
  | cons r ss ih =>
    have hrest := ih (rs ++ [r])
    rw [index_holding_append, List.append_assoc, List.singleton_append] at hrest
    rw [Store.appendAll, store_append_holding]
    change Store.appendAll (holding f (rs ++ [r])) ss >>= _ = _
    rw [hrest]
    rfl

/-- Only the records of a run count, not where the file was opened again. -/
theorem run_holding {rs : List ActionRecord} {steps : List LedgerStep}
    (hf : ∀ e ∈ Index.commits ∅ (rs ++ LedgerStep.records steps), f.Carries e) :
    (holding f rs).run steps = Store.appendAll (holding f rs) (LedgerStep.records steps) := by
  induction steps generalizing rs with
  | nil => rfl
  | cons step steps ih =>
    cases step with
    | append r =>
      have happend : rs ++ LedgerStep.records (.append r :: steps) =
          rs ++ [r] ++ LedgerStep.records steps := by
        simp [LedgerStep.records]
      rw [happend] at hf
      change run (holding f rs) (.append r :: steps) =
        Store.appendAll (holding f rs) (r :: LedgerStep.records steps)
      rw [run, Store.appendAll, store_append_holding]
      change (holding f (rs ++ [r])).run steps >>= _ = _
      rw [ih hf]
    | reopen =>
      have hrs : ∀ e ∈ Index.commits ∅ rs, f.Carries e := fun e he =>
        hf e (Index.commits_append .. ▸ List.mem_append_left _ he)
      rw [run, reopen_holding hrs]
      exact ih hf

/-! ### Recovery -/

/-- A part of a file in front of its end: whole lines, with no line break behind them. -/
def IsWholeLines (kept bytes : List UInt8) : Prop :=
  (∃ torn, bytes = kept ++ torn ∧ lineBreak ∉ torn) ∧
    (kept = [] ∨ kept.getLast? = some lineBreak)

theorem isWholeLines_holding {rs : List ActionRecord} {torn : List UInt8} (ht : lineBreak ∉ torn) :
    IsWholeLines (holding f rs).file ((holding f rs).file ++ torn) := by
  refine ⟨⟨torn, rfl, ht⟩, ?_⟩
  rcases getLast?_joined (linesOf f (Index.commits ∅ rs)) with h | h
  · left
    unfold holding
    rw [h]
    rfl
  · exact .inr h

/-- Cut anywhere, the file of some records is that of the first of them, and a torn end. -/
theorem exists_torn_holding {rs : List ActionRecord}
    (hf : ∀ e ∈ Index.commits ∅ rs, f.Carries e) (k : Nat) :
    ∃ torn, lineBreak ∉ torn ∧ (holding f rs).file.take k =
      (holding f (rs.take (((holding f rs).file.take k).count lineBreak))).file ++ torn := by
  have hfree : ∀ l ∈ linesOf f (Index.commits ∅ rs), lineBreak ∉ l := by
    intro l hl
    obtain ⟨e, he, rfl⟩ := List.mem_map.1 hl
    exact (hf e he).noBreak
  obtain ⟨torn, ht, heq⟩ := exists_torn hfree k
  refine ⟨torn, ht, ?_⟩
  have htake : ∀ m, linesOf f (Index.commits ∅ (rs.take m)) =
      (linesOf f (Index.commits ∅ rs)).take m := fun m => by
    rw [Index.commits_take]
    exact List.map_take
  rw [← htake] at heq
  exact heq

/-- **A ledger in a file recovers from every cut.**  It keeps the whole lines, and goes on as the
ledger in memory does to which the records of these lines were appended. -/
theorem recovers {rs : List ActionRecord} (hf : ∀ e ∈ Index.commits ∅ rs, f.Carries e) :
    ∃ fresh ids full, ofBytes f [] = .ok fresh ∧ Store.appendAll fresh rs = .ok (ids, full) ∧
      ∀ k, ∃ l ids' mem, ofBytes f (full.file.take k) = .ok l ∧
        IsWholeLines l.file (full.file.take k) ∧
        Store.appendAll MemoryLedger.empty (rs.take ((full.file.take k).count lineBreak)) =
          .ok (ids', mem) ∧
        Store.SameAnswers l mem ∧
        ∀ steps, (∀ e ∈ mem.index.commits (LedgerStep.records steps), f.Carries e) →
          ∃ ids'' l' mem', l.run steps = .ok (ids'', l') ∧
            Store.appendAll mem (LedgerStep.records steps) = .ok (ids'', mem') ∧
            Store.SameAnswers l' mem' := by
  have hnobody : ∀ e ∈ Index.commits ∅ [], f.Carries e := fun e he => absurd he List.not_mem_nil
  have hfresh : ofBytes f [] = .ok (holding f []) := ofBytes_holding hnobody List.not_mem_nil
  refine ⟨_, _, holding f rs, hfresh, appendAll_holding [] rs, fun k => ?_⟩
  obtain ⟨torn, ht, hcut⟩ := exists_torn_holding hf k
  generalize ((holding f rs).file.take k).count lineBreak = m at hcut ⊢
  rw [hcut]
  have hfm : ∀ e ∈ Index.commits ∅ (rs.take m), f.Carries e := fun e he =>
    hf e (List.mem_of_mem_take (Index.commits_take .. ▸ he))
  refine ⟨holding f (rs.take m), _, ⟨(holding f (rs.take m)).index⟩, ofBytes_holding hfm ht,
    isWholeLines_holding ht, Store.appendAll_memory .empty _, Store.sameAnswers_of_index rfl,
    fun steps hs => ?_⟩
  have hall : ∀ e ∈ Index.commits ∅ (rs.take m ++ LedgerStep.records steps), f.Carries e := by
    intro e he
    rw [Index.commits_append] at he
    exact (List.mem_append.1 he).elim (hfm e) (hs e)
  refine ⟨_, holding f (rs.take m ++ LedgerStep.records steps), _, ?_,
    Store.appendAll_memory _ _, Store.sameAnswers_of_index (index_holding_append _ _)⟩
  rw [run_holding hall, appendAll_holding]

end LineLedger

namespace Mill

/-- Wherever the file of one record is cut off, the record can be appended again. -/
theorem recovers_baked : (∀ e ∈ Index.commits ∅ [baked], jsonLines.Carries e) ∧
    ∃ ids full, Store.appendAll (⟨[], ∅⟩ : JsonLedger) [baked] = .ok (ids, full) ∧
      ∀ k, ∃ l ids' l', LineLedger.ofBytes jsonLines (full.file.take k) = .ok l ∧
        l.run [.reopen, .append baked] = .ok (ids', l') := by
  obtain ⟨fresh, ids, full, hfresh, hfull, hcut⟩ := LineLedger.recovers carries_commits
  cases hfresh
  refine ⟨carries_commits, ids, full, hfull, fun k => ?_⟩
  obtain ⟨l, _, mem, hl, -, hmem, -, hgo⟩ := hcut k
  have hnext : ∀ e ∈ mem.index.commits [baked], jsonLines.Carries e := by
    refine List.forall_mem_singleton.2 ?_
    rw [Store.appendAll_memory] at hmem
    cases hmem
    -- the record was kept or it was not
    cases (full.file.take k).count LineLedger.lineBreak with
    | zero => exact carries_baked (.inl rfl)
    | succ m =>
      rw [List.take_succ_cons, List.take_nil]
      exact carries_baked (.inr rfl)
  obtain ⟨ids', l', _, hrun, -, -⟩ := hgo [.reopen, .append baked] hnext
  exact ⟨l, ids', l', hl, hrun⟩

end Mill

end Reckoning
