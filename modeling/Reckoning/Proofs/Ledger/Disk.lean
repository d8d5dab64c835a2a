import Reckoning.Proofs.Ledger.Store
import Reckoning.Proofs.Results

/-!
# Ledgers on a disk that fails

A line that the disk did not take is reported and cut off again.  Then nobody can tell, neither by
what the ledger answers nor by its file, that the record was ever offered.

* `DiskLedger.append_of_taken`: a line that is written makes the ledger that it would be without
  failures.
* `DiskLedger.append_of_cutOff`: a line that is cut off again leaves the file as it was.  The
  answers stay in any case, which makes it a `LawfulStore`.
* `DiskLedger.appendEach_ofBytes`: records that are appended in a row leave the ledger of those
  among them whose lines were taken.
-/

namespace Reckoning

/-- The line is written. -/
def DiskFate.isTaken : DiskFate → Bool
  | .written => true
  | .torn .. => false

/-- The line is written, or what was written of it is cut off again. -/
def DiskFate.isClean : DiskFate → Bool
  | .written => true
  | .torn _ isCutOff _ => isCutOff

namespace DiskLedger

variable {f : LineFormat} {l : DiskLedger f}

/-! ### One line -/

theorem withLength_append (kept torn : List UInt8) :
    withLength kept.length (kept ++ torn) = kept := by
  have hzeros : kept.length - (kept ++ torn).length = 0 := by
    rw [List.length_append]
    omega
  unfold withLength
  rw [hzeros, List.take_left, List.replicate_zero, List.append_nil]

/-- A line that is written makes the ledger that any ledger in a file would become. -/
theorem append_of_taken (h : ∀ fate ∈ l.fates.head?, fate.isTaken) (r : ActionRecord) :
    l.append r = (.ok (l.toLineLedger.append r).1, {
      toLineLedger := (l.toLineLedger.append r).2
      committed := l.committed + (f.line ⟨l.index.nextId r.character, r⟩).length
      fates := l.fates.tail }) := by
  unfold append
  cases hf : l.fates with
  | nil => rfl
  | cons fate fates =>
    rw [hf] at h
    cases fate with
    | written => rfl
    | torn bytes isCutOff detail => cases h _ rfl

/-- A line that is cut off again leaves the file as it was, to the byte. -/
theorem append_of_cutOff {bytes : Nat} {detail : String} {fates : List DiskFate}
    (hl : l.committed = l.file.length) (h : l.fates = .torn bytes true detail :: fates)
    (r : ActionRecord) : l.append r = (.error (.persistence detail), { l with fates }) := by
  unfold append
  rw [h]
  simp only [if_true]
  rw [hl, withLength_append]

instance : LawfulStore (DiskLedger f) where
  append_failed {l l' r error} h := by
    have hindex : l'.index = l.index := by
      change l.append r = _ at h
      unfold append at h
      split at h <;> cases h
      rfl
    exact {
      get? id := congrArg (fun i => Except.ok (Index.get? i id)) hindex.symm
      query c p := congrArg (fun i => Except.ok (Index.query i c p)) hindex.symm
      entries := congrArg (fun i => Except.ok (Index.entries i)) hindex.symm
      latest? c := congrArg (fun i => Except.ok (Index.latest? i c)) hindex.symm
      findBySeed? c seed := congrArg (fun i => Except.ok (Index.findBySeed? i c seed)) hindex.symm }

/-! ### Many lines -/

/-- Append records in a row, also behind those that fail. -/
def appendEach (l : DiskLedger f) (rs : List ActionRecord) : DiskLedger f :=
  rs.foldl (fun l r => (l.append r).2) l

/-- The records whose lines are taken. -/
def taken : List DiskFate → List ActionRecord → List ActionRecord
  | fate :: fates, r :: rs => if fate.isTaken then r :: taken fates rs else taken fates rs
  | [], rs => rs
  | _ :: _, [] => []

/-- The next record is taken, or its line is cut off again. -/
theorem append_cases (hl : l.committed = l.file.length)
    (hfates : ∀ fate ∈ l.fates, fate.isClean) (r : ActionRecord) (rs : List ActionRecord) :
    (∃ next, l.append r = (.ok (l.toLineLedger.append r).1, next) ∧
        next.toLineLedger = (l.toLineLedger.append r).2 ∧ next.committed = next.file.length ∧
        next.fates = l.fates.tail ∧ taken l.fates (r :: rs) = r :: taken l.fates.tail rs) ∨
      ∃ detail, l.append r = (.error (.persistence detail), { l with fates := l.fates.tail }) ∧
        taken l.fates (r :: rs) = taken l.fates.tail rs := by
  have hlength : l.committed + (f.line ⟨l.index.nextId r.character, r⟩).length =
      (l.toLineLedger.append r).2.file.length := by
    simp [LineLedger.append, hl]
  cases hf : l.fates with
  | nil =>
    refine .inl ⟨_, append_of_taken (by simp [hf]) r, rfl, hlength, ?_, rfl⟩
    rw [hf]
  | cons fate fates =>
    have hclean := hfates fate (hf ▸ List.mem_cons_self)
    cases fate with
    | written =>
      refine .inl ⟨_, append_of_taken (by simp [hf, DiskFate.isTaken]) r, rfl, hlength, ?_, rfl⟩
      rw [hf]
    | torn bytes isCutOff detail =>
      cases hclean
      exact .inr ⟨detail, append_of_cutOff hl hf r, rfl⟩

theorem appendEach_eq (hl : l.committed = l.file.length) (hfates : ∀ fate ∈ l.fates, fate.isClean)
    (rs : List ActionRecord) :
    ∃ ids, Store.appendAll l.toLineLedger (taken l.fates rs) =
      .ok (ids, (l.appendEach rs).toLineLedger) := by
  induction rs generalizing l with
  | nil => cases l.fates <;> exact ⟨[], rfl⟩
  | cons r rs ih =>
    change ∃ ids, _ = Except.ok (ids, ((l.append r).2.appendEach rs).toLineLedger)
    have htail : ∀ fate ∈ l.fates.tail, fate.isClean := fun fate h =>
      hfates fate (List.mem_of_mem_tail h)
    rcases append_cases hl hfates r rs with ⟨next, happ, hnext, hlength, hf, ht⟩ | ⟨_, happ, ht⟩
    · rw [happ, ht, ← hf]
      obtain ⟨ids, hids⟩ := ih hlength (hf ▸ htail)
      refine ⟨(l.toLineLedger.append r).1 :: ids, ?_⟩
      change Store.appendAll (l.toLineLedger.append r).2 _ >>= _ = _
      rw [← hnext, hids]
      rfl
    · rw [happ, ht]
      exact ih (l := { l with fates := l.fates.tail }) hl htail

/-- **A disk that fails leaves the ledger of the records that it took.**  Records are appended to a
ledger that was opened, and every line that the disk did not take can be cut off again.  Then index
and file are those of a ledger to which only the other records were appended. -/
theorem appendEach_ofBytes {fates : List DiskFate} {bytes : List UInt8}
    (h : ofBytes f fates bytes = .ok l) (hfates : ∀ fate ∈ fates, fate.isClean)
    (rs : List ActionRecord) :
    ∃ ids, Store.appendAll l.toLineLedger (taken fates rs) =
      .ok (ids, (l.appendEach rs).toLineLedger) := by
  obtain ⟨opened, -, rfl⟩ := map_eq_ok_iff.1 h
  exact appendEach_eq rfl hfates rs

end DiskLedger

end Reckoning
