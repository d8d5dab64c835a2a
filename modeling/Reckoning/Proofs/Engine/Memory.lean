import Reckoning.Ledger.Memory
import Reckoning.Proofs.Engine.Run
import Reckoning.Proofs.Ledger.Index

/-!
# Runs over a ledger in memory

A ledger in memory never fails, so an entry that is resolved is pushed onto its index.

* `Engine.index_of_committed` says what a committed entry bears and what becomes of the index.
* `MemoryLedger.holding` is a ledger with some records in it.
* `Engine.index_run`: a run keeps the index well formed and keeps what it answers, and so every
  entry that it commits (`Engine.get?_of_committed`).
-/

namespace Reckoning

/-- A ledger in memory to which some records were appended. -/
def MemoryLedger.holding (rs : List ActionRecord) : MemoryLedger :=
  rs.foldl (fun l r => (l.append r).2) .empty

theorem MemoryLedger.wellFormed_holding (rs : List ActionRecord) :
    (holding rs).index.WellFormed := by
  unfold holding
  induction rs using List.reverseRecOn with
  | nil => exact Index.wellFormed_empty
  | append_singleton rs r ih =>
    rw [List.foldl_concat]
    exact ih.push rfl

namespace Engine

variable {e : Engine MemoryLedger}

/-- An engine over a ledger in memory that had some records in it before. -/
def overRecords (library : Library) (config : Config) (rs : List ActionRecord) :
    Engine MemoryLedger :=
  start library (.holding rs) config

/-- What a committed entry bears, and what it does to a ledger in memory. -/
theorem index_of_committed {k : Command} {entry : LedgerEntry}
    (h : e.committed? k = some entry) :
    entry.id = e.ledger.index.nextId entry.record.character ∧
      entry.record.supersedes =
        (e.ledger.index.findBySeed? entry.record.character entry.record.derivedSeed).map (·.id) ∧
      (e.after k).ledger = ⟨e.ledger.index.push entry⟩ := by
  cases k with
  | resolve r now =>
    obtain ⟨c, room, action, seed, previous, hr⟩ := exists_resolved (committed?_resolve.1 h)
    have hc : entry.record.character = c.id := by rw [hr.record]; rfl
    have hs : entry.record.supersedes = previous.map (·.id) := by rw [hr.record]
    have hp := Except.ok.inj hr.previous
    obtain ⟨hok, hl⟩ := Prod.mk.inj hr.appended
    have hid : e.ledger.index.nextId entry.record.character = entry.id := Except.ok.inj hok
    refine ⟨hid.symm, ?_, ?_⟩
    · rw [hs, ← hp, hc]
    · change (resolve r now e).2.ledger = _
      rw [← hl]
      change MemoryLedger.mk (e.ledger.index.push
        ⟨e.ledger.index.nextId entry.record.character, entry.record⟩) = _
      rw [hid]
  | _ => cases h

/-- What does not commit leaves a ledger in memory as it was. -/
theorem ledger_of_uncommitted {k : Command} (h : e.committed? k = none) :
    (e.after k).ledger = e.ledger := by
  rcases ledger_after h with hl | ⟨record, reason, happend⟩
  · exact hl
  · -- an append to memory never fails
    cases happend

/-- A command keeps the index well formed and keeps its answers. -/
theorem index_after (h : e.ledger.index.WellFormed) (k : Command) :
    (e.after k).ledger.index.WellFormed ∧ ∀ id x, e.ledger.index.get? id = some x →
      (e.after k).ledger.index.get? id = some x := by
  cases hk : e.committed? k with
  | none =>
    rw [ledger_of_uncommitted hk]
    exact ⟨h, fun _ _ hx => hx⟩
  | some entry =>
    obtain ⟨hid, -, hl⟩ := index_of_committed hk
    rw [hl]
    exact ⟨h.push hid, fun id x hx => h.get?_push hid hx⟩

/-- A run keeps the answers of a ledger in memory. -/
theorem index_run (h : e.ledger.index.WellFormed) (ks : List Command) :
    (e.run ks).ledger.index.WellFormed ∧ ∀ id x, e.ledger.index.get? id = some x →
      (e.run ks).ledger.index.get? id = some x := by
  refine run_induction (P := fun e' : Engine MemoryLedger => e'.ledger.index.WellFormed ∧ ∀ id x,
    e.ledger.index.get? id = some x → e'.ledger.index.get? id = some x) ?_ ⟨h, fun _ _ hx => hx⟩ ks
  rintro e' k ⟨hw, hkept⟩
  obtain ⟨hw', hk⟩ := index_after hw k
  exact ⟨hw', fun id x hx => hk id x (hkept id x hx)⟩

/-- A ledger in memory has an entry once it is committed, and never loses it. -/
theorem get?_of_committed (h : e.ledger.index.WellFormed) {k : Command} {entry : LedgerEntry}
    (hk : e.committed? k = some entry) (ks : List Command) :
    (e.run (k :: ks)).ledger.index.get? entry.id = some entry := by
  obtain ⟨hid, -, hl⟩ := index_of_committed hk
  change ((e.after k).run ks).ledger.index.get? entry.id = some entry
  refine (index_run (index_after h k).1 ks).2 _ _ ?_
  rw [hl]
  exact h.get?_push_self hid

end Engine

end Reckoning
