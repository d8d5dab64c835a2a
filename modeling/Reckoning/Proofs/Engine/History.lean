import Reckoning.Proofs.Engine.Memory
import Reckoning.Proofs.Ledger.Chronicle

/-!
# The history of a run

A run of an engine over a ledger in memory writes a chronicle: whatever the commands are and
whether they succeed, the ledger holds the entries that were handed back, in order, and each of
them is linked to the latest earlier one that it retries.

* `Engine.chronicle_run` is the invariant: one commit extends the chronicle, nothing else touches
  it.
* `Engine.FaithfulHistory` collects what that says about a run, `Engine.faithfulHistory_start` that
  it holds of every run that starts from an empty ledger.
-/

namespace Reckoning

namespace Engine

variable {e : Engine MemoryLedger}

/-- A command extends the chronicle by what it commits. -/
theorem chronicle_after {es : List LedgerEntry} (h : Chronicle e.ledger.index es) (k : Command) :
    Chronicle (e.after k).ledger.index (es ++ (e.committed? k).toList) := by
  cases hk : e.committed? k with
  | none =>
    rw [ledger_of_uncommitted hk, Option.toList_none, List.append_nil]
    exact h
  | some entry =>
    obtain ⟨hid, hs, hl⟩ := index_of_committed hk
    rw [hl, Option.toList_some]
    exact h.push hid hs

/-- **A run writes a chronicle of the entries that it hands back.** -/
theorem chronicle_run (h : Chronicle e.ledger.index []) (ks : List Command) :
    Chronicle (e.run ks).ledger.index (e.commits ks) := by
  induction ks using List.reverseRecOn with
  | nil => exact h
  | append_singleton ks k ih =>
    rw [run_concat, commits_concat]
    exact chronicle_after ih k

/-- What the runs of an engine leave in its ledger. -/
structure FaithfulHistory (e : Engine MemoryLedger) : Prop where
  /-- The entries of a character are numbered from one, in the order in which they were resolved. -/
  numbered : ∀ ks c, ((e.commits ks).filter (·.id.character = c)).map (·.id) =
    (List.range ((e.commits ks).filter (·.id.character = c)).length).map fun n => ⟨c, n + 1⟩
  /-- The ledger answers with the entries that were handed back, and with no others. -/
  answers : ∀ ks id, Store.get? (e.run ks).ledger id = .ok ((e.commits ks).find? (·.id = id))
  /-- An entry that was handed back is what the ledger answers from then on. -/
  kept : ∀ ks r now entry, (resolve r now (e.run ks)).1 = .ok entry →
    ∀ ls, Store.get? (e.run (ks ++ .resolve r now :: ls)).ledger entry.id = .ok (some entry)
  /-- A command changes no answer but that to the name of the entry that it commits. -/
  alone : ∀ ks k id, (∀ entry, (e.run ks).committed? k = some entry → entry.id ≠ id) →
    Store.get? (e.run (ks ++ [k])).ledger id = Store.get? (e.run ks).ledger id
  /-- An entry is linked to the latest earlier one of its character with its seed. -/
  linked : ∀ ks r now entry, (resolve r now (e.run ks)).1 = .ok entry →
    entry.record.supersedes = (((e.commits ks).filter fun x =>
      x.id.character = entry.id.character ∧
        x.record.derivedSeed = entry.record.derivedSeed).getLast?).map (·.id)
  /-- No entry is superseded by two entries. -/
  once : ∀ ks, ∀ y ∈ e.commits ks, ∀ z ∈ e.commits ks, ∀ id,
    y.record.supersedes = some id → z.record.supersedes = some id → y = z
  /-- A link leads to a smaller number of the same character. -/
  descending : ∀ ks, ∀ y ∈ e.commits ks, ∀ id, y.record.supersedes = some id →
    id.character = y.id.character ∧ id.seq < y.id.seq
  /-- Following the links visits the earlier entries of the character with the seed, all of them
  and nothing else. -/
  visits : ∀ ks, ∀ y ∈ e.commits ks, ∀ x, Relation.TransGen (Retries (e.commits ks)) y x ↔
    x ∈ e.commits ks ∧ SameLuck x y ∧ x.id.seq < y.id.seq

theorem faithfulHistory_of_chronicle (h : Chronicle e.ledger.index []) : e.FaithfulHistory where
  numbered ks c := (chronicle_run h ks).numbered c
  answers ks id := congrArg Except.ok ((chronicle_run h ks).get?_eq id)
  kept ks r now entry hr ls := by
    have hm : entry ∈ e.commits (ks ++ .resolve r now :: ls) := by simp [commits_of_resolved hr]
    exact congrArg Except.ok ((chronicle_run h _).get?_of_mem hm)
  alone ks k id hne := by
    refine congrArg Except.ok ?_
    rw [(chronicle_run h _).get?_eq, (chronicle_run h _).get?_eq, commits_concat,
      List.find?_append]
    cases hk : (e.run ks).committed? k with
    | none => simp
    | some entry =>
      have := hne entry hk
      simp [this]
  linked ks r now entry hr := by
    obtain ⟨hid, hs, -⟩ := index_of_committed (committed?_resolve.2 hr)
    have hc : entry.record.character = entry.id.character := by rw [hid]; rfl
    rw [hs, hc, (chronicle_run h ks).findBySeed?_eq_getLast?]
  once ks y hy z hz id hys hzs := (chronicle_run h ks).superseded_once hy hz hys hzs
  descending ks y hy id hs := by
    obtain ⟨x, -, rfl, hxy, hlt, -⟩ := (chronicle_run h ks).latest_of_supersedes hy hs
    exact ⟨hxy.1, hlt⟩
  visits ks y hy x := by
    rw [(chronicle_run h ks).transGen_iff]
    exact and_iff_right hy

/-- **Every run over an empty ledger leaves a faithful history.** -/
theorem faithfulHistory_start (library : Library) (config : Config) :
    (start library MemoryLedger.empty config).FaithfulHistory :=
  faithfulHistory_of_chronicle Chronicle.empty

end Engine

end Reckoning
