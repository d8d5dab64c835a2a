import Mathlib.Data.List.Induction
import Reckoning.Engine.State
import Reckoning.Proofs.Results

/-!
# Runs of an engine

An engine goes from command to command, and goes on after one that fails.  One that comes to no
result leaves the engine as it is.

* `Command` lists what may change an engine; `Engine.after` is the engine that goes on,
  `Engine.run` the engine after several commands.
* `Engine.committed?` is the entry that a command commits, `Engine.commits` those of a run.
* `Engine.run_induction`: what every command keeps, a run keeps.
* `Engine.Resolved` says all that is known of a request that was resolved, and
  `Engine.exists_resolved` that every entry that is handed back comes from one;
  `Engine.exists_of_mem_commits` says at which point of a run.
-/

namespace Reckoning

theorem Registry.id_of_character? {r : Registry} {id : CharacterId} {c : Character}
    (h : r.character? id = some c) : c.id = id := by
  simpa using List.find?_some h

theorem Registry.id_of_room? {r : Registry} {id : RoomId} {room : Room}
    (h : r.room? id = some room) : room.id = id := by
  simpa using List.find?_some h

theorem Library.id_of_action? {l : Library} {id : DefId} {a : Action}
    (h : l.action? id = some a) : a.id = id := by
  simpa using List.find?_some h

/-- A request that may change an engine. -/
inductive Command
  | issue (account sex seed : String) (now : Timestamp)
  | register (character : Character)
  | deactivate (id : CharacterId)
  | updateReputation (id : CharacterId) (reputation : Reputation)
  | createItem (itemType : DefId) (creator : CharacterId) (custom : List DefId) (now : Timestamp)
  | transferItem (item : ItemId) (recipient : CharacterId)
  | registerRoom (room : Room)
  | resolve (request : ActionRequest) (now : Timestamp)

namespace Engine

variable {σ : Type} [Store σ]

/-- The engine that goes on after a command, also where the command fails. -/
def after (e : Engine σ) : Command → Engine σ
  | .issue account sex seed now => (issue account sex seed now e).2
  | .register c => register c e
  | .deactivate id => (deactivate id e).2
  | .updateReputation id reputation => (updateReputation id reputation e).2
  | .createItem itemType creator custom now =>
    ((createItem itemType creator custom now e).map (·.2)).getD e
  | .transferItem item recipient => (transferItem item recipient e).2
  | .registerRoom room => registerRoom room e
  | .resolve request now => (resolve request now e).2

/-- The entry that a command commits. -/
def committed? (e : Engine σ) : Command → Option LedgerEntry
  | .resolve request now => (resolve request now e).1.toOption
  | _ => none

/-- The engine after some commands. -/
def run (e : Engine σ) (ks : List Command) : Engine σ := ks.foldl after e

/-- The entries that commands commit, in order. -/
def commits (e : Engine σ) : List Command → List LedgerEntry
  | [] => []
  | k :: ks => (e.committed? k).toList ++ commits (e.after k) ks

variable {e : Engine σ}

theorem run_append (ks ls : List Command) : e.run (ks ++ ls) = (e.run ks).run ls :=
  List.foldl_append

theorem run_concat (ks : List Command) (k : Command) : e.run (ks ++ [k]) = (e.run ks).after k :=
  run_append ks [k]

/-- What every command keeps, a run keeps. -/
theorem run_induction {P : Engine σ → Prop} (after : ∀ e k, P e → P (e.after k)) (h : P e)
    (ks : List Command) : P (e.run ks) := by
  induction ks using List.reverseRecOn with
  | nil => exact h
  | append_singleton ks k ih =>
    rw [run_concat]
    exact after _ k ih

theorem commits_append (ks ls : List Command) :
    e.commits (ks ++ ls) = e.commits ks ++ (e.run ks).commits ls := by
  induction ks generalizing e with
  | nil => rfl
  | cons k ks ih =>
    rw [List.cons_append, commits, commits, ih, List.append_assoc]
    rfl

theorem commits_concat (ks : List Command) (k : Command) :
    e.commits (ks ++ [k]) = e.commits ks ++ ((e.run ks).committed? k).toList := by
  rw [commits_append, commits, commits, List.append_nil]

/-! ### Requests that are resolved -/

/-- The attempt of a request, with what the engine knows. -/
def attemptOf (e : Engine σ) (r : ActionRequest) (c : Character) (room : Room) (action : Action)
    (seed : String) (now : Timestamp) : Attempt where
  character := c
  action := action
  room := room
  requested := r.items
  possessed := e.registry.possessedBy c.id r.items
  rushed := r.rushed
  seed := seed
  timestamp := now

/-- A request was resolved and its entry committed: what it needed was there, and its record is
that of the attempt, linked to the entry that was the latest for its seed. -/
structure Resolved (e : Engine σ) (r : ActionRequest) (now : Timestamp) (entry : LedgerEntry)
    (c : Character) (room : Room) (action : Action) (seed : String)
    (previous : Option LedgerEntry) : Prop where
  known : e.registry.character? r.character = some c
  active : c.active = true
  placed : e.registry.room? r.room = some room
  defined : e.library.action? r.action = some action
  seeded : r.seed = some seed ∨ r.seed = none ∧ e.generatedSeed c.id = .ok seed
  record : entry.record = { e.recordOf (e.attemptOf r c room action seed now) with
    supersedes := previous.map (·.id) }
  previous : Store.findBySeed? e.ledger c.id entry.record.derivedSeed = .ok previous
  appended : Store.append e.ledger entry.record = (.ok entry.id, (resolve r now e).2.ledger)

namespace Resolved

variable {r : ActionRequest} {now : Timestamp} {entry : LedgerEntry} {c : Character} {room : Room}
  {action : Action} {seed : String} {previous : Option LedgerEntry}

theorem character_eq (h : e.Resolved r now entry c room action seed previous) :
    entry.record.character = r.character := by
  rw [h.record]
  exact Registry.id_of_character? h.known

theorem room_eq (h : e.Resolved r now entry c room action seed previous) :
    entry.record.room = r.room := by
  rw [h.record]
  exact Registry.id_of_room? h.placed

theorem action_eq (h : e.Resolved r now entry c room action seed previous) :
    entry.record.action = r.action := by
  rw [h.record]
  exact Library.id_of_action? h.defined

theorem itemsUsed_eq (h : e.Resolved r now entry c room action seed previous) :
    entry.record.itemsUsed = r.items := by
  rw [h.record]
  rfl

end Resolved

/-- The record of a request that misses nothing, once it has a seed. -/
def prepareWith (e : Engine σ) (r : ActionRequest) (c : Character) (room : Room) (action : Action)
    (now : Timestamp) (seed : String) : EngineResult ActionRecord :=
  let record := e.recordOf (e.attemptOf r c room action seed now)
  (Store.findBySeed? e.ledger c.id record.derivedSeed).mapError .ledger >>= fun previous =>
    .ok { record with supersedes := previous.map (·.id) }

/-- Where nothing is missing, a request only needs a seed. -/
theorem prepare_eq {r : ActionRequest} {c : Character} {room : Room} {action : Action}
    (ha : c.active = true) (hroom : e.registry.room? r.room = some room)
    (haction : e.library.action? r.action = some action) (now : Timestamp) :
    e.prepare r c now =
      (match r.seed with | some seed => .ok seed | none => e.generatedSeed c.id) >>=
        e.prepareWith r c room action now := by
  unfold prepare
  rw [if_neg (by simp [ha]), hroom, haction]
  cases r.seed <;> rfl

/-- What there has to be for a record to be put together. -/
theorem exists_of_prepare {r : ActionRequest} {c : Character} {now : Timestamp}
    {record : ActionRecord} (h : e.prepare r c now = .ok record) :
    ∃ room action seed previous, c.active = true ∧ e.registry.room? r.room = some room ∧
      e.library.action? r.action = some action ∧
      (r.seed = some seed ∨ r.seed = none ∧ e.generatedSeed c.id = .ok seed) ∧
      record = { e.recordOf (e.attemptOf r c room action seed now) with
        supersedes := previous.map (·.id) } ∧
      Store.findBySeed? e.ledger c.id record.derivedSeed = .ok previous := by
  -- one after the other: the character is active, room and action are there
  by_cases ha : c.active = true
  · cases hroom : e.registry.room? r.room with
    | none =>
      unfold prepare at h
      rw [if_neg (by simp [ha]), hroom] at h
      cases h
    | some room =>
    cases haction : e.library.action? r.action with
    | none =>
      unfold prepare at h
      rw [if_neg (by simp [ha]), hroom, haction] at h
      cases h
    | some action =>
    rw [prepare_eq ha hroom haction] at h
    obtain ⟨seed, hs, h⟩ := bind_eq_ok_iff.1 h
    obtain ⟨previous, hp, h⟩ := bind_eq_ok_iff.1 h
    cases h
    refine ⟨room, action, seed, previous, ha, rfl, rfl, ?_, rfl, mapError_eq_ok_iff.1 hp⟩
    cases hseed : r.seed with
    | some given =>
      rw [hseed] at hs
      cases hs
      exact .inl rfl
    | none =>
      rw [hseed] at hs
      exact .inr ⟨rfl, hs⟩
  · unfold prepare at h
    rw [if_pos (by simpa using ha)] at h
    cases h

/-- Every entry that is handed back was resolved and committed. -/
theorem exists_resolved {r : ActionRequest} {now : Timestamp} {entry : LedgerEntry}
    (h : (resolve r now e).1 = .ok entry) :
    ∃ c room action seed previous, e.Resolved r now entry c room action seed previous := by
  unfold resolve at h
  split at h
  · cases h
  · rename_i c hc
    simp only at h
    split at h
    · cases h
    · rename_i record hr
      split at h
      · cases h
      · rename_i id ledger hl
        cases h
        obtain ⟨room, action, seed, previous, ha, hroom, haction, hseed, hrec, hp⟩ :=
          exists_of_prepare hr
        refine ⟨c, room, action, seed, previous, hc, ha, hroom, haction, hseed, hrec, hp, ?_⟩
        unfold resolve
        rw [hc]
        simp only [hr, hl]

/-- A request that is refused leaves the ledger as it was, or as an append left it that failed. -/
theorem ledger_of_refused {r : ActionRequest} {now : Timestamp} {error : EngineError}
    (h : (resolve r now e).1 = .error error) :
    (resolve r now e).2.ledger = e.ledger ∨ ∃ record reason, error = .commit reason ∧
      Store.append e.ledger record = (.error reason, (resolve r now e).2.ledger) := by
  unfold resolve at h ⊢
  split at h
  · exact .inl rfl
  · simp only at h ⊢
    split at h
    · exact .inl rfl
    · rename_i record _
      split at h
      · rename_i reason ledger happend
        cases h
        exact .inr ⟨record, reason, rfl, happend⟩
      · cases h

theorem committed?_resolve {r : ActionRequest} {now : Timestamp} {entry : LedgerEntry} :
    e.committed? (.resolve r now) = some entry ↔ (resolve r now e).1 = .ok entry :=
  toOption_eq_some_iff

/-- A run may go on after an entry, but its commits stay. -/
theorem commits_of_resolved {ls : List Command} {r : ActionRequest} {now : Timestamp}
    {y : LedgerEntry} (h : (resolve r now (e.run ls)).1 = .ok y) (ms : List Command) :
    e.commits (ls ++ .resolve r now :: ms) =
      e.commits ls ++ y :: ((e.run ls).after (.resolve r now)).commits ms := by
  rw [commits_append, commits, committed?_resolve.2 h]
  rfl

/-- An entry of a run was handed back at some point of it. -/
theorem exists_of_mem_commits {ks : List Command} {y : LedgerEntry} (h : y ∈ e.commits ks) :
    ∃ ls r now ms, ks = ls ++ .resolve r now :: ms ∧ (resolve r now (e.run ls)).1 = .ok y := by
  induction ks generalizing e with
  | nil => cases h
  | cons k ks ih =>
    rw [commits] at h
    rcases List.mem_append.1 h with h | h
    · cases k with
      | resolve r now =>
        exact ⟨[], r, now, ks, rfl, committed?_resolve.1 (Option.mem_toList.1 h)⟩
      | _ => cases h
    · obtain ⟨ls, r, now, ms, rfl, hr⟩ := ih h
      exact ⟨k :: ls, r, now, ms, rfl, hr⟩

/-! ### What a command leaves alone -/

omit [Store σ] in
theorem changeRegistry_snd (f : Registry → EngineResult Registry) :
    ∃ registry, (changeRegistry f e).2 = { e with registry } := by
  unfold changeRegistry
  split
  · exact ⟨_, rfl⟩
  · exact ⟨e.registry, rfl⟩

omit [Store σ] in
theorem issue_snd (account sex seed : String) (now : Timestamp) :
    ∃ registry, (issue account sex seed now e).2 = { e with registry } := by
  unfold issue
  split
  · exact ⟨e.registry, rfl⟩
  · exact ⟨_, rfl⟩

theorem after_createItem (itemType : DefId) (creator : CharacterId) (custom : List DefId)
    (now : Timestamp) :
    ∃ registry, e.after (.createItem itemType creator custom now) = { e with registry } := by
  change ∃ registry, ((createItem itemType creator custom now e).map (·.2)).getD e = _
  unfold createItem
  split
  · exact ⟨e.registry, rfl⟩
  · cases e.registry.nextItem? with
    | none => exact ⟨e.registry, rfl⟩
    | some next =>
      -- an item that cannot be made still uses up its number
      simp only [Option.map_some, Option.getD_some]
      split <;> exact ⟨_, rfl⟩

theorem resolve_snd (r : ActionRequest) (now : Timestamp) :
    ∃ ledger locks, (resolve r now e).2 = { e with ledger, locks } := by
  unfold resolve
  split
  · -- an unknown character is not even locked
    exact ⟨e.ledger, e.locks, rfl⟩
  · simp only
    split
    · exact ⟨e.ledger, _, rfl⟩
    · split <;> exact ⟨_, _, rfl⟩

/-- A command that resolves nothing changes the registry at most. -/
theorem after_cases (k : Command) :
    (∃ registry, e.after k = { e with registry }) ∨ ∃ r now, k = .resolve r now := by
  cases k with
  | issue account sex seed now => exact .inl (issue_snd account sex seed now)
  | register c => exact .inl ⟨_, rfl⟩
  | deactivate id => exact .inl (changeRegistry_snd _)
  | updateReputation id reputation => exact .inl (changeRegistry_snd _)
  | createItem itemType creator custom now =>
    exact .inl (after_createItem itemType creator custom now)
  | transferItem item recipient => exact .inl (changeRegistry_snd _)
  | registerRoom room => exact .inl ⟨_, rfl⟩
  | resolve r now => exact .inr ⟨r, now, rfl⟩

/-- Nothing but an append changes the ledger, and what does not commit fails to append at most. -/
theorem ledger_after {k : Command} (h : e.committed? k = none) :
    (e.after k).ledger = e.ledger ∨ ∃ record reason,
      Store.append e.ledger record = (.error reason, (e.after k).ledger) := by
  rcases e.after_cases k with ⟨registry, hk⟩ | ⟨r, now, rfl⟩
  · rw [hk]
    exact .inl rfl
  · -- a request that is resolved commits, so this one was refused
    cases hr : (resolve r now e).1 with
    | error error =>
      refine (ledger_of_refused hr).imp_right ?_
      rintro ⟨record, reason, -, happend⟩
      exact ⟨record, reason, happend⟩
    | ok entry => simp [committed?_resolve.2 hr] at h

theorem library_after (k : Command) : (e.after k).library = e.library := by
  rcases e.after_cases k with ⟨registry, hk⟩ | ⟨r, now, rfl⟩
  · rw [hk]
  · obtain ⟨ledger, locks, hr⟩ := e.resolve_snd r now
    change (resolve r now e).2.library = _
    rw [hr]

theorem config_after (k : Command) : (e.after k).config = e.config := by
  rcases e.after_cases k with ⟨registry, hk⟩ | ⟨r, now, rfl⟩
  · rw [hk]
  · obtain ⟨ledger, locks, hr⟩ := e.resolve_snd r now
    change (resolve r now e).2.config = _
    rw [hr]

theorem library_run (ks : List Command) : (e.run ks).library = e.library :=
  run_induction (P := fun e' => e'.library = e.library) (fun _ k h => (library_after k).trans h)
    rfl ks

theorem config_run (ks : List Command) : (e.run ks).config = e.config :=
  run_induction (P := fun e' => e'.config = e.config) (fun _ k h => (config_after k).trans h)
    rfl ks

end Engine

end Reckoning
