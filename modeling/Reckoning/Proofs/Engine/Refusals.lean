import Reckoning.Ledger.JsonLines
import Reckoning.Proofs.Engine.Replay
import Reckoning.Proofs.Ledger.Disk

/-!
# Requests that are refused

A request is resolved when everything that it needs is there and the ledger does its part.
Otherwise it is refused for the first thing that is missing, and a request of any kind that is
refused leaves no trace.

* `ActionRequest.causes` lists what may be missing, in the order in which it is looked for;
  `Engine.obstacle?` is the first cause that applies, `Engine.CanServe` says that none does.
* `Engine.resolve_of_canServe` follows a request that misses nothing through the ledger.
* `Engine.after_of_refused`: a command that fails uses up a number, makes a lock or has the ledger
  fail at most.
* `Engine.FailsCleanly` collects what holds over every store, `Engine.serves_or_refuses` adds that
  the stores keep their word, and that over a ledger in memory there is no other reason to refuse a
  request.
-/

namespace Reckoning

/-! ### Ledgers that fail -/

namespace Store

variable {σ : Type} [Store σ]

/-- Every reading succeeds. -/
structure Readable (l : σ) : Prop where
  get? : ∀ id, ∃ found, Store.get? l id = .ok found
  query : ∀ c period, ∃ es, Store.query l c period = .ok es
  entries : ∃ es, Store.entries l = .ok es
  latest? : ∀ c, ∃ found, Store.latest? l c = .ok found
  findBySeed? : ∀ c seed, ∃ found, Store.findBySeed? l c seed = .ok found

/-- Every reading fails. -/
structure Mute (l : σ) : Prop where
  get? : ∀ id, ∃ error, Store.get? l id = .error error
  query : ∀ c period, ∃ error, Store.query l c period = .error error
  entries : ∃ error, Store.entries l = .error error
  latest? : ∀ c, ∃ error, Store.latest? l c = .error error
  findBySeed? : ∀ c seed, ∃ error, Store.findBySeed? l c seed = .error error

/-- Every append fails. -/
def Full (l : σ) : Prop := ∀ record, ∃ error, (Store.append l record).1 = .error error

/-- A reading fails that a request relies on. -/
def Unread (l : σ) (error : LedgerError) : Prop :=
  (∃ c, Store.latest? l c = .error error) ∨ ∃ c seed, Store.findBySeed? l c seed = .error error

theorem Readable.not_unread {l : σ} (h : Readable l) {error : LedgerError} : ¬ Unread l error := by
  rintro (⟨c, he⟩ | ⟨c, seed, he⟩)
  · obtain ⟨found, hf⟩ := h.latest? c
    cases hf.symm.trans he
  · obtain ⟨found, hf⟩ := h.findBySeed? c seed
    cases hf.symm.trans he

theorem readable_of_index [IndexedStore σ] (l : σ) : Readable l where
  get? id := ⟨_, IndexedStore.get?_eq l id⟩
  query c p := ⟨_, IndexedStore.query_eq l c p⟩
  entries := ⟨_, IndexedStore.entries_eq l⟩
  latest? c := ⟨_, IndexedStore.latest?_eq l c⟩
  findBySeed? c seed := ⟨_, IndexedStore.findBySeed?_eq l c seed⟩

section

variable {query : CharacterId → Period → LedgerResult (List LedgerEntry)} {c : CharacterId}
  {found : LedgerResult (List LedgerEntry)}

theorem scanLatest_eq (h : query c .always = found) :
    scanLatest query c = List.getLast? <$> found := by
  unfold scanLatest
  rw [h]

theorem scanBySeed_eq (h : query c .always = found) (seed : UInt64) :
    scanBySeed query c seed =
      (fun es => es.reverse.find? (·.record.derivedSeed == seed)) <$> found := by
  unfold scanBySeed
  rw [h]

end

end Store

namespace PlainLedger

variable {l : PlainLedger} {error : LedgerError}

theorem full (h : l.onAppend = some error) : Store.Full l := by
  intro record
  refine ⟨error, ?_⟩
  change (l.append record).1 = _
  unfold append
  rw [h]

theorem mute (h : l.onRead = some error) : Store.Mute l := by
  have hfail {α : Type} (a : α) : orFail l.onRead a = .error error := by
    rw [h]
    rfl
  have hquery (c : CharacterId) (p : Period) : l.query c p = .error error := hfail _
  -- what scans fails with the query that it scans
  exact {
    get? _ := ⟨error, hfail _⟩
    query c p := ⟨error, hquery c p⟩
    entries := ⟨error, hfail _⟩
    latest? c := ⟨error, Store.scanLatest_eq (hquery c .always)⟩
    findBySeed? c seed := ⟨error, Store.scanBySeed_eq (hquery c .always) seed⟩ }

theorem readable (h : l.onRead = none) : Store.Readable l := by
  have hanswer {α : Type} (a : α) : orFail l.onRead a = .ok a := by
    rw [h]
    rfl
  have hquery (c : CharacterId) (p : Period) : l.query c p = .ok (l.inner.index.query c p) :=
    hanswer _
  exact {
    get? _ := ⟨_, hanswer _⟩
    query c p := ⟨_, hquery c p⟩
    entries := ⟨_, hanswer _⟩
    latest? c := ⟨_, Store.scanLatest_eq (hquery c .always)⟩
    findBySeed? c seed := ⟨_, Store.scanBySeed_eq (hquery c .always) seed⟩ }

end PlainLedger

/-- The error of a result that failed. -/
def failure? {ε α : Type} : Except ε α → Option ε
  | .error e => some e
  | .ok _ => none

theorem failure?_eq_some_iff {ε α : Type} {x : Except ε α} {e : ε} :
    failure? x = some e ↔ x = .error e := by
  cases x <;> simp [failure?]

/-! ### What is missing -/

/-- What may be missing for a request, in the order in which it is looked for. -/
def ActionRequest.causes (r : ActionRequest) : List EngineError :=
  [.characterNotFound r.character, .characterInactive r.character, .roomNotFound r.room,
    .unknownAction r.action]

namespace Engine

section

variable {σ : Type} {e : Engine σ} {r : ActionRequest}

/-- The engine lacks what an error says that it lacks. -/
def applies (e : Engine σ) : EngineError → Bool
  | .characterNotFound id => (e.registry.character? id).isNone
  | .characterInactive id => (e.registry.character? id).any (!·.active)
  | .roomNotFound id => (e.registry.room? id).isNone
  | .unknownAction id => (e.library.action? id).isNone
  | _ => false

/-- The first thing that is missing for a request. -/
def obstacle? (e : Engine σ) (r : ActionRequest) : Option EngineError := r.causes.find? e.applies

/-- Everything that a request needs is there. -/
structure CanServe (e : Engine σ) (r : ActionRequest) : Prop where
  character : ∃ c, e.registry.character? r.character = some c ∧ c.active = true
  room : ∃ room, e.registry.room? r.room = some room
  action : ∃ action, e.library.action? r.action = some action

theorem obstacle?_eq_none_iff : e.obstacle? r = none ↔ e.CanServe r := by
  unfold obstacle?
  rw [List.find?_eq_none]
  constructor
  · intro h
    simp only [ActionRequest.causes, applies, List.forall_mem_cons, Bool.not_eq_true,
      Option.isNone_eq_false_iff, Option.isSome_iff_exists, Option.any_eq_false,
      Bool.not_eq_eq_eq_not] at h
    obtain ⟨⟨c, hc⟩, ha, hroom, haction, -⟩ := h
    exact ⟨⟨c, hc, by simpa using ha c hc⟩, hroom, haction⟩
  · rintro ⟨⟨c, hc, ha⟩, ⟨room, hroom⟩, ⟨action, haction⟩⟩
    simp [ActionRequest.causes, applies, hc, ha, hroom, haction]

end

/-! ### Requests on their way -/

section

variable {σ : Type} [Store σ] {e : Engine σ} {r : ActionRequest} {now : Timestamp}

/-- Nothing is put together for a request that misses something. -/
theorem prepare_of_obstacle {c : Character} {error : EngineError}
    (hc : e.registry.character? r.character = some c) (h : e.obstacle? r = some error) :
    e.prepare r c now = .error error := by
  unfold prepare
  -- in the order in which the engine looks: the character is active, room and action are there
  by_cases ha : c.active = true
  · rw [if_neg (by simp [ha])]
    cases hroom : e.registry.room? r.room with
    | none =>
      have hfirst : e.obstacle? r = some (.roomNotFound r.room) := by
        simp [obstacle?, ActionRequest.causes, applies, hc, ha, hroom]
      cases hfirst.symm.trans h
      rfl
    | some room =>
      cases haction : e.library.action? r.action with
      | none =>
        have hfirst : e.obstacle? r = some (.unknownAction r.action) := by
          simp [obstacle?, ActionRequest.causes, applies, hc, ha, hroom, haction]
        cases hfirst.symm.trans h
        rfl
      | some action =>
        have hnone := obstacle?_eq_none_iff.2 ⟨⟨c, hc, ha⟩, ⟨room, hroom⟩, action, haction⟩
        cases hnone.symm.trans h
  · have hfirst : e.obstacle? r = some (.characterInactive r.character) := by
      simp [obstacle?, ActionRequest.causes, applies, hc, ha]
    cases hfirst.symm.trans h
    rw [if_pos (by simpa using ha), Registry.id_of_character? hc]
    rfl

/-- The request of somebody known: a record is put together and appended. -/
theorem resolve_fst {c : Character} (hc : e.registry.character? r.character = some c)
    (now : Timestamp) :
    (resolve r now e).1 = e.prepare r c now >>= fun record =>
      (Store.append e.ledger record).1.mapError .commit >>= fun id => .ok ⟨id, record⟩ := by
  -- the lock has no part in it
  let locked : Engine σ := { e with locks := (e.locks.forCharacter r.character).2 }
  have hlocked : locked.prepare r c now = e.prepare r c now := rfl
  unfold resolve
  rw [hc]
  simp only
  rw [hlocked]
  cases e.prepare r c now with
  | error error => rfl
  | ok record =>
    change _ = (Store.append e.ledger record).1.mapError EngineError.commit >>= _
    simp only
    generalize Store.append e.ledger record = done
    obtain ⟨result, ledger⟩ := done
    cases result <;> rfl

/-- A request is refused for the first thing that is missing, whatever the ledger is like. -/
theorem resolve_of_obstacle {error : EngineError} (h : e.obstacle? r = some error) :
    (resolve r now e).1 = .error error := by
  cases hc : e.registry.character? r.character with
  | none =>
    have hfirst : e.obstacle? r = some (.characterNotFound r.character) := by
      simp [obstacle?, ActionRequest.causes, applies, hc]
    cases hfirst.symm.trans h
    unfold resolve
    rw [hc]
  | some c =>
    rw [resolve_fst hc, prepare_of_obstacle hc h]
    rfl

theorem prepareWith_cases (r : ActionRequest) (c : Character) (room : Room) (action : Action)
    (now : Timestamp) (seed : String) :
    (∃ error, Store.Unread e.ledger error ∧
        e.prepareWith r c room action now seed = .error (.ledger error)) ∨
      (∃ c seed previous, Store.findBySeed? e.ledger c seed = .ok previous) ∧
        ∃ record, e.prepareWith r c room action now seed = .ok record := by
  unfold prepareWith
  simp only
  generalize e.recordOf (e.attemptOf r c room action seed now) = record
  cases hf : Store.findBySeed? e.ledger c.id record.derivedSeed with
  | error error => exact .inl ⟨error, .inr ⟨c.id, _, hf⟩, rfl⟩
  | ok previous => exact .inr ⟨⟨c.id, _, previous, hf⟩, _, rfl⟩

/-- Where nothing is missing, a record is put together unless the ledger does not answer. -/
theorem prepare_cases {c : Character} {room : Room} {action : Action} (ha : c.active = true)
    (hroom : e.registry.room? r.room = some room)
    (haction : e.library.action? r.action = some action) (now : Timestamp) :
    (∃ error, Store.Unread e.ledger error ∧ e.prepare r c now = .error (.ledger error)) ∨
      (∃ c seed previous, Store.findBySeed? e.ledger c seed = .ok previous) ∧
        ∃ record, e.prepare r c now = .ok record := by
  rw [prepare_eq ha hroom haction]
  cases r.seed with
  | some seed => exact prepareWith_cases r c room action now seed
  | none =>
    simp only [generatedSeed]
    cases hl : Store.latest? e.ledger c.id with
    | error error => exact .inl ⟨error, .inl ⟨c.id, hl⟩, rfl⟩
    | ok latest => exact prepareWith_cases r c room action now _

/-- A request that misses nothing is refused by its ledger, if at all. -/
theorem resolve_of_canServe (h : e.CanServe r) (now : Timestamp) :
    (∃ error, Store.Unread e.ledger error ∧ (resolve r now e).1 = .error (.ledger error)) ∨
      (∃ c seed previous, Store.findBySeed? e.ledger c seed = .ok previous) ∧
        ((∃ record error, (Store.append e.ledger record).1 = .error error ∧
            (resolve r now e).1 = .error (.commit error)) ∨
          ∃ record id, (Store.append e.ledger record).1 = .ok id ∧
            (resolve r now e).1 = .ok ⟨id, record⟩) := by
  obtain ⟨⟨c, hc, ha⟩, ⟨room, hroom⟩, action, haction⟩ := h
  rw [resolve_fst hc]
  rcases e.prepare_cases ha hroom haction now with ⟨error, hun, hp⟩ | ⟨hread, record, hp⟩
  · rw [hp]
    exact .inl ⟨error, hun, rfl⟩
  · rw [hp]
    refine .inr ⟨hread, ?_⟩
    change (∃ record' error, _ ∧ Except.mapError _ (Store.append e.ledger record).1 >>= _ = _) ∨
      ∃ record' id, _ ∧ Except.mapError _ (Store.append e.ledger record).1 >>= _ = _
    cases happend : (Store.append e.ledger record).1 with
    | error error => exact .inl ⟨record, error, happend, rfl⟩
    | ok id => exact .inr ⟨record, id, happend, rfl⟩

end

/-- Over a ledger with an index a request is resolved if nothing is missing, and otherwise refused
for the first thing that is. -/
theorem resolve_indexed {σ : Type} [Store σ] [IndexedStore σ] (e : Engine σ) (r : ActionRequest)
    (now : Timestamp) : ((∃ entry, (resolve r now e).1 = .ok entry) ↔ e.CanServe r) ∧
      ∀ error, (resolve r now e).1 = .error error ↔ e.obstacle? r = some error := by
  cases h : e.obstacle? r with
  | some error =>
    have hnot : ¬ e.CanServe r := by
      rw [← obstacle?_eq_none_iff, h]
      nofun
    simp [resolve_of_obstacle h, hnot]
  | none =>
    have hserve := obstacle?_eq_none_iff.1 h
    have hok : ∃ entry, (resolve r now e).1 = .ok entry := by
      rcases resolve_of_canServe hserve now with
        ⟨error, hun, -⟩ | ⟨-, ⟨record, error, ha, -⟩ | ⟨record, id, -, hr⟩⟩
      · cases (Store.readable_of_index e.ledger).not_unread hun
      · obtain ⟨ledger, hl, -⟩ := IndexedStore.append_eq e.ledger record
        rw [hl] at ha
        cases ha
      · exact ⟨_, hr⟩
    obtain ⟨entry, hentry⟩ := hok
    simp [hentry, hserve]

/-! ### Commands that fail -/

section

variable {σ : Type} [Store σ] {e : Engine σ}

/-- Why a command fails. -/
def refusal? (e : Engine σ) : Command → Option EngineError
  | .issue account sex seed now => failure? (issue account sex seed now e).1
  | .deactivate id => failure? (deactivate id e).1
  | .updateReputation id reputation => failure? (updateReputation id reputation e).1
  | .createItem itemType creator custom now =>
    (createItem itemType creator custom now e).bind (failure? ·.1)
  | .transferItem item recipient => failure? (transferItem item recipient e).1
  | .resolve request now => failure? (resolve request now e).1
  -- these never fail
  | .register _ | .registerRoom _ => none

omit [Store σ] in
theorem changeRegistry_of_failure {f : Registry → EngineResult Registry} {error : EngineError}
    (h : failure? (changeRegistry f e).1 = some error) : (changeRegistry f e).2 = e := by
  unfold changeRegistry at h ⊢
  split at h
  · cases h
  · rfl

/-- What a refused command may leave of a ledger: the ledger itself, unless it was an append that
failed. -/
def LeftBy (e : Engine σ) (error : EngineError) (ledger : σ) : Prop :=
  ledger = e.ledger ∨ ∃ record reason, error = .commit reason ∧
    Store.append e.ledger record = (.error reason, ledger)

/-- A command that fails uses up the number of an item, makes a lock or has the ledger fail, and
does nothing else. -/
theorem after_of_refused {k : Command} {error : EngineError} (h : e.refusal? k = some error) :
    ∃ lastItem ledger locks, e.LeftBy error ledger ∧
      e.after k = { e with registry := { e.registry with lastItem }, ledger, locks } := by
  have same : e.LeftBy error e.ledger := .inl rfl
  cases k with
  | issue account sex seed now =>
    refine ⟨e.registry.lastItem, e.ledger, e.locks, same, ?_⟩
    change failure? (issue account sex seed now e).1 = some error at h
    change (issue account sex seed now e).2 = e
    unfold issue at h ⊢
    split at h
    · rfl
    · cases h
  | register c => cases h
  | deactivate id =>
    exact ⟨e.registry.lastItem, e.ledger, e.locks, same, changeRegistry_of_failure h⟩
  | updateReputation id reputation =>
    exact ⟨e.registry.lastItem, e.ledger, e.locks, same, changeRegistry_of_failure h⟩
  | createItem itemType creator custom now =>
    change (createItem itemType creator custom now e).bind (failure? ·.1) = some error at h
    change ∃ lastItem ledger locks, _ ∧
      ((createItem itemType creator custom now e).map (·.2)).getD e = _
    unfold createItem Registry.nextItem? at h ⊢
    split at h
    · exact ⟨e.registry.lastItem, e.ledger, e.locks, same, rfl⟩
    · split_ifs at h with hlast
      · cases h
      · rw [if_neg hlast]
        simp only [Option.map_some, Option.bind_some, Option.getD_some] at h ⊢
        split at h
        · exact ⟨_, e.ledger, e.locks, same, rfl⟩
        · cases h
  | transferItem item recipient =>
    exact ⟨e.registry.lastItem, e.ledger, e.locks, same, changeRegistry_of_failure h⟩
  | registerRoom room => cases h
  | resolve r now =>
    have herror : (resolve r now e).1 = .error error := failure?_eq_some_iff.1 h
    obtain ⟨ledger, locks, hr⟩ := e.resolve_snd r now
    have hl := ledger_of_refused herror
    refine ⟨e.registry.lastItem, ledger, locks, ?_, hr⟩
    rw [hr] at hl
    exact hl

/-- Nothing that can be looked up in a registry differs. -/
structure LooksAlike (r r' : Registry) : Prop where
  character? : ∀ id, r'.character? id = r.character? id
  item? : ∀ id, r'.item? id = r.item? id
  holder? : ∀ id, r'.holder? id = r.holder? id
  room? : ∀ id, r'.room? id = r.room? id

theorem registry_of_refused {k : Command} {error : EngineError} (h : e.refusal? k = some error) :
    LooksAlike e.registry (e.after k).registry := by
  obtain ⟨lastItem, ledger, locks, -, hk⟩ := after_of_refused h
  rw [hk]
  exact ⟨fun _ => rfl, fun _ => rfl, fun _ => rfl, fun _ => rfl⟩

theorem ledger_after_refused [LawfulStore σ] {k : Command} {error : EngineError}
    (h : e.refusal? k = some error) : Store.SameAnswers e.ledger (e.after k).ledger := by
  obtain ⟨lastItem, ledger, locks, rfl | ⟨record, reason, -, happend⟩, hk⟩ := after_of_refused h
  · rw [hk]
    exact .refl _
  · rw [hk]
    exact LawfulStore.append_failed happend

/-- What becomes of requests that an engine refuses.  Verifying is no command, and touches nothing. -/
structure FailsCleanly (e : Engine σ) : Prop where
  /-- Whatever the ledger is like, what is missing is found first. -/
  obstructed : ∀ r now error, e.obstacle? r = some error → (resolve r now e).1 = .error error
  /-- A ledger that can be read but takes nothing in fails the commit. -/
  full : Store.Readable e.ledger → Store.Full e.ledger → ∀ r now, e.CanServe r →
    ∃ error, (resolve r now e).1 = .error error ∧ error.code = "LEDGER_COMMIT_FAILED"
  /-- A ledger that cannot be read fails the request. -/
  mute : Store.Mute e.ledger → ∀ r now, e.CanServe r →
    ∃ error, (resolve r now e).1 = .error error ∧ error.code = "LEDGER_ERROR"
  /-- A ledger that cannot be read fails the verification. -/
  unverified : Store.Mute e.ledger → ∀ id,
    ∃ error, e.verify id = .error error ∧ error.code = "LEDGER_ERROR"
  /-- A command that fails leaves no trace in the registry. -/
  traceless : ∀ k error, e.refusal? k = some error → LooksAlike e.registry (e.after k).registry
  /-- The ledger is the same one, unless it failed itself. -/
  untouched : ∀ k error, e.refusal? k = some error → (∀ reason, error ≠ .commit reason) →
    (e.after k).ledger = e.ledger
  /-- A ledger that keeps its word answers as before, also where it failed itself. -/
  kept : LawfulStore σ → ∀ k error, e.refusal? k = some error →
    Store.SameAnswers e.ledger (e.after k).ledger

theorem failsCleanly (e : Engine σ) : e.FailsCleanly where
  obstructed r now error h := resolve_of_obstacle h
  full hread hfull r now h := by
    rcases resolve_of_canServe h now with
      ⟨error, hun, -⟩ | ⟨-, ⟨record, error, -, hr⟩ | ⟨record, id, ha, -⟩⟩
    · cases hread.not_unread hun
    · exact ⟨_, hr, rfl⟩
    · obtain ⟨error, hf⟩ := hfull record
      cases hf.symm.trans ha
  mute hmute r now h := by
    rcases resolve_of_canServe h now with ⟨error, -, hr⟩ | ⟨⟨c, seed, previous, hf⟩, -⟩
    · exact ⟨_, hr, rfl⟩
    · obtain ⟨error, he⟩ := hmute.findBySeed? c seed
      cases he.symm.trans hf
  unverified hmute id := by
    obtain ⟨error, he⟩ := hmute.get? id
    refine ⟨.ledger error, ?_, rfl⟩
    unfold verify
    rw [he]
    rfl
  traceless k error h := registry_of_refused h
  untouched k error h hne := by
    obtain ⟨lastItem, ledger, locks, rfl | ⟨record, reason, hcommit, -⟩, hk⟩ := after_of_refused h
    · rw [hk]
    · cases hne reason hcommit
  kept _ k error h := ledger_after_refused h

end

/-- **Requests succeed exactly when they should, and those that fail leave no trace.** -/
theorem serves_or_refuses :
    (∀ (e : Engine MemoryLedger) (r : ActionRequest) (now : Timestamp),
      ((∃ entry, (resolve r now e).1 = .ok entry) ↔ e.CanServe r) ∧
        ∀ error, (resolve r now e).1 = .error error ↔ e.obstacle? r = some error) ∧
    (∀ r : ActionRequest, r.causes.map (·.code) =
      ["CHARACTER_NOT_FOUND", "CHARACTER_INACTIVE", "ROOM_NOT_FOUND", "INVALID_ACTION_TYPE"]) ∧
    (∀ {σ : Type} [Store σ] (e : Engine σ), e.FailsCleanly) ∧
    LawfulStore MemoryLedger ∧ LawfulStore PlainLedger ∧
    ∀ f : LineFormat, LawfulStore (LineLedger f) ∧ LawfulStore (DiskLedger f) :=
  ⟨resolve_indexed, fun _ => rfl, failsCleanly, inferInstance, inferInstance,
    fun _ => ⟨inferInstance, inferInstance⟩⟩

end Engine

/-! ### A catch that cannot be written down -/

namespace Fishing

/-- The engine at the pond, with a ledger that fails as it is told to. -/
def failing (onAppend onRead : Option LedgerError) : Engine PlainLedger :=
  (Engine.start library ⟨.empty, onAppend, onRead⟩ default).run before

/-- The engine at the pond, with a file on a disk that is full behind ten bytes. -/
def soaked : Engine (DiskLedger jsonLines) :=
  (Engine.start library ⟨⟨[], ∅⟩, 0, [.torn 10 true "no space left on device"]⟩ default).run before

theorem refused : (∃ error, (Engine.resolve request .epoch (failing (some .lockPoisoned) none)).1 =
      .error error ∧ error.code = "LEDGER_COMMIT_FAILED") ∧
    (∃ error, (Engine.resolve request .epoch (failing none (some .lockPoisoned))).1 =
      .error error ∧ error.code = "LEDGER_ERROR") ∧
    soaked.refusal? (.resolve request .epoch) =
      some (.commit (.persistence "no space left on device")) ∧
    Store.SameAnswers soaked.ledger (soaked.after (.resolve request .epoch)).ledger := by
  have hserve (onAppend onRead : Option LedgerError) :
      (failing onAppend onRead).CanServe request :=
    ⟨⟨angler ⟨1⟩, rfl, rfl⟩, ⟨_, rfl⟩, ⟨_, rfl⟩⟩
  have hdisk : soaked.refusal? (.resolve request .epoch) =
      some (.commit (.persistence "no space left on device")) := rfl
  obtain ⟨-, -, hclean, -⟩ := Engine.serves_or_refuses
  exact ⟨(hclean _).full (PlainLedger.readable rfl) (PlainLedger.full rfl) _ _ (hserve _ _),
    (hclean _).mute (PlainLedger.mute rfl) _ _ (hserve _ _), hdisk,
    (hclean soaked).kept inferInstance _ _ hdisk⟩

end Fishing

end Reckoning
