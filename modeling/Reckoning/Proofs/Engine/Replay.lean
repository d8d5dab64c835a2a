import Reckoning.Proofs.Attempt.Participation
import Reckoning.Proofs.Engine.Issued
import Reckoning.Proofs.Engine.Memory

/-!
# Replays

An entry is verified by resolving its attempt again.  The attempt is a function of what the entry
records, of the library, of what its character was issued with, and of the room and the items at
hand; so the replay agrees whenever the last two are as they were.

* `Attempt.record_madeBy`: a record does not depend on the reputation of a character, nor on
  whether it is active.
* `Engine.recordOf_replayOf`: the replay of a request comes to the record of the request.
* `Engine.verify_of_resolved` is the soundness of replays.
-/

namespace Reckoning

/-! ### What a record depends on -/

namespace Attempt

/-- The attempt, made by another character. -/
def madeBy (a : Attempt) (c : Character) : Attempt := { a with character := c }

section

variable {library : Library} {a : Attempt} {c : Character}

variable (h : c.SameIssue a.character)

include h

theorem quirks_madeBy : (a.madeBy c).quirks library = a.quirks library := by
  have hs : c.quirks = a.character.quirks := h.field Sheet.quirks fun _ _ => rfl
  change c.quirks.filterMap library.quirk? = _
  rw [hs]
  rfl

theorem failings_madeBy : (a.madeBy c).failings library = a.failings library := by
  have hs : c.failings = a.character.failings := h.field Sheet.failings fun _ _ => rfl
  change c.failings.filterMap library.failing? = _
  rw [hs]
  rfl

theorem uselessBits_madeBy : (a.madeBy c).uselessBits library = a.uselessBits library := by
  have hs : c.uselessBits = a.character.uselessBits := h.field Sheet.uselessBits fun _ _ => rfl
  change c.uselessBits.filterMap library.uselessBit? = _
  rw [hs]
  rfl

theorem traits_madeBy : (a.madeBy c).traits library = a.traits library := by
  unfold traits
  rw [quirks_madeBy h, failings_madeBy h, uselessBits_madeBy h]

theorem contributions_madeBy : (a.madeBy c).contributions library = a.contributions library := by
  unfold contributions
  rw [addPairings_congr (quirks_madeBy h)]
  unfold gathered
  rw [traits_madeBy h]
  rfl

theorem derivedSeed_madeBy : (a.madeBy c).derivedSeed = a.derivedSeed := by
  have hs : c.id = a.character.id := h.field Sheet.id fun _ _ => rfl
  change resolutionSeed c.id _ _ _ _ = _
  rw [hs]
  rfl

theorem judged_madeBy : (a.madeBy c).judged library = a.judged library := by
  unfold judged luck
  rw [contributions_madeBy h, derivedSeed_madeBy h]
  rfl

theorem outcome_madeBy : (a.madeBy c).outcome library = a.outcome library := by
  unfold outcome
  rw [judged_madeBy h]
  rfl

theorem late_madeBy : (a.madeBy c).late library = a.late library := by
  unfold late
  rw [traits_madeBy h, outcome_madeBy h]
  rfl

theorem participants_madeBy : (a.madeBy c).participants library = a.participants library := by
  unfold participants
  rw [contributions_madeBy h, late_madeBy h]

theorem degradations_madeBy : (a.madeBy c).degradations library = a.degradations library := by
  have hs : (a.madeBy c).character.attributes = a.character.attributes :=
    h.field Sheet.attributes fun _ _ => rfl
  unfold degradations
  rw [participants_madeBy h, outcome_madeBy h, failings_madeBy h, hs]

theorem axes_madeBy : (a.madeBy c).axes library = a.axes library := by
  unfold axes
  rw [late_madeBy h, judged_madeBy h, degradations_madeBy h]

theorem factors_madeBy : (a.madeBy c).factors library = a.factors library := by
  unfold factors
  rw [participants_madeBy h]

theorem blame_madeBy : (a.madeBy c).blame library = a.blame library := by
  unfold blame
  rw [factors_madeBy h]

theorem interpretation_madeBy (threshold : Float) :
    (a.madeBy c).interpretation library threshold = a.interpretation library threshold := by
  unfold interpretation isReinterpreted
  rw [blame_madeBy h, outcome_madeBy h, quirks_madeBy h, participants_madeBy h]

/-- **A record depends on no more of a character than was issued.** -/
theorem record_madeBy (library : Library) (threshold : Float) :
    (a.madeBy c).record library threshold = a.record library threshold := by
  have hs : (a.madeBy c).character.id = a.character.id := h.field Sheet.id fun _ _ => rfl
  unfold record
  rw [axes_madeBy h, outcome_madeBy h, factors_madeBy h, interpretation_madeBy h, blame_madeBy h,
    derivedSeed_madeBy h, hs]
  rfl

end

end Attempt

/-- A record describes the same resolution when only its link differs. -/
theorem ActionRecord.sameResolution_link (r : ActionRecord) (link : Option LedgerId) :
    r.sameResolution { r with supersedes := link } = true := by
  simp [sameResolution]

namespace Engine

section

variable {σ : Type} [Store σ] {e e' : Engine σ}

/-- The attempt of a record once more, with what the engine knows. -/
def replayOf (e : Engine σ) (record : ActionRecord) (c : Character) (room : Room)
    (action : Action) : Attempt where
  character := c
  action := action
  room := room
  requested := record.itemsUsed
  possessed := e.registry.possessedBy c.id record.itemsUsed
  rushed := record.rushed
  seed := record.seed
  timestamp := record.timestamp

/-- Where nothing is missing, verification compares the record with that of its replay. -/
theorem verify_eq {id : LedgerId} {entry : LedgerEntry} {c : Character} {room : Room}
    {action : Action} (hget : Store.get? e.ledger id = .ok (some entry))
    (hc : e.registry.character? entry.record.character = some c)
    (hroom : e.registry.room? entry.record.room = some room)
    (haction : e.library.action? entry.record.action = some action) :
    e.verify id =
      .ok ((e.recordOf (e.replayOf entry.record c room action)).sameResolution entry.record) := by
  unfold verify
  rw [hget]
  simp only [Except.mapError, bind, Except.bind, hc, hroom, haction]
  rfl

/-- With the same rules, and with the room and the items as they were, the replay of a request
that was resolved comes to the same record. -/
theorem recordOf_replayOf {r : ActionRequest} {now : Timestamp} {entry : LedgerEntry}
    {c c' : Character} {room : Room} {action : Action} {seed : String}
    {previous : Option LedgerEntry} (hr : e.Resolved r now entry c room action seed previous)
    (hlibrary : e'.library = e.library) (hconfig : e'.config = e.config)
    (hissue : c'.SameIssue c)
    (hitems : e'.registry.possessedBy entry.record.character entry.record.itemsUsed =
      e.registry.possessedBy entry.record.character entry.record.itemsUsed) :
    e'.recordOf (e'.replayOf entry.record c' room action) =
      e.recordOf (e.attemptOf r c room action seed now) := by
  have hid : c'.id = c.id := hissue.field Sheet.id fun _ _ => rfl
  -- the record keeps every input of the attempt but the items at hand
  have hreplay : e'.replayOf entry.record c' room action =
      (e.attemptOf r c room action seed now).madeBy c' := by
    unfold replayOf
    rw [hid]
    rw [hr.record] at hitems ⊢
    exact congrArg (fun items => Attempt.mk c' action room r.items items r.rushed seed now) hitems
  unfold recordOf
  rw [hlibrary, hconfig, hreplay]
  exact Attempt.record_madeBy (a := e.attemptOf r c room action seed now) hissue _ _

/-- An entry that an engine resolved is verified by every engine with the same rules that still
has the entry and its character, and the room and the items as they were. -/
theorem verify_of_agree {r : ActionRequest} {now : Timestamp} {entry : LedgerEntry}
    (h : (resolve r now e).1 = .ok entry) (hlibrary : e'.library = e.library)
    (hconfig : e'.config = e.config) (hkeeps : e.registry.Keeps e'.registry)
    (hget : Store.get? e'.ledger entry.id = .ok (some entry))
    (hroom : e'.registry.room? entry.record.room = e.registry.room? entry.record.room)
    (hitems : e'.registry.possessedBy entry.record.character entry.record.itemsUsed =
      e.registry.possessedBy entry.record.character entry.record.itemsUsed) :
    e'.verify entry.id = .ok true := by
  obtain ⟨c, room, action, seed, previous, hr⟩ := exists_resolved h
  -- the character may have a new reputation or be retired by now
  obtain ⟨c', hc', hissue⟩ := hkeeps _ c hr.known
  rw [← hr.character_eq] at hc'
  have hroom' : e'.registry.room? entry.record.room = some room := by
    rw [hroom, hr.room_eq]
    exact hr.placed
  have haction' : e'.library.action? entry.record.action = some action := by
    rw [hlibrary, hr.action_eq]
    exact hr.defined
  rw [verify_eq hget hc' hroom' haction', recordOf_replayOf hr hlibrary hconfig hissue hitems,
    hr.record]
  exact congrArg Except.ok (ActionRecord.sameResolution_link _ _)

end

/-- **Replays are sound.**  Whatever commands a run goes through, an entry that it committed is
verified at every later point at which the room and the items at hand are as they were. -/
theorem verify_of_resolved (library : Library) (config : Config) (rs : List ActionRecord)
    (ks ls : List Command) (r : ActionRequest) (now : Timestamp) (entry : LedgerEntry)
    {e e' : Engine MemoryLedger} (he : e = (overRecords library config rs).run ks)
    (he' : e' = (overRecords library config rs).run (ks ++ .resolve r now :: ls))
    (h : (resolve r now e).1 = .ok entry)
    (hroom : e'.registry.room? entry.record.room = e.registry.room? entry.record.room)
    (hitems : e'.registry.possessedBy entry.record.character entry.record.itemsUsed =
      e.registry.possessedBy entry.record.character entry.record.itemsUsed) :
    e'.verify entry.id = .ok true := by
  have hrun : e' = e.run (.resolve r now :: ls) := by rw [he', run_append, he]
  have hwell : e.ledger.index.WellFormed := by
    rw [he]
    exact (index_run (MemoryLedger.wellFormed_holding rs) ks).1
  have hget : e'.ledger.index.get? entry.id = some entry := by
    rw [hrun]
    exact get?_of_committed hwell (committed?_resolve.2 h) ls
  refine verify_of_agree h ?_ ?_ ?_ (congrArg Except.ok hget) hroom hitems
  · rw [hrun, library_run]
  · rw [hrun, config_run]
  · rw [hrun]
    exact keeps_run _

end Engine

/-! ### A rod that is handed away and back -/

namespace Fishing

/-- A library with one action. -/
def library : Library :=
  { Library.empty with actions := [⟨"fish", 2, 0, 0, false, ["rod"], ∅, ""⟩] }

/-- Somebody with an id. -/
def angler (id : CharacterId) : Character where
  id := id
  account := ""
  sex := .unspecified
  attributes := ⟨[4, 4, 6, 5, 7, 5, 3], rfl, by decide⟩
  quirks := ["calm", "curious"]
  failings := []
  uselessBits := ["whistler"]
  reputation := ⟨0, ""⟩
  issuedSeed := ""
  createdAt := .epoch
  active := true
  sound := rfl

/-- Two anglers, a pond, and a rod of the first. -/
def before : List Command :=
  [.register (angler ⟨1⟩), .register (angler ⟨2⟩), .registerRoom ⟨"pond", "meadow", [], false⟩,
    .createItem "rod" ⟨1⟩ [] .epoch]

/-- The first one fishes with the rod. -/
def request : ActionRequest := ⟨⟨1⟩, "fish", "pond", [⟨1⟩], some "dawn", false⟩

/-- The rod goes to the second one and comes back; the first one retires. -/
def afterwards : List Command :=
  [.transferItem ⟨1⟩ ⟨2⟩, .updateReputation ⟨1⟩ ⟨-3, "loses rods"⟩, .transferItem ⟨1⟩ ⟨1⟩,
    .deactivate ⟨1⟩]

/-- The engine that the first one fishes with. -/
def engine : Engine MemoryLedger := (Engine.overRecords library default []).run before

theorem verified : ∃ entry, (Engine.resolve request .epoch engine).1 = .ok entry ∧
    (engine.run (.resolve request .epoch :: afterwards)).verify entry.id = .ok true := by
  have hok : (Engine.resolve request .epoch engine).1.isOk = true := by decide +kernel
  cases h : (Engine.resolve request .epoch engine).1 with
  | error error => rw [h] at hok; cases hok
  | ok entry =>
    obtain ⟨c, room, action, seed, previous, hr⟩ := Engine.exists_resolved h
    refine ⟨entry, rfl, Engine.verify_of_resolved library default [] before afterwards request
      .epoch entry rfl rfl h ?_ ?_⟩
    · rw [hr.room_eq]
      decide +kernel
    · rw [hr.character_eq, hr.itemsUsed_eq]
      decide +kernel

end Fishing

end Reckoning
