import Mathlib.Data.Set.Function
import Reckoning.Proofs.Engine.History
import Reckoning.Proofs.Engine.Replay
import Reckoning.Proofs.Seed

/-!
# Retries

An entry is linked to an earlier one by the seed that their luck is drawn from.  The seed is the
digest of an errand: character, action, room, items and the seed of the request.  Haste is part of
the request and of its record, but not of the errand, so a link can tell errands apart and
nothing else.

* `Errand.eq_of_digested_eq`: the digested bytes tell the errand, if its texts are not too long.
  `Errand.KeptApart` is what has to be assumed of the digest for some errands.
* `Engine.sameLuck_iff`: entries of a run are of one luck just when they are of one errand.
* `Engine.linksKeep_iff`: the links of a run keep what the errands of the run determine, and
  nothing else.
* `Engine.tracksErrands_start` collects what the links of a run tell.
-/

namespace Reckoning

/-! ### Errands -/

/-- What a character is sent to do, and the seed that it is sent with. -/
@[ext]
structure Errand where
  character : CharacterId
  action : DefId
  room : RoomId
  items : List ItemId
  seed : String
deriving DecidableEq, Repr

/-- The word that bytes are digested to. -/
def truncatedDigest (bytes : List UInt8) : UInt64 := wordOfBytes ((Digest.sha256 bytes).take 8)

namespace Errand

/-- The bytes that are digested for an errand. -/
def digested (e : Errand) : List UInt8 :=
  preimage "resolve" (resolutionParts e.character e.action e.room e.items e.seed)

/-- The lengths of the texts can be written in eight bytes. -/
def Fits (e : Errand) : Prop :=
  ∀ text ∈ [e.action.text, e.room.text, e.seed], (SeedPart.text text).Fits

instance (e : Errand) : Decidable e.Fits :=
  inferInstanceAs (Decidable (∀ text ∈ [e.action.text, e.room.text, e.seed],
    (SeedPart.text text).Fits))

/-- The digested bytes tell the errand. -/
theorem eq_of_digested_eq {e f : Errand} (he : e.Fits) (hf : f.Fits)
    (h : e.digested = f.digested) : e = f := by
  have hbytes := ((preimage_eq_iff (fits_of_mem_resolutionParts he)
    (fits_of_mem_resolutionParts hf)).1 h).2
  obtain ⟨hcharacter, haction, hroom, hitems, hseed⟩ := resolutionParts_inj hbytes
  exact Errand.ext hcharacter haction hroom hitems hseed

/-- The digest keeps some errands apart: no two of them collide. -/
structure KeptApart (es : List Errand) : Prop where
  fits : ∀ e ∈ es, e.Fits
  noCollision : Set.InjOn truncatedDigest {bytes | ∃ e ∈ es, e.digested = bytes}

theorem keptApart_iff {es : List Errand} : KeptApart es ↔ (∀ e ∈ es, e.Fits) ∧
    ∀ e ∈ es, ∀ f ∈ es, e ≠ f → truncatedDigest e.digested ≠ truncatedDigest f.digested := by
  constructor
  · rintro ⟨hfits, hinj⟩
    refine ⟨hfits, fun e he f hf hne hef => hne ?_⟩
    exact eq_of_digested_eq (hfits e he) (hfits f hf) (hinj ⟨e, he, rfl⟩ ⟨f, hf, rfl⟩ hef)
  · rintro ⟨hfits, hne⟩
    refine ⟨hfits, ?_⟩
    rintro _ ⟨e, he, rfl⟩ _ ⟨f, hf, rfl⟩ hef
    rw [not_imp_not.1 (hne e he f hf) hef]

instance (es : List Errand) : Decidable (KeptApart es) :=
  decidable_of_iff _ keptApart_iff.symm

end Errand

/-- The errand that a record is about. -/
def ActionRecord.errand (r : ActionRecord) : Errand :=
  ⟨r.character, r.action, r.room, r.itemsUsed, r.seed⟩

/-- All that was asked for: the errand, and whether to hurry. -/
def ActionRecord.asked (r : ActionRecord) : Errand × Bool := (r.errand, r.rushed)

/-- The errand of a request, with a seed that is made up where it has none. -/
def ActionRequest.errand (r : ActionRequest) (made : String) : Errand :=
  ⟨r.character, r.action, r.room, r.items, r.seed.getD made⟩

namespace Engine

/-! ### Entries of a run -/

section

variable {σ : Type} [Store σ] {e : Engine σ}

/-- The record says what was asked for. -/
theorem Resolved.asked_eq {r : ActionRequest} {now : Timestamp} {entry : LedgerEntry}
    {c : Character} {room : Room} {action : Action} {seed : String}
    {previous : Option LedgerEntry} (h : e.Resolved r now entry c room action seed previous) :
    entry.record.asked = (r.errand seed, r.rushed) := by
  have hseed : entry.record.seed = r.seed.getD seed := by
    rw [h.record]
    rcases h.seeded with hs | ⟨hs, -⟩ <;> rw [hs] <;> rfl
  have hrushed : entry.record.rushed = r.rushed := by
    rw [h.record]
    rfl
  simp only [ActionRecord.asked, ActionRecord.errand, ActionRequest.errand, h.character_eq,
    h.action_eq, h.room_eq, h.itemsUsed_eq, hseed, hrushed]

/-- Luck is drawn from the digest of the errand. -/
theorem derivedSeed_of_mem_commits {ks : List Command} {y : LedgerEntry} (h : y ∈ e.commits ks) :
    y.record.derivedSeed = truncatedDigest y.record.errand.digested := by
  obtain ⟨ls, r, now, ms, -, hr⟩ := exists_of_mem_commits h
  obtain ⟨c, room, action, seed, previous, hres⟩ := exists_resolved hr
  rw [hres.record]
  rfl

end

variable {e : Engine MemoryLedger} {ks : List Command}

theorem character_of_mem_commits {y : LedgerEntry} (h : y ∈ e.commits ks) :
    y.id.character = y.record.character := by
  obtain ⟨ls, r, now, ms, -, hr⟩ := exists_of_mem_commits h
  rw [(index_of_committed (committed?_resolve.2 hr)).1]
  rfl

/-- The errands of a run are kept apart by the digest. -/
def KeepsApart (e : Engine MemoryLedger) (ks : List Command) : Prop :=
  Errand.KeptApart ((e.commits ks).map (·.record.errand))

instance (e : Engine MemoryLedger) (ks : List Command) : Decidable (e.KeepsApart ks) :=
  inferInstanceAs (Decidable (Errand.KeptApart ((e.commits ks).map (·.record.errand))))

/-- **Entries drew their luck from one seed just when they are of one errand.** -/
theorem sameLuck_iff (h : e.KeepsApart ks) {x y : LedgerEntry} (hx : x ∈ e.commits ks)
    (hy : y ∈ e.commits ks) : SameLuck x y ↔ x.record.errand = y.record.errand := by
  unfold SameLuck
  rw [character_of_mem_commits hx, character_of_mem_commits hy, derivedSeed_of_mem_commits hx,
    derivedSeed_of_mem_commits hy]
  constructor
  · rintro ⟨-, hdigest⟩
    have hne := (Errand.keptApart_iff.1 h).2 _ (List.mem_map_of_mem hx) _ (List.mem_map_of_mem hy)
    exact not_imp_not.1 hne hdigest
  · intro herrand
    exact ⟨congrArg Errand.character herrand, by rw [herrand]⟩

/-! ### Links -/

/-- The links of a run lead to entries that agree in something. -/
def LinksKeep {α : Type} (e : Engine MemoryLedger) (ks : List Command) (f : ActionRecord → α) :
    Prop :=
  ∀ y ∈ e.commits ks, ∀ id, y.record.supersedes = some id →
    ∃ x ∈ e.commits ks, Store.get? (e.run ks).ledger id = .ok (some x) ∧ f x.record = f y.record

/-- What every link keeps is kept on the way from an entry to any earlier one of its errand. -/
theorem eq_of_linksKeep {α : Type} {f : ActionRecord → α} (hc : Chronicle e.ledger.index [])
    (hf : e.LinksKeep ks f) {x y : LedgerEntry}
    (h : Relation.TransGen (Retries (e.commits ks)) y x) : f x.record = f y.record := by
  have hlink : ∀ y x, Retries (e.commits ks) y x → f x.record = f y.record := by
    rintro y x ⟨hy, hx, hs⟩
    obtain ⟨x', -, hget, hkeep⟩ := hf y hy x.id hs
    -- the ledger knows one entry of that name
    have hget' := (chronicle_run hc ks).get?_of_mem hx
    rw [Option.some.inj (hget'.symm.trans (Except.ok.inj hget)), hkeep]
  induction h with
  | single hr => exact hlink _ _ hr
  | tail _ hr ih => exact (hlink _ _ hr).trans ih

/-- **The links of a run keep what its errands determine, and nothing else.** -/
theorem linksKeep_iff {α : Type} (f : ActionRecord → α) (hc : Chronicle e.ledger.index [])
    (h : e.KeepsApart ks) : e.LinksKeep ks f ↔ ∀ x ∈ e.commits ks, ∀ y ∈ e.commits ks,
      x.record.errand = y.record.errand → f x.record = f y.record := by
  have hchronicle := chronicle_run hc ks
  constructor
  · intro hf x hx y hy herrand
    have hxy := (sameLuck_iff h hx hy).2 herrand
    have hyx := (sameLuck_iff h hy hx).2 herrand.symm
    -- the links lead from the later of the two to the earlier one
    rcases Nat.lt_trichotomy x.id.seq y.id.seq with hlt | heq | hlt
    · exact eq_of_linksKeep hc hf (hchronicle.transGen_iff.2 ⟨hy, hx, hxy, hlt⟩)
    · rw [hchronicle.eq_of_seq_eq hx hy hxy.1 heq]
    · exact (eq_of_linksKeep hc hf (hchronicle.transGen_iff.2 ⟨hx, hy, hyx, hlt⟩)).symm
  · intro hf y hy id hs
    obtain ⟨x, hx, rfl, hxy, -⟩ := hchronicle.latest_of_supersedes hy hs
    exact ⟨x, hx, congrArg Except.ok (hchronicle.get?_of_mem hx),
      hf x hx y hy ((sameLuck_iff h hx hy).1 hxy)⟩

/-- An entry is linked to the last one before it that is of its errand. -/
theorem supersedes_eq (hc : Chronicle e.ledger.index []) (h : e.KeepsApart ks)
    {ls ms : List Command} {r : ActionRequest} {now : Timestamp}
    (hks : ks = ls ++ .resolve r now :: ms) {y : LedgerEntry}
    (hr : (resolve r now (e.run ls)).1 = .ok y) :
    y.record.supersedes =
      (((e.commits ls).filter (·.record.errand = y.record.errand)).getLast?).map (·.id) := by
  have hcommits := commits_of_resolved hr ms
  rw [← hks] at hcommits
  have hy : y ∈ e.commits ks := by simp [hcommits]
  obtain ⟨-, hs, -⟩ := index_of_committed (committed?_resolve.2 hr)
  rw [hs, (chronicle_run hc ls).findBySeed?_eq_getLast?]
  congr 2
  refine List.filter_congr fun x hx => decide_eq_decide.2 ?_
  have hx' : x ∈ e.commits ks := by simp [hcommits, hx]
  rw [← character_of_mem_commits hy]
  exact sameLuck_iff h hx' hy

/-! ### What the links of a run tell -/

/-- The links of a run tell which entries are of one errand. -/
structure TracksErrands (e : Engine MemoryLedger) (ks : List Command) : Prop where
  /-- An entry says what it was committed for. -/
  answers : ∀ ls r now ms, ks = ls ++ .resolve r now :: ms → ∀ y,
    (resolve r now (e.run ls)).1 = .ok y →
      ∃ made, (r.seed = none → (e.run ls).generatedSeed r.character = .ok made) ∧
        y.record.asked = (r.errand made, r.rushed)
  /-- An entry is linked to the last one before it that is of its errand. -/
  latest : ∀ ls r now ms, ks = ls ++ .resolve r now :: ms → ∀ y,
    (resolve r now (e.run ls)).1 = .ok y → y.record.supersedes =
      (((e.commits ls).filter (·.record.errand = y.record.errand)).getLast?).map (·.id)
  /-- A link leads to an entry for the same character, action, room, items and seed. -/
  errand : e.LinksKeep ks ActionRecord.errand
  /-- Links lead to entries for the same request as long as no errand is repeated in another
  haste. -/
  asked_iff : e.LinksKeep ks ActionRecord.asked ↔ ∀ x ∈ e.commits ks, ∀ y ∈ e.commits ks,
    x.record.errand = y.record.errand → x.record.rushed = y.record.rushed

theorem tracksErrands_of_chronicle (hc : Chronicle e.ledger.index []) (h : e.KeepsApart ks) :
    e.TracksErrands ks where
  answers ls r now ms _ y hr := by
    obtain ⟨c, room, action, seed, previous, hres⟩ := exists_resolved hr
    refine ⟨seed, fun hnone => ?_, hres.asked_eq⟩
    rw [← Registry.id_of_character? hres.known]
    rcases hres.seeded with hs | ⟨-, hs⟩
    · rw [hnone] at hs
      cases hs
    · exact hs
  latest ls r now ms hks y hr := supersedes_eq hc h hks hr
  errand := (linksKeep_iff _ hc h).2 fun _ _ _ _ herrand => herrand
  asked_iff := by
    rw [linksKeep_iff _ hc h]
    refine forall₂_congr fun x _ => forall₂_congr fun y _ => forall_congr' fun herrand => ?_
    unfold ActionRecord.asked
    rw [herrand, Prod.mk.injEq, eq_self_iff_true, true_and]

/-- **The links of every run over an empty ledger track errands**, if the digest keeps those of
the run apart. -/
theorem tracksErrands_start (library : Library) (config : Config) (ks : List Command)
    (h : (start library MemoryLedger.empty config).KeepsApart ks) :
    (start library MemoryLedger.empty config).TracksErrands ks :=
  tracksErrands_of_chronicle Chronicle.empty h

end Engine

/-! ### Another cast -/

namespace Fishing

/-- The first one goes fishing. -/
def outing (seed : String) : Errand := ⟨⟨1⟩, "fish", "pond", [⟨1⟩], seed⟩

/-- The first one fishes at dawn, at dusk, and at dawn once more. -/
def day : List Command :=
  before ++ [.resolve request .epoch, .resolve { request with seed := some "dusk" } .epoch,
    .resolve request .epoch]

theorem day_keeps_asked :
    (Engine.start library MemoryLedger.empty default).KeepsApart day ∧
      (Engine.start library MemoryLedger.empty default).LinksKeep day ActionRecord.asked := by
  have herrands : ((Engine.start library MemoryLedger.empty default).commits day).map
      (·.record.errand) = [outing "dawn", outing "dusk", outing "dawn"] := by decide +kernel
  have hdigest : truncatedDigest (outing "dawn").digested ≠
      truncatedDigest (outing "dusk").digested := by decide +kernel
  have hapart : (Engine.start library MemoryLedger.empty default).KeepsApart day := by
    unfold Engine.KeepsApart
    rw [herrands, Errand.keptApart_iff]
    refine ⟨by decide +kernel, ?_⟩
    simp [hdigest, hdigest.symm]
  refine ⟨hapart, (Engine.tracksErrands_start library default day hapart).asked_iff.2 ?_⟩
  have hcalm : ∀ x ∈ (Engine.start library MemoryLedger.empty default).commits day,
      x.record.rushed = false := by decide +kernel
  intro x hx y hy _
  rw [hcalm x hx, hcalm y hy]

/-- The first one fishes at dawn, and at dawn once more in a hurry. -/
def morning : List Command :=
  before ++ [.resolve request .epoch, .resolve { request with rushed := true } .epoch]

/-- A hurried cast is linked to a calm one. -/
theorem not_linksKeep_asked : ¬ ∀ (library : Library) (config : Config) (ks : List Command),
    (Engine.start library MemoryLedger.empty config).KeepsApart ks →
      (Engine.start library MemoryLedger.empty config).LinksKeep ks ActionRecord.asked := by
  intro h
  have hapart : (Engine.start library MemoryLedger.empty default).KeepsApart morning := by
    decide +kernel
  have hhaste : ∃ x ∈ (Engine.start library MemoryLedger.empty default).commits morning,
      ∃ y ∈ (Engine.start library MemoryLedger.empty default).commits morning,
        x.record.errand = y.record.errand ∧ x.record.asked ≠ y.record.asked := by decide +kernel
  obtain ⟨x, hx, y, hy, herrand, hne⟩ := hhaste
  exact hne ((Engine.linksKeep_iff _ Chronicle.empty hapart).1 (h library default morning hapart)
    x hx y hy herrand)

end Fishing

end Reckoning
