import Reckoning.Proofs.Engine.Replay
import Reckoning.Proofs.Identity
import Reckoning.Proofs.Ledger.Histories

/-!
# Seeds that are made up

Where a request has no seed, the engine makes one up from the latest entry of the character, before
the ledger has given the new entry its id.  Both come to the same place, so the seed names the very
entry that it is for, and no seed is made up twice over one ledger.

* `Engine.generatedSeed_eq`: a seed that is made up names the next place of its character.
* `Engine.grows_after` and `Engine.grows_run`: what a command and a run commit.
* `Engine.madeUp` are the entries of a run whose seeds were made up, and `Session.madeUp` those of
  sessions that follow each other over one ledger.
* `Session.SeedsNamePlaces` is what such seeds say, and `Session.seedsNamePlaces` that they do over
  every store that finds the latest entries of its histories.
-/

namespace Reckoning

open HistoryStore (Sound history)

/-- The seed that names an entry, behind a prefix. -/
def LedgerId.seedBehind (id : LedgerId) (lead : String) : String :=
  s!"{lead}-char:{id.character.raw.toNat}#{id.seq}"

theorem LedgerId.seedBehind_eq (id : LedgerId) (lead : String) :
    id.seedBehind lead = s!"{lead}-" ++ toString id := by
  show lead ++ "-char:" ++ toString id.character.raw.toNat ++ "#" ++ toString id.seq =
    lead ++ "-" ++ ("char:" ++ toString id.character.raw.toNat ++ "#" ++ toString id.seq)
  have hdash : "-char:" = "-" ++ "char:" := rfl
  rw [hdash]
  simp only [String.append_assoc]

/-- Seeds behind any prefixes that are the same name the same entry. -/
theorem LedgerId.eq_of_seedBehind_eq {a b : LedgerId} {p q : String}
    (h : a.seedBehind p = b.seedBehind q) : a = b := by
  rw [seedBehind_eq, seedBehind_eq] at h
  exact eq_of_append_toString h

/-- A command that resolves a request without a seed. -/
def Command.wantsSeed : Command → Bool
  | .resolve r _ => r.seed.isNone
  | _ => false

namespace Engine

variable {σ : Type} [Store σ] {e : Engine σ}

/-- The entries of commands without a seed, in order. -/
def madeUp (e : Engine σ) : List Command → List LedgerEntry
  | [] => []
  | k :: ks => (if k.wantsSeed then (e.committed? k).toList else []) ++ madeUp (e.after k) ks

theorem madeUp_sublist (ks : List Command) : (e.madeUp ks).Sublist (e.commits ks) := by
  induction ks generalizing e with
  | nil => exact .slnil
  | cons k ks ih =>
    refine List.Sublist.append ?_ ih
    split_ifs
    · exact .refl _
    · exact List.nil_sublist _

theorem exists_of_mem_madeUp {ks : List Command} {x : LedgerEntry} (h : x ∈ e.madeUp ks) :
    ∃ ls r now, r.seed = none ∧ (resolve r now (e.run ls)).1 = .ok x := by
  induction ks generalizing e with
  | nil => cases h
  | cons k ks ih =>
    rcases List.mem_append.1 h with h | h
    · split_ifs at h with hwants
      · cases k with
        | resolve r now =>
          exact ⟨[], r, now, Option.isNone_iff_eq_none.1 hwants,
            committed?_resolve.1 (Option.mem_toList.1 h)⟩
        | _ => cases hwants
      · cases h
    · obtain ⟨ls, r, now, hseed, hr⟩ := ih h
      exact ⟨k :: ls, r, now, hseed, hr⟩

variable [HistoryStore σ]

/-! ### What is committed -/

/-- A command adds what it commits to the histories, and nothing else. -/
theorem grows_after (hs : Sound e.ledger) (k : Command) :
    Store.Grows e.ledger (e.after k).ledger (e.committed? k).toList := by
  cases hk : e.committed? k with
  | none =>
    rcases ledger_after hk with hl | ⟨record, reason, happend⟩
    · rw [hl]
      exact .refl hs
    · exact .of_failed hs happend
  | some entry =>
    cases k with
    | resolve r now =>
      obtain ⟨c, room, action, seed, previous, hr⟩ := exists_resolved (committed?_resolve.1 hk)
      exact .of_append hs hr.appended
    | _ => cases hk

theorem grows_run (hs : Sound e.ledger) (ks : List Command) :
    Store.Grows e.ledger (e.run ks).ledger (e.commits ks) := by
  induction ks using List.reverseRecOn with
  | nil => exact .refl hs
  | append_singleton ks k ih =>
    rw [run_concat, commits_concat]
    exact ih.trans (grows_after ih.sound k)

/-! ### What is made up -/

/-- The latest entry of a character tells the next place, and the first one where there is none. -/
theorem next_of_getLast? {s : σ} (hs : Sound s) (c : CharacterId) :
    ((history s c).getLast?.map fun entry => entry.id.seq + 1).getD 1 =
      (history s c).length + 1 := by
  cases hlast : (history s c).getLast? with
  | none =>
    rw [List.getLast?_eq_none_iff.1 hlast]
    rfl
  | some entry =>
    rw [List.getLast?_eq_getElem?] at hlast
    have hid := HistoryStore.numbered hs hlast
    have hlt := (List.getElem?_eq_some_iff.1 hlast).1
    rw [Option.map_some, Option.getD_some, hid]
    change (history s c).length - 1 + 1 + 1 = _
    omega

variable [LatestOfHistory σ]

theorem generatedSeed_eq (hs : Sound e.ledger) {c : CharacterId} {seed : String}
    (h : e.generatedSeed c = .ok seed) :
    seed = (LedgerId.mk c ((history e.ledger c).length + 1)).seedBehind e.config.seedPrefix := by
  unfold generatedSeed at h
  obtain ⟨latest, hlatest, h⟩ := bind_eq_ok_iff.1 h
  cases h
  obtain rfl := LatestOfHistory.latest? hs (mapError_eq_ok_iff.1 hlatest)
  rw [next_of_getLast? hs, LedgerId.seedBehind_eq]

/-- A seed that is made up names the entry that it is made up for. -/
theorem seed_of_resolved (hs : Sound e.ledger) {r : ActionRequest} {now : Timestamp}
    {entry : LedgerEntry} (hseed : r.seed = none) (h : (resolve r now e).1 = .ok entry) :
    entry.record.seed = entry.id.seedBehind e.config.seedPrefix := by
  obtain ⟨c, room, action, seed, previous, hr⟩ := exists_resolved h
  obtain hgiven | ⟨-, hmade⟩ := hr.seeded
  · rw [hseed] at hgiven
    cases hgiven
  · obtain ⟨-, hid, -⟩ := HistoryStore.append hs hr.appended
    have hc : entry.record.character = c.id := by rw [hr.record]; rfl
    have hrecord : entry.record.seed = seed := by rw [hr.record]; rfl
    rw [hrecord, generatedSeed_eq hs hmade, hid, hc]

end Engine

/-! ### Sessions over one ledger -/

/-- An engine that runs for some time over a ledger that was there before. -/
structure Session where
  library : Library
  config : Config
  registry : Registry
  locks : OrderLocks
  commands : List Command

namespace Session

variable {σ : Type} [Store σ]

/-- The engine at the beginning. -/
def engine (x : Session) (s : σ) : Engine σ := ⟨x.library, x.config, x.registry, s, x.locks⟩

/-- The ledger that a session leaves. -/
def leave (s : σ) (x : Session) : σ := ((x.engine s).run x.commands).ledger

/-- The ledger that several sessions leave. -/
def leaveAll (s : σ) (xs : List Session) : σ := xs.foldl leave s

/-- The entries that several sessions commit. -/
def commits (s : σ) : List Session → List LedgerEntry
  | [] => []
  | x :: xs => (x.engine s).commits x.commands ++ commits (leave s x) xs

/-- The entries of several sessions whose seeds were made up. -/
def madeUp (s : σ) : List Session → List LedgerEntry
  | [] => []
  | x :: xs => (x.engine s).madeUp x.commands ++ madeUp (leave s x) xs

/-- The engine at some point of a session that follows others. -/
def reach (s : σ) (before : List Session) (x : Session) (ks : List Command) : Engine σ :=
  (x.engine (leaveAll s before)).run ks

theorem madeUp_sublist (s : σ) (xs : List Session) : (madeUp s xs).Sublist (commits s xs) := by
  induction xs generalizing s with
  | nil => exact .slnil
  | cons x xs ih => exact (Engine.madeUp_sublist x.commands).append (ih _)

variable [HistoryStore σ]

theorem grows {s : σ} (hs : Sound s) (xs : List Session) :
    Store.Grows s (leaveAll s xs) (commits s xs) := by
  induction xs generalizing s with
  | nil => exact .refl hs
  | cons x xs ih =>
    have hfirst : Store.Grows s (leave s x) _ := Engine.grows_run (e := x.engine s) hs x.commands
    exact hfirst.trans (ih hfirst.sound)

variable [LatestOfHistory σ]

theorem seed_of_mem_madeUp {s : σ} (hs : Sound s) {xs : List Session} {y : LedgerEntry}
    (h : y ∈ madeUp s xs) : ∃ lead, y.record.seed = y.id.seedBehind lead := by
  induction xs generalizing s with
  | nil => cases h
  | cons x xs ih =>
    have hrun (ks : List Command) : Sound ((x.engine s).run ks).ledger :=
      (Engine.grows_run (e := x.engine s) hs ks).sound
    rcases List.mem_append.1 h with h | h
    · obtain ⟨ls, r, now, hseed, hr⟩ := Engine.exists_of_mem_madeUp h
      exact ⟨_, Engine.seed_of_resolved (hrun ls) hseed hr⟩
    · exact ih (hrun x.commands) h

/-- What seeds say that are made up in sessions over a ledger. -/
structure SeedsNamePlaces (s : σ) : Prop where
  /-- In every session, a seed that is made up is the prefix with the id that the ledger gives to
  the very entry. -/
  named : ∀ before x ks r now entry, r.seed = none →
    (Engine.resolve r now (reach s before x ks)).1 = .ok entry →
      (∃ s', Store.append (reach s before x ks).ledger entry.record = (.ok entry.id, s')) ∧
        entry.record.seed =
          s!"{x.config.seedPrefix}-char:{entry.id.character.raw.toNat}#{entry.id.seq}"
  /-- No seed is made up twice, whatever the prefixes are. -/
  apart : ∀ xs, ((madeUp s xs).map (·.record.seed)).Nodup

/-- **Seeds that are made up name the place of their entry, so each is made up once.** -/
theorem seedsNamePlaces {s : σ} (hs : Sound s) : SeedsNamePlaces s where
  named before x ks r now entry hseed h := by
    have hsound : Sound (reach s before x ks).ledger :=
      (Engine.grows_run (e := x.engine (leaveAll s before)) (grows hs before).sound ks).sound
    have hconfig : (reach s before x ks).config = x.config := Engine.config_run ks
    obtain ⟨c, room, action, seed, previous, hr⟩ := Engine.exists_resolved h
    refine ⟨⟨_, hr.appended⟩, ?_⟩
    rw [Engine.seed_of_resolved hsound hseed h, hconfig]
    rfl
  apart xs := by
    have hids : ((madeUp s xs).map (·.id)).Nodup :=
      (grows hs xs).nodup_ids.sublist ((madeUp_sublist s xs).map _)
    rw [List.nodup_iff_pairwise_ne, List.pairwise_map] at hids ⊢
    refine hids.imp_of_mem fun hy hz hne heq => hne ?_
    obtain ⟨p, hp⟩ := seed_of_mem_madeUp hs hy
    obtain ⟨q, hq⟩ := seed_of_mem_madeUp hs hz
    exact LedgerId.eq_of_seedBehind_eq (hp.symm.trans (heq.trans hq))

end Session

/-! ### Two visits to a pond without a seed -/

namespace Fishing

/-- A visit on which the first angler fishes, with a prefix for seeds. -/
def visit (lead : String) : Session where
  library := library
  config := { avoidableThreshold := 0.5, seedPrefix := lead, strictContent := false }
  registry := ∅
  locks := ∅
  commands := before ++ [.resolve { request with seed := none } .epoch]

/-- A ledger that scans. -/
def notebook : PlainLedger := ⟨.empty, none, none⟩

/-- The second prefix is the first seed. -/
theorem seeds_of_two_visits :
    Session.SeedsNamePlaces MemoryLedger.empty ∧ Session.SeedsNamePlaces notebook ∧
      (Session.madeUp notebook [visit "pond", visit "pond-char:1#1"]).map (·.record.seed) =
        ["pond-char:1#1", "pond-char:1#1-char:1#2"] :=
  ⟨Session.seedsNamePlaces Index.wellFormed_empty,
    Session.seedsNamePlaces Index.wellFormed_empty, by decide +kernel⟩

end Fishing

end Reckoning
