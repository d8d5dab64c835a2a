import Mathlib.Data.List.Nodup
import Reckoning.Proofs.Ledger.Store

/-!
# Histories that stores keep

A store numbers the entries of each character from one and only ever goes on.  Between two states of
a store, then, every character's history has grown by what was committed in between.

* `HistoryStore` is what stores promise, `LatestOfHistory` that they find the latest entry.  Stores
  over an index do, and so does every store that scans (`ScansLatest`).
* `Store.Grows` relates two states of a store and the entries that were committed in between;
  `Store.Grows.trans` composes it.
* `Store.Grows.nodup_ids`: no id is given twice.
-/

namespace Reckoning

/-- A store that keeps a history of every character. -/
class HistoryStore (σ : Type) [Store σ] where
  /-- What holds of a store from its opening on. -/
  Sound : σ → Prop
  history : σ → CharacterId → List LedgerEntry
  /-- Places count from one. -/
  numbered : ∀ {s : σ} {c : CharacterId} {n : Nat} {e : LedgerEntry}, Sound s →
    (history s c)[n]? = some e → e.id = ⟨c, n + 1⟩
  /-- A query that succeeds gives the entries in order. -/
  query : ∀ {s : σ} {c : CharacterId} {es : List LedgerEntry}, Sound s →
    Store.query s c .always = .ok es → es = history s c
  /-- A commit that succeeds gives the next place, and adds to the history of its character. -/
  append : ∀ {s s' : σ} {r : ActionRecord} {id : LedgerId}, Sound s →
    Store.append s r = (.ok id, s') →
    Sound s' ∧ id = ⟨r.character, (history s r.character).length + 1⟩ ∧
      ∀ c, history s' c = history s c ++ if r.character = c then [⟨id, r⟩] else []
  /-- A commit that fails leaves every history as it was. -/
  append_failed : ∀ {s s' : σ} {r : ActionRecord} {error : LedgerError}, Sound s →
    Store.append s r = (.error error, s') → Sound s' ∧ ∀ c, history s' c = history s c

/-- A store that finds the latest entry of a character, unless it fails. -/
class LatestOfHistory (σ : Type) [Store σ] [HistoryStore σ] : Prop where
  latest? : ∀ {s : σ} {c : CharacterId} {found : Option LedgerEntry}, HistoryStore.Sound s →
    Store.latest? s c = .ok found →
      found = (HistoryStore.history s c).getLast?

/-- A store that has nothing faster than going through the whole history. -/
class ScansLatest (σ : Type) [Store σ] : Prop where
  latest?_eq : ∀ (s : σ) c, Store.latest? s c = Store.scanLatest (Store.query s) c

open HistoryStore (Sound history)

instance {σ : Type} [Store σ] [HistoryStore σ] [ScansLatest σ] : LatestOfHistory σ where
  latest? {s c found} hs h := by
    rw [ScansLatest.latest?_eq] at h
    unfold Store.scanLatest at h
    cases hq : Store.query s c .always with
    | error error =>
      rw [hq] at h
      cases h
    | ok es =>
      rw [hq] at h
      cases h
      rw [HistoryStore.query hs hq]

/-! ### Stores over an index -/

namespace Index

variable {i : Index}

theorem query_always (c : CharacterId) : i.query c .always = i.history c :=
  List.filter_eq_self.2 fun e _ => Period.contains_always e.record.timestamp

theorem history_push_nextId (h : Ascending i.histories) (r : ActionRecord) (c : CharacterId) :
    (i.push ⟨i.nextId r.character, r⟩).history c =
      i.history c ++ if r.character = c then [⟨i.nextId r.character, r⟩] else [] := by
  rw [history_push h]
  change (if c = r.character then _ else _) = _
  by_cases hc : c = r.character
  · rw [if_pos hc, if_pos hc.symm]
  · rw [if_neg hc, if_neg (Ne.symm hc), List.append_nil]

end Index

instance {σ : Type} [Store σ] [IndexedStore σ] : HistoryStore σ where
  Sound s := (IndexedStore.index s).WellFormed
  history s := (IndexedStore.index s).history
  numbered h := h.dense _ _ _
  query {s c es} _ h := by
    rw [IndexedStore.query_eq, Index.query_always] at h
    exact (Except.ok.inj h).symm
  append {s s' r id} hs h := by
    obtain ⟨next, happ, hindex⟩ := IndexedStore.append_eq s r
    rw [happ] at h
    cases h
    rw [hindex]
    exact ⟨hs.push rfl, rfl, Index.history_push_nextId hs.ascending r⟩
  append_failed {s s' r error} _ h := by
    obtain ⟨next, happ, -⟩ := IndexedStore.append_eq s r
    cases happ.symm.trans h

instance {σ : Type} [Store σ] [IndexedStore σ] : LatestOfHistory σ where
  latest? {s c found} _ h := by
    rw [IndexedStore.latest?_eq] at h
    exact (Except.ok.inj h).symm

/-! ### A store that scans -/

namespace PlainLedger

theorem orFail_eq_ok {α : Type} {failure : Option LedgerError} {a b : α}
    (h : orFail failure a = .ok b) : b = a := by
  cases failure <;> cases h
  rfl

instance : HistoryStore PlainLedger where
  Sound l := l.inner.index.WellFormed
  history l := l.inner.index.history
  numbered h := h.dense _ _ _
  query {l c es} _ h := by
    rw [orFail_eq_ok h, Index.query_always]
  append {l l' r id} hs h := by
    change l.append r = _ at h
    unfold append at h
    split at h <;> cases h
    exact ⟨hs.push rfl, rfl, Index.history_push_nextId hs.ascending r⟩
  append_failed {l l' r error} hs h := by
    change l.append r = _ at h
    unfold append at h
    split at h <;> cases h
    exact ⟨hs, fun _ => rfl⟩

instance : ScansLatest PlainLedger where
  latest?_eq _ _ := rfl

end PlainLedger

/-! ### Growing -/

namespace Store

variable {σ : Type} [Store σ] [HistoryStore σ]

/-- Between two states of a store some entries were committed, in order. -/
structure Grows (s s' : σ) (es : List LedgerEntry) : Prop where
  sound : Sound s'
  history : ∀ c, history s' c = history s c ++ es.filter (·.id.character = c)

namespace Grows

variable {s s' s'' : σ} {es fs : List LedgerEntry}

theorem refl (h : Sound s) : Grows s s [] := ⟨h, fun _ => (List.append_nil _).symm⟩

theorem trans (h : Grows s s' es) (h' : Grows s' s'' fs) : Grows s s'' (es ++ fs) where
  sound := h'.sound
  history c := by rw [h'.history, h.history, List.filter_append, List.append_assoc]

theorem of_append (hs : Sound s) {r : ActionRecord} {id : LedgerId}
    (h : Store.append s r = (.ok id, s')) : Grows s s' [⟨id, r⟩] := by
  obtain ⟨hs', hid, hhistory⟩ := HistoryStore.append hs h
  refine ⟨hs', fun c => ?_⟩
  have hc : id.character = r.character := by rw [hid]
  rw [hhistory, List.filter_singleton, hc]
  by_cases h : r.character = c
  · simp [h]
  · simp [h]

theorem of_failed (hs : Sound s) {r : ActionRecord} {error : LedgerError}
    (h : Store.append s r = (.error error, s')) : Grows s s' [] := by
  obtain ⟨hs', hhistory⟩ := HistoryStore.append_failed hs h
  exact ⟨hs', fun c => (hhistory c).trans (List.append_nil _).symm⟩

theorem nodup_ids_history (hs : Sound s) (c : CharacterId) :
    ((HistoryStore.history s c).map (·.id)).Nodup := by
  rw [List.nodup_iff_getElem?_ne_getElem?]
  intro m n hmn hn heq
  rw [List.length_map] at hn
  have hm := Nat.lt_trans hmn hn
  -- both places would have the same number
  rw [List.getElem?_map, List.getElem?_map, List.getElem?_eq_getElem hm,
    List.getElem?_eq_getElem hn] at heq
  have hm := HistoryStore.numbered hs (List.getElem?_eq_getElem hm)
  have hn := HistoryStore.numbered hs (List.getElem?_eq_getElem hn)
  have hseq : m + 1 = n + 1 :=
    congrArg LedgerId.seq (hm.symm.trans ((Option.some.inj heq).trans hn))
  omega

/-- No id is given twice. -/
theorem nodup_ids (h : Grows s s' es) : (es.map (·.id)).Nodup := by
  rw [List.nodup_iff_count_le_one]
  intro id
  -- an id only counts in the history of its character
  have hone := List.nodup_iff_count_le_one.1 (nodup_ids_history h.sound id.character) id
  rw [h.history, List.map_append, List.count_append] at hone
  have hcount : (es.map (·.id)).count id =
      ((es.filter (·.id.character = id.character)).map (·.id)).count id := by
    rw [List.count_eq_countP, List.countP_map, List.count_eq_countP, List.countP_map,
      List.countP_filter]
    refine List.countP_congr fun e _ => ?_
    simp only [Function.comp_apply, beq_iff_eq, Bool.and_eq_true, decide_eq_true_eq]
    exact ⟨fun hid => ⟨hid, congrArg _ hid⟩, And.left⟩
  omega

end Grows

end Store

end Reckoning
