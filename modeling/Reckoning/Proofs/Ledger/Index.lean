import Mathlib.Data.List.Basic
import Reckoning.Ledger.Index

/-!
# What an index answers

Commits keep an index well formed: the rows of characters stay in order, places are dense, and the
row of a seed names the latest entry for it.

* `Index.history_push` says what a commit does to the histories.
* `Index.commits` are the entries that come of records which are committed in a row, and
  `Index.pushAll` is the index with them.
* `Index.WellFormed` is the invariant, `Index.WellFormed.push` its preservation.
* `Index.WellFormed.get?_eq_some` and `Index.WellFormed.findBySeed?_eq` say what a well-formed
  index answers.
-/

namespace Reckoning

namespace Index

/-! ### Rows -/

section

variable {κ β : Type} [DecidableEq κ]

theorem lookUp_cons (key k : κ) (v : β) (rows : List (κ × β)) :
    lookUp key ((k, v) :: rows) = if key = k then some v else lookUp key rows := by
  unfold lookUp
  by_cases h : key = k
  · simp [h]
  · simp [h, Ne.symm h]

theorem lookUp_put (key k : κ) (v : β) (rows : List (κ × β)) :
    lookUp key (put k v rows) = if key = k then some v else lookUp key rows := by
  induction rows with
  | nil => rw [put, lookUp_cons]
  | cons r rows ih =>
    obtain ⟨k', v'⟩ := r
    unfold put
    by_cases hk : k' = k
    · subst hk
      rw [if_pos rfl, lookUp_cons, lookUp_cons]
      split_ifs <;> rfl
    · rw [if_neg hk, lookUp_cons, lookUp_cons, ih]
      by_cases hkey : key = k'
      · rw [if_pos hkey, if_pos hkey, if_neg (hkey ▸ hk)]
      · simp only [if_neg hkey]

theorem lookUp_eq_none {key : κ} {rows : List (κ × β)} (h : ∀ p ∈ rows, p.1 ≠ key) :
    lookUp key rows = none := by
  unfold lookUp
  rw [Option.map_eq_none_iff, List.find?_eq_none]
  exact fun p hp => by simpa using h p hp

end

/-- The rows of an index stand in ascending order of the characters. -/
def Ascending (rows : List (CharacterId × List LedgerEntry)) : Prop :=
  rows.Pairwise fun p q => p.1.raw < q.1.raw

theorem mem_insertEntry {e : LedgerEntry} {rows : List (CharacterId × List LedgerEntry)}
    {p : CharacterId × List LedgerEntry} (h : p ∈ insertEntry e rows) :
    p.1 = e.id.character ∨ ∃ q ∈ rows, q.1 = p.1 := by
  induction rows with
  | nil =>
    rw [insertEntry, List.mem_singleton] at h
    exact .inl (h ▸ rfl)
  | cons r rows ih =>
    unfold insertEntry at h
    split_ifs at h with hlt heq
    · rcases List.mem_cons.1 h with rfl | h
      · exact .inl rfl
      · exact .inr ⟨p, h, rfl⟩
    · rcases List.mem_cons.1 h with rfl | h
      · exact .inl heq.symm
      · exact .inr ⟨p, List.mem_cons_of_mem _ h, rfl⟩
    · rcases List.mem_cons.1 h with rfl | h
      · exact .inr ⟨_, List.mem_cons_self, rfl⟩
      · rcases ih h with h | ⟨q, hq, hp⟩
        · exact .inl h
        · exact .inr ⟨q, List.mem_cons_of_mem _ hq, hp⟩

theorem Ascending.insertEntry {rows : List (CharacterId × List LedgerEntry)} (h : Ascending rows)
    (e : LedgerEntry) : Ascending (insertEntry e rows) := by
  induction rows with
  | nil => exact List.pairwise_singleton _ _
  | cons r rows ih =>
    obtain ⟨hr, hrows⟩ := List.pairwise_cons.1 h
    unfold Index.insertEntry
    split_ifs with hlt heq
    · refine List.pairwise_cons.2 ⟨fun p hp => ?_, h⟩
      rcases List.mem_cons.1 hp with rfl | hp
      · exact hlt
      · exact UInt64.lt_trans hlt (hr p hp)
    · exact List.pairwise_cons.2 ⟨hr, hrows⟩
    · -- behind the first row stand the rows that did, and perhaps the new one
      refine List.pairwise_cons.2 ⟨fun p hp => ?_, ih hrows⟩
      rcases mem_insertEntry hp with hp | ⟨q, hq, hp⟩
      · have hne : r.1.raw ≠ e.id.character.raw :=
          fun hraw => heq (CharacterId.mk.injEq .. ▸ hraw.symm)
        rw [hp]
        exact UInt64.lt_of_le_of_ne (UInt64.not_lt.1 hlt) hne
      · rw [← hp]
        exact hr q hq

theorem lookUp_insertEntry {rows : List (CharacterId × List LedgerEntry)} (h : Ascending rows)
    (e : LedgerEntry) (c : CharacterId) :
    lookUp c (Index.insertEntry e rows) =
      if c = e.id.character then some ((lookUp c rows).getD [] ++ [e]) else lookUp c rows := by
  induction rows with
  | nil =>
    rw [Index.insertEntry, lookUp_cons]
    rfl
  | cons r rows ih =>
    obtain ⟨k, es⟩ := r
    obtain ⟨hr, hrows⟩ := List.pairwise_cons.1 h
    unfold Index.insertEntry
    by_cases hlt : e.id.character.raw < k.raw
    · -- the rows stand in order, so none of them is the character's
      have hnone : lookUp e.id.character ((k, es) :: rows) = none := by
        refine lookUp_eq_none fun p hp heq => ?_
        rcases List.mem_cons.1 hp with rfl | hp
        · exact UInt64.lt_irrefl _ (heq ▸ hlt)
        · exact UInt64.lt_irrefl _ (heq ▸ UInt64.lt_trans hlt (hr p hp))
      rw [if_pos hlt, lookUp_cons]
      by_cases hc : c = e.id.character
      · subst hc
        rw [hnone, if_pos rfl, if_pos rfl]
        rfl
      · rw [if_neg hc, if_neg hc]
    · rw [if_neg hlt]
      by_cases hk : e.id.character = k
      · subst hk
        rw [if_pos rfl, lookUp_cons, lookUp_cons]
        split_ifs <;> rfl
      · rw [if_neg hk, lookUp_cons, lookUp_cons, ih hrows]
        by_cases hc : c = k
        · rw [if_pos hc, if_pos hc, if_neg (hc ▸ Ne.symm hk)]
        · simp only [if_neg hc]

/-! ### Histories -/

theorem history_empty (c : CharacterId) : empty.history c = [] := rfl

theorem history_push {i : Index} (h : Ascending i.histories) (e : LedgerEntry)
    (c : CharacterId) :
    (i.push e).history c = if c = e.id.character then i.history c ++ [e] else i.history c := by
  unfold push history
  simp only
  rw [lookUp_insertEntry h]
  split_ifs <;> rfl

theorem mem_history_push {i : Index} (h : Ascending i.histories) {e x : LedgerEntry}
    {c : CharacterId} :
    x ∈ (i.push e).history c ↔ x ∈ i.history c ∨ c = e.id.character ∧ x = e := by
  rw [history_push h]
  split_ifs with hc <;> simp [hc]

/-- After a commit a place holds what it held, or is the new last place of the character. -/
theorem getElem?_history_push {i : Index} (h : Ascending i.histories) {e : LedgerEntry}
    {c : CharacterId} {n : Nat} {x : LedgerEntry} (hx : ((i.push e).history c)[n]? = some x) :
    (i.history c)[n]? = some x ∨ c = e.id.character ∧ n = (i.history c).length ∧ x = e := by
  rw [history_push h] at hx
  split_ifs at hx with hc
  · rw [List.getElem?_append] at hx
    split_ifs at hx with hn
    · exact .inl hx
    · -- one entry is left, behind all the others
      have hlt := (List.getElem?_eq_some_iff.1 hx).1
      rw [List.length_singleton] at hlt
      have hlen : n = (i.history c).length := by omega
      rw [hlen, Nat.sub_self] at hx
      cases hx
      exact .inr ⟨hc, hlen, rfl⟩
  · exact .inl hx

/-- A commit leaves the beginnings of all histories alone. -/
theorem take_history_push {i : Index} (h : Ascending i.histories) (e : LedgerEntry)
    {c : CharacterId} {n : Nat} (hn : n ≤ (i.history c).length) :
    ((i.push e).history c).take n = (i.history c).take n := by
  rw [history_push h]
  split_ifs
  · exact List.take_append_of_le_length hn
  · rfl

/-! ### Commits in a row -/

/-- The entries that come of records which are committed one after the other. -/
def commits (i : Index) : List ActionRecord → List LedgerEntry
  | [] => []
  | r :: rs =>
    let e : LedgerEntry := ⟨i.nextId r.character, r⟩
    e :: (i.push e).commits rs

/-- Push entries one after the other. -/
def pushAll (i : Index) (es : List LedgerEntry) : Index := es.foldl push i

theorem pushAll_append (i : Index) (es fs : List LedgerEntry) :
    i.pushAll (es ++ fs) = (i.pushAll es).pushAll fs := List.foldl_append

theorem commits_append (i : Index) (rs ss : List ActionRecord) :
    i.commits (rs ++ ss) = i.commits rs ++ (i.pushAll (i.commits rs)).commits ss := by
  induction rs generalizing i with
  | nil => rfl
  | cons r rs ih => exact congrArg (_ :: ·) (ih _)

theorem commits_take (i : Index) (rs : List ActionRecord) (m : Nat) :
    i.commits (rs.take m) = (i.commits rs).take m := by
  induction m generalizing i rs with
  | zero => rfl
  | succ m ih =>
    cases rs with
    | nil => rfl
    | cons r rs => exact congrArg (_ :: ·) (ih _ rs)

/-! ### What commits keep true -/

/-- What commits keep true of an index. -/
structure WellFormed (i : Index) : Prop where
  ascending : Ascending i.histories
  /-- The entries of a character are numbered from one. -/
  dense : ∀ (c : CharacterId) (n : Nat) (e : LedgerEntry),
    (i.history c)[n]? = some e → e.id = ⟨c, n + 1⟩
  /-- The row of a seed names the latest entry for it. -/
  latest : ∀ c seed, lookUp (c, seed) i.latestBySeed =
    ((i.history c).reverse.find? (·.record.derivedSeed == seed)).map (·.id)

theorem wellFormed_empty : WellFormed empty where
  ascending := .nil
  dense c n e h := by simp [history_empty] at h
  latest _ _ := rfl

namespace WellFormed

variable {i : Index} {next : CharacterId}

/-- A commit under the next name of a character keeps an index well formed. -/
theorem push (h : i.WellFormed) {e : LedgerEntry} (he : e.id = i.nextId next) :
    (i.push e).WellFormed := by
  have hc : e.id.character = next := by rw [he]; rfl
  refine ⟨h.ascending.insertEntry e, fun c n x hx => ?_, fun c seed => ?_⟩
  · rcases getElem?_history_push h.ascending hx with hx | ⟨rfl, rfl, rfl⟩
    · exact h.dense c n x hx
    · rw [hc]
      exact he
  · -- the row of the new entry's seed is overwritten, and that entry is now the last one
    rw [history_push h.ascending]
    change lookUp (c, seed) (put (e.id.character, e.record.derivedSeed) e.id i.latestBySeed) = _
    rw [lookUp_put, h.latest]
    by_cases heq : c = e.id.character
    · rw [if_pos heq, List.reverse_append, List.reverse_singleton, List.singleton_append,
        List.find?_cons]
      by_cases hs : seed = e.record.derivedSeed
      · simp [heq, hs]
      · have hne : (e.record.derivedSeed == seed) = false := by simpa using Ne.symm hs
        simp [hs, hne]
    · simp [heq]

theorem pushAll_commits (h : i.WellFormed) (rs : List ActionRecord) :
    (i.pushAll (i.commits rs)).WellFormed := by
  induction rs generalizing i with
  | nil => exact h
  | cons r rs ih => exact ih (h.push rfl)

/-- The entry with a name is the one of that name in the history of its character. -/
theorem get?_eq_some (h : i.WellFormed) {id : LedgerId} {e : LedgerEntry} :
    i.get? id = some e ↔ e ∈ i.history id.character ∧ e.id = id := by
  -- names are numbered from one, so a name with number zero is nobody's
  obtain ⟨c, seq⟩ := id
  unfold get?
  constructor
  · intro hg
    cases seq with
    | zero => cases hg
    | succ n => exact ⟨List.mem_of_getElem? hg, h.dense c n e hg⟩
  · rintro ⟨hm, hid⟩
    obtain ⟨n, hn⟩ := List.getElem?_of_mem hm
    have hseq := h.dense c n e hn
    rw [hid] at hseq
    cases hseq
    exact hn

theorem get?_push_self (h : i.WellFormed) {x : LedgerEntry} (hx : x.id = i.nextId next) :
    (i.push x).get? x.id = some x :=
  (h.push hx).get?_eq_some.2 ⟨(mem_history_push h.ascending).2 (.inr ⟨rfl, rfl⟩), rfl⟩

/-- A commit changes no answer but that to its own name. -/
theorem get?_push_of_ne (h : i.WellFormed) {x : LedgerEntry} (hx : x.id = i.nextId next)
    {id : LedgerId} (hne : id ≠ x.id) : (i.push x).get? id = i.get? id := by
  refine Option.ext fun e => ?_
  rw [(h.push hx).get?_eq_some, h.get?_eq_some, mem_history_push h.ascending]
  constructor
  · rintro ⟨hm | ⟨-, rfl⟩, hid⟩
    · exact ⟨hm, hid⟩
    · exact absurd hid.symm hne
  · exact fun ⟨hm, hid⟩ => ⟨.inl hm, hid⟩

/-- The name of the next entry is nobody's. -/
theorem get?_nextId (h : i.WellFormed) (c : CharacterId) : i.get? (i.nextId c) = none := by
  rw [Option.eq_none_iff_forall_ne_some]
  intro e he
  obtain ⟨hm, hid⟩ := h.get?_eq_some.1 he
  obtain ⟨n, hn⟩ := List.getElem?_of_mem hm
  have hlt := (List.getElem?_eq_some_iff.1 hn).1
  have hseq := congrArg LedgerId.seq ((h.dense _ n e hn).symm.trans hid)
  change n + 1 = (i.history c).length + 1 at hseq
  change n < (i.history c).length at hlt
  omega

/-- What was answered before a commit is answered after it. -/
theorem get?_push (h : i.WellFormed) {x e : LedgerEntry} (hx : x.id = i.nextId next)
    {id : LedgerId} (hg : i.get? id = some e) : (i.push x).get? id = some e := by
  have hne : id ≠ x.id := by
    rintro rfl
    rw [hx, h.get?_nextId] at hg
    cases hg
  rw [h.get?_push_of_ne hx hne, hg]

/-- The latest entry for a seed is the last one of its character with that seed. -/
theorem findBySeed?_eq (h : i.WellFormed) (c : CharacterId) (seed : UInt64) :
    i.findBySeed? c seed = (i.history c).reverse.find? (·.record.derivedSeed == seed) := by
  unfold findBySeed?
  rw [h.latest]
  cases hf : (i.history c).reverse.find? (·.record.derivedSeed == seed) with
  | none => rfl
  | some e =>
    have hm : e ∈ i.history c := List.mem_reverse.1 (List.mem_of_find?_eq_some hf)
    obtain ⟨n, hn⟩ := List.getElem?_of_mem hm
    have hid := h.dense c n e hn
    exact h.get?_eq_some.2 ⟨by simpa [hid] using hm, rfl⟩

end WellFormed

end Index

end Reckoning
