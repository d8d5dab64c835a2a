import Mathlib.Data.List.Nodup
import Mathlib.Logic.Relation
import Reckoning.Proofs.Ledger.Index
import Reckoning.Proofs.Lookup

/-!
# The chronicle of a ledger

Entries are committed one after the other, each linked to the latest earlier entry of its
character with its seed.

* `Chronicle` relates an index to the entries that were committed to it, in order;
  `Chronicle.push` preserves it.
* `Chronicle.get?_eq` and `Chronicle.findBySeed?_eq_getLast?` say what the ledger answers,
  `Chronicle.numbered` how entries are numbered.
* `Chronicle.supersedes_iff` says which entry is linked to which; from it follow
  `Chronicle.superseded_once` and `Chronicle.transGen_iff`.
-/

namespace Reckoning

/-- Both entries are about one character and drew their luck from one seed. -/
def SameLuck (x y : LedgerEntry) : Prop :=
  x.id.character = y.id.character ∧ x.record.derivedSeed = y.record.derivedSeed

/-- Of some entries, the second is the one that the first retries. -/
def Retries (es : List LedgerEntry) (y x : LedgerEntry) : Prop :=
  y ∈ es ∧ x ∈ es ∧ y.record.supersedes = some x.id

/-- The index of a ledger to which some entries were committed, in order. -/
structure Chronicle (i : Index) (es : List LedgerEntry) : Prop where
  wellFormed : i.WellFormed
  histories : ∀ c, i.history c = es.filter (·.id.character = c)
  /-- An entry is linked to the last one before it with its seed. -/
  linked : ∀ (c : CharacterId) (n : Nat) (y : LedgerEntry), (i.history c)[n]? = some y →
    y.record.supersedes = (((i.history c).take n).reverse.find?
      (·.record.derivedSeed == y.record.derivedSeed)).map (·.id)

namespace Chronicle

theorem empty : Chronicle .empty [] :=
  ⟨Index.wellFormed_empty, fun _ => rfl, fun c n y h => by simp [Index.history_empty] at h⟩

variable {i : Index} {es : List LedgerEntry}

theorem push (h : Chronicle i es) {e : LedgerEntry} (he : e.id = i.nextId e.record.character)
    (hs : e.record.supersedes =
      (i.findBySeed? e.record.character e.record.derivedSeed).map (·.id)) :
    Chronicle (i.push e) (es ++ [e]) := by
  have hc : e.id.character = e.record.character := by rw [he]; rfl
  refine ⟨h.wellFormed.push he, fun c => ?_, fun c n y hy => ?_⟩
  · rw [Index.history_push h.wellFormed.ascending, h.histories, List.filter_append]
    by_cases heq : c = e.id.character
    · simp [heq]
    · simp [heq, Ne.symm heq]
  · rcases Index.getElem?_history_push h.wellFormed.ascending hy with hy | ⟨rfl, rfl, rfl⟩
    · have hn : n < (i.history c).length := (List.getElem?_eq_some_iff.1 hy).1
      rw [Index.take_history_push h.wellFormed.ascending e (Nat.le_of_lt hn)]
      exact h.linked c n y hy
    · -- the new entry comes after the whole history
      rw [Index.take_history_push h.wellFormed.ascending _ (Nat.le_refl _), List.take_length, hs,
        ← hc, h.wellFormed.findBySeed?_eq]

/-! ### What the ledger holds -/

theorem mem_history (h : Chronicle i es) {c : CharacterId} {y : LedgerEntry} :
    y ∈ i.history c ↔ y ∈ es ∧ y.id.character = c := by
  rw [h.histories, List.mem_filter, decide_eq_true_eq]

/-- An entry stands at the place that its name says. -/
theorem exists_place (h : Chronicle i es) {y : LedgerEntry} (hy : y ∈ es) :
    ∃ n, (i.history y.id.character)[n]? = some y ∧ y.id = ⟨y.id.character, n + 1⟩ := by
  obtain ⟨n, hn⟩ := List.getElem?_of_mem (h.mem_history.2 ⟨hy, rfl⟩)
  exact ⟨n, hn, h.wellFormed.dense _ n y hn⟩

/-- **The entries of a character are numbered from one, in the order of their commits.** -/
theorem numbered (h : Chronicle i es) (c : CharacterId) :
    (es.filter (·.id.character = c)).map (·.id) =
      (List.range (es.filter (·.id.character = c)).length).map fun n => ⟨c, n + 1⟩ := by
  rw [← h.histories]
  -- place by place, as places are dense
  refine List.ext_getElem? fun n => ?_
  rw [List.getElem?_map, List.getElem?_map]
  cases hn : (i.history c)[n]? with
  | none =>
    have hr : (List.range (i.history c).length)[n]? = none := by
      rw [List.getElem?_eq_none_iff, List.length_range]
      exact List.getElem?_eq_none_iff.1 hn
    rw [hr]
    rfl
  | some e =>
    have hr : (List.range (i.history c).length)[n]? = some n :=
      List.getElem?_range (List.getElem?_eq_some_iff.1 hn).1
    rw [hr, Option.map_some, Option.map_some, h.wellFormed.dense c n e hn]

theorem get?_of_mem (h : Chronicle i es) {y : LedgerEntry} (hy : y ∈ es) :
    i.get? y.id = some y :=
  h.wellFormed.get?_eq_some.2 ⟨h.mem_history.2 ⟨hy, rfl⟩, rfl⟩

/-- An entry is known by its name. -/
theorem eq_of_id_eq (h : Chronicle i es) {x y : LedgerEntry} (hx : x ∈ es) (hy : y ∈ es)
    (hid : x.id = y.id) : x = y := by
  have hg := h.get?_of_mem hx
  rw [hid, h.get?_of_mem hy] at hg
  exact (Option.some.inj hg).symm

theorem eq_of_seq_eq (h : Chronicle i es) {x y : LedgerEntry} (hx : x ∈ es) (hy : y ∈ es)
    (hc : x.id.character = y.id.character) (hs : x.id.seq = y.id.seq) : x = y := by
  refine h.eq_of_id_eq hx hy ?_
  rcases hxid : x.id with ⟨c, n⟩
  rcases hyid : y.id with ⟨d, m⟩
  rw [hxid, hyid] at hc hs
  exact congrArg₂ LedgerId.mk hc hs

/-- The ledger answers with the entries that were committed to it. -/
theorem get?_eq (h : Chronicle i es) (id : LedgerId) : i.get? id = es.find? (·.id = id) := by
  refine Option.ext fun e => ?_
  rw [h.wellFormed.get?_eq_some, h.mem_history]
  constructor
  · rintro ⟨⟨hm, -⟩, rfl⟩
    obtain ⟨x, hxm, hx, hid⟩ := exists_find? (p := fun x => decide (x.id = e.id)) hm (by simp)
    have hid : x.id = e.id := by simpa using hid
    rwa [h.eq_of_id_eq hxm hm hid] at hx
  · intro hf
    have hid : e.id = id := by simpa using List.find?_some hf
    exact ⟨⟨List.mem_of_find?_eq_some hf, by rw [hid]⟩, hid⟩

/-- The latest entry for a seed is the last one that was committed for it. -/
theorem findBySeed?_eq_getLast? (h : Chronicle i es) (c : CharacterId) (seed : UInt64) :
    i.findBySeed? c seed = (es.filter fun x =>
      x.id.character = c ∧ x.record.derivedSeed = seed).getLast? := by
  rw [h.wellFormed.findBySeed?_eq, h.histories, List.getLast?_eq_head?_reverse,
    ← List.filter_reverse, ← List.filter_reverse, List.find?_filter, List.head?_filter]
  congr 1
  funext x
  simp

/-! ### Links -/

theorem mem_take (h : Chronicle i es) {c : CharacterId} {n : Nat} {z : LedgerEntry} :
    z ∈ (i.history c).take n ↔ z ∈ es ∧ z.id.character = c ∧ z.id.seq ≤ n := by
  constructor
  · intro hz
    obtain ⟨k, hk⟩ := List.getElem?_of_mem hz
    have hkn : k < n := by
      have := (List.getElem?_eq_some_iff.1 hk).1
      rw [List.length_take] at this
      omega
    rw [List.getElem?_take_of_lt hkn] at hk
    have hid := h.wellFormed.dense c k z hk
    refine ⟨(h.mem_history.1 (List.mem_of_getElem? hk)).1, by rw [hid], ?_⟩
    rw [hid]
    exact hkn
  · rintro ⟨hz, rfl, hle⟩
    obtain ⟨k, hk, hid⟩ := h.exists_place hz
    rw [hid] at hle
    have hkn : k < n := hle
    exact List.mem_of_getElem? ((List.getElem?_take_of_lt hkn).trans hk)

theorem pairwise_seq (h : Chronicle i es) (c : CharacterId) :
    (i.history c).Pairwise fun x y => x.id.seq < y.id.seq := by
  rw [List.pairwise_iff_getElem]
  intro k l hk hl hkl
  rw [h.wellFormed.dense c k _ (List.getElem?_eq_getElem hk),
    h.wellFormed.dense c l _ (List.getElem?_eq_getElem hl)]
  exact Nat.succ_lt_succ hkl

/-- The entry that another one is linked to is the latest of those before it with its seed. -/
theorem latest_of_supersedes (h : Chronicle i es) {y : LedgerEntry} (hy : y ∈ es) {id : LedgerId}
    (hs : y.record.supersedes = some id) :
    ∃ x ∈ es, x.id = id ∧ SameLuck x y ∧ x.id.seq < y.id.seq ∧
      ∀ z ∈ es, SameLuck z y → z.id.seq < y.id.seq → z.id.seq ≤ x.id.seq := by
  obtain ⟨n, hn, hid⟩ := h.exists_place hy
  have hseq : y.id.seq = n + 1 := by rw [hid]
  rw [h.linked _ n y hn] at hs
  obtain ⟨x, hx, rfl⟩ := Option.map_eq_some_iff.1 hs
  -- the search runs backwards: what it passed over is later, what it did not reach is earlier
  obtain ⟨hxs, as, bs, hsplit, has⟩ := List.find?_eq_some_iff_append.1 hx
  have hxm : x ∈ (i.history y.id.character).take n := by
    rw [← List.mem_reverse, hsplit]
    simp
  obtain ⟨hxe, hxc, hxn⟩ := h.mem_take.1 hxm
  refine ⟨x, hxe, rfl, ⟨hxc, by simpa using hxs⟩, by omega, fun z hz hzy hlt => ?_⟩
  have hzm : z ∈ as ++ x :: bs := by
    rw [← hsplit, List.mem_reverse]
    exact h.mem_take.2 ⟨hz, hzy.1, by omega⟩
  have hsorted : (as ++ x :: bs).Pairwise fun x y => y.id.seq < x.id.seq := by
    rw [← hsplit, List.pairwise_reverse]
    exact (h.pairwise_seq _).sublist (List.take_sublist _ _)
  rcases List.mem_append.1 hzm with hza | hzb
  · -- nothing before it in the search has the seed
    exact absurd (has z hza) (by simpa using hzy.2)
  · rcases List.mem_cons.1 hzb with rfl | hzb
    · exact Nat.le_refl _
    · have := (List.pairwise_append.1 hsorted).2.1
      exact Nat.le_of_lt (List.rel_of_pairwise_cons this hzb)

/-- An entry that comes after another one with its seed is linked. -/
theorem exists_supersedes (h : Chronicle i es) {x y : LedgerEntry} (hx : x ∈ es) (hy : y ∈ es)
    (hxy : SameLuck x y) (hlt : x.id.seq < y.id.seq) : ∃ id, y.record.supersedes = some id := by
  obtain ⟨n, hn, hid⟩ := h.exists_place hy
  have hseq : y.id.seq = n + 1 := by rw [hid]
  rw [h.linked _ n y hn]
  have hm : x ∈ ((i.history y.id.character).take n).reverse :=
    List.mem_reverse.2 (h.mem_take.2 ⟨hx, hxy.1, by omega⟩)
  obtain ⟨z, -, hz, -⟩ := exists_find?
    (p := fun z => z.record.derivedSeed == y.record.derivedSeed) hm (by simpa using hxy.2)
  exact ⟨z.id, by rw [hz]; rfl⟩

/-- **No entry is superseded twice.** -/
theorem superseded_once (h : Chronicle i es) {y z : LedgerEntry} (hy : y ∈ es) (hz : z ∈ es)
    {id : LedgerId} (hys : y.record.supersedes = some id) (hzs : z.record.supersedes = some id) :
    y = z := by
  obtain ⟨x, hx, hxid, hxy, hlty, hmaxy⟩ := h.latest_of_supersedes hy hys
  obtain ⟨x', hx', hxid', hxz, hltz, hmaxz⟩ := h.latest_of_supersedes hz hzs
  obtain rfl : x = x' := h.eq_of_id_eq hx hx' (hxid.trans hxid'.symm)
  have hyz : SameLuck y z := ⟨hxy.1.symm.trans hxz.1, hxy.2.symm.trans hxz.2⟩
  have hzy : SameLuck z y := ⟨hyz.1.symm, hyz.2.symm⟩
  -- the earlier of the two would come between the other one and what it is linked to
  rcases Nat.lt_trichotomy y.id.seq z.id.seq with hlt | heq | hlt
  · have := hmaxz y hy hyz hlt
    omega
  · exact h.eq_of_seq_eq hy hz hyz.1 heq
  · have := hmaxy z hz hzy hlt
    omega

/-- A link leads to an earlier entry with the same seed. -/
theorem retries_spec (h : Chronicle i es) {x y : LedgerEntry} (hr : Retries es y x) :
    SameLuck x y ∧ x.id.seq < y.id.seq := by
  obtain ⟨hy, hx, hs⟩ := hr
  obtain ⟨x', hx', hid, hxy, hlt, -⟩ := h.latest_of_supersedes hy hs
  obtain rfl := h.eq_of_id_eq hx' hx hid
  exact ⟨hxy, hlt⟩

/-- **Following the links visits exactly the earlier entries with the same seed.** -/
theorem transGen_iff (h : Chronicle i es) {x y : LedgerEntry} :
    Relation.TransGen (Retries es) y x ↔
      y ∈ es ∧ x ∈ es ∧ SameLuck x y ∧ x.id.seq < y.id.seq := by
  constructor
  · intro ht
    induction ht with
    | single hr =>
      obtain ⟨hxy, hlt⟩ := h.retries_spec hr
      exact ⟨hr.1, hr.2.1, hxy, hlt⟩
    | tail _ hr ih =>
      obtain ⟨hy, -, hzy, hltz⟩ := ih
      obtain ⟨hxz, hltx⟩ := h.retries_spec hr
      exact ⟨hy, hr.2.1, ⟨hxz.1.trans hzy.1, hxz.2.trans hzy.2⟩, Nat.lt_trans hltx hltz⟩
  · rintro ⟨hy, hx, hxy, hlt⟩
    -- the link from `y` leads to `x`, or to an entry between the two
    induction hn : y.id.seq using Nat.strongRecOn generalizing y with
    | ind n ih =>
      subst hn
      obtain ⟨id, hs⟩ := h.exists_supersedes hx hy hxy hlt
      obtain ⟨z, hz, rfl, hzy, hltz, hmax⟩ := h.latest_of_supersedes hy hs
      have hr : Retries es y z := ⟨hy, hz, hs⟩
      rcases Nat.lt_or_eq_of_le (hmax x hx hxy hlt) with hxz | hxz
      · exact .head hr (ih _ hltz hz ⟨hxy.1.trans hzy.1.symm, hxy.2.trans hzy.2.symm⟩ hxz rfl)
      · rw [h.eq_of_seq_eq hx hz (hxy.1.trans hzy.1.symm) hxz]
        exact .single hr

end Chronicle

end Reckoning
