import Mathlib.Data.List.Induction
import Reckoning.Proofs.Ledger.Scans

/-!
# Numbered entries

Entries that bear the numbers one, two, three and so on for each character make a well-formed index,
whatever the order in which the characters come.

* `Numbered` says what the names of entries have to be; `Index.wellFormed_pushAll` that such entries
  make a well-formed index, `Index.history_pushAll` which history it tells.
* `Store.sameAnswers_of_mem_entries`: what a well-formed index answers depends on which entries
  there are, not on the order in which they came.
-/

namespace Reckoning

/-- The entries of every character are numbered from one, in their order. -/
def Numbered (es : List LedgerEntry) : Prop :=
  ∀ c, ∃ n, (es.filter (·.id.character = c)).map (·.id.seq) = List.range' 1 n

theorem numbered_nil : Numbered [] := fun _ => ⟨0, rfl⟩

/-- One more entry has to bear the next number of its character. -/
theorem numbered_concat {es : List LedgerEntry} {e : LedgerEntry} :
    Numbered (es ++ [e]) ↔ Numbered es ∧
      e.id.seq = (es.filter (·.id.character = e.id.character)).length + 1 := by
  have hown : (es ++ [e]).filter (·.id.character = e.id.character) =
      es.filter (·.id.character = e.id.character) ++ [e] := by simp
  have hother (c : CharacterId) (hc : e.id.character ≠ c) :
      (es ++ [e]).filter (·.id.character = c) = es.filter (·.id.character = c) := by simp [hc]
  constructor
  · intro h
    obtain ⟨n, hn⟩ := h e.id.character
    rw [hown, List.map_append] at hn
    cases n with
    | zero => exact absurd (List.append_eq_nil_iff.1 hn).2 (List.cons_ne_nil _ _)
    | succ n =>
      rw [List.range'_1_concat] at hn
      obtain ⟨hbefore, hlast⟩ := List.append_inj' hn rfl
      have hlength := congrArg List.length hbefore
      rw [List.length_map, List.length_range'] at hlength
      refine ⟨fun c => ?_, ?_⟩
      · by_cases hc : e.id.character = c
        · exact ⟨n, hc ▸ hbefore⟩
        · rw [← hother c hc]
          exact h c
      · have hseq : e.id.seq = 1 + n := (List.cons.inj hlast).1
        rw [hseq, hlength, Nat.add_comm]
  · rintro ⟨h, hseq⟩ c
    by_cases hc : e.id.character = c
    · subst hc
      obtain ⟨n, hn⟩ := h e.id.character
      have hlength := congrArg List.length hn
      rw [List.length_map, List.length_range'] at hlength
      refine ⟨n + 1, ?_⟩
      rw [hown, List.map_append, hn, List.range'_1_concat, Nat.add_comm 1, ← hlength, ← hseq]
      rfl
    · rw [hother c hc]
      exact h c

theorem Numbered.of_append {es fs : List LedgerEntry} (h : Numbered (es ++ fs)) : Numbered es := by
  induction fs using List.reverseRecOn with
  | nil => rwa [List.append_nil] at h
  | append_singleton fs e ih =>
    rw [← List.append_assoc] at h
    exact ih (numbered_concat.1 h).1

theorem LedgerId.eq_of_atMost {a b : LedgerId} (hab : a.atMost b) (hba : b.atMost a) : a = b := by
  obtain ⟨⟨c⟩, m⟩ := a
  obtain ⟨⟨d⟩, n⟩ := b
  simp only [LedgerId.atMost, Bool.or_eq_true, decide_eq_true_eq, Bool.and_eq_true, beq_iff_eq,
    CharacterId.mk.injEq, UInt64.lt_iff_toNat_lt, ← UInt64.toNat_inj] at hab hba
  have hcd : c = d := UInt64.toNat_inj.1 (by omega)
  have hmn : m = n := by omega
  rw [hcd, hmn]

namespace Index

/-- A history goes on with the entries of its character. -/
theorem history_pushAll {i : Index} (h : Ascending i.histories) (es : List LedgerEntry)
    (c : CharacterId) :
    (i.pushAll es).history c = i.history c ++ es.filter (·.id.character = c) := by
  induction es generalizing i with
  | nil => exact (List.append_nil _).symm
  | cons e es ih =>
    have hrest : (i.pushAll (e :: es)).history c = _ := ih (h.insertEntry e)
    rw [hrest, history_push h]
    by_cases hc : e.id.character = c
    · simp [hc]
    · simp [hc, Ne.symm hc]

theorem history_pushAll_empty (es : List LedgerEntry) (c : CharacterId) :
    (pushAll ∅ es).history c = es.filter (·.id.character = c) :=
  history_pushAll wellFormed_empty.ascending es c

theorem nextId_pushAll (es : List LedgerEntry) (c : CharacterId) :
    (pushAll ∅ es).nextId c = ⟨c, (es.filter (·.id.character = c)).length + 1⟩ := by
  unfold nextId
  rw [history_pushAll_empty]

theorem wellFormed_pushAll {es : List LedgerEntry} (h : Numbered es) :
    (pushAll ∅ es).WellFormed := by
  induction es using List.reverseRecOn with
  | nil => exact wellFormed_empty
  | append_singleton es e ih =>
    obtain ⟨hes, hseq⟩ := numbered_concat.1 h
    have hid : e.id = (pushAll ∅ es).nextId e.id.character := by rw [nextId_pushAll, ← hseq]
    rw [pushAll_append]
    exact (ih hes).push hid

theorem mem_entries_pushAll {es : List LedgerEntry} (h : Numbered es) {e : LedgerEntry} :
    e ∈ (pushAll ∅ es).entries ↔ e ∈ es := by
  rw [(wellFormed_pushAll h).mem_entries, history_pushAll_empty, List.mem_filter]
  simp

/-- Well-formed indexes of the same entries list them in the same order. -/
theorem WellFormed.entries_eq {i j : Index} (hi : i.WellFormed) (hj : j.WellFormed)
    (h : ∀ e, e ∈ i.entries ↔ e ∈ j.entries) : i.entries = j.entries := by
  have hnodup {i : Index} (hi : i.WellFormed) : i.entries.Nodup :=
    hi.entries_increasing.imp fun hxy heq => hxy.2 (congrArg LedgerEntry.id heq)
  have hperm := (List.perm_ext_iff_of_nodup (hnodup hi) (hnodup hj)).2 h
  refine hperm.eq_of_pairwise (fun x y _ _ hxy hyx => ?_) hi.entries_increasing hj.entries_increasing
  exact absurd (LedgerId.eq_of_atMost hxy.1 hyx.1) hxy.2

end Index

namespace Store

/-- What stores over well-formed indexes answer depends on nothing but which entries there are. -/
theorem sameAnswers_of_mem_entries {σ τ : Type} [Store σ] [Store τ] [IndexedStore σ]
    [IndexedStore τ] {s : σ} {t : τ} (hs : (IndexedStore.index s).WellFormed)
    (ht : (IndexedStore.index t).WellFormed)
    (h : ∀ e, e ∈ (IndexedStore.index s).entries ↔ e ∈ (IndexedStore.index t).entries) :
    SameAnswers s t := by
  have hentries := hs.entries_eq ht h
  have hhistory (c : CharacterId) :
      (IndexedStore.index s).history c = (IndexedStore.index t).history c := by
    rw [← hs.filter_entries, ← ht.filter_entries, hentries]
  refine ⟨fun id => ?_, fun c p => ?_, ?_, fun c => ?_, fun c seed => ?_⟩
  · rw [IndexedStore.get?_eq, IndexedStore.get?_eq, Index.get?, Index.get?, hhistory]
  · rw [IndexedStore.query_eq, IndexedStore.query_eq, Index.query, Index.query, hhistory]
  · rw [IndexedStore.entries_eq, IndexedStore.entries_eq, hentries]
  · rw [IndexedStore.latest?_eq, IndexedStore.latest?_eq, Index.latest?, Index.latest?, hhistory]
  · -- the row of a seed names the entry that a scan of the history finds
    rw [IndexedStore.findBySeed?_eq, IndexedStore.findBySeed?_eq, hs.findBySeed?_eq,
      ht.findBySeed?_eq, hhistory]

end Store

end Reckoning
