import Reckoning.Ledger.LineFile
import Reckoning.Ledger.Memory
import Reckoning.Proofs.Ledger.Index

/-!
# Stores over an index

A ledger in memory and a ledger in a file both answer from an index.  What they answer is settled by
that index, whatever they keep beside it.

* `IndexedStore` is what they have in common.
* `Store.appendAll` appends records in a row; `Store.exists_appendAll` says what comes of it.
* `Store.SameAnswers` compares two stores, `Store.sameAnswers_of_index` by their indexes.
* `LawfulStore`: what an append that fails may not do.
-/

namespace Reckoning

/-- Stores that answer from an index, and commit onto it. -/
class IndexedStore (σ : Type) [Store σ] where
  index : σ → Index
  get?_eq : ∀ (s : σ) id, Store.get? s id = .ok ((index s).get? id)
  query_eq : ∀ (s : σ) c p, Store.query s c p = .ok ((index s).query c p)
  entries_eq : ∀ s : σ, Store.entries s = .ok (index s).entries
  latest?_eq : ∀ (s : σ) c, Store.latest? s c = .ok ((index s).latest? c)
  findBySeed?_eq : ∀ (s : σ) c seed, Store.findBySeed? s c seed = .ok ((index s).findBySeed? c seed)
  append_eq : ∀ (s : σ) r, ∃ s', Store.append s r = (.ok ((index s).nextId r.character), s') ∧
    index s' = (index s).push ⟨(index s).nextId r.character, r⟩

instance : IndexedStore MemoryLedger where
  index := MemoryLedger.index
  get?_eq _ _ := rfl
  query_eq _ _ _ := rfl
  entries_eq _ := rfl
  latest?_eq _ _ := rfl
  findBySeed?_eq _ _ _ := rfl
  append_eq _ _ := ⟨_, rfl, rfl⟩

instance {f : LineFormat} : IndexedStore (LineLedger f) where
  index := LineLedger.index
  get?_eq _ _ := rfl
  query_eq _ _ _ := rfl
  entries_eq _ := rfl
  latest?_eq _ _ := rfl
  findBySeed?_eq _ _ _ := rfl
  append_eq _ _ := ⟨_, rfl, rfl⟩

namespace Store

variable {σ τ : Type} [Store σ] [Store τ]

/-- Append records in a row, and tell under which names. -/
def appendAll (s : σ) : List ActionRecord → LedgerResult (List LedgerId × σ)
  | [] => .ok ([], s)
  | r :: rs =>
    match append s r with
    | (.error error, _) => .error error
    | (.ok id, s) => do
      let (ids, s) ← appendAll s rs
      return (id :: ids, s)

theorem exists_appendAll [IndexedStore σ] (s : σ) (rs : List ActionRecord) :
    ∃ s', appendAll s rs = .ok (((IndexedStore.index s).commits rs).map (·.id), s') ∧
      IndexedStore.index s' =
        (IndexedStore.index s).pushAll ((IndexedStore.index s).commits rs) := by
  induction rs generalizing s with
  | nil => exact ⟨s, rfl, rfl⟩
  | cons r rs ih =>
    obtain ⟨s₁, happ, hi⟩ := IndexedStore.append_eq s r
    obtain ⟨s', hs', hi'⟩ := ih s₁
    rw [hi] at hs' hi'
    refine ⟨s', ?_, hi'⟩
    unfold appendAll
    rw [happ]
    change appendAll s₁ rs >>= _ = _
    rw [hs']
    rfl

theorem appendAll_memory (l : MemoryLedger) (rs : List ActionRecord) :
    appendAll l rs =
      .ok ((l.index.commits rs).map (·.id), ⟨l.index.pushAll (l.index.commits rs)⟩) := by
  obtain ⟨l', hl', hi⟩ := exists_appendAll l rs
  rw [hl']
  exact congrArg (fun i => Except.ok (_, MemoryLedger.mk i)) hi

/-- Both stores give the same answers. -/
structure SameAnswers (s : σ) (t : τ) : Prop where
  get? : ∀ id, Store.get? s id = Store.get? t id
  query : ∀ c p, Store.query s c p = Store.query t c p
  entries : Store.entries s = Store.entries t
  latest? : ∀ c, Store.latest? s c = Store.latest? t c
  findBySeed? : ∀ c seed, Store.findBySeed? s c seed = Store.findBySeed? t c seed

theorem SameAnswers.refl (s : σ) : SameAnswers s s :=
  ⟨fun _ => rfl, fun _ _ => rfl, rfl, fun _ => rfl, fun _ _ => rfl⟩

theorem sameAnswers_of_index [IndexedStore σ] [IndexedStore τ] {s : σ} {t : τ}
    (h : IndexedStore.index s = IndexedStore.index t) : SameAnswers s t where
  get? id := by rw [IndexedStore.get?_eq, IndexedStore.get?_eq, h]
  query c p := by rw [IndexedStore.query_eq, IndexedStore.query_eq, h]
  entries := by rw [IndexedStore.entries_eq, IndexedStore.entries_eq, h]
  latest? c := by rw [IndexedStore.latest?_eq, IndexedStore.latest?_eq, h]
  findBySeed? c seed := by rw [IndexedStore.findBySeed?_eq, IndexedStore.findBySeed?_eq, h]

end Store

/-! ### Stores that keep their word -/

/-- A store that keeps its word: an append that fails leaves nothing to be seen. -/
class LawfulStore (σ : Type) [Store σ] : Prop where
  append_failed : ∀ {s s' : σ} {r : ActionRecord} {error : LedgerError},
    Store.append s r = (.error error, s') → Store.SameAnswers s s'

instance {σ : Type} [Store σ] [IndexedStore σ] : LawfulStore σ where
  append_failed {s _ r _} h := by
    obtain ⟨_, happ, -⟩ := IndexedStore.append_eq s r
    cases happ.symm.trans h

instance : LawfulStore PlainLedger where
  append_failed {l l' r error} h := by
    have hl : l' = l := by
      change l.append r = _ at h
      unfold PlainLedger.append at h
      split at h <;> cases h
      rfl
    rw [hl]
    exact .refl l

end Reckoning
