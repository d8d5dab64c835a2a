import Reckoning.Ledger.Index
import Reckoning.Ledger.Store

/-!
# Ledgers in memory

* `MemoryLedger` answers from its index and never fails.
* `PlainLedger` keeps its entries in the same way, but answers by scanning.  It may be told to
  fail, which shows what its users do when a ledger fails.
-/

namespace Reckoning

/-- A ledger that is kept in memory. -/
structure MemoryLedger where
  index : Index

namespace MemoryLedger

/-- The ledger without entries. -/
def empty : MemoryLedger := ⟨∅⟩

/-- Commit a record. -/
def append (l : MemoryLedger) (r : ActionRecord) : LedgerId × MemoryLedger :=
  let id := l.index.nextId r.character
  (id, ⟨l.index.push ⟨id, r⟩⟩)

instance : Store MemoryLedger where
  name _ := "memory"
  append l r := (.ok (l.append r).1, (l.append r).2)
  get? l id := .ok (l.index.get? id)
  query l c p := .ok (l.index.query c p)
  entries l := .ok l.index.entries
  latest? l c := .ok (l.index.latest? c)
  findBySeed? l c seed := .ok (l.index.findBySeed? c seed)

end MemoryLedger

/-- A ledger in memory that scans, and fails if it is told to. -/
structure PlainLedger where
  inner : MemoryLedger
  /-- The failure of every append. -/
  onAppend : Option LedgerError
  /-- The failure of every reading. -/
  onRead : Option LedgerError

namespace PlainLedger

/-- A result, unless there is a failure. -/
def orFail {α : Type} (failure : Option LedgerError) (a : α) : LedgerResult α :=
  match failure with
  | some e => .error e
  | none => .ok a

/-- The entries of a character within a period. -/
def query (l : PlainLedger) (c : CharacterId) (p : Period) : LedgerResult (List LedgerEntry) :=
  orFail l.onRead (l.inner.index.query c p)

/-- Commit a record, unless there is a failure. -/
def append (l : PlainLedger) (r : ActionRecord) : LedgerResult LedgerId × PlainLedger :=
  match l.onAppend with
  | some e => (.error e, l)
  | none =>
    let (id, inner) := l.inner.append r
    (.ok id, { l with inner })

instance : Store PlainLedger where
  name _ := "plain"
  append l r := l.append r
  get? l id := orFail l.onRead (l.inner.index.get? id)
  query l c p := l.query c p
  entries l := orFail l.onRead l.inner.index.entries
  latest? l c := Store.scanLatest l.query c
  findBySeed? l c seed := Store.scanBySeed l.query c seed

end PlainLedger

end Reckoning
