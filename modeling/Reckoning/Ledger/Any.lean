import Reckoning.Ledger.JsonLines
import Reckoning.Ledger.Memory

/-!
# Ledgers of any kind

* `AnyLedger` is a ledger whose way of keeping entries was chosen while the program runs.
-/

namespace Reckoning

/-- A ledger of any kind. -/
inductive AnyLedger
  | memory (ledger : MemoryLedger)
  | plain (ledger : PlainLedger)
  | file (ledger : JsonLedger)

namespace AnyLedger

instance : Store AnyLedger where
  name
    | memory l => Store.name l
    | plain l => Store.name l
    | file l => Store.name l
  append
    | memory l, r => (Store.append l r).map id memory
    | plain l, r => (Store.append l r).map id plain
    | file l, r => (Store.append l r).map id file
  get?
    | memory l, id => Store.get? l id
    | plain l, id => Store.get? l id
    | file l, id => Store.get? l id
  query
    | memory l, c, p => Store.query l c p
    | plain l, c, p => Store.query l c p
    | file l, c, p => Store.query l c p
  entries
    | memory l => Store.entries l
    | plain l => Store.entries l
    | file l => Store.entries l
  latest?
    | memory l, c => Store.latest? l c
    | plain l, c => Store.latest? l c
    | file l, c => Store.latest? l c
  findBySeed?
    | memory l, c, seed => Store.findBySeed? l c seed
    | plain l, c, seed => Store.findBySeed? l c seed
    | file l, c, seed => Store.findBySeed? l c seed

end AnyLedger

end Reckoning
