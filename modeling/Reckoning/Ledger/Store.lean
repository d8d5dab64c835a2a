import Reckoning.Ledger.Error
import Reckoning.Ledger.Period
import Reckoning.Record

/-!
# Stores

A store keeps the entries of a ledger.  It can be appended to and read; nothing is ever
changed or deleted.

* `Store` lists the operations.  An append gives its result together with the store that goes on,
  also where it fails.
* `Store.scanLatest` and `Store.scanBySeed` answer by going through the whole history; they
  serve where a store has nothing faster.
-/

namespace Reckoning

/-- A result that a ledger may refuse. -/
abbrev LedgerResult := Except LedgerError

/-- Keeping the entries of a ledger. -/
class Store (σ : Type) where
  /-- The name of this way of keeping entries. -/
  name : σ → String
  /-- Commit a record under the next name of its character. -/
  append : σ → ActionRecord → LedgerResult LedgerId × σ
  /-- The entry with a name. -/
  get? : σ → LedgerId → LedgerResult (Option LedgerEntry)
  /-- The entries of a character within a period, in order. -/
  query : σ → CharacterId → Period → LedgerResult (List LedgerEntry)
  /-- Every entry, by character and then by place. -/
  entries : σ → LedgerResult (List LedgerEntry)
  /-- The latest entry of a character. -/
  latest? : σ → CharacterId → LedgerResult (Option LedgerEntry)
  /-- The latest entry of a character for a seed that luck was drawn from. -/
  findBySeed? : σ → CharacterId → UInt64 → LedgerResult (Option LedgerEntry)

namespace Store

/-- The latest of all entries of a character. -/
def scanLatest (query : CharacterId → Period → LedgerResult (List LedgerEntry))
    (c : CharacterId) : LedgerResult (Option LedgerEntry) :=
  List.getLast? <$> query c .always

/-- The latest entry with a seed among all of a character. -/
def scanBySeed (query : CharacterId → Period → LedgerResult (List LedgerEntry))
    (c : CharacterId) (seed : UInt64) : LedgerResult (Option LedgerEntry) :=
  (fun es => es.reverse.find? (·.record.derivedSeed == seed)) <$> query c .always

end Store

end Reckoning
