import Reckoning.Ledger.Store

/-!
# Queries

A query selects entries by character, period, outcome and action; a criterion that is missing
selects all.

* `Query.selects` decides an entry, `Query.run` asks a store.
-/

namespace Reckoning

/-- Criteria for entries. -/
structure Query where
  character : Option CharacterId
  period : Period
  outcome : Option Outcome
  action : Option DefId
deriving DecidableEq, Repr

namespace Query

/-- The query that selects everything. -/
def everything : Query := ⟨none, .always, none, none⟩

/-- An entry meets every criterion. -/
def selects (q : Query) (e : LedgerEntry) : Bool :=
  q.character.all (e.record.character == ·)
    && q.period.contains e.record.timestamp
    && q.outcome.all (e.record.outcome == ·)
    && q.action.all (e.record.action == ·)

variable {σ : Type} [Store σ]

/-- The entries that a query has to look at: those of its character, or all. -/
def candidates (q : Query) (s : σ) : LedgerResult (List LedgerEntry) :=
  match q.character with
  | some c => Store.query s c q.period
  | none => Store.entries s

/-- The entries of a store that a query selects. -/
def run (q : Query) (s : σ) : LedgerResult (List LedgerEntry) :=
  List.filter q.selects <$> q.candidates s

end Query

end Reckoning
