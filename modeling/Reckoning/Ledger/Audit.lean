import Reckoning.Decimal.Text
import Reckoning.Record
import Reckoning.Tally

/-!
# Audits

What entries come to when they are counted.

* `Audit.of` counts entries; `Audit.report` is the text for a reader.
* `countFactor` and `avoidableEntries` answer single questions.
-/

namespace Reckoning

/-- What entries come to. -/
structure Audit where
  total : Nat
  /-- By the names of the outcomes. -/
  outcomes : Tally
  /-- By the names of the interpretations. -/
  interpretations : Tally
  factors : Tally
  /-- Entries that retry an earlier one. -/
  retries : Nat
  unarmed : Nat
  /-- The weights of blame, summed up in order. -/
  blameSum : Float

namespace Audit

/-- The audit of no entries. -/
def empty : Audit := ⟨0, ∅, ∅, ∅, 0, 0, 0.0⟩

/-- Count one more entry. -/
def add (a : Audit) (e : LedgerEntry) : Audit where
  total := a.total + 1
  outcomes := a.outcomes.add e.record.outcome.name
  interpretations := a.interpretations.add e.record.interpretation.name
  factors := a.factors.addAll (e.record.factors.map DefId.text)
  retries := if e.record.supersedes.isSome then a.retries + 1 else a.retries
  unarmed := if e.record.unarmed then a.unarmed + 1 else a.unarmed
  blameSum := a.blameSum + e.record.blameWeight

/-- The audit of some entries. -/
def of (es : List LedgerEntry) : Audit := es.foldl add empty

/-- The mean weight of blame, zero where there are no entries. -/
def meanBlame (a : Audit) : Float :=
  if a.total = 0 then 0.0 else a.blameSum / a.total.toFloat

/-- How many entries had an outcome. -/
def outcomeCount (a : Audit) (o : Outcome) : Nat := a.outcomes.count o.name

/-- How many entries read in some way. -/
def interpretationCount (a : Audit) (i : Interpretation) : Nat := a.interpretations.count i.name

/-- A headed list of counts, or nothing where nothing was counted. -/
def section? (title : String) (rows : List (String × Nat)) : String :=
  if rows.isEmpty then ""
  else s!"\n{title}:\n" ++ String.join (rows.map fun r => s!"  {r.1}: {r.2}\n")

/-- The text for a reader. -/
def report (a : Audit) : String :=
  "=== Ledger Audit ===\n"
    ++ s!"Total entries: {a.total}\n"
    ++ s!"Mean blame: {Decimal.writeFixed 3 a.meanBlame}\n"
    ++ s!"Retries: {a.retries}\n"
    ++ s!"Unarmed: {a.unarmed}\n"
    ++ section? "Outcomes" a.outcomes.rows
    ++ section? "Interpretations" a.interpretations.rows
    ++ section? "Factors" a.factors.byCount

end Audit

/-- How many entries a factor took part in. -/
def countFactor (es : List LedgerEntry) (factor : DefId) : Nat :=
  es.countP (·.record.factors.contains factor)

/-- The entries that the character could be blamed for. -/
def avoidableEntries (es : List LedgerEntry) : List LedgerEntry :=
  es.filter (·.record.interpretation == .avoidable)

end Reckoning
