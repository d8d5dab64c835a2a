/-!
# Outcomes

How an action turned out (`Outcome`) and how that should be read (`Interpretation`).
-/

namespace Reckoning

/-- How an action turned out. -/
inductive Outcome
  | success
  | partialSuccess
  | failure
deriving DecidableEq, Repr

namespace Outcome

/-- Every outcome, the best first. -/
def all : List Outcome := [success, partialSuccess, failure]

/-- The written name of an outcome. -/
def name : Outcome → String
  | success => "success"
  | partialSuccess => "partial_success"
  | failure => "failure"

/-- The outcome with a written name. -/
def ofName? (text : String) : Option Outcome := all.find? (·.name == text)

/-- How good an outcome is. -/
def rank : Outcome → Nat
  | failure => 0
  | partialSuccess => 1
  | success => 2

end Outcome

/-- How an outcome should be read. -/
inductive Interpretation
  /-- The character had it in their own hands. -/
  | avoidable
  /-- The circumstances had it. -/
  | inevitable
  /-- A failure that a trait of the character turns into luck. -/
  | fortunate
deriving DecidableEq, Repr

namespace Interpretation

/-- Every interpretation. -/
def all : List Interpretation := [avoidable, inevitable, fortunate]

/-- The written name of an interpretation. -/
def name : Interpretation → String
  | avoidable => "avoidable"
  | inevitable => "inevitable"
  | fortunate => "fortunate"

/-- The interpretation with a written name. -/
def ofName? (text : String) : Option Interpretation := all.find? (·.name == text)

end Interpretation

end Reckoning
