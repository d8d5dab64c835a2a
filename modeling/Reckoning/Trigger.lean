import Reckoning.Identity
import Reckoning.Outcome
import Reckoning.RuleError

/-!
# Triggers

A trait takes part in an action when one of its triggers matches.

* `Trigger.holdsIn` decides a trigger from the circumstances (`Circumstances`) of the action.
* `Trigger.holdsAfter` decides the triggers that wait for the outcome.
* `Trigger.not_holdsIn_of_isPostHoc`: no trigger is decided twice.
-/

namespace Reckoning

/-- What a trigger may look at before the outcome is known. -/
structure Circumstances where
  action : DefId
  roomType : DefId
  /-- Somebody watches. -/
  observed : Bool
  highRisk : Bool
  unarmed : Bool
  rushed : Bool
deriving DecidableEq, Repr

/-- When a trait takes part. -/
inductive Trigger
  | always
  | onSuccess
  | onFailure
  | whenObserved
  | whenHighRisk
  | whenUnarmed
  | whenRushed
deriving DecidableEq, Repr

namespace Trigger

/-- Every trigger. -/
def all : List Trigger :=
  [always, onSuccess, onFailure, whenObserved, whenHighRisk, whenUnarmed, whenRushed]

/-- The written name of a trigger. -/
def name : Trigger → String
  | always => "always"
  | onSuccess => "on_success"
  | onFailure => "on_failure"
  | whenObserved => "when_observed_by_npc"
  | whenHighRisk => "when_high_risk"
  | whenUnarmed => "when_unarmed"
  | whenRushed => "when_rushed"

/-- The trigger with a written name. -/
def ofName? (text : String) : Option Trigger := all.find? (·.name == text)

/-- The trigger with a written name, or the rule that the name breaks. -/
def ofName (text : String) : Except RuleError Trigger :=
  match ofName? text with
  | some t => .ok t
  | none => .error (.unknownTrigger text)

/-- The trigger waits for the outcome. -/
def isPostHoc : Trigger → Bool
  | onSuccess => true
  | onFailure => true
  | _ => false

/-- The trigger matches the circumstances.  One that waits for the outcome does not. -/
def holdsIn (t : Trigger) (c : Circumstances) : Bool :=
  match t with
  | always => true
  | onSuccess => false
  | onFailure => false
  | whenObserved => c.observed
  | whenHighRisk => c.highRisk
  | whenUnarmed => c.unarmed
  | whenRushed => c.rushed

/-- The trigger waited for this outcome.  A partial success is neither a success nor a
failure. -/
def holdsAfter (t : Trigger) (o : Outcome) : Bool :=
  match t with
  | onSuccess => o == .success
  | onFailure => o == .failure
  | _ => false

theorem not_holdsIn_of_isPostHoc {t : Trigger} (h : t.isPostHoc) (c : Circumstances) :
    t.holdsIn c = false := by
  cases t <;> simp_all [isPostHoc, holdsIn]

theorem isPostHoc_of_holdsAfter {t : Trigger} {o : Outcome} (h : t.holdsAfter o) :
    t.isPostHoc := by
  cases t <;> simp_all [isPostHoc, holdsAfter]

end Trigger

end Reckoning
