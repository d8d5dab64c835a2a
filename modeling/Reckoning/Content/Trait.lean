import Reckoning.Attribute
import Reckoning.Modifiers
import Reckoning.Trigger

/-!
# Traits of characters

A character carries quirks, failings and useless bits.

* `Failing.magnitudeFor` is the degradation of a character by a failing.
* `UselessBit.combined` is what a useless bit comes to.
-/

namespace Reckoning

/-- How much a trait matters. -/
inductive Severity
  | minor
  | moderate
  | major
deriving DecidableEq, Repr

namespace Severity

/-- The written name of a severity. -/
def name : Severity → String
  | minor => "minor"
  | moderate => "moderate"
  | major => "major"

/-- The severity with a written name. -/
def ofName? (text : String) : Option Severity := [minor, moderate, major].find? (·.name == text)

end Severity

/-- Whether the owner of a quirk knows of it. -/
inductive Discovery
  | visible
  | hidden
deriving DecidableEq, Repr

namespace Discovery

/-- The written name of a discovery. -/
def name : Discovery → String
  | visible => "visible"
  | hidden => "hidden"

/-- The discovery with a written name. -/
def ofName? (text : String) : Option Discovery := [visible, hidden].find? (·.name == text)

end Discovery

/-- A trait that bends the actions of a character. -/
structure Quirk where
  id : DefId
  category : DefId
  /-- How likely the quirk is drawn at issuance. -/
  weight : Float
  /-- One of them has to match. -/
  triggers : List Trigger
  modifiers : Modifiers
  severity : Severity
  discovery : Discovery
  /-- A failure that the quirk took part in reads as luck. -/
  reinterpretsFailure : Bool
  description : String

/-- A lasting deficiency. -/
structure Failing where
  id : DefId
  severity : Severity
  /-- The attributes that decide how bad it gets. -/
  affected : List Attribute
  triggers : List Trigger
  modifiers : Modifiers
  /-- The smallest degradation. -/
  leastMagnitude : Int
  /-- The largest degradation. -/
  mostMagnitude : Int
  /-- The degradation lands on a success as well. -/
  appliesOnSuccess : Bool
  weight : Float
  description : String

/-- The degradation of a character with some attributes.  The weaker those that are affected,
the closer to the largest; the middle where none is affected. -/
def Failing.magnitudeFor (f : Failing) (attributes : AttributeSet) : Int :=
  let least := f.leastMagnitude
  let most := f.mostMagnitude
  if most = least then
    least
  else if f.affected.isEmpty then
    (least + most).tdiv 2
  else
    let count : Int := f.affected.length
    let total := (f.affected.map attributes.get).foldl (· + ·) 0
    let weakness := mostAttribute * count - total
    let span := (mostAttribute - 1) * count
    let scaled := least + ((most - least) * weakness).tdiv span
    max least (min scaled most)

/-- A narrow speciality, whose bonus is paid for by a penalty. -/
structure UselessBit where
  id : DefId
  triggers : List Trigger
  bonus : Modifiers
  penalty : Modifiers
  weight : Float
  description : String

namespace UselessBit

/-- Bonus and penalty together. -/
def combined (b : UselessBit) : Modifiers := b.bonus.merge b.penalty

/-- The bonus outweighs the penalty. -/
def netsPositive (b : UselessBit) : Bool := 0 < b.combined.net

end UselessBit

end Reckoning
