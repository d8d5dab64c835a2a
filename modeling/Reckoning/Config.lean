import Reckoning.Decimal.Text

/-!
# Configuration

* `Config` is what the engine can be told; `Config.default` is what it does untold.
* `Config.fault?` is the first rule that a configuration breaks.
-/

namespace Reckoning

/-- What the engine can be told. -/
structure Config where
  /-- The weight of blame from which on an outcome reads as avoidable. -/
  avoidableThreshold : Float
  /-- How the seeds begin that the engine makes up itself. -/
  seedPrefix : String
  /-- A definition that is refused makes the loading of content fail. -/
  strictContent : Bool

/-- Why a configuration is refused. -/
inductive ConfigFault
  /-- The text is no configuration. -/
  | unreadable (detail : String)
  | thresholdOutside (value : Float)
  | emptyPrefix

/-- The sentence that reports a fault. -/
def ConfigFault.message : ConfigFault → String
  | .unreadable detail => detail
  | .thresholdOutside value =>
    "avoidable_threshold must be within [0, 1], got " ++ Decimal.Layout.plain.write value
  | .emptyPrefix => "default_seed_prefix must not be empty"

namespace Config

/-- What the engine does untold. -/
def default : Config := ⟨0.5, "auto", false⟩

instance : Inhabited Config := ⟨default⟩

/-- The first rule that a configuration breaks.  A threshold that is no number is outside. -/
def fault? (c : Config) : Option ConfigFault :=
  if !(0.0 ≤ c.avoidableThreshold && c.avoidableThreshold ≤ 1.0) then
    some (.thresholdOutside c.avoidableThreshold)
  else if c.seedPrefix.isEmpty then
    some .emptyPrefix
  else
    none

/-- The configuration, if it breaks no rule. -/
def checked (c : Config) : Except ConfigFault Config :=
  match c.fault? with
  | some fault => .error fault
  | none => .ok c

end Config

end Reckoning
