import Reckoning.Content.Definition
import Reckoning.Decimal.Text
import Reckoning.RuleError

/-!
# Refused definitions

* `Refusal` is why a definition is left out of a library.
* `Rejection` is a definition that was left out.
* `ContentError` is why no library comes about at all.
-/

namespace Reckoning

/-- The largest integer, up to its sign, in a definition. -/
def contentLimit : Int := 1000

/-- Why a definition is left out of a library. -/
inductive Refusal
  /-- The text is no definition of its kind. -/
  | unreadable (detail : String)
  | weight (value : Float)
  | noTrigger
  | rule (error : RuleError)
  /-- A value is farther from zero than `contentLimit`. -/
  | outOfBounds (what : String) (value : Int)
  | magnitude (least most : Int)
  | negative (what : String) (value : Int)
  /-- The id belongs to another trait already. -/
  | takenTrait (id : DefId)
  /-- The id belongs to another definition of the kind already. -/
  | taken (id : DefId)
  /-- An item type starts with an item quirk that does not exist. -/
  | unknownDefault (quirk : DefId)

/-- The sentence that reports a refusal. -/
def Refusal.message : Refusal → String
  | .unreadable detail => detail
  | .weight value => "rarity weight must be > 0, got " ++ Decimal.Layout.plain.write value
  | .noTrigger => "at least one trigger condition is required"
  | .rule error => error.message
  | .outOfBounds what value => s!"{what} must be within ±{contentLimit}, got {value}"
  | .magnitude least most => s!"invalid magnitude range ({least}, {most})"
  | .negative what value => s!"{what} must be >= 0, got {value}"
  | .takenTrait id => s!"duplicate trait id '{id}'"
  | .taken id => s!"duplicate id '{id}'"
  | .unknownDefault quirk => s!"unknown default item quirk '{quirk}'"

/-- A definition that was left out. -/
structure Rejection where
  kind : Kind
  /-- The id as far as it could be read. -/
  id : String
  reason : Refusal

/-- What a library is short of. -/
inductive Shortage
  | quirks (found : Nat)
  | uselessBits
  | actions
  | other (sentence : String)

/-- The sentence that reports a shortage. -/
def Shortage.message : Shortage → String
  | .quirks found => s!"need at least {leastQuirks} quirks to issue characters, found {found}"
  | .uselessBits => "no useless bits defined"
  | .actions => "no actions defined"
  | .other sentence => sentence

/-- Why no library comes about. -/
inductive ContentError
  /-- A file or a folder cannot be read. -/
  | io (detail : String)
  /-- A text is no content file. -/
  | notContent (detail : String)
  /-- A definition is refused where none may be. -/
  | malformed (rejection : Rejection)
  | unusable (shortage : Shortage)

/-- The sentence that reports a content error. -/
def ContentError.message : ContentError → String
  | .io detail => s!"IO error: {detail}"
  | .notContent detail => s!"RON parse error: {detail}"
  | .malformed r => s!"Malformed {r.kind.name} definition '{r.id}': {r.reason.message}"
  | .unusable shortage => s!"Content library unusable: {shortage.message}"

end Reckoning
