/-!
# Broken rules

The ways in which a name, a number or a record can break a rule of the fiction, and the
sentence that reports each.
-/

namespace Reckoning

/-- Why a set of character traits is refused. -/
inductive TraitFault
  /-- The number of traits of the first kind is outside `least` to `most`. -/
  | quirkCount (least most found : Nat)
  /-- No trait of the third kind was given. -/
  | noUselessBit
  /-- An id occurs a second time among the traits. -/
  | repeated (id : String)
  /-- A fault that is known by its sentence only. -/
  | other (sentence : String)
deriving DecidableEq, Repr

/-- The sentence that reports a trait fault. -/
def TraitFault.message : TraitFault → String
  | .quirkCount least most found => s!"expected {least}..={most} quirks, got {found}"
  | .noUselessBit => "at least one useless bit is required"
  | .repeated id => s!"duplicate trait id: {id}"
  | .other sentence => sentence

/-- A name, a number or a record that breaks a rule. -/
inductive RuleError
  | unknownAxis (name : String)
  | unknownAttribute (name : String)
  | unknownTrigger (name : String)
  | invalidSex (text : String)
  | attributeOutOfRange (name : String) (value : Int)
  | invalidCharacter (fault : TraitFault)
deriving DecidableEq, Repr

/-- The sentence that reports a broken rule. -/
def RuleError.message : RuleError → String
  | .unknownAxis name => s!"Unknown axis: {name}"
  | .unknownAttribute name => s!"Unknown attribute: {name}"
  | .unknownTrigger name => s!"Unknown trigger condition: {name}"
  | .invalidSex text => s!"Invalid sex: {text}"
  | .attributeOutOfRange name value =>
    s!"Attribute {name} out of range: {value} (expected 1..=10)"
  | .invalidCharacter fault => s!"Invalid character: {fault.message}"

end Reckoning
