import Reckoning.Identity
import Reckoning.Modifiers

/-!
# Actions

What characters attempt, and how harshly it is judged.
-/

namespace Reckoning

/-- Something that characters attempt. -/
structure Action where
  id : DefId
  /-- Luck on timing or precision beyond it breaks the action. -/
  threshold : Int
  /-- A broken action with less stability fails. -/
  floor : Int
  /-- Luck on each axis is at most this far from zero. -/
  spread : Int
  highRisk : Bool
  /-- The types of items that the action expects. -/
  itemTypes : List DefId
  /-- What counts when none of them is at hand. -/
  unarmedModifiers : Modifiers
  description : String

/-- The action expects an item. -/
def Action.expectsItems (a : Action) : Bool := !a.itemTypes.isEmpty

end Reckoning
