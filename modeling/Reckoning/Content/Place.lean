import Reckoning.Content.Trait

/-!
# Quirks of places

A room names the environmental quirks that it has; a quirk may be confined to some types of
rooms and to some actions.
-/

namespace Reckoning

/-- A property of a place. -/
structure EnvironmentalQuirk where
  id : DefId
  /-- The types of rooms that have it; all of them if there is none. -/
  roomTypes : List DefId
  modifiers : Modifiers
  /-- The actions that it bends; all of them if there is none. -/
  actions : List DefId
  severity : Severity
  description : String

end Reckoning
