import Reckoning.Identity

/-!
# Rooms

A room is described by the world around the engine and may be described anew at any time.
-/

namespace Reckoning

/-- A place where characters act. -/
structure Room where
  id : RoomId
  roomType : DefId
  /-- What the place itself adds to an action, in the order in which it is applied. -/
  environmentalQuirks : List DefId
  /-- Somebody is there to watch. -/
  observed : Bool
deriving DecidableEq, Repr

end Reckoning
