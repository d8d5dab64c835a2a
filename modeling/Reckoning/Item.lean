import Reckoning.Character

/-!
# Items

An item never changes once it is forged, and keeps a copy of its maker as they were then.

* `MakerProfile.capture` takes that copy.
* `Item.isBaseline`: an item without quirks changes nothing in a resolution.
-/

namespace Reckoning

/-- A maker at the moment of forging. -/
structure MakerProfile where
  creator : CharacterId
  attributes : AttributeSet
  quirks : List DefId
  capturedAt : Timestamp
deriving DecidableEq, Repr

/-- Copy the attributes and quirks of a character. -/
def MakerProfile.capture (maker : Character) (moment : Timestamp) : MakerProfile where
  creator := maker.id
  attributes := maker.attributes
  quirks := maker.quirks
  capturedAt := moment

/-- A forged item. -/
structure Item where
  id : ItemId
  itemType : DefId
  creator : CharacterId
  makerProfile : MakerProfile
  quirks : List DefId
  createdAt : Timestamp
deriving DecidableEq, Repr

/-- The item has no quirks. -/
def Item.isBaseline (i : Item) : Bool := i.quirks.isEmpty

end Reckoning
