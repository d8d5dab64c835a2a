import Reckoning.Engine.Error
import Reckoning.Item
import Reckoning.Room

/-!
# The registry

What the engine knows of characters, items and rooms.  Of a character only the reputation and
the active flag change; an item never changes, but who holds it does; a room may be described
anew.

* `Registry.insertCharacter` keeps a character that is there already.
* `Registry.nextItem?` reserves a number for an item, while there are any.
* `Registry.possessedBy` are the items that a character can use.
-/

namespace Reckoning

/-- An item and who holds it. -/
structure Holding where
  item : Item
  holder : CharacterId
deriving DecidableEq, Repr

/-- What is known of characters, items and rooms. -/
structure Registry where
  characters : List Character
  holdings : List Holding
  rooms : List Room
  /-- The largest number that an item was given so far. -/
  lastItem : UInt64
deriving Repr

namespace Registry

/-- The registry that knows nothing. -/
def empty : Registry := ⟨[], [], [], 0⟩

instance : EmptyCollection Registry := ⟨empty⟩

instance : Inhabited Registry := ⟨empty⟩

/-- Put an element in the place of the one with the same key, or behind all others. -/
def put {α κ : Type} [DecidableEq κ] (key : α → κ) (x : α) : List α → List α
  | [] => [x]
  | y :: rest => if key y = key x then x :: rest else y :: put key x rest

/-! ### Characters -/

/-- The character with an id. -/
def character? (r : Registry) (id : CharacterId) : Option Character :=
  r.characters.find? (·.id == id)

/-- Register a character, unless its id is there already.  Says whether it was registered. -/
def insertCharacter (r : Registry) (c : Character) : Bool × Registry :=
  if (r.character? c.id).isSome then (false, r)
  else (true, { r with characters := r.characters ++ [c] })

/-- Change a character that is registered. -/
def changeCharacter (r : Registry) (id : CharacterId) (f : Character → Character) :
    EngineResult Registry :=
  match r.character? id with
  | none => .error (.characterNotFound id)
  | some _ =>
    .ok { r with characters := r.characters.map fun c => if c.id = id then f c else c }

/-- Retire a character. -/
def deactivate (r : Registry) (id : CharacterId) : EngineResult Registry :=
  r.changeCharacter id Character.deactivate

/-- Replace the reputation of a character. -/
def updateReputation (r : Registry) (id : CharacterId) (reputation : Reputation) :
    EngineResult Registry :=
  r.changeCharacter id (·.withReputation reputation)

/-! ### Items -/

/-- The largest number that an item can have. -/
def mostItem : UInt64 := 0xFFFFFFFFFFFFFFFF

/-- Reserve the next number of an item.  Behind the largest one there is none. -/
def nextItem? (r : Registry) : Option (ItemId × Registry) :=
  if r.lastItem = mostItem then none
  else some (⟨r.lastItem + 1⟩, { r with lastItem := r.lastItem + 1 })

/-- The item with an id, and who holds it. -/
def holding? (r : Registry) (id : ItemId) : Option Holding :=
  r.holdings.find? (·.item.id == id)

/-- The item with an id. -/
def item? (r : Registry) (id : ItemId) : Option Item := (r.holding? id).map (·.item)

/-- Who holds an item. -/
def holder? (r : Registry) (id : ItemId) : Option CharacterId := (r.holding? id).map (·.holder)

/-- Register an item in the hands of a character. -/
def insertItem (r : Registry) (item : Item) (holder : CharacterId) : Registry :=
  { r with
    lastItem := max r.lastItem item.id.raw
    holdings := put (·.item.id) ⟨item, holder⟩ r.holdings }

/-- Hand an item to a character. -/
def transfer (r : Registry) (id : ItemId) (recipient : CharacterId) : EngineResult Registry :=
  match r.character? recipient, r.holding? id with
  | none, _ => .error (.characterNotFound recipient)
  | some _, none => .error (.itemNotFound id)
  | some _, some h =>
    .ok { r with holdings := put (·.item.id) { h with holder := recipient } r.holdings }

/-- The items among those requested that a character holds, in the order of the request. -/
def possessedBy (r : Registry) (c : CharacterId) (requested : List ItemId) : List Item :=
  ((requested.filterMap r.holding?).filter (·.holder == c)).map (·.item)

/-! ### Rooms -/

/-- The room with an id. -/
def room? (r : Registry) (id : RoomId) : Option Room := r.rooms.find? (·.id == id)

/-- Register a room, or describe it anew. -/
def insertRoom (r : Registry) (room : Room) : Registry :=
  { r with rooms := put (·.id) room r.rooms }

end Registry

end Reckoning
