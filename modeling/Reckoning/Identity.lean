/-!
# Identities

The names by which records and definitions refer to each other.  Characters and items carry
64-bit numbers, definitions and rooms carry text, and an entry of the ledger is named by its
character and its place in that character's history.

* `LedgerId.atMost` orders entries by character, then by place.
-/

namespace Reckoning

/-- The number of an issued character. -/
structure CharacterId where
  raw : UInt64
deriving DecidableEq, Repr, Inhabited

/-- The number of a forged item. -/
structure ItemId where
  raw : UInt64
deriving DecidableEq, Repr, Inhabited

/-- The id of a definition: a trait, an action, a kind of item, and so on. -/
structure DefId where
  text : String
deriving DecidableEq, Repr, Inhabited

/-- The id of a room. -/
structure RoomId where
  text : String
deriving DecidableEq, Repr, Inhabited

/-- The name of an entry of the ledger.  Places count from one. -/
structure LedgerId where
  character : CharacterId
  seq : Nat
deriving DecidableEq, Repr, Inhabited

instance : Coe String DefId := ⟨DefId.mk⟩

instance : Coe String RoomId := ⟨RoomId.mk⟩

instance : ToString CharacterId := ⟨fun c => s!"char:{c.raw.toNat}"⟩

instance : ToString ItemId := ⟨fun i => s!"item:{i.raw.toNat}"⟩

instance : ToString DefId := ⟨DefId.text⟩

instance : ToString RoomId := ⟨RoomId.text⟩

instance : ToString LedgerId := ⟨fun l => s!"{toString l.character}#{l.seq}"⟩

/-- Definition ids are ordered by their characters. -/
def DefId.atMost (a b : DefId) : Bool := decide (a.text ≤ b.text)

/-- Entries are ordered by character, then by place. -/
def LedgerId.atMost (a b : LedgerId) : Bool :=
  a.character.raw < b.character.raw || (a.character == b.character && a.seq ≤ b.seq)

end Reckoning
