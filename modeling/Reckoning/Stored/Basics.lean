import Reckoning.Identity
import Reckoning.Json.Decode
import Reckoning.Modifiers
import Reckoning.Timestamp.Text
import Reckoning.Trigger

/-!
# Stored form of the small nouns

How ids, moments, modifiers and names look in JSON.  Numbers of characters and items are bare
integers, other ids and moments are texts, and a set of modifiers is a table with a member for
each of its entries.

Every noun has `toJson`, which writes the stored form, and `ofJson`, which reads it.
-/

namespace Reckoning

open Json (Decoder Value)

/-- The stored form of a word. -/
def wordToJson (w : UInt64) : Value := .int w.toNat

namespace CharacterId

/-- The stored form. -/
def toJson (c : CharacterId) : Value := wordToJson c.raw

/-- Read the stored form. -/
def ofJson : Decoder CharacterId := fun v => mk <$> Json.word v

end CharacterId

namespace ItemId

/-- The stored form. -/
def toJson (i : ItemId) : Value := wordToJson i.raw

/-- Read the stored form. -/
def ofJson : Decoder ItemId := fun v => mk <$> Json.word v

end ItemId

namespace DefId

/-- The stored form. -/
def toJson (d : DefId) : Value := .text d.text

/-- Read the stored form. -/
def ofJson : Decoder DefId := fun v => mk <$> Json.text v

end DefId

namespace RoomId

/-- The stored form. -/
def toJson (r : RoomId) : Value := .text r.text

/-- Read the stored form. -/
def ofJson : Decoder RoomId := fun v => mk <$> Json.text v

end RoomId

namespace LedgerId

/-- The stored form. -/
def toJson (l : LedgerId) : Value :=
  .table [("character", l.character.toJson), ("seq", .int l.seq)]

/-- Read the stored form. -/
def ofJson : Decoder LedgerId := Json.record <|
  mk <$> .required "character" CharacterId.ofJson
    <*> .required "seq" fun v => UInt64.toNat <$> Json.word v

end LedgerId

namespace Timestamp

/-- The stored form. -/
def toJson (t : Timestamp) : Value := .text t.write

/-- Read the stored form. -/
def ofJson : Decoder Timestamp
  | .text s => (read? s).elim (.error .form) .ok
  | _ => .error .form

end Timestamp

namespace Trigger

/-- The stored form. -/
def toJson (t : Trigger) : Value := .text t.name

/-- Read the stored form. -/
def ofJson : Decoder Trigger := Json.oneOf ofName?

end Trigger

namespace Modifiers

/-- The stored form. -/
def toJson (m : Modifiers) : Value := .table (m.entries.map fun p => (p.1.name, .int p.2))

/-- Set the entry of one axis, whatever it was. -/
def put (m : Modifiers) (axis : Axis) (points : Int) : Modifiers :=
  ⟨m.slots.update axis fun _ => some points⟩

/-- Read the stored form.  Of two members with one name the second counts. -/
def ofJson : Decoder Modifiers
  | .table members => members.foldlM
      (fun m p => do
        let axis ← (Axis.ofName? p.1).elim (.error .form) .ok
        return m.put axis (← Json.int32 p.2))
      empty
  | _ => .error .form

end Modifiers

end Reckoning
