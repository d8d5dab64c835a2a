import Reckoning.Character
import Reckoning.Item
import Reckoning.Room
import Reckoning.Stored.Basics

/-!
# Stored form of characters, items and rooms

A stored character is admitted again when it is read, so one that breaks a rule is reported by
that rule.
-/

namespace Reckoning

open Json (Decoder Value)

namespace AttributeSet

/-- The stored form: the seven values. -/
def toJson (s : AttributeSet) : Value := .list (s.values.map .int)

/-- Read the stored form. -/
def ofJson : Decoder AttributeSet := fun v => do
  let values ← Json.list Json.int32 v
  if h : values.length = 7 then Json.ofRule (ofValues values h) else .error .form

end AttributeSet

namespace Reputation

/-- The stored form. -/
def toJson (r : Reputation) : Value :=
  .table [("score", .int r.score), ("notes", .text r.notes)]

/-- Read the stored form. -/
def ofJson : Decoder Reputation := Json.record <|
  mk <$> .required "score" Json.int32 <*> .required "notes" Json.text

end Reputation

namespace Character

/-- The stored form. -/
def toJson (c : Character) : Value := .table [
  ("id", c.id.toJson),
  ("account_ref", .text c.account),
  ("sex", .text c.sex.name),
  ("attributes", c.attributes.toJson),
  ("quirks", .list (c.quirks.map DefId.toJson)),
  ("failings", .list (c.failings.map DefId.toJson)),
  ("useless_bits", .list (c.uselessBits.map DefId.toJson)),
  ("reputation", c.reputation.toJson),
  ("active", .bool c.active),
  ("issued_seed", .text c.issuedSeed),
  ("created_at", c.createdAt.toJson)]

/-- The fields of the stored form: the sheet, and whether the character is active. -/
def members : Json.Members (Sheet × Bool) :=
  (fun id account sex attributes quirks failings uselessBits reputation active issuedSeed
      createdAt =>
    ({ id, account, sex, attributes, quirks, failings, uselessBits, reputation, issuedSeed,
       createdAt }, active))
    <$> .required "id" CharacterId.ofJson
    <*> .required "account_ref" Json.text
    <*> .required "sex" (Json.oneOf Sex.ofName?)
    <*> .required "attributes" AttributeSet.ofJson
    <*> .required "quirks" (Json.list DefId.ofJson)
    <*> .required "failings" (Json.list DefId.ofJson)
    <*> .required "useless_bits" (Json.list DefId.ofJson)
    <*> .required "reputation" Reputation.ofJson
    <*> .required "active" Json.bool
    <*> .required "issued_seed" Json.text
    <*> .required "created_at" Timestamp.ofJson

/-- Read the stored form. -/
def ofJson : Decoder Character := fun v => do
  let (sheet, active) ← Json.record members v
  let c ← Json.ofRule (ofSheet sheet)
  return if active then c else c.deactivate

end Character

namespace MakerProfile

/-- The stored form. -/
def toJson (p : MakerProfile) : Value := .table [
  ("creator", p.creator.toJson),
  ("attributes", p.attributes.toJson),
  ("quirks", .list (p.quirks.map DefId.toJson)),
  ("captured_at", p.capturedAt.toJson)]

/-- Read the stored form. -/
def ofJson : Decoder MakerProfile := Json.record <|
  mk <$> .required "creator" CharacterId.ofJson
    <*> .required "attributes" AttributeSet.ofJson
    <*> .required "quirks" (Json.list DefId.ofJson)
    <*> .required "captured_at" Timestamp.ofJson

end MakerProfile

namespace Item

/-- The stored form. -/
def toJson (i : Item) : Value := .table [
  ("id", i.id.toJson),
  ("item_type", i.itemType.toJson),
  ("creator", i.creator.toJson),
  ("maker_profile", i.makerProfile.toJson),
  ("quirks", .list (i.quirks.map DefId.toJson)),
  ("created_at", i.createdAt.toJson)]

/-- Read the stored form. -/
def ofJson : Decoder Item := Json.record <|
  mk <$> .required "id" ItemId.ofJson
    <*> .required "item_type" DefId.ofJson
    <*> .required "creator" CharacterId.ofJson
    <*> .required "maker_profile" MakerProfile.ofJson
    <*> .required "quirks" (Json.list DefId.ofJson)
    <*> .required "created_at" Timestamp.ofJson

end Item

namespace Room

/-- The stored form. -/
def toJson (r : Room) : Value := .table [
  ("id", r.id.toJson),
  ("room_type", r.roomType.toJson),
  ("environmental_quirks", .list (r.environmentalQuirks.map DefId.toJson)),
  ("npc_present", .bool r.observed)]

/-- Read the stored form. -/
def ofJson : Decoder Room := Json.record <|
  mk <$> .required "id" RoomId.ofJson
    <*> .required "room_type" DefId.ofJson
    <*> .optional "environmental_quirks" [] (Json.list DefId.ofJson)
    <*> .optional "npc_present" false Json.bool

end Room

end Reckoning
