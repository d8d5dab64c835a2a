import Reckoning.Record
import Reckoning.Stored.Basics

/-!
# Stored form of records

How a record and an entry of the ledger look in JSON.  A record may leave out whether the
action was rushed and which entry it retries.
-/

namespace Reckoning

open Json (Decoder Value)

namespace AxisResult

/-- The stored form. -/
def toJson (r : AxisResult) : Value :=
  .table [("base_modifier", .int r.base), ("deviation", .int r.deviation),
    ("final_value", .int r.final)]

/-- Read the stored form. -/
def ofJson : Decoder AxisResult := Json.record <|
  mk <$> .required "base_modifier" Json.int32
    <*> .required "deviation" Json.int32
    <*> .required "final_value" Json.int32

end AxisResult

namespace AxisResults

/-- The stored form. -/
def toJson (r : AxisResults) : Value :=
  .table (r.toList.map fun p => (p.1.name, p.2.toJson))

/-- Read the stored form. -/
def ofJson : Decoder AxisResults := Json.record <|
  let axis (a : Axis) : Json.Members AxisResult := .required a.name AxisResult.ofJson
  PerAxis.mk <$> axis .timing <*> axis .precision <*> axis .stability <*> axis .visibility
    <*> axis .interpretability <*> axis .recoveryCost

end AxisResults

namespace ActionRecord

/-- The stored form. -/
def toJson (r : ActionRecord) : Value := .table [
  ("character", r.character.toJson),
  ("action", r.action.toJson),
  ("room", r.room.toJson),
  ("items_used", .list (r.itemsUsed.map ItemId.toJson)),
  ("unarmed", .bool r.unarmed),
  ("rushed", .bool r.rushed),
  ("axes", AxisResults.toJson r.axes),
  ("outcome", .text r.outcome.name),
  ("contributing_factors", .list (r.factors.map DefId.toJson)),
  ("interpretation", .text r.interpretation.name),
  ("blame_weight", .real r.blameWeight),
  ("seed", .text r.seed),
  ("derived_seed", wordToJson r.derivedSeed),
  ("supersedes", (r.supersedes.map LedgerId.toJson).getD .null),
  ("timestamp", r.timestamp.toJson)]

/-- Read the stored form. -/
def ofJson : Decoder ActionRecord := Json.record <|
  mk <$> .required "character" CharacterId.ofJson
    <*> .required "action" DefId.ofJson
    <*> .required "room" RoomId.ofJson
    <*> .required "items_used" (Json.list ItemId.ofJson)
    <*> .required "unarmed" Json.bool
    <*> .optional "rushed" false Json.bool
    <*> .required "axes" AxisResults.ofJson
    <*> .required "outcome" (Json.oneOf Outcome.ofName?)
    <*> .required "contributing_factors" (Json.list DefId.ofJson)
    <*> .required "interpretation" (Json.oneOf Interpretation.ofName?)
    <*> .required "blame_weight" Json.real
    <*> .required "seed" Json.text
    <*> .required "derived_seed" Json.word
    <*> .optional "supersedes" none (Json.nullable LedgerId.ofJson)
    <*> .required "timestamp" Timestamp.ofJson

end ActionRecord

namespace LedgerEntry

/-- The stored form. -/
def toJson (e : LedgerEntry) : Value :=
  .table [("id", e.id.toJson), ("record", e.record.toJson)]

/-- Read the stored form. -/
def ofJson : Decoder LedgerEntry := Json.record <|
  mk <$> .required "id" LedgerId.ofJson <*> .required "record" ActionRecord.ofJson

end LedgerEntry

end Reckoning
