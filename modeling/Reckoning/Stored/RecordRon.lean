import Reckoning.Record
import Reckoning.Ron.Value
import Reckoning.Timestamp.Text

/-!
# RON form of records

How an entry of the ledger is written for readers of RON.  The numbers of characters and items
stand in parentheses of their own.
-/

namespace Reckoning

open Ron (Value)

/-- The RON form of a natural number. -/
def natToRon (n : Nat) : Value := .number (.integer false n true none)

/-- The RON form of an integer. -/
def intToRon (n : Int) : Value := .number (.integer (n < 0) n.natAbs true none)

/-- A structure without a name. -/
def structRon (fields : List (String × Value)) : Value := .struct none fields

/-- The RON form. -/
def CharacterId.toRon (c : CharacterId) : Value := .tuple none [natToRon c.raw.toNat]

/-- The RON form. -/
def ItemId.toRon (i : ItemId) : Value := .tuple none [natToRon i.raw.toNat]

/-- The RON form. -/
def LedgerId.toRon (l : LedgerId) : Value :=
  structRon [("character", l.character.toRon), ("seq", natToRon l.seq)]

/-- The RON form. -/
def AxisResult.toRon (r : AxisResult) : Value := structRon [
  ("base_modifier", intToRon r.base),
  ("deviation", intToRon r.deviation),
  ("final_value", intToRon r.final)]

/-- The RON form. -/
def AxisResults.toRon (r : AxisResults) : Value :=
  structRon (r.toList.map fun p => (p.1.name, p.2.toRon))

/-- The RON form. -/
def ActionRecord.toRon (r : ActionRecord) : Value := structRon [
  ("character", r.character.toRon),
  ("action", .text r.action.text),
  ("room", .text r.room.text),
  ("items_used", .list (r.itemsUsed.map ItemId.toRon)),
  ("unarmed", .bool r.unarmed),
  ("rushed", .bool r.rushed),
  ("axes", AxisResults.toRon r.axes),
  ("outcome", .word r.outcome.name),
  ("contributing_factors", .list (r.factors.map fun d => .text d.text)),
  ("interpretation", .word r.interpretation.name),
  ("blame_weight", .real r.blameWeight),
  ("seed", .text r.seed),
  ("derived_seed", natToRon r.derivedSeed.toNat),
  ("supersedes", match r.supersedes with
    | some id => .present id.toRon
    | none => .absent),
  ("timestamp", .text r.timestamp.write)]

/-- The RON form. -/
def LedgerEntry.toRon (e : LedgerEntry) : Value :=
  structRon [("id", e.id.toRon), ("record", e.record.toRon)]

end Reckoning
