import Reckoning.Identity
import Reckoning.Modifiers
import Reckoning.Outcome
import Reckoning.Timestamp

/-!
# Records

What was determined about one action (`ActionRecord`), and the same under its name in the
ledger (`LedgerEntry`).

* `ActionRecord.sameResolution` compares what a replay has to reproduce.
-/

namespace Reckoning

/-- What was determined about one action. -/
structure ActionRecord where
  character : CharacterId
  action : DefId
  room : RoomId
  /-- The items as they were requested, also those that could not be used. -/
  itemsUsed : List ItemId
  /-- None of the expected items was at hand. -/
  unarmed : Bool
  rushed : Bool
  axes : AxisResults
  outcome : Outcome
  /-- What took part, in the order in which it was applied. -/
  factors : List DefId
  interpretation : Interpretation
  /-- The share of the factors that the character controls. -/
  blameWeight : Float
  /-- The seed that was supplied or generated. -/
  seed : String
  /-- The seed that luck was drawn from. -/
  derivedSeed : UInt64
  /-- The earlier entry that this one retries. -/
  supersedes : Option LedgerId
  timestamp : Timestamp
deriving BEq

/-- Both records describe the same resolution.  The seed as supplied, the moment and the link
to an earlier entry do not matter; the weight of blame has to agree in every bit. -/
def ActionRecord.sameResolution (a b : ActionRecord) : Bool :=
  a.character == b.character
    && a.action == b.action
    && a.room == b.room
    && a.itemsUsed == b.itemsUsed
    && a.unarmed == b.unarmed
    && a.rushed == b.rushed
    && a.axes == b.axes
    && a.outcome == b.outcome
    && a.factors == b.factors
    && a.interpretation == b.interpretation
    && a.blameWeight.toBits == b.blameWeight.toBits
    && a.derivedSeed == b.derivedSeed

/-- A record that was committed to the ledger. -/
structure LedgerEntry where
  id : LedgerId
  record : ActionRecord
deriving BEq

end Reckoning
