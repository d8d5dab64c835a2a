import Reckoning.Json.Printer
import Reckoning.Json.Reader
import Reckoning.Ledger.LineFile
import Reckoning.Stored.Record

/-!
# Lines of JSON

Entries as compact JSON, one on each line.  A weight of blame that is not finite is written as
null, so its line cannot be read again.

* `jsonLines` is the format, `JsonLedger` a ledger in a file of that format.
-/

namespace Reckoning

/-- Entries as compact JSON. -/
def jsonLines : LineFormat where
  write e := e.toJson.compact
  read? line := do
    let v ← Json.Value.read? line
    (LedgerEntry.ofJson v).toOption

/-- A ledger in a file of JSON lines. -/
abbrev JsonLedger := LineLedger jsonLines

end Reckoning
