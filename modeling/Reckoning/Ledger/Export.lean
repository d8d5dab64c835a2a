import Reckoning.Json.Printer
import Reckoning.Ledger.Audit
import Reckoning.Ron.Printer
import Reckoning.Stored.Record
import Reckoning.Stored.RecordRon

/-!
# Exports

Entries for other programs and for readers, in four formats.

* `exportRon` and `exportJson` write everything, under a version number.
* `exportCsv` writes a row for each entry; free text is quoted.
* `exportText` tells the story of each character.
-/

namespace Reckoning

/-- A format of exports. -/
inductive ExportFormat
  | ron
  | json
  | csv
  | text
deriving DecidableEq, Repr

namespace ExportFormat

/-- The written name of a format. -/
def name : ExportFormat → String
  | ron => "ron"
  | json => "json"
  | csv => "csv"
  | text => "text"

/-- The format with a written name. -/
def ofName? (text : String) : Option ExportFormat :=
  [ron, json, csv, ExportFormat.text].find? (·.name == text)

end ExportFormat

/-- The version of the exports that are meant for programs. -/
def exportVersion : Nat := 1

/-- Everything about some entries, as a RON document. -/
def exportRon (es : List LedgerEntry) : String :=
  (structRon [("version", natToRon exportVersion),
    ("entries", .list (es.map LedgerEntry.toRon))]).pretty

/-- Everything about some entries, as a JSON document. -/
def exportJson (es : List LedgerEntry) : String :=
  (Json.Value.table [("version", .int exportVersion),
    ("entries", .list (es.map LedgerEntry.toJson))]).pretty

/-! ### Rows -/

/-- A text in quotes, with every quote inside it doubled. -/
def csvQuoted (s : String) : String :=
  String.ofList ('"' :: s.toList.flatMap (fun c => if c = '"' then ['"', '"'] else [c]) ++ ['"'])

/-- The names of the columns. -/
def csvColumns : List String :=
  ["character", "seq", "action", "room", "outcome", "interpretation", "blame"]
    ++ Axis.all.map Axis.name ++ ["factors"]

/-- The fields of the row of an entry. -/
def csvFields (e : LedgerEntry) : List String :=
  let r := e.record
  [toString r.character.raw.toNat, toString e.id.seq, csvQuoted r.action.text,
    csvQuoted r.room.text, r.outcome.name, r.interpretation.name,
    Decimal.writeFixed 3 r.blameWeight]
    ++ Axis.all.map (fun a => toString (r.axes.get a).final)
    ++ [csvQuoted (String.intercalate ";" (r.factors.map DefId.text))]

/-- Fields as a line. -/
def csvLine (fields : List String) : String := String.intercalate "," fields ++ "\n"

/-- A row for each entry, below the names of the columns. -/
def exportCsv (es : List LedgerEntry) : String :=
  csvLine csvColumns ++ String.join (es.map fun e => csvLine (csvFields e))

/-! ### Stories -/

/-- What is told about an entry. -/
def entryStory (e : LedgerEntry) : String :=
  let r := e.record
  s!"  #{e.id.seq} {r.action} in {r.room}: {r.outcome.name} "
    ++ s!"({r.interpretation.name}, blame {Decimal.writeFixed 2 r.blameWeight})\n"
    ++ (if r.unarmed then "      unarmed\n" else "")
    ++ (if r.factors.isEmpty then ""
        else "      factors: " ++ String.intercalate ", " (r.factors.map DefId.text) ++ "\n")
    ++ (match r.supersedes with
        | some id => s!"      supersedes {id}\n"
        | none => "")

/-- What is told about entries, with a heading wherever the character changes. -/
def stories (last : Option CharacterId) : List LedgerEntry → String
  | [] => ""
  | e :: rest =>
    let c := e.record.character
    (if last = some c then "" else s!"\n--- {c} ---\n") ++ entryStory e ++ stories (some c) rest

/-- The stories of all characters. -/
def exportText (es : List LedgerEntry) : String :=
  let audit := Audit.of es
  s!"=== Ledger Export ===\n\nTotal entries: {audit.total}\n"
    ++ s!"Mean blame: {Decimal.writeFixed 3 audit.meanBlame}\n\n=== Entries ===\n"
    ++ stories none es

/-- Entries in a format. -/
def exportEntries (format : ExportFormat) (es : List LedgerEntry) : String :=
  match format with
  | .ron => exportRon es
  | .json => exportJson es
  | .csv => exportCsv es
  | .text => exportText es

end Reckoning
