import Reckoning.Content.Draft.Ron
import Reckoning.Ron.Reader

/-!
# Content files

A content file lists definitions, section by section.  Every section may be left out.  Each
entry stands for itself: one that is no definition does not spoil the others.  Extensions that
the header names do not reach the entries: one that needs them spoils the file.

* `contentEntries?` are the entries of a text, if it is a content file at all.
* `Entry.definition` is the definition that an entry makes, or why it makes none.
-/

namespace Reckoning

/-- An entry of a section. -/
structure Entry where
  kind : Kind
  value : Ron.Value

namespace Entry

/-- The id of an entry, as far as it can be read. -/
def label (e : Entry) : String := (Draft.idOfRon? e.value).elim "<unnamed>" DefId.text

/-- The definition that an entry makes, or why it makes none. -/
def definition (e : Entry) : Except Refusal Definition :=
  match Draft.ofRon? e.kind e.value with
  | some draft => draft.check
  | none => .error (.unreadable s!"the text is not a definition of kind {e.kind.name}")

end Entry

/-- The names of the sections, in the order in which they are loaded. -/
def sectionNames : List (String × Kind) := [
  ("quirks", .quirk),
  ("failings", .failing),
  ("useless_bits", .uselessBit),
  ("item_quirks", .itemQuirk),
  ("item_types", .itemType),
  ("environmental_quirks", .environmentalQuirk),
  ("actions", .action),
  ("reputation_biases", .reputationBias)]

/-- The entries of a document, section by section. -/
def entriesOf? (d : Ron.Document) : Option (List Entry) := do
  let fields ← Ron.fieldsOf? "ContentFile" d.namesRequired d.value
  let parts ← sectionNames.mapM fun s => do
    let values ← Ron.optional fields s.1 [] (Ron.list Ron.plain)
    return values.map (Entry.mk s.2)
  return parts.flatten

/-- The entries of a text. -/
def contentEntries? (text : String) : Option (List Entry) :=
  (Ron.Document.read? text).bind entriesOf?

end Reckoning
