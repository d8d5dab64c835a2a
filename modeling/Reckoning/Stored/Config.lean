import Reckoning.Config
import Reckoning.Json.Decode
import Reckoning.Ron.Decode
import Reckoning.Ron.Reader

/-!
# Stored form of the configuration

Every field may be left out.

* `Config.toJson` and `Config.ofJson` are the JSON form; reading checks the form only.
* `Config.ofText` reads a RON document and checks the rules as well.
-/

namespace Reckoning.Config

open Json (Decoder Value)

/-- The stored form. -/
def toJson (c : Config) : Value := .table [
  ("avoidable_threshold", .real c.avoidableThreshold),
  ("default_seed_prefix", .text c.seedPrefix),
  ("strict_content", .bool c.strictContent)]

/-- Read the stored form. -/
def ofJson : Decoder Config := Json.record <|
  mk <$> .optional "avoidable_threshold" default.avoidableThreshold Json.real
    <*> .optional "default_seed_prefix" default.seedPrefix Json.text
    <*> .optional "strict_content" default.strictContent Json.bool

/-- Read a RON document, without checking the rules. -/
def ofRon? (d : Ron.Document) : Option Config := do
  let fs ← Ron.fieldsOf? "EngineConfig" d.namesRequired d.value
  return {
    avoidableThreshold :=
      ← Ron.optional fs "avoidable_threshold" default.avoidableThreshold Ron.real
    seedPrefix := ← Ron.optional fs "default_seed_prefix" default.seedPrefix Ron.text
    strictContent := ← Ron.optional fs "strict_content" default.strictContent Ron.bool }

/-- Read and check the text of a RON document. -/
def ofText (text : String) : Except ConfigFault Config :=
  match (Ron.Document.read? text).bind ofRon? with
  | some c => c.checked
  | none => .error (.unreadable "the text is not a configuration")

/-- Read and check a file of UTF-8 text. -/
def ofBytes (bytes : List UInt8) : Except ConfigFault Config :=
  match String.fromUTF8? (ByteArray.mk bytes.toArray) with
  | some text => ofText text
  | none => .error (.unreadable "the file is not UTF-8 text")

end Reckoning.Config
