import Reckoning.Config
import Reckoning.Content.Refusal
import Reckoning.Ledger.Error

/-!
# Failures of the engine

* `EngineError` is why the engine refuses a request.
* `EngineError.code` is the stable name under which callers know it, `EngineError.message` the
  sentence that reports it.
-/

namespace Reckoning

/-- What a library lacks at issuance. -/
inductive LibraryFault
  | quirks (found : Nat)
  | uselessBits
  | other (sentence : String)

/-- The words that describe what a library lacks. -/
def LibraryFault.message : LibraryFault → String
  | .quirks found =>
    s!"need at least {leastQuirks} quirks to issue a character, library has {found}"
  | .uselessBits => "library has no useless bits to issue"
  | .other sentence => sentence

/-- Why the engine refuses a request. -/
inductive EngineError
  | invalidSex (text : String)
  | unknownAction (id : DefId)
  | characterNotFound (id : CharacterId)
  | characterInactive (id : CharacterId)
  | roomNotFound (id : RoomId)
  | itemNotFound (id : ItemId)
  | unknownItemQuirk (id : DefId)
  | entryNotFound (id : LedgerId)
  /-- No library came about. -/
  | content (error : ContentError)
  /-- The library cannot serve the request. -/
  | library (fault : LibraryFault)
  /-- A record that the engine put together breaks a rule. -/
  | rule (error : RuleError)
  /-- The ledger did not take a record in. -/
  | commit (error : LedgerError)
  /-- The ledger did not answer. -/
  | ledger (error : LedgerError)
  | config (fault : ConfigFault)
  | lockPoisoned (lock : String)

namespace EngineError

/-- The name under which callers know an error. -/
def code : EngineError → String
  | invalidSex _ => "INVALID_SEX"
  | rule (.invalidSex _) => "INVALID_SEX"
  | unknownAction _ => "INVALID_ACTION_TYPE"
  | characterNotFound _ => "CHARACTER_NOT_FOUND"
  | characterInactive _ => "CHARACTER_INACTIVE"
  | roomNotFound _ => "ROOM_NOT_FOUND"
  | itemNotFound _ => "ITEM_NOT_FOUND"
  | unknownItemQuirk _ => "UNKNOWN_ITEM_QUIRK"
  | entryNotFound _ => "LEDGER_ENTRY_NOT_FOUND"
  | content (.malformed _) => "MALFORMED_QUIRK_DEFINITION"
  | content _ => "CONTENT_LIBRARY_LOAD_ERROR"
  | library _ => "CONTENT_LIBRARY_ERROR"
  | rule _ => "CONTENT_LIBRARY_ERROR"
  | commit _ => "LEDGER_COMMIT_FAILED"
  | ledger _ => "LEDGER_ERROR"
  | config _ => "CONFIG_ERROR"
  | lockPoisoned _ => "INTERNAL_ERROR"

/-- The sentence that reports an error. -/
def message : EngineError → String
  | invalidSex text => s!"invalid sex: {text}"
  | unknownAction id => s!"unknown action type '{id}'"
  | characterNotFound id => s!"character {id} not found"
  | characterInactive id => s!"character {id} is inactive"
  | roomNotFound id => s!"room '{id}' not found"
  | itemNotFound id => s!"item {id} not found"
  | unknownItemQuirk id => s!"unknown item quirk '{id}'"
  | entryNotFound id => s!"ledger entry {id} not found"
  | content error => s!"content error: {error.message}"
  | library fault => s!"content library error: {fault.message}"
  | rule error => s!"core error: {error.message}"
  | commit error => s!"ledger commit failed: {error.message}"
  | ledger error => s!"ledger error: {error.message}"
  | config fault => s!"configuration error: {fault.message}"
  | lockPoisoned lock => s!"engine lock poisoned: {lock}"

end EngineError

/-- A result that the engine may refuse. -/
abbrev EngineResult := Except EngineError

end Reckoning
