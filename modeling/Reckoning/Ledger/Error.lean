import Reckoning.Identity

/-!
# Failures of a ledger
-/

namespace Reckoning

/-- What is wrong with a line of a ledger file. -/
inductive LineFault
  /-- The line is no entry. -/
  | unreadable (detail : String)
  /-- The entry is not the next one of its character. -/
  | misplaced (expected found : LedgerId)
deriving DecidableEq, Repr

/-- The words that describe a fault. -/
def LineFault.message : LineFault → String
  | .unreadable detail => detail
  | .misplaced expected found => s!"expected {expected}, found {found}"

/-- Why a ledger refuses a request. -/
inductive LedgerError
  /-- The record could not be made durable. -/
  | persistence (detail : String)
  /-- A line of the file is at fault; line zero stands for the file as a whole. -/
  | corrupt (line : Nat) (fault : LineFault)
  | serialization (detail : String)
  | exportFailed (detail : String)
  | lockPoisoned
  | io (detail : String)
deriving DecidableEq, Repr

/-- The sentence that reports a failure. -/
def LedgerError.message : LedgerError → String
  | .persistence detail => s!"Persistence error: {detail}"
  | .corrupt line fault => s!"Corrupt ledger at line {line}: {fault.message}"
  | .serialization detail => s!"Serialization error: {detail}"
  | .exportFailed detail => s!"Export error: {detail}"
  | .lockPoisoned => "Ledger lock poisoned"
  | .io detail => s!"IO error: {detail}"

end Reckoning
