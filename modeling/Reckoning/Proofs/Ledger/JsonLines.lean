import Reckoning.Ledger.JsonLines
import Reckoning.Proofs.Json.Compact
import Reckoning.Proofs.Ledger.Index
import Reckoning.Proofs.Ledger.Lines

/-!
# Entries as lines of JSON

An entry is a table, and compact JSON has no control characters.  So what is written for an entry
is one line that is not blank, whatever texts are in it, and all that is left to ask of an entry is
that it can be read back.

* `carries_jsonLines` says so.
* `Mill.baked` is a record whose first entries are carried.
-/

namespace Reckoning

theorem toList_write_jsonLines (e : LedgerEntry) :
    (jsonLines.write e).toList = e.toJson.chars :=
  e.toJson.toList_compact

theorem isVisible_jsonLines (e : LedgerEntry) : IsVisible (jsonLines.write e).toList := by
  rw [toList_write_jsonLines]
  exact Json.Value.isVisible_chars _

theorem allBlank_jsonLines (e : LedgerEntry) :
    Text.allBlank (jsonLines.write e).toList = false := by
  -- a table begins with a brace
  rw [toList_write_jsonLines, LedgerEntry.toJson, Json.Value.chars]
  rfl

/-- A line of JSON carries its entry when the entry can be read back. -/
theorem carries_jsonLines {e : LedgerEntry} (h : jsonLines.read? (jsonLines.write e) = some e) :
    jsonLines.Carries e where
  noBreak := by
    rw [mem_utf8_iff (c := '\n') (by decide) rfl]
    exact (isVisible_jsonLines e).notMem (by decide)
  noReturn := by
    rw [mem_utf8_iff (c := '\r') (by decide) rfl]
    exact (isVisible_jsonLines e).notMem (by decide)
  visible := allBlank_jsonLines e
  readBack := h

/-! ### A plain record -/

deriving instance DecidableEq for ActionRecord, LedgerEntry

namespace Mill

/-- Bread was baked, and nothing was the matter. -/
def baked : ActionRecord where
  character := ⟨7⟩
  action := "bake"
  room := "mill"
  itemsUsed := []
  unarmed := false
  rushed := false
  axes := .ofFn fun _ => ⟨0, 0, 0⟩
  outcome := .success
  factors := []
  interpretation := .avoidable
  blameWeight := 0.5
  seed := "dawn"
  derivedSeed := 3
  supersedes := none
  timestamp := .epoch

theorem carries_baked {n : Nat} (hn : n = 1 ∨ n = 2) : jsonLines.Carries ⟨⟨⟨7⟩, n⟩, baked⟩ := by
  refine carries_jsonLines ?_
  simp only [jsonLines, Json.Value.compact_eq_ofList, Json.Value.read?, String.toList_ofList]
  rcases hn with rfl | rfl <;> decide +kernel

theorem carries_commits : ∀ e ∈ Index.commits ∅ [baked], jsonLines.Carries e :=
  List.forall_mem_singleton.2 (carries_baked (.inl rfl))

end Mill

end Reckoning
