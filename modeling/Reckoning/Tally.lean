/-!
# Tallies

How often texts were counted, in ascending order of the texts.

* `Tally.add` counts a text once more, `Tally.count` says how often it was counted.
-/

namespace Reckoning

/-- Texts with how often each was counted. -/
structure Tally where
  rows : List (String × Nat)
deriving DecidableEq, Repr, Inhabited

namespace Tally

/-- Nothing was counted. -/
def empty : Tally := ⟨[]⟩

instance : EmptyCollection Tally := ⟨empty⟩

/-- Count a text once more in sorted rows. -/
def addRow (text : String) : List (String × Nat) → List (String × Nat)
  | [] => [(text, 1)]
  | (t, n) :: rest =>
    if text < t then (text, 1) :: (t, n) :: rest
    else if text = t then (t, n + 1) :: rest
    else (t, n) :: addRow text rest

/-- Count a text once more. -/
def add (t : Tally) (text : String) : Tally := ⟨addRow text t.rows⟩

/-- Count some texts. -/
def addAll (t : Tally) (texts : List String) : Tally := texts.foldl add t

/-- How often a text was counted. -/
def count (t : Tally) (text : String) : Nat := ((t.rows.find? (·.1 = text)).map (·.2)).getD 0

/-- The rows by descending count; texts with one count keep their order. -/
def byCount (t : Tally) : List (String × Nat) := t.rows.mergeSort fun a b => b.2 ≤ a.2

end Tally

end Reckoning
