import Reckoning.Attribute
import Reckoning.Identity
import Reckoning.Text.Blank
import Reckoning.Timestamp

/-!
# Characters

A character carries two to four quirks, any number of failings and at least one useless bit,
and no trait twice.  After issuance only the reputation and the active flag change.

* `Sheet` is everything that is fixed at issuance, with the reputation it starts from.
* `Sheet.fault?` is the first rule that a sheet breaks; `Character.ofSheet` makes a
  character of a sheet that breaks none.
-/

namespace Reckoning

/-- The sex of a character. -/
inductive Sex
  | female
  | male
  | unspecified
deriving DecidableEq, Repr

namespace Sex

/-- Every sex. -/
def all : List Sex := [female, male, unspecified]

/-- The written name of a sex. -/
def name : Sex → String
  | female => "female"
  | male => "male"
  | unspecified => "unspecified"

/-- The sex with a written name. -/
def ofName? (text : String) : Option Sex := all.find? (·.name == text)

/-- The single letter that stands for a sex. -/
def letter : Sex → String
  | female => "f"
  | male => "m"
  | unspecified => "x"

/-- Read a sex as people enter it: by its name or its letter, with blanks around it and in
any case of the ASCII letters. -/
def read (text : String) : Except RuleError Sex :=
  let word := (String.ofList (Text.trim text.toList)).toLower
  match all.find? fun s => s.name == word || s.letter == word with
  | some s => .ok s
  | none => .error (.invalidSex text)

end Sex

/-- What people think of a character. -/
structure Reputation where
  score : Int
  notes : String
deriving DecidableEq, Repr, Inhabited

/-- The fewest quirks of a character. -/
def leastQuirks : Nat := 2

/-- The most quirks of a character. -/
def mostQuirks : Nat := 4

/-- The first element that repeats an earlier one. -/
def firstRepeated? {α : Type} [DecidableEq α] (xs : List α) : Option α :=
  go [] xs
where
  /-- The search, with the elements already seen. -/
  go (seen : List α) : List α → Option α
    | [] => none
    | x :: rest => if x ∈ seen then some x else go (x :: seen) rest

/-- A search that finds no repetition has met neither an element twice nor one seen before. -/
theorem firstRepeated?_go_eq_none {α : Type} [DecidableEq α] {xs seen : List α} :
    firstRepeated?.go seen xs = none ↔ xs.Nodup ∧ ∀ x ∈ xs, x ∉ seen := by
  induction xs generalizing seen with
  | nil => simp [firstRepeated?.go]
  | cons x xs ih =>
    unfold firstRepeated?.go
    by_cases hx : x ∈ seen
    · simp [hx]
    · rw [if_neg hx, ih, List.nodup_cons, List.forall_mem_cons]
      constructor
      · rintro ⟨hn, hs⟩
        exact ⟨⟨fun hm => hs x hm List.mem_cons_self, hn⟩, hx,
          fun y hy hm => hs y hy (List.mem_cons_of_mem x hm)⟩
      · rintro ⟨⟨hnx, hn⟩, -, hs⟩
        refine ⟨hn, fun y hy hm => ?_⟩
        rcases List.mem_cons.1 hm with rfl | hm
        · exact hnx hy
        · exact hs y hy hm

theorem firstRepeated?_eq_none {α : Type} [DecidableEq α] {xs : List α} :
    firstRepeated? xs = none ↔ xs.Nodup := by
  simp [firstRepeated?, firstRepeated?_go_eq_none]

/-- The first rule that three lists of traits break. -/
def traitFault? (quirks failings uselessBits : List DefId) : Option TraitFault :=
  if quirks.length < leastQuirks ∨ mostQuirks < quirks.length then
    some (.quirkCount leastQuirks mostQuirks quirks.length)
  else if uselessBits.isEmpty then
    some .noUselessBit
  else
    (firstRepeated? (quirks ++ failings ++ uselessBits)).map fun id => .repeated id.text

/-- What is written down when a character is issued. -/
structure Sheet where
  id : CharacterId
  /-- The account that the character belongs to. -/
  account : String
  sex : Sex
  attributes : AttributeSet
  quirks : List DefId
  failings : List DefId
  uselessBits : List DefId
  reputation : Reputation
  /-- The seed of the issuance. -/
  issuedSeed : String
  createdAt : Timestamp
deriving DecidableEq, Repr

/-- The first rule that a sheet breaks. -/
def Sheet.fault? (s : Sheet) : Option TraitFault :=
  traitFault? s.quirks s.failings s.uselessBits

/-- An issued character. -/
structure Character extends Sheet where
  active : Bool
  sound : toSheet.fault? = none
deriving DecidableEq, Repr

namespace Character

/-- Make an active character of a sheet, or name the first rule that the sheet breaks. -/
def ofSheet (s : Sheet) : Except RuleError Character :=
  match h : s.fault? with
  | some fault => .error (.invalidCharacter fault)
  | none => .ok ⟨s, true, h⟩

/-- The character carries a quirk. -/
def hasQuirk (c : Character) (id : DefId) : Bool := c.quirks.contains id

/-- Replace the reputation. -/
def withReputation (c : Character) (r : Reputation) : Character :=
  { c with reputation := r, sound := c.sound }

/-- Retire the character for good. -/
def deactivate (c : Character) : Character := { c with active := false }

@[simp] theorem active_deactivate (c : Character) : c.deactivate.active = false := rfl

@[simp] theorem active_withReputation (c : Character) (r : Reputation) :
    (c.withReputation r).active = c.active := rfl

end Character

end Reckoning
