import Mathlib.Data.List.Forall2
import Reckoning.Ledger.Export
import Reckoning.Proofs.Csv
import Reckoning.Proofs.Decimal.Fixed

/-!
# Exported rows read back

The rows of an export are a table of comma-separated fields, whatever the texts of the entries are:
free text stands in quotes, and the other fields have no special character.

* `LedgerEntry.values` is what the row of an entry says.
* `says_csvQuoted`, `says_natural`, `says_integer`, `says_writeFixed`: the fields, one by one.
* `ReadsBack` is what a reader finds in an export, and `exportCsv_readsBack` says that it does.
-/

namespace Reckoning

open Csv

/-- What the row of an entry says. -/
def LedgerEntry.values (e : LedgerEntry) : List String :=
  let r := e.record
  [toString r.character.raw.toNat, toString e.id.seq, r.action.text, r.room.text,
    r.outcome.name, r.interpretation.name, Decimal.writeFixed 3 r.blameWeight,
    toString r.axes.timing.final, toString r.axes.precision.final,
    toString r.axes.stability.final, toString r.axes.visibility.final,
    toString r.axes.interpretability.final, toString r.axes.recoveryCost.final,
    String.intercalate ";" (r.factors.map DefId.text)]

/-! ### Fields -/

/-- A text is a field that says a text. -/
def Says (field value : String) : Prop := IsField field.toList value.toList

theorem says_csvQuoted (s : String) : Says (csvQuoted s) s := by
  unfold Says csvQuoted
  rw [String.toList_ofList]
  exact .quoted s.toList

/-- A text without special characters says itself. -/
theorem says_self {s : String} (h : ∀ c ∈ s.toList, c ∉ special) : Says s s := .bare h

theorem notMem_special_of_all {cs : List Char} (h : cs.all (· ∉ special) = true) :
    ∀ c ∈ cs, c ∉ special := by simpa using h

theorem notMem_special_of_isDigit {c : Char} (h : c.isDigit = true) : c ∉ special := by
  intro hc
  simp only [special, List.mem_cons, List.not_mem_nil, or_false] at hc
  rcases hc with rfl | rfl | rfl | rfl <;> exact absurd h (by decide)

theorem notMem_special_of_mem_toDigits {n : Nat} : ∀ c ∈ Nat.toDigits 10 n, c ∉ special :=
  fun _ hc => notMem_special_of_isDigit (Nat.isDigit_of_mem_toDigits (by decide) (by decide) hc)

theorem says_natural (n : Nat) : Says (toString n) (toString n) := by
  refine says_self ?_
  rw [Nat.toString_eq_ofList_toDigits, String.toList_ofList]
  exact notMem_special_of_mem_toDigits

theorem says_integer (n : Int) : Says (toString n) (toString n) := by
  refine says_self ?_
  rw [Int.toString_eq_repr, Int.repr_eq_if]
  split_ifs
  · rw [Nat.toList_repr]
    exact notMem_special_of_mem_toDigits
  · rw [String.toList_append, Nat.toList_repr]
    exact List.forall_mem_append.2 ⟨notMem_special_of_all rfl, notMem_special_of_mem_toDigits⟩

theorem says_writeFixed {places : Nat} (hp : 0 < places) (x : Float) :
    Says (Decimal.writeFixed places x) (Decimal.writeFixed places x) := by
  have signed (negative : Bool) {cs : List Char} (h : ∀ c ∈ cs, c ∉ special) :
      ∀ c ∈ (Decimal.signed negative cs).toList, c ∉ special := by
    unfold Decimal.signed
    rw [String.toList_ofList]
    split_ifs
    · exact List.forall_mem_cons.2 ⟨by decide, h⟩
    · exact h
  refine says_self ?_
  have h := Decimal.isFixed_writeFixed hp x
  generalize (Decimal.writeFixed places x).toList = text at h ⊢
  cases h with
  | nan => exact notMem_special_of_all rfl
  | infinite => exact signed _ (notMem_special_of_all rfl)
  | finite _ _ digits =>
    exact signed _ (List.forall_mem_append.2 ⟨notMem_special_of_mem_toDigits,
      List.forall_mem_cons.2 ⟨by decide, fun c hc => notMem_special_of_isDigit (digits c hc)⟩⟩)

theorem Outcome.says_name (o : Outcome) : Says o.name o.name := by
  cases o <;> exact says_self (notMem_special_of_all rfl)

theorem Interpretation.says_name (i : Interpretation) : Says i.name i.name := by
  cases i <;> exact says_self (notMem_special_of_all rfl)

/-! ### Rows -/

theorem isRecord_csvLine {fields values : List String} (h : List.Forall₂ Says fields values)
    (hne : fields ≠ []) : IsRecord (csvLine fields).toList (values.map String.toList) := by
  have htexts : List.Forall₂ IsField (fields.map String.toList) (values.map String.toList) :=
    List.forall₂_map_left_iff.2 (List.forall₂_map_right_iff.2 h)
  unfold csvLine
  rw [String.toList_append, String.toList_intercalate]
  exact isRecord_intercalate htexts (mt List.map_eq_nil_iff.1 hne)

theorem says_csvColumns : List.Forall₂ Says csvColumns csvColumns := by
  have h : (csvColumns.all fun name => name.toList.all (· ∉ special)) = true := rfl
  exact List.forall₂_same.2 fun name hname =>
    says_self (notMem_special_of_all (List.all_eq_true.1 h name hname))

theorem says_csvFields (e : LedgerEntry) : List.Forall₂ Says (csvFields e) e.values := by
  simp only [csvFields, LedgerEntry.values, Axis.all, PerAxis.get, List.map_cons, List.map_nil,
    List.cons_append, List.nil_append, List.forall₂_cons]
  exact ⟨says_natural _, says_natural _, says_csvQuoted _, says_csvQuoted _, Outcome.says_name _,
    Interpretation.says_name _, says_writeFixed (by decide) _, says_integer _, says_integer _,
    says_integer _, says_integer _, says_integer _, says_integer _, says_csvQuoted _, .nil⟩

theorem isTable_rows (es : List LedgerEntry) :
    IsTable (String.join (es.map fun e => csvLine (csvFields e))).toList
      (es.map fun e => e.values.map String.toList) := by
  rw [String.toList_join, List.flatMap_map]
  induction es with
  | nil => exact .nil
  | cons e es ih => exact .cons (isRecord_csvLine (says_csvFields e) (List.cons_ne_nil _ _)) ih

/-- What a reader finds in the rows of some entries. -/
structure ReadsBack (es : List LedgerEntry) : Prop where
  /-- The names of the columns, then what each entry says, in order. -/
  parse : Csv.parse (exportCsv es) = some (csvColumns :: es.map LedgerEntry.values)
  /-- There is no other way to read them. -/
  unique : ∀ rows, IsTable (exportCsv es).toList rows →
    rows = (csvColumns :: es.map LedgerEntry.values).map (·.map String.toList)
  columns : csvColumns.length = 14
  width : ∀ e ∈ es, e.values.length = 14
  /-- Blame is a number with three places that no other one is nearer to. -/
  blame : ∀ e ∈ es, ∃ text ∈ e.values[6]?, Decimal.IsFixed 3 e.record.blameWeight text.toList

/-- **What is exported as rows reads back, whatever the texts are.** -/
theorem exportCsv_readsBack (es : List LedgerEntry) : ReadsBack es := by
  have htable : IsTable (exportCsv es).toList
      ((csvColumns :: es.map LedgerEntry.values).map (·.map String.toList)) := by
    unfold exportCsv
    rw [String.toList_append, List.map_cons, List.map_map]
    exact .cons (isRecord_csvLine says_csvColumns (List.cons_ne_nil _ _)) (isTable_rows es)
  exact {
    parse := parse_eq_some_iff.2 htable
    unique := fun rows h =>
      Option.some.inj ((read_eq_some_iff.2 h).symm.trans (read_eq_some_iff.2 htable))
    columns := rfl
    width := fun _ _ => rfl
    blame := fun e _ => ⟨_, rfl, Decimal.isFixed_writeFixed (by decide) e.record.blameWeight⟩ }

end Reckoning
