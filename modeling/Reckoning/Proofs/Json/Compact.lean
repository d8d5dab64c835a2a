import Mathlib.Data.List.Basic
import Mathlib.Tactic.SplitIfs
import Reckoning.Json.Printer

/-!
# Compact JSON stays on one line

Every control character of a text is escaped, and nothing else that is written is one.  So a value
that is written compactly has no line breaks in it, whatever it is.

* `Json.Value.chars` are the characters of a compact value: `Json.Value.compact_eq_ofList`.
* `IsVisible` says that there is no control character among some characters,
  `Json.Value.isVisible_chars` that there is none in a value.
-/

namespace Reckoning

/-- Characters without a control character among them. -/
def IsVisible (cs : List Char) : Prop := ∀ c ∈ cs, 0x20 ≤ c.toNat

instance (cs : List Char) : Decidable (IsVisible cs) := List.decidableBAll _ cs

namespace IsVisible

theorem notMem {c : Char} {cs : List Char} (h : IsVisible cs) (hc : c.toNat < 0x20) : c ∉ cs :=
  fun hm => Nat.not_le.2 hc (h c hm)

theorem nil : IsVisible [] := fun _ h => absurd h List.not_mem_nil

theorem cons {c : Char} {cs : List Char} (hc : 0x20 ≤ c.toNat) (hcs : IsVisible cs) :
    IsVisible (c :: cs) :=
  List.forall_mem_cons.2 ⟨hc, hcs⟩

theorem append {cs ds : List Char} (hc : IsVisible cs) (hd : IsVisible ds) :
    IsVisible (cs ++ ds) :=
  List.forall_mem_append.2 ⟨hc, hd⟩

theorem subset {cs ds : List Char} (hd : IsVisible ds) (h : cs ⊆ ds) : IsVisible cs :=
  fun c hc => hd c (h hc)

theorem intercalate {sep : List Char} {parts : List (List Char)} (hs : IsVisible sep)
    (hp : ∀ p ∈ parts, IsVisible p) : IsVisible (sep.intercalate parts) := by
  induction parts with
  | nil => exact nil
  | cons p parts ih =>
    obtain ⟨h, hps⟩ := List.forall_mem_cons.1 hp
    cases parts with
    | nil => simpa [List.intercalate_singleton] using h
    | cons q parts =>
      rw [List.intercalate_cons_cons]
      exact (h.append hs).append (ih hps)

end IsVisible

/-! ### Numbers -/

theorem isVisible_toDigits (n : Nat) : IsVisible (Nat.toDigits 10 n) := by
  intro c hc
  have hd := Nat.isDigit_of_mem_toDigits (by omega) (by omega) hc
  simp only [Char.isDigit, Bool.and_eq_true, decide_eq_true_eq] at hd
  have := UInt32.le_iff_toNat_le.1 hd.1
  change 0x20 ≤ c.val.toNat
  change 48 ≤ c.val.toNat at this
  omega

theorem isVisible_int (n : Int) : IsVisible (toString n).toList := by
  rw [Int.toString_eq_repr, Int.repr_eq_if]
  split_ifs
  · rw [Nat.toList_repr]
    exact isVisible_toDigits _
  · rw [String.toList_append, Nat.toList_repr]
    exact .append (.cons (by decide) .nil) (isVisible_toDigits _)

namespace Decimal

theorem isVisible_zeros (n : Nat) : IsVisible (zeros n) := by
  intro c hc
  rw [List.eq_of_mem_replicate hc]
  decide

theorem isVisible_placePoint (keepPoint : Bool) {digits : List Char} (h : IsVisible digits)
    (place : Int) : IsVisible (placePoint keepPoint digits place) := by
  unfold placePoint
  split_ifs
  · exact .cons (by decide) (.cons (by decide) ((isVisible_zeros _).append h))
  · exact (h.append (isVisible_zeros _)).append (.cons (by decide) (.cons (by decide) .nil))
  · exact (h.append (isVisible_zeros _)).append .nil
  · exact (h.subset (List.take_subset _ _)).append
      (.cons (by decide) (h.subset (List.drop_subset _ _)))

theorem isVisible_exponential {digits : List Char} (h : IsVisible digits) (place : Int) :
    IsVisible (exponential digits place) := by
  unfold exponential
  refine .append ?_ (.cons (by decide) (isVisible_int _))
  split
  · exact .nil
  · exact h
  · obtain ⟨hd, hrest⟩ := List.forall_mem_cons.1 h
    exact .cons hd (.cons (by decide) hrest)

theorem isVisible_writeDecimal (l : Layout) (d : Scientific) : IsVisible (l.writeDecimal d) := by
  unfold Layout.writeDecimal
  simp only
  split
  · exact isVisible_placePoint _ (isVisible_toDigits _) _
  · split_ifs
    · exact isVisible_placePoint _ (isVisible_toDigits _) _
    · exact isVisible_exponential (isVisible_toDigits _) _

theorem isVisible_signed (negative : Bool) {cs : List Char} (h : IsVisible cs) :
    IsVisible (signed negative cs).toList := by
  unfold signed
  rw [String.toList_ofList]
  split_ifs
  · exact .cons (by decide) h
  · exact h

theorem isVisible_write (l : Layout) (x : Float) : IsVisible (l.write x).toList := by
  unfold Layout.write
  simp only
  split
  · decide
  · exact isVisible_signed _ (by decide)
  · refine isVisible_signed _ ?_
    split_ifs <;> decide
  · exact isVisible_signed _ (isVisible_writeDecimal _ _)

end Decimal

/-! ### Texts -/

namespace Json

theorem isVisible_hexDigit : ∀ n < 16, 0x20 ≤ (hexDigit n).toNat := by decide

theorem isVisible_escaped (c : Char) : IsVisible (escaped c) := by
  unfold escaped
  split_ifs with _ _ _ _ _ _ _ hc
  any_goals decide
  · -- a control character is written by its number
    have hnumber := IsVisible.cons (isVisible_hexDigit (c.toNat / 16) (by omega))
      (.cons (isVisible_hexDigit (c.toNat % 16) (by omega)) .nil)
    have hfront : IsVisible ['\\', 'u', '0', '0'] := by decide
    exact hfront.append hnumber
  · exact .cons (Nat.not_lt.1 hc) .nil

/-- The characters of a text in quotes. -/
def quotedChars (s : String) : List Char := '"' :: s.toList.flatMap escaped ++ ['"']

theorem isVisible_quotedChars (s : String) : IsVisible (quotedChars s) := by
  refine .append (.cons (by decide) fun c hc => ?_) (by decide)
  obtain ⟨d, -, hd⟩ := List.mem_flatMap.1 hc
  exact isVisible_escaped d c hd

theorem isVisible_realText (x : Float) : IsVisible (realText x).toList := by
  unfold realText
  split_ifs
  · exact Decimal.isVisible_write _ _
  · decide

/-! ### Values -/

namespace Value

mutual

/-- The characters of a compact value. -/
def chars : Value → List Char
  | .null => "null".toList
  | .bool b => (if b then "true" else "false").toList
  | .int n => (toString n).toList
  | .real x => (realText x).toList
  | .text s => quotedChars s
  | .list items => '[' :: [','].intercalate (itemChars items) ++ [']']
  | .table members => '\x7b' :: [','].intercalate (memberChars members) ++ ['\x7d']
  | .unreadable => "null".toList

/-- The characters of the items of a list. -/
def itemChars : List Value → List (List Char)
  | [] => []
  | v :: rest => v.chars :: itemChars rest

/-- The characters of the members of a table. -/
def memberChars : List (String × Value) → List (List Char)
  | [] => []
  | (name, v) :: rest => (quotedChars name ++ ':' :: v.chars) :: memberChars rest

end

mutual

theorem toList_compact : (v : Value) → v.compact.toList = v.chars
  | .null => rfl
  | .bool _ => rfl
  | .int _ => rfl
  | .real _ => rfl
  | .text _ => String.toList_ofList
  | .list items => by
    rw [compact, chars, joined, String.toList_append, String.toList_append,
      String.toList_intercalate, toList_compactItems]
    rfl
  | .table members => by
    rw [compact, chars, joined, String.toList_append, String.toList_append,
      String.toList_intercalate, toList_compactMembers]
    rfl
  | .unreadable => rfl

theorem toList_compactItems : (vs : List Value) →
    (compactItems vs).map String.toList = itemChars vs
  | [] => rfl
  | v :: rest => by
    rw [compactItems, itemChars, List.map_cons, toList_compact, toList_compactItems]

theorem toList_compactMembers : (ms : List (String × Value)) →
    (compactMembers ms).map String.toList = memberChars ms
  | [] => rfl
  | (name, v) :: rest => by
    have hname : (quoted name).toList = quotedChars name := String.toList_ofList
    rw [compactMembers, memberChars, List.map_cons, toList_compactMembers, String.toList_append,
      String.toList_append, hname, toList_compact, List.append_assoc]
    rfl

end

theorem compact_eq_ofList (v : Value) : v.compact = String.ofList v.chars := by
  rw [← toList_compact, String.ofList_toList]

mutual

theorem isVisible_chars : (v : Value) → IsVisible v.chars
  | .null => by rw [chars]; decide
  | .bool b => by cases b <;> rw [chars] <;> decide
  | .int n => by rw [chars]; exact isVisible_int n
  | .real x => by rw [chars]; exact isVisible_realText x
  | .text s => by rw [chars]; exact isVisible_quotedChars s
  | .list items => by
    rw [chars]
    exact (IsVisible.intercalate (by decide) (isVisible_itemChars items)).cons (by decide)
      |>.append (by decide)
  | .table members => by
    rw [chars]
    exact (IsVisible.intercalate (by decide) (isVisible_memberChars members)).cons (by decide)
      |>.append (by decide)
  | .unreadable => by rw [chars]; decide

theorem isVisible_itemChars : (vs : List Value) → ∀ cs ∈ itemChars vs, IsVisible cs
  | [] => fun _ h => absurd h List.not_mem_nil
  | v :: rest => by
    rw [itemChars, List.forall_mem_cons]
    exact ⟨isVisible_chars v, isVisible_itemChars rest⟩

theorem isVisible_memberChars : (ms : List (String × Value)) → ∀ cs ∈ memberChars ms, IsVisible cs
  | [] => fun _ h => absurd h List.not_mem_nil
  | (name, v) :: rest => by
    rw [memberChars, List.forall_mem_cons]
    exact ⟨(isVisible_quotedChars name).append (.cons (by decide) (isVisible_chars v)),
      isVisible_memberChars rest⟩

end

end Value

end Json

end Reckoning
