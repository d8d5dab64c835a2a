import Mathlib.Data.List.Basic
import Mathlib.Tactic.SplitIfs
import Reckoning.Ledger.LineFile
import Reckoning.Proofs.Text.Utf8

/-!
# Lines and their bytes

A text is written as bytes of UTF-8, where the byte of a line break stands for nothing but a line
break.  So the lines of a file can be told from its bytes, and its end can be cut off anywhere.

* `LineLedger.joined` puts lines together: `LineLedger.completeLines_joined_append` drops what is
  behind them, `LineLedger.exists_torn` says what is left of them before a cut.
* `LineLedger.cutLines_flatMap` gets the lines back.
* `LineFormat.Carries` is what a format has to do for an entry that is kept on a line.
-/

namespace Reckoning

/-! ### Bytes of lines -/

namespace LineLedger

/-- Lines one after the other, each with its line break. -/
def joined (lines : List (List UInt8)) : List UInt8 := lines.flatMap (· ++ [lineBreak])

theorem joined_append (xs ys : List (List UInt8)) : joined (xs ++ ys) = joined xs ++ joined ys :=
  List.flatMap_append

/-- Lines end in a line break, unless there are none. -/
theorem getLast?_joined (lines : List (List UInt8)) :
    lines = [] ∨ (joined lines).getLast? = some lineBreak := by
  rcases List.eq_nil_or_concat' lines with rfl | ⟨front, last, rfl⟩
  · exact .inl rfl
  · right
    rw [joined_append]
    simp [joined]

/-- What is behind the last line break is dropped, and nothing else. -/
theorem completeLines_joined_append (lines : List (List UInt8)) {torn : List UInt8}
    (ht : lineBreak ∉ torn) : completeLines (joined lines ++ torn) = joined lines := by
  unfold completeLines
  have hdrop : ∀ b ∈ torn.reverse, (b != lineBreak) = true := fun b hb => by
    rw [bne_iff_ne]
    rintro rfl
    exact ht (List.mem_reverse.1 hb)
  rw [List.reverse_append, List.dropWhile_append_of_pos hdrop]
  rcases List.eq_nil_or_concat' lines with rfl | ⟨front, last, rfl⟩
  · rfl
  · rw [joined_append]
    simp [joined]

/-- Cut anywhere, a file holds as many whole lines as line breaks, and part of the next one. -/
theorem exists_torn {lines : List (List UInt8)} (hl : ∀ l ∈ lines, lineBreak ∉ l) (k : Nat) :
    ∃ torn, lineBreak ∉ torn ∧ (joined lines).take k =
      joined (lines.take (((joined lines).take k).count lineBreak)) ++ torn := by
  induction lines generalizing k with
  | nil => exact ⟨[], List.not_mem_nil, by simp [joined]⟩
  | cons l lines ih =>
    obtain ⟨hfree, hls⟩ := List.forall_mem_cons.1 hl
    have hcons : ∀ ls, joined (l :: ls) = l ++ lineBreak :: joined ls := fun ls => by
      simp [joined]
    by_cases hk : k ≤ l.length
    · -- the cut lies in the first line
      have htake : (joined (l :: lines)).take k = l.take k := by
        rw [hcons, List.take_append_of_le_length hk]
      have hfree' : lineBreak ∉ l.take k := fun h => hfree (List.mem_of_mem_take h)
      refine ⟨l.take k, hfree', ?_⟩
      rw [htake, List.count_eq_zero.2 hfree']
      rfl
    · obtain ⟨n, rfl⟩ := Nat.exists_eq_add_of_lt (Nat.not_le.1 hk)
      have htake : (joined (l :: lines)).take (l.length + n + 1) =
          l ++ lineBreak :: (joined lines).take n := by
        rw [hcons, Nat.add_assoc, List.take_length_add_append, List.take_succ_cons]
      obtain ⟨torn, ht, heq⟩ := ih hls n
      refine ⟨torn, ht, ?_⟩
      rw [htake, List.count_append, List.count_eq_zero.2 hfree, List.count_cons_self, Nat.zero_add,
        List.take_succ_cons, hcons, List.append_assoc, List.cons_append, ← heq]

/-! ### Characters of lines -/

theorem withoutReturn_of_notMem {line : List Char} (h : '\r' ∉ line) :
    withoutReturn line = line := by
  unfold withoutReturn
  rw [if_neg]
  exact fun hlast => h (List.mem_of_getLast? hlast)

theorem cutLines_append {line : List Char} (h : '\n' ∉ line) (acc rest : List Char) :
    cutLines acc (line ++ '\n' :: rest) =
      withoutReturn (acc.reverse ++ line) :: cutLines [] rest := by
  induction line generalizing acc with
  | nil => simp [cutLines]
  | cons c line ih =>
    rw [List.mem_cons, not_or] at h
    obtain ⟨hc, hline⟩ := h
    rw [List.cons_append, cutLines, ih hline]
    · simp
    · exact Ne.symm hc

/-- Lines without line breaks of their own are got back. -/
theorem cutLines_flatMap {lines : List (List Char)}
    (h : ∀ l ∈ lines, '\n' ∉ l ∧ '\r' ∉ l) : cutLines [] (lines.flatMap (· ++ ['\n'])) = lines := by
  induction lines with
  | nil => rfl
  | cons l lines ih =>
    obtain ⟨⟨hn, hr⟩, hls⟩ := List.forall_mem_cons.1 h
    rw [List.flatMap_cons, List.append_assoc, List.singleton_append, cutLines_append hn, ih hls]
    rw [List.reverse_nil, List.nil_append, withoutReturn_of_notMem hr]

end LineLedger

/-! ### Formats of lines -/

/-- The format writes an entry on one line that is not blank, and reads it back from there. -/
structure LineFormat.Carries (f : LineFormat) (e : LedgerEntry) : Prop where
  noBreak : LineLedger.lineBreak ∉ (f.write e).toUTF8.toList
  noReturn : 13 ∉ (f.write e).toUTF8.toList
  visible : Text.allBlank (f.write e).toList = false
  readBack : f.read? (f.write e) = some e

end Reckoning
