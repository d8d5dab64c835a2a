import Mathlib.Data.List.TakeWhile
import Reckoning.Proofs.Timestamp.Calendar
import Reckoning.Timestamp.Text

/-!
# Moments that are read back

A written moment is read back, unless it lies in a leap second in the middle of a minute: such a
second is written as the one that follows it.

* `Timestamp.digitsUpTo_padded` and `Timestamp.year_yearText` read the parts of a moment back.
* `Timestamp.read?_parts` reads the whole of it.
* `Timestamp.reread` is the moment that comes back: `Timestamp.read?_write`.
-/

namespace Reckoning.Timestamp

/-! ### Digits -/

theorem decimal_eq_ofDigitChars (cs : List Char) : decimal cs = Nat.ofDigitChars 10 cs 0 := by
  rw [Nat.ofDigitChars_eq_foldl]
  rfl

theorem toList_padded (width n : Nat) : (padded width n).toList =
    List.replicate (width - (Nat.toDigits 10 n).length) '0' ++ Nat.toDigits 10 n := by
  have hlength : (toString n).length = (Nat.toDigits 10 n).length := by
    rw [Nat.toString_eq_ofList_toDigits, String.length_ofList]
  unfold padded
  rw [String.toList_append, String.toList_ofList, hlength, Nat.toString_eq_ofList_toDigits,
    String.toList_ofList]

theorem isDigit_padded {width n : Nat} {c : Char} (hc : c ∈ (padded width n).toList) :
    c.isDigit = true := by
  rw [toList_padded, List.mem_append] at hc
  rcases hc with hc | hc
  · rw [List.eq_of_mem_replicate hc]
    rfl
  · exact Nat.isDigit_of_mem_toDigits (by decide) (by decide) hc

theorem decimal_padded (width n : Nat) : decimal (padded width n).toList = n := by
  rw [decimal_eq_ofDigitChars, toList_padded, Nat.ofDigitChars_append,
    Nat.ofDigitChars_replicate_zero, Nat.mul_zero,
    Nat.ofDigitChars_toDigits (by decide) (by decide)]

theorem length_padded {width n : Nat} (hwidth : 0 < width) (hn : n < 10 ^ width) :
    (padded width n).toList.length = width := by
  have hle := (Nat.length_toDigits_le_iff (by decide) hwidth).2 hn
  rw [toList_padded, List.length_append, List.length_replicate]
  omega

theorem padded_ne_nil (width n : Nat) : (padded width n).toList ≠ [] := by
  rw [toList_padded]
  simp [Nat.toDigits_ne_nil]

/-- Digits are read up to a width, or as far as they go. -/
theorem takeWhile_take_digits {ds rest : List Char} {width : Nat} (hds : ∀ c ∈ ds, c.isDigit = true)
    (h : ds.length = width ∨
      ds.length ≤ width ∧ ∀ c, rest.head? = some c → c.isDigit = false) :
    ((ds ++ rest).take width).takeWhile Char.isDigit = ds := by
  have hlength : ds.length ≤ width := h.elim Nat.le_of_eq And.left
  rw [List.take_append, List.take_of_length_le hlength, List.takeWhile_append_of_pos hds]
  have hnone : (rest.take (width - ds.length)).takeWhile Char.isDigit = [] := by
    rcases h with h | ⟨-, h⟩
    · simp [h]
    · cases rest with
      | nil => simp
      | cons c rest =>
        have hc := h c rfl
        cases width - ds.length with
        | zero => rfl
        | succ k => simp [hc]
  rw [hnone, List.append_nil]

theorem digitsUpTo_of_isDigit {ds rest : List Char} {width : Nat} (hne : ds ≠ [])
    (hds : ∀ c ∈ ds, c.isDigit = true)
    (h : ds.length = width ∨
      ds.length ≤ width ∧ ∀ c, rest.head? = some c → c.isDigit = false) :
    digitsUpTo width (ds ++ rest) = some (decimal ds, rest) := by
  unfold digitsUpTo
  simp [takeWhile_take_digits hds h, hne]

/-! ### Fields -/

theorem isBlank_of_isDigit {c : Char} (h : c.isDigit = true) : Text.isBlank c = false := by
  simp only [Char.isDigit, Bool.and_eq_true, decide_eq_true_eq] at h
  have hleast := UInt32.le_iff_toNat_le.1 h.1
  have hmost := UInt32.le_iff_toNat_le.1 h.2
  change 48 ≤ c.toNat at hleast
  change c.toNat ≤ 57 at hmost
  simp only [Text.isBlank, Bool.or_eq_false_iff, Bool.and_eq_false_iff, decide_eq_false_iff_not,
    beq_eq_false_iff_ne]
  omega

theorem trimStart_of_head {c : Char} (hc : Text.isBlank c = false) (cs : List Char) :
    Text.trimStart (c :: cs) = c :: cs := by
  simp [Text.trimStart, hc]

theorem trimStart_padded (width n : Nat) (rest : List Char) :
    Text.trimStart ((padded width n).toList ++ rest) = (padded width n).toList ++ rest := by
  obtain ⟨c, cs, hcs⟩ := List.exists_cons_of_ne_nil (padded_ne_nil width n)
  have hc : c ∈ (padded width n).toList := hcs ▸ List.mem_cons_self
  rw [hcs, List.cons_append, trimStart_of_head (isBlank_of_isDigit (isDigit_padded hc))]

theorem fieldBetween_padded {least most n : Nat} (hleast : least ≤ n) (hmost : n ≤ most)
    (hn : n < 100) (rest : List Char) :
    fieldBetween least most ((padded 2 n).toList ++ rest) = some (n, rest) := by
  have hwidth := length_padded (by decide : 0 < 2) hn
  unfold fieldBetween field
  rw [trimStart_padded, digitsUpTo_of_isDigit (padded_ne_nil 2 n) (fun _ => isDigit_padded)
    (.inl hwidth), decimal_padded]
  simp [hleast, hmost]

theorem separator_cons {c : Char} (hc : Text.isBlank c = false) (rest : List Char) :
    separator c (c :: rest) = some rest := by
  unfold separator
  rw [trimStart_of_head hc]
  exact if_pos rfl

/-- A year without a sign has four digits. -/
theorem year_padded {n : Nat} (hn : n < 10000) (rest : List Char) :
    year ((padded 4 n).toList ++ rest) = some ((n : Int), rest) := by
  obtain ⟨c, cs, hcs⟩ := List.exists_cons_of_ne_nil (padded_ne_nil 4 n)
  have hc : c.isDigit = true := isDigit_padded (hcs ▸ List.mem_cons_self)
  have hplain : year ((padded 4 n).toList ++ rest) =
      (digitsUpTo 4 ((padded 4 n).toList ++ rest)).map fun p => ((p.1 : Int), p.2) := by
    unfold year
    rw [trimStart_padded, hcs, List.cons_append]
    split
    · cases (List.cons.inj ‹_›).1
      cases hc
    · cases (List.cons.inj ‹_›).1
      cases hc
    · rfl
  rw [hplain, digitsUpTo_of_isDigit (padded_ne_nil 4 n) (fun _ => isDigit_padded)
    (.inl (length_padded (by decide : 0 < 4) hn)), decimal_padded]
  rfl

theorem year_minus (cs : List Char) :
    year ('-' :: cs) = (digitsUpTo cs.length cs).map fun p => (-(p.1 : Int), p.2) := by
  unfold year
  rw [trimStart_of_head (by decide)]
  rfl

theorem year_plus (cs : List Char) :
    year ('+' :: cs) = (digitsUpTo cs.length cs).map fun p => ((p.1 : Int), p.2) := by
  unfold year
  rw [trimStart_of_head (by decide)]
  rfl

theorem year_yearText (y : Int) (rest : List Char) :
    year ((yearText y).toList ++ '-' :: rest) = some (y, '-' :: rest) := by
  -- behind a sign any number of digits is read
  have hsigned : digitsUpTo ((padded 4 y.natAbs).toList ++ '-' :: rest).length
      ((padded 4 y.natAbs).toList ++ '-' :: rest) = some (y.natAbs, '-' :: rest) := by
    rw [digitsUpTo_of_isDigit (padded_ne_nil _ _) (fun _ => isDigit_padded) (.inr ⟨by simp, ?_⟩),
      decimal_padded]
    rintro c ⟨⟩
    rfl
  unfold yearText
  by_cases hy : 0 ≤ y ∧ y ≤ 9999
  · rw [if_pos hy, year_padded (by omega)]
    have hback : (y.natAbs : Int) = y := by omega
    rw [hback]
  · have hminus : "-".toList = ['-'] := rfl
    have hplus : "+".toList = ['+'] := rfl
    rw [if_neg hy, String.toList_append, List.append_assoc]
    by_cases hneg : y < 0
    · have hback : -(y.natAbs : Int) = y := by omega
      rw [if_pos hneg, hminus, List.singleton_append, year_minus, hsigned, Option.map_some, hback]
    · have hback : (y.natAbs : Int) = y := by omega
      rw [if_neg hneg, hplus, List.singleton_append, year_plus, hsigned, Option.map_some, hback]

/-- Three, six or nine digits behind a second. -/
theorem nanosField_padded {width n : Nat} (hpos : 0 < width) (hwidth : width ≤ 9)
    (hn : n < 10 ^ width) {rest : List Char}
    (hrest : ∀ c, rest.head? = some c → c.isDigit = false) :
    nanosField ('.' :: ((padded width n).toList ++ rest)) = some (n * 10 ^ (9 - width), rest) := by
  have hlength := length_padded hpos hn
  have htake := takeWhile_take_digits
    (fun c (hc : c ∈ (padded width n).toList) => isDigit_padded hc)
    (.inr ⟨hlength.trans_le hwidth, hrest⟩)
  have hstop : rest.dropWhile Char.isDigit = rest := by
    cases rest with
    | nil => rfl
    | cons c rest => simp [hrest c rfl]
  have hne : (padded width n).toList.isEmpty = false :=
    List.isEmpty_eq_false_iff.2 (padded_ne_nil width n)
  have hdrop : ((padded width n).toList ++ rest).drop width = rest := List.drop_left' hlength
  unfold nanosField
  simp only [htake, hne, Bool.false_eq_true, if_false, decimal_padded, hlength, hdrop, hstop]
  rfl

theorem nanosField_nanosText {n : Nat} (hn : n < nanosPerSecond) :
    nanosField ((nanosText n).toList ++ ['Z']) = some (n, ['Z']) := by
  have hletter : ∀ c, ['Z'].head? = some c → c.isDigit = false := by
    rintro c ⟨⟩
    rfl
  have hdot : ∀ s : String, ("." ++ s).toList ++ ['Z'] = '.' :: (s.toList ++ ['Z']) := fun s => by
    rw [String.toList_append]
    rfl
  unfold nanosPerSecond at hn
  unfold nanosText
  simp only [beq_iff_eq]
  split_ifs with hzero hmilli hmicro
  · rw [hzero]
    rfl
  · rw [hdot, nanosField_padded (by decide) (by decide) (by omega) hletter]
    congr 2
    omega
  · rw [hdot, nanosField_padded (by decide) (by decide) (by omega) hletter]
    congr 2
    omega
  · rw [hdot, nanosField_padded (by decide) (by decide) (by omega) hletter]
    congr 2
    omega

/-! ### Moments -/

/-- A date and a time of day as they are written. -/
def parts (d : Date) (hour minute second nanos : Nat) : String :=
  yearText d.year ++ "-" ++ padded 2 d.month ++ "-" ++ padded 2 d.day ++ "T" ++ padded 2 hour
    ++ ":" ++ padded 2 minute ++ ":" ++ padded 2 second ++ nanosText nanos ++ "Z"

/-- The moment at a date and a time of day.  The sixtieth second goes on with the one before. -/
def ofParts (d : Date) (hour minute second nanos : Nat) : Timestamp :=
  ⟨d.toDay * secondsPerDay + (hour * 3600 + minute * 60 + (if second == 60 then 59 else second)),
    if second == 60 then nanos + nanosPerSecond else nanos⟩

theorem toList_parts (d : Date) (hour minute second nanos : Nat) :
    (parts d hour minute second nanos).toList =
      (yearText d.year).toList ++ '-' :: ((padded 2 d.month).toList ++
        '-' :: ((padded 2 d.day).toList ++ 'T' :: ((padded 2 hour).toList ++
        ':' :: ((padded 2 minute).toList ++ ':' :: ((padded 2 second).toList ++
        ((nanosText nanos).toList ++ ['Z'])))))) := by
  simp [parts, String.toList_append]

theorem bind_eq_of_some {α β : Type} {x : Option α} {a : α} {f : α → Option β} {r : Option β}
    (hx : x = some a) (hf : f a = r) : x >>= f = r := by
  rw [hx]
  exact hf

theorem read?_parts {d : Date} {hour minute second nanos : Nat} (hd : d.isValid = true)
    (hyear : leastYear ≤ d.year ∧ d.year ≤ mostYear) (hhour : hour ≤ 23) (hminute : minute ≤ 59)
    (hsecond : second ≤ 60) (hnanos : nanos < nanosPerSecond)
    (huse : Date.ofDay ((ofParts d hour minute second nanos).seconds / secondsPerDay) = d) :
    read? (parts d hour minute second nanos) = some (ofParts d hour minute second nanos) := by
  obtain ⟨⟨hm1, hm12⟩, hd1, hd31⟩ := Date.bounds_of_isValid hd
  have hdash : Text.isBlank '-' = false := by decide
  have hcolon : Text.isBlank ':' = false := by decide
  have hmonth := fieldBetween_padded hm1 hm12 (by omega)
  have hday := fieldBetween_padded hd1 hd31 (by omega)
  have hh := fieldBetween_padded (Nat.zero_le hour) hhour (by omega)
  have hmin := fieldBetween_padded (Nat.zero_le minute) hminute (by omega)
  have hsec := fieldBetween_padded (Nat.zero_le second) hsecond (by omega)
  have hz : offset (Text.trimStart ['Z']) = some (0, []) := by decide
  unfold read?
  rw [toList_parts]
  refine bind_eq_of_some (year_yearText _ _) ?_
  refine bind_eq_of_some (separator_cons hdash _) ?_
  refine bind_eq_of_some (hmonth _) ?_
  refine bind_eq_of_some (separator_cons hdash _) ?_
  refine bind_eq_of_some (hday _) ?_
  refine bind_eq_of_some rfl ?_
  refine bind_eq_of_some (hh _) ?_
  refine bind_eq_of_some (separator_cons hcolon _) ?_
  refine bind_eq_of_some (hmin _) ?_
  refine bind_eq_of_some (separator_cons hcolon _) ?_
  refine bind_eq_of_some (hsec _) ?_
  refine bind_eq_of_some (nanosField_nanosText hnanos) ?_
  refine bind_eq_of_some hz ?_
  have hblank : Text.allBlank [] = true := rfl
  have huse' : (Date.ofDay ((ofParts d hour minute second nanos).seconds / secondsPerDay)).year =
      d.year := congrArg Date.year huse
  have huse₁ := hyear.1
  have huse₂ := hyear.2
  rw [← huse'] at huse₁ huse₂
  simp only [hblank, hd, Bool.not_true, Bool.or_self, Bool.false_eq_true, if_false, Int.sub_zero]
  exact if_pos ⟨huse₁, huse₂, hyear⟩

/-- The moment can be told by the calendar in use. -/
structure InUse (t : Timestamp) : Prop where
  year : leastYear ≤ (Date.ofDay (t.seconds / secondsPerDay)).year ∧
    (Date.ofDay (t.seconds / secondsPerDay)).year ≤ mostYear
  nanos : t.nanos < 2 * nanosPerSecond

/-- The moment that is read when another one was written. -/
def reread (t : Timestamp) : Timestamp :=
  if nanosPerSecond ≤ t.nanos ∧ t.seconds % 60 ≠ 59 then
    ⟨t.seconds + 1, t.nanos - nanosPerSecond⟩
  else t

section

variable {t : Timestamp} {time : Nat} (htime : t.seconds % secondsPerDay = time)
include htime

theorem write_eq_parts : t.write =
    parts (Date.ofDay (t.seconds / secondsPerDay)) (time / 3600) (time / 60 % 60)
      (time % 60 + if nanosPerSecond ≤ t.nanos then 1 else 0)
      (if nanosPerSecond ≤ t.nanos then t.nanos - nanosPerSecond else t.nanos) := by
  unfold write
  rw [htime]
  rfl

theorem ofParts_eq_reread :
    ofParts (Date.ofDay (t.seconds / secondsPerDay)) (time / 3600) (time / 60 % 60)
      (time % 60 + if nanosPerSecond ≤ t.nanos then 1 else 0)
      (if nanosPerSecond ≤ t.nanos then t.nanos - nanosPerSecond else t.nanos) = t.reread := by
  unfold ofParts reread
  rw [Date.toDay_ofDay]
  unfold secondsPerDay at *
  by_cases hleap : nanosPerSecond ≤ t.nanos
  · by_cases hlast : t.seconds % 60 = 59
    · have hsixty : time % 60 + 1 = 60 := by omega
      have hstay : ¬ (nanosPerSecond ≤ t.nanos ∧ t.seconds % 60 ≠ 59) := fun h => h.2 hlast
      simp only [if_pos hleap, hsixty, if_neg hstay, beq_self_eq_true, if_true]
      exact congrArg₂ Timestamp.mk (by omega) (by omega)
    · have hearly : (time % 60 + 1 == 60) = false := by
        rw [beq_eq_false_iff_ne]
        omega
      simp only [if_pos hleap, hearly, if_pos (And.intro hleap hlast), Bool.false_eq_true,
        if_false]
      exact congrArg₂ Timestamp.mk (by omega) rfl
  · have hearly : (time % 60 == 60) = false := by
      rw [beq_eq_false_iff_ne]
      omega
    have hstay : ¬ (nanosPerSecond ≤ t.nanos ∧ t.seconds % 60 ≠ 59) := fun h => hleap h.1
    simp only [if_neg hleap, Nat.add_zero, hearly, if_neg hstay, Bool.false_eq_true, if_false]
    exact congrArg₂ Timestamp.mk (by omega) rfl

end

/-- A leap second that becomes the next second stays in its day. -/
theorem reread_day (t : Timestamp) :
    t.reread.seconds / secondsPerDay = t.seconds / secondsPerDay := by
  unfold reread secondsPerDay
  split_ifs with hleap
  · simp only
    omega
  · rfl

/-- **A written moment is read back**, but for a leap second in the middle of a minute. -/
theorem read?_write {t : Timestamp} (ht : t.InUse) : read? t.write = some t.reread := by
  obtain ⟨time, htime⟩ : ∃ time : Nat, t.seconds % secondsPerDay = time :=
    ⟨_, (Int.toNat_of_nonneg (Int.emod_nonneg _ (by decide))).symm⟩
  have hlt : time < 86400 := by
    have h := Int.emod_lt_of_pos t.seconds (by decide : 0 < secondsPerDay)
    unfold secondsPerDay at h htime
    omega
  rw [write_eq_parts htime, ← ofParts_eq_reread htime]
  refine read?_parts (Date.isValid_ofDay _) ht.year (by omega) (by omega) ?_ ?_ ?_
  · split_ifs <;> omega
  · have hnanos := ht.nanos
    split_ifs <;> omega
  · rw [ofParts_eq_reread htime, reread_day]

theorem reread_eq_self_iff (t : Timestamp) :
    t.reread = t ↔ (nanosPerSecond ≤ t.nanos → t.seconds % 60 = 59) := by
  unfold reread
  split_ifs with h
  · refine iff_of_false (fun heq => ?_) fun himp => h.2 (himp h.1)
    have hseconds := congrArg Timestamp.seconds heq
    simp at hseconds
  · refine iff_of_true rfl fun hleap => ?_
    exact Decidable.byContradiction fun hne => h ⟨hleap, hne⟩

/-- A moment comes back as it was unless it is a leap second in the middle of a minute. -/
theorem read?_write_eq_self_iff {t : Timestamp} (ht : t.InUse) :
    read? t.write = some t ↔ (nanosPerSecond ≤ t.nanos → t.seconds % 60 = 59) := by
  rw [read?_write ht, Option.some_inj, reread_eq_self_iff]

end Reckoning.Timestamp
