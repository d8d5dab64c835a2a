import Mathlib.Tactic.IntervalCases
import Mathlib.Tactic.SplitIfs
import Reckoning.Timestamp.Calendar

/-!
# Days and dates

A date is counted in days and found again.  What has to be seen is that the year of a day is the
right one: the days of the years before it lie behind, and those of the next one ahead.

* `Date.yearsOf` are the whole years, counted from March, that lie before a day of four hundred
  years; `Date.daysBefore_yearsOf` says that they are the right ones.
* `Date.toDay_ofDay` and `Date.isValid_ofDay`: the date of a day exists and is that of this day.
-/

namespace Reckoning

namespace Date

/-! ### Years -/

/-- The days before a year. -/
def daysBefore (year : Int) : Int := 365 * year + year / 4 - year / 100

/-- A day, counted as if all years had 365 days. -/
def evenDay (day : Int) : Int := day - day / 1460 + day / 36524 - day / 146096

/-- The years before a day. -/
def yearsOf (day : Int) : Int := evenDay day / 365

/-- Even days do not go back. -/
theorem evenDay_le_succ (day : Int) : evenDay day ≤ evenDay (day + 1) := by
  unfold evenDay
  omega

theorem evenDay_mono {a b : Int} (h : a ≤ b) : evenDay a ≤ evenDay b := by
  obtain ⟨n, rfl⟩ := Int.le.dest h
  induction n with
  | zero => simp
  | succ n ih =>
    have hstep := evenDay_le_succ (a + n)
    rw [Int.natCast_succ, ← Int.add_assoc]
    exact Int.le_trans (ih (by omega)) hstep

/-- The first and the last day of each of four hundred years, as even days. -/
theorem evenDay_daysBefore : ∀ n : Nat, n < 400 → 365 * (n : Int) ≤ evenDay (daysBefore n) ∧
    (0 < n → evenDay (daysBefore n - 1) < 365 * n) := by decide +kernel

theorem daysBefore_yearsOf {day : Int} (hleast : 0 ≤ day) (hmost : day < 146097) :
    0 ≤ yearsOf day ∧ yearsOf day < 400 ∧ daysBefore (yearsOf day) ≤ day ∧
      (yearsOf day < 399 → day < daysBefore (yearsOf day + 1)) := by
  have hpos : 0 ≤ yearsOf day := by
    unfold yearsOf evenDay
    omega
  have hlt : yearsOf day < 400 := by
    have hlast : evenDay day ≤ evenDay 146096 := evenDay_mono (by omega)
    have hvalue : evenDay 146096 = 145999 := by decide
    unfold yearsOf
    omega
  have heven : 365 * yearsOf day ≤ evenDay day ∧ evenDay day < 365 * (yearsOf day + 1) := by
    unfold yearsOf
    omega
  obtain ⟨n, hn⟩ : ∃ n : Nat, yearsOf day = n := ⟨_, (Int.toNat_of_nonneg hpos).symm⟩
  rw [hn] at heven hlt ⊢
  refine ⟨by omega, hlt, ?_, ?_⟩
  · obtain ⟨-, hbefore⟩ := evenDay_daysBefore n (by omega)
    refine Int.not_lt.1 fun hday => ?_
    rcases Nat.eq_zero_or_pos n with rfl | hn0
    · exact Int.not_lt.2 hleast hday
    · have hmono : evenDay day ≤ evenDay (daysBefore n - 1) := evenDay_mono (by omega)
      have hlt := hbefore hn0
      omega
  · intro hlast
    obtain ⟨hnext, -⟩ := evenDay_daysBefore (n + 1) (by omega)
    refine Int.not_le.1 fun hday => ?_
    have hmono := evenDay_mono hday
    push_cast at hnext
    omega

/-- A year has at most 366 days, and so many only if it ends in a leap day. -/
theorem daysBefore_succ (year : Int) : daysBefore (year + 1) ≤ daysBefore year + 366 ∧
    (daysBefore (year + 1) = daysBefore year + 366 →
      (year + 1) % 4 = 0 ∧ (year + 1) % 100 ≠ 0) := by
  unfold daysBefore
  refine ⟨by omega, fun h => ⟨by omega, by omega⟩⟩

/-! ### Days of a year -/

/-- The month of a day of a year that begins in March.  Months count from zero. -/
def monthOf (n : Nat) : Nat := (5 * n + 2) / 153

/-- The date of a day of a year that begins in March.  Days count from zero. -/
def ofDayOfYear (year : Int) (n : Nat) : Date where
  year := if monthOf n < 10 then year else year + 1
  month := if monthOf n < 10 then monthOf n + 3 else monthOf n - 9
  day := n + 1 - (153 * monthOf n + 2) / 5

theorem month_of_dayOfYear : ∀ n < 366, monthOf n < 12 ∧ (153 * monthOf n + 2) / 5 ≤ n ∧
    n + 1 - (153 * monthOf n + 2) / 5 ≤
      (if monthOf n = 11 then if n = 365 then 29 else 28
        else if monthOf n ∈ [1, 3, 6, 8] then 30 else 31) := by decide +kernel

theorem toDay_ofDayOfYear {era year : Int} (hpos : 0 ≤ year) (hlt : year < 400) {n : Nat}
    (hn : n < 366) : (ofDayOfYear (year + era * 400) n).toDay =
      era * daysPerEra + daysBefore year + n - daysToEpoch := by
  obtain ⟨hmonth, hdate, -⟩ := month_of_dayOfYear n hn
  have hera : (year + era * 400) / 400 = era ∧ (year + era * 400) % 400 = year := by omega
  unfold ofDayOfYear toDay daysBefore
  generalize monthOf n = month at *
  -- January and February belong to the next year of the calendar
  by_cases hm : month < 10
  · have hlate : ¬ month + 3 ≤ 2 := by omega
    have hback : (((month + 3 : Nat) : Int) + 9) % 12 = month := by omega
    simp only [if_pos hm, if_neg hlate, hera.1, hera.2, hback]
    omega
  · have hearly : month - 9 ≤ 2 := by omega
    have hback : (((month - 9 : Nat) : Int) + 9) % 12 = month := by omega
    simp only [if_neg hm, if_pos hearly, Int.add_sub_cancel, hera.1, hera.2, hback]
    omega

theorem isValid_ofDayOfYear {year : Int} {n : Nat} (hn : n < 366)
    (hleap : n = 365 → isLeap (year + 1) = true) : (ofDayOfYear year n).isValid = true := by
  obtain ⟨hmonth, hdate, hdays⟩ := month_of_dayOfYear n hn
  unfold isValid ofDayOfYear
  simp only [Bool.and_eq_true, decide_eq_true_eq]
  have hfirst : 1 ≤ n + 1 - (153 * monthOf n + 2) / 5 := by omega
  generalize n + 1 - (153 * monthOf n + 2) / 5 = date at *
  by_cases hfebruary : monthOf n = 11
  · simp only [hfebruary, if_true] at hdays ⊢
    have hshort : date ≤ daysIn (year + 1) 2 := by
      unfold daysIn
      by_cases hlast : n = 365
      · simpa [hlast, hleap hlast] using hdays
      · rw [if_neg hlast] at hdays
        simp only [beq_self_eq_true, if_true]
        split <;> omega
    exact ⟨⟨⟨by decide, by decide⟩, hfirst⟩, hshort⟩
  · rw [if_neg hfebruary] at hdays
    refine ⟨⟨⟨by split <;> omega, by split <;> omega⟩, hfirst⟩, Nat.le_trans hdays ?_⟩
    generalize monthOf n = month at *
    -- in the other months the year does not matter
    interval_cases month
    all_goals first
      | exact Nat.le_refl _
      | exact absurd rfl hfebruary

/-! ### Days of an era -/

/-- The date of a day of an era. -/
def ofParts (era dayOfEra : Int) : Date :=
  let year := yearsOf dayOfEra
  let dayOfYear := dayOfEra - daysBefore year
  let month := (5 * dayOfYear + 2) / 153
  let civil := if month < 10 then month + 3 else month - 9
  ⟨if civil ≤ 2 then year + era * 400 + 1 else year + era * 400, civil.toNat,
    (dayOfYear - (153 * month + 2) / 5 + 1).toNat⟩

theorem ofParts_eq (era dayOfEra : Int) (n : Nat) (hlt : n < 366)
    (hn : dayOfEra - daysBefore (yearsOf dayOfEra) = n) :
    ofParts era dayOfEra = ofDayOfYear (yearsOf dayOfEra + era * 400) n := by
  have hmonth : (5 * (n : Int) + 2) / 153 = monthOf n := by
    unfold monthOf
    omega
  obtain ⟨hmonths, hdate, -⟩ := month_of_dayOfYear n hlt
  unfold ofParts ofDayOfYear
  simp only [hn, hmonth]
  generalize monthOf n = month at *
  by_cases hm : month < 10
  · have hm' : (month : Int) < 10 := by omega
    have hlate : ¬ ((month : Int) + 3 ≤ 2) := by omega
    simp only [if_pos hm, if_pos hm', if_neg hlate, Date.mk.injEq, true_and]
    omega
  · have hm' : ¬ ((month : Int) < 10) := by omega
    have hearly : (month : Int) - 9 ≤ 2 := by omega
    simp only [if_neg hm, if_neg hm', if_pos hearly, Date.mk.injEq, true_and]
    omega

/-- A day is a day of a year of an era. -/
theorem exists_ofDay (day : Int) : ∃ (era year : Int) (n : Nat), 0 ≤ year ∧ year < 400 ∧ n < 366 ∧
    day = era * daysPerEra + daysBefore year + n - daysToEpoch ∧
    (n = 365 → isLeap (year + era * 400 + 1) = true) ∧
    ofDay day = ofDayOfYear (year + era * 400) n := by
  have hleast : 0 ≤ (day + daysToEpoch) % daysPerEra := Int.emod_nonneg _ (by decide)
  have hmost : (day + daysToEpoch) % daysPerEra < 146097 := Int.emod_lt_of_pos _ (by decide)
  have hsplit := Int.mul_ediv_add_emod (day + daysToEpoch) daysPerEra
  have hofDay : ofDay day = ofParts ((day + daysToEpoch) / daysPerEra)
      ((day + daysToEpoch) % daysPerEra) := rfl
  rw [hofDay]
  generalize (day + daysToEpoch) % daysPerEra = dayOfEra at *
  generalize (day + daysToEpoch) / daysPerEra = era at *
  obtain ⟨hpos, hlt, hle, hnext⟩ := daysBefore_yearsOf hleast hmost
  have hparts := ofParts_eq era dayOfEra
  generalize yearsOf dayOfEra = year at *
  obtain ⟨hlong, hleap⟩ := daysBefore_succ year
  obtain ⟨n, hn⟩ : ∃ n : Nat, dayOfEra - daysBefore year = n :=
    ⟨_, (Int.toNat_of_nonneg (by omega)).symm⟩
  have hlast : year = 399 → daysBefore year = 145731 := by
    rintro rfl
    decide
  refine ⟨era, year, n, hpos, hlt, by omega, ?_, ?_, hparts n (by omega) hn⟩
  · rw [Int.mul_comm era]
    omega
  · intro h365
    have hends : year = 399 ∨ (year + 1) % 4 = 0 ∧ (year + 1) % 100 ≠ 0 := by omega
    simp only [isLeap, Bool.and_eq_true, Bool.or_eq_true, beq_iff_eq, bne_iff_ne]
    omega

/-- The date of a day is that of this day. -/
theorem toDay_ofDay (day : Int) : (ofDay day).toDay = day := by
  obtain ⟨era, year, n, hpos, hlt, hn, hday, -, hofDay⟩ := exists_ofDay day
  rw [hofDay, toDay_ofDayOfYear hpos hlt hn, ← hday]

/-- The date of a day exists. -/
theorem isValid_ofDay (day : Int) : (ofDay day).isValid = true := by
  obtain ⟨era, year, n, -, -, hn, -, hleap, hofDay⟩ := exists_ofDay day
  rw [hofDay]
  exact isValid_ofDayOfYear hn hleap

theorem bounds_of_isValid {d : Date} (h : d.isValid = true) :
    (1 ≤ d.month ∧ d.month ≤ 12) ∧ 1 ≤ d.day ∧ d.day ≤ 31 := by
  have hdays : ∀ y m, daysIn y m ≤ 31 := by
    intro y m
    unfold daysIn
    split_ifs <;> decide
  simp only [isValid, Bool.and_eq_true, decide_eq_true_eq] at h
  obtain ⟨⟨hmonth, hleast⟩, hmost⟩ := h
  exact ⟨hmonth, hleast, Nat.le_trans hmost (hdays _ _)⟩

end Date

end Reckoning
