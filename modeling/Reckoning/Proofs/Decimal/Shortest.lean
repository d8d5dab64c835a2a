import Mathlib.Tactic.SplitIfs
import Reckoning.Decimal.Shortest

/-!
# Shortest decimals

What the writer of numbers takes apart has the form that it counts on.

* `Decimal.size_ofFloat`: a finite number is an integer times a power of two.
* `Decimal.digits_shortest`: the decimal of a number above zero has a digit above zero.
-/

namespace Reckoning

namespace Decimal

theorem Ratio.num_scaled_pos {n b : Nat} (hn : 0 < n) (hb : 0 < b) (e : Int) :
    0 < (Ratio.scaled n b e).num := by
  unfold Ratio.scaled
  split_ifs
  · exact hn
  · exact Nat.mul_pos hn (Nat.pow_pos hb)

theorem Ratio.den_scaled_pos {n b : Nat} (hb : 0 < b) (e : Int) :
    0 < (Ratio.scaled n b e).den := by
  unfold Ratio.scaled
  split_ifs
  · exact Nat.pow_pos hb
  · exact Nat.one_pos

theorem Ratio.num_scaled_zero (b : Nat) (e : Int) : (Ratio.scaled 0 b e).num = 0 := by
  unfold Ratio.scaled
  split_ifs
  · rfl
  · exact Nat.zero_mul _

/-- Zero does not read back as a double above zero. -/
theorem not_contains_zero {m : Nat} (hm : 0 < m) (e power : Int) :
    (Interval.around m e).contains (.scaled 0 10 power) = false := by
  have hlow : 0 < (Interval.around m e).low.num := by
    unfold Interval.around
    simp only
    split_ifs
    · exact Ratio.num_scaled_pos (by omega) (by decide) _
    · exact Ratio.num_scaled_pos (by omega) (by decide) _
  have hden := Ratio.den_scaled_pos (n := 0) (b := 10) (by decide) power
  have hprod := Nat.mul_pos hlow hden
  have hbelow : (Ratio.scaled 0 10 power).lt (Interval.around m e).low = true := by
    simpa [Ratio.lt, Ratio.num_scaled_zero] using hprod
  have habove : (Interval.around m e).low.lt (Ratio.scaled 0 10 power) = false := by
    simp [Ratio.lt, Ratio.num_scaled_zero]
  unfold Interval.contains
  split_ifs <;> simp [hbelow, habove]

theorem digits_onGrid_pos {m : Nat} (hm : 0 < m) {e : Int} {v : Ratio} {power : Int}
    {d : Scientific} (h : onGrid (.around m e) v power = some d) : 0 < d.digits := by
  have hpos : ∀ n, (Interval.around m e).contains (.scaled n 10 power) = true → 0 < n := by
    intro n hn
    refine Nat.pos_of_ne_zero ?_
    rintro rfl
    rw [not_contains_zero hm] at hn
    cases hn
  have hnear : ∀ {n : Nat} (upper : Bool), 0 < n → 0 < if upper = true then n + 1 else n := by
    intro n upper hn
    cases upper
    · exact hn
    · exact Nat.succ_pos n
  unfold onGrid at h
  simp only at h
  split at h
  · rename_i hlower _
    cases h
    exact hnear _ (hpos _ hlower)
  · rename_i hlower _
    cases h
    exact hpos _ hlower
  · cases h
    exact Nat.succ_pos _
  · cases h

theorem digits_go_pos {digits : Nat} (h : 0 < digits) (power : Int) (n : Nat) :
    0 < (Scientific.trimmed.go digits power n).digits := by
  induction n generalizing digits power with
  | zero => exact h
  | succ n ih =>
    rw [Scientific.trimmed.go]
    split_ifs with hzero
    · have hten : digits % 10 = 0 := by simpa using hzero
      exact ih (by omega) _
    · exact h

/-- The shortest decimal of a number above zero is above zero, or else there is none. -/
theorem digits_shortest {m : Nat} (hm : 0 < m) (e : Int) :
    0 < (shortest m e).digits ∨ shortest m e = ⟨0, 0⟩ := by
  unfold shortest
  simp only
  split
  · rename_i hd
    obtain ⟨n, -, hn⟩ := List.exists_of_findSome?_eq_some hd
    exact .inl (digits_go_pos (digits_onGrid_pos hm hn) _ _)
  · exact .inr rfl

/-- A finite number is an integer times a power of two. -/
theorem size_ofFloat {x : Float} (h : x.isFinite = true) :
    ∃ m e, (Double.ofFloat x).size = .finite m e := by
  have hfield : x.toBits.toNat / Double.leadingBit % 2048 ≠ 2047 := by
    intro hmost
    have hexponent : @Float.Model.UnpackedFloat.unpackExponent .binary64
        x.toBits.toBitVec = -1#_ := by
      refine BitVec.eq_of_toNat_eq ?_
      unfold Float.Model.UnpackedFloat.unpackExponent
      rw [BitVec.toNat_cast, BitVec.extractLsb_toNat, Nat.shiftRight_eq_div_pow]
      exact hmost
    change (Float.Model.UnpackedFloat.unpack .binary64 x.toBits.toBitVec).isFinite = true at h
    unfold Float.Model.UnpackedFloat.unpack at h
    rw [if_pos hexponent] at h
    split_ifs at h
    all_goals cases h
  unfold Double.ofFloat
  simp only [beq_iff_eq, if_neg hfield]
  split_ifs
  all_goals exact ⟨_, _, rfl⟩

end Decimal

end Reckoning
