import Mathlib
import Reckoning.Generator

/-!
# Sums of positive numbers

A sum of numbers above zero is above zero, however it is rounded and even where it is too large
for a number and becomes infinite.

* `IsPositive` is what a number above zero is made of: `isPositive_of_zero_lt` finds it in a
  `Float`, `IsPositive.not_le_zero` concludes from it.
* `isPositive_round`: rounding a positive mantissa does not lose it.  `IsPositive.add` and
  `IsPositive.unpack_pack` follow the other steps of an addition.
* `not_totalWeight_le_zero`: so weights above zero have a total that is not zero.
* `zero_lt_of_sub_lt_zero`: what is no number leaves nothing to compare when it is taken away.
-/

namespace Reckoning

open Float.Model (Format UnpackedFloat totalExponent)
open Float.Model.Format
open Float.Model.UnpackedFloat

/-- A number above zero, its mantissa and exponent small and large enough for 64 bits. -/
inductive IsPositive : UnpackedFloat → Prop
  | infinity : IsPositive (.infinity .positive)
  | finite {m : Nat} {e : Int} (hm : 0 < m) (size : m < 2 ^ 53) (least : -1074 ≤ e) :
      IsPositive (.finite .positive m e hm)

/-! ### Bits -/

theorem unpack_packedInfinity :
    unpack binary64 (packedInfinity binary64 .positive) = .infinity .positive := rfl

theorem bounds_of_unpack {b : BitVec binary64.numBits} {s : Sign} {m : Nat} {e : Int} {hm : 0 < m}
    (h : unpack binary64 b = .finite s m e hm) : m < 2 ^ 53 ∧ -1074 ≤ e := by
  unfold unpack at h
  simp only [exponentBias] at h
  split_ifs at h
  · -- a number without the leading bit has the least exponent there is
    cases h
    have hm := (unpackMantissa b).isLt
    exact ⟨by omega, by simp [*]⟩
  · cases h
    have he : (unpackExponent b).toNat ≠ 0 :=
      fun h0 => ‹¬unpackExponent b = 0#_› (BitVec.eq_of_toNat_eq h0)
    exact ⟨(1#1 ++ unpackMantissa b).isLt, by omega⟩

/-- Bits with a positive sign are a positive number, unless they are set apart. -/
theorem isPositive_unpack {e : BitVec binary64.exponentBits}
    {m : BitVec binary64.mantissaBitsWithoutImplicit} (he : e ≠ -1#_) (h : e = 0#_ → m ≠ 0#_) :
    IsPositive (unpack binary64 (packComponents binary64 .positive e m)) := by
  cases hu : unpack binary64 (packComponents binary64 .positive e m) with
  | finite s m' e' hm' =>
    obtain ⟨hsize, hleast⟩ := bounds_of_unpack hu
    have hs : s = .positive := by
      unfold unpack at hu
      simp only [unpackSign_packComponents] at hu
      split_ifs at hu <;> cases hu <;> rfl
    exact hs ▸ .finite hm' hsize hleast
  | _ =>
    unfold unpack at hu
    simp only [unpackExponent_packComponents, unpackMantissa_packComponents, if_neg he] at hu
    split_ifs at hu with hzero hm
    all_goals exact absurd hm (h hzero)

/-- An exponent that is not too large is neither of the two that are set apart. -/
theorem ofNat_exponent_ne {n : Nat} (hpos : 0 < n) (hn : n + 1 < 2 ^ 11) :
    BitVec.ofNat 11 n ≠ -1#_ ∧ BitVec.ofNat 11 n ≠ 0#_ := by
  constructor
  all_goals
    intro h
    have htoNat := congrArg BitVec.toNat h
    rw [BitVec.toNat_ofNat, Nat.mod_eq_of_lt (by omega)] at htoNat
  · change n = 2047 at htoNat
    omega
  · change n = 0 at htoNat
    omega

theorem ofNat_mantissa_ne {m : Nat} (hm : 0 < m) (hlt : m < 2 ^ 52) : BitVec.ofNat 52 m ≠ 0#_ := by
  intro h
  have htoNat := congrArg BitVec.toNat h
  rw [BitVec.toNat_ofNat, Nat.mod_eq_of_lt hlt] at htoNat
  change m = 0 at htoNat
  omega

theorem IsPositive.unpack_pack {u : UnpackedFloat} (h : IsPositive u) :
    IsPositive (Float.Model.pack u).unpack := by
  change IsPositive (unpack binary64 (pack binary64 u))
  cases h with
  | infinity => exact unpack_packedInfinity ▸ .infinity
  | @finite m e hm size least =>
    unfold pack
    change IsPositive (unpack binary64 (ite (2 ^ 11 ≤ (e + (1023 : Nat) + (52 : Nat)).toNat + 1)
      _ (ite (m.log2 + 1 = 53) _ _)))
    split_ifs with hover hlog
    · exact unpack_packedInfinity ▸ .infinity
    · obtain ⟨hone, hzero⟩ := ofNat_exponent_ne
        (n := (e + (1023 : Nat) + (52 : Nat)).toNat) (by omega) (by omega)
      exact isPositive_unpack hone fun he => absurd he hzero
    · -- without the leading bit the mantissa is written as it is
      have hle : m.log2 < 53 := (Nat.log2_lt (by omega)).2 size
      have hlt : m < 2 ^ 52 := (Nat.log2_lt (by omega)).1 (by omega)
      exact isPositive_unpack (by decide) fun _ => ofNat_mantissa_ne hm hlt

/-! ### Comparing with zero -/

theorem unpack_zero : (0.0 : Float).toModel.unpack = .zero .positive := rfl

theorem zero_lt_iff {x : Float} : 0.0 < x ↔ (zero .positive).lt x.toModel.unpack = true := by
  rw [← unpack_zero]
  exact decide_eq_true_iff

theorem le_zero_iff {x : Float} : x ≤ 0.0 ↔ x.toModel.unpack.le (zero .positive) = true := by
  rw [← unpack_zero]
  exact decide_eq_true_iff

theorem isPositive_of_zero_lt {x : Float} (h : 0.0 < x) : IsPositive x.toModel.unpack := by
  rw [zero_lt_iff] at h
  cases hu : x.toModel.unpack with
  | infinity s =>
    rw [hu] at h
    cases s with
    | negative => cases h
    | positive => exact .infinity
  | finite s m e hm =>
    rw [hu] at h
    cases s with
    | negative => cases h
    | positive =>
      obtain ⟨hsize, hleast⟩ := bounds_of_unpack hu
      exact .finite hm hsize hleast
  | _ =>
    rw [hu] at h
    cases h

theorem IsPositive.not_le_zero {x : Float} (h : IsPositive x.toModel.unpack) : ¬x ≤ 0.0 := by
  rw [le_zero_iff]
  generalize x.toModel.unpack = u at h
  cases h <;> exact nofun

/-! ### Subtracting what is no number -/

theorem lt_zero_iff {x : Float} : x < 0.0 ↔ x.toModel.unpack.lt (zero .positive) = true := by
  rw [← unpack_zero]
  exact decide_eq_true_iff

theorem sub_notANumber (u : UnpackedFloat) :
    UnpackedFloat.sub binary64 u notANumber = notANumber := by
  unfold UnpackedFloat.sub
  cases u <;> rfl

/-- Without a number to take away nothing is left to compare. -/
theorem not_sub_lt_zero {x y : Float} (hy : y.toModel.unpack = notANumber) : ¬x - y < 0.0 := by
  have hsub : (x - y).toModel.unpack = notANumber := by
    change (Float.Model.pack
      (UnpackedFloat.sub binary64 x.toModel.unpack y.toModel.unpack)).unpack = _
    rw [hy, sub_notANumber]
    rfl
  rw [lt_zero_iff, hsub]
  exact nofun

/-- What is not below zero and leaves less than zero is above zero. -/
theorem zero_lt_of_sub_lt_zero {x y : Float} (hy : ¬y ≤ 0.0) (h : x - y < 0.0) : 0.0 < y := by
  rw [le_zero_iff] at hy
  rw [zero_lt_iff]
  cases hu : y.toModel.unpack with
  | notANumber => exact absurd h (not_sub_lt_zero hu)
  | zero s =>
    rw [hu] at hy
    exact absurd rfl hy
  | infinity s =>
    rw [hu] at hy
    cases s with
    | negative => exact absurd rfl hy
    | positive => rfl
  | finite s m e hm =>
    rw [hu] at hy
    cases s with
    | negative => exact absurd rfl hy
    | positive => rfl

/-! ### Rounding -/

theorem mantissa_repeat_shiftRightOne (em : ExtendedMantissa) (n : Nat) :
    (n.repeat ExtendedMantissa.shiftRightOne em).mantissa = em.mantissa / 2 ^ n := by
  induction n with
  | zero => simp [Nat.repeat]
  | succ n ih =>
    change (n.repeat ExtendedMantissa.shiftRightOne em).mantissa / 2 = em.mantissa / 2 ^ (n + 1)
    rw [ih, Nat.div_div_eq_div_mul, Nat.pow_succ]

theorem mantissa_ofMantissaAndAccuracy (m : Nat) (a : Accuracy) :
    (ExtendedMantissa.ofMantissaAndAccuracy m a).mantissa = m := by
  rcases a with _ | (_ | _ | _) <;> rfl

theorem le_roundedMantissa (em : ExtendedMantissa) : em.mantissa ≤ em.roundedMantissa := by
  unfold ExtendedMantissa.roundedMantissa
  rcases em.accuracy with _ | (_ | _ | _) <;> simp [Accuracy.roundToNearestEven]

theorem div_two_pow_log2_bounds {m : Nat} (hm : 0 < m) :
    0 < m / 2 ^ (m.log2 - 52) ∧ m / 2 ^ (m.log2 - 52) < 2 ^ 53 := by
  constructor
  · have hle : 2 ^ m.log2 ≤ m := Nat.log2_self_le (by omega)
    exact Nat.div_pos (Nat.le_trans (Nat.pow_le_pow_right (by omega) (by omega)) hle)
      (Nat.two_pow_pos _)
  · have hlt : m < 2 ^ (m.log2 + 1) := Nat.lt_log2_self
    rw [Nat.div_lt_iff_lt_mul (Nat.two_pow_pos _), ← Nat.pow_add]
    exact Nat.lt_of_lt_of_le hlt (Nat.pow_le_pow_right (by omega) (by omega))

/-- A mantissa loses only the digits beyond the first 53. -/
theorem shiftToTargetExponent_bounds {m : Nat} {e : Int} (hm : 0 < m) (he : -1074 ≤ e)
    (a : Accuracy) : 0 < (shiftToTargetExponent binary64 m e a).1.mantissa ∧
      (shiftToTargetExponent binary64 m e a).1.mantissa < 2 ^ 53 ∧
      -1074 ≤ (shiftToTargetExponent binary64 m e a).2 := by
  have hshift : (targetExponent binary64 (totalExponent m e) - e).toNat = m.log2 - 52 := by
    change (max ((m.log2 : Int) + 1 + e - 53) (-1074) - e).toNat = m.log2 - 52
    omega
  have hmantissa : (shiftToTargetExponent binary64 m e a).1.mantissa = m / 2 ^ (m.log2 - 52) := by
    unfold shiftToTargetExponent shiftToExponent
    simp only [hshift]
    exact (mantissa_repeat_shiftRightOne _ _).trans (by rw [mantissa_ofMantissaAndAccuracy])
  rw [hmantissa]
  obtain ⟨hpos, hsize⟩ := div_two_pow_log2_bounds hm
  refine ⟨hpos, hsize, ?_⟩
  unfold shiftToTargetExponent shiftToExponent
  simp only
  omega

theorem isPositive_roundWithAccuracy {m : Nat} {e : Int} (hm : 0 < m) (he : -1074 ≤ e)
    (a : Accuracy) : IsPositive (roundWithAccuracy binary64 .positive m e a) := by
  -- the mantissa is shortened, rounded up or not, and shortened again
  obtain ⟨hfirst, -, he₁⟩ := shiftToTargetExponent_bounds hm he a
  have hrounded := Nat.lt_of_lt_of_le hfirst (le_roundedMantissa _)
  obtain ⟨hlast, hsize, he₂⟩ := shiftToTargetExponent_bounds hrounded he₁ .exact
  unfold roundWithAccuracy
  simp only
  rw [dif_neg (by omega)]
  exact .finite hlast hsize he₂

theorem decreaseExponent_bounds {m : Nat} {e t : Int} (hm : 0 < m) (he : -1074 ≤ e)
    (ht : -1074 ≤ t) : 0 < (decreaseExponent m e t).1 ∧ -1074 ≤ (decreaseExponent m e t).2 := by
  unfold decreaseExponent
  simp only [Nat.shiftLeft_eq]
  exact ⟨Nat.mul_pos hm (Nat.two_pow_pos _), by omega⟩

theorem isPositive_round {m : Nat} {e : Int} (hm : 0 < m) (he : -1074 ≤ e) :
    IsPositive (round binary64 .positive m e) := by
  have ht : -1074 ≤ targetExponent binary64 (totalExponent m e) := Int.le_max_right _ _
  obtain ⟨hm', he'⟩ := decreaseExponent_bounds hm he ht
  exact isPositive_roundWithAccuracy hm' he' .exact

/-! ### Adding -/

theorem normalize_of_pos {m : Int} {e : Int} (hm : 0 < m) :
    UnpackedFloat.normalize binary64 m e .positive = round binary64 .positive m.toNat e := by
  unfold UnpackedFloat.normalize
  rw [Int.compare_eq_gt.2 hm]

theorem IsPositive.add {u v : UnpackedFloat} (hu : IsPositive u) (hv : IsPositive v) :
    IsPositive (UnpackedFloat.add binary64 u v) := by
  cases hu with
  | infinity => cases hv <;> exact .infinity
  | @finite m₁ e₁ hm₁ _ he₁ =>
    cases hv with
    | infinity => exact .infinity
    | @finite m₂ e₂ hm₂ _ he₂ =>
      have he : -1074 ≤ min e₁ e₂ := Int.le_min.2 ⟨he₁, he₂⟩
      obtain ⟨h₁, -⟩ := decreaseExponent_bounds hm₁ he₁ he
      obtain ⟨h₂, -⟩ := decreaseExponent_bounds hm₂ he₂ he
      unfold UnpackedFloat.add
      simp only [Sign.apply]
      rw [normalize_of_pos (by omega)]
      exact isPositive_round (by omega) he

theorem isPositive_zero_add {x : Float} (h : IsPositive x.toModel.unpack) :
    IsPositive (0.0 + x).toModel.unpack := by
  change IsPositive (Float.Model.pack (UnpackedFloat.add binary64 (0.0 : Float).toModel.unpack
    x.toModel.unpack)).unpack
  rw [unpack_zero]
  generalize x.toModel.unpack = u at h
  cases h with
  | infinity => exact IsPositive.unpack_pack .infinity
  | finite hm size least => exact IsPositive.unpack_pack (.finite hm size least)

theorem isPositive_add {x y : Float} (hx : IsPositive x.toModel.unpack)
    (hy : IsPositive y.toModel.unpack) : IsPositive (x + y).toModel.unpack :=
  (hx.add hy).unpack_pack

theorem isPositive_foldl {x : Float} {xs : List Float} (hx : IsPositive x.toModel.unpack)
    (hxs : ∀ y ∈ xs, 0.0 < y) : IsPositive (xs.foldl (· + ·) x).toModel.unpack := by
  induction xs generalizing x with
  | nil => exact hx
  | cons y ys ih =>
    obtain ⟨hy, hys⟩ := List.forall_mem_cons.1 hxs
    exact ih (isPositive_add hx (isPositive_of_zero_lt hy)) hys

/-- **Weights with one above zero among them have a total that is not zero.** -/
theorem not_totalWeight_le_zero {weights : List Float} {w : Float} (hw : w ∈ weights)
    (hpos : 0.0 < w) : ¬Generator.totalWeight weights ≤ 0.0 := by
  unfold Generator.totalWeight
  have hall : ∀ x ∈ weights.filter (0.0 < ·), 0.0 < x := by simp
  have hmem : w ∈ weights.filter (0.0 < ·) := by simpa using ⟨hw, hpos⟩
  cases hf : weights.filter (0.0 < ·) with
  | nil => simp [hf] at hmem
  | cons x xs =>
    rw [hf, List.forall_mem_cons] at hall
    rw [List.foldl_cons]
    exact (isPositive_foldl (isPositive_zero_add (isPositive_of_zero_lt hall.1)) hall.2).not_le_zero

end Reckoning
