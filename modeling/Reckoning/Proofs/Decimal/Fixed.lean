import Mathlib.Algebra.Ring.Nat
import Mathlib.Data.List.Basic
import Mathlib.Tactic.SplitIfs
import Reckoning.Decimal.Text
import Reckoning.Proofs.Decimal.Shortest

/-!
# A fixed number of places

A double that is written with some places is rounded to the nearest integer of the last place.  Its
text is that integer, with a point in front of the places.

* `Decimal.isNearest_round`: rounding comes to a nearest integer.
* `Decimal.take_padded` cuts the whole part from the digits.
* `Decimal.IsFixed` is what such a text says, and `Decimal.isFixed_writeFixed` that every text does.
-/

namespace Reckoning.Decimal

/-- No integer is nearer to a quotient. -/
structure IsNearest (n : Nat) (r : Ratio) : Prop where
  notAbove : 2 * (n * r.den) ≤ 2 * r.num + r.den
  notBelow : 2 * r.num ≤ 2 * (n * r.den) + r.den

theorem isNearest_round {r : Ratio} (h : 0 < r.den) : IsNearest r.round r := by
  have hnum : r.num = r.num / r.den * r.den + r.num % r.den := (Nat.div_add_mod' _ _).symm
  have hrest : r.num % r.den < r.den := Nat.mod_lt _ h
  unfold Ratio.round
  simp only [Bool.or_eq_true, Bool.and_eq_true, decide_eq_true_eq, beq_iff_eq]
  split_ifs with hup
  · have hnext : (r.num / r.den + 1) * r.den = r.num / r.den * r.den + r.den := Nat.succ_mul _ _
    constructor <;> omega
  · constructor <;> omega

/-! ### Cutting digits -/

/-- Digits with zeros in front, so that there is one before the places. -/
def padded (places n : Nat) : List Char :=
  zeros (places + 1 - (digitChars n).length) ++ digitChars n

theorem length_digitChars_pos (n : Nat) : 0 < (digitChars n).length := Nat.length_toDigits_pos

theorem lt_length_padded (places n : Nat) : places < (padded places n).length := by
  have hpos := length_digitChars_pos n
  unfold padded zeros
  rw [List.length_append, List.length_replicate]
  omega

theorem isDigit_padded {places n : Nat} : ∀ c ∈ padded places n, c.isDigit = true := by
  intro c hc
  rcases List.mem_append.1 hc with hzero | hdigit
  · rw [List.eq_of_mem_replicate hzero]
    rfl
  · exact Nat.isDigit_of_mem_toDigits (by decide) (by decide) hdigit

theorem ofDigitChars_padded (places n : Nat) : Nat.ofDigitChars 10 (padded places n) 0 = n := by
  unfold padded zeros digitChars
  rw [Nat.ofDigitChars_append, Nat.ofDigitChars_replicate_zero, Nat.mul_zero,
    Nat.ofDigitChars_toDigits (by decide) (by decide)]

/-- One place more, one digit more at the end. -/
theorem padded_succ (places n : Nat) :
    padded (places + 1) n = padded places (n / 10) ++ [(n % 10).digitChar] := by
  unfold padded digitChars
  rw [Nat.toDigits_eq_if (by decide)]
  split_ifs with hsmall
  · rw [Nat.div_eq_of_lt hsmall, Nat.mod_eq_of_lt hsmall]
    simp [zeros, Nat.toDigits_zero, List.replicate_succ']
  · rw [List.length_append, List.length_singleton, Nat.add_sub_add_right, List.append_assoc]

/-- In front of the places stands the whole part. -/
theorem take_padded (places n : Nat) :
    (padded places n).take ((padded places n).length - places) =
      digitChars (n / 10 ^ places) := by
  induction places generalizing n with
  | zero =>
    have hpos := length_digitChars_pos n
    have hnone : 0 + 1 - (digitChars n).length = 0 := by omega
    rw [Nat.pow_zero, Nat.div_one, Nat.sub_zero, List.take_length]
    unfold padded
    rw [hnone]
    rfl
  | succ places ih =>
    have hle : (padded places (n / 10)).length - places ≤ (padded places (n / 10)).length :=
      Nat.sub_le _ _
    rw [padded_succ, List.length_append, List.length_singleton, Nat.add_sub_add_right,
      List.take_append_of_le_length hle, ih, Nat.div_div_eq_div_mul, Nat.pow_succ, Nat.mul_comm 10]

theorem length_drop_padded (places n : Nat) :
    ((padded places n).drop ((padded places n).length - places)).length = places := by
  have hlt := lt_length_padded places n
  rw [List.length_drop]
  omega

theorem ofDigitChars_drop_padded (places n : Nat) :
    Nat.ofDigitChars 10 ((padded places n).drop ((padded places n).length - places)) 0 =
      n % 10 ^ places := by
  have hall := ofDigitChars_padded places n
  have hwhole : Nat.ofDigitChars 10 (digitChars (n / 10 ^ places)) 0 = n / 10 ^ places :=
    Nat.ofDigitChars_toDigits (by decide) (by decide)
  rw [← List.take_append_drop ((padded places n).length - places) (padded places n),
    Nat.ofDigitChars_append, take_padded, hwhole, Nat.ofDigitChars_eq_ofDigitChars_zero,
    length_drop_padded] at hall
  have hdiv : 10 ^ places * (n / 10 ^ places) + n % 10 ^ places = n := Nat.div_add_mod _ _
  omega

/-! ### Texts -/

/-- The number `mantissa * 2 ^ exponent`, counted in the last of some places. -/
def inPlaces (places mantissa : Nat) (exponent : Int) : Ratio :=
  ⟨(Ratio.scaled mantissa 2 exponent).num * 10 ^ places, (Ratio.scaled mantissa 2 exponent).den⟩

/-- What the text of a double with some places says. -/
inductive IsFixed (places : Nat) (x : Float) : List Char → Prop
  | nan (hx : (Double.ofFloat x).size = .nan) : IsFixed places x "NaN".toList
  | infinite (hx : (Double.ofFloat x).size = .infinite) :
    IsFixed places x (signed (Double.ofFloat x).negative "inf".toList).toList
  /-- The digits are those of an integer `n`, and the number is nearest to `n / 10 ^ places`. -/
  | finite {mantissa n : Nat} {exponent : Int} {fraction : List Char}
    (hx : (Double.ofFloat x).size = .finite mantissa exponent)
    (nearest : IsNearest n (inPlaces places mantissa exponent))
    (digits : ∀ c ∈ fraction, c.isDigit = true)
    (length : fraction.length = places)
    (value : Nat.ofDigitChars 10 fraction 0 = n % 10 ^ places) :
    IsFixed places x (signed (Double.ofFloat x).negative
      (digitChars (n / 10 ^ places) ++ '.' :: fraction)).toList

theorem writeFixed_of_finite {places m : Nat} {x : Float} {e : Int} (hp : 0 < places)
    (hx : (Double.ofFloat x).size = .finite m e) :
    let digits := padded places (inPlaces places m e).round
    writeFixed places x = signed (Double.ofFloat x).negative
      (digits.take (digits.length - places) ++ '.' :: digits.drop (digits.length - places)) := by
  unfold writeFixed
  simp only [hx, if_neg (Nat.pos_iff_ne_zero.1 hp)]
  rfl

/-- **A number with some places is the nearest number that has them.** -/
theorem isFixed_writeFixed {places : Nat} (hp : 0 < places) (x : Float) :
    IsFixed places x (writeFixed places x).toList := by
  cases hx : (Double.ofFloat x).size with
  | nan =>
    have htext : writeFixed places x = "NaN" := by
      unfold writeFixed
      simp only [hx]
    rw [htext]
    exact .nan hx
  | infinite =>
    have htext : writeFixed places x = signed (Double.ofFloat x).negative "inf".toList := by
      unfold writeFixed
      simp only [hx]
    rw [htext]
    exact .infinite hx
  | finite m e =>
    rw [writeFixed_of_finite hp hx, take_padded]
    exact .finite hx (isNearest_round (Ratio.den_scaled_pos (by decide) e))
      (fun c hc => isDigit_padded c (List.mem_of_mem_drop hc)) (length_drop_padded _ _)
      (ofDigitChars_drop_padded _ _)

end Reckoning.Decimal
