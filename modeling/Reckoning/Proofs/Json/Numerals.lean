import Mathlib.Data.List.TakeWhile
import Mathlib.Tactic.SplitIfs
import Reckoning.Json.Reader
import Reckoning.Proofs.Decimal.Shortest
import Reckoning.Proofs.Json.Compact

/-!
# Reading numerals back

What is written for a number is read as a number, whatever follows it, as long as that does not go
on with the number.

* `Json.NumberEnds` says that a text does not go on with a number.
* `Json.Reader.numberBody_append`: then the number in front of it is read as if it stood alone.
* `Json.Reader.numberBody_natural` and `Json.Reader.numberBody_negative`: an integer is read back.
* `Json.Reader.exists_realText`: what is written for a finite number is no integer.
-/

namespace Reckoning

theorem takeWhile_append_of_head {α : Type} {p : α → Bool} {tail : List α}
    (h : ∀ a, tail.head? = some a → p a = false) (front : List α) :
    (front ++ tail).takeWhile p = front.takeWhile p := by
  induction front with
  | nil =>
    cases tail with
    | nil => rfl
    | cons a tail => simp [h a rfl]
  | cons a front ih => cases ha : p a <;> simp [ha, ih]

theorem dropWhile_append_of_head {α : Type} {p : α → Bool} {tail : List α}
    (h : ∀ a, tail.head? = some a → p a = false) (front : List α) :
    (front ++ tail).dropWhile p = front.dropWhile p ++ tail := by
  induction front with
  | nil =>
    cases tail with
    | nil => rfl
    | cons a tail => simp [h a rfl]
  | cons a front ih => cases ha : p a <;> simp [ha, ih]

namespace Json

/-- The text does not go on with a number that stands in front of it. -/
def NumberEnds (cs : List Char) : Prop :=
  ∀ c, cs.head? = some c → c.isDigit = false ∧ c ≠ '.' ∧ c ≠ 'e' ∧ c ≠ 'E'

theorem numberEnds_nil : NumberEnds [] := nofun

theorem numberEnds_cons {c : Char} (h : c = ',' ∨ c = ']' ∨ c = '\x7d') (cs : List Char) :
    NumberEnds (c :: cs) := by
  intro d hd
  obtain rfl : c = d := Option.some.inj hd
  rcases h with rfl | rfl | rfl <;> decide

namespace Reader

/-! ### Parts of a number -/

theorem digits1_eq_some {cs rest : List Char} {ds : List Nat} :
    digits1 cs = some (ds, rest) ↔ digits cs = (ds, rest) ∧ ds ≠ [] := by
  unfold digits1
  split
  · rename_i heq
    rw [heq]
    constructor
    · nofun
    · rintro ⟨⟨rfl, rfl⟩, hne⟩
      exact absurd rfl hne
  · rename_i hne
    rw [Option.some.injEq]
    refine ⟨fun h => ⟨h, ?_⟩, And.left⟩
    rintro rfl
    exact hne rest h

theorem fraction_of_head {cs : List Char} (h : cs.head? ≠ some '.') :
    fraction cs = some (none, cs) := by
  unfold fraction
  split
  · exact absurd rfl h
  · rfl

theorem exponent_of_head {cs : List Char} (h : cs.head? ≠ some 'e') (h' : cs.head? ≠ some 'E') :
    exponent cs = some (none, cs) := by
  unfold exponent
  split
  · exact absurd rfl h
  · exact absurd rfl h'
  · rfl

theorem exponentBody_of_head {cs : List Char} (h : cs.head? ≠ some '+')
    (h' : cs.head? ≠ some '-') :
    exponentBody cs = (digits1 cs).map fun p => ((number p.1 : Int), p.2) := by
  unfold exponentBody
  split
  · exact absurd rfl h
  · exact absurd rfl h'
  · rfl

/-! ### A number and what follows -/

section

variable {cs rest tail : List Char} (ht : NumberEnds tail)
include ht

theorem digits_append (cs : List Char) :
    digits (cs ++ tail) = ((digits cs).1, (digits cs).2 ++ tail) := by
  have hd : ∀ c, tail.head? = some c → c.isDigit = false := fun c hc => (ht c hc).1
  unfold digits
  rw [takeWhile_append_of_head hd, dropWhile_append_of_head hd]

theorem digits1_append {ds : List Nat} (h : digits1 cs = some (ds, rest)) :
    digits1 (cs ++ tail) = some (ds, rest ++ tail) := by
  obtain ⟨hds, hne⟩ := digits1_eq_some.1 h
  rw [digits1_eq_some, digits_append ht, hds]
  exact ⟨rfl, hne⟩

theorem fraction_append {f : Option (List Nat)} (h : fraction cs = some (f, rest)) :
    fraction (cs ++ tail) = some (f, rest ++ tail) := by
  by_cases hc : cs.head? = some '.'
  · obtain ⟨cs, rfl⟩ := List.head?_eq_some_iff.1 hc
    obtain ⟨⟨ds, r⟩, hds, heq⟩ := Option.map_eq_some_iff.1 h
    cases heq
    exact congrArg (Option.map _) (digits1_append ht hds)
  · rw [fraction_of_head hc] at h
    cases h
    refine fraction_of_head ?_
    cases cs with
    | nil => exact fun hpoint => (ht '.' hpoint).2.1 rfl
    | cons c cs => exact hc

theorem exponentBody_append {x : Int} (h : exponentBody cs = some (x, rest)) :
    exponentBody (cs ++ tail) = some (x, rest ++ tail) := by
  have hsigned : ∀ (f : Nat → Int) (cs : List Char),
      (digits1 cs).map (fun p => (f (number p.1), p.2)) = some (x, rest) →
      (digits1 (cs ++ tail)).map (fun p => (f (number p.1), p.2)) = some (x, rest ++ tail) := by
    intro f cs hcs
    obtain ⟨⟨ds, r⟩, hds, heq⟩ := Option.map_eq_some_iff.1 hcs
    cases heq
    rw [digits1_append ht hds]
    rfl
  by_cases hplus : cs.head? = some '+'
  · obtain ⟨cs, rfl⟩ := List.head?_eq_some_iff.1 hplus
    exact hsigned _ cs h
  · by_cases hminus : cs.head? = some '-'
    · obtain ⟨cs, rfl⟩ := List.head?_eq_some_iff.1 hminus
      exact hsigned (fun n => -(n : Int)) cs h
    · rw [exponentBody_of_head hplus hminus] at h
      have hne : cs ≠ [] := by
        rintro rfl
        cases h
      have hhead : (cs ++ tail).head? = cs.head? := List.head?_append_of_ne_nil _ hne
      rw [exponentBody_of_head (hhead ▸ hplus) (hhead ▸ hminus)]
      exact hsigned _ cs h

theorem exponent_append {x : Option Int} (h : exponent cs = some (x, rest)) :
    exponent (cs ++ tail) = some (x, rest ++ tail) := by
  have hbody : ∀ cs : List Char, (exponentBody cs).map (fun p => (some p.1, p.2)) = some (x, rest) →
      (exponentBody (cs ++ tail)).map (fun p => (some p.1, p.2)) = some (x, rest ++ tail) := by
    intro cs hcs
    obtain ⟨⟨n, r⟩, hn, heq⟩ := Option.map_eq_some_iff.1 hcs
    cases heq
    rw [exponentBody_append ht hn]
    rfl
  by_cases hsmall : cs.head? = some 'e'
  · obtain ⟨cs, rfl⟩ := List.head?_eq_some_iff.1 hsmall
    exact hbody cs h
  · by_cases hlarge : cs.head? = some 'E'
    · obtain ⟨cs, rfl⟩ := List.head?_eq_some_iff.1 hlarge
      exact hbody cs h
    · rw [exponent_of_head hsmall hlarge] at h
      cases h
      cases cs with
      | nil =>
        exact exponent_of_head (fun he => (ht 'e' he).2.2.1 rfl) fun he => (ht 'E' he).2.2.2 rfl
      | cons c cs => exact exponent_of_head hsmall hlarge

/-- A number is read as if nothing followed. -/
theorem numberBody_append {negative : Bool} {v : Value}
    (h : numberBody negative cs = some (v, rest)) :
    numberBody negative (cs ++ tail) = some (v, rest ++ tail) := by
  obtain ⟨⟨whole, r₁⟩, hwhole, h⟩ := Option.bind_eq_some_iff.1 h
  simp only at h
  split_ifs at h with hzero
  obtain ⟨⟨f, r₂⟩, hfraction, h⟩ := Option.bind_eq_some_iff.1 h
  obtain ⟨⟨e, r₃⟩, hexponent, h⟩ := Option.bind_eq_some_iff.1 h
  cases h
  unfold numberBody
  simp [digits1_append ht hwhole, hzero, fraction_append ht hfraction,
    exponent_append ht hexponent]

end

/-! ### Digits -/

theorem digits_of_isDigit {cs tail : List Char} (h : ∀ c ∈ cs, c.isDigit = true)
    (ht : ∀ c, tail.head? = some c → c.isDigit = false) :
    digits (cs ++ tail) = (cs.map digitValue, tail) := by
  have htake : cs.takeWhile Char.isDigit = cs := List.takeWhile_eq_self_iff.2 h
  have hdrop : cs.dropWhile Char.isDigit = [] := List.dropWhile_eq_nil_iff.2 h
  unfold digits
  rw [takeWhile_append_of_head ht, dropWhile_append_of_head ht, htake, hdrop]
  rfl

theorem digits1_of_isDigit {cs tail : List Char} (hne : cs ≠ []) (h : ∀ c ∈ cs, c.isDigit = true)
    (ht : ∀ c, tail.head? = some c → c.isDigit = false) :
    digits1 (cs ++ tail) = some (cs.map digitValue, tail) := by
  rw [digits1_eq_some, digits_of_isDigit h ht]
  exact ⟨rfl, fun hnil => hne (List.map_eq_nil_iff.1 hnil)⟩

theorem isDigit_of_head?_nil (c : Char) (h : [].head? = some c) : c.isDigit = false := nomatch h

theorem digits1_of_all {cs : List Char} (hne : cs ≠ []) (h : ∀ c ∈ cs, c.isDigit = true) :
    digits1 cs = some (cs.map digitValue, []) := by
  have hall := digits1_of_isDigit hne h isDigit_of_head?_nil
  rwa [List.append_nil] at hall

theorem number_map_digitValue (cs : List Char) :
    number (cs.map digitValue) = Nat.ofDigitChars 10 cs 0 := by
  rw [number, List.foldl_map, Nat.ofDigitChars_eq_foldl]
  rfl

/-- A word takes in all digits if it holds what they write. -/
theorem gather_map_digitValue {cs : List Char} {word : Nat}
    (h : Nat.ofDigitChars 10 cs word ≤ Number.mostWord) :
    Number.gather word (cs.map digitValue) = (Nat.ofDigitChars 10 cs word, []) := by
  induction cs generalizing word with
  | nil => rfl
  | cons c cs ih =>
    rw [Nat.ofDigitChars_cons] at h ⊢
    have hgrows : 10 * word + digitValue c ≤ Nat.ofDigitChars 10 cs (10 * word + digitValue c) := by
      rw [Nat.ofDigitChars_eq_ofDigitChars_zero]
      exact Nat.le_add_right_of_le (Nat.le_mul_of_pos_left _ (Nat.pow_pos (by decide)))
    rw [List.map_cons, Number.gather, if_pos (Nat.le_trans hgrows h)]
    exact ih h

theorem digitChar_ne_zero : ∀ n < 10, 0 < n → n.digitChar ≠ '0' := by decide

theorem head?_toDigits {n : Nat} (hn : 0 < n) : (Nat.toDigits 10 n).head? ≠ some '0' := by
  induction n using Nat.strongRecOn with
  | ind n ih =>
    rw [Nat.toDigits_eq_if (by decide)]
    split_ifs with hlt
    · exact fun h => digitChar_ne_zero n hlt hn (Option.some.inj h)
    · rw [List.head?_append_of_ne_nil _ Nat.toDigits_ne_nil]
      exact ih (n / 10) (by omega) (by omega)

theorem isDigit_toDigits {n : Nat} : ∀ c ∈ Nat.toDigits 10 n, c.isDigit = true := fun _ hc =>
  Nat.isDigit_of_mem_toDigits (by decide) (by decide) hc

/-- Digits may stand in front of a number if they do not begin with a superfluous zero. -/
structure IsWhole (cs : List Char) : Prop where
  ne_nil : cs ≠ []
  isDigit : ∀ c ∈ cs, c.isDigit = true
  lead : cs.head? ≠ some '0' ∨ cs.length = 1

theorem isDigit_zero : ∀ c ∈ ['0'], c.isDigit = true := List.forall_mem_singleton.2 rfl

theorem isWhole_zero : IsWhole ['0'] := ⟨List.cons_ne_nil _ _, isDigit_zero, .inr rfl⟩

theorem isWhole_toDigits (n : Nat) : IsWhole (Nat.toDigits 10 n) where
  ne_nil := Nat.toDigits_ne_nil
  isDigit := isDigit_toDigits
  lead := by
    rcases Nat.eq_zero_or_pos n with rfl | hn
    · exact .inr rfl
    · exact .inl (head?_toDigits hn)

/-- Only a zero has the value zero. -/
theorem digitValue_eq_zero {c : Char} (hc : c.isDigit = true) (h : digitValue c = 0) :
    c = '0' := by
  simp only [Char.isDigit, Bool.and_eq_true, decide_eq_true_eq] at hc
  have hle := UInt32.le_iff_toNat_le.1 hc.1
  change c.toNat - 48 = 0 at h
  change 48 ≤ c.toNat at hle
  exact Char.toNat_inj.1 (by change c.toNat = 48; omega)

/-- A number is read part by part. -/
theorem numberBody_of_isWhole {cs tail rest : List Char} (hcs : IsWhole cs)
    (ht : ∀ c, tail.head? = some c → c.isDigit = false) (negative : Bool)
    {f : Option (List Nat)} {e : Option Int} {mid : List Char}
    (hf : fraction tail = some (f, mid)) (he : exponent mid = some (e, rest)) :
    numberBody negative (cs ++ tail) =
      some ((Number.mk negative (cs.map digitValue) f e).value, rest) := by
  have hzero : ¬ ((cs.map digitValue).head? = some 0 ∧ 1 < (cs.map digitValue).length) := by
    rintro ⟨hhead, hlong⟩
    rw [List.length_map] at hlong
    rw [List.head?_map] at hhead
    obtain ⟨c, hc, hval⟩ := Option.map_eq_some_iff.1 hhead
    have hz := digitValue_eq_zero (hcs.isDigit c (List.mem_of_head? hc)) hval
    rcases hcs.lead with hlead | hone
    · exact hlead (hz ▸ hc)
    · omega
  unfold numberBody
  simp [digits1_of_isDigit hcs.ne_nil hcs.isDigit ht, -List.head?_map, -List.length_map, hzero, hf,
    he]

/-! ### Integers -/

theorem numberBody_digits (negative : Bool) (n : Nat) :
    numberBody negative (Nat.toDigits 10 n) =
      some ((Number.mk negative ((Nat.toDigits 10 n).map digitValue) none none).value, []) := by
  have h := numberBody_of_isWhole (isWhole_toDigits n) isDigit_of_head?_nil negative
    (fraction_of_head (by simp)) (exponent_of_head (by simp) (by simp))
  rwa [List.append_nil] at h

theorem gather_toDigits {n : Nat} (hn : n ≤ Number.mostWord) :
    Number.gather 0 ((Nat.toDigits 10 n).map digitValue) = (n, []) := by
  have hback : Nat.ofDigitChars 10 (Nat.toDigits 10 n) 0 = n :=
    Nat.ofDigitChars_toDigits (by decide) (by decide)
  rw [gather_map_digitValue (hback.symm ▸ hn), hback]

theorem numberBody_natural {n : Nat} (hn : n ≤ Number.mostWord) :
    numberBody false (Nat.toDigits 10 n) = some (.int n, []) := by
  rw [numberBody_digits]
  simp [Number.value, gather_toDigits hn]

theorem numberBody_negative {n : Nat} (hpos : 0 < n) (hn : n ≤ 0x8000000000000000) :
    numberBody true (Nat.toDigits 10 n) = some (.int (-n), []) := by
  have hword : n ≤ Number.mostWord := Nat.le_trans hn (by decide)
  rw [numberBody_digits]
  simp [Number.value, gather_toDigits hword, hpos, hn]

/-! ### Other numbers -/

/-- The value is not an integer: it is a number or cannot be held. -/
def IsReal (v : Value) : Prop := v = .unreadable ∨ ∃ x, v = .real x

theorem isReal_value {n : Number} (h : n.fraction.isSome = true ∨ n.exponent.isSome = true) :
    IsReal n.value := by
  have hint : (n.fraction.isNone && n.exponent.isNone) = false := by
    rw [← Bool.not_eq_true, Bool.and_eq_true]
    rintro ⟨hf, he⟩
    rcases h with h | h
    · exact Option.isSome_iff_ne_none.1 h (Option.isNone_iff_eq_none.1 hf)
    · exact Option.isSome_iff_ne_none.1 h (Option.isNone_iff_eq_none.1 he)
  unfold Number.value
  simp only [hint, Bool.false_and, Bool.false_eq_true, if_false]
  split
  · exact .inr ⟨_, rfl⟩
  · exact .inl rfl

/-- The text is a numeral with a point or an exponent, but without a sign. -/
def WritesReal (cs : List Char) : Prop :=
  ∀ negative, ∃ v, numberBody negative cs = some (v, []) ∧ IsReal v

theorem fraction_of_isDigit {cs tail : List Char} (hne : cs ≠ []) (h : ∀ c ∈ cs, c.isDigit = true)
    (ht : ∀ c, tail.head? = some c → c.isDigit = false) :
    fraction ('.' :: (cs ++ tail)) = some (some (cs.map digitValue), tail) := by
  change (digits1 (cs ++ tail)).map _ = _
  rw [digits1_of_isDigit hne h ht]
  rfl

theorem writesReal_point {cs ds : List Char} (hcs : IsWhole cs) (hne : ds ≠ [])
    (hds : ∀ c ∈ ds, c.isDigit = true) : WritesReal (cs ++ '.' :: ds) := by
  intro negative
  have hpoint : ∀ c, ('.' :: ds).head? = some c → c.isDigit = false := by
    rintro c ⟨⟩
    rfl
  have hf := fraction_of_isDigit hne hds isDigit_of_head?_nil
  rw [List.append_nil] at hf
  exact ⟨_, numberBody_of_isWhole hcs hpoint negative hf
    (exponent_of_head (by simp) (by simp)), isReal_value (.inl rfl)⟩

theorem exponentBody_toString (k : Int) : exponentBody (toString k).toList = some (k, []) := by
  have hdigits : ∀ n : Nat, digits1 (Nat.toDigits 10 n) =
      some ((Nat.toDigits 10 n).map digitValue, []) := fun n =>
    digits1_of_all Nat.toDigits_ne_nil isDigit_toDigits
  have hnumber : ∀ n : Nat, number ((Nat.toDigits 10 n).map digitValue) = n := fun n => by
    rw [number_map_digitValue, Nat.ofDigitChars_toDigits (by decide) (by decide)]
  rw [Int.toString_eq_repr, Int.repr_eq_if]
  split_ifs with hk
  · have hhead : ∀ c, (Nat.toDigits 10 k.toNat).head? = some c → c.isDigit = true := fun c hc =>
      isDigit_toDigits c (List.mem_of_head? hc)
    rw [Nat.toList_repr, exponentBody_of_head (fun h => absurd (hhead _ h) (by decide))
      (fun h => absurd (hhead _ h) (by decide)), hdigits]
    simp [hnumber]
    omega
  · rw [String.toList_append, Nat.toList_repr]
    change (digits1 (Nat.toDigits 10 _)).map _ = _
    rw [hdigits]
    simp [hnumber]
    omega

theorem exponent_toString (k : Int) :
    exponent ('e' :: (toString k).toList) = some (some k, []) := by
  change (exponentBody _).map _ = _
  rw [exponentBody_toString]
  rfl

/-- The mantissa is one digit, or one digit and a fraction. -/
theorem writesReal_exponential {digits : List Char} (hne : digits ≠ [])
    (h : ∀ c ∈ digits, c.isDigit = true) (place : Int) :
    WritesReal (Decimal.exponential digits place) := by
  intro negative
  have hletter : ∀ c, ('e' :: (toString (place - 1)).toList).head? = some c →
      c.isDigit = false := by
    rintro c ⟨⟩
    rfl
  have hexponent := exponent_toString (place - 1)
  unfold Decimal.exponential
  match digits, hne, h with
  | [d], _, h =>
    have hwhole : IsWhole [d] := ⟨List.cons_ne_nil _ _, h, .inr rfl⟩
    exact ⟨_, numberBody_of_isWhole hwhole hletter negative (fraction_of_head (by simp)) hexponent,
      isReal_value (.inr rfl)⟩
  | d :: d' :: rest, _, h =>
    obtain ⟨hd, hrest⟩ := List.forall_mem_cons.1 h
    have hwhole : IsWhole [d] :=
      ⟨List.cons_ne_nil _ _, List.forall_mem_singleton.2 hd, .inr rfl⟩
    have hpoint : ∀ c, ('.' :: (d' :: rest ++ 'e' :: (toString (place - 1)).toList)).head? =
        some c → c.isDigit = false := by
      rintro c ⟨⟩
      rfl
    exact ⟨_, numberBody_of_isWhole hwhole hpoint negative
      (fraction_of_isDigit (List.cons_ne_nil _ _) hrest hletter) hexponent,
      isReal_value (.inl rfl)⟩

theorem isDigit_zeros {n : Nat} : ∀ c ∈ Decimal.zeros n, c.isDigit = true := by
  intro c hc
  rw [List.eq_of_mem_replicate hc]
  rfl

/-- A number that is not zero, or a zero on its own. -/
theorem writesReal_placePoint {n : Nat} {place : Int} (h : 0 < n ∨ place = 1) :
    WritesReal (Decimal.placePoint true (Nat.toDigits 10 n) place) := by
  have hlead : (Nat.toDigits 10 n).head? ≠ some '0' ∨ n = 0 ∧ place = 1 := by
    rcases Nat.eq_zero_or_pos n with h0 | hpos
    · exact .inr ⟨h0, h.resolve_left (by omega)⟩
    · exact .inl (head?_toDigits hpos)
  unfold Decimal.placePoint
  by_cases hplace : place ≤ 0
  · rw [if_pos hplace]
    refine writesReal_point isWhole_zero ?_
      (List.forall_mem_append.2 ⟨isDigit_zeros, isDigit_toDigits⟩)
    simp [Nat.toDigits_ne_nil]
  rw [if_neg hplace]
  by_cases hlong : (Nat.toDigits 10 n).length ≤ place.natAbs
  · rw [if_pos hlong, if_pos rfl]
    refine writesReal_point ⟨by simp [Nat.toDigits_ne_nil], ?_, ?_⟩ (List.cons_ne_nil _ _)
      isDigit_zero
    · exact List.forall_mem_append.2 ⟨isDigit_toDigits, isDigit_zeros⟩
    · rcases hlead with hlead | ⟨rfl, rfl⟩
      · left
        rwa [List.head?_append_of_ne_nil _ Nat.toDigits_ne_nil]
      · exact .inr rfl
  · -- the point stands between two digits
    have hpos : 0 < place.natAbs := by omega
    have hlead : (Nat.toDigits 10 n).head? ≠ some '0' := by
      refine hlead.resolve_right ?_
      rintro ⟨rfl, rfl⟩
      exact hlong (by decide)
    rw [if_neg hlong]
    refine writesReal_point ⟨?_, ?_, ?_⟩ ?_ ?_
    · rw [ne_eq, List.take_eq_nil_iff, not_or]
      exact ⟨by omega, Nat.toDigits_ne_nil⟩
    · exact fun c hc => isDigit_toDigits c (List.mem_of_mem_take hc)
    · left
      rwa [List.head?_take, if_neg (by omega)]
    · rw [ne_eq, List.drop_eq_nil_iff]
      exact hlong
    · exact fun c hc => isDigit_toDigits c (List.mem_of_mem_drop hc)

/-! ### Doubles -/

theorem writesReal_writeDecimal {d : Decimal.Scientific} (h : 0 < d.digits ∨ d = ⟨0, 0⟩) :
    WritesReal (Decimal.Layout.compact.writeDecimal d) := by
  unfold Decimal.Layout.writeDecimal
  simp only [Decimal.Layout.compact]
  split_ifs
  · refine writesReal_placePoint (n := d.digits) (h.imp_right ?_)
    rintro rfl
    rfl
  · exact writesReal_exponential Nat.toDigits_ne_nil isDigit_toDigits _

/-- What is written for a finite number is a numeral, perhaps with a sign in front. -/
theorem exists_realText {x : Float} (h : x.isFinite = true) :
    ∃ negative cs, (realText x).toList = (if negative = true then '-' :: cs else cs) ∧
      WritesReal cs := by
  obtain ⟨m, e, hsize⟩ := Decimal.size_ofFloat h
  unfold realText Decimal.Layout.write
  rw [if_pos h]
  simp only [hsize, Decimal.signed]
  cases m with
  | zero =>
    refine ⟨_, _, String.toList_ofList, ?_⟩
    exact writesReal_point isWhole_zero (List.cons_ne_nil _ _) isDigit_zero
  | succ m =>
    exact ⟨_, _, String.toList_ofList,
      writesReal_writeDecimal (Decimal.digits_shortest (Nat.succ_pos m) e)⟩

end Reader

end Json

end Reckoning
