import Mathlib.Data.List.Basic
import Reckoning.Identity

/-!
# Texts of ids

The id of an entry can be told from its text, and from every text that ends in it: no digit is a
separator, so what stands behind the last separators are the numbers.

* `eq_of_append_cons`: the last place of a separator cuts a text in one way.
* `LedgerId.eq_of_append_toString`: whatever stands in front of the texts of two ids, texts that are
  the same have the same id at their end.
-/

namespace Reckoning

/-- Behind the last separator there is only one way to go on, and in front of it only one way to
come there. -/
theorem eq_of_append_cons {sep : Char} {xs ys us vs : List Char} (hy : sep ∉ ys) (hv : sep ∉ vs)
    (h : xs ++ sep :: ys = us ++ sep :: vs) : xs = us ∧ ys = vs := by
  rcases List.append_eq_append_iff.1 h with ⟨as, hu, hrest⟩ | ⟨as, hx, hrest⟩
  · cases as with
    | nil =>
      rw [List.append_nil] at hu
      exact ⟨hu.symm, (List.cons.inj hrest).2⟩
    | cons a as =>
      -- the separator would stand once more further down
      refine absurd ?_ hy
      rw [(List.cons.inj hrest).2]
      exact List.mem_append_right _ List.mem_cons_self
  · cases as with
    | nil =>
      rw [List.append_nil] at hx
      exact ⟨hx, (List.cons.inj hrest).2.symm⟩
    | cons a as =>
      refine absurd ?_ hv
      rw [(List.cons.inj hrest).2]
      exact List.mem_append_right _ List.mem_cons_self

theorem notMem_toDigits {sep : Char} (h : sep.isDigit = false) (n : Nat) :
    sep ∉ Nat.toDigits 10 n := by
  intro hm
  rw [Nat.isDigit_of_mem_toDigits (by decide) (by decide) hm] at h
  cases h

theorem eq_of_toDigits_eq {m n : Nat} (h : Nat.toDigits 10 m = Nat.toDigits 10 n) : m = n := by
  rw [← Nat.ofDigitChars_toDigits (b := 10) (n := m) (by decide) (by decide), h,
    Nat.ofDigitChars_toDigits (by decide) (by decide)]

namespace LedgerId

theorem toList_toString (id : LedgerId) : (toString id).toList = "char".toList ++
    ':' :: (Nat.toDigits 10 id.character.raw.toNat ++ '#' :: Nat.toDigits 10 id.seq) := by
  have h : toString id =
      "char:" ++ toString id.character.raw.toNat ++ "#" ++ toString id.seq := rfl
  rw [h]
  simp

/-- **Texts that are the same end in the same id.** -/
theorem eq_of_append_toString {p q : String} {a b : LedgerId}
    (h : p ++ toString a = q ++ toString b) : a = b := by
  have hchars := congrArg String.toList h
  rw [String.toList_append, String.toList_append, toList_toString, toList_toString,
    ← List.append_assoc, ← List.append_assoc] at hchars
  -- first behind the last `#`, then behind the last `:`
  have hcolon (x : List Char) (m n : Nat) :
      x ++ ':' :: (Nat.toDigits 10 m ++ '#' :: Nat.toDigits 10 n) =
        (x ++ ':' :: Nat.toDigits 10 m) ++ '#' :: Nat.toDigits 10 n := by simp
  rw [hcolon, hcolon] at hchars
  obtain ⟨hfront, hseq⟩ := eq_of_append_cons (notMem_toDigits rfl _) (notMem_toDigits rfl _) hchars
  obtain ⟨-, hcharacter⟩ :=
    eq_of_append_cons (notMem_toDigits rfl _) (notMem_toDigits rfl _) hfront
  obtain ⟨⟨c⟩, m⟩ := a
  obtain ⟨⟨d⟩, n⟩ := b
  obtain rfl : m = n := eq_of_toDigits_eq hseq
  obtain rfl : c = d := UInt64.toNat_inj.1 (eq_of_toDigits_eq hcharacter)
  rfl

end LedgerId

end Reckoning
