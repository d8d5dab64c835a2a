import Mathlib.Data.List.Basic
import Mathlib.Tactic.SplitIfs

/-!
# Texts and their bytes

A text is written as bytes of UTF-8.

* `toList_toUTF8` says what is written, `fromUTF8?_toUTF8` that it is read back, and
  `toUTF8_of_fromUTF8?` that nothing else is read.
* `utf8_inj`: the bytes tell the text.
* `mem_utf8_iff` finds a byte below 128 in the bytes of a text.
-/

namespace Reckoning

theorem toList_loop_byteArray (b : ByteArray) (i : Nat) (acc : List UInt8) :
    ByteArray.toList.loop b i acc = acc.reverse ++ b.data.toList.drop i := by
  fun_induction ByteArray.toList.loop b i acc with
  | case1 i acc hi ih =>
    have hlt : i < b.data.toList.length := by simpa using hi
    rw [ih, List.drop_eq_getElem_cons hlt]
    simp [ByteArray.get!, hi]
  | case2 i acc hi =>
    have hge : b.data.toList.length ≤ i := by simpa using hi
    rw [List.drop_eq_nil_of_le hge, List.append_nil]

theorem toList_byteArray (b : ByteArray) : b.toList = b.data.toList :=
  toList_loop_byteArray b 0 []

theorem toList_toUTF8 (s : String) : s.toUTF8.toList = s.toList.flatMap String.utf8EncodeChar := by
  have h : s.toUTF8 = (s.toList.flatMap String.utf8EncodeChar).toByteArray :=
    String.utf8Encode_toList.symm
  rw [toList_byteArray, h, List.toList_data_toByteArray]

theorem fromUTF8?_toUTF8 (s : String) :
    String.fromUTF8? (ByteArray.mk s.toUTF8.toList.toArray) = some s := by
  have h : ByteArray.mk s.toUTF8.toList.toArray = s.toByteArray := by
    rw [toList_byteArray]
    rfl
  unfold String.fromUTF8?
  rw [h, dif_pos s.isValidUTF8]
  rfl

/-- A byte below 128 stands for itself, wherever it is found. -/
theorem mem_utf8EncodeChar_iff {b : UInt8} (hb : b.toNat < 128) {c : Char} :
    b ∈ String.utf8EncodeChar c ↔ c.toNat = b.toNat := by
  have hof : ∀ n : Nat, b = UInt8.ofNat n ↔ b.toNat = n % 256 := fun n => by
    rw [← UInt8.toNat_inj, UInt8.toNat_ofNat']
  unfold String.utf8EncodeChar
  change _ ↔ c.val.toNat = b.toNat
  have := c.val.toNat_lt
  simp only
  split_ifs <;> simp only [List.mem_cons, List.not_mem_nil, or_false, hof] <;> omega

theorem mem_utf8_iff {b : UInt8} (hb : b.toNat < 128) {c : Char} (hc : c.toNat = b.toNat)
    {s : String} : b ∈ s.toUTF8.toList ↔ c ∈ s.toList := by
  rw [toList_toUTF8, List.mem_flatMap]
  simp only [mem_utf8EncodeChar_iff hb, ← hc]
  constructor
  · rintro ⟨d, hd, hval⟩
    exact Char.toNat_inj.1 hval ▸ hd
  · exact fun h => ⟨c, h, rfl⟩

theorem toUTF8_of_fromUTF8? {bytes : List UInt8} {t : String}
    (h : String.fromUTF8? (ByteArray.mk bytes.toArray) = some t) : t.toUTF8.toList = bytes := by
  unfold String.fromUTF8? at h
  split_ifs at h with hvalid
  cases h
  exact toList_byteArray _

theorem utf8EncodeChar_ne_nil (c : Char) : String.utf8EncodeChar c ≠ [] := by
  have hpos := Char.utf8Size_pos c
  rw [← String.length_utf8EncodeChar] at hpos
  exact List.ne_nil_of_length_pos hpos

/-- The bytes tell the text. -/
theorem utf8_inj {s t : String} (h : s.toUTF8.toList = t.toUTF8.toList) : s = t := by
  have hread := fromUTF8?_toUTF8 s
  rw [h, fromUTF8?_toUTF8] at hread
  exact (Option.some.inj hread).symm

end Reckoning
