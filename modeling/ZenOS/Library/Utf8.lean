import Mathlib.Data.List.Basic
import Mathlib.Data.List.DropRight

/-!
The bytes below 128 of a text in UTF-8 are its characters below 128.
-/

namespace ZenOS.Library.Utf8

open String (utf8EncodeChar)

theorem toUTF8_data_toList (s : String) :
    s.toUTF8.data.toList = s.toList.flatMap utf8EncodeChar := by
  conv_lhs => rw [← String.ofList_toList (s := s)]
  rw [String.toUTF8_eq_toByteArray, String.toByteArray_ofList, List.utf8Encode,
    List.data_toByteArray]

section Ascii

variable {c d : Char} {b : UInt8} {text : List Char}

theorem utf8EncodeChar_of_ascii (hc : c.toNat < 128) :
    utf8EncodeChar c = [c.val.toUInt8] := by
  apply String.utf8EncodeChar_eq_singleton
  rw [Char.utf8Size_eq_one_iff, UInt32.le_iff_toNat_le]
  exact Nat.le_of_lt_succ hc

/-- Every byte of a longer encoding is marked by its highest bit. -/
theorem utf8EncodeChar_of_mem (hb : b ∈ utf8EncodeChar c) (hascii : b.toNat < 128) :
    utf8EncodeChar c = [b] ∧ c.toNat = b.toNat := by
  have hmarked : ∀ x m : UInt8, 128 ≤ m.toNat → b ≠ x ||| m := by
    rintro x m hm rfl
    have hle : m.toNat ≤ (x ||| m).toNat := by
      rw [UInt8.toNat_or]
      exact Nat.right_le_or
    omega
  rcases c.utf8Size_eq with h | h | h | h
  · have hval : c.val.toNat ≤ 127 := by
      rw [Char.utf8Size_eq_one_iff, UInt32.le_iff_toNat_le] at h
      exact h
    rw [String.utf8EncodeChar_eq_singleton h] at hb ⊢
    rw [List.mem_singleton] at hb
    subst hb
    refine ⟨rfl, ?_⟩
    rw [UInt32.toNat_toUInt8]
    change c.val.toNat = _
    omega
  · rw [String.utf8EncodeChar_eq_cons_cons h] at hb
    simp [hmarked] at hb
  · rw [String.utf8EncodeChar_eq_cons_cons_cons h] at hb
    simp [hmarked] at hb
  · rw [String.utf8EncodeChar_eq_cons_cons_cons_cons h] at hb
    simp [hmarked] at hb

theorem eq_of_mem_utf8EncodeChar (hd : d.toNat < 128) (hmem : d.val.toUInt8 ∈ utf8EncodeChar c) :
    c = d := by
  have hval : d.val.toUInt8.toNat = d.toNat := by
    rw [UInt32.toNat_toUInt8]
    change d.val.toNat < 128 at hd
    change d.val.toNat % 2 ^ 8 = d.val.toNat
    omega
  have hc := (utf8EncodeChar_of_mem hmem (by omega)).2
  exact Char.toNat_inj.mp (hc.trans hval)

theorem mem_flatMap_utf8EncodeChar_iff (hd : d.toNat < 128) :
    d.val.toUInt8 ∈ text.flatMap utf8EncodeChar ↔ d ∈ text := by
  rw [List.mem_flatMap]
  constructor
  · rintro ⟨c, hc, hmem⟩
    rwa [← eq_of_mem_utf8EncodeChar hd hmem]
  · intro hmem
    exact ⟨d, hmem, by simp [utf8EncodeChar_of_ascii hd]⟩

theorem getLast?_of_flatMap_utf8EncodeChar (hd : d.toNat < 128)
    (h : (text.flatMap utf8EncodeChar).getLast? = some d.val.toUInt8) :
    text.getLast? = some d := by
  rcases List.eq_nil_or_concat text with rfl | ⟨front, c, rfl⟩
  · simp at h
  · rw [List.concat_eq_append, List.flatMap_append, List.flatMap_singleton,
      List.getLast?_append_of_ne_nil _ String.utf8EncodeChar_ne_nil] at h
    rw [List.concat_eq_append, List.getLast?_concat,
      eq_of_mem_utf8EncodeChar hd (List.mem_of_getLast? h)]

theorem rdropWhile_flatMap_utf8EncodeChar (hd : d.toNat < 128) (text : List Char) :
    (text.flatMap utf8EncodeChar).rdropWhile (· == d.val.toUInt8) =
      (text.rdropWhile (· == d)).flatMap utf8EncodeChar := by
  induction text using List.reverseRecOn with
  | nil => rfl
  | append_singleton text c ih =>
      rw [List.flatMap_append, List.flatMap_singleton]
      by_cases hc : c = d
      · subst hc
        rw [utf8EncodeChar_of_ascii hd, List.rdropWhile_concat_pos _ _ _ (by simp), ih,
          List.rdropWhile_concat_pos _ _ _ (by simp)]
      · rw [List.rdropWhile_concat_neg _ _ _ (by simpa using hc), List.flatMap_append,
          List.flatMap_singleton, List.rdropWhile_eq_self_iff]
        intro hne hlast
        apply hc
        apply eq_of_mem_utf8EncodeChar hd
        rw [← eq_of_beq hlast, List.getLast_append_of_ne_nil _ String.utf8EncodeChar_ne_nil]
        exact List.getLast_mem _

end Ascii

end ZenOS.Library.Utf8
