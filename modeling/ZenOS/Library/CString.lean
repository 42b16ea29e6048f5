import Mathlib.Data.List.Basic

/-!
Strings in buffers of fixed size.  A buffer holds a string when it starts with the
string's bytes and all the bytes behind them are zero, so that a C function that
reads the buffer reads exactly that string.
-/

namespace ZenOS.Library.CString

variable {n : Nat}

/-- The string a C function reads from a NUL-terminated buffer. -/
def cString (buffer : Vector UInt8 n) : List UInt8 :=
  buffer.toList.takeWhile (· ≠ 0)

/-- The buffer, with its separately kept length, holds `chars` and nothing else. -/
structure Holds (buffer : Vector UInt8 n) (length : Nat) (chars : List UInt8) : Prop where
  length_eq : length = chars.length
  length_lt : chars.length < n
  toList_eq : buffer.toList = chars ++ List.replicate (n - chars.length) 0
  nonzero : ∀ c ∈ chars, c ≠ 0

namespace Holds

variable {buffer : Vector UInt8 n} {length : Nat} {chars : List UInt8}

theorem clear (hn : 0 < n) : Holds (Vector.replicate n 0) 0 [] where
  length_eq := rfl
  length_lt := hn
  toList_eq := by simp
  nonzero c hc := by cases hc

theorem cString_eq (h : Holds buffer length chars) : cString buffer = chars := by
  rw [cString, h.toList_eq, List.takeWhile_append_of_pos]
  · simp
  · intro c hc
    simpa using h.nonzero c hc

/-- Append a byte and write the terminator behind it. -/
theorem push (h : Holds buffer length chars) {c : UInt8} (hc : c ≠ 0)
    (hroom : chars.length + 1 < n) :
    Holds ((buffer.setIfInBounds length c).setIfInBounds (length + 1) 0) (length + 1)
      (chars ++ [c]) where
  length_eq := by simp [h.length_eq]
  length_lt := by simpa using hroom
  toList_eq := by
    obtain ⟨m, hm⟩ : ∃ m, n - chars.length = m + 2 := ⟨n - chars.length - 2, by omega⟩
    have hrest : n - (chars ++ [c]).length = m + 1 := by
      rw [List.length_append, List.length_singleton]
      omega
    rw [Vector.toList_setIfInBounds, Vector.toList_setIfInBounds, h.toList_eq, hm, hrest,
      h.length_eq, List.replicate_succ, List.replicate_succ]
    simp
  nonzero d hd := by
    rcases List.mem_append.mp hd with hd | hd
    · exact h.nonzero d hd
    · rwa [List.mem_singleton.mp hd]

theorem pop (h : Holds buffer length chars) (hpos : 0 < length) :
    Holds (buffer.setIfInBounds (length - 1) 0) (length - 1) chars.dropLast where
  length_eq := by rw [List.length_dropLast, h.length_eq]
  length_lt := by
    rw [List.length_dropLast]
    have := h.length_lt
    omega
  toList_eq := by
    obtain ⟨front, last, rfl⟩ : ∃ front last, chars = front ++ [last] := by
      have hne : chars ≠ [] := by
        intro hnil
        simp [h.length_eq, hnil] at hpos
      exact ⟨chars.dropLast, chars.getLast hne, (List.dropLast_append_getLast hne).symm⟩
    have hlt := h.length_lt
    rw [List.length_append, List.length_singleton] at hlt
    have hrest : n - front.length = n - (front ++ [last]).length + 1 := by
      rw [List.length_append, List.length_singleton]
      omega
    rw [Vector.toList_setIfInBounds, h.toList_eq, h.length_eq, List.dropLast_concat, hrest,
      List.replicate_succ]
    simp
  nonzero d hd := h.nonzero d ((List.dropLast_sublist chars).subset hd)

end Holds

end ZenOS.Library.CString
