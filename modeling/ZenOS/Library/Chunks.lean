import Mathlib.Data.List.Basic

/-!
A list cut into consecutive pieces of one length, the last of which may be shorter.
-/

namespace ZenOS.Library.Chunks

variable {α β : Type*}

/-- The pieces have one element at least. -/
def chunks (n : Nat) : List α → List (List α)
  | [] => []
  | a :: l => (a :: l.take (n - 1)) :: chunks n (l.drop (n - 1))
termination_by l => l.length
decreasing_by
  rw [List.length_drop, List.length_cons]
  omega

@[simp] theorem chunks_nil (n : Nat) : chunks n ([] : List α) = [] := by
  rw [chunks]

theorem chunks_of_ne_nil {n : Nat} (hn : 0 < n) {l : List α} (hl : l ≠ []) :
    chunks n l = l.take n :: chunks n (l.drop n) := by
  obtain ⟨a, l, rfl⟩ := List.exists_cons_of_ne_nil hl
  obtain ⟨m, rfl⟩ := Nat.exists_eq_add_one.mpr hn
  rw [chunks, Nat.add_sub_cancel, List.take_succ_cons, List.drop_succ_cons]

theorem chunks_induction {n : Nat} (hn : 0 < n) {motive : List α → Prop} (nil : motive [])
    (cut : ∀ l, l ≠ [] → motive (l.drop n) → motive l) (l : List α) : motive l := by
  induction hlength : l.length using Nat.strongRecOn generalizing l with
  | ind length ih =>
      rcases eq_or_ne l [] with rfl | hl
      · exact nil
      · have hpos := List.length_pos_iff.mpr hl
        exact cut l hl (ih _ (by rw [List.length_drop]; omega) _ rfl)

/-- The first elements of the pieces stand at the multiples of their length. -/
theorem exists_head_chunks_iff {n : Nat} (hn : 0 < n) {l : List α} {a : α} :
    (∃ piece ∈ chunks n l, piece.head? = some a) ↔ ∃ k, l[n * k]? = some a := by
  induction l using chunks_induction hn with
  | nil => simp
  | cut l hl ih =>
      have hhead : (l.take n).head? = l[0]? := by
        rw [List.head?_take, if_neg (Nat.ne_of_gt hn), List.head?_eq_getElem?]
      simp only [chunks_of_ne_nil hn hl, List.mem_cons, exists_eq_or_imp, ih, hhead]
      constructor
      · rintro (h | ⟨k, hk⟩)
        · exact ⟨0, h⟩
        · refine ⟨k + 1, ?_⟩
          rwa [List.getElem?_drop, Nat.add_comm, ← Nat.mul_succ] at hk
      · rintro ⟨_ | k, hk⟩
        · exact .inl hk
        · refine .inr ⟨k, ?_⟩
          rwa [List.getElem?_drop, Nat.add_comm, ← Nat.mul_succ]

theorem ne_nil_of_mem_chunks {n : Nat} (hn : 0 < n) {l piece : List α}
    (h : piece ∈ chunks n l) : piece ≠ [] := by
  induction l using chunks_induction hn with
  | nil => simp at h
  | cut l hl ih =>
      rw [chunks_of_ne_nil hn hl] at h
      rcases List.mem_cons.mp h with rfl | h
      · exact List.take_eq_nil_iff.not.mpr (not_or.mpr ⟨Nat.ne_of_gt hn, hl⟩)
      · exact ih h

section Blocks

variable {f : α → List β} {m : Nat}

theorem length_flatMap_of_length (hf : ∀ a, (f a).length = m) (l : List α) :
    (l.flatMap f).length = m * l.length := by
  rw [List.length_flatMap, List.map_congr_left fun a _ => hf a, List.map_const',
    List.sum_replicate_nat, Nat.mul_comm]

theorem take_flatMap_of_length (hf : ∀ a, (f a).length = m) (n : Nat) (l : List α) :
    (l.flatMap f).take (m * n) = (l.take n).flatMap f := by
  induction n generalizing l with
  | zero => simp
  | succ n ih =>
      cases l with
      | nil => simp
      | cons a l =>
          rw [List.flatMap_cons, List.take_succ_cons, List.flatMap_cons, ← ih, Nat.mul_succ,
            Nat.add_comm, ← hf a, List.take_length_add_append, hf a]

theorem drop_flatMap_of_length (hf : ∀ a, (f a).length = m) (n : Nat) (l : List α) :
    (l.flatMap f).drop (m * n) = (l.drop n).flatMap f := by
  induction n generalizing l with
  | zero => simp
  | succ n ih =>
      cases l with
      | nil => simp
      | cons a l =>
          rw [List.flatMap_cons, List.drop_succ_cons, ← ih, Nat.mul_succ, Nat.add_comm, ← hf a,
            List.drop_length_add_append, hf a]

theorem chunks_flatMap (hf : ∀ a, (f a).length = m) (hm : 0 < m) {n : Nat} (hn : 0 < n)
    (l : List α) : chunks (m * n) (l.flatMap f) = (chunks n l).map (·.flatMap f) := by
  induction l using chunks_induction hn with
  | nil => simp
  | cut l hl ih =>
      have hne : l.flatMap f ≠ [] := by
        rw [← List.length_pos_iff, length_flatMap_of_length hf]
        exact Nat.mul_pos hm (List.length_pos_iff.mpr hl)
      rw [chunks_of_ne_nil (Nat.mul_pos hm hn) hne, chunks_of_ne_nil hn hl, List.map_cons, ← ih,
        take_flatMap_of_length hf, drop_flatMap_of_length hf]

end Blocks

end ZenOS.Library.Chunks
