import Mathlib.Data.List.TakeWhile

/-!
A stream of lines that is read in pieces of bounded length.  A piece ends behind a
newline or where the buffer is full, so that one piece need not be one line.
-/

namespace ZenOS.Library.Stdio

variable {α : Type*} [DecidableEq α] (nl : α)

/-- The next line of a stream, without its newline. -/
def nextLine (s : List α) : Option (List α) :=
  if s = [] then none else some (s.takeWhile (· ≠ nl))

/-- The stream behind its next line. -/
def dropLine (s : List α) : List α :=
  (s.dropWhile (· ≠ nl)).tail

/-- At most `n` characters, up to and including a newline, and the rest of the stream. -/
def piece : Nat → List α → List α × List α
  | 0, s => ([], s)
  | _ + 1, [] => ([], [])
  | n + 1, c :: s => if c = nl then ([c], s) else (c :: (piece n s).1, (piece n s).2)

/-- `fgets` with a buffer of `size` characters, of which the last one is the terminator. -/
def fgets (size : Nat) (s : List α) : Option (List α) × List α :=
  if s = [] then (none, []) else (some (piece nl (size - 1) s).1, (piece nl (size - 1) s).2)

variable {nl}

@[simp] theorem nextLine_nil : nextLine nl [] = none :=
  rfl

@[simp] theorem dropLine_nil : dropLine nl [] = [] :=
  rfl

@[simp] theorem fgets_nil (size : Nat) : fgets nl size [] = (none, []) :=
  rfl

theorem fgets_of_ne_nil (size : Nat) {s : List α} (hs : s ≠ []) :
    fgets nl size s = (some (piece nl (size - 1) s).1, (piece nl (size - 1) s).2) :=
  if_neg hs

theorem ne_newline {u : List α} (hu : nl ∉ u) : ∀ c ∈ u, decide (c ≠ nl) = true := by
  intro c hc
  apply decide_eq_true
  rintro rfl
  exact hu hc

theorem takeWhile_line {u : List α} (hu : nl ∉ u) (s : List α) :
    (u ++ nl :: s).takeWhile (· ≠ nl) = u := by
  rw [List.takeWhile_append_of_pos (ne_newline hu)]
  simp

theorem dropLine_line {u : List α} (hu : nl ∉ u) (s : List α) :
    dropLine nl (u ++ nl :: s) = s := by
  rw [dropLine, List.dropWhile_append_of_pos (ne_newline hu)]
  simp

theorem takeWhile_last {u : List α} (hu : nl ∉ u) : u.takeWhile (· ≠ nl) = u :=
  List.takeWhile_eq_self_iff.mpr (ne_newline hu)

theorem dropLine_last {u : List α} (hu : nl ∉ u) : dropLine nl u = [] := by
  rw [dropLine, List.dropWhile_eq_nil_iff.mpr (ne_newline hu)]
  rfl

/-- A stream is one unterminated line, or a line and what follows it. -/
theorem line_cases (nl : α) (s : List α) :
    nl ∉ s ∨ ∃ u rest, nl ∉ u ∧ s = u ++ nl :: rest := by
  by_cases hmem : nl ∈ s
  · obtain ⟨u, rest, hs, hu⟩ := List.eq_append_cons_of_mem hmem
    exact .inr ⟨u, rest, hu, hs⟩
  · exact .inl hmem

theorem piece_line {u : List α} (hu : nl ∉ u) (s : List α) {n : Nat} (hn : u.length < n) :
    piece nl n (u ++ nl :: s) = (u ++ [nl], s) := by
  induction u generalizing n with
  | nil =>
      obtain ⟨m, rfl⟩ : ∃ m, n = m + 1 := ⟨n - 1, by simp at hn; omega⟩
      simp [piece]
  | cons c u ih =>
      obtain ⟨m, rfl⟩ : ∃ m, n = m + 1 := ⟨n - 1, by simp at hn; omega⟩
      rw [List.mem_cons, not_or] at hu
      have hlen : u.length < m := by simpa using hn
      rw [List.cons_append, piece, if_neg (Ne.symm hu.1), ih hu.2 hlen]
      rfl

theorem piece_cut {u : List α} (hu : nl ∉ u) (s : List α) :
    piece nl u.length (u ++ s) = (u, s) := by
  induction u with
  | nil => rfl
  | cons c u ih =>
      rw [List.mem_cons, not_or] at hu
      rw [List.cons_append, List.length_cons, piece, if_neg (Ne.symm hu.1), ih hu.2]

theorem piece_last {u : List α} (hu : nl ∉ u) {n : Nat} (hn : u.length ≤ n) :
    piece nl n u = (u, []) := by
  induction u generalizing n with
  | nil => cases n <;> rfl
  | cons c u ih =>
      obtain ⟨m, rfl⟩ : ∃ m, n = m + 1 := ⟨n - 1, by simp at hn; omega⟩
      rw [List.mem_cons, not_or] at hu
      have hlen : u.length ≤ m := by simpa using hn
      rw [piece, if_neg (Ne.symm hu.1), ih hu.2 hlen]

theorem piece_of_notMem {s : List α} (hs : nl ∉ s) (n : Nat) :
    piece nl n s = (s.take n, s.drop n) := by
  rcases Nat.lt_or_ge s.length n with hlt | hge
  · rw [piece_last hs hlt.le, List.take_of_length_le hlt.le, List.drop_of_length_le hlt.le]
  · have hcut := piece_cut (u := s.take n) (fun h => hs (List.mem_of_mem_take h)) (s.drop n)
    rwa [List.length_take_of_le hge, List.take_append_drop] at hcut

theorem piece_long {u : List α} (hu : nl ∉ u) (s : List α) {n : Nat} (hn : n ≤ u.length) :
    piece nl n (u ++ nl :: s) = (u.take n, u.drop n ++ nl :: s) := by
  have hcut := piece_cut (u := u.take n) (fun h => hu (List.mem_of_mem_take h))
    (u.drop n ++ nl :: s)
  rwa [List.length_take_of_le hn, ← List.append_assoc, List.take_append_drop] at hcut

theorem fgets_snd {size : Nat} (s : List α) :
    (fgets nl size s).2 = (piece nl (size - 1) s).2 := by
  rw [fgets]
  split
  · next hs =>
      subst hs
      cases size - 1 <;> rfl
  · rfl

theorem piece_append (nl : α) (n : Nat) (s : List α) :
    (piece nl n s).1 ++ (piece nl n s).2 = s := by
  induction n generalizing s with
  | zero => rfl
  | succ n ih =>
      cases s with
      | nil => rfl
      | cons c s =>
          rw [piece]
          split
          · rfl
          · rw [List.cons_append, ih]

theorem eq_nil_of_piece_snd {n : Nat} {s : List α} (hn : 0 < n)
    (hs : (piece nl n s).2 = s) : s = [] := by
  obtain ⟨m, rfl⟩ := Nat.exists_eq_succ_of_ne_zero (Nat.pos_iff_ne_zero.mp hn)
  have happend := piece_append nl m.succ s
  rw [hs, List.append_left_eq_self] at happend
  cases s with
  | nil => rfl
  | cons c s =>
      rw [Nat.succ_eq_add_one, piece] at happend
      split at happend <;> cases happend

end ZenOS.Library.Stdio
