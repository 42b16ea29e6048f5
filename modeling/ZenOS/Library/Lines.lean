import ZenOS.Library.Stdio
import Mathlib.Data.List.Infix

/-!
The lines of a text.  A line ends with a newline or with the text, and a carriage return
directly in front of the newline belongs to the end of the line.
-/

namespace ZenOS.Library.Lines

open ZenOS.Library.Stdio

variable {α : Type*} [DecidableEq α] (nl cr : α)

/-- The pieces of a text, each with the newline that ends it. -/
def splitInclusive : List α → List (List α)
  | [] => []
  | c :: text =>
      if c = nl then [c] :: splitInclusive text
      else
        match splitInclusive text with
        | [] => [[c]]
        | piece :: pieces => (c :: piece) :: pieces

/-- A text without the character, if it ends with it. -/
def stripSuffix (c : α) (text : List α) : List α :=
  if text.getLast? = some c then text.dropLast else text

/-- A piece without its newline and without a carriage return in front of that. -/
def stripTerminator (piece : List α) : List α :=
  if piece.getLast? = some nl then stripSuffix cr piece.dropLast else piece

def lines (text : List α) : List (List α) :=
  (splitInclusive nl text).map (stripTerminator nl cr)

theorem lineInduction {motive : List α → Prop} (nil : motive [])
    (last : ∀ u, nl ∉ u → u ≠ [] → motive u)
    (line : ∀ u text, nl ∉ u → motive text → motive (u ++ nl :: text)) (text : List α) :
    motive text := by
  induction hn : text.length using Nat.strongRecOn generalizing text with
  | _ n ih =>
      rcases line_cases nl text with hu | ⟨u, rest, hu, rfl⟩
      · rcases eq_or_ne text [] with rfl | hne
        · exact nil
        · exact last text hu hne
      · refine line u rest hu (ih rest.length ?_ rest rfl)
        rw [← hn, List.length_append, List.length_cons]
        omega

section Split

variable {nl} {cr}
variable {u text pattern : List α}

theorem splitInclusive_last (hu : nl ∉ u) (hne : u ≠ []) : splitInclusive nl u = [u] := by
  induction u with
  | nil => exact absurd rfl hne
  | cons c u ih =>
      simp only [List.mem_cons, not_or] at hu
      rw [splitInclusive, if_neg (Ne.symm hu.1)]
      rcases eq_or_ne u [] with rfl | hne
      · rfl
      · rw [ih hu.2 hne]

theorem splitInclusive_line (hu : nl ∉ u) (text : List α) :
    splitInclusive nl (u ++ nl :: text) = (u ++ [nl]) :: splitInclusive nl text := by
  induction u with
  | nil => rw [List.nil_append, splitInclusive, if_pos rfl, List.nil_append]
  | cons c u ih =>
      simp only [List.mem_cons, not_or] at hu
      rw [List.cons_append, splitInclusive, if_neg (Ne.symm hu.1), ih hu.2]
      rfl

@[simp] theorem lines_nil : lines nl cr [] = [] :=
  rfl

theorem lines_last (hu : nl ∉ u) (hne : u ≠ []) : lines nl cr u = [u] := by
  have hlast : u.getLast? ≠ some nl := fun h => hu (List.mem_of_getLast? h)
  rw [lines, splitInclusive_last hu hne, List.map_singleton, stripTerminator, if_neg hlast]

theorem lines_line (hu : nl ∉ u) (text : List α) :
    lines nl cr (u ++ nl :: text) = stripSuffix cr u :: lines nl cr text := by
  rw [lines, splitInclusive_line hu, List.map_cons, stripTerminator, if_pos (by simp),
    List.dropLast_concat, lines]

/-- There are as many lines as newlines, and one more if the text does not end with one. -/
theorem length_lines (text : List α) :
    (lines nl cr text).length =
      text.count nl + if text = [] ∨ text.getLast? = some nl then 0 else 1 := by
  induction text using lineInduction nl with
  | nil => simp
  | last u hu hne =>
      have hlast : u.getLast? ≠ some nl := fun h => hu (List.mem_of_getLast? h)
      rw [lines_last hu hne, List.count_eq_zero_of_not_mem hu, if_neg (by tauto)]
      rfl
  | line u text hu ih =>
      have hend : (u ++ nl :: text = [] ∨ (u ++ nl :: text).getLast? = some nl) ↔
          (text = [] ∨ text.getLast? = some nl) := by
        rcases eq_or_ne text [] with rfl | hne
        · simp
        · rw [List.append_cons, List.getLast?_append_of_ne_nil _ hne]
          simp [hne]
      rw [lines_line hu, List.length_cons, ih, List.count_append, List.count_cons_self,
        List.count_eq_zero_of_not_mem hu]
      simp only [hend]
      omega

end Split

section Patterns

variable {nl} {cr}
variable {u text pattern : List α}

omit [DecidableEq α] in
theorem infix_append_newline_iff (hnl : nl ∉ pattern) (hne : pattern ≠ []) :
    pattern <:+: u ++ nl :: text ↔ pattern <:+: u ∨ pattern <:+: text := by
  constructor
  · rintro ⟨before, behind, h⟩
    rw [List.append_assoc, List.append_eq_append_iff] at h
    rcases h with ⟨middle, rfl, h⟩ | ⟨middle, rfl, h⟩
    · rw [List.append_eq_append_iff] at h
      rcases h with ⟨rest, rfl, -⟩ | ⟨rest, rfl, h⟩
      · exact .inl ⟨before, rest, by rw [List.append_assoc]⟩
      · cases rest with
        | nil => exact .inl ⟨before, [], by simp⟩
        | cons c rest =>
            rw [List.cons_append, List.cons.injEq] at h
            exact absurd (by simp [h.1]) hnl
    · cases middle with
      | nil =>
          obtain ⟨c, pattern, rfl⟩ := List.exists_cons_of_ne_nil hne
          rw [List.nil_append, List.cons_append, List.cons.injEq] at h
          exact absurd (by simp [h.1]) hnl
      | cons c middle =>
          rw [List.cons_append, List.cons.injEq] at h
          exact .inr ⟨middle, behind, by rw [h.2, List.append_assoc]⟩
  · rintro (h | h)
    · exact h.trans (List.prefix_append _ _).isInfix
    · exact h.trans ((List.suffix_cons nl text).trans (List.suffix_append _ _)).isInfix

theorem infix_stripSuffix_iff (hcr : pattern.getLast? ≠ some cr) (hne : pattern ≠ []) :
    pattern <:+: stripSuffix cr u ↔ pattern <:+: u := by
  rw [stripSuffix]
  split
  next hlast =>
    obtain ⟨line, rfl⟩ := List.getLast?_eq_some_iff.mp hlast
    rw [List.dropLast_concat, List.infix_concat_iff, or_iff_right]
    rintro ⟨before, h⟩
    apply hcr
    rw [← List.getLast?_append_of_ne_nil before hne, h, List.getLast?_concat]
  · rfl

theorem infix_iff_exists_line (hnl : nl ∉ pattern) (hcr : pattern.getLast? ≠ some cr)
    (hne : pattern ≠ []) :
    pattern <:+: text ↔ ∃ line ∈ lines nl cr text, pattern <:+: line := by
  induction text using lineInduction nl with
  | nil => simp [hne]
  | last u hu hu' => simp [lines_last hu hu']
  | line u text hu ih =>
      rw [lines_line hu, infix_append_newline_iff hnl hne, ih, List.exists_mem_cons_iff,
        infix_stripSuffix_iff hcr hne]

end Patterns

end ZenOS.Library.Lines
