import Mathlib.Data.List.Infix

/-!
Texts that consist of quoted words and single marks, and the search for a quoted word in
them.  A search that knows nothing of this structure, such as `strstr`, finds exactly the
words that are quoted in the text.
-/

namespace ZenOS.Library.QuotedText

variable {α : Type*} [DecidableEq α]

/-- What follows the first occurrence of a pattern in a text. -/
def after (pattern : List α) : List α → Option (List α)
  | [] => if pattern = [] then some [] else none
  | a :: text =>
      if pattern.isPrefixOf (a :: text) then some ((a :: text).drop pattern.length)
      else after pattern text

inductive Piece (α : Type*) where
  | mark (a : α)
  | word (s : List α)
  deriving DecidableEq

/-- A word with its quotes. -/
def quote (q : α) (s : List α) : List α :=
  q :: (s ++ [q])

def Piece.text (q : α) : Piece α → List α
  | .mark a => [a]
  | .word s => quote q s

def render (q : α) (pieces : List (Piece α)) : List α :=
  pieces.flatMap (Piece.text q)

/-- The first character of a piece's text. -/
def Piece.first (q : α) : Piece α → α
  | .mark a => a
  | .word _ => q

/-- A mark, or every letter of a word, satisfies `P`. -/
def Piece.All (P : α → Prop) : Piece α → Prop
  | .mark a => P a
  | .word s => ∀ a ∈ s, P a

/-- A piece in which no quote stands but those around a word. -/
def Piece.Proper (q : α) : Piece α → Prop
  | .mark a => a ≠ q
  | .word s => q ∉ s

section Render

variable {q : α} {pieces pieces' : List (Piece α)}

omit [DecidableEq α] in
@[simp] theorem render_nil : render q [] = [] :=
  rfl

omit [DecidableEq α] in
@[simp] theorem render_mark (a : α) : render q (.mark a :: pieces) = a :: render q pieces :=
  rfl

omit [DecidableEq α] in
@[simp] theorem render_word (s : List α) :
    render q (.word s :: pieces) = q :: (s ++ q :: render q pieces) := by
  simp [render, Piece.text, quote]

omit [DecidableEq α] in
@[simp] theorem render_append :
    render q (pieces ++ pieces') = render q pieces ++ render q pieces' :=
  List.flatMap_append

omit [DecidableEq α] in
theorem render_cons_first (piece : Piece α) :
    render q (piece :: pieces) =
      piece.first q :: ((piece.text q).tail ++ render q pieces) := by
  cases piece <;> simp [Piece.first, Piece.text, quote]

omit [DecidableEq α] in
theorem length_le_render : pieces.length ≤ (render q pieces).length := by
  induction pieces with
  | nil => exact Nat.zero_le _
  | cons piece pieces ih =>
      cases piece with
      | mark a => simpa using ih
      | word s =>
          rw [render_word, List.length_cons, List.length_cons, List.length_append,
            List.length_cons]
          omega

omit [DecidableEq α] in
theorem forall_mem_render {P : α → Prop} (hq : P q) (h : ∀ piece ∈ pieces, piece.All P) :
    ∀ a ∈ render q pieces, P a := by
  induction pieces with
  | nil => simp
  | cons piece pieces ih =>
      have hrest := ih fun piece' hpiece' => h piece' (List.mem_cons_of_mem _ hpiece')
      have hpiece := h piece List.mem_cons_self
      cases piece with
      | mark a => simpa using ⟨hpiece, hrest⟩
      | word s =>
          rw [render_word]
          simp only [List.forall_mem_cons, List.forall_mem_append]
          exact ⟨hq, hpiece, hq, hrest⟩

end Render

section Search

variable {q c : α} {k : List α} {pieces : List (Piece α)}

theorem after_cons_of_not_starting {pattern text : List α} {a : α}
    (h : ¬ pattern <+: a :: text) : after pattern (a :: text) = after pattern text := by
  rw [after, if_neg]
  rwa [List.isPrefixOf_iff_prefix]

theorem length_le_of_after {pattern text rest : List α} (h : after pattern text = some rest) :
    pattern.length ≤ text.length := by
  induction text with
  | nil =>
      rw [after] at h
      split at h
      next hnil => simp [hnil]
      · cases h
  | cons a text ih =>
      rw [after] at h
      split at h
      next hpre => exact (List.isPrefixOf_iff_prefix.mp hpre).length_le
      · exact (ih h).trans (Nat.le_succ _)

theorem after_suffix {pattern text rest : List α} (h : after pattern text = some rest) :
    rest <:+ text := by
  induction text with
  | nil =>
      rw [after] at h
      split at h <;> cases h
      exact List.suffix_rfl
  | cons a text ih =>
      rw [after] at h
      split at h
      · cases h
        exact List.drop_suffix ..
      · exact (ih h).trans (List.suffix_cons ..)

/-- The first occurrence in a text is the first one in every longer text. -/
theorem after_append {pattern text rest : List α} (h : after pattern text = some rest)
    (tail : List α) : after pattern (text ++ tail) = some (rest ++ tail) := by
  induction text with
  | nil =>
      rw [after] at h
      split at h
      next hnil =>
        cases h
        subst hnil
        cases tail <;> simp [after]
      · cases h
  | cons a text ih =>
      by_cases hpre : pattern <+: a :: text
      · rw [after, if_pos (List.isPrefixOf_iff_prefix.mpr hpre)] at h
        cases h
        have hlong := hpre.trans (List.prefix_append (a :: text) tail)
        rw [List.cons_append] at hlong ⊢
        rw [after, if_pos (List.isPrefixOf_iff_prefix.mpr hlong), ← List.cons_append,
          List.drop_append_of_le_length hpre.length_le]
      · have hlength := length_le_of_after h
        rw [after_cons_of_not_starting hpre] at h
        rw [List.cons_append, after_cons_of_not_starting, ih h]
        exact fun hlong =>
          hpre (List.prefix_of_prefix_length_le hlong (List.prefix_append _ tail) hlength)

theorem after_append_of_notMem {s text : List α} (h : q ∉ s) :
    after (quote q k) (s ++ text) = after (quote q k) text := by
  induction s with
  | nil => rfl
  | cons a s ih =>
      simp only [List.mem_cons, not_or] at h
      rw [List.cons_append, after_cons_of_not_starting, ih h.2]
      intro hpre
      exact h.1 (List.cons_prefix_cons.mp hpre).1

omit [DecidableEq α] in
theorem eq_of_prefix_quote {s text : List α} (hk : q ∉ k) (hs : q ∉ s)
    (h : k ++ [q] <+: s ++ q :: text) : k = s := by
  induction k generalizing s with
  | nil =>
      cases s with
      | nil => rfl
      | cons b s =>
          rw [List.nil_append, List.cons_append, List.cons_prefix_cons] at h
          exact absurd (by simp [h.1]) hs
  | cons a k ih =>
      simp only [List.mem_cons, not_or] at hk
      cases s with
      | nil =>
          rw [List.cons_append, List.nil_append, List.cons_prefix_cons] at h
          exact absurd h.1.symm hk.1
      | cons b s =>
          simp only [List.mem_cons, not_or] at hs
          rw [List.cons_append, List.cons_append, List.cons_prefix_cons] at h
          rw [h.1, ih hk.2 hs.2 h.2]

omit [DecidableEq α] in
theorem not_prefix_of_closing (hc : c ≠ q) (hmark : Piece.mark c ∉ pieces) :
    ¬ quote q (c :: k) <+: q :: render q pieces := by
  intro h
  rw [quote, List.cons_append, List.cons_prefix_cons] at h
  cases pieces with
  | nil => simp at h
  | cons piece pieces =>
      cases piece with
      | mark a =>
          rw [render_mark, List.cons_prefix_cons] at h
          exact hmark (by simp [h.2.1])
      | word s =>
          rw [render_word, List.cons_prefix_cons] at h
          exact hc h.2.1

omit [DecidableEq α] in
theorem suffix_append_quote_iff {s text : List α} (hk : q ∉ k) :
    q :: k <:+ s ++ q :: text ↔ q :: k <:+ q :: text := by
  constructor
  · intro h
    rcases List.suffix_or_suffix_of_suffix h (List.suffix_append s _) with h | h
    · exact h
    · rcases List.suffix_cons_iff.mp h with heq | h
      · rw [heq]
      · exact absurd (h.subset List.mem_cons_self) hk
  · exact fun h => h.trans (List.suffix_append s _)

omit [DecidableEq α] in
theorem suffix_quote_iff {s : List α} (hs : q ∉ s) : q :: k <:+ q :: s ↔ s = k := by
  constructor
  · intro h
    rcases List.suffix_cons_iff.mp h with heq | h
    · exact (List.cons.inj heq).2.symm
    · exact absurd (h.subset List.mem_cons_self) hs
  · rintro rfl
    exact List.suffix_rfl

theorem after_between {s : List α} (hk : q ∉ k) (hs : q ∉ s) (text : List α) :
    after (quote q k) (q :: (s ++ q :: text)) =
      if s = k then some text else after (quote q k) (q :: text) := by
  split
  · next heq =>
      subst heq
      have hpre : quote q s <+: q :: (s ++ q :: text) := ⟨text, by simp [quote]⟩
      rw [after, if_pos (List.isPrefixOf_iff_prefix.mpr hpre)]
      simp [quote]
  · next hne =>
      rw [after_cons_of_not_starting, after_append_of_notMem hs]
      intro hpre
      rw [quote, List.cons_prefix_cons] at hpre
      exact hne (eq_of_prefix_quote hk hs hpre.2).symm

theorem after_last {s : List α} (hs : q ∉ s) : after (quote q k) (q :: s) = none := by
  rw [after_cons_of_not_starting]
  · rw [← List.append_nil s, after_append_of_notMem hs, after, quote,
      if_neg (List.cons_ne_nil _ _)]
  · intro hpre
    rw [quote, List.cons_prefix_cons] at hpre
    exact hs (hpre.2.subset (List.mem_append_right _ List.mem_cons_self))

theorem after_render_cons {piece : Piece α} (hk : q ∉ c :: k)
    (hproper : piece.Proper q) (hmark : Piece.mark c ∉ pieces) (hne : piece ≠ .word (c :: k)) :
    after (quote q (c :: k)) (render q (piece :: pieces)) =
      after (quote q (c :: k)) (render q pieces) := by
  cases piece with
  | mark a =>
      rw [render_mark]
      refine after_append_of_notMem (s := [a]) ?_
      simpa using Ne.symm hproper
  | word s =>
      have hsearch : ¬ quote q (c :: k) <+: q :: (s ++ q :: render q pieces) := by
        intro h
        rw [quote, List.cons_prefix_cons] at h
        exact hne (congrArg Piece.word (eq_of_prefix_quote hk hproper h.2).symm)
      have hcq : c ≠ q := fun h => hk (by simp [h])
      rw [render_word, after_cons_of_not_starting hsearch, after_append_of_notMem hproper,
        after_cons_of_not_starting (not_prefix_of_closing hcq hmark)]

/-- The search for a quoted word ends behind the first piece that is this word. -/
theorem after_render (hk : q ∉ c :: k) (hproper : ∀ piece ∈ pieces, piece.Proper q)
    (hmark : Piece.mark c ∉ pieces) :
    after (quote q (c :: k)) (render q pieces) =
      (pieces.dropWhile (· ≠ .word (c :: k))).tail?.map (render q) := by
  induction pieces with
  | nil => rfl
  | cons piece pieces ih =>
      simp only [List.mem_cons, not_or] at hmark
      rcases eq_or_ne piece (.word (c :: k)) with rfl | hne
      · rw [render_word]
        have hpre : quote q (c :: k) <+: q :: (c :: k ++ q :: render q pieces) :=
          ⟨render q pieces, by simp [quote]⟩
        rw [after, if_pos (List.isPrefixOf_iff_prefix.mpr hpre)]
        simp [quote]
      · rw [after_render_cons hk (hproper _ List.mem_cons_self) hmark.2 hne,
          ih (fun p hp => hproper p (List.mem_cons_of_mem _ hp)) hmark.2]
        simp [hne]

theorem after_render_append {before behind : List (Piece α)} (hk : q ∉ c :: k)
    (hproper : ∀ piece ∈ before ++ .word (c :: k) :: behind, piece.Proper q)
    (hmark : Piece.mark c ∉ before ++ .word (c :: k) :: behind)
    (hbefore : Piece.word (c :: k) ∉ before) :
    after (quote q (c :: k)) (render q (before ++ .word (c :: k) :: behind)) =
      some (render q behind) := by
  have hother : ∀ piece ∈ before, decide (piece ≠ .word (c :: k)) = true := by
    intro piece hpiece
    rw [decide_eq_true_eq]
    rintro rfl
    exact hbefore hpiece
  rw [after_render hk hproper hmark, List.dropWhile_append_of_pos hother]
  simp

end Search

end ZenOS.Library.QuotedText
