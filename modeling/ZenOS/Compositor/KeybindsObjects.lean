import ZenOS.Compositor.KeybindsItems
import ZenOS.Library.Nesting

/-!
Objects by their braces, and the arrays that the scanner reads to their end.
-/

namespace ZenOS.Compositor.KeybindsBuffer

open ZenOS.Library.Nesting ZenOS.Library.QuotedText

def braceWeight (c : Char) : ℤ :=
  if c = '{' then 1 else if c = '}' then -1 else 0

/-- An opening brace, and what follows up to the brace that closes it. -/
def BalancedObject (obj : List Char) : Prop :=
  ∃ body, obj = '{' :: body ∧ Closes braceWeight 1 body

/-- Balanced objects with separators around them, and the bracket behind. -/
inductive ObjectSequence : List Char → Prop where
  | bracket (text : List Char) : ObjectSequence (']' :: text)
  | separator {c : Char} {text : List Char} (hc : isSeparator c = true)
      (rest : ObjectSequence text) : ObjectSequence (c :: text)
  | object {obj text : List Char} (hobj : BalancedObject obj) (rest : ObjectSequence text) :
      ObjectSequence (obj ++ text)

section Object

variable {depth : Int} {text body behind : List Char} {c : Char}

theorem cutObject_cons (hc : c ≠ nul) (hdepth : depth + braceWeight c ≠ 0) :
    cutObject depth (c :: text) =
      (cutObject (depth + braceWeight c) text).map (c :: ·) id := by
  rw [cutObject, if_neg hc]
  unfold braceWeight at hdepth ⊢
  split
  · rfl
  split
  next hopen hclose =>
    rw [if_neg hopen, if_pos hclose] at hdepth
    exact if_neg hdepth
  · rw [add_zero]

theorem cutObject_close (hc : c ≠ nul) (hdepth : 0 < depth) (hclose : depth + braceWeight c = 0) :
    cutObject depth (c :: text) = ([c], text) := by
  unfold braceWeight at hclose
  split at hclose
  · omega
  split at hclose
  next hopen hbrace =>
    rw [cutObject, if_neg hc, if_neg hopen, if_pos hbrace]
    exact if_pos hclose
  · omega

theorem cutObject_closes (hdepth : 0 < depth) (h : Closes braceWeight depth body)
    (hnul : nul ∉ body) : cutObject depth (body ++ behind) = (body, behind) := by
  induction body generalizing depth with
  | nil => exact absurd (closes_nil.mp h) (by omega)
  | cons c body ih =>
      simp only [List.mem_cons, not_or] at hnul
      obtain ⟨-, hrest⟩ := closes_cons.mp h
      rw [List.cons_append]
      by_cases hzero : depth + braceWeight c = 0
      · rw [cutObject_close (Ne.symm hnul.1) hdepth hzero]
        cases body with
        | nil => rfl
        | cons a body => exact absurd (closes_cons.mp hrest).1 (by omega)
      · have hpos : 0 < depth + braceWeight c := by
          cases body with
          | nil => exact absurd (closes_nil.mp hrest) hzero
          | cons a body => exact (closes_cons.mp hrest).1
        rw [cutObject_cons (Ne.symm hnul.1) hzero, ih hpos hrest hnul.2]
        rfl

theorem cutObject_balanced {obj : List Char} (h : BalancedObject obj) (hnul : nul ∉ obj) :
    cutObject 0 (obj ++ behind) = (obj, behind) := by
  obtain ⟨body, rfl, hbody⟩ := h
  have hopen : (0 : Int) + braceWeight '{' = 1 := rfl
  rw [List.cons_append, cutObject_cons (by decide) (by decide), hopen,
    cutObject_closes (by decide) hbody fun h => hnul (List.mem_cons_of_mem _ h)]
  rfl

theorem braceWeight_ge (c : Char) : -1 ≤ braceWeight c := by
  unfold braceWeight
  split
  · decide
  split <;> decide

theorem closes_or_cutObject (hdepth : 0 < depth) (text : List Char) :
    (∃ body behind, text = body ++ behind ∧ Closes braceWeight depth body ∧ nul ∉ body) ∨
      cutObject depth text = (text.takeWhile (· ≠ nul), text.dropWhile (· ≠ nul)) := by
  induction text generalizing depth with
  | nil => exact .inr rfl
  | cons c text ih =>
      by_cases hc : c = nul
      · subst hc
        exact .inr rfl
      · have hge := braceWeight_ge c
        by_cases hzero : depth + braceWeight c = 0
        · refine .inl ⟨[c], text, rfl, closes_cons.mpr ⟨hdepth, ?_⟩, by simp [Ne.symm hc]⟩
          rw [hzero]
          exact closes_nil.mpr rfl
        · rcases ih (show 0 < depth + braceWeight c by omega) with
            ⟨body, behind, rfl, hbody, hnul⟩ | hcut
          · exact .inl ⟨c :: body, behind, rfl, closes_cons.mpr ⟨hdepth, hbody⟩,
              by simp [Ne.symm hc, hnul]⟩
          · right
            rw [cutObject_cons hc hzero, hcut, List.takeWhile_cons_of_pos (by simpa using hc),
              List.dropWhile_cons_of_pos (by simpa using hc)]
            rfl

end Object

section Array

variable {fuel : Nat} {text behind : List Char}

theorem scanArray_separator {c : Char} (hc : isSeparator c = true) :
    scanArray fuel (c :: text) = scanArray fuel text := by
  cases fuel with
  | zero => rfl
  | succ fuel =>
      have hskip : skipSpaceAndCommas (c :: text) = skipSpaceAndCommas text := by
        rw [skipSpaceAndCommas_cons]
        exact if_pos hc
      rw [scanArray, scanArray, hskip]

theorem scanArray_stop {c : Char} (hc : isSeparator c = false) :
    scanArray (fuel + 1) (c :: text) =
      if c = nul then ([], false)
      else if c = ']' then ([], true)
      else if c ≠ '{' then ([.stray], false)
      else (scanArray fuel (cutObject 0 (c :: text)).2).map
        (.object (cutObject 0 (c :: text)).1 (cutObject 0 (c :: text)).2 :: ·) id := by
  have hskip : skipSpaceAndCommas (c :: text) = c :: text := by
    rw [skipSpaceAndCommas_cons]
    exact if_neg (by simpa [isSeparator] using hc)
  rw [scanArray, hskip]

theorem scanArray_object {obj : List Char} (hobj : BalancedObject obj) (hnul : nul ∉ obj) :
    scanArray (fuel + 1) (obj ++ behind) =
      (scanArray fuel behind).map (.object obj behind :: ·) id := by
  have hcut : cutObject 0 (obj ++ behind) = _ := cutObject_balanced hobj hnul
  obtain ⟨body, rfl, -⟩ := hobj
  rw [List.cons_append] at hcut ⊢
  rw [scanArray_stop (by decide), hcut]
  rfl

theorem scanArray_at_end (h : ∀ c ∈ text.head?, c = nul) : (scanArray fuel text).2 = false := by
  cases fuel with
  | zero => rfl
  | succ fuel =>
      cases text with
      | nil => rfl
      | cons c text =>
          have hc : c = nul := h c rfl
          subst hc
          rw [scanArray_stop (by decide), if_pos rfl]

theorem head?_dropWhile_nul (text : List Char) : ∀ c ∈ (text.dropWhile (· ≠ nul)).head?, c = nul := by
  intro c hc
  have hhead := List.head?_dropWhile_not (· ≠ nul) text
  rw [Option.mem_def.mp hc] at hhead
  simpa using hhead

theorem objectSequence_of_scanArray (h : (scanArray fuel text).2 = true) :
    ObjectSequence (text.takeWhile (· ≠ nul)) := by
  induction fuel generalizing text with
  | zero => cases h
  | succ fuel ih =>
      induction text with
      | nil => cases h
      | cons c text ihtext =>
          by_cases hnul : c = nul
          · subst hnul
            rw [scanArray_at_end (by simp)] at h
            cases h
          rw [List.takeWhile_cons_of_pos (by simpa using hnul)]
          rcases hc : isSeparator c with _ | _
          · rw [scanArray_stop hc, if_neg hnul] at h
            split at h
            next hbracket =>
              subst hbracket
              exact .bracket _
            split at h
            · cases h
            next hopen =>
              obtain rfl : c = '{' := by simpa using hopen
              have hcut : cutObject 0 ('{' :: text) = (cutObject 1 text).map ('{' :: ·) id :=
                cutObject_cons (by decide) (by decide)
              rw [hcut] at h
              rcases closes_or_cutObject (show (0 : Int) < 1 by decide) text with
                ⟨body, behind, rfl, hbody, hbodynul⟩ | hend
              · have hplain : ∀ a ∈ body, decide (a ≠ nul) = true := by
                  intro a ha
                  rw [decide_eq_true_eq]
                  rintro rfl
                  exact hbodynul ha
                rw [cutObject_closes (by decide) hbody hbodynul] at h
                rw [List.takeWhile_append_of_pos hplain, ← List.cons_append]
                exact .object ⟨body, rfl, hbody⟩ (ih h)
              · rw [hend] at h
                have hrest : (scanArray fuel (text.dropWhile (· ≠ nul))).2 = true := h
                rw [scanArray_at_end (head?_dropWhile_nul text)] at hrest
                cases hrest
          · rw [scanArray_separator hc] at h
            exact .separator hc (ihtext h)

theorem scanArray_of_objectSequence {rest : List Char} (h : ObjectSequence text)
    (hnul : nul ∉ text) (hfuel : text.length < fuel) :
    (scanArray fuel (text ++ rest)).2 = true := by
  induction h generalizing fuel with
  | bracket text =>
      obtain ⟨fuel, rfl⟩ : ∃ n, fuel = n + 1 := ⟨fuel - 1, by omega⟩
      rw [List.cons_append, scanArray_stop (by decide)]
      rfl
  | separator hc _ ih =>
      rw [List.cons_append, scanArray_separator hc]
      exact ih (fun h => hnul (List.mem_cons_of_mem _ h)) (by simp at hfuel; omega)
  | @object obj text hobj _ ih =>
      obtain ⟨fuel, rfl⟩ : ∃ n, fuel = n + 1 := ⟨fuel - 1, by omega⟩
      have hpos : 0 < obj.length := by
        obtain ⟨body, rfl, -⟩ := hobj
        simp
      rw [List.length_append] at hfuel
      rw [List.append_assoc, scanArray_object hobj fun h => hnul (by simp [h])]
      exact ih (fun h => hnul (by simp [h])) (by omega)

end Array

end ZenOS.Compositor.KeybindsBuffer
