import ZenOS.Compositor.KeybindsFields
import ZenOS.Library.JsonLiterals

/-!
The strings of a binding, when any text stands between their quotes, and any text behind
them.
-/

namespace ZenOS.Compositor

open ZenOS.Library.QuotedText ZenOS.Library.Json

section ReadString

variable {raw text s : List Char}

theorem readString_quote (text : List Char) : readString ('"' :: text) = some [] := by
  rw [readString.eq_def]
  rfl

theorem readString_cons {c : Char} (hquote : c ≠ '"') (hescape : c ≠ '\\') (text : List Char) :
    readString (c :: text) = (readString text).map (c :: ·) := by
  rw [readString.eq_def]
  simp [hquote, hescape]

theorem readString_escape (c : Char) (text : List Char) :
    readString ('\\' :: c :: text) = (readString text).map fun s => '\\' :: c :: s := by
  rw [readString.eq_def]
  simp

theorem readString_append (h : Enclosed raw) (text : List Char) :
    readString (raw ++ text) = (readString text).map (raw ++ ·) := by
  induction h with
  | nil => simp
  | cons hquote hescape _ ih =>
      rw [List.cons_append, readString_cons hquote hescape, ih, Option.map_map]
      rfl
  | escape _ ih =>
      rw [List.cons_append, List.cons_append, readString_escape, ih, Option.map_map]
      rfl

theorem readString_enclosed (h : Enclosed raw) (text : List Char) :
    readString (raw ++ '"' :: text) = some raw := by
  rw [readString_append h, readString_quote, Option.map_some, List.append_nil]

theorem readString_prefix (h : Enclosed raw) {front : List Char} (hfront : front <+: raw) :
    readString front = none := by
  induction h generalizing front with
  | nil =>
      rw [List.prefix_nil.mp hfront]
      exact readString.eq_1
  | cons hquote hescape _ ih =>
      rcases List.prefix_cons_iff.mp hfront with rfl | ⟨front', rfl, hrest⟩
      · exact readString.eq_1
      · rw [readString_cons hquote hescape, ih hrest]
        rfl
  | escape _ ih =>
      rcases List.prefix_cons_iff.mp hfront with rfl | ⟨front', rfl, hrest⟩
      · exact readString.eq_1
      · rcases List.prefix_cons_iff.mp hrest with rfl | ⟨front'', rfl, hrest'⟩
        · rw [readString.eq_def]
          rfl
        · rw [readString_escape, ih hrest']
          rfl

theorem readString_eq_some_iff :
    readString text = some s ↔ Enclosed s ∧ ∃ rest, text = s ++ '"' :: rest := by
  constructor
  · intro h
    induction text using readString.induct generalizing s with
    | case1 => cases h
    | case2 text =>
        rw [readString_quote] at h
        cases h
        exact ⟨.nil, text, rfl⟩
    | case3 => cases h
    | case4 c text _ ih =>
        rw [readString_escape] at h
        obtain ⟨s', hs', rfl⟩ := Option.map_eq_some_iff.mp h
        obtain ⟨henclosed, rest, rfl⟩ := ih hs'
        exact ⟨henclosed.escape, rest, rfl⟩
    | case5 c text hquote hescape ih =>
        rw [readString_cons hquote hescape] at h
        obtain ⟨s', hs', rfl⟩ := Option.map_eq_some_iff.mp h
        obtain ⟨henclosed, rest, rfl⟩ := ih hs'
        exact ⟨henclosed.cons hquote hescape, rest, rfl⟩
  · rintro ⟨h, rest, rfl⟩
    exact readString_enclosed h rest

end ReadString

section Search

variable {key : List Char} {pieces rest : List Token}

theorem exists_word_of_valueAt (h : valueAt key pieces = some rest) :
    ∃ behind, pieces.dropWhile (· ≠ .word key) = .word key :: behind ∧
      (afterColon behind).or (valueAt key behind) = some rest := by
  induction pieces with
  | nil => cases h
  | cons piece pieces ih =>
      by_cases hpiece : piece = .word key
      · subst hpiece
        exact ⟨pieces, List.dropWhile_cons_of_neg (by simp), by rw [← valueAt_key, h]⟩
      · rw [valueAt, if_neg hpiece] at h
        rw [List.dropWhile_cons_of_pos (by simpa using hpiece)]
        exact ih h

theorem skipSpace_render_append (tail : List Char) (h : pieces.dropWhile isSpacePiece ≠ []) :
    skipSpace (render '"' pieces ++ tail) =
      render '"' (pieces.dropWhile isSpacePiece) ++ tail := by
  have hskip : (render '"' pieces).dropWhile isSpace = _ := skipSpace_render
  have hlength := (List.length_pos_iff.mpr h).trans_le (length_le_render (q := '"'))
  rw [skipSpace, List.dropWhile_append, hskip, if_neg]
  rw [List.isEmpty_iff]
  exact List.length_pos_iff.mp hlength

theorem skipSpace_of_strip (h : strip pieces = []) (c : Char) (text : List Char)
    (hc : isSpace c = false) : skipSpace (render '"' pieces ++ c :: text) = c :: text := by
  induction pieces with
  | nil => exact List.dropWhile_cons_of_neg (by simp [hc])
  | cons piece pieces ih =>
      rcases hspace : isSpacePiece piece with _ | _
      · rw [strip, List.filter_cons_of_pos (by simp [hspace])] at h
        cases h
      · rw [strip, List.filter_cons_of_neg (by simp [hspace])] at h
        cases piece with
        | mark d =>
            have hd : isSpace d = true := hspace
            rw [render_mark, List.cons_append, skipSpace, List.dropWhile_cons_of_pos hd]
            exact ih h
        | word s => cases hspace

section Loop

variable {pattern text pos pos' : List Char} {fuel : Nat}

theorem stringFieldLoop_value {start : List Char} (hafter : after pattern text = some pos)
    (hcolon : skipSpace pos = ':' :: pos') (hstart : skipSpace pos' = '"' :: start) :
    stringFieldLoop pattern (fuel + 1) text = readString start := by
  simp [stringFieldLoop, hafter, hcolon, hstart]

theorem stringFieldLoop_other {d : Char} (hafter : after pattern text = some pos)
    (hnext : skipSpace pos = d :: pos') (hd : d ≠ ':') :
    stringFieldLoop pattern (fuel + 1) text = stringFieldLoop pattern fuel (d :: pos') := by
  simp [stringFieldLoop, hafter, hnext, hd]

end Loop

theorem stringFieldLoop_open {c : Char} {k : List Char} (hkey : '"' ∉ c :: k)
    (hproper : ∀ piece ∈ pieces, piece.Proper '"') (hmark : Piece.mark c ∉ pieces)
    (hvalue : valueAt (c :: k) pieces = some rest) (hrest : strip rest = [])
    {fuel : Nat} (hfuel : pieces.length < fuel) (text : List Char) :
    stringFieldLoop (quote '"' (c :: k)) fuel (render '"' pieces ++ '"' :: text) =
      readString text := by
  induction fuel generalizing pieces with
  | zero => omega
  | succ fuel ih =>
      obtain ⟨behind, hdrop, hbehind⟩ := exists_word_of_valueAt hvalue
      have hsuffix : .word (c :: k) :: behind <:+ pieces := hdrop ▸ List.dropWhile_suffix _
      have hafter := after_render hkey hproper hmark
      rw [hdrop, List.tail?_cons, Option.map_some] at hafter
      rcases hnext : behind.dropWhile isSpacePiece with _ | ⟨next, pieces'⟩
      · rw [afterColon_eq_none (by simp [hnext]), ← valueAt_dropWhile_space, hnext] at hbehind
        cases hbehind
      · have hskip := skipSpace_render_append ('"' :: text) (by rw [hnext]; simp)
        rw [hnext] at hskip
        have hafter' := after_append hafter ('"' :: text)
        have hbehind' : next :: pieces' <:+ behind := hnext ▸ List.dropWhile_suffix _
        have hrest' := hbehind'.trans ((List.suffix_cons _ _).trans hsuffix)
        by_cases hcolon : next = .mark ':'
        · subst hcolon
          rw [afterColon_eq_some hnext, Option.some_or, Option.some.injEq] at hbehind
          subst hbehind
          rw [render_mark, List.cons_append] at hskip
          exact stringFieldLoop_value hafter' hskip (skipSpace_of_strip hrest '"' text (by decide))
        · have hvalue' : valueAt (c :: k) (next :: pieces') = some rest := by
            rwa [afterColon_eq_none (by simp [hnext, hcolon]), Option.none_or,
              ← valueAt_dropWhile_space, hnext] at hbehind
          have hshort : (next :: pieces').length < fuel := by
            have hlength := hsuffix.length_le
            have hlength' := hbehind'.length_le
            rw [List.length_cons] at hlength
            omega
          have hloop := ih (fun piece hpiece => hproper piece (hrest'.subset hpiece))
            (fun hmem => hmark (hrest'.subset hmem)) hvalue' hshort
          have hfirst : next.first '"' ≠ ':' := by
            cases next with
            | mark d => exact fun hd => hcolon (congrArg Piece.mark hd)
            | word s => exact (by decide : '"' ≠ ':')
          rw [render_cons_first, List.cons_append] at hskip hloop
          rw [stringFieldLoop_other hafter' hskip hfirst, hloop]

end Search

end ZenOS.Compositor
