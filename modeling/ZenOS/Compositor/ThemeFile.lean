import ZenOS.Compositor.KeybindsStrings

/-!
`wallpaper.c`: the wallpaper path of `theme.json`.
-/

namespace ZenOS.Compositor

open ZenOS.Library.QuotedText ZenOS.Library.Json

/-- The text behind a character that has to come next. -/
def stepOver (c : Char) : List Char → Option (List Char)
  | [] => none
  | d :: pos => if d = c then some pos else none

/-- `parse_wallpaper_path_from_theme` on a file, which may be missing.  Its loop for the
closing quote is that of `extract_string_field`. -/
def parseWallpaperPathFromTheme (file : Option (List Char)) : Option (List Char) := do
  let content ← file
  let fsize := (String.ofList content).utf8ByteSize
  if fsize = 0 ∨ 65536 < fsize then none
  let buf := content.takeWhile (· ≠ '\x00')
  let pos ← after (quote '"' "wallpaper_path".toList) buf
  let pos ← stepOver ':' (skipSpace pos)
  let start ← stepOver '"' (skipSpace pos)
  readString start

/-- A theme file in which `raw` is the literal of the wallpaper path. -/
structure ThemeFile (raw : List Char) where
  front : List Char
  space : List Char
  space' : List Char
  behind : List Char
  spaces : ∀ c ∈ space ++ space', isSpace c = true
  no_nul : '\x00' ∉ front ++ behind

namespace ThemeFile

variable {raw : List Char} (t : ThemeFile raw)

/-- What stands behind the name of the member. -/
def member : List Char :=
  t.space ++ ':' :: (t.space' ++ '"' :: (raw ++ '"' :: t.behind))

def text : List Char :=
  t.front ++ (quote '"' "wallpaper_path".toList ++ t.member)

/-- Nowhere before does the name stand in quotes. -/
def NamedFirst : Prop :=
  after (quote '"' "wallpaper_path".toList) t.text = some t.member

instance : Decidable t.NamedFirst :=
  inferInstanceAs (Decidable (_ = _))

end ThemeFile

/-- The first place of a text with the name in quotes is a member with the text `s` between
the quotes of its value. -/
def FirstMemberReads (text s : List Char) : Prop :=
  ∃ space space' rest, (∀ c ∈ space ++ space', isSpace c = true) ∧ Enclosed s ∧
    after (quote '"' "wallpaper_path".toList) text =
      some (space ++ ':' :: (space' ++ '"' :: (s ++ '"' :: rest)))

section

variable {raw s text pos : List Char}

theorem stepOver_eq_some_iff {c : Char} : stepOver c text = some pos ↔ text = c :: pos := by
  cases text with
  | nil => simp [stepOver]
  | cons d text =>
      rw [stepOver]
      split
      next hd => simp [hd]
      next hd => simp [hd]

theorem skipSpace_eq_cons_iff {c : Char} (hc : isSpace c = false) :
    skipSpace text = c :: pos ↔
      ∃ space, (∀ d ∈ space, isSpace d = true) ∧ text = space ++ c :: pos := by
  constructor
  · intro h
    refine ⟨text.takeWhile isSpace, fun d hd => List.mem_takeWhile_imp hd, ?_⟩
    rw [← h]
    exact List.takeWhile_append_dropWhile.symm
  · rintro ⟨space, hspace, rfl⟩
    rw [skipSpace, List.dropWhile_append_of_pos hspace, List.dropWhile_cons_of_neg (by simp [hc])]

theorem parseWallpaperPathFromTheme_of_text (hnul : '\x00' ∉ text) (hne : text ≠ [])
    (hsize : (String.ofList text).utf8ByteSize ≤ 65536) :
    parseWallpaperPathFromTheme (some text) =
      (after (quote '"' "wallpaper_path".toList) text).bind fun pos =>
        (stepOver ':' (skipSpace pos)).bind fun pos =>
          (stepOver '"' (skipSpace pos)).bind readString := by
  have hbuf : text.takeWhile (· ≠ '\x00') = text := by
    refine List.takeWhile_eq_self_iff.mpr fun c hc => ?_
    rw [decide_eq_true_eq]
    rintro rfl
    exact hnul hc
  have hempty : (String.ofList text).utf8ByteSize ≠ 0 := by
    rw [Ne, String.utf8ByteSize_eq_zero_iff, String.ofList_eq_empty_iff]
    exact hne
  simp only [parseWallpaperPathFromTheme, Option.bind_eq_bind, Option.bind_some, hbuf]
  rw [if_neg (by omega)]

theorem parseWallpaperPathFromTheme_eq_some_iff (hnul : '\x00' ∉ text) (hne : text ≠ [])
    (hsize : (String.ofList text).utf8ByteSize ≤ 65536) :
    parseWallpaperPathFromTheme (some text) = some s ↔ FirstMemberReads text s := by
  rw [parseWallpaperPathFromTheme_of_text hnul hne hsize]
  constructor
  · intro h
    obtain ⟨pos, hafter, h⟩ := Option.bind_eq_some_iff.mp h
    obtain ⟨pos', hcolon, h⟩ := Option.bind_eq_some_iff.mp h
    obtain ⟨start, hquote, hread⟩ := Option.bind_eq_some_iff.mp h
    obtain ⟨space, hspace, rfl⟩ :=
      (skipSpace_eq_cons_iff (by decide)).mp (stepOver_eq_some_iff.mp hcolon)
    obtain ⟨space', hspace', rfl⟩ :=
      (skipSpace_eq_cons_iff (by decide)).mp (stepOver_eq_some_iff.mp hquote)
    obtain ⟨henclosed, rest, rfl⟩ := readString_eq_some_iff.mp hread
    exact ⟨space, space', rest, List.forall_mem_append.mpr ⟨hspace, hspace'⟩, henclosed, hafter⟩
  · rintro ⟨space, space', rest, hspaces, henclosed, hafter⟩
    obtain ⟨hspace, hspace'⟩ := List.forall_mem_append.mp hspaces
    refine Option.bind_eq_some_iff.mpr ⟨_, hafter, ?_⟩
    refine Option.bind_eq_some_iff.mpr ⟨_, stepOver_eq_some_iff.mpr
      ((skipSpace_eq_cons_iff (by decide)).mpr ⟨space, hspace, rfl⟩), ?_⟩
    refine Option.bind_eq_some_iff.mpr ⟨_, stepOver_eq_some_iff.mpr
      ((skipSpace_eq_cons_iff (by decide)).mpr ⟨space', hspace', rfl⟩), ?_⟩
    exact readString_enclosed henclosed rest

theorem ThemeFile.parse_iff (hliteral : IsLiteral raw s) (t : ThemeFile raw)
    (hsize : (String.ofList t.text).utf8ByteSize ≤ 65536) :
    parseWallpaperPathFromTheme (some t.text) = some s ↔
      t.NamedFirst ∧ '\\' ∉ raw ∨ ¬ t.NamedFirst ∧ FirstMemberReads t.text s := by
  have hnul : '\x00' ∉ t.text := by
    have hraw : '\x00' ∉ raw := fun h => absurd (hliteral.no_control _ h) (by decide)
    have hspaces : ∀ space : List Char, (∀ c ∈ space, isSpace c = true) → '\x00' ∉ space :=
      fun space h hmem => absurd (h _ hmem) (by decide)
    obtain ⟨hspace, hspace'⟩ := List.forall_mem_append.mp t.spaces
    have hothers := t.no_nul
    simp only [List.mem_append, not_or] at hothers
    simp [ThemeFile.text, ThemeFile.member, quote, hraw, hspaces _ hspace, hspaces _ hspace',
      hothers]
  have hne : t.text ≠ [] := by simp [ThemeFile.text, quote]
  have hreads := fun s => parseWallpaperPathFromTheme_eq_some_iff (s := s) hnul hne hsize
  by_cases hfirst : t.NamedFirst
  · have hraw : parseWallpaperPathFromTheme (some t.text) = some raw :=
      (hreads raw).mpr ⟨t.space, t.space', t.behind, t.spaces, hliteral.enclosed, hfirst⟩
    rw [hraw, Option.some.injEq, hliteral.eq_iff]
    simp [hfirst]
  · rw [hreads]
    simp [hfirst]

end

end ZenOS.Compositor
