import ZenOS.Compositor.ThemeFile

/-!
`theme.json` as a flat object of strings, of which one is the wallpaper path.
-/

namespace ZenOS.Compositor

open ZenOS.Library ZenOS.Library.QuotedText ZenOS.Library.Json

def wallpaperKey : List Char :=
  "wallpaper_path".toList

/-- A member as it is written: its name may have escapes, its value has none. -/
structure ThemeMember where
  name : List Char
  rawName : List Char
  value : List Char
  -- in front of the name, behind it, in front of the value and behind it
  space₁ : List Char
  space₂ : List Char
  space₃ : List Char
  space₄ : List Char
  literal : IsLiteral rawName name
  plain : ∀ c ∈ value, isPlain c = true
  spaces : ∀ c ∈ space₁ ++ space₂ ++ space₃ ++ space₄, isSpace c = true

namespace ThemeMember

variable (m : ThemeMember)

/-- The member behind the quote that closes its name. -/
def tail (rest : List Char) : List Char :=
  m.space₂ ++ ':' :: (m.space₃ ++ '"' :: (m.value ++ '"' :: (m.space₄ ++ rest)))

def text (rest : List Char) : List Char :=
  m.space₁ ++ '"' :: (m.rawName ++ '"' :: m.tail rest)

/-- The name, as it is written and with the quote in front of it, ends in the key in quotes. -/
def Named : Prop :=
  '"' :: wallpaperKey <:+ '"' :: m.rawName

instance : Decidable m.Named :=
  inferInstanceAs (Decidable (_ <:+ _))

end ThemeMember

/-- The text behind a member: the other members, and the end of the file. -/
def behindMember (trail : List Char) : List ThemeMember → List Char
  | [] => '\x7d' :: trail
  | m :: members => ',' :: m.text (behindMember trail members)

/-- An object in which exactly one member is named `wallpaper_path`. -/
structure ThemeObject where
  before : List ThemeMember
  wallpaper : ThemeMember
  behind : List ThemeMember
  lead : List Char
  trail : List Char
  named : wallpaper.name = wallpaperKey
  others : ∀ m ∈ before ++ behind, m.name ≠ wallpaperKey
  spaces : ∀ c ∈ lead ++ trail, isSpace c = true

def ThemeObject.members (o : ThemeObject) : List ThemeMember :=
  o.before ++ o.wallpaper :: o.behind

/-- The file of an object. -/
def themeText (lead trail : List Char) : List ThemeMember → List Char
  | [] => lead ++ '\x7b' :: '\x7d' :: trail
  | m :: members => lead ++ '\x7b' :: m.text (behindMember trail members)

def ThemeObject.text (o : ThemeObject) : List Char :=
  themeText o.lead o.trail o.members

/-- What the scanner takes for the path: the search for the key ends at the first member that
has it in quotes. -/
def foundValue : List ThemeMember → Option (List Char)
  | [] => none
  | m :: members =>
      if m.Named then some m.value
      else if m.value = wallpaperKey then none
      else foundValue members

/-- What `parse_wallpaper_path_from_theme` does behind the key. -/
def valueBehind (pos : List Char) : Option (List Char) :=
  (stepOver ':' (skipSpace pos)).bind fun pos =>
    (stepOver '"' (skipSpace pos)).bind readString

/-- The search for the key, and what follows it. -/
def lookupWallpaper (buf : List Char) : Option (List Char) :=
  (after (quote '"' wallpaperKey) buf).bind valueBehind

section Search

variable {raw trail space : List Char}

theorem quote_notMem_of_spaces (h : ∀ c ∈ space, isSpace c = true) : '"' ∉ space :=
  fun hmem => absurd (h _ hmem) (by decide)

theorem lookupWallpaper_gap {c : Char} (hc : c ∉ wallpaperKey) (hquote : c ≠ '"')
    {space space' : List Char} (hspace : '"' ∉ space) (hspace' : '"' ∉ space')
    (text : List Char) :
    lookupWallpaper ('"' :: (space ++ c :: (space' ++ '"' :: text))) =
      lookupWallpaper ('"' :: text) := by
  have hgap : '"' ∉ space ++ c :: space' := by
    simp [hspace, hspace', Ne.symm hquote]
  have hne : space ++ c :: space' ≠ wallpaperKey := by
    intro h
    rw [← h] at hc
    simp at hc
  have hsplit : space ++ c :: (space' ++ '"' :: text) =
      (space ++ c :: space') ++ '"' :: text := by simp
  rw [lookupWallpaper, hsplit, after_between (by decide) hgap, if_neg hne]
  rfl

theorem after_name (h : Enclosed raw) (text : List Char) :
    after (quote '"' wallpaperKey) ('"' :: (raw ++ '"' :: text)) =
      if '"' :: wallpaperKey <:+ '"' :: raw then some text
      else after (quote '"' wallpaperKey) ('"' :: text) := by
  induction hn : raw.length using Nat.strongRecOn generalizing raw with
  | _ n ih =>
      by_cases hquote : '"' ∈ raw
      · obtain ⟨s, raw', rfl, hs⟩ := List.eq_append_cons_of_mem hquote
        obtain ⟨⟨front, rfl⟩, hraw'⟩ := h.of_quote hs
        have hne : front ++ ['\\'] ≠ wallpaperKey := by
          intro heq
          have hlast := congrArg List.getLast? heq
          rw [List.getLast?_concat] at hlast
          cases hlast
        have hsuffix : '"' :: wallpaperKey <:+ '"' :: (front ++ ['\\'] ++ '"' :: raw') ↔
            '"' :: wallpaperKey <:+ '"' :: raw' := by
          rw [← List.cons_append]
          exact suffix_append_quote_iff (by decide)
        have hshort : raw'.length < n := by
          rw [← hn, List.length_append, List.length_cons]
          omega
        have hassoc : front ++ ['\\'] ++ '"' :: raw' ++ '"' :: text =
            front ++ ['\\'] ++ '"' :: (raw' ++ '"' :: text) := by simp
        rw [hassoc, after_between (by decide) hs, if_neg hne,
          ih raw'.length hshort hraw' rfl]
        simp only [hsuffix]
      · rw [after_between (by decide) hquote]
        simp only [suffix_quote_iff hquote]

theorem valueBehind_tail (m : ThemeMember) (rest : List Char) :
    valueBehind (m.tail rest) = some m.value := by
  have hspaces := m.spaces
  simp only [List.mem_append] at hspaces
  have hvalue : Enclosed m.value :=
    .of_no_quote (fun h => absurd (m.plain _ h) (by decide))
      fun h => absurd (m.plain _ h) (by decide)
  rw [valueBehind, ThemeMember.tail,
    stepOver_eq_some_iff.mpr ((skipSpace_eq_cons_iff (by decide)).mpr ⟨m.space₂, by simp_all, rfl⟩),
    Option.bind_some,
    stepOver_eq_some_iff.mpr ((skipSpace_eq_cons_iff (by decide)).mpr ⟨m.space₃, by simp_all, rfl⟩),
    Option.bind_some, readString_enclosed hvalue]

theorem valueBehind_behindMember (hspace : ∀ c ∈ space, isSpace c = true)
    (members : List ThemeMember) : valueBehind (space ++ behindMember trail members) = none := by
  have hskip : ∀ {c : Char} {text : List Char}, isSpace c = false → c ≠ ':' →
      valueBehind (space ++ c :: text) = none := by
    intro c text hc hcolon
    rw [valueBehind, (skipSpace_eq_cons_iff hc).mpr ⟨space, hspace, rfl⟩, stepOver, if_neg hcolon]
    rfl
  cases members with
  | nil => exact hskip (by decide) (by decide)
  | cons m members => exact hskip (by decide) (by decide)

theorem lookupWallpaper_member (m : ThemeMember) (members : List ThemeMember) :
    lookupWallpaper ('"' :: (m.rawName ++ '"' :: m.tail (behindMember trail members))) =
      if m.Named then some m.value
      else if m.value = wallpaperKey then none
      else lookupWallpaper ('"' :: (m.space₄ ++ behindMember trail members)) := by
  have hspaces := m.spaces
  simp only [List.forall_mem_append] at hspaces
  obtain ⟨⟨⟨-, hspace₂⟩, hspace₃⟩, hspace₄⟩ := hspaces
  have hvalue : '"' ∉ m.value := fun h => absurd (m.plain _ h) (by decide)
  have hgap : lookupWallpaper ('"' :: m.tail (behindMember trail members)) =
      lookupWallpaper ('"' :: (m.value ++ '"' ::
        (m.space₄ ++ behindMember trail members))) :=
    lookupWallpaper_gap (by decide) (by decide) (quote_notMem_of_spaces hspace₂)
      (quote_notMem_of_spaces hspace₃) _
  have hname := after_name m.literal.enclosed (m.tail (behindMember trail members))
  change _ = if m.Named then _ else _ at hname
  rw [lookupWallpaper, hname]
  split
  · exact valueBehind_tail m _
  · rw [← lookupWallpaper, hgap, lookupWallpaper, after_between (by decide) hvalue]
    split
    · exact valueBehind_behindMember hspace₄ members
    · rfl

theorem lookupWallpaper_behindMember (hspace : ∀ c ∈ space, isSpace c = true)
    (htrail : ∀ c ∈ trail, isSpace c = true) (members : List ThemeMember) :
    lookupWallpaper ('"' :: (space ++ behindMember trail members)) =
      foundValue members := by
  induction members generalizing space with
  | nil =>
      have hlast : '"' ∉ space ++ behindMember trail [] := by
        simp [behindMember, quote_notMem_of_spaces hspace, quote_notMem_of_spaces htrail]
      rw [lookupWallpaper, after_last hlast]
      rfl
  | cons m members ih =>
      have hspaces := m.spaces
      simp only [List.forall_mem_append] at hspaces
      obtain ⟨⟨⟨hspace₁, -⟩, -⟩, hspace₄⟩ := hspaces
      have hgap : lookupWallpaper ('"' :: (space ++ behindMember trail (m :: members))) =
          lookupWallpaper ('"' :: (m.rawName ++ '"' ::
            m.tail (behindMember trail members))) :=
        lookupWallpaper_gap (by decide) (by decide) (quote_notMem_of_spaces hspace)
          (quote_notMem_of_spaces hspace₁) _
      rw [hgap, lookupWallpaper_member, ih hspace₄, foundValue]

theorem lookupWallpaper_themeText {lead : List Char} (hlead : ∀ c ∈ lead, isSpace c = true)
    (htrail : ∀ c ∈ trail, isSpace c = true) (members : List ThemeMember) :
    lookupWallpaper (themeText lead trail members) =
      foundValue members := by
  cases members with
  | nil =>
      have hquote : '"' ∉ lead ++ ['\x7b', '\x7d'] ++ trail := by
        simp [quote_notMem_of_spaces hlead, quote_notMem_of_spaces htrail]
      have htext : themeText lead trail [] = (lead ++ ['\x7b', '\x7d'] ++ trail) ++ [] := by
        simp [themeText]
      rw [lookupWallpaper, htext, after_append_of_notMem hquote]
      rfl
  | cons m members =>
      have hspaces := m.spaces
      simp only [List.forall_mem_append] at hspaces
      obtain ⟨⟨⟨hspace₁, -⟩, -⟩, hspace₄⟩ := hspaces
      have hquote : '"' ∉ lead ++ '\x7b' :: m.space₁ := by
        simp [quote_notMem_of_spaces hlead, quote_notMem_of_spaces hspace₁]
      have htext : themeText lead trail (m :: members) =
          (lead ++ '\x7b' :: m.space₁) ++ '"' ::
            (m.rawName ++ '"' :: m.tail (behindMember trail members)) := by
        simp [themeText, ThemeMember.text]
      rw [lookupWallpaper, htext, after_append_of_notMem hquote, ← lookupWallpaper,
        lookupWallpaper_member, lookupWallpaper_behindMember hspace₄ htrail, foundValue]

theorem foundValue_eq_some_iff {members : List ThemeMember} {value : List Char} :
    foundValue members = some value ↔ ∃ before m behind, members = before ++ m :: behind ∧
      (∀ m' ∈ before, ¬ m'.Named ∧ m'.value ≠ wallpaperKey) ∧ m.Named ∧ m.value = value := by
  induction members with
  | nil => simp [foundValue]
  | cons m members ih =>
      rw [foundValue]
      constructor
      · intro h
        split at h
        · next hnamed => exact ⟨[], m, members, rfl, by simp, hnamed, Option.some.inj h⟩
        split at h
        · cases h
        next hnamed hvalue =>
          obtain ⟨before, m', behind, rfl, hbefore, hm'⟩ := ih.mp h
          exact ⟨m :: before, m', behind, rfl,
            List.forall_mem_cons.mpr ⟨⟨hnamed, hvalue⟩, hbefore⟩, hm'⟩
      · rintro ⟨before, m', behind, hsplit, hbefore, hnamed, hvalue⟩
        cases before with
        | nil =>
            cases hsplit
            rw [if_pos hnamed, hvalue]
        | cons m'' before =>
            obtain ⟨rfl, rfl⟩ := List.cons.inj hsplit
            obtain ⟨⟨hother, hother'⟩, hbefore⟩ := List.forall_mem_cons.mp hbefore
            rw [if_neg hother, if_neg hother']
            exact ih.mpr ⟨before, m', behind, rfl, hbefore, hnamed, hvalue⟩

end Search

section Files

variable {trail : List Char}

theorem nul_notMem_of_spaces {space : List Char} (h : ∀ c ∈ space, isSpace c = true) :
    '\x00' ∉ space :=
  fun hmem => absurd (h _ hmem) (by decide)

theorem ThemeMember.nul_notMem_text (m : ThemeMember) {rest : List Char} (hrest : '\x00' ∉ rest) :
    '\x00' ∉ m.text rest := by
  have hspaces := m.spaces
  simp only [List.forall_mem_append] at hspaces
  obtain ⟨⟨⟨hspace₁, hspace₂⟩, hspace₃⟩, hspace₄⟩ := hspaces
  have hname : '\x00' ∉ m.rawName := fun h => absurd (m.literal.no_control _ h) (by decide)
  have hvalue : '\x00' ∉ m.value := fun h => absurd (m.plain _ h) (by decide)
  simp [ThemeMember.text, ThemeMember.tail, hname, hvalue, hrest, nul_notMem_of_spaces hspace₁,
    nul_notMem_of_spaces hspace₂, nul_notMem_of_spaces hspace₃, nul_notMem_of_spaces hspace₄]

theorem nul_notMem_behindMember (htrail : ∀ c ∈ trail, isSpace c = true)
    (members : List ThemeMember) : '\x00' ∉ behindMember trail members := by
  induction members with
  | nil => simp [behindMember, nul_notMem_of_spaces htrail]
  | cons m members ih => simp [behindMember, m.nul_notMem_text ih]

theorem ThemeObject.members_eq_cons (o : ThemeObject) : ∃ m members, o.members = m :: members := by
  apply List.exists_cons_of_ne_nil
  simp [ThemeObject.members]

theorem ThemeObject.parse_eq (o : ThemeObject)
    (hsize : (String.ofList o.text).utf8ByteSize ≤ 65536) :
    parseWallpaperPathFromTheme (some o.text) = foundValue o.members := by
  obtain ⟨hlead, htrail⟩ := List.forall_mem_append.mp o.spaces
  have hnul : '\x00' ∉ o.text := by
    obtain ⟨m, members, hmembers⟩ := o.members_eq_cons
    simp [ThemeObject.text, hmembers, themeText, nul_notMem_of_spaces hlead,
      m.nul_notMem_text (nul_notMem_behindMember htrail members)]
  have hne : o.text ≠ [] := by
    obtain ⟨m, members, hmembers⟩ := o.members_eq_cons
    simp [ThemeObject.text, hmembers, themeText]
  rw [← lookupWallpaper_themeText hlead htrail o.members]
  exact parseWallpaperPathFromTheme_of_text hnul hne hsize

/-- The first member that has the key in quotes, be it at the end of its name or as its value,
has it in its name, and has the wallpaper path as its value. -/
def ThemeObject.FoundFirst (o : ThemeObject) : Prop :=
  ∃ before m behind, o.members = before ++ m :: behind ∧
    (∀ m' ∈ before, ¬ m'.Named ∧ m'.value ≠ wallpaperKey) ∧
    m.Named ∧ m.value = o.wallpaper.value

/-- The other members are ignored exactly if none of them is found first. -/
theorem themeObject_read_iff (o : ThemeObject)
    (hsize : (String.ofList o.text).utf8ByteSize ≤ 65536) :
    parseWallpaperPathFromTheme (some o.text) = some o.wallpaper.value ↔ o.FoundFirst := by
  rw [o.parse_eq hsize, foundValue_eq_some_iff, ThemeObject.FoundFirst]

end Files

section Tokens

variable {trail : List Char}

def ThemeMember.token (m : ThemeMember) : List Json.Token :=
  memberTokens (codes m.name) (.str (codes m.value))

def ThemeMember.entry (m : ThemeMember) : List Nat × Value :=
  (codes m.name, .str (codes m.value))

theorem scan_spaces {space : List Char} (h : ∀ c ∈ space, isSpace c = true) (rest : List Char) :
    Json.scan .out (space ++ rest) = Json.scan .out rest :=
  scan_white (fun c hc => by simpa [isSpace, isWhite, or_assoc] using h c hc) rest

theorem ThemeMember.scan_text (m : ThemeMember) (rest : List Char) :
    Json.scan .out (m.text rest) = (Json.scan .out rest).map fun q =>
      (q.1, .str (codes m.name) :: .punct ':' :: .str (codes m.value) :: q.2) := by
  have hspaces := m.spaces
  simp only [List.forall_mem_append] at hspaces
  obtain ⟨⟨⟨hspace₁, hspace₂⟩, hspace₃⟩, hspace₄⟩ := hspaces
  have hname : '"' :: (m.rawName ++ '"' :: m.tail rest) =
      '"' :: (m.rawName ++ ['"']) ++ m.tail rest := by simp
  have hvalue : '"' :: (m.value ++ '"' :: (m.space₄ ++ rest)) =
      '"' :: (m.value ++ ['"']) ++ (m.space₄ ++ rest) := by simp
  rw [ThemeMember.text, scan_spaces hspace₁, hname, m.literal.scan_quoted, ThemeMember.tail,
    scan_spaces hspace₂, scan_punct (by decide), scan_spaces hspace₃, hvalue,
    (isLiteral_of_plain m.plain).scan_quoted, scan_spaces hspace₄, Option.map_map,
    Option.map_map]
  rfl

theorem scan_behindMember (htrail : ∀ c ∈ trail, isSpace c = true) (members : List ThemeMember) :
    Json.scan .out (behindMember trail members) =
      some (.out, members.flatMap ThemeMember.token ++ [.punct '\x7d']) := by
  induction members with
  | nil =>
      rw [behindMember, scan_punct (by decide), ← List.append_nil trail, scan_spaces htrail]
      rfl
  | cons m members ih =>
      rw [behindMember, scan_punct (by decide), m.scan_text, ih]
      rfl

theorem run_members (members : List ThemeMember) (entries : List (List Nat × Value))
    (k : List Nat) (v : Value) :
    Parser.run ⟨[.obj entries k], .more v⟩
        (members.flatMap ThemeMember.token ++ [.punct '\x7d']) =
      some ⟨[], .more (.obj (entries ++ (k, v) :: members.map ThemeMember.entry))⟩ := by
  induction members generalizing entries k v with
  | nil => rfl
  | cons m members ih =>
      rw [List.flatMap_cons, List.append_assoc, ThemeMember.token, run_member (scalar?_str _), ih]
      simp [ThemeMember.entry]

theorem ThemeObject.parse_text (o : ThemeObject) :
    Json.parse o.text = some (.obj (o.members.map ThemeMember.entry)) := by
  obtain ⟨hlead, htrail⟩ := List.forall_mem_append.mp o.spaces
  obtain ⟨m, members, hmembers⟩ := o.members_eq_cons
  have htokens : Json.tokens o.text = some (.punct '\x7b' :: .str (codes m.name) :: .punct ':' ::
      .str (codes m.value) :: (members.flatMap ThemeMember.token ++ [.punct '\x7d'])) := by
    rw [Json.tokens, ThemeObject.text, hmembers, themeText, scan_spaces hlead,
      scan_punct (by decide), m.scan_text, scan_behindMember htrail]
    simp [Mode.finish]
  rw [Json.parse, htokens, Option.bind_some, run_first_member (scalar?_str _), run_members,
    hmembers]
  rfl

end Tokens

section Examples

def plainMember (name value : List Char) (hname : name.all isPlain = true)
    (hvalue : value.all isPlain = true) : ThemeMember where
  name := name
  rawName := name
  value := value
  space₁ := [' ']
  space₂ := []
  space₃ := [' ']
  space₄ := []
  literal := isLiteral_of_plain (List.all_eq_true.mp hname)
  plain := List.all_eq_true.mp hvalue
  spaces := List.all_eq_true.mp (by decide)

/-- A theme whose other member has the key as its value. -/
def shadowedTheme : ThemeObject where
  before := [plainMember "label".toList wallpaperKey (by decide) (by decide)]
  wallpaper := plainMember wallpaperKey "/a.png".toList (by decide) (by decide)
  behind := []
  lead := []
  trail := ['\n']
  named := rfl
  others := by decide
  spaces := List.all_eq_true.mp (by decide)

theorem shadowed_path_is_lost :
    (String.ofList shadowedTheme.text).utf8ByteSize ≤ 65536 ∧
      parseWallpaperPathFromTheme (some shadowedTheme.text) ≠
        some shadowedTheme.wallpaper.value := by
  decide +kernel

/-- The theme with the two members in the other order. -/
def openTheme : ThemeObject where
  before := []
  wallpaper := plainMember wallpaperKey "/a.png".toList (by decide) (by decide)
  behind := [plainMember "label".toList wallpaperKey (by decide) (by decide)]
  lead := []
  trail := ['\n']
  named := rfl
  others := by decide
  spaces := List.all_eq_true.mp (by decide)

theorem themeObject_read_iff_open :
    parseWallpaperPathFromTheme (some openTheme.text) = some openTheme.wallpaper.value ↔
      openTheme.FoundFirst :=
  themeObject_read_iff openTheme (by decide +kernel)

end Examples

end ZenOS.Compositor
