import Mathlib.Data.List.DropRight

/-!
TAP 13, read line by line: what a line at the left margin says, and the message in the
diagnostic block that may follow it.
-/

namespace ZenOS.Library.Tap

abbrev Line := List Char

def isWhite (c : Char) : Bool :=
  c == ' ' || c == '\t'

inductive Directive where
  | todo
  | skip
  deriving DecidableEq, Repr

inductive Mark where
  | version (number : Nat)
  | plan (count : Nat)
  | test (passed : Bool) (number : Option Nat) (directive : Option Directive)
  | bailOut
  deriving DecidableEq, Repr

/-- A mark and the message of the diagnostic block behind it. -/
structure Item where
  mark : Mark
  message : Option Line
  deriving DecidableEq, Repr

section Marks

/-- A number at the beginning of a line, and the rest of the line. -/
def number? (line : Line) : Option Nat :=
  let digits := line.takeWhile Char.isDigit
  if digits = [] then none else some (Nat.ofDigitChars 10 digits 0)

/-- `\b` behind a letter. -/
def atWordEnd : Line → Bool
  | [] => true
  | c :: _ => !(c.isAlphanum || c == '_')

/-- The directive is what a comment at the end of the line begins with, in any case. -/
def directive? (line : Line) : Option Directive :=
  let comment := (line.dropWhile (· != '#')).tail
  let word := (comment.dropWhile isWhite).map Char.toUpper
  if "TODO".toList.isPrefixOf word then some .todo
  else if "SKIP".toList.isPrefixOf word then some .skip
  else none

/-- A test line behind its `ok`. -/
def test? (passed : Bool) (tail : Line) : Option Mark :=
  if atWordEnd tail then
    some (.test passed (number? (tail.dropWhile isWhite)) (directive? tail))
  else none

def plan? (tail : Line) : Option Mark :=
  let behind := (tail.dropWhile Char.isDigit).dropWhile isWhite
  if behind.head?.all (· == '#') then (number? tail).map .plan else none

def mark? (line : Line) : Option Mark :=
  ((line.dropPrefix? "not ok".toList).bind (test? false)) <|>
  ((line.dropPrefix? "ok".toList).bind (test? true)) <|>
  ((line.dropPrefix? "1..".toList).bind plan?) <|>
  ((line.dropPrefix? "TAP version ".toList).bind fun tail => (number? tail).map .version) <|>
  ((line.dropPrefix? "Bail out!".toList).map fun _ => .bailOut)

end Marks

section Blocks

def endsWord (rest : List Char) : Bool :=
  rest.head?.all isWhite

/-- The characters of YAML that do not break a line. -/
def isPrintable (c : Char) : Bool :=
  let n := c.toNat
  n == 0x9 || (0x20 ≤ n && n ≤ 0x7E) || n == 0x85 || (0xA0 ≤ n && n ≤ 0xD7FF) ||
    (0xE000 ≤ n && n ≤ 0xFFFD && n != 0xFEFF) || 0x10000 ≤ n

/-- Behind the character `prev`, a plain scalar goes on to the end of the line. -/
def plainBehind (prev : Char) : List Char → Bool
  | [] => true
  | c :: rest =>
      isPrintable c && !(c == '#' && isWhite prev) && !(c == ':' && endsWord rest) &&
        plainBehind c rest

def startsPlain : List Char → Bool
  | [] => false
  | c :: rest =>
      if c ∈ ['-', '?', ':'] then !endsWord rest
      else !isWhite c && c ∉ [',', '[', ']', '\x7b', '\x7d', '#', '&', '*', '!', '|', '>',
        '\'', '"', '%', '@', '\x60']

/-- A plain scalar of YAML, on one line, that begins and ends with something visible. -/
def isPlain (text : List Char) : Bool :=
  startsPlain text && plainBehind ' ' text && text.rdropWhile isWhite == text

/-- The text of a value that is written as a plain scalar. -/
def scalar? (value : Line) : Option Line :=
  let text := (value.dropWhile isWhite).rdropWhile isWhite
  if value.head?.any isWhite && isPlain text then some text else none

/-- The block has one line, with the key `message`. -/
def message? : List Line → Option Line
  | [line] => ((line.dropWhile isWhite).dropPrefix? "message:".toList).bind scalar?
  | _ => none

def isIndented (line : Line) : Bool :=
  line.head?.any isWhite

def opensBlock (line : Line) : Bool :=
  isIndented line && "---".toList.isPrefixOf (line.dropWhile isWhite)

def closesBlock (line : Line) : Bool :=
  isIndented line && (line.dropWhile isWhite).rdropWhile isWhite == "...".toList

/-- The lines of a block up to the one that closes it. -/
def blockBody : List Line → Option (List Line)
  | [] => none
  | line :: rest =>
      if closesBlock line then some []
      else if isIndented line then (blockBody rest).map (line :: ·)
      else none

/-- The message in the block that begins here. -/
def blockMessage : List Line → Option Line
  | [] => none
  | line :: rest => if opensBlock line then (blockBody rest).bind message? else none

end Blocks

def items : List Line → List Item
  | [] => []
  | line :: rest =>
      match mark? line with
      | some mark => ⟨mark, blockMessage rest⟩ :: items rest
      | none => items rest

section TestLines

variable (n : Nat) (rest : Line)

theorem isDigit_of_mem_toDigits {c : Char} (h : c ∈ Nat.toDigits 10 n) : c.isDigit = true :=
  Nat.isDigit_of_mem_toDigits (by decide) (by decide) h

theorem number?_toDigits {rest : Line} (hrest : rest.takeWhile Char.isDigit = []) :
    number? (Nat.toDigits 10 n ++ rest) = some n := by
  have htake : (Nat.toDigits 10 n ++ rest).takeWhile Char.isDigit = Nat.toDigits 10 n := by
    rw [List.takeWhile_append_of_pos fun c hc => isDigit_of_mem_toDigits n hc, hrest,
      List.append_nil]
  rw [number?, htake, if_neg Nat.toDigits_ne_nil, Nat.ofDigitChars_ten_toDigits]

theorem dropWhile_isWhite_toDigits :
    (' ' :: (Nat.toDigits 10 n ++ rest)).dropWhile isWhite = Nat.toDigits 10 n ++ rest := by
  have hne : Nat.toDigits 10 n ≠ [] := Nat.toDigits_ne_nil
  obtain ⟨c, digits, hcons⟩ := List.exists_cons_of_ne_nil hne
  have hc : isWhite c = false := by
    have hdigit : c.isDigit = true := isDigit_of_mem_toDigits n (hcons ▸ List.mem_cons_self)
    rw [Bool.eq_false_iff]
    intro hwhite
    simp only [isWhite, Bool.or_eq_true, beq_iff_eq] at hwhite
    rcases hwhite with rfl | rfl <;> cases hdigit
  rw [hcons, List.cons_append, List.dropWhile_cons_of_pos rfl,
    List.dropWhile_cons_of_neg (by simp [hc])]

theorem directive?_append {before : Line} (h : '#' ∉ before) :
    directive? (before ++ rest) = directive? rest := by
  have hbefore : ∀ c ∈ before, (c != '#') = true := by
    intro c hc
    rw [bne_iff_ne]
    rintro rfl
    exact h hc
  rw [directive?, directive?, List.dropWhile_append_of_pos hbefore]

theorem test?_numbered (passed : Bool) :
    test? passed (' ' :: (Nat.toDigits 10 n ++ ' ' :: rest)) =
      some (.test passed (some n) (directive? rest)) := by
  have hno : '#' ∉ ' ' :: (Nat.toDigits 10 n ++ [' ']) := by
    intro h
    simp only [List.mem_cons, List.mem_append, List.not_mem_nil, or_false] at h
    rcases h with h | h | h
    · cases h
    · cases isDigit_of_mem_toDigits n h
    · cases h
  have hsplit : ' ' :: (Nat.toDigits 10 n ++ ' ' :: rest) =
      (' ' :: (Nat.toDigits 10 n ++ [' '])) ++ rest := by
    simp
  have hblank : (' ' :: rest).takeWhile Char.isDigit = [] := rfl
  have hend : atWordEnd (' ' :: (Nat.toDigits 10 n ++ ' ' :: rest)) = true := rfl
  rw [test?, if_pos hend, dropWhile_isWhite_toDigits, number?_toDigits n hblank, hsplit,
    directive?_append rest hno]

variable {rest} {mark : Mark}

theorem mark?_ok (h : test? true rest = some mark) : mark? ("ok".toList ++ rest) = some mark := by
  have hnot : ("ok".toList ++ rest).dropPrefix? "not ok".toList = none := rfl
  have hok : ("ok".toList ++ rest).dropPrefix? "ok".toList = some rest :=
    List.dropPrefix?_append_of_beq rest (beq_self_eq_true _)
  rw [mark?, hnot, hok, Option.bind_none, Option.bind_some, h]
  rfl

theorem mark?_notOk (h : test? false rest = some mark) :
    mark? ("not ok".toList ++ rest) = some mark := by
  have hnot : ("not ok".toList ++ rest).dropPrefix? "not ok".toList = some rest :=
    List.dropPrefix?_append_of_beq rest (beq_self_eq_true _)
  rw [mark?, hnot, Option.bind_some, h]
  rfl

theorem mark?_plan (n : Nat) :
    mark? ("1..".toList ++ Nat.toDigits 10 n) = some (.plan n) := by
  have hnot : ("1..".toList ++ Nat.toDigits 10 n).dropPrefix? "not ok".toList = none := rfl
  have hok : ("1..".toList ++ Nat.toDigits 10 n).dropPrefix? "ok".toList = none := rfl
  have hplan : ("1..".toList ++ Nat.toDigits 10 n).dropPrefix? "1..".toList =
      some (Nat.toDigits 10 n) :=
    List.dropPrefix?_append_of_beq _ (beq_self_eq_true _)
  have hbehind : (Nat.toDigits 10 n).dropWhile Char.isDigit = [] :=
    List.dropWhile_eq_nil_iff.mpr fun c hc => isDigit_of_mem_toDigits n hc
  have hnumber : number? (Nat.toDigits 10 n) = some n := by
    rw [← List.append_nil (Nat.toDigits 10 n)]
    exact number?_toDigits n rfl
  rw [mark?, hnot, hok, hplan, Option.bind_none, Option.bind_none, Option.bind_some, plan?,
    hbehind, hnumber]
  rfl

end TestLines

section Lines

theorem mark?_of_isIndented {line : Line} (h : isIndented line = true) : mark? line = none := by
  rcases line with _ | ⟨c, rest⟩
  · cases h
  · simp only [isIndented, List.head?_cons, Option.any_some, isWhite, Bool.or_eq_true,
      beq_iff_eq] at h
    rcases h with rfl | rfl <;> rfl

theorem isIndented_of_opensBlock {line : Line} (h : opensBlock line = true) :
    isIndented line = true :=
  (Bool.and_eq_true_iff.mp h).1

theorem blockBody_append (lines : List Line) {rest : List Line}
    (hrest : ∀ line ∈ rest.head?, isIndented line = false) :
    blockBody (lines ++ rest) = blockBody lines := by
  induction lines with
  | nil =>
      rcases rest with _ | ⟨line, rest⟩
      · rfl
      · have hline : isIndented line = false := hrest line rfl
        have hcloses : closesBlock line = false := by rw [closesBlock, hline, Bool.false_and]
        simp [blockBody, hline, hcloses]
  | cons line lines ih => simp only [List.cons_append, blockBody, ih]

theorem blockMessage_append (lines : List Line) {rest : List Line}
    (hrest : ∀ line ∈ rest.head?, isIndented line = false) :
    blockMessage (lines ++ rest) = blockMessage lines := by
  rcases lines with _ | ⟨line, lines⟩
  · rcases rest with _ | ⟨line, rest⟩
    · rfl
    · have hopens : ¬ opensBlock line = true := by
        intro h
        have hline := hrest line rfl
        rw [isIndented_of_opensBlock h] at hline
        cases hline
      exact if_neg hopens
  · simp only [List.cons_append, blockMessage, blockBody_append lines hrest]

theorem items_cons_of_mark {line : Line} {mark : Mark} (h : mark? line = some mark)
    (rest : List Line) : items (line :: rest) = ⟨mark, blockMessage rest⟩ :: items rest := by
  rw [items, h]

theorem items_append_of_noMark {lines : List Line} (h : ∀ line ∈ lines, mark? line = none)
    (rest : List Line) : items (lines ++ rest) = items rest := by
  induction lines with
  | nil => rfl
  | cons line lines ih =>
      rw [List.cons_append, items, h line List.mem_cons_self]
      exact ih fun line hline => h line (List.mem_cons_of_mem _ hline)

theorem length_items (lines : List Line) :
    (items lines).length = lines.countP fun line => (mark? line).isSome := by
  induction lines with
  | nil => rfl
  | cons line lines ih =>
      rw [items, List.countP_cons]
      rcases mark? line with _ | mark
      · simpa using ih
      · simpa using ih

end Lines

section Chunks

/-- A marked line at the margin and the lines that belong to it. -/
abbrev Chunk := Line × List Line

def Chunk.Heads (c : Chunk) : Prop :=
  isIndented c.1 = false ∧ (mark? c.1).isSome

/-- The chunk is read as one item. -/
structure Chunk.Reads (c : Chunk) (item : Item) : Prop where
  mark : mark? c.1 = some item.mark
  message : blockMessage c.2 = item.message
  quiet : ∀ line ∈ c.2, mark? line = none

def linesOfChunks (chunks : List Chunk) : List Line :=
  chunks.flatMap fun c => c.1 :: c.2

theorem head?_linesOfChunks {chunks : List Chunk} (hheads : ∀ c ∈ chunks, c.Heads) :
    ∀ line ∈ (linesOfChunks chunks).head?, isIndented line = false := by
  intro line hline
  rcases chunks with _ | ⟨c, chunks⟩
  · cases hline
  · cases hline
    exact (hheads c List.mem_cons_self).1

theorem length_le_items {chunks : List Chunk} (hheads : ∀ c ∈ chunks, c.Heads) :
    chunks.length ≤ (items (linesOfChunks chunks)).length := by
  rw [length_items]
  induction chunks with
  | nil => exact Nat.le_refl _
  | cons c chunks ih =>
      have hhead : (mark? c.1).isSome = true := (hheads c List.mem_cons_self).2
      have htail := ih fun c hc => hheads c (List.mem_cons_of_mem _ hc)
      rw [linesOfChunks, List.flatMap_cons, ← linesOfChunks, List.countP_append,
        List.countP_cons, if_pos hhead, List.length_cons]
      omega

/-- As many items as there are chunks are read only when every chunk is read as one. -/
theorem items_linesOfChunks_iff {chunks : List Chunk} (hheads : ∀ c ∈ chunks, c.Heads)
    {expected : List Item} (hlength : expected.length = chunks.length) :
    items (linesOfChunks chunks) = expected ↔ List.Forall₂ Chunk.Reads chunks expected := by
  induction chunks generalizing expected with
  | nil =>
      cases List.eq_nil_of_length_eq_zero hlength
      exact iff_of_true rfl .nil
  | cons c chunks ih =>
      rcases expected with _ | ⟨item, expected⟩
      · cases hlength
      have hheads' : ∀ c ∈ chunks, c.Heads := fun c hc => hheads c (List.mem_cons_of_mem _ hc)
      have hlength' : expected.length = chunks.length := Nat.succ.inj hlength
      obtain ⟨mark, hmark⟩ := Option.isSome_iff_exists.mp (hheads c List.mem_cons_self).2
      have hitems : items (linesOfChunks (c :: chunks)) =
          ⟨mark, blockMessage c.2⟩ :: items (c.2 ++ linesOfChunks chunks) := by
        rw [← blockMessage_append c.2 (head?_linesOfChunks hheads')]
        exact items_cons_of_mark hmark _
      rw [hitems, List.forall₂_cons, List.cons.injEq]
      constructor
      · rintro ⟨rfl, hrest⟩
        have hquiet : ∀ line ∈ c.2, mark? line = none := by
          have hcount := length_items (c.2 ++ linesOfChunks chunks)
          have hle := length_le_items hheads'
          rw [length_items] at hle
          rw [hrest, hlength', List.countP_append] at hcount
          have hzero : c.2.countP (fun line => (mark? line).isSome) = 0 := by omega
          simpa [List.countP_eq_zero] using hzero
        rw [items_append_of_noMark hquiet] at hrest
        exact ⟨⟨hmark, rfl, hquiet⟩, (ih hheads' hlength').mp hrest⟩
      · rintro ⟨hreads, hrest⟩
        rw [items_append_of_noMark hreads.quiet]
        refine ⟨?_, (ih hheads' hlength').mpr hrest⟩
        rcases item with ⟨mark', message⟩
        cases hmark.symm.trans hreads.mark
        cases hreads.message
        rfl

end Chunks

section Messages

theorem isPlain_of_blockMessage {lines : List Line} {text : Line}
    (h : blockMessage lines = some text) : isPlain text = true := by
  rcases lines with _ | ⟨line, rest⟩
  · cases h
  rw [blockMessage] at h
  split at h
  · obtain ⟨body, -, hmessage⟩ := Option.bind_eq_some_iff.mp h
    rcases body with _ | ⟨line, _ | ⟨line', body⟩⟩
    · cases hmessage
    · obtain ⟨value, -, hscalar⟩ := Option.bind_eq_some_iff.mp hmessage
      rw [scalar?] at hscalar
      split at hscalar
      · next hplain =>
          cases hscalar
          exact (Bool.and_eq_true_iff.mp hplain).2
      · cases hscalar
    · cases hmessage
  · cases h

theorem isPrintable_of_plainBehind {prev : Char} {text : List Char}
    (h : plainBehind prev text = true) : ∀ c ∈ text, isPrintable c = true := by
  induction text generalizing prev with
  | nil => simp
  | cons c rest ih =>
      simp only [plainBehind, Bool.and_eq_true] at h
      exact List.forall_mem_cons.mpr ⟨h.1.1.1, ih h.2⟩

theorem newline_notMem_of_isPlain {text : List Char} (h : isPlain text = true) :
    '\n' ∉ text := by
  simp only [isPlain, Bool.and_eq_true] at h
  intro hmem
  cases isPrintable_of_plainBehind h.1.2 _ hmem

theorem plainBehind_colon (prev : Char) (before after : List Char) :
    plainBehind prev (before ++ ':' :: ' ' :: after) = false := by
  induction before generalizing prev with
  | nil => simp [plainBehind, endsWord, isWhite]
  | cons c before ih => rw [List.cons_append, plainBehind, ih, Bool.and_false]

theorem isPlain_colon (before after : List Char) :
    isPlain (before ++ ':' :: ' ' :: after) = false := by
  rw [isPlain, plainBehind_colon, Bool.and_false, Bool.false_and]

theorem closesBlock_of_not_dots {line : Line}
    (h : "...".toList.isPrefixOf (line.dropWhile isWhite) = false) : closesBlock line = false := by
  rw [closesBlock, Bool.and_eq_false_imp]
  intro _
  rw [beq_eq_false_iff_ne]
  intro hdots
  have hprefix := List.rdropWhile_prefix isWhite (line.dropWhile isWhite)
  rw [hdots, ← List.isPrefixOf_iff_prefix, h] at hprefix
  cases hprefix

theorem blockMessage_scalar {text : List Char} (h : isPlain text = true) :
    blockMessage ["  ---".toList, "  message: ".toList ++ text, "  ...".toList] = some text := by
  have hends : text.rdropWhile isWhite = text := by
    simp only [isPlain, Bool.and_eq_true] at h
    exact eq_of_beq h.2
  have hstarts : text.dropWhile isWhite = text := by
    rcases text with _ | ⟨c, text⟩
    · rfl
    · refine List.dropWhile_cons_of_neg fun hc => ?_
      simp only [isPlain, startsPlain, Bool.and_eq_true, hc] at h
      simp only [isWhite, Bool.or_eq_true, beq_iff_eq] at hc
      rcases hc with rfl | rfl <;> simp at h
  have hkey : ("  message: ".toList ++ text).dropWhile isWhite = "message: ".toList ++ text := rfl
  have hcloses : closesBlock ("  message: ".toList ++ text) = false :=
    closesBlock_of_not_dots rfl
  have hbody : blockBody ["  message: ".toList ++ text, "  ...".toList] =
      some ["  message: ".toList ++ text] := by
    rw [blockBody, hcloses]
    rfl
  have hvalue : ("message: ".toList ++ text).dropPrefix? "message:".toList =
      some (' ' :: text) := by
    have hsplit : "message: ".toList ++ text = "message:".toList ++ ' ' :: text := rfl
    rw [hsplit]
    exact List.dropPrefix?_append_of_beq _ (beq_self_eq_true _)
  have htext : (' ' :: text).dropWhile isWhite = text := hstarts
  have hopens : opensBlock "  ---".toList = true := by decide
  rw [blockMessage, if_pos hopens, hbody, Option.bind_some, message?, hkey, hvalue,
    Option.bind_some, scalar?, htext, hends, if_pos]
  exact Bool.and_eq_true_iff.mpr ⟨rfl, h⟩

theorem blockBody_append_two (lines : List Line) {x y : Line} (hx : isIndented x = true)
    (hx' : closesBlock x = false) (hy : isIndented y = true) (hy' : closesBlock y = false)
    (rest : List Line) :
    blockBody (lines ++ x :: y :: rest) = blockBody lines ∨
      (blockBody lines = none ∧
        ∀ body ∈ blockBody (lines ++ x :: y :: rest), 2 ≤ body.length) := by
  induction lines with
  | nil =>
      refine .inr ⟨rfl, ?_⟩
      rintro body hbody
      simp only [List.nil_append, blockBody, hx, hx', hy, hy', Bool.false_eq_true, if_false,
        if_true, Option.map_map, Option.mem_def, Option.map_eq_some_iff] at hbody
      obtain ⟨body, -, rfl⟩ := hbody
      exact Nat.le_add_left _ _
  | cons line lines ih =>
      rw [List.cons_append, blockBody, blockBody]
      split
      · exact .inl rfl
      split
      · rcases ih with heq | ⟨hnone, hlong⟩
        · exact .inl (congrArg _ heq)
        · refine .inr ⟨by rw [hnone]; rfl, ?_⟩
          rintro body hbody
          obtain ⟨body', hbody', rfl⟩ := Option.map_eq_some_iff.mp hbody
          exact Nat.le_succ_of_le (hlong body' hbody')
      · exact .inl rfl

theorem blockMessage_append_two {lines : List Line} (hlines : lines ≠ []) {x y : Line}
    (hx : isIndented x = true) (hx' : closesBlock x = false) (hy : isIndented y = true)
    (hy' : closesBlock y = false) (rest : List Line) :
    blockMessage (lines ++ x :: y :: rest) = blockMessage lines := by
  obtain ⟨line, lines, rfl⟩ := List.exists_cons_of_ne_nil hlines
  rw [List.cons_append, blockMessage, blockMessage]
  split
  · rcases blockBody_append_two lines hx hx' hy hy' rest with heq | ⟨hnone, hlong⟩
    · rw [heq]
    · rw [hnone, Option.bind_none, Option.bind_eq_none_iff]
      intro body hbody
      rcases body with _ | ⟨line, _ | ⟨line', body⟩⟩
      · rfl
      · cases Nat.le_of_succ_le_succ (hlong _ hbody)
      · rfl
  · rfl

end Messages

end ZenOS.Library.Tap
