import ZenOS.Library.ShellText

/-!
A strict reader of JSON texts: first the tokens, then the values.  Strings are lists of
code points, since an escape may stand for a lone surrogate.
-/

namespace ZenOS.Library.Json

open ShellText (digitValue)

inductive Token where
  | punct (c : Char)
  | str (s : List Nat)
  /-- whatever stands without quotes -/
  | word (w : List Char)
  deriving DecidableEq, Repr

/-- How far the current token has been read. -/
inductive Mode where
  | out
  | word (w : List Char)
  | str (s : List Nat)
  | escape (s : List Nat)
  /-- behind `\u` and `k` of its four digits -/
  | unicode (s : List Nat) (k n : Nat)
  deriving DecidableEq, Repr

def isWhite (c : Char) : Bool :=
  c == ' ' || c == '\t' || c == '\n' || c == '\r'

def isPunct (c : Char) : Bool :=
  c ∈ ['\x7b', '\x7d', '[', ']', ':', ',']

def isControl (c : Char) : Bool :=
  c.toNat < 0x20

def codes (text : List Char) : List Nat :=
  text.map Char.toNat

/-- Two escapes for the halves of a surrogate pair stand for one character. -/
def combine : List Nat → List Nat
  | hi :: lo :: rest =>
      if 0xD800 ≤ hi ∧ hi < 0xDC00 ∧ 0xDC00 ≤ lo ∧ lo < 0xE000 then
        (0x10000 + (hi - 0xD800) * 0x400 + (lo - 0xDC00)) :: combine rest
      else hi :: combine (lo :: rest)
  | s => s

def escaped? (c : Char) : Option Nat :=
  if c = '"' ∨ c = '\\' ∨ c = '/' then some c.toNat
  else if c = 'b' then some 8
  else if c = 't' then some 9
  else if c = 'n' then some 10
  else if c = 'f' then some 12
  else if c = 'r' then some 13
  else none

/-- One character, outside of strings. -/
def stepOut (c : Char) : Mode × List Token :=
  if isWhite c then (.out, [])
  else if c = '"' then (.str [], [])
  else if isPunct c then (.out, [.punct c])
  else (.word [c], [])

def step : Mode → Char → Option (Mode × List Token)
  | .out, c => some (stepOut c)
  | .word w, c =>
      if isWhite c || c == '"' || isPunct c then
        some ((stepOut c).1, .word w :: (stepOut c).2)
      else some (.word (w ++ [c]), [])
  | .str s, c =>
      if c = '"' then some (.out, [.str (combine s)])
      else if c = '\\' then some (.escape s, [])
      else if isControl c then none
      else some (.str (s ++ [c.toNat]), [])
  | .escape s, c =>
      if c = 'u' then some (.unicode s 0 0, [])
      else (escaped? c).map fun n => (.str (s ++ [n]), [])
  | .unicode s k n, c =>
      (digitValue c).map fun d =>
        (if k = 3 then .str (s ++ [16 * n + d]) else .unicode s (k + 1) (16 * n + d), [])

def scan : Mode → List Char → Option (Mode × List Token)
  | m, [] => some (m, [])
  | m, c :: rest =>
      (step m c).bind fun p => (scan p.1 rest).map fun q => (q.1, p.2 ++ q.2)

/-- The token that the end of the text completes. -/
def Mode.finish : Mode → Option (List Token)
  | .out => some []
  | .word w => some [.word w]
  | _ => none

def tokens (text : List Char) : Option (List Token) :=
  (scan .out text).bind fun p => p.1.finish.map (p.2 ++ ·)

inductive Value where
  | null
  | bool (b : Bool)
  | int (n : Int)
  | float (w : List Char)
  | str (s : List Nat)
  | arr (items : List Value)
  /-- the members in the order of the text, with all that have the same key -/
  | obj (members : List (List Nat × Value))

section Words

def isExponent : List Char → Bool
  | [] => true
  | e :: rest =>
      let digits := if rest.head?.any fun c => c == '+' || c == '-' then rest.tail else rest
      (e == 'e' || e == 'E') && digits ≠ [] && digits.all Char.isDigit

def isFraction : List Char → Bool
  | '.' :: rest => rest.takeWhile Char.isDigit ≠ [] && isExponent (rest.dropWhile Char.isDigit)
  | rest => isExponent rest

def number? (w : List Char) : Option Value :=
  let unsigned := if w.head? = some '-' then w.tail else w
  let digits := unsigned.takeWhile Char.isDigit
  let behind := unsigned.dropWhile Char.isDigit
  let n : Int := Nat.ofDigitChars 10 digits 0
  if digits = [] ∨ (digits.head? = some '0' ∧ digits ≠ ['0']) then none
  else if behind = [] then some (.int (if w.head? = some '-' then -n else n))
  else if isFraction behind then some (.float w)
  else none

def word? (w : List Char) : Option Value :=
  if w = "null".toList then some .null
  else if w = "true".toList then some (.bool true)
  else if w = "false".toList then some (.bool false)
  else if w ∈ ["NaN".toList, "Infinity".toList, "-Infinity".toList] then some (.float w)
  else number? w

end Words

inductive Frame where
  | arr (items : List Value)
  | obj (members : List (List Nat × Value)) (key : List Nat)

inductive Expect where
  | value
  | key (members : List (List Nat × Value))
  | colon (members : List (List Nat × Value)) (key : List Nat)
  /-- a value has been read -/
  | more (v : Value)

structure Parser where
  stack : List Frame
  expect : Expect

/-- A token that is a value of its own. -/
def scalar? : Token → Option Value
  | .str s => some (.str s)
  | .word w => word? w
  | .punct _ => none

def Parser.step (p : Parser) (t : Token) : Option Parser :=
  match p.expect with
  | .value =>
      if t = .punct '\x7b' then some ⟨p.stack, .key []⟩
      else if t = .punct '[' then some ⟨.arr [] :: p.stack, .value⟩
      else if t = .punct ']' then
        match p.stack with
        | .arr [] :: stack => some ⟨stack, .more (.arr [])⟩
        | _ => none
      else (scalar? t).map fun v => ⟨p.stack, .more v⟩
  | .key members =>
      match t with
      | .str k => some ⟨p.stack, .colon members k⟩
      | _ => if t = .punct '\x7d' ∧ members.isEmpty then some ⟨p.stack, .more (.obj [])⟩ else none
  | .colon members k => if t = .punct ':' then some ⟨.obj members k :: p.stack, .value⟩ else none
  | .more v =>
      match p.stack with
      | .arr items :: stack =>
          if t = .punct ',' then some ⟨.arr (items ++ [v]) :: stack, .value⟩
          else if t = .punct ']' then some ⟨stack, .more (.arr (items ++ [v]))⟩
          else none
      | .obj members k :: stack =>
          if t = .punct ',' then some ⟨stack, .key (members ++ [(k, v)])⟩
          else if t = .punct '\x7d' then some ⟨stack, .more (.obj (members ++ [(k, v)]))⟩
          else none
      | [] => none

def Parser.run (p : Parser) : List Token → Option Parser
  | [] => some p
  | t :: rest => (p.step t).bind fun q => q.run rest

def Parser.start : Parser :=
  ⟨[], .value⟩

def Parser.result (p : Parser) : Option Value :=
  match p.stack, p.expect with
  | [], .more v => some v
  | _, _ => none

def parse (text : List Char) : Option Value :=
  (tokens text).bind fun ts => (Parser.start.run ts).bind Parser.result

/-- The value of a member; of several with one key, the last one counts. -/
def lookup (members : List (List Nat × Value)) (key : List Nat) : Option Value :=
  (members.reverse.find? (·.1 == key)).map (·.2)

section Scanning

theorem scan_append (m : Mode) (first second : List Char) :
    scan m (first ++ second) =
      (scan m first).bind fun p => (scan p.1 second).map fun q => (q.1, p.2 ++ q.2) := by
  induction first generalizing m with
  | nil => simp [scan]
  | cons c first ih =>
      rw [List.cons_append, scan, scan]
      rcases step m c with _ | p
      · rfl
      · rw [Option.bind_some, Option.bind_some, ih]
        rcases scan p.1 first with _ | q
        · rfl
        · rw [Option.bind_some, Option.map_some, Option.bind_some]
          rcases scan q.1 second with _ | r
          · rfl
          · simp

theorem length_combine_le (s : List Nat) : (combine s).length ≤ s.length := by
  fun_induction combine s with
  | case1 hi lo rest hpair ih => simp only [List.length_cons]; omega
  | case2 hi lo rest hpair ih => simpa using ih
  | case3 s hs => exact Nat.le_refl _

theorem codes_injective : Function.Injective codes := by
  intro a b h
  exact List.map_injective_iff.mpr (fun c d => Char.toNat_inj.mp) h

/-- Characters are no surrogates. -/
theorem combine_codes (text : List Char) : combine (codes text) = codes text := by
  have hvalid : ∀ n ∈ codes text, n < 0xD800 ∨ 0xDFFF < n := by
    intro n hn
    obtain ⟨c, -, rfl⟩ := List.mem_map.mp hn
    rcases c.valid with h | h
    · exact .inl h
    · exact .inr h.1
  generalize codes text = s at hvalid
  fun_induction combine s with
  | case1 hi lo rest hpair ih =>
      have := hvalid hi List.mem_cons_self
      omega
  | case2 hi lo rest hpair ih =>
      rw [ih fun n hn => hvalid n (List.mem_cons_of_mem _ hn)]
  | case3 s hs => rfl

/-- The code points of the string that is being read. -/
def Mode.held : Mode → Nat
  | .str s | .escape s | .unicode s _ _ => s.length
  | .out | .word _ => 0

theorem stepOut_held (c : Char) : (stepOut c).1.held = 0 ∧ ∀ u, .str u ∉ (stepOut c).2 := by
  rw [stepOut]
  split
  · exact ⟨rfl, by simp⟩
  split
  · exact ⟨rfl, by simp⟩
  split
  · exact ⟨rfl, by simp⟩
  · exact ⟨rfl, by simp⟩

theorem step_held {m m' : Mode} {c : Char} {ts : List Token} (h : step m c = some (m', ts)) :
    m'.held ≤ m.held + 1 ∧ ∀ u, .str u ∈ ts → u.length ≤ m.held := by
  obtain ⟨hout, hnone⟩ := stepOut_held c
  cases m with
  | out =>
      rw [step, Option.some.injEq] at h
      rw [h] at hout hnone
      exact ⟨hout.trans_le (Nat.zero_le _), fun u hu => absurd hu (hnone u)⟩
  | word w =>
      rw [step] at h
      split at h
      · cases h
        refine ⟨by omega, fun u hu => ?_⟩
        rcases List.mem_cons.mp hu with hu | hu
        · cases hu
        · exact absurd hu (hnone u)
      · cases h
        exact ⟨Nat.zero_le _, by simp⟩
  | str s =>
      rw [step] at h
      split at h
      · cases h
        refine ⟨Nat.zero_le _, fun u hu => ?_⟩
        cases List.mem_singleton.mp hu
        exact length_combine_le s
      split at h
      · cases h
        exact ⟨Nat.le_succ _, by simp⟩
      split at h
      · cases h
      · cases h
        exact ⟨by simp [Mode.held], by simp⟩
  | escape s =>
      rw [step] at h
      split at h
      · cases h
        exact ⟨Nat.le_succ _, by simp⟩
      · obtain ⟨n, -, hn⟩ := Option.map_eq_some_iff.mp h
        cases hn
        exact ⟨by simp [Mode.held], by simp⟩
  | unicode s k n =>
      obtain ⟨d, -, hd⟩ := Option.map_eq_some_iff.mp h
      cases hd
      refine ⟨?_, by simp⟩
      split <;> simp [Mode.held]

theorem scan_cons_eq_some {m m' : Mode} {c : Char} {text : List Char} {ts : List Token}
    (h : scan m (c :: text) = some (m', ts)) :
    ∃ m₁ ts₁ ts₂, step m c = some (m₁, ts₁) ∧ scan m₁ text = some (m', ts₂) ∧ ts = ts₁ ++ ts₂ := by
  obtain ⟨⟨m₁, ts₁⟩, hstep, hmap⟩ := Option.bind_eq_some_iff.mp h
  obtain ⟨⟨m₂, ts₂⟩, hscan, heq⟩ := Option.map_eq_some_iff.mp hmap
  cases heq
  exact ⟨m₁, ts₁, ts₂, hstep, hscan, rfl⟩

theorem scan_append_eq_some {m m' : Mode} {first second : List Char} {ts : List Token}
    (h : scan m (first ++ second) = some (m', ts)) :
    ∃ m₁ ts₁ ts₂, scan m first = some (m₁, ts₁) ∧ scan m₁ second = some (m', ts₂) ∧
      ts = ts₁ ++ ts₂ := by
  rw [scan_append] at h
  obtain ⟨⟨m₁, ts₁⟩, hfirst, hmap⟩ := Option.bind_eq_some_iff.mp h
  obtain ⟨⟨m₂, ts₂⟩, hsecond, heq⟩ := Option.map_eq_some_iff.mp hmap
  cases heq
  exact ⟨m₁, ts₁, ts₂, hfirst, hsecond, rfl⟩

theorem scan_held {m m' : Mode} {text : List Char} {ts : List Token}
    (h : scan m text = some (m', ts)) :
    m'.held ≤ m.held + text.length ∧ ∀ u, .str u ∈ ts → u.length < m.held + text.length := by
  induction text generalizing m ts with
  | nil =>
      cases h
      exact ⟨Nat.le_refl _, by simp⟩
  | cons c text ih =>
      obtain ⟨m₁, ts₁, ts₂, hstep, hscan, rfl⟩ := scan_cons_eq_some h
      obtain ⟨hheld, hstrings⟩ := step_held hstep
      obtain ⟨hrest, hrestStrings⟩ := ih hscan
      rw [List.length_cons]
      refine ⟨by omega, fun u hu => ?_⟩
      rcases List.mem_append.mp hu with hu | hu
      · have := hstrings u hu
        omega
      · have := hrestStrings u hu
        omega

/-- A character that stands for itself in a string. -/
def isPlain (c : Char) : Bool :=
  c != '"' && c != '\\' && !isControl c

theorem step_str_plain {c : Char} (h : isPlain c = true) (s : List Nat) :
    step (.str s) c = some (.str (s ++ [c.toNat]), []) := by
  simp only [isPlain, Bool.and_eq_true, bne_iff_ne, Bool.not_eq_true'] at h
  simp [step, h]

theorem scan_str_plain {text : List Char} (h : ∀ c ∈ text, isPlain c = true) (s : List Nat) :
    scan (.str s) text = some (.str (s ++ codes text), []) := by
  induction text generalizing s with
  | nil => simp [scan, codes]
  | cons c text ih =>
      obtain ⟨hc, htext⟩ := List.forall_mem_cons.mp h
      rw [scan, step_str_plain hc, Option.bind_some, ih htext]
      simp [codes]

/-- A string that keeps the length of its text has been read as it stands. -/
theorem plain_of_scan_str {text : List Char} {s acc : List Nat} {ts : List Token}
    (h : scan (.str s) text = some (.str acc, ts)) (hlength : s.length + text.length ≤ acc.length) :
    ∀ c ∈ text, isPlain c = true := by
  induction text generalizing s ts with
  | nil => simp
  | cons c text ih =>
      obtain ⟨m₁, ts₁, ts₂, hstep, hscan, -⟩ := scan_cons_eq_some h
      have hheld : acc.length ≤ m₁.held + text.length := (scan_held hscan).1
      rw [List.length_cons] at hlength
      have hplain : isPlain c = true := by
        by_contra hplain
        have hshort : m₁.held ≤ s.length := by
          rw [step] at hstep
          split at hstep
          · cases hstep
            exact Nat.zero_le _
          split at hstep
          · cases hstep
            exact Nat.le_refl _
          split at hstep
          · cases hstep
          · simp_all [isPlain]
        omega
      rw [step_str_plain hplain] at hstep
      cases hstep
      refine List.forall_mem_cons.mpr ⟨hplain, ih hscan ?_⟩
      simp only [List.length_append, List.length_singleton]
      omega

/-- Backslashes and quotes behind a backslash. -/
def escape (text : List Char) : List Char :=
  text.flatMap fun c => if c = '\\' ∨ c = '"' then ['\\', c] else [c]

theorem scan_str_escape (text : List Char) (s : List Nat) :
    scan (.str s) (escape text) =
      if text.any isControl then none else some (.str (s ++ codes text), []) := by
  induction text generalizing s with
  | nil => simp [scan, escape, codes]
  | cons c text ih =>
      rw [escape, List.flatMap_cons, ← escape, scan_append]
      by_cases hescaped : c = '\\' ∨ c = '"'
      · have hstep : scan (.str s) ['\\', c] = some (.str (s ++ [c.toNat]), []) := by
          rcases hescaped with rfl | rfl <;> rfl
        have hcontrol : isControl c = false := by
          rcases hescaped with rfl | rfl <;> decide
        rw [if_pos hescaped, hstep, Option.bind_some, ih, List.any_cons, hcontrol, Bool.false_or]
        split <;> simp [codes]
      · rw [not_or] at hescaped
        rw [if_neg (not_or.mpr hescaped), scan, step, if_neg hescaped.2, if_neg hescaped.1]
        rcases hcontrol : isControl c with _ | _
        · rw [if_neg Bool.false_ne_true, Option.bind_some, scan, Option.map_some,
            Option.bind_some, ih, List.any_cons, hcontrol, Bool.false_or]
          split <;> simp [codes]
        · rw [if_pos rfl, List.any_cons, hcontrol, Bool.true_or, if_pos rfl]
          rfl

theorem scan_closing (u : List Nat) (rest : List Char) :
    scan (.str u) ('"' :: rest) =
      (scan .out rest).map fun q => (q.1, .str (combine u) :: q.2) := by
  have hstep : step (.str u) '"' = some (.out, [.str (combine u)]) := by
    rw [step, if_pos rfl]
  rw [scan, hstep]
  rfl

theorem scan_word_quote (w rest : List Char) :
    scan (.word w) ('"' :: rest) = (scan (.str []) rest).map fun q => (q.1, .word w :: q.2) := by
  have hstep : step (.word w) '"' = some (.str [], [.word w]) := by
    rw [step, if_pos (by decide)]
    rfl
  rw [scan, hstep]
  rfl

theorem stepOut_of_isPunct {c : Char} (hc : isPunct c = true) :
    stepOut c = (.out, [.punct c]) := by
  simp only [isPunct, decide_eq_true_eq, List.mem_cons, List.not_mem_nil, or_false] at hc
  rcases hc with rfl | rfl | rfl | rfl | rfl | rfl <;> rfl

theorem scan_word_punct {c : Char} (hc : isPunct c = true) (w : List Char) (rest : List Char) :
    scan (.word w) (c :: rest) =
      (scan .out rest).map fun q => (q.1, .word w :: .punct c :: q.2) := by
  have hstep : step (.word w) c = some ((stepOut c).1, .word w :: (stepOut c).2) :=
    if_pos (by rw [hc, Bool.or_true])
  rw [scan, hstep, stepOut_of_isPunct hc]
  rfl

theorem scan_punct {c : Char} (hc : isPunct c = true) (rest : List Char) :
    scan .out (c :: rest) = (scan .out rest).map fun q => (q.1, .punct c :: q.2) := by
  rw [scan, step, stepOut_of_isPunct hc]
  rfl

/-- Between tokens, whitespace is skipped. -/
theorem scan_white {space : List Char} (h : ∀ c ∈ space, isWhite c = true) (rest : List Char) :
    scan .out (space ++ rest) = scan .out rest := by
  induction space with
  | nil => rfl
  | cons c space ih =>
      obtain ⟨hc, hspace⟩ := List.forall_mem_cons.mp h
      rw [List.cons_append, scan, step, stepOut, if_pos hc, Option.bind_some, ih hspace]
      simp

theorem ne_of_isDigit {c d : Char} (hc : c.isDigit = true) (hd : d.isDigit = false) : c ≠ d := by
  rintro rfl
  exact Bool.false_ne_true (hd.symm.trans hc)

/-- A character that neither ends a word nor begins a string. -/
def inWord (c : Char) : Bool :=
  !(isWhite c || c == '"' || isPunct c)

theorem scan_inWord {text : List Char} (h : ∀ c ∈ text, inWord c = true) (w : List Char) :
    scan (.word w) text = some (.word (w ++ text), []) := by
  induction text generalizing w with
  | nil => simp [scan]
  | cons c text ih =>
      obtain ⟨hc, htext⟩ := List.forall_mem_cons.mp h
      have hstep : step (.word w) c = some (.word (w ++ [c]), []) :=
        if_neg (Bool.eq_false_iff.mp (by simpa [inWord] using hc))
      rw [scan, hstep, Option.bind_some, ih htext]
      simp

theorem scan_word {text : List Char} (hne : text ≠ []) (h : ∀ c ∈ text, inWord c = true) :
    scan .out text = some (.word text, []) := by
  obtain ⟨c, text, rfl⟩ := List.exists_cons_of_ne_nil hne
  obtain ⟨hc, htext⟩ := List.forall_mem_cons.mp h
  have hstep : stepOut c = (.word [c], []) := by
    simp only [inWord, Bool.not_eq_true', Bool.or_eq_false_iff, beq_eq_false_iff_ne] at hc
    simp [stepOut, hc.1.1, hc.1.2, hc.2]
  rw [scan, step, hstep, Option.bind_some, scan_inWord htext]
  rfl

theorem inWord_of_isDigit {c : Char} (h : c.isDigit = true) : inWord c = true := by
  have hne : ∀ {d : Char}, d.isDigit = false → (c == d) = false :=
    fun hd => beq_eq_false_iff_ne.mpr (ne_of_isDigit h hd)
  simp [inWord, isWhite, isPunct, hne, ne_of_isDigit h]

theorem inWord_of_mem_toDigits {n : Nat} {c : Char} (h : c ∈ Nat.toDigits 10 n) :
    inWord c = true :=
  inWord_of_isDigit (ShellText.isDigit_of_mem_toDigits h)

end Scanning

section Words

theorem head?_digits {n : Nat} : ∃ c ∈ (Nat.toDigits 10 n).head?, c.isDigit = true := by
  have hne : Nat.toDigits 10 n ≠ [] := Nat.toDigits_ne_nil
  obtain ⟨c, digits, hcons⟩ := List.exists_cons_of_ne_nil hne
  refine ⟨c, by rw [hcons]; rfl, ?_⟩
  exact ShellText.isDigit_of_mem_toDigits (hcons ▸ List.mem_cons_self)

theorem number?_toDigits {w : List Char} {n : Nat}
    (hw : (if w.head? = some '-' then w.tail else w) = Nat.toDigits 10 n) :
    number? w = some (.int (if w.head? = some '-' then -n else n)) := by
  have hdigits : ∀ c ∈ Nat.toDigits 10 n, c.isDigit = true :=
    fun _ => ShellText.isDigit_of_mem_toDigits
  have htake : (Nat.toDigits 10 n).takeWhile Char.isDigit = Nat.toDigits 10 n :=
    List.takeWhile_eq_self_iff.mpr hdigits
  have hdrop : (Nat.toDigits 10 n).dropWhile Char.isDigit = [] :=
    List.dropWhile_eq_nil_iff.mpr hdigits
  have hvalid : ¬ (Nat.toDigits 10 n = [] ∨
      ((Nat.toDigits 10 n).head? = some '0' ∧ Nat.toDigits 10 n ≠ ['0'])) := by
    rintro (hnil | ⟨hzero, hne⟩)
    · exact Nat.toDigits_ne_nil hnil
    · rcases Nat.eq_zero_or_pos n with rfl | hn
      · exact hne (by decide)
      · exact ShellText.head?_toDigits hn hzero
  simp only [number?, hw, htake, hdrop, if_neg hvalid, if_true, Nat.ofDigitChars_ten_toDigits]

theorem word?_of_head {w : List Char} (hw : ∀ c ∈ w.head?, c = '-' ∨ c.isDigit = true)
    (hinfinity : w ≠ "-Infinity".toList) : word? w = number? w := by
  have hne : ∀ {v : List Char}, (v.head?.any fun c => c == '-' || c.isDigit) = false →
      v ≠ [] → w ≠ v := by
    rintro v hv hnil rfl
    obtain ⟨c, rest, rfl⟩ := List.exists_cons_of_ne_nil hnil
    have hc := hw c rfl
    simp only [List.head?_cons, Option.any_some, Bool.or_eq_false_iff, beq_eq_false_iff_ne] at hv
    rcases hc with hc | hc
    · exact hv.1 hc
    · exact Bool.false_ne_true (hv.2.symm.trans hc)
  have hfloat : w ∉ ["NaN".toList, "Infinity".toList, "-Infinity".toList] := by
    simp only [List.mem_cons, List.not_mem_nil, or_false, not_or]
    exact ⟨hne (by decide) (by decide), hne (by decide) (by decide), hinfinity⟩
  rw [word?, if_neg (hne (by decide) (by decide)), if_neg (hne (by decide) (by decide)),
    if_neg (hne (by decide) (by decide)), if_neg hfloat]

theorem word?_toDigits (n : Nat) : word? (Nat.toDigits 10 n) = some (.int n) := by
  obtain ⟨c, hc, hdigit⟩ := head?_digits (n := n)
  have hhead : (Nat.toDigits 10 n).head? = some c := hc
  have hsign : ¬ (Nat.toDigits 10 n).head? = some '-' := by
    rw [hhead, Option.some.injEq]
    exact ne_of_isDigit hdigit (by decide)
  rw [word?_of_head, number?_toDigits (if_neg hsign), if_neg hsign]
  · intro d hd
    cases hhead.symm.trans hd
    exact .inr hdigit
  · intro h
    rw [h] at hsign
    exact hsign rfl

theorem word?_neg_toDigits (n : Nat) : word? ('-' :: Nat.toDigits 10 n) = some (.int (-n)) := by
  obtain ⟨c, hc, hdigit⟩ := head?_digits (n := n)
  have hhead : (Nat.toDigits 10 n).head? = some c := hc
  rw [word?_of_head, number?_toDigits rfl]
  · rfl
  · rintro d ⟨⟩
    exact .inl rfl
  · intro h
    rw [(List.cons.inj h).2] at hhead
    cases hhead
    cases hdigit

theorem word?_ne_str (w : List Char) (s : List Nat) : word? w ≠ some (.str s) := by
  intro h
  simp only [word?, number?] at h
  split_ifs at h <;> cases h

theorem scalar?_str (s : List Nat) : scalar? (.str s) = some (.str s) :=
  rfl

theorem scalar?_word (w : List Char) : scalar? (.word w) = word? w :=
  rfl

theorem scalar?_eq_str {t : Token} {s : List Nat} (h : scalar? t = some (.str s)) : t = .str s := by
  cases t with
  | punct c => cases h
  | str u =>
      cases h
      rfl
  | word w => exact absurd h (word?_ne_str w s)

end Words

namespace Parser

theorem run_append (p : Parser) (first second : List Token) :
    p.run (first ++ second) = (p.run first).bind fun q => q.run second := by
  induction first generalizing p with
  | nil => rfl
  | cons t first ih =>
      rw [List.cons_append, run, run]
      rcases p.step t with _ | q
      · rfl
      · exact ih q

theorem run_str_word (p : Parser) (u : List Nat) (w : List Char) (rest : List Token) :
    p.run (.str u :: .word w :: rest) = none := by
  rcases p with ⟨stack, expect⟩
  cases expect with
  | value => rcases stack with _ | ⟨_ | _, stack⟩ <;> rfl
  | key members => rfl
  | colon members k => rfl
  | more v => rcases stack with _ | ⟨_ | _, stack⟩ <;> rfl

theorem run_append_str_word (p : Parser) (before rest : List Token) (u : List Nat)
    (w : List Char) : p.run (before ++ .str u :: .word w :: rest) = none := by
  rw [run_append]
  rcases p.run before with _ | q
  · rfl
  · exact run_str_word q u w rest

end Parser

section Drawn

variable (ts : List Token)

/-- Members that are strings are tokens. -/
def MembersDrawn (members : List (List Nat × Value)) : Prop :=
  ∀ k s, (k, .str s) ∈ members → .str s ∈ ts

def Frame.Drawn : Frame → Prop
  | .arr _ => True
  | .obj members _ => MembersDrawn ts members

def Expect.Drawn : Expect → Prop
  | .value => True
  | .key members | .colon members _ => MembersDrawn ts members
  | .more v => ∀ s, v = .str s → .str s ∈ ts

structure Parser.Drawn (p : Parser) : Prop where
  stack : ∀ f ∈ p.stack, f.Drawn ts
  expect : p.expect.Drawn ts

variable {ts} {us : List Token}

theorem MembersDrawn.mono {members : List (List Nat × Value)} (h : MembersDrawn ts members)
    (hsub : ts ⊆ us) : MembersDrawn us members :=
  fun k s hmem => hsub (h k s hmem)

theorem Frame.Drawn.mono {f : Frame} (h : f.Drawn ts) (hsub : ts ⊆ us) : f.Drawn us := by
  cases f with
  | arr items => trivial
  | obj members k => exact MembersDrawn.mono h hsub

theorem MembersDrawn.concat {members : List (List Nat × Value)} {k : List Nat} {v : Value}
    (h : MembersDrawn ts members) (hv : ∀ s, v = .str s → .str s ∈ ts) :
    MembersDrawn ts (members ++ [(k, v)]) := by
  intro k' s hmem
  rcases List.mem_append.mp hmem with hmem | hmem
  · exact h k' s hmem
  · cases List.mem_singleton.mp hmem
    exact hv s rfl

theorem Parser.Drawn.step {p q : Parser} {t : Token} (h : p.Drawn ts) (hstep : p.step t = some q) :
    q.Drawn (ts ++ [t]) := by
  have hsub : ts ⊆ ts ++ [t] := List.subset_append_left _ _
  have hstack : ∀ f ∈ p.stack, f.Drawn (ts ++ [t]) := fun f hf => (h.stack f hf).mono hsub
  rcases p with ⟨stack, expect⟩
  have hnone : MembersDrawn (ts ++ [t]) [] := by
    intro k s hmem
    cases hmem
  cases expect with
  | value =>
      simp only [Parser.step] at hstep
      split at hstep
      · cases hstep
        exact ⟨hstack, hnone⟩
      split at hstep
      · cases hstep
        exact ⟨List.forall_mem_cons.mpr ⟨trivial, hstack⟩, trivial⟩
      split at hstep
      · split at hstep
        · cases hstep
          exact ⟨fun f hf => hstack f (List.mem_cons_of_mem _ hf), by rintro s ⟨⟩⟩
        · cases hstep
      · obtain ⟨v, hv, rfl⟩ := Option.map_eq_some_iff.mp hstep
        refine ⟨hstack, ?_⟩
        rintro s rfl
        rw [scalar?_eq_str hv]
        exact List.mem_append_right _ List.mem_cons_self
  | key members =>
      have hmembers : MembersDrawn (ts ++ [t]) members := MembersDrawn.mono h.expect hsub
      simp only [Parser.step] at hstep
      split at hstep
      · cases hstep
        exact ⟨hstack, hmembers⟩
      · split at hstep
        · cases hstep
          exact ⟨hstack, by rintro s ⟨⟩⟩
        · cases hstep
  | colon members k =>
      have hmembers : MembersDrawn (ts ++ [t]) members := MembersDrawn.mono h.expect hsub
      simp only [Parser.step] at hstep
      split at hstep
      · cases hstep
        exact ⟨List.forall_mem_cons.mpr ⟨hmembers, hstack⟩, trivial⟩
      · cases hstep
  | more v =>
      have hv : ∀ s, v = .str s → .str s ∈ ts ++ [t] := fun s hs => hsub (h.expect s hs)
      simp only [Parser.step] at hstep
      split at hstep
      · obtain ⟨-, hrest⟩ := List.forall_mem_cons.mp hstack
        split at hstep
        · cases hstep
          exact ⟨List.forall_mem_cons.mpr ⟨trivial, hrest⟩, trivial⟩
        split at hstep
        · cases hstep
          exact ⟨hrest, by rintro s ⟨⟩⟩
        · cases hstep
      · obtain ⟨hmembers, hrest⟩ := List.forall_mem_cons.mp hstack
        split at hstep
        · cases hstep
          exact ⟨hrest, MembersDrawn.concat hmembers hv⟩
        split at hstep
        · cases hstep
          exact ⟨hrest, by rintro s ⟨⟩⟩
        · cases hstep
      · cases hstep

theorem Parser.Drawn.run {p q : Parser} (h : p.Drawn ts) (hrun : p.run us = some q) :
    q.Drawn (ts ++ us) := by
  induction us generalizing p ts with
  | nil =>
      cases hrun
      rwa [List.append_nil]
  | cons t us ih =>
      obtain ⟨r, hstep, hrun⟩ := Option.bind_eq_some_iff.mp hrun
      have hdrawn := ih (h.step hstep) hrun
      rwa [List.append_assoc] at hdrawn

theorem Parser.start_drawn : Parser.start.Drawn [] :=
  ⟨by simp [Parser.start], trivial⟩

end Drawn

section Members

variable {members : List (List Nat × Value)} {stack : List Frame} {k key : List Nat}
  {v v' : Value} {t : Token} {p q : Parser}

/-- A further member of an object. -/
def memberTokens (key : List Nat) (t : Token) : List Token :=
  [.punct ',', .str key, .punct ':', t]

theorem run_member (ht : scalar? t = some v') (rest : List Token) :
    Parser.run ⟨.obj members k :: stack, .more v⟩ (memberTokens key t ++ rest) =
      Parser.run ⟨.obj (members ++ [(k, v)]) key :: stack, .more v'⟩ rest := by
  have hpunct : ∀ c, t ≠ .punct c := by
    rintro c rfl
    cases ht
  have hvalue : Parser.step ⟨.obj (members ++ [(k, v)]) key :: stack, .value⟩ t =
      some ⟨.obj (members ++ [(k, v)]) key :: stack, .more v'⟩ := by
    simp [Parser.step, hpunct, ht]
  change (Parser.step ⟨.obj (members ++ [(k, v)]) key :: stack, .value⟩ t).bind _ = _
  rw [hvalue]
  rfl

theorem run_first_member (ht : scalar? t = some v') (rest : List Token) :
    Parser.start.run (.punct '\x7b' :: .str key :: .punct ':' :: t :: rest) =
      Parser.run ⟨[.obj [] key], .more v'⟩ rest := by
  have hpunct : ∀ c, t ≠ .punct c := by
    rintro c rfl
    cases ht
  have hvalue : Parser.step ⟨[.obj [] key], .value⟩ t = some ⟨[.obj [] key], .more v'⟩ := by
    simp [Parser.step, hpunct, ht]
  change (Parser.step ⟨[.obj [] key], .value⟩ t).bind _ = _
  rw [hvalue]
  rfl

theorem of_run_member {rest : List Token} (h : p.run (memberTokens key t ++ rest) = some q) :
    ∃ members k v stack, p = ⟨.obj members k :: stack, .more v⟩ := by
  rcases p with ⟨stack, expect⟩
  cases expect with
  | value => rcases stack with _ | ⟨_ | _, stack⟩ <;> cases h
  | key members => cases h
  | colon members k => cases h
  | more v =>
      rcases stack with _ | ⟨items | ⟨members, k⟩, stack⟩
      · cases h
      · cases h
      · exact ⟨members, k, v, stack, rfl⟩

theorem lookup_append_of_ne {second : List (List Nat × Value)} (h : ∀ p ∈ second, p.1 ≠ key) :
    lookup (members ++ second) key = lookup members key := by
  have hnone : second.reverse.find? (·.1 == key) = none := by
    rw [List.find?_eq_none]
    intro p hp
    simpa using h p (List.mem_reverse.mp hp)
  rw [lookup, List.reverse_append, List.find?_append, hnone, Option.none_or, lookup]

theorem mem_of_lookup (h : lookup members key = some v) : (key, v) ∈ members := by
  obtain ⟨⟨k, v⟩, hfind, rfl⟩ := Option.map_eq_some_iff.mp h
  have hkey : k = key := by simpa using List.find?_some hfind
  rw [← hkey]
  exact List.mem_reverse.mp (List.mem_of_find?_eq_some hfind)

end Members

end ZenOS.Library.Json
