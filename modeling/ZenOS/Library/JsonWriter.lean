import ZenOS.Library.JsonLiterals
import Mathlib.Tactic.IntervalCases

/-!
A writer of JSON texts, on one line or indented.  What it writes is read back as the value
that was written.
-/

namespace ZenOS.Library.Json

/-- What is written: the strings are texts, and there are no fractions. -/
inductive Datum where
  | null
  | bool (b : Bool)
  | int (n : Int)
  | str (s : List Char)
  | arr (items : List Datum)
  | obj (members : List (List Char × Datum))

/-- A character in a string: quotes, backslashes and control characters are escaped. -/
def escapeChar (c : Char) : List Char :=
  if c = '"' ∨ c = '\\' then ['\\', c]
  else if isControl c = false then [c]
  else if c = '\n' then ['\\', 'n']
  else if c = '\t' then ['\\', 't']
  else if c = '\r' then ['\\', 'r']
  else if c.toNat = 8 then ['\\', 'b']
  else if c.toNat = 12 then ['\\', 'f']
  else ['\\', 'u', '0', '0', (c.toNat / 16).digitChar, (c.toNat % 16).digitChar]

def quote (s : List Char) : List Char :=
  '"' :: (s.flatMap escapeChar ++ ['"'])

def decimal : Int → List Char
  | .ofNat n => Nat.toDigits 10 n
  | .negSucc n => '-' :: Nat.toDigits 10 (n + 1)

def scalarText : Datum → List Char
  | .null => "null".toList
  | .bool b => if b then "true".toList else "false".toList
  | .int n => decimal n
  | .str s => quote s
  | .arr _ | .obj _ => []

/-- A new line for an item at this depth, unless everything stands on one line. -/
def newLine (pretty : Bool) (depth : Nat) : List Char :=
  if pretty then '\n' :: List.replicate (2 * depth) ' ' else []

def separator (pretty : Bool) : List Char :=
  if pretty then [':', ' '] else [':']

mutual

def write (pretty : Bool) (depth : Nat) : Datum → List Char
  | .arr [] => ['[', ']']
  | .arr (d :: ds) =>
      '[' :: (newLine pretty (depth + 1) ++ write pretty (depth + 1) d ++
        (writeItems pretty (depth + 1) ds ++ (newLine pretty depth ++ [']'])))
  | .obj [] => ['\x7b', '\x7d']
  | .obj ((k, d) :: ms) =>
      '\x7b' :: (newLine pretty (depth + 1) ++ quote k ++ separator pretty ++
        write pretty (depth + 1) d ++
        (writeMembers pretty (depth + 1) ms ++ (newLine pretty depth ++ ['\x7d'])))
  | d => scalarText d

/-- The items behind the first. -/
def writeItems (pretty : Bool) (depth : Nat) : List Datum → List Char
  | [] => []
  | d :: ds => ',' :: (newLine pretty depth ++ write pretty depth d ++ writeItems pretty depth ds)

def writeMembers (pretty : Bool) (depth : Nat) : List (List Char × Datum) → List Char
  | [] => []
  | (k, d) :: ms =>
      ',' :: (newLine pretty depth ++ quote k ++ separator pretty ++ write pretty depth d ++
        writeMembers pretty depth ms)

end

mutual

def Datum.value : Datum → Value
  | .null => .null
  | .bool b => .bool b
  | .int n => .int n
  | .str s => .str (codes s)
  | .arr items => .arr (itemValues items)
  | .obj members => .obj (memberValues members)

def itemValues : List Datum → List Value
  | [] => []
  | d :: ds => d.value :: itemValues ds

def memberValues : List (List Char × Datum) → List (List Nat × Value)
  | [] => []
  | (k, d) :: ms => (codes k, d.value) :: memberValues ms

end

def scalarToken : Datum → Token
  | .str s => .str (codes s)
  | d => .word (scalarText d)

mutual

def Datum.tokens : Datum → List Token
  | .arr [] => [.punct '[', .punct ']']
  | .arr (d :: ds) => .punct '[' :: (d.tokens ++ (itemTokens ds ++ [.punct ']']))
  | .obj [] => [.punct '\x7b', .punct '\x7d']
  | .obj ((k, d) :: ms) =>
      .punct '\x7b' :: .str (codes k) :: .punct ':' :: (d.tokens ++
        (membersTokens ms ++ [.punct '\x7d']))
  | d => [scalarToken d]

def itemTokens : List Datum → List Token
  | [] => []
  | d :: ds => .punct ',' :: (d.tokens ++ itemTokens ds)

def membersTokens : List (List Char × Datum) → List Token
  | [] => []
  | (k, d) :: ms => .punct ',' :: .str (codes k) :: .punct ':' :: (d.tokens ++ membersTokens ms)

end

section Scanning

theorem scan_escapeChar (c : Char) (u : List Nat) :
    scan (.str u) (escapeChar c) = some (.str (u ++ [c.toNat]), []) := by
  by_cases hescape : c = '"' ∨ c = '\\'
  · rcases hescape with rfl | rfl <;> rfl
  rcases hcontrol : isControl c with _ | _
  · have hplain : ∀ d ∈ [c], isPlain d = true := by
      intro d hd
      rw [List.mem_singleton.mp hd, isPlain, hcontrol]
      simpa using hescape
    rw [escapeChar, if_neg hescape, if_pos hcontrol, scan_str_plain hplain]
    rfl
  · have hlt : c.toNat < 32 := of_decide_eq_true hcontrol
    rw [← Char.ofNat_toNat c]
    generalize c.toNat = n at hlt
    interval_cases n <;> rfl

theorem isLiteral_escaped (s : List Char) : IsLiteral (s.flatMap escapeChar) s :=
  isLiteral_flatMap scan_escapeChar s

theorem scan_quote (s rest : List Char) :
    scan .out (quote s ++ rest) = (scan .out rest).map fun q => (q.1, .str (codes s) :: q.2) :=
  (isLiteral_escaped s).scan_quoted rest

/-- What stands behind a value: a text that cannot be part of a word. -/
def Delimited (rest : List Char) : Prop :=
  ∃ c ∈ rest.head?, (isWhite c || isPunct c) = true

theorem delimited_newLine_append (pretty : Bool) (depth : Nat) {rest : List Char}
    (h : Delimited rest) : Delimited (newLine pretty depth ++ rest) := by
  cases pretty with
  | false => exact h
  | true => exact ⟨'\n', rfl, by decide⟩

theorem delimited_cons {c : Char} (h : isPunct c = true) (rest : List Char) :
    Delimited (c :: rest) :=
  ⟨c, rfl, by rw [h, Bool.or_true]⟩

theorem scan_newLine_append (pretty : Bool) (depth : Nat) (rest : List Char) :
    scan .out (newLine pretty depth ++ rest) = scan .out rest := by
  refine scan_white (fun c hc => ?_) rest
  cases pretty with
  | false => cases hc
  | true =>
      rcases List.mem_cons.mp hc with rfl | hc
      · decide
      · rw [(List.mem_replicate.mp hc).2]
        decide

theorem scan_separator_append (pretty : Bool) (rest : List Char) :
    scan .out (separator pretty ++ rest) =
      (scan .out rest).map fun q => (q.1, .punct ':' :: q.2) := by
  cases pretty with
  | false => exact scan_punct (by decide) rest
  | true =>
      have hspace : scan .out ([' '] ++ rest) = scan .out rest :=
        scan_white (by simp [isWhite]) rest
      rw [separator, if_pos rfl, List.cons_append, scan_punct (by decide), ← hspace,
        List.singleton_append]

theorem scan_word_append {w rest : List Char} (hne : w ≠ []) (hw : ∀ c ∈ w, inWord c = true)
    (hrest : Delimited rest) :
    scan .out (w ++ rest) = (scan .out rest).map fun q => (q.1, .word w :: q.2) := by
  obtain ⟨c, hc, hend⟩ := hrest
  obtain ⟨rest, rfl⟩ := List.head?_eq_some_iff.mp hc
  have hstep : step (.word w) c = some ((stepOut c).1, .word w :: (stepOut c).2) := by
    refine if_pos ?_
    rw [Bool.or_right_comm, hend, Bool.true_or]
  rw [scan_append, scan_word hne hw, Option.bind_some, scan, hstep, scan, step]
  simp only [Option.bind_some, Option.map_map]
  rfl

theorem decimal_inWord (n : Int) : decimal n ≠ [] ∧ ∀ c ∈ decimal n, inWord c = true := by
  cases n with
  | ofNat n => exact ⟨Nat.toDigits_ne_nil, fun c => inWord_of_mem_toDigits⟩
  | negSucc n =>
      exact ⟨List.cons_ne_nil _ _,
        List.forall_mem_cons.mpr ⟨by decide, fun c => inWord_of_mem_toDigits⟩⟩

theorem word?_decimal (n : Int) : word? (decimal n) = some (.int n) := by
  cases n with
  | ofNat n => exact word?_toDigits n
  | negSucc n => exact word?_neg_toDigits (n + 1)

theorem tokens_append_newline (text : List Char) : tokens (text ++ ['\n']) = tokens text := by
  rw [tokens, tokens, scan_append]
  rcases scan .out text with _ | ⟨m, ts⟩
  · rfl
  rw [Option.bind_some, Option.bind_some]
  cases m with
  | out => simp [scan, step, stepOut, isWhite, Mode.finish]
  | word w => simp [scan, step, stepOut, isWhite, Mode.finish]
  | str u => rfl
  | escape u => rfl
  | unicode u k n => rfl

end Scanning

section Braces

variable (pretty : Bool) (depth : Nat)

theorem head?_write_obj (ms : List (List Char × Datum)) :
    (write pretty depth (.obj ms)).head? = some '\x7b' := by
  cases ms with
  | nil => rw [write]; rfl
  | cons m ms => rw [write]; rfl

theorem getLast?_write_obj (ms : List (List Char × Datum)) :
    (write pretty depth (.obj ms)).getLast? = some '\x7d' := by
  cases ms with
  | nil => rw [write]; rfl
  | cons m ms =>
      rw [write, ← List.append_assoc, ← List.append_assoc, ← List.cons_append]
      exact List.getLast?_concat

end Braces

section Tokens

variable (pretty : Bool)

theorem delimited_writeItems (depth : Nat) (ds : List Datum) {rest : List Char}
    (h : Delimited rest) : Delimited (writeItems pretty depth ds ++ rest) := by
  cases ds with
  | nil => simpa [writeItems] using h
  | cons d ds =>
      rw [writeItems, List.cons_append]
      exact delimited_cons (by decide) _

theorem delimited_writeMembers (depth : Nat) (ms : List (List Char × Datum)) {rest : List Char}
    (h : Delimited rest) : Delimited (writeMembers pretty depth ms ++ rest) := by
  cases ms with
  | nil => simpa [writeMembers] using h
  | cons m ms =>
      obtain ⟨k, d⟩ := m
      rw [writeMembers, List.cons_append]
      exact delimited_cons (by decide) _

theorem scan_scalarText {d : Datum} (h : d.tokens = [scalarToken d]) {rest : List Char}
    (hrest : Delimited rest) :
    scan .out (scalarText d ++ rest) =
      (scan .out rest).map fun q => (q.1, d.tokens ++ q.2) := by
  rw [h]
  cases d with
  | null => exact scan_word_append (by decide) (List.all_eq_true.mp (by decide)) hrest
  | bool b =>
      cases b <;> exact scan_word_append (by decide) (List.all_eq_true.mp (by decide)) hrest
  | int n => exact scan_word_append (decimal_inWord n).1 (decimal_inWord n).2 hrest
  | str s => exact scan_quote s rest
  | arr items =>
      cases items with
      | nil => cases h
      | cons d ds => simp [Datum.tokens, scalarToken] at h
  | obj members =>
      cases members with
      | nil => cases h
      | cons m ms => simp [Datum.tokens, scalarToken] at h

mutual

theorem scan_write (depth : Nat) : (d : Datum) → {rest : List Char} → Delimited rest →
    scan .out (write pretty depth d ++ rest) =
      (scan .out rest).map fun q => (q.1, d.tokens ++ q.2)
  | .null, _, hrest => scan_scalarText rfl hrest
  | .bool _, _, hrest => scan_scalarText rfl hrest
  | .int _, _, hrest => scan_scalarText rfl hrest
  | .str _, _, hrest => scan_scalarText rfl hrest
  | .arr [], rest, _ => by
      have hopen := scan_punct (c := '[') (by decide) (']' :: rest)
      rw [write, List.cons_append, List.singleton_append, hopen, scan_punct (by decide)]
      simp [Datum.tokens, Function.comp_def]
  | .arr (d :: ds), rest, hrest => by
      have hclose : Delimited (newLine pretty depth ++ (']' :: rest)) :=
        delimited_newLine_append pretty depth (delimited_cons (by decide) rest)
      have hitems := delimited_writeItems pretty (depth + 1) ds hclose
      have hfirst := scan_write (depth + 1) d hitems
      have hrests := scan_writeItems (depth + 1) ds hclose
      simp only [write, List.cons_append, List.append_assoc, List.nil_append] at hfirst hrests ⊢
      rw [scan_punct (by decide), scan_newLine_append, hfirst, hrests, scan_newLine_append,
        scan_punct (by decide)]
      simp [Datum.tokens, Function.comp_def]
  | .obj [], rest, _ => by
      have hopen := scan_punct (c := '\x7b') (by decide) ('\x7d' :: rest)
      rw [write, List.cons_append, List.singleton_append, hopen, scan_punct (by decide)]
      simp [Datum.tokens, Function.comp_def]
  | .obj ((k, d) :: ms), rest, hrest => by
      have hclose : Delimited (newLine pretty depth ++ ('\x7d' :: rest)) :=
        delimited_newLine_append pretty depth (delimited_cons (by decide) rest)
      have hmembers := delimited_writeMembers pretty (depth + 1) ms hclose
      have hfirst := scan_write (depth + 1) d hmembers
      have hrests := scan_writeMembers (depth + 1) ms hclose
      simp only [write, List.cons_append, List.append_assoc, List.nil_append] at hfirst hrests ⊢
      rw [scan_punct (by decide), scan_newLine_append, scan_quote, scan_separator_append, hfirst,
        hrests, scan_newLine_append, scan_punct (by decide)]
      simp [Datum.tokens, Function.comp_def]

theorem scan_writeItems (depth : Nat) : (ds : List Datum) → {rest : List Char} →
    Delimited rest →
    scan .out (writeItems pretty depth ds ++ rest) =
      (scan .out rest).map fun q => (q.1, itemTokens ds ++ q.2)
  | [], rest, _ => by simp [writeItems, itemTokens]
  | d :: ds, rest, hrest => by
      have hfirst := scan_write depth d (delimited_writeItems pretty depth ds hrest)
      have hrests := scan_writeItems depth ds hrest
      simp only [writeItems, List.cons_append, List.append_assoc]
      rw [scan_punct (by decide), scan_newLine_append, hfirst, hrests]
      simp [itemTokens, Function.comp_def]

theorem scan_writeMembers (depth : Nat) : (ms : List (List Char × Datum)) → {rest : List Char} →
    Delimited rest →
    scan .out (writeMembers pretty depth ms ++ rest) =
      (scan .out rest).map fun q => (q.1, membersTokens ms ++ q.2)
  | [], rest, _ => by simp [writeMembers, membersTokens]
  | (k, d) :: ms, rest, hrest => by
      have hfirst := scan_write depth d (delimited_writeMembers pretty depth ms hrest)
      have hrests := scan_writeMembers depth ms hrest
      simp only [writeMembers, List.cons_append, List.append_assoc]
      rw [scan_punct (by decide), scan_newLine_append, scan_quote, scan_separator_append, hfirst,
        hrests]
      simp [membersTokens, Function.comp_def]

end

theorem tokens_write (depth : Nat) (d : Datum) :
    tokens (write pretty depth d) = some d.tokens := by
  have hend : Delimited ['\n'] := ⟨'\n', rfl, by decide⟩
  rw [← tokens_append_newline, tokens, scan_write pretty depth d hend]
  simp [scan, step, stepOut, isWhite, Mode.finish]

end Tokens

section Values

variable {stack : List Frame}

theorem run_scalar {t : Token} {v : Value} (h : scalar? t = some v) (rest : List Token) :
    Parser.run ⟨stack, .value⟩ (t :: rest) = Parser.run ⟨stack, .more v⟩ rest := by
  have hpunct : ∀ c, t ≠ .punct c := by
    rintro c rfl
    cases h
  simp [Parser.run, Parser.step, hpunct, h]

mutual

theorem run_tokens : (d : Datum) → (stack : List Frame) → (rest : List Token) →
    Parser.run ⟨stack, .value⟩ (d.tokens ++ rest) = Parser.run ⟨stack, .more d.value⟩ rest
  | .null, _, rest => run_scalar rfl rest
  | .bool true, _, rest => run_scalar rfl rest
  | .bool false, _, rest => run_scalar rfl rest
  | .int n, _, rest => run_scalar ((scalar?_word _).trans (word?_decimal n)) rest
  | .str s, _, rest => run_scalar (scalar?_str (codes s)) rest
  | .arr [], _, _ => rfl
  | .arr (d :: ds), stack, rest => by
      have hfirst := run_tokens d (.arr [] :: stack) (itemTokens ds ++ .punct ']' :: rest)
      have hrests := run_itemTokens ds stack [] d.value rest
      simp only [Datum.tokens, List.cons_append, List.append_assoc, List.nil_append]
      calc Parser.run ⟨stack, .value⟩ (.punct '[' :: (d.tokens ++ (itemTokens ds ++
              .punct ']' :: rest)))
          = Parser.run ⟨.arr [] :: stack, .value⟩ (d.tokens ++ (itemTokens ds ++
              .punct ']' :: rest)) := rfl
        _ = Parser.run ⟨stack, .more (.arr ([] ++ d.value :: itemValues ds))⟩ rest := by
            rw [hfirst, hrests]
  | .obj [], _, _ => rfl
  | .obj ((k, d) :: ms), stack, rest => by
      have hfirst := run_tokens d (.obj [] (codes k) :: stack)
        (membersTokens ms ++ .punct '\x7d' :: rest)
      have hrests := run_membersTokens ms stack [] (codes k) d.value rest
      simp only [Datum.tokens, List.cons_append, List.append_assoc, List.nil_append]
      calc Parser.run ⟨stack, .value⟩ (.punct '\x7b' :: .str (codes k) :: .punct ':' ::
              (d.tokens ++ (membersTokens ms ++ .punct '\x7d' :: rest)))
          = Parser.run ⟨.obj [] (codes k) :: stack, .value⟩ (d.tokens ++ (membersTokens ms ++
              .punct '\x7d' :: rest)) := rfl
        _ = Parser.run ⟨stack, .more (.obj ([] ++ (codes k, d.value) :: memberValues ms))⟩
              rest := by rw [hfirst, hrests]

theorem run_itemTokens : (ds : List Datum) → (stack : List Frame) → (items : List Value) →
    (v : Value) → (rest : List Token) →
    Parser.run ⟨.arr items :: stack, .more v⟩ (itemTokens ds ++ .punct ']' :: rest) =
      Parser.run ⟨stack, .more (.arr (items ++ v :: itemValues ds))⟩ rest
  | [], _, _, _, _ => rfl
  | d :: ds, stack, items, v, rest => by
      have hfirst := run_tokens d (.arr (items ++ [v]) :: stack)
        (itemTokens ds ++ .punct ']' :: rest)
      have hrests := run_itemTokens ds stack (items ++ [v]) d.value rest
      simp only [itemTokens, List.cons_append, List.append_assoc]
      calc Parser.run ⟨.arr items :: stack, .more v⟩ (.punct ',' :: (d.tokens ++
              (itemTokens ds ++ .punct ']' :: rest)))
          = Parser.run ⟨.arr (items ++ [v]) :: stack, .value⟩ (d.tokens ++
              (itemTokens ds ++ .punct ']' :: rest)) := rfl
        _ = Parser.run ⟨stack, .more (.arr (items ++ v :: itemValues (d :: ds)))⟩ rest := by
            rw [hfirst, hrests, List.append_assoc, List.singleton_append]
            rfl

theorem run_membersTokens : (ms : List (List Char × Datum)) → (stack : List Frame) →
    (members : List (List Nat × Value)) → (k : List Nat) → (v : Value) → (rest : List Token) →
    Parser.run ⟨.obj members k :: stack, .more v⟩ (membersTokens ms ++ .punct '\x7d' :: rest) =
      Parser.run ⟨stack, .more (.obj (members ++ (k, v) :: memberValues ms))⟩ rest
  | [], _, _, _, _, _ => rfl
  | (k', d) :: ms, stack, members, k, v, rest => by
      have hfirst := run_tokens d (.obj (members ++ [(k, v)]) (codes k') :: stack)
        (membersTokens ms ++ .punct '\x7d' :: rest)
      have hrests := run_membersTokens ms stack (members ++ [(k, v)]) (codes k') d.value rest
      simp only [membersTokens, List.cons_append, List.append_assoc]
      calc Parser.run ⟨.obj members k :: stack, .more v⟩ (.punct ',' :: .str (codes k') ::
              .punct ':' :: (d.tokens ++ (membersTokens ms ++ .punct '\x7d' :: rest)))
          = Parser.run ⟨.obj (members ++ [(k, v)]) (codes k') :: stack, .value⟩ (d.tokens ++
              (membersTokens ms ++ .punct '\x7d' :: rest)) := rfl
        _ = Parser.run ⟨stack, .more (.obj (members ++ (k, v) ::
              memberValues ((k', d) :: ms)))⟩ rest := by
            rw [hfirst, hrests, List.append_assoc, List.singleton_append]
            rfl

end

/-- What is written is read back, also with a line break at its end. -/
theorem parse_write (pretty : Bool) (depth : Nat) (d : Datum) :
    parse (write pretty depth d) = some d.value := by
  have hrun := run_tokens d [] []
  rw [List.append_nil] at hrun
  rw [parse, tokens_write, Option.bind_some, Parser.start, hrun]
  rfl

theorem parse_append_newline (text : List Char) : parse (text ++ ['\n']) = parse text := by
  rw [parse, parse, tokens_append_newline]

end Values

section Compact

/-- A text without control characters, and so without a line break. -/
def OneLine (text : List Char) : Prop :=
  ∀ c ∈ text, isControl c = false

theorem OneLine.append {first second : List Char} (h : OneLine first) (h' : OneLine second) :
    OneLine (first ++ second) :=
  List.forall_mem_append.mpr ⟨h, h'⟩

theorem OneLine.cons {c : Char} {text : List Char} (hc : isControl c = false)
    (h : OneLine text) : OneLine (c :: text) :=
  List.forall_mem_cons.mpr ⟨hc, h⟩

theorem oneLine_of_all (text : List Char) (h : (text.all fun c => !isControl c) = true) :
    OneLine text := by
  intro c hc
  simpa using List.all_eq_true.mp h c hc

theorem oneLine_nil : OneLine [] :=
  oneLine_of_all [] rfl

theorem OneLine.newline_notMem {text : List Char} (h : OneLine text) : '\n' ∉ text :=
  fun hmem => Bool.false_ne_true ((h _ hmem).symm.trans (by decide))

theorem OneLine.toNat_ne_zero {text : List Char} (h : OneLine text) {c : Char} (hc : c ∈ text) :
    c.toNat ≠ 0 := by
  intro hzero
  have hplain := h c hc
  rw [isControl, hzero] at hplain
  cases hplain

theorem oneLine_quote (s : List Char) : OneLine (quote s) :=
  .cons (by decide) (.append (isLiteral_escaped s).no_control (.cons (by decide) oneLine_nil))

theorem oneLine_decimal (n : Int) : OneLine (decimal n) := by
  intro c hc
  have hdigits : ∀ {m : Nat} {c : Char}, c ∈ Nat.toDigits 10 m → isControl c = false := by
    intro m c hc
    have hrange := ShellText.toNat_of_isDigit (ShellText.isDigit_of_mem_toDigits hc)
    rw [isControl, decide_eq_false_iff_not]
    omega
  cases n with
  | ofNat n => exact hdigits hc
  | negSucc n =>
      rcases List.mem_cons.mp hc with rfl | hc
      · decide
      · exact hdigits hc

mutual

theorem oneLine_write (depth : Nat) : (d : Datum) → OneLine (write false depth d)
  | .null => oneLine_of_all "null".toList (by decide)
  | .bool true => oneLine_of_all "true".toList (by decide)
  | .bool false => oneLine_of_all "false".toList (by decide)
  | .int n => oneLine_decimal n
  | .str s => oneLine_quote s
  | .arr [] => oneLine_of_all ['[', ']'] (by decide)
  | .arr (d :: ds) => by
      have hfirst := oneLine_write (depth + 1) d
      have hrest := oneLine_writeItems (depth + 1) ds
      have hclose : OneLine [']'] := .cons (by decide) oneLine_nil
      rw [write]
      exact .cons (by decide) (.append (.append oneLine_nil hfirst)
        (.append hrest (.append oneLine_nil hclose)))
  | .obj [] => oneLine_of_all ['\x7b', '\x7d'] (by decide)
  | .obj ((k, d) :: ms) => by
      have hfirst := oneLine_write (depth + 1) d
      have hrest := oneLine_writeMembers (depth + 1) ms
      have hclose : OneLine ['\x7d'] := .cons (by decide) oneLine_nil
      have hcolon : OneLine [':'] := .cons (by decide) oneLine_nil
      rw [write]
      exact .cons (by decide) (.append
        (.append (.append (.append oneLine_nil (oneLine_quote k)) hcolon) hfirst)
        (.append hrest (.append oneLine_nil hclose)))

theorem oneLine_writeItems (depth : Nat) : (ds : List Datum) → OneLine (writeItems false depth ds)
  | [] => oneLine_nil
  | d :: ds => by
      rw [writeItems]
      exact .cons (by decide) (.append (.append oneLine_nil (oneLine_write depth d))
        (oneLine_writeItems depth ds))

theorem oneLine_writeMembers (depth : Nat) : (ms : List (List Char × Datum)) →
    OneLine (writeMembers false depth ms)
  | [] => oneLine_nil
  | (k, d) :: ms => by
      have hcolon : OneLine [':'] := .cons (by decide) oneLine_nil
      rw [writeMembers]
      exact .cons (by decide) (.append (.append (.append (.append oneLine_nil (oneLine_quote k))
        hcolon) (oneLine_write depth d)) (oneLine_writeMembers depth ms))

end

end Compact

section Cut

variable {text rest : List Char} {w : List Char} {m : Mode} {ts : List Token} {v : Value}

theorem scan_word_head (h : scan (.word w) text = some (m, ts)) :
    (∃ w', m = .word w' ∧ ts = []) ∨ ∃ w' ts', ts = .word w' :: ts' := by
  induction text generalizing w ts with
  | nil =>
      cases h
      exact .inl ⟨w, rfl, rfl⟩
  | cons c text ih =>
      obtain ⟨m₁, ts₁, ts₂, hstep, hscan, rfl⟩ := scan_cons_eq_some h
      rw [step] at hstep
      split at hstep
      · cases hstep
        exact .inr ⟨w, (stepOut c).2 ++ ts₂, rfl⟩
      · cases hstep
        exact ih hscan

theorem tokens_of_brace {m' : Mode} {fin : List Token} (hrest : rest.getLast? = some '\x7d')
    (h : scan m rest = some (m', ts)) (hfin : m'.finish = some fin) :
    ∃ before, ts ++ fin = before ++ [.punct '\x7d'] := by
  obtain ⟨r, rfl⟩ := List.getLast?_eq_some_iff.mp hrest
  obtain ⟨m₁, ts₁, ts₂, -, hscan, rfl⟩ := scan_append_eq_some h
  obtain ⟨m₂, us, vs, hstep, hnil, rfl⟩ := scan_cons_eq_some hscan
  cases hnil
  cases m₁ with
  | out =>
      cases hstep
      cases hfin
      exact ⟨ts₁, by simp⟩
  | word w =>
      cases hstep
      cases hfin
      exact ⟨ts₁ ++ [.word w], by simp [stepOut, isWhite, isPunct]⟩
  | str s =>
      cases hstep
      cases hfin
  | escape s => cases hstep
  | unicode s k n => cases hstep

theorem Parser.run_more_ne_nil (hts : ts ≠ []) : Parser.run ⟨[], .more v⟩ ts = none := by
  obtain ⟨t, ts, rfl⟩ := List.exists_cons_of_ne_nil hts
  rfl

theorem Parser.value_of_step_word {p : Parser}
    (h : p.step (.word w) = some ⟨[], .more v⟩) : p = ⟨[], .value⟩ := by
  rcases p with ⟨stack, expect⟩
  cases expect with
  | value =>
      simp only [Parser.step, reduceCtorEq, if_false] at h
      obtain ⟨v', -, hp⟩ := Option.map_eq_some_iff.mp h
      cases hp
      rfl
  | key members => cases h
  | colon members k => cases h
  | more v' => rcases stack with _ | ⟨_ | _, stack⟩ <;> cases h

theorem parse_eq_some (h : parse text = some v) :
    ∃ m ts fin, scan .out text = some (m, ts) ∧ m.finish = some fin ∧
      Parser.start.run (ts ++ fin) = some ⟨[], .more v⟩ := by
  obtain ⟨us, htokens, hparse⟩ := Option.bind_eq_some_iff.mp h
  obtain ⟨⟨stack, expect⟩, hrun, hresult⟩ := Option.bind_eq_some_iff.mp hparse
  obtain ⟨⟨m, ts⟩, hscan, hfinish⟩ := Option.bind_eq_some_iff.mp htokens
  obtain ⟨fin, hfin, rfl⟩ := Option.map_eq_some_iff.mp hfinish
  refine ⟨m, ts, fin, hscan, hfin, ?_⟩
  rcases stack with _ | ⟨f, stack⟩
  · cases expect <;> cases hresult
    exact hrun
  · cases hresult

theorem parse_of_cut (h : parse (text ++ rest) = some v) (hrest : rest.getLast? = some '\x7d') :
    parse text = none := by
  rw [Option.eq_none_iff_forall_ne_some]
  intro v' hv'
  obtain ⟨m, ts, fin, hscan, hfin, hrun⟩ := parse_eq_some hv'
  obtain ⟨m', us, fin', hscan', hfin', hrun'⟩ := parse_eq_some h
  obtain ⟨m₁, ts₁, ts₂, hfirst, hsecond, rfl⟩ := scan_append_eq_some hscan'
  obtain ⟨rfl, rfl⟩ := Prod.mk.inj (Option.some.inj (hscan.symm.trans hfirst))
  obtain ⟨before, hbrace⟩ := tokens_of_brace hrest hsecond hfin'
  rw [List.append_assoc, Parser.run_append] at hrun'
  cases m with
  | out =>
      cases hfin
      rw [List.append_nil] at hrun
      rw [hrun, Option.bind_some, Parser.run_more_ne_nil (by simp [hbrace])] at hrun'
      cases hrun'
  | word w =>
      cases hfin
      rw [Parser.run_append] at hrun
      obtain ⟨q, hq, hword⟩ := Option.bind_eq_some_iff.mp hrun
      obtain ⟨q', hstep, hnil⟩ := Option.bind_eq_some_iff.mp hword
      cases hnil
      obtain rfl := Parser.value_of_step_word hstep
      rw [hq, Option.bind_some, hbrace] at hrun'
      have hhead : ∃ w' rest', before = .word w' :: rest' := by
        rcases scan_word_head hsecond with ⟨w', rfl, rfl⟩ | ⟨w', rest', rfl⟩
        · cases hfin'
          simpa using congrArg List.getLast? hbrace
        · rcases before with _ | ⟨t, before⟩
          · cases hbrace
          · obtain rfl := (List.cons.inj hbrace).1
            exact ⟨w', before, rfl⟩
      obtain ⟨w', rest', rfl⟩ := hhead
      obtain ⟨q, hstep', hrest'⟩ := Option.bind_eq_some_iff.mp hrun'
      obtain ⟨v'', -, rfl⟩ := Option.map_eq_some_iff.mp hstep'
      rw [Parser.run_more_ne_nil (by simp)] at hrest'
      cases hrest'
  | str s => cases hfin
  | escape s => cases hfin
  | unicode s k n => cases hfin

end Cut

section Libraries

/-- What is relied on of a library that writes JSON. -/
structure Writes (toString : Datum → List Char) : Prop where
  parse_toString : ∀ d, parse (toString d) = some d.value

/-- Without indentation. -/
structure WritesLine (toString : Datum → List Char) : Prop extends Writes toString where
  oneLine : ∀ d, OneLine (toString d)

/-- Nothing stands behind the brace that closes an object. -/
structure WritesPretty (toString : Datum → List Char) : Prop extends Writes toString where
  getLast?_obj : ∀ members, (toString (.obj members)).getLast? = some '\x7d'

theorem writesLine_write : WritesLine (write false 0) where
  parse_toString := parse_write false 0
  oneLine := oneLine_write 0

theorem writesPretty_write : WritesPretty (write true 0) where
  parse_toString := parse_write true 0
  getLast?_obj := getLast?_write_obj true 0

theorem WritesPretty.parse_take {toString : Datum → List Char} (h : WritesPretty toString)
    {members : List (List Char × Datum)} {n : Nat}
    (hn : n < (toString (.obj members)).length) :
    parse ((toString (.obj members)).take n) = none := by
  have hwhole : parse ((toString (.obj members)).take n ++ (toString (.obj members)).drop n) =
      some (Datum.obj members).value := by
    rw [List.take_append_drop, h.parse_toString]
  refine parse_of_cut hwhole ?_
  rw [List.getLast?_drop, if_neg (Nat.not_le.mpr hn), h.getLast?_obj]

end Libraries

end ZenOS.Library.Json
