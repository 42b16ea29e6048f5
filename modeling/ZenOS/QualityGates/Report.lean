import ZenOS.QualityGates.ResultLine

/-!
`generate_report`: the lines of the results file, read back one by one, and the sections and
the table rows that are printed for them.
-/

namespace ZenOS.QualityGates

open ZenOS.Library.Json ZenOS.Library.ShellText

abbrev Line := List Char

/-- What a report is written with, apart from the results file. -/
structure Surroundings where
  timestamp : Line
  gitCommit : Line
  totalGates : Nat
  passedGates : Nat
  failedGates : Nat
  skippedGates : Nat
  /-- `head` is gone before all of the log of the n-th line has been written to it -/
  hangsUp : Nat → Bool
  /-- how python prints lists, dictionaries and floating-point numbers -/
  repr : Value → List Char
  oneLine : '\n' ∉ timestamp ++ gitCommit

/-- The lines that a part of the script has echoed, and whether the script goes on. -/
structure Output where
  lines : List Line
  goesOn : Bool

def Output.andThen (first second : Output) : Output :=
  if first.goesOn then ⟨first.lines ++ second.lines, second.goesOn⟩ else first

def echo (texts : List (List Char)) : Output :=
  ⟨texts.flatMap (·.splitOn '\n'), true⟩

/-- `while read`: what stands behind the last line break is not read. -/
def readLines (file : List Char) : List Line :=
  (file.splitOn '\n').dropLast

def overLines (body : Nat → Line → Output) : Nat → List Line → Output
  | _, [] => echo []
  | n, line :: lines => (body n line).andThen (overLines body (n + 1) lines)

def character? (n : Nat) : Option Char :=
  if n.isValidChar then some (Char.ofNat n) else none

section Reading

variable (S : Surroundings)

/-- `print`, which fails on lone surrogates. -/
def printed : Value → Option (List Char)
  | .null => some "None".toList
  | .bool true => some "True".toList
  | .bool false => some "False".toList
  | .int n => some (intText n)
  | .str s => s.mapM character?
  | v => some (S.repr v)

/-- What `$(…)` keeps of a field that python prints.  Without the member, python prints the
default or fails. -/
def readField (name : String) (absent : Option (List Char)) (line : Line) :
    Option (List Char) :=
  (parse line).bind fun
    | .obj members =>
        ((lookup members (key name)).elim absent (printed S)).map fun text =>
          substituted (text ++ ['\n'])
    | _ => none

structure Entry where
  gate : List Char
  status : List Char
  command : List Char
  exitCode : List Char
  logSnippet : List Char

/-- The other fields of a line.  The script does not survive when one cannot be read. -/
def readEntry (gate : List Char) (line : Line) : Option Entry := do
  let status ← readField S "status" none line
  let command ← readField S "command" (some []) line
  let exitCode ← readField S "exit_code" (some "null".toList) line
  let logSnippet ← readField S "log_snippet" (some []) line
  return ⟨gate, status, command, exitCode, logSnippet⟩

end Reading

def icon (status : List Char) : List Char :=
  if status = "skip".toList then "⏭  SKIP".toList
  else if status = "pass".toList then "✅ PASS".toList
  else "❌ FAIL".toList

/-- The three passes over the results file. -/
inductive Phase where
  | host
  | unit
  | vm
  deriving DecidableEq

def Phase.pattern : Phase → List Char
  | .host => "p0.".toList
  | .unit => "p1.h".toList
  | .vm => "p1.v".toList

def callLines (e : Entry) : List (List Char) :=
  (if e.command = [] then [] else ["- **Command**: `".toList ++ (e.command ++ ['\x60'])]) ++
    ["- **Exit Code**: ".toList ++ e.exitCode]

def headLines (e : Entry) : List (List Char) :=
  ("### Gate ".toList ++ e.gate) :: ("- **Status**: ".toList ++ icon e.status) :: callLines e

def screenshotOf (gate : List Char) : List Char :=
  if gate = "p1.v02".toList then "1.2-surface-protocols".toList
  else if gate = "p1.v03".toList then "1.3-xdg-shell".toList
  else if gate = "p1.v04".toList then "1.4-input-routing".toList
  else []

def screenshotLines (name : List Char) : List (List Char) :=
  if name = [] then []
  else
    ["- **Screenshot**: ![".toList ++ (name ++ ("](screenshots/".toList ++ (name ++ ".png)".toList))),
      "- **LLM Visual Assessment**:".toList,
      "  - **Visible**: _[To be filled by LLM agent]_".toList,
      "  - **Expected**: _[To be filled by LLM agent]_".toList,
      "  - **Verdict**: _[PASS / CONCERN / FAIL]_".toList,
      "  - **Notes**: _[Any anomalies or observations]_".toList]

section Printing

variable (S : Surroundings)

/-- `printf | head -20 | sed`, which fails when `head` hangs up on `printf`. -/
def logLines (n : Nat) (logSnippet : List Char) : Output :=
  let lines := logSnippet.splitOn '\n'
  ⟨(lines.take 20).map ("  ".toList ++ ·), decide (lines.length ≤ 20) || !S.hangsUp n⟩

/-- A section behind its exit code. -/
def Phase.details (n : Nat) (e : Entry) : Phase → Output
  | .host =>
      if e.logSnippet = [] ∨ e.logSnippet = "null".toList then echo [[]]
      else
        (echo ["- **Log**:".toList, "  ```".toList]).andThen
          ((logLines S n e.logSnippet).andThen (echo ["  ```".toList, []]))
  | .unit => echo [[]]
  | .vm => echo (screenshotLines (screenshotOf e.gate) ++ [[]])

/-- The body of a pass. -/
def Phase.entry (phase : Phase) (n : Nat) (line : Line) : Output :=
  match readField S "gate" none line with
  | none => echo []
  | some gate =>
      if phase.pattern <+: gate then
        match readEntry S gate line with
        | none => ⟨[], false⟩
        | some e => (echo (headLines e)).andThen (phase.details S n e)
      else echo []

def tableRow (gate mark : List Char) : List Char :=
  "| ".toList ++ (gate ++ (" | ".toList ++ (mark ++ " |".toList)))

/-- The body of the loop behind the head of the table. -/
def summaryEntry (line : Line) : Output :=
  match readField S "gate" none line with
  | none => echo []
  | some gate =>
      match readField S "status" none line with
      | none => ⟨[], false⟩
      | some status => echo [tableRow gate (icon status)]

def decimal (n : Nat) : List Char :=
  Nat.toDigits 10 n

def reportHead : List (List Char) :=
  ["# Quality Gate Verification Report".toList, [],
    "**Date**: ".toList ++ S.timestamp, "**Commit**: ".toList ++ S.gitCommit,
    "**Result**: ".toList ++ (decimal S.passedGates ++ ('/' :: (decimal S.totalGates ++
      " gates passed".toList))), [],
    "---".toList, [], "## Phase 0: Host-Side Verification".toList, []]

def unitHead : List (List Char) :=
  ["## Phase 1: Compositor Verification".toList, [],
    "### Phase 1 Host-Side Unit Tests".toList, []]

def vmHead : List (List Char) :=
  ["### Phase 1 VM-Side Gates".toList, []]

def summaryHead : List (List Char) :=
  ["---".toList, [], "## Final Summary".toList, [],
    "**Date**: ".toList ++ S.timestamp, "**Commit**: ".toList ++ S.gitCommit, [],
    "| Gate | Status |".toList, "|------|--------|".toList]

def reportEnd : List (List Char) :=
  [[], "**Total**: ".toList ++ (decimal S.totalGates ++ (" gates attempted, ".toList ++
    (decimal S.passedGates ++ (" passed, ".toList ++ (decimal S.failedGates ++
      (" failed, ".toList ++ (decimal S.skippedGates ++ " skipped".toList)))))))]

def generateReport (file : List Char) : Output :=
  (echo (reportHead S)).andThen <|
  (overLines (Phase.host.entry S) 0 (readLines file)).andThen <|
  (echo unitHead).andThen <|
  (overLines (Phase.unit.entry S) 0 (readLines file)).andThen <|
  (echo vmHead).andThen <|
  (overLines (Phase.vm.entry S) 0 (readLines file)).andThen <|
  (echo (summaryHead S)).andThen <|
  (overLines (fun _ => summaryEntry S) 0 (readLines file)).andThen <|
  echo (reportEnd S)

end Printing

/-- What `record_result` has appended. -/
def resultsFile (records : List ResultCall) : List Char :=
  records.flatMap fun r => resultLine r ++ ['\n']

def isHeading (line : Line) : Bool :=
  "### Gate ".toList.isPrefixOf line

/-- Rows of the table, without its head. -/
def isRow (line : Line) : Bool :=
  "| ".toList.isPrefixOf line && line != "| Gate | Status |".toList

/-- The headings of the gates, each with the line below it. -/
def sectionsOf : List Line → List (Line × Line)
  | [] => []
  | line :: lines =>
      if isHeading line then (line, lines.headD []) :: sectionsOf lines else sectionsOf lines

def rowsOf (report : List Line) : List Line :=
  report.filter isRow

def statusMark : GateStatus → List Char
  | .pass => "✅ PASS".toList
  | .fail => "❌ FAIL".toList
  | .skip => "⏭  SKIP".toList

def sectionOf (r : ResultCall) : Line × Line :=
  ("### Gate ".toList ++ r.gate, "- **Status**: ".toList ++ statusMark r.status)

def rowOf (r : ResultCall) : Line :=
  tableRow r.gate (statusMark r.status)

/-- One section and one row for each record, with its status. -/
structure Reported (records : List ResultCall) (report : List Line) : Prop where
  sections : (sectionsOf report).Perm (records.map sectionOf)
  rows : rowsOf report = records.map rowOf

/-- The log as it is printed: the script has lost the line breaks at its end. -/
def printedLog (r : ResultCall) : List Char :=
  r.logSnippet.rdropWhile (· == '\n')

/-- The n-th record is legible, has an id that one of the passes takes, and a log of which
`head` takes enough. -/
structure Reportable (S : Surroundings) (n : Nat) (r : ResultCall) : Prop where
  legible : Legible r
  phase : ∃ phase : Phase, phase.pattern <+: r.gate
  log : Phase.host.pattern <+: r.gate → S.hangsUp n = true →
    ((printedLog r).splitOn '\n').length ≤ 20

section Legible

variable {r : ResultCall}

theorem ne_newline_of_isControl {c : Char} (h : isControl c = false) : c ≠ '\n' := by
  rintro rfl
  cases h

theorem not_isControl_of_isPlain {c : Char} (h : isPlain c = true) : isControl c = false := by
  simp only [isPlain, Bool.and_eq_true, Bool.not_eq_true'] at h
  exact h.2

theorem newline_notMem {text : List Char} (h : ∀ c ∈ text, isControl c = false) :
    '\n' ∉ text :=
  fun hmem => ne_newline_of_isControl (h _ hmem) rfl

theorem newline_notMem_append {first second : List Char} (h : '\n' ∉ first)
    (h' : '\n' ∉ second) : '\n' ∉ first ++ second := by
  rw [List.mem_append, not_or]
  exact ⟨h, h'⟩

theorem not_isControl_of_mem_toDigits {n : Nat} {c : Char} (h : c ∈ Nat.toDigits 10 n) :
    isControl c = false := by
  obtain ⟨hge, -⟩ := toNat_of_isDigit (isDigit_of_mem_toDigits h)
  rw [isControl, decide_eq_false_iff_not]
  omega

theorem not_isControl_of_mem_intText {n : Int} {c : Char} (h : c ∈ intText n) :
    isControl c = false := by
  cases n with
  | ofNat n => exact not_isControl_of_mem_toDigits h
  | negSucc n =>
      rcases List.mem_cons.mp h with rfl | h
      · decide
      · exact not_isControl_of_mem_toDigits h

theorem not_isControl_of_mem_exitCodeText {exitCode : Option Nat} {c : Char}
    (h : c ∈ exitCodeText exitCode) : isControl c = false := by
  cases exitCode with
  | none =>
      have hplain : ∀ c ∈ exitCodeText none, isPlain c = true := List.all_eq_true.mp (by decide)
      exact not_isControl_of_isPlain (hplain c h)
  | some n => exact not_isControl_of_mem_toDigits h

theorem Legible.gate_not_isControl (h : Legible r) : ∀ c ∈ r.gate, isControl c = false :=
  fun c hc => not_isControl_of_isPlain (h.gate c hc)

theorem Legible.newline_notMem_resultLine (h : Legible r) : '\n' ∉ resultLine r := by
  have hgate : '\n' ∉ r.gate := newline_notMem h.gate_not_isControl
  have hstatus : '\n' ∉ statusText r.status :=
    newline_notMem fun c hc => not_isControl_of_isPlain (isPlain_statusText r.status c hc)
  have hcommand : '\n' ∉ escapedCmd r.command := by
    rw [escapedCmd_eq fun c hc => r.noNul c (List.mem_append_left _ hc), ← recordedCommand,
      ((recordedCommand_eq_iff r).mpr h.command).2]
    intro hmem
    rcases of_mem_escape hmem with hc | hc
    · cases hc
    · exact ne_newline_of_isControl (h.command _ hc) rfl
  have hlog : '\n' ∉ escapedLog r.logSnippet := by
    rw [escapedLog_eq fun c hc => r.noNul c (List.mem_append_right _ hc)]
    exact fun hmem => (of_mem_escapedLines hmem).1 rfl
  have hexit : '\n' ∉ exitCodeText r.exitCode :=
    newline_notMem fun c hc => not_isControl_of_mem_exitCodeText hc
  have helapsed : '\n' ∉ intText r.elapsedMs :=
    newline_notMem fun c hc => not_isControl_of_mem_intText hc
  simp [resultLine_eq, lineTail, hgate, hstatus, hcommand, hlog, hexit, helapsed]

theorem readLines_resultsFile {records : List ResultCall} (h : ∀ r ∈ records, Legible r) :
    readLines (resultsFile records) = records.map resultLine := by
  induction records with
  | nil => rfl
  | cons r records ih =>
      obtain ⟨hr, hrecords⟩ := List.forall_mem_cons.mp h
      have hne : (resultsFile records).splitOn '\n' ≠ [] := List.splitOn_ne_nil '\n' _
      have hcons : resultsFile (r :: records) = resultLine r ++ '\n' :: resultsFile records := by
        rw [resultsFile, List.flatMap_cons, List.append_assoc]
        rfl
      have hrest := ih hrecords
      rw [readLines] at hrest
      rw [readLines, hcons, List.splitOn_append_cons_self,
        List.splitOn_eq_singleton hr.newline_notMem_resultLine, List.singleton_append,
        List.dropLast_cons_of_ne_nil hne, hrest, List.map_cons]

theorem character?_toNat (c : Char) : character? c.toNat = some c := by
  have hvalid : c.toNat.isValidChar := c.valid
  rw [character?, if_pos hvalid, Char.ofNat_toNat]

theorem mapM_character?_codes (text : List Char) :
    (codes text).mapM character? = some text := by
  induction text with
  | nil => rfl
  | cons c text ih =>
      change ((c.toNat :: codes text).mapM character?) = _
      rw [List.mapM_cons, character?_toNat, ih]
      rfl

variable (S : Surroundings)

theorem Legible.members (h : Legible r) : ∃ members, Decodes r members :=
  (decodes_iff r).mpr h

theorem readField_of_lookup {members : List (List Nat × Value)} {line : Line} {name : String}
    {v : Value} {text : List Char} (absent : Option (List Char))
    (hparse : parse line = some (.obj members)) (hlookup : lookup members (key name) = some v)
    (hprinted : printed S v = some text) :
    readField S name absent line = some (substituted text) := by
  rw [readField, hparse, Option.bind_some]
  simp only [hlookup, Option.elim_some, hprinted, Option.map_some,
    substituted_append_newline]

theorem substituted_of_not_isControl {text : List Char} (h : ∀ c ∈ text, isControl c = false) :
    substituted text = text := by
  refine substituted_of_line ?_ (newline_notMem h)
  intro c hc hzero
  have hcontrol := h c hc
  rw [isControl, hzero] at hcontrol
  cases hcontrol

/-- The exit code of a skipped gate is python's. -/
def printedExitCode : Option Nat → List Char
  | some n => Nat.toDigits 10 n
  | none => "None".toList

theorem Legible.readGate (h : Legible r) :
    readField S "gate" none (resultLine r) = some r.gate := by
  obtain ⟨members, hmembers⟩ := h.members
  rw [readField_of_lookup S none hmembers.parsed hmembers.gate (mapM_character?_codes _),
    substituted_of_not_isControl h.gate_not_isControl]

theorem Legible.readStatus (h : Legible r) :
    readField S "status" none (resultLine r) = some (statusText r.status) := by
  obtain ⟨members, hmembers⟩ := h.members
  rw [readField_of_lookup S none hmembers.parsed hmembers.status (mapM_character?_codes _),
    substituted_of_not_isControl fun c hc =>
      not_isControl_of_isPlain (isPlain_statusText r.status c hc)]

def entryOf (r : ResultCall) : Entry :=
  ⟨r.gate, statusText r.status, r.command, printedExitCode r.exitCode, printedLog r⟩

theorem Legible.readEntry (h : Legible r) :
    readEntry S r.gate (resultLine r) = some (entryOf r) := by
  obtain ⟨members, hmembers⟩ := h.members
  have hcommand := readField_of_lookup S (some []) hmembers.parsed hmembers.command
    (mapM_character?_codes _)
  have hlog := readField_of_lookup S (some []) hmembers.parsed hmembers.logSnippet
    (mapM_character?_codes _)
  have hexit : ∀ e : Option Nat,
      printed S (exitCodeValue e) = some (printedExitCode e) ∧
        substituted (printedExitCode e) = printedExitCode e := by
    rintro (_ | n)
    · exact ⟨rfl, by decide⟩
    · exact ⟨rfl, substituted_of_not_isControl fun c hc => not_isControl_of_mem_toDigits hc⟩
  have hexitCode := readField_of_lookup S (some "null".toList) hmembers.parsed
    hmembers.exitCode (hexit r.exitCode).1
  have hprinted : substituted r.logSnippet = printedLog r := by
    have hfilter : r.logSnippet.filter (·.toNat != 0) = r.logSnippet :=
      List.filter_eq_self.mpr fun c hc =>
        bne_iff_ne.mpr (r.noNul c (List.mem_append_right _ hc))
    rw [substituted, hfilter, printedLog]
  rw [substituted_of_not_isControl h.command] at hcommand
  rw [hprinted] at hlog
  rw [(hexit r.exitCode).2] at hexitCode
  rw [QualityGates.readEntry, h.readStatus, hcommand, hexitCode, hlog]
  rfl

end Legible

section Outputs

theorem andThen_of_goesOn {first : Output} (h : first.goesOn = true) (second : Output) :
    first.andThen second = ⟨first.lines ++ second.lines, second.goesOn⟩ :=
  if_pos h

theorem andThen_goesOn (first second : Output) :
    (first.andThen second).goesOn = (first.goesOn && second.goesOn) := by
  rcases h : first.goesOn with _ | _
  · rw [Output.andThen, h, Bool.false_and, if_neg Bool.false_ne_true, h]
  · rw [andThen_of_goesOn h, Bool.true_and]

theorem echo_of_lines {texts : List (List Char)} (h : ∀ text ∈ texts, '\n' ∉ text) :
    echo texts = ⟨texts, true⟩ := by
  have hflat : texts.flatMap (·.splitOn '\n') = texts := by
    induction texts with
    | nil => rfl
    | cons text texts ih =>
        obtain ⟨htext, htexts⟩ := List.forall_mem_cons.mp h
        rw [List.flatMap_cons, ih htexts, List.splitOn_eq_singleton htext,
          List.singleton_append]
  rw [echo, hflat]

/-- A line that is neither a heading of a gate nor a row. -/
def isOrdinary (line : Line) : Bool :=
  !isHeading line && !isRow line

theorem isOrdinary_append {start : List Char} {c : Char} (hhead : start.head? = some c)
    (hheading : c ≠ '#') (hrow : c ≠ '|') (rest : List Char) :
    isOrdinary (start ++ rest) = true := by
  obtain ⟨start, rfl⟩ := List.head?_eq_some_iff.mp hhead
  rw [isOrdinary, List.cons_append]
  simp [isHeading, isRow, List.isPrefixOf, Ne.symm hheading, Ne.symm hrow]

theorem isOrdinary_eq_true {line : Line} :
    isOrdinary line = true ↔ isHeading line = false ∧ isRow line = false := by
  simp [isOrdinary]

theorem isHeading_heading (gate : List Char) : isHeading ("### Gate ".toList ++ gate) = true := by
  rw [isHeading, List.isPrefixOf_iff_prefix]
  exact List.prefix_append _ _

theorem isRow_heading (gate : List Char) : isRow ("### Gate ".toList ++ gate) = false := by
  simp [isRow, List.isPrefixOf]

theorem isRow_tableRow (gate : List Char) (status : GateStatus) :
    isRow (tableRow gate (statusMark status)) = true := by
  have hne : tableRow gate (statusMark status) ≠ "| Gate | Status |".toList := by
    have hmark : ∃ c ∈ statusMark status, c ∉ "| Gate | Status |".toList := by
      cases status with
      | pass => exact ⟨'✅', by decide, by decide⟩
      | fail => exact ⟨'❌', by decide, by decide⟩
      | skip => exact ⟨'⏭', by decide, by decide⟩
    obtain ⟨c, hc, hnone⟩ := hmark
    intro heq
    refine hnone (heq ▸ ?_)
    simp [tableRow, hc]
  rw [isRow, bne_iff_ne.mpr hne, Bool.and_true, List.isPrefixOf_iff_prefix]
  exact List.prefix_append _ _

theorem isHeading_tableRow (gate mark : List Char) : isHeading (tableRow gate mark) = false := by
  simp [isHeading, tableRow, List.isPrefixOf]

theorem sectionsOf_append {first : List Line} (second : List Line)
    (h : ∀ line ∈ first.getLast?, isHeading line = false) :
    sectionsOf (first ++ second) = sectionsOf first ++ sectionsOf second := by
  induction first with
  | nil => rfl
  | cons line first ih =>
      rw [List.cons_append, sectionsOf, sectionsOf]
      rcases eq_or_ne first [] with rfl | hne
      · have hline : isHeading line = false := h line rfl
        simp [hline, sectionsOf]
      · rw [List.getLast?_cons_of_ne_nil hne] at h
        have hhead : (first ++ second).headD [] = first.headD [] := by
          obtain ⟨next, first, rfl⟩ := List.exists_cons_of_ne_nil hne
          rfl
        rw [ih h, hhead]
        split
        · rfl
        · rfl

theorem sectionsOf_of_ordinary {lines : List Line}
    (h : ∀ line ∈ lines, isHeading line = false) : sectionsOf lines = [] := by
  induction lines with
  | nil => rfl
  | cons line lines ih =>
      obtain ⟨hline, hlines⟩ := List.forall_mem_cons.mp h
      rw [sectionsOf, hline, if_neg Bool.false_ne_true, ih hlines]

/-- What a reader finds in a part of the report that ends without a heading. -/
structure Output.Shows (o : Output) (sections : List (Line × Line)) (rows : List Line) : Prop where
  sections : sectionsOf o.lines = sections
  rows : rowsOf o.lines = rows
  closed : ∀ line ∈ o.lines.getLast?, isHeading line = false

theorem Output.Shows.andThen {o o' : Output} {sections sections' : List (Line × Line)}
    {rows rows' : List Line} (h : o.Shows sections rows) (h' : o'.Shows sections' rows')
    (hgoes : o.goesOn = true) : (o.andThen o').Shows (sections ++ sections') (rows ++ rows') := by
  rw [andThen_of_goesOn hgoes]
  constructor
  · rw [sectionsOf_append _ h.closed, h.sections, h'.sections]
  · rw [← h.rows, ← h'.rows]
    exact List.filter_append ..
  · intro line hline
    rw [List.getLast?_append] at hline
    rcases Option.or_eq_some_iff.mp hline with hlast | ⟨-, hlast⟩
    · exact h'.closed line hlast
    · exact h.closed line hlast

theorem shows_of_ordinary {o : Output} (h : ∀ line ∈ o.lines, isOrdinary line = true) :
    o.Shows [] [] := by
  have hheading : ∀ line ∈ o.lines, isHeading line = false :=
    fun line hline => (isOrdinary_eq_true.mp (h line hline)).1
  refine ⟨sectionsOf_of_ordinary hheading, ?_, ?_⟩
  · rw [rowsOf, List.filter_eq_nil_iff]
    intro line hline
    rw [(isOrdinary_eq_true.mp (h line hline)).2]
    exact Bool.false_ne_true
  · intro line hline
    exact hheading line (List.mem_of_getLast? hline)

theorem mem_andThen_lines {o o' : Output} {line : Line} (h : line ∈ (o.andThen o').lines) :
    line ∈ o.lines ∨ line ∈ o'.lines := by
  rw [Output.andThen] at h
  split at h
  · exact List.mem_append.mp h
  · exact .inl h

theorem rowsOf_andThen {o o' : Output} (h : rowsOf o.lines = []) (h' : rowsOf o'.lines = []) :
    rowsOf (o.andThen o').lines = [] := by
  rw [rowsOf, List.filter_eq_nil_iff] at h h' ⊢
  intro line hline
  rcases mem_andThen_lines hline with hline | hline
  · exact h line hline
  · exact h' line hline

end Outputs

section Passes

variable (S : Surroundings) {r : ResultCall}

theorem icon_statusText (status : GateStatus) : icon (statusText status) = statusMark status := by
  cases status <;> decide

theorem newline_notMem_statusMark (status : GateStatus) : '\n' ∉ statusMark status := by
  cases status <;> decide

theorem of_mem_callLines {e : Entry} {text : List Char} (h : text ∈ callLines e) :
    text = "- **Command**: `".toList ++ (e.command ++ ['\x60']) ∨
      text = "- **Exit Code**: ".toList ++ e.exitCode := by
  rcases List.mem_append.mp h with h | h
  · by_cases hnil : e.command = []
    · rw [if_pos hnil] at h
      cases h
    · rw [if_neg hnil] at h
      exact .inl (List.mem_singleton.mp h)
  · exact .inr (List.mem_singleton.mp h)

theorem isOrdinary_callLines (e : Entry) : ∀ line ∈ callLines e, isOrdinary line = true := by
  intro line hline
  rcases of_mem_callLines hline with h | h
  · rw [h]
    exact isOrdinary_append (c := '-') (by decide) (by decide) (by decide) _
  · rw [h]
    exact isOrdinary_append (c := '-') (by decide) (by decide) (by decide) _

theorem headLines_entryOf (r : ResultCall) :
    headLines (entryOf r) = (sectionOf r).1 :: (sectionOf r).2 :: callLines (entryOf r) := by
  unfold headLines sectionOf
  rw [← icon_statusText r.status]
  unfold entryOf
  dsimp only

theorem Legible.echo_headLines (h : Legible r) :
    echo (headLines (entryOf r)) =
      ⟨(sectionOf r).1 :: (sectionOf r).2 :: callLines (entryOf r), true⟩ := by
  have hgate : '\n' ∉ r.gate := newline_notMem h.gate_not_isControl
  have hcommand : '\n' ∉ r.command := newline_notMem h.command
  have hexit : '\n' ∉ printedExitCode r.exitCode := by
    cases r.exitCode with
    | none => decide
    | some n => exact newline_notMem fun c hc => not_isControl_of_mem_toDigits hc
  have hheading : '\n' ∉ (sectionOf r).1 :=
    newline_notMem_append (by decide) hgate
  have hstatus : '\n' ∉ (sectionOf r).2 :=
    newline_notMem_append (by decide) (newline_notMem_statusMark r.status)
  rw [headLines_entryOf]
  apply echo_of_lines
  refine List.forall_mem_cons.mpr ⟨hheading, List.forall_mem_cons.mpr ⟨hstatus, ?_⟩⟩
  intro text htext
  rcases of_mem_callLines htext with heq | heq
  · rw [heq]
    exact newline_notMem_append (by decide) (newline_notMem_append hcommand (by decide))
  · rw [heq]
    exact newline_notMem_append (by decide) hexit

theorem Legible.shows_headLines (h : Legible r) :
    (echo (headLines (entryOf r))).Shows [sectionOf r] [] := by
  have hshows : Output.Shows ⟨callLines (entryOf r), true⟩ [] [] :=
    shows_of_ordinary (isOrdinary_callLines (entryOf r))
  have hne : callLines (entryOf r) ≠ [] := by
    rw [callLines]
    exact List.append_ne_nil_of_right_ne_nil _ (List.cons_ne_nil _ _)
  have hheading : isHeading (sectionOf r).1 = true := isHeading_heading r.gate
  have hrow : isRow (sectionOf r).1 = false := isRow_heading r.gate
  have hstatus : isOrdinary (sectionOf r).2 = true :=
    isOrdinary_append (c := '-') (by decide) (by decide) (by decide) _
  obtain ⟨hstatusHeading, hstatusRow⟩ := isOrdinary_eq_true.mp hstatus
  rw [h.echo_headLines]
  constructor
  · simp only [sectionsOf, hheading, hstatusHeading, if_true, Bool.false_eq_true, if_false]
    rw [hshows.sections]
    rfl
  · have hrows := hshows.rows
    rw [rowsOf] at hrows
    simp [rowsOf, hrow, hstatusRow, hrows]
  · rw [List.getLast?_cons_of_ne_nil (List.cons_ne_nil _ _), List.getLast?_cons_of_ne_nil hne]
    exact hshows.closed

theorem isOrdinary_details (phase : Phase) (n : Nat) (e : Entry) :
    ∀ line ∈ (phase.details S n e).lines, isOrdinary line = true := by
  have hempty : ∀ line ∈ (echo [[]]).lines, isOrdinary line = true := by decide
  intro line hline
  cases phase with
  | host =>
      rw [Phase.details] at hline
      split at hline
      · exact hempty line hline
      rcases mem_andThen_lines hline with hline | hline
      · exact (by decide : ∀ line ∈ (echo ["- **Log**:".toList, "  ```".toList]).lines,
          isOrdinary line = true) line hline
      rcases mem_andThen_lines hline with hline | hline
      · obtain ⟨text, -, heq⟩ := List.mem_map.mp hline
        rw [← heq]
        exact isOrdinary_append (c := ' ') (by decide) (by decide) (by decide) text
      · exact (by decide : ∀ line ∈ (echo ["  ```".toList, []]).lines,
          isOrdinary line = true) line hline
  | unit => exact hempty line hline
  | vm =>
      have hname : screenshotOf e.gate ∈ ["1.2-surface-protocols".toList,
          "1.3-xdg-shell".toList, "1.4-input-routing".toList, []] := by
        rw [screenshotOf]
        split
        · simp
        split
        · simp
        split
        · simp
        · simp
      have hall : ∀ name ∈ ["1.2-surface-protocols".toList, "1.3-xdg-shell".toList,
          "1.4-input-routing".toList, []],
          ∀ line ∈ (echo (screenshotLines name ++ [[]])).lines, isOrdinary line = true := by
        decide
      exact hall _ hname line hline

theorem Legible.entry_eq (h : Legible r) (phase : Phase) (n : Nat) :
    phase.entry S n (resultLine r) =
      if phase.pattern <+: r.gate then
        (echo (headLines (entryOf r))).andThen (phase.details S n (entryOf r))
      else echo [] := by
  rw [Phase.entry, h.readGate]
  dsimp only
  rw [h.readEntry]

/-- Whether a pass gets over the record. -/
def Phase.TakesLog (phase : Phase) (n : Nat) (r : ResultCall) : Prop :=
  phase = .host → phase.pattern <+: r.gate → S.hangsUp n = true →
    ((printedLog r).splitOn '\n').length ≤ 20

theorem details_goesOn (phase : Phase) (n : Nat) (e : Entry) :
    (phase.details S n e).goesOn = true ↔
      (phase = .host → S.hangsUp n = true → (e.logSnippet.splitOn '\n').length ≤ 20) := by
  cases phase with
  | host =>
      rw [Phase.details]
      split
      · next hshort =>
          refine iff_of_true rfl fun _ _ => ?_
          rcases hshort with hshort | hshort
          · rw [hshort]
            decide
          · rw [hshort]
            decide
      · rw [andThen_of_goesOn rfl, andThen_goesOn]
        change ((decide _ || !S.hangsUp n) && true) = true ↔ _
        rw [Bool.and_true]
        rcases S.hangsUp n with _ | _
        · simp
        · simp
  | unit => exact iff_of_true rfl (by rintro ⟨⟩)
  | vm => exact iff_of_true rfl (by rintro ⟨⟩)

theorem Legible.entry_goesOn (h : Legible r) (phase : Phase) (n : Nat) :
    (phase.entry S n (resultLine r)).goesOn = true ↔ phase.TakesLog S n r := by
  rw [h.entry_eq, Phase.TakesLog]
  split
  · next hphase =>
      rw [andThen_of_goesOn rfl]
      refine (details_goesOn S phase n (entryOf r)).trans ?_
      exact forall_congr' fun _ => ⟨fun hlog _ => hlog, fun hlog => hlog hphase⟩
  · next hphase => exact iff_of_true rfl fun _ hprefix => absurd hprefix hphase

theorem Legible.shows_entry (h : Legible r) (phase : Phase) (n : Nat) :
    (phase.entry S n (resultLine r)).Shows
      (if phase.pattern <+: r.gate then [sectionOf r] else []) [] := by
  rw [h.entry_eq]
  split
  · exact h.shows_headLines.andThen (shows_of_ordinary (isOrdinary_details S phase n _)) rfl
  · exact shows_of_ordinary (by simp [echo])

variable {records : List ResultCall}

theorem forall_getElem?_cons {P : Nat → ResultCall → Prop} {n : Nat} :
    (∀ i r', (r :: records)[i]? = some r' → P (n + i) r') ↔
      P n r ∧ ∀ i r', records[i]? = some r' → P (n + 1 + i) r' := by
  constructor
  · intro h
    refine ⟨h 0 r rfl, fun i r' hr' => ?_⟩
    rw [Nat.add_right_comm]
    exact h (i + 1) r' hr'
  · rintro ⟨hfirst, hrest⟩ (_ | i) r' hr'
    · cases hr'
      exact hfirst
    · have hi := hrest i r' hr'
      rwa [Nat.add_right_comm] at hi

theorem pass_goesOn (h : ∀ r ∈ records, Legible r) (phase : Phase) (n : Nat) :
    (overLines (phase.entry S) n (records.map resultLine)).goesOn = true ↔
      ∀ i r, records[i]? = some r → phase.TakesLog S (n + i) r := by
  induction records generalizing n with
  | nil => exact iff_of_true rfl (by simp)
  | cons r records ih =>
      obtain ⟨hr, hrecords⟩ := List.forall_mem_cons.mp h
      rw [List.map_cons, overLines, andThen_goesOn, Bool.and_eq_true, hr.entry_goesOn,
        ih hrecords, forall_getElem?_cons]

theorem rowsOf_pass (h : ∀ r ∈ records, Legible r) (phase : Phase) (n : Nat) :
    rowsOf (overLines (phase.entry S) n (records.map resultLine)).lines = [] := by
  induction records generalizing n with
  | nil => rfl
  | cons r records ih =>
      obtain ⟨hr, hrecords⟩ := List.forall_mem_cons.mp h
      rw [List.map_cons, overLines]
      exact rowsOf_andThen (hr.shows_entry S phase n).rows (ih hrecords (n + 1))

/-- The records that a pass takes. -/
def Phase.taken (phase : Phase) (records : List ResultCall) : List ResultCall :=
  records.filter fun r => decide (phase.pattern <+: r.gate)

theorem shows_pass (h : ∀ r ∈ records, Legible r) (phase : Phase) (n : Nat)
    (hgoes : (overLines (phase.entry S) n (records.map resultLine)).goesOn = true) :
    (overLines (phase.entry S) n (records.map resultLine)).Shows
      ((phase.taken records).map sectionOf) [] := by
  induction records generalizing n with
  | nil => exact shows_of_ordinary (by simp [overLines, echo])
  | cons r records ih =>
      obtain ⟨hr, hrecords⟩ := List.forall_mem_cons.mp h
      rw [List.map_cons, overLines] at hgoes ⊢
      rw [andThen_goesOn, Bool.and_eq_true] at hgoes
      have hshows := (hr.shows_entry S phase n).andThen (ih hrecords (n + 1) hgoes.2) hgoes.1
      rw [Phase.taken, List.filter_cons]
      by_cases hphase : phase.pattern <+: r.gate
      · rw [if_pos hphase] at hshows
        rw [if_pos (decide_eq_true hphase)]
        exact hshows
      · rw [if_neg hphase] at hshows
        rw [if_neg (by simpa using hphase)]
        exact hshows

theorem Legible.summaryEntry_eq (h : Legible r) :
    summaryEntry S (resultLine r) = ⟨[rowOf r], true⟩ := by
  rw [summaryEntry, h.readGate]
  dsimp only
  rw [h.readStatus]
  dsimp only
  rw [icon_statusText, ← rowOf]
  apply echo_of_lines
  intro text htext
  rw [List.mem_singleton.mp htext, rowOf, tableRow]
  refine newline_notMem_append (by decide) ?_
  refine newline_notMem_append (newline_notMem h.gate_not_isControl) ?_
  refine newline_notMem_append (by decide) ?_
  exact newline_notMem_append (newline_notMem_statusMark r.status) (by decide)

theorem summary_eq (h : ∀ r ∈ records, Legible r) (n : Nat) :
    overLines (fun _ => summaryEntry S) n (records.map resultLine) =
      ⟨records.map rowOf, true⟩ := by
  induction records generalizing n with
  | nil => rfl
  | cons r records ih =>
      obtain ⟨hr, hrecords⟩ := List.forall_mem_cons.mp h
      rw [List.map_cons, overLines, hr.summaryEntry_eq, ih hrecords, andThen_of_goesOn rfl]
      rfl

theorem shows_rows (records : List ResultCall) :
    Output.Shows ⟨records.map rowOf, true⟩ [] (records.map rowOf) := by
  have hheading : ∀ line ∈ records.map rowOf, isHeading line = false := by
    intro line hline
    obtain ⟨r, -, rfl⟩ := List.mem_map.mp hline
    exact isHeading_tableRow r.gate _
  refine ⟨sectionsOf_of_ordinary hheading, ?_, ?_⟩
  · rw [rowsOf, List.filter_eq_self]
    intro line hline
    obtain ⟨r, -, rfl⟩ := List.mem_map.mp hline
    exact isRow_tableRow r.gate r.status
  · intro line hline
    exact hheading line (List.mem_of_getLast? hline)

end Passes

section Report

variable (S : Surroundings)

theorem shows_echo {texts : List (List Char)}
    (h : ∀ text ∈ texts, '\n' ∉ text ∧ isOrdinary text = true) : (echo texts).Shows [] [] := by
  rw [echo_of_lines fun text htext => (h text htext).1]
  exact shows_of_ordinary fun line hline => (h line hline).2

theorem newline_notMem_decimal (n : Nat) : '\n' ∉ decimal n :=
  newline_notMem fun _ hc => not_isControl_of_mem_toDigits hc

theorem ordinary_append {start : List Char} {c : Char} (hhead : start.head? = some c)
    (hc : c ≠ '#' ∧ c ≠ '|') (hstart : '\n' ∉ start) {rest : List Char} (hrest : '\n' ∉ rest) :
    '\n' ∉ start ++ rest ∧ isOrdinary (start ++ rest) = true :=
  ⟨newline_notMem_append hstart hrest, isOrdinary_append hhead hc.1 hc.2 rest⟩

theorem Surroundings.date_ordinary :
    '\n' ∉ "**Date**: ".toList ++ S.timestamp ∧
      isOrdinary ("**Date**: ".toList ++ S.timestamp) = true :=
  ordinary_append (c := '*') (by decide) (by decide) (by decide)
    fun h => S.oneLine (List.mem_append_left _ h)

theorem Surroundings.commit_ordinary :
    '\n' ∉ "**Commit**: ".toList ++ S.gitCommit ∧
      isOrdinary ("**Commit**: ".toList ++ S.gitCommit) = true :=
  ordinary_append (c := '*') (by decide) (by decide) (by decide)
    fun h => S.oneLine (List.mem_append_right _ h)

theorem shows_reportHead : (echo (reportHead S)).Shows [] [] := by
  have hresult : '\n' ∉ decimal S.passedGates ++ ('/' :: (decimal S.totalGates ++
      " gates passed".toList)) := by
    refine newline_notMem_append (newline_notMem_decimal _) ?_
    refine List.not_mem_cons_of_ne_of_not_mem (by decide) ?_
    exact newline_notMem_append (newline_notMem_decimal _) (by decide)
  apply shows_echo
  simp only [reportHead, List.forall_mem_cons]
  exact ⟨by decide, by decide, S.date_ordinary, S.commit_ordinary,
    ordinary_append (c := '*') (by decide) (by decide) (by decide) hresult,
    by decide, by decide, by decide, by decide, by decide, by simp⟩

theorem shows_summaryHead : (echo (summaryHead S)).Shows [] [] := by
  apply shows_echo
  simp only [summaryHead, List.forall_mem_cons]
  exact ⟨by decide, by decide, by decide, by decide, S.date_ordinary, S.commit_ordinary,
    by decide, by decide, by decide, by simp⟩

theorem shows_reportEnd : (echo (reportEnd S)).Shows [] [] := by
  have htotal : '\n' ∉ decimal S.totalGates ++ (" gates attempted, ".toList ++
      (decimal S.passedGates ++ (" passed, ".toList ++ (decimal S.failedGates ++
        (" failed, ".toList ++ (decimal S.skippedGates ++ " skipped".toList)))))) := by
    refine newline_notMem_append (newline_notMem_decimal _) ?_
    refine newline_notMem_append (by decide) ?_
    refine newline_notMem_append (newline_notMem_decimal _) ?_
    refine newline_notMem_append (by decide) ?_
    refine newline_notMem_append (newline_notMem_decimal _) ?_
    refine newline_notMem_append (by decide) ?_
    exact newline_notMem_append (newline_notMem_decimal _) (by decide)
  apply shows_echo
  simp only [reportEnd, List.forall_mem_cons]
  exact ⟨by decide, ordinary_append (c := '*') (by decide) (by decide) (by decide) htotal,
    by simp⟩

theorem shows_unitHead : (echo unitHead).Shows [] [] :=
  shows_of_ordinary (by decide)

theorem shows_vmHead : (echo vmHead).Shows [] [] :=
  shows_of_ordinary (by decide)

theorem Phase.eq_of_pattern_prefix {gate : List Char} {phase phase' : Phase}
    (h : phase.pattern <+: gate) (h' : phase'.pattern <+: gate) : phase = phase' := by
  rcases List.prefix_or_prefix_of_prefix h h' with hprefix | hprefix
  · revert hprefix
    cases phase <;> cases phase' <;> decide
  · revert hprefix
    cases phase <;> cases phase' <;> decide

theorem taken_perm {records : List ResultCall}
    (h : ∀ r ∈ records, ∃ phase : Phase, phase.pattern <+: r.gate) :
    (Phase.host.taken records ++ (Phase.unit.taken records ++ Phase.vm.taken records)).Perm
      records := by
  induction records with
  | nil => exact List.Perm.refl _
  | cons r records ih =>
      obtain ⟨⟨phase, hphase⟩, hrecords⟩ := List.forall_mem_cons.mp h
      have htaken : ∀ phase' : Phase, phase'.taken (r :: records) =
          if phase' = phase then r :: phase'.taken records else phase'.taken records := by
        intro phase'
        rw [Phase.taken, List.filter_cons]
        by_cases heq : phase' = phase
        · rw [if_pos heq, heq, if_pos (decide_eq_true hphase), Phase.taken]
        · have hnone : ¬ phase'.pattern <+: r.gate :=
            fun hprefix => heq (Phase.eq_of_pattern_prefix hprefix hphase)
          rw [if_neg heq, if_neg (by simpa using hnone), Phase.taken]
      have hrest := (ih hrecords).cons r
      rw [htaken, htaken, htaken]
      cases phase with
      | host => exact hrest
      | unit => exact List.perm_middle.trans hrest
      | vm =>
          refine (List.Perm.append_left _ List.perm_middle).trans ?_
          exact List.perm_middle.trans hrest

theorem sectionOf_gate {r r' : ResultCall} (h : sectionOf r = sectionOf r') :
    r.gate = r'.gate :=
  List.append_cancel_left (congrArg Prod.fst h)

variable {records : List ResultCall}

theorem shows_generateReport (h : ∀ r ∈ records, Legible r)
    (hlog : ∀ i r, records[i]? = some r → Phase.host.TakesLog S i r) :
    (generateReport S (resultsFile records)).Shows
      ((Phase.host.taken records ++ (Phase.unit.taken records ++ Phase.vm.taken records)).map
        sectionOf) (records.map rowOf) := by
  have hhost := (pass_goesOn S h .host 0).mpr fun i r hr => (Nat.zero_add i).symm ▸ hlog i r hr
  have hunit := (pass_goesOn S h .unit 0).mpr fun i r hr => by rintro ⟨⟩
  have hvm := (pass_goesOn S h .vm 0).mpr fun i r hr => by rintro ⟨⟩
  have htable : Output.Shows (overLines (fun _ => summaryEntry S) 0 (records.map resultLine)) []
      (records.map rowOf) := by
    rw [summary_eq S h]
    exact shows_rows records
  have htableGoes :
      (overLines (fun _ => summaryEntry S) 0 (records.map resultLine)).goesOn = true := by
    rw [summary_eq S h]
  rw [generateReport, readLines_resultsFile h]
  have hshows := (shows_reportHead S).andThen
    ((shows_pass S h .host 0 hhost).andThen
      (shows_unitHead.andThen
        ((shows_pass S h .unit 0 hunit).andThen
          (shows_vmHead.andThen
            ((shows_pass S h .vm 0 hvm).andThen
              ((shows_summaryHead S).andThen
                (htable.andThen (shows_reportEnd S) htableGoes) rfl) hvm) rfl) hunit) rfl)
        hhost) rfl
  simpa using hshows

theorem rowsOf_of_not_goesOn (h : ∀ r ∈ records, Legible r)
    (hgoes : (overLines (Phase.host.entry S) 0 (records.map resultLine)).goesOn = false) :
    rowsOf (generateReport S (resultsFile records)).lines = [] := by
  rw [generateReport, readLines_resultsFile h]
  refine rowsOf_andThen (shows_reportHead S).rows ?_
  rw [Output.andThen, hgoes, if_neg Bool.false_ne_true]
  exact rowsOf_pass S h .host 0

/-- What is recorded is read back, and has its section and its row, exactly when every record
is reportable. -/
theorem decodes_and_reported_iff (S : Surroundings) (records : List ResultCall) :
    ((∀ r ∈ records, ∃ members, Decodes r members) ∧
        Reported records (generateReport S (resultsFile records)).lines) ↔
      ∀ n r, records[n]? = some r → Reportable S n r := by
  constructor
  · rintro ⟨hdecodes, hreported⟩
    have hlegible : ∀ r ∈ records, Legible r := fun r hr => (decodes_iff r).mp (hdecodes r hr)
    have hlog : ∀ i r, records[i]? = some r → Phase.host.TakesLog S i r := by
      intro i r hr
      rcases hgoes : (overLines (Phase.host.entry S) 0 (records.map resultLine)).goesOn with _ | _
      · have hrows := hreported.rows
        rw [rowsOf_of_not_goesOn S hlegible hgoes] at hrows
        rw [List.map_eq_nil_iff.mp hrows.symm] at hr
        cases hr
      · have htakes := (pass_goesOn S hlegible .host 0).mp hgoes i r hr
        rwa [Nat.zero_add] at htakes
    intro n r hr
    refine ⟨hlegible r (List.mem_of_getElem? hr), ?_, fun hhost => hlog n r hr rfl hhost⟩
    have hmem : sectionOf r ∈ (Phase.host.taken records ++ (Phase.unit.taken records ++
        Phase.vm.taken records)).map sectionOf := by
      rw [← (shows_generateReport S hlegible hlog).sections, hreported.sections.mem_iff]
      exact List.mem_map_of_mem (List.mem_of_getElem? hr)
    obtain ⟨r', hr', hsection⟩ := List.mem_map.mp hmem
    rw [← sectionOf_gate hsection]
    rcases List.mem_append.mp hr' with hr' | hr'
    · exact ⟨.host, of_decide_eq_true (List.mem_filter.mp hr').2⟩
    rcases List.mem_append.mp hr' with hr' | hr'
    · exact ⟨.unit, of_decide_eq_true (List.mem_filter.mp hr').2⟩
    · exact ⟨.vm, of_decide_eq_true (List.mem_filter.mp hr').2⟩
  · intro h
    have hreportable : ∀ r ∈ records, ∃ n, Reportable S n r := by
      intro r hr
      obtain ⟨n, hn⟩ := List.mem_iff_getElem?.mp hr
      exact ⟨n, h n r hn⟩
    have hlegible : ∀ r ∈ records, Legible r := by
      intro r hr
      obtain ⟨n, hn⟩ := hreportable r hr
      exact hn.legible
    have hphase : ∀ r ∈ records, ∃ phase : Phase, phase.pattern <+: r.gate := by
      intro r hr
      obtain ⟨n, hn⟩ := hreportable r hr
      exact hn.phase
    have hshows := shows_generateReport S hlegible fun i r hr _ => (h i r hr).log
    refine ⟨fun r hr => (decodes_iff r).mpr (hlegible r hr), ?_, hshows.rows⟩
    rw [hshows.sections]
    exact (taken_perm hphase).map sectionOf

end Report

/-- A failed check whose tool colours its output. -/
def colouredCall : ResultCall where
  gate := "p0.02".toList
  status := .fail
  command := "wsl_run 'meson compile -C builddir 2>&1 | tail -20'".toList
  exitCode := some 1
  logSnippet := "\x1b[31mFAILED\x1b[0m: compositor".toList
  elapsedMs := 4200
  noNul := toNat_ne_zero_of_all (by decide)

def colouredSurroundings : Surroundings where
  timestamp := "2026-01-01T00:00:00Z".toList
  gitCommit := "unknown".toList
  totalGates := 1
  passedGates := 0
  failedGates := 1
  skippedGates := 0
  hangsUp := fun _ => false
  repr := fun _ => []
  oneLine := by decide

/-- The line of the check is no JSON, and the report has no row for it. -/
theorem coloured_log_unreported :
    (¬ ∃ members, Decodes colouredCall members) ∧
      ¬ Reported [colouredCall]
        (generateReport colouredSurroundings (resultsFile [colouredCall])).lines := by
  constructor
  · intro h
    have hlog := ((decodes_iff colouredCall).mp h).logSnippet '\x1b' (by decide)
    revert hlog
    decide
  · intro h
    have hnone : rowsOf (generateReport colouredSurroundings (resultsFile [colouredCall])).lines =
        [] := by
      decide +kernel
    have hrows := h.rows
    rw [hnone] at hrows
    cases hrows

end ZenOS.QualityGates
