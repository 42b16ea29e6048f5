import ZenOS.Library.Lines
import ZenOS.Library.Utf8
import ZenOS.ZenTest.Tail

/-!
`scan_serial_log` of `serial/scan.rs`, which goes through the log line by line, and the
search of `log_contains` in the log as a whole.
-/

namespace ZenOS.ZenTest

open ZenOS.Library

structure PatternMatch where
  pattern : String
  tag : String
  lineNumber : Nat
  line : Bytes
  deriving DecidableEq

structure ScanResult where
  bootSignalFound : Bool
  errors : List PatternMatch
  lineCount : Nat
  deriving DecidableEq

def ScanResult.empty : ScanResult :=
  { bootSignalFound := false, errors := [], lineCount := 0 }

/-- `str::lines` on the bytes of a `str` -/
def lines (content : Bytes) : List Bytes :=
  Lines.lines '\n'.val.toUInt8 '\r'.val.toUInt8 content

/-- The loop over `ERROR_PATTERNS` for one line. -/
def pushMatches (line : Bytes) (lineNumber : Nat) (errors : List PatternMatch) :
    List PatternMatch :=
  errorPatterns.foldl
    (fun errors ep =>
      if contains line ep.pattern then
        errors ++ [{ pattern := ep.pattern, tag := ep.tag, lineNumber, line }]
      else errors)
    errors

/-- The body of the loop over the lines, which come with their indices. -/
def scanLine (bootSignal : String) (result : ScanResult) (p : Bytes × Nat) : ScanResult :=
  { bootSignalFound := if contains p.1 bootSignal then true else result.bootSignalFound
    errors := pushMatches p.1 (p.2 + 1) result.errors
    lineCount := p.2 + 1 }

def scanSerialLog (file : Option Bytes) (bootSignal : String) : ScanResult :=
  match readToString file with
  | none => .empty
  | some content => (lines content).zipIdx.foldl (scanLine bootSignal) .empty

/-- The place of a match in the report: by line, and then by the table. -/
def PatternMatch.Before (m m' : PatternMatch) : Prop :=
  let position := fun m : PatternMatch => errorPatterns.findIdx fun ep => ep.pattern = m.pattern
  m.lineNumber < m'.lineNumber ∨ m.lineNumber = m'.lineNumber ∧ position m < position m'

/-- The scan agrees with the search in the whole log, and lists every error once. -/
structure Reports (file : Option Bytes) (content : Bytes) (bootSignal : String)
    (result : ScanResult) : Prop where
  signal : result.bootSignalFound = logContains file bootSignal
  clean : result.errors = [] ↔ ∀ ep ∈ errorPatterns, logAbsent file ep.pattern = true
  listed : ∀ m, m ∈ result.errors ↔ ∃ i, (lines content)[i]? = some m.line ∧
    m.lineNumber = i + 1 ∧ ⟨m.pattern, m.tag⟩ ∈ errorPatterns ∧ contains m.line m.pattern = true
  ordered : result.errors.Pairwise PatternMatch.Before
  counted : result.lineCount = (lines content).length ∧
    result.lineCount = content.count '\n'.val.toUInt8 +
      if content = [] ∨ content.getLast? = some '\n'.val.toUInt8 then 0 else 1

/-- A pattern that does not reach over the end of a line. -/
structure InLine (pattern : String) : Prop where
  nonempty : pattern ≠ ""
  newline : '\n' ∉ pattern.toList
  carriageReturn : pattern.toList.getLast? ≠ some '\r'

instance (pattern : String) : Decidable (InLine pattern) :=
  decidable_of_iff (pattern ≠ "" ∧ '\n' ∉ pattern.toList ∧ pattern.toList.getLast? ≠ some '\r')
    ⟨fun ⟨h, h', h''⟩ => ⟨h, h', h''⟩, fun ⟨h, h', h''⟩ => ⟨h, h', h''⟩⟩

section Search

variable {pattern : String}

theorem utf8_eq (s : String) : utf8 s = s.toList.flatMap String.utf8EncodeChar :=
  Utf8.toUTF8_data_toList s

theorem contains_iff_exists_line (h : InLine pattern) (content : Bytes) :
    contains content pattern = true ↔ ∃ line ∈ lines content, contains line pattern = true := by
  simp only [contains, decide_eq_true_eq, utf8_eq]
  apply Lines.infix_iff_exists_line
  · rw [Utf8.mem_flatMap_utf8EncodeChar_iff (by decide)]
    exact h.newline
  · intro hlast
    exact h.carriageReturn (Utf8.getLast?_of_flatMap_utf8EncodeChar (by decide) hlast)
  · intro hnil
    rw [List.flatMap_eq_nil_iff] at hnil
    obtain ⟨c, hc⟩ := List.exists_mem_of_ne_nil pattern.toList fun hempty =>
      h.nonempty (String.toList_eq_nil_iff.mp hempty)
    exact String.utf8EncodeChar_ne_nil (hnil c hc)

theorem errorPatterns_inLine : ∀ ep ∈ errorPatterns, InLine ep.pattern := by
  decide

end Search

section Loop

variable {line : Bytes} {lineNumber : Nat} {m : PatternMatch}

/-- The matches of one line. -/
def lineMatches (line : Bytes) (lineNumber : Nat) : List PatternMatch :=
  (errorPatterns.filter fun ep => contains line ep.pattern).map fun ep =>
    { pattern := ep.pattern, tag := ep.tag, lineNumber, line }

theorem pushMatches_eq (errors : List PatternMatch) :
    pushMatches line lineNumber errors = errors ++ lineMatches line lineNumber := by
  rw [pushMatches, lineMatches]
  generalize errorPatterns = table
  induction table generalizing errors with
  | nil => simp
  | cons ep table ih =>
      rw [List.foldl_cons, ih]
      by_cases hep : contains line ep.pattern = true
      · simp [hep]
      · simp [hep]

theorem mem_lineMatches_iff :
    m ∈ lineMatches line lineNumber ↔ m.line = line ∧ m.lineNumber = lineNumber ∧
      ⟨m.pattern, m.tag⟩ ∈ errorPatterns ∧ contains line m.pattern = true := by
  rw [lineMatches, List.mem_map]
  constructor
  · rintro ⟨ep, hep, rfl⟩
    obtain ⟨hmem, hcontains⟩ := List.mem_filter.mp hep
    exact ⟨rfl, rfl, hmem, hcontains⟩
  · rintro ⟨rfl, rfl, hmem, hcontains⟩
    exact ⟨⟨m.pattern, m.tag⟩, List.mem_filter.mpr ⟨hmem, hcontains⟩, rfl⟩

theorem errorPatterns_pairwise :
    errorPatterns.Pairwise fun ep ep' =>
      (errorPatterns.findIdx fun e => e.pattern = ep.pattern) <
        errorPatterns.findIdx fun e => e.pattern = ep'.pattern := by
  decide

theorem lineMatches_pairwise (line : Bytes) (lineNumber : Nat) :
    (lineMatches line lineNumber).Pairwise PatternMatch.Before := by
  rw [lineMatches, List.pairwise_map]
  exact (errorPatterns_pairwise.filter _).imp fun hlt => .inr ⟨rfl, hlt⟩

theorem foldl_scanLine (bootSignal : String) (ls : List Bytes) (i : Nat) (result : ScanResult) :
    (ls.zipIdx i).foldl (scanLine bootSignal) result =
      { bootSignalFound := result.bootSignalFound || ls.any fun line => contains line bootSignal
        errors := result.errors ++ (ls.zipIdx i).flatMap fun p => lineMatches p.1 (p.2 + 1)
        lineCount := if ls = [] then result.lineCount else i + ls.length } := by
  induction ls generalizing i result with
  | nil => simp
  | cons line ls ih =>
      rw [List.zipIdx_cons, List.foldl_cons, ih, scanLine, pushMatches_eq]
      congr 1
      · rcases hsignal : contains line bootSignal with _ | _ <;> simp [hsignal]
      · simp
      · rcases eq_or_ne ls [] with rfl | hne
        · simp
        · simp [hne]
          omega

theorem zipIdx_pairwise (ls : List Bytes) : ls.zipIdx.Pairwise fun p p' => p.2 < p'.2 := by
  rw [← List.pairwise_map, List.zipIdx_map_snd]
  exact List.pairwise_lt_range'

theorem scanSerialLog_of_read {file : Option Bytes} {content : Bytes} {bootSignal : String}
    (hread : readToString file = some content) :
    scanSerialLog file bootSignal =
      { bootSignalFound := (lines content).any fun line => contains line bootSignal
        errors := (lines content).zipIdx.flatMap fun p => lineMatches p.1 (p.2 + 1)
        lineCount := (lines content).length } := by
  rw [scanSerialLog, hread]
  simp only [foldl_scanLine, ScanResult.empty, Bool.false_or, List.nil_append, Nat.zero_add]
  congr 1
  split
  next hnil => simp [hnil]
  · rfl

end Loop

theorem logContains_of_read {file : Option Bytes} {content : Bytes}
    (h : readToString file = some content) (pattern : String) :
    logContains file pattern = contains content pattern := by
  rw [logContains, h]
  rfl

/-- The line scanner agrees with the search in the whole log. -/
theorem scanSerialLog_reports {file : Option Bytes} {content : Bytes}
    (hread : readToString file = some content) {bootSignal : String} (hsignal : InLine bootSignal) :
    Reports file content bootSignal (scanSerialLog file bootSignal) := by
  rw [scanSerialLog_of_read hread]
  constructor
  · rw [logContains_of_read hread, Bool.eq_iff_iff, List.any_eq_true]
    exact (contains_iff_exists_line hsignal content).symm
  · simp only [logAbsent, logContains_of_read hread, Bool.not_eq_true']
    rw [List.flatMap_eq_nil_iff]
    constructor
    · intro hnone ep hep
      by_contra hcontains
      rw [Bool.not_eq_false, contains_iff_exists_line (errorPatterns_inLine ep hep)] at hcontains
      obtain ⟨line, hline, hcontains⟩ := hcontains
      obtain ⟨i, hi⟩ := List.mem_iff_getElem?.mp hline
      have hnil := hnone (line, i) (List.mem_zipIdx_iff_getElem?.mpr hi)
      have hmem : (⟨ep.pattern, ep.tag, i + 1, line⟩ : PatternMatch) ∈ lineMatches line (i + 1) :=
        mem_lineMatches_iff.mpr ⟨rfl, rfl, hep, hcontains⟩
      rw [hnil] at hmem
      cases hmem
    · intro habsent p hp
      rw [List.eq_nil_iff_forall_not_mem]
      intro m hm
      obtain ⟨-, -, htable, hcontains⟩ := mem_lineMatches_iff.mp hm
      have hline := List.mem_of_getElem? (List.mem_zipIdx_iff_getElem?.mp hp)
      have hlog : contains content m.pattern = true :=
        (contains_iff_exists_line (errorPatterns_inLine _ htable) content).mpr ⟨_, hline, hcontains⟩
      rw [habsent _ htable] at hlog
      cases hlog
  · intro m
    rw [List.mem_flatMap]
    constructor
    · rintro ⟨⟨line, i⟩, hp, hm⟩
      obtain ⟨rfl, hnumber, htable, hcontains⟩ := mem_lineMatches_iff.mp hm
      exact ⟨i, List.mem_zipIdx_iff_getElem?.mp hp, hnumber, htable, hcontains⟩
    · rintro ⟨i, hline, hnumber, htable, hcontains⟩
      exact ⟨(m.line, i), List.mem_zipIdx_iff_getElem?.mpr hline,
        mem_lineMatches_iff.mpr ⟨rfl, hnumber, htable, hcontains⟩⟩
  · rw [List.pairwise_flatMap]
    refine ⟨fun p _ => lineMatches_pairwise _ _, (zipIdx_pairwise _).imp fun hlt m hm m' hm' => ?_⟩
    obtain ⟨-, hnumber, -⟩ := mem_lineMatches_iff.mp hm
    obtain ⟨-, hnumber', -⟩ := mem_lineMatches_iff.mp hm'
    exact .inl (by omega)
  · exact ⟨rfl, Lines.length_lines content⟩

/-- A line of a log with carriage returns, and one that is not ended. -/
theorem scanSerialLog_reports_panic :
    Reports (some (utf8 "ZEN_BOOT_OK\r\nBUG: segfault")) (utf8 "ZEN_BOOT_OK\r\nBUG: segfault")
      "ZEN_BOOT_OK" (scanSerialLog (some (utf8 "ZEN_BOOT_OK\r\nBUG: segfault")) "ZEN_BOOT_OK") := by
  refine scanSerialLog_reports ?_ ?_
  · decide +kernel
  · decide

end ZenOS.ZenTest
