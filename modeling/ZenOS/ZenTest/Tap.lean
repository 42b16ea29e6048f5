import ZenOS.Library.Tap
import ZenOS.ZenTest.Report

/-!
`to_tap`, read back by a consumer of TAP 13.
-/

namespace ZenOS.ZenTest

open Library.Tap hiding Line

/-- The assertions of a run in the order of the report, with their gates and numbers. -/
def numberedTests (results : List GateResult) : List ((String × AssertionResult) × Nat) :=
  (results.flatMap fun r => r.assertions.map fun a => (r.gate, a)).zipIdx 1

/-- What a consumer has to find of an assertion. -/
def testItem (a : AssertionResult) (testNum : Nat) : Item where
  mark := .test a.passed (some testNum) none
  message := a.detail.map String.toList

def reportItems (results : List GateResult) : List Item :=
  [⟨.version 13, none⟩, ⟨.plan (results.map (·.assertions.length)).sum, none⟩] ++
    (numberedTests results).map fun test => testItem test.1.2 test.2

/-- The report is read back as the results that it was made from. -/
def TapDecodes (results : List GateResult) : Prop :=
  items (linesOf (toTap results)) = reportItems results

/-- The text of a test line: the name of the gate and the description. -/
def testText (gate : String) (a : AssertionResult) : List Line :=
  linesOf (gate ++ "] " ++ a.description)

/-- The text of a test line has no directive in its first line and no mark in the others,
and these are the block of the detail, or there are none and the detail is a scalar. -/
structure Clean (gate : String) (a : AssertionResult) : Prop where
  noDirective : directive? ((testText gate a).headD []) = none
  noMark : ∀ line ∈ (testText gate a).tail, mark? line = none
  detail : blockMessage (testText gate a).tail = a.detail.map String.toList ∨
    ((testText gate a).tail = [] ∧ ∃ d ∈ a.detail, isPlain d.toList = true)

section Chunks

variable (gate : String) (a : AssertionResult) (n : Nat)

def detailLines : Option String → List Line
  | some detail => "  ---".toList :: (linesOf ("  message: " ++ detail) ++ ["  ...".toList])
  | none => []

/-- The lines of one assertion. -/
def testChunk : Chunk :=
  (((if a.passed then "ok" else "not ok") ++ " " ++ toString n ++ " - [").toList ++
      (testText gate a).headD [],
    (testText gate a).tail ++ detailLines a.detail)

def reportChunks (results : List GateResult) : List Chunk :=
  [("TAP version 13".toList, []),
      (("1.." ++ toString (results.map (·.assertions.length)).sum).toList, [])] ++
    (numberedTests results).map fun test => testChunk test.1.1 test.1.2 test.2

theorem linesOf_assertionLines :
    (assertionLines gate a n).flatMap linesOf =
      (testChunk gate a n).1 :: (testChunk gate a n).2 := by
  have hstatus : '\n' ∉ (if a.passed then "ok" else "not ok").toList := by
    rcases a.passed with _ | _ <;> decide
  rw [assertionLines, List.flatMap_cons, linesOf_testLine hstatus]
  rcases hdetail : a.detail with _ | detail
  · simp [testChunk, testText, hdetail, detailLines]
  · have hopen : linesOf "  ---" = ["  ---".toList] := List.splitOn_eq_singleton (by decide)
    have hclose : linesOf "  ..." = ["  ...".toList] := List.splitOn_eq_singleton (by decide)
    simp [testChunk, testText, hdetail, detailLines, hopen, hclose]

theorem linesOf_toTap (results : List GateResult) :
    linesOf (toTap results) = linesOfChunks (reportChunks results) := by
  have hplan : '\n' ∉ ("1.." ++ toString (results.map (·.assertions.length)).sum).toList := by
    simp [newline_notMem_toDigits]
  rw [toTap, linesOf_intercalate (by simp), List.flatMap_append, List.flatMap_assoc,
    linesOfChunks, reportChunks, List.flatMap_append, List.flatMap_map]
  refine congrArg₂ (· ++ ·) ?_ ?_
  · rw [List.flatMap_cons, List.flatMap_cons, List.flatMap_nil, linesOf, linesOf,
      List.splitOn_eq_singleton (by decide), List.splitOn_eq_singleton hplan]
    rfl
  · refine List.flatMap_congr ?_
    rintro ⟨⟨gate, a⟩, n⟩ -
    exact linesOf_assertionLines gate a n

theorem mark?_testChunk :
    mark? (testChunk gate a n).1 =
      some (.test a.passed (some n) (directive? ((testText gate a).headD []))) := by
  have hrest : directive? ("- [".toList ++ (testText gate a).headD []) =
      directive? ((testText gate a).headD []) :=
    directive?_append _ (by decide)
  have hline : (testChunk gate a n).1 = (if a.passed then "ok" else "not ok").toList ++
      (' ' :: (Nat.toDigits 10 n ++ ' ' :: ("- [".toList ++ (testText gate a).headD []))) := by
    simp [testChunk]
  rw [hline, ← hrest]
  rcases a.passed with _ | _
  · exact mark?_notOk (test?_numbered n _ false)
  · exact mark?_ok (test?_numbered n _ true)

theorem testChunk_heads : (testChunk gate a n).Heads := by
  refine ⟨?_, by rw [mark?_testChunk]; rfl⟩
  rcases hpassed : a.passed with _ | _
  · simp [testChunk, hpassed, isIndented, isWhite]
  · simp [testChunk, hpassed, isIndented, isWhite]

theorem detailLines_of_isPlain {detail : String} (h : isPlain detail.toList = true) :
    detailLines (some detail) =
      ["  ---".toList, "  message: ".toList ++ detail.toList, "  ...".toList] := by
  have hno : '\n' ∉ ("  message: " ++ detail).toList := by
    rw [String.toList_append, List.mem_append, not_or]
    exact ⟨by decide, newline_notMem_of_isPlain h⟩
  rw [detailLines, linesOf, List.splitOn_eq_singleton hno, String.toList_append]
  rfl

theorem blockMessage_detailLines (detail : String) :
    blockMessage (detailLines (some detail)) = some detail.toList ↔
      isPlain detail.toList = true := by
  constructor
  · intro h
    exact isPlain_of_blockMessage h
  · intro h
    rw [detailLines_of_isPlain h]
    exact blockMessage_scalar h

theorem blockMessage_append_detailLines {lines : List Line} (hlines : lines ≠ [])
    (detail : Option String) :
    blockMessage (lines ++ detailLines detail) = blockMessage lines := by
  rcases detail with _ | detail
  · rw [detailLines, List.append_nil]
  · have hno : '\n' ∉ "  message: ".toList := by decide
    have hsplit := splitOn_append detail.toList hno
    have hcloses : closesBlock ("  message: ".toList ++ (linesOf detail).headD []) = false := by
      have hdots : "...".toList.isPrefixOf
          (("  message: ".toList ++ (linesOf detail).headD []).dropWhile isWhite) = false := rfl
      exact closesBlock_of_not_dots hdots
    rw [detailLines, linesOf, String.toList_append, hsplit, List.cons_append]
    exact blockMessage_append_two hlines rfl (by decide) rfl hcloses _

theorem testChunk_reads_iff : (testChunk gate a n).Reads (testItem a n) ↔ Clean gate a := by
  have hmark : mark? (testChunk gate a n).1 = some (testItem a n).mark ↔
      directive? ((testText gate a).headD []) = none := by
    rw [mark?_testChunk, testItem]
    simp
  constructor
  · rintro ⟨hfirst, hmessage, hquiet⟩
    refine ⟨hmark.mp hfirst, fun line hline => hquiet line (List.mem_append_left _ hline), ?_⟩
    rcases hextra : (testText gate a).tail with _ | ⟨line, extra⟩
    · rcases hdetail : a.detail with _ | detail
      · exact .inl rfl
      · rw [testChunk, testItem, hextra, hdetail, List.nil_append] at hmessage
        exact .inr ⟨rfl, detail, rfl, (blockMessage_detailLines detail).mp hmessage⟩
    · rw [testChunk, hextra, blockMessage_append_detailLines (List.cons_ne_nil _ _)] at hmessage
      exact .inl hmessage
  · rintro ⟨hdirective, hnoMark, hdetail⟩
    have hplain : ∀ d ∈ a.detail, isPlain d.toList = true := by
      intro d hd
      rcases hdetail with hmessage | ⟨-, d', hd', hplain⟩
      · rw [hd] at hmessage
        exact isPlain_of_blockMessage hmessage
      · cases hd.symm.trans hd'
        exact hplain
    refine ⟨hmark.mpr hdirective, ?_, ?_⟩
    · rcases hdetail with hmessage | ⟨hextra, d, hd, hplain⟩
      · rcases hextra : (testText gate a).tail with _ | ⟨line, extra⟩
        · rw [hextra] at hmessage
          rcases hd : a.detail with _ | d
          · rw [testChunk, testItem, hextra, hd]
            rfl
          · rw [hd] at hmessage
            cases hmessage
        · rw [testChunk, hextra, blockMessage_append_detailLines (List.cons_ne_nil _ _),
            ← hextra]
          exact hmessage
      · rw [testChunk, testItem, hextra, hd, List.nil_append]
        exact (blockMessage_detailLines d).mpr hplain
    · intro line hline
      rcases List.mem_append.mp hline with hline | hline
      · exact hnoMark line hline
      · rcases hd : a.detail with _ | d
        · rw [hd] at hline
          cases hline
        · rw [hd, detailLines_of_isPlain (hplain d hd)] at hline
          simp only [List.mem_cons, List.not_mem_nil, or_false] at hline
          rcases hline with rfl | rfl | rfl <;> exact mark?_of_isIndented rfl

end Chunks

section Reports

variable (results : List GateResult)

theorem preamble_reads (total : Nat) :
    Chunk.Reads ("TAP version 13".toList, []) ⟨.version 13, none⟩ ∧
      Chunk.Reads (("1.." ++ toString total).toList, []) ⟨.plan total, none⟩ := by
  refine ⟨⟨by decide, rfl, by simp⟩, ?_, rfl, by simp⟩
  have hplan := mark?_plan total
  simpa using hplan

theorem reportChunks_heads : ∀ c ∈ reportChunks results, c.Heads := by
  obtain ⟨hversion, hplan⟩ := preamble_reads (results.map (·.assertions.length)).sum
  intro c hc
  rcases List.mem_append.mp hc with hc | hc
  · simp only [List.mem_cons, List.not_mem_nil, or_false] at hc
    rcases hc with rfl | rfl
    · exact ⟨by decide, by rw [hversion.mark]; rfl⟩
    · exact ⟨by simp [isIndented, isWhite], by rw [hplan.mark]; rfl⟩
  · obtain ⟨⟨⟨gate, a⟩, n⟩, -, rfl⟩ := List.mem_map.mp hc
    exact testChunk_heads gate a n

theorem forall_numberedTests_iff (P : String → AssertionResult → Prop) :
    (∀ test ∈ numberedTests results, P test.1.1 test.1.2) ↔
      ∀ r ∈ results, ∀ a ∈ r.assertions, P r.gate a := by
  have hzip : (∀ test ∈ numberedTests results, P test.1.1 test.1.2) ↔
      ∀ test ∈ (numberedTests results).map Prod.fst, P test.1 test.2 := by
    rw [List.forall_mem_map]
  rw [hzip, numberedTests, List.zipIdx_map_fst]
  simp only [List.mem_flatMap, List.mem_map]
  constructor
  · intro h r hr a ha
    exact h (r.gate, a) ⟨r, hr, a, ha, rfl⟩
  · rintro h test ⟨r, hr, a, ha, rfl⟩
    exact h r hr a ha

theorem tapDecodes_iff_clean :
    TapDecodes results ↔ ∀ r ∈ results, ∀ a ∈ r.assertions, Clean r.gate a := by
  have hlength : (reportItems results).length = (reportChunks results).length := by
    simp [reportItems, reportChunks]
  have hpreamble := preamble_reads (results.map (·.assertions.length)).sum
  rw [TapDecodes, linesOf_toTap, items_linesOfChunks_iff (reportChunks_heads results) hlength,
    ← forall_numberedTests_iff results, reportChunks, reportItems]
  simp only [List.cons_append, List.nil_append, List.forall₂_cons, List.forall₂_map_left_iff,
    List.forall₂_map_right_iff, List.forall₂_same]
  rw [and_iff_right hpreamble.1, and_iff_right hpreamble.2]
  exact forall₂_congr fun test _ => testChunk_reads_iff test.1.1 test.1.2 test.2

theorem not_clean_of_colon {gate : String} {a : AssertionResult} (before after : String)
    (hdetail : a.detail = some (before ++ ": " ++ after)) : ¬ Clean gate a := by
  intro hclean
  have hcolon : isPlain (before ++ ": " ++ after).toList = false := by
    simpa using isPlain_colon before.toList after.toList
  rcases hclean.detail with hmessage | ⟨-, d, hd, hplain⟩
  · rw [hdetail] at hmessage
    exact Bool.false_ne_true (hcolon.symm.trans (isPlain_of_blockMessage hmessage))
  · cases hdetail.symm.trans hd
    exact Bool.false_ne_true (hcolon.symm.trans hplain)

theorem evaluate_not_clean (guest : Guest) (assert : AssertSection) (gate : String) :
    ∀ a ∈ evaluate guest assert, a.passed = false → Clean gate a →
      ∃ p ∈ assert.screenshot.zipIdx, a = screenshotAssertion guest p.1 p.2 := by
  intro a ha hfailed hclean
  simp only [evaluate, List.mem_append, List.mem_map] at ha
  rcases ha with ((⟨p, -, rfl⟩ | ⟨p, -, rfl⟩) | ⟨p, -, rfl⟩) | ⟨p, hp, rfl⟩
  · have hnot : ¬ guest.logContains p.2 p.1.pattern = true := Bool.eq_false_iff.mp hfailed
    refine absurd hclean (not_clean_of_colon "Pattern not found" p.1.pattern ?_)
    exact if_neg hnot
  · have hnot : ¬ guest.logAbsent p.2 p.1.pattern = true := Bool.eq_false_iff.mp hfailed
    refine absurd hclean (not_clean_of_colon "Pattern found (should be absent)" p.1.pattern ?_)
    exact if_neg hnot
  · rw [execAssertion] at hfailed hclean
    rcases hexec : guest.exec p.2 with e | r
    · rw [hexec] at hclean
      exact absurd hclean (not_clean_of_colon "Exec failed" e rfl)
    · rw [hexec] at hfailed hclean
      by_cases hcode : r.exitCode = p.1.exitCode
      · simp [hcode] at hfailed
      · simp only [hcode, if_false] at hclean
        refine absurd hclean (not_clean_of_colon ("Expected exit code " ++ toString p.1.exitCode ++
          ", got " ++ toString r.exitCode ++ ". stdout") (trim r.stdout) ?_)
        simp [String.append_assoc]
  · exact ⟨p, hp, rfl⟩

theorem mem_assertions_runGate {spec : GateSpec} {guest : Guest} {a : AssertionResult}
    (ha : a ∈ (runGate spec guest).assertions) : a ∈ evaluate guest spec.assert := by
  simp only [runGate] at ha
  split at ha
  · cases ha
  · rw [runGateInner] at ha
    rcases hfailure : guest.failure with _ | e
    · rw [hfailure] at ha
      exact ha
    · rw [hfailure] at ha
      cases ha

/-- A report is read back as its results exactly when the text of each of its tests is clean;
of the failures of the gates in it, this leaves those of the screenshots. -/
theorem tapDecodes_iff :
    (TapDecodes results ↔ ∀ r ∈ results, ∀ a ∈ r.assertions, Clean r.gate a) ∧
    (TapDecodes results → ∀ spec guest, runGate spec guest ∈ results →
      ∀ a ∈ (runGate spec guest).assertions, a.passed = false →
        ∃ p ∈ spec.assert.screenshot.zipIdx, a = screenshotAssertion guest p.1 p.2) := by
  have hiff := tapDecodes_iff_clean results
  refine ⟨hiff, fun hdecodes spec guest hr a ha hfailed => ?_⟩
  exact evaluate_not_clean guest spec.assert (runGate spec guest).gate a
    (mem_assertions_runGate ha) hfailed (hiff.mp hdecodes _ hr a ha)

/-- The boot gate, when the guest has not written its signal. -/
theorem missing_signal_not_decoded :
    let spec : GateSpec :=
      { gate := { name := "Boot Baseline", phase := "0", subPhase := "0.1", timeoutSeconds := 180 }
        assert := { serial := [⟨"ZEN_BOOT_OK", some "Boot signal detected in serial log"⟩]
                    serialAbsent := [], exec := [], screenshot := [] } }
    let guest : Guest :=
      { timedOut := false, failure := none, logContains := fun _ _ => false
        logAbsent := fun _ _ => true, exec := fun _ => .error "", capture := fun _ => .error "" }
    ¬ TapDecodes [runGate spec guest] := by
  intro spec guest
  rw [TapDecodes]
  decide +kernel

end Reports

end ZenOS.ZenTest
