import ZenOS.ZenTest.Runner
import Mathlib.Algebra.GroupWithZero.Nat
import Mathlib.Data.List.Infix

/-!
`gate/report.rs`: the TAP report, and whether it agrees with the verdict of `gate run`.
-/

namespace ZenOS.ZenTest

/-- The lines of one assertion, which has the number `testNum` in the report. -/
def assertionLines (gate : String) (assertion : AssertionResult) (testNum : Nat) :
    List String :=
  let status := if assertion.passed then "ok" else "not ok"
  (status ++ " " ++ toString testNum ++ " - [" ++ gate ++ "] " ++ assertion.description) ::
    match assertion.detail with
    | some detail => ["  ---", "  message: " ++ detail, "  ..."]
    | none => []

def toTap (results : List GateResult) : String :=
  let total := (results.map (·.assertions.length)).sum
  let tests := results.flatMap fun r => r.assertions.map fun a => (r.gate, a)
  "\n".intercalate (["TAP version 13", "1.." ++ toString total] ++
    (tests.zipIdx 1).flatMap fun ((gate, assertion), testNum) =>
      assertionLines gate assertion testNum)

abbrev Line := List Char

def linesOf (text : String) : List Line :=
  text.toList.splitOn '\n'

/-- A test line of a failed test. -/
def isNotOk (line : Line) : Bool :=
  line == "not ok".toList || "not ok ".toList.isPrefixOf line

def HasNotOk (text : String) : Prop :=
  ∃ line ∈ linesOf text, isNotOk line = true

/-- The text of a test line goes on, after a line break in the name of the gate or in the
description, with what looks like a failed test. -/
def smugglesNotOk (gate description : String) : Bool :=
  (linesOf (gate ++ "] " ++ description)).tail.any isNotOk

section Lines

theorem splitOn_append {before : Line} (after : Line) (h : '\n' ∉ before) :
    (before ++ after).splitOn '\n' =
      (before ++ (after.splitOn '\n').headD []) :: (after.splitOn '\n').tail := by
  induction before with
  | nil =>
      obtain ⟨rest, tail, hsplit⟩ := List.exists_cons_of_ne_nil (List.splitOn_ne_nil '\n' after)
      rw [List.nil_append, hsplit]
      rfl
  | cons c before ih =>
      simp only [List.mem_cons, not_or] at h
      have hne : (c == '\n') = false := by simpa using Ne.symm h.1
      rw [List.cons_append, List.splitOn_cons_eq_if_modifyHead, if_neg (by simp [hne]), ih h.2]
      rfl

theorem linesOf_intercalate {lines : List String} (h : lines ≠ []) :
    linesOf ("\n".intercalate lines) = lines.flatMap linesOf := by
  rw [linesOf, String.toList_intercalate]
  change List.splitOn '\n' (['\n'].intercalate _) = _
  induction lines with
  | nil => exact absurd rfl h
  | cons line lines ih =>
      rcases lines with _ | ⟨line', lines⟩
      · simp [linesOf]
      · rw [List.map_cons, List.map_cons, List.intercalate_cons_cons, List.append_assoc,
          List.singleton_append, List.splitOn_append_cons_self, List.flatMap_cons,
          ← ih (List.cons_ne_nil _ _)]
        rfl

theorem isNotOk_append (rest : Line) : isNotOk ("not ok ".toList ++ rest) = true := by
  rw [isNotOk, Bool.or_eq_true]
  exact .inr (List.isPrefixOf_iff_prefix.mpr (List.prefix_append _ _))

theorem newline_notMem_toDigits (n : Nat) : '\n' ∉ Nat.toDigits 10 n := by
  intro h
  cases Nat.isDigit_of_mem_toDigits (by decide) (by decide) h

theorem isNotOk_cons {c : Char} (hc : c ≠ 'n') (rest : Line) : isNotOk (c :: rest) = false := by
  have hne : ('n' == c) = false := by simpa using hc.symm
  refine Bool.or_eq_false_iff.mpr ⟨?_, ?_⟩
  · simp [hc]
  · exact Bool.and_eq_false_imp.mpr fun h => absurd (hne.symm.trans h) Bool.false_ne_true

theorem linesOf_testLine {status : String} (hstatus : '\n' ∉ status.toList) (n : Nat)
    (gate description : String) :
    linesOf (status ++ " " ++ toString n ++ " - [" ++ gate ++ "] " ++ description) =
      ((status ++ " " ++ toString n ++ " - [").toList ++
          (linesOf (gate ++ "] " ++ description)).headD []) ::
        (linesOf (gate ++ "] " ++ description)).tail := by
  have hno : '\n' ∉ (status ++ " " ++ toString n ++ " - [").toList := by
    simp [newline_notMem_toDigits, hstatus]
  rw [linesOf, linesOf, ← splitOn_append _ hno]
  simp

theorem assertionLines_notOk_iff (gate : String) (a : AssertionResult) (n : Nat)
    (hdetail : a.passed = true → a.detail = none) :
    (∃ line ∈ (assertionLines gate a n).flatMap linesOf, isNotOk line = true) ↔
      a.passed = false ∨ smugglesNotOk gate a.description = true := by
  rcases hpassed : a.passed with _ | _
  · refine iff_of_true ?_ (.inl rfl)
    have hline : isNotOk (("not ok" ++ " " ++ toString n ++ " - [").toList ++
        (linesOf (gate ++ "] " ++ a.description)).headD []) = true := by
      have htext : ("not ok" ++ " " ++ toString n ++ " - [").toList =
          "not ok ".toList ++ (toString n ++ " - [").toList := by
        simp
      rw [htext, List.append_assoc]
      exact isNotOk_append _
    refine ⟨_, ?_, hline⟩
    rw [assertionLines, hpassed, List.flatMap_cons, if_neg Bool.false_ne_true,
      linesOf_testLine (by decide)]
    exact List.mem_append_left _ List.mem_cons_self
  · rw [assertionLines, hpassed, hdetail hpassed, if_pos rfl, List.flatMap_cons,
      List.flatMap_nil, List.append_nil, linesOf_testLine (by decide), smugglesNotOk,
      List.any_eq_true]
    simp [isNotOk_cons]

theorem preamble_not_notOk (total : Nat) :
    ¬ ∃ line ∈ ["TAP version 13", "1.." ++ toString total].flatMap linesOf,
      isNotOk line = true := by
  have hplan : '\n' ∉ ("1.." ++ toString total).toList := by simp [newline_notMem_toDigits]
  have hlines : ["TAP version 13", "1.." ++ toString total].flatMap linesOf =
      ["TAP version 13".toList, ("1.." ++ toString total).toList] := by
    rw [List.flatMap_cons, List.flatMap_cons, List.flatMap_nil, linesOf, linesOf,
      List.splitOn_eq_singleton (by decide), List.splitOn_eq_singleton hplan]
    rfl
  rw [hlines]
  simp [isNotOk_cons]

theorem hasNotOk_toTap_iff {results : List GateResult}
    (hdetail : ∀ r ∈ results, ∀ a ∈ r.assertions, a.passed = true → a.detail = none) :
    HasNotOk (toTap results) ↔ ∃ r ∈ results, ∃ a ∈ r.assertions,
      a.passed = false ∨ smugglesNotOk r.gate a.description = true := by
  have hpreamble := preamble_not_notOk (results.map (·.assertions.length)).sum
  rw [HasNotOk, toTap, linesOf_intercalate (by simp), List.flatMap_append, List.flatMap_assoc]
  constructor
  · rintro ⟨line, hline, hnot⟩
    rcases List.mem_append.mp hline with hline | hline
    · exact absurd ⟨line, hline, hnot⟩ hpreamble
    · obtain ⟨⟨⟨gate, a⟩, n⟩, htest, hmem⟩ := List.mem_flatMap.mp hline
      obtain ⟨r, hr, ha⟩ := List.mem_flatMap.mp (List.fst_mem_of_mem_zipIdx htest)
      obtain ⟨a, ha, heq⟩ := List.mem_map.mp ha
      cases heq
      exact ⟨r, hr, a, ha,
        (assertionLines_notOk_iff r.gate a n (hdetail r hr a ha)).mp ⟨line, hmem, hnot⟩⟩
  · rintro ⟨r, hr, a, ha, hnot⟩
    have htest : (r.gate, a) ∈ results.flatMap fun r => r.assertions.map fun a => (r.gate, a) :=
      List.mem_flatMap.mpr ⟨r, hr, List.mem_map.mpr ⟨a, ha, rfl⟩⟩
    rw [← List.zipIdx_map_fst 1 (results.flatMap _)] at htest
    obtain ⟨⟨_, n⟩, hn, rfl⟩ := List.mem_map.mp htest
    obtain ⟨line, hmem, hline⟩ :=
      (assertionLines_notOk_iff r.gate a n (hdetail r hr a ha)).mpr hnot
    exact ⟨line, List.mem_append_right _ (List.mem_flatMap.mpr ⟨_, hn, hmem⟩), hline⟩

end Lines

theorem emitResults_fail_iff (results : List GateResult) :
    (emitResults results).status = .fail ↔ ∃ r ∈ results, r.status ≠ .passed := by
  rw [emitResults]
  split
  · next h => simpa using h
  · next h => simpa using h

theorem evaluate_detail (guest : Guest) (assert : AssertSection) :
    ∀ a ∈ evaluate guest assert, a.passed = true → a.detail = none := by
  simp only [evaluate, List.forall_mem_append, List.forall_mem_map, and_assoc]
  refine ⟨fun p _ => ?_, fun p _ => ?_, fun p _ => ?_, fun p _ => ?_⟩
  · intro hpassed
    exact if_pos hpassed
  · intro hpassed
    exact if_pos hpassed
  · rw [execAssertion]
    rcases guest.exec p.2 with e | r
    · simp
    · dsimp only
      split <;> simp
  · rw [screenshotAssertion]
    rcases guest.capture p.2 with e | info
    · simp
    · dsimp only
      split
      · split <;> simp
      · simp

/-- What `run_gate` returns: assertions only from a gate that has got to them, and with
their results the status. -/
theorem runGate_cases (spec : GateSpec) (guest : Guest) :
    ((runGate spec guest).assertions = [] ∧
        ((runGate spec guest).status = .timeout ∨ (runGate spec guest).status = .error)) ∨
      ((runGate spec guest).assertions = evaluate guest spec.assert ∧
        (runGate spec guest).status =
          if ∀ a ∈ evaluate guest spec.assert, a.passed = true then .passed else .failed) := by
  rw [runGate]
  rcases guest.timedOut with _ | _
  · rw [runGateInner]
    rcases guest.failure with _ | e
    · exact .inr ⟨rfl, by simp⟩
    · exact .inl ⟨rfl, .inr rfl⟩
  · exact .inl ⟨rfl, .inl rfl⟩

theorem runGate_detail (spec : GateSpec) (guest : Guest) :
    ∀ a ∈ (runGate spec guest).assertions, a.passed = true → a.detail = none := by
  rcases runGate_cases spec guest with ⟨hnone, -⟩ | ⟨hassertions, -⟩
  · simp [hnone]
  · rw [hassertions]
    exact evaluate_detail guest spec.assert

theorem runGate_failed_iff (spec : GateSpec) (guest : Guest) :
    (runGate spec guest).status = .failed ↔
      ∃ a ∈ (runGate spec guest).assertions, a.passed = false := by
  rcases runGate_cases spec guest with ⟨hnone, hstatus⟩ | ⟨hassertions, hstatus⟩
  · rcases hstatus with hstatus | hstatus <;> simp [hnone, hstatus]
  · rw [hassertions, hstatus]
    split
    · next hall => simpa using hall
    · next hnot => simpa using hnot

theorem status_ne_passed_iff {status : GateStatus} :
    status ≠ .passed ↔ status = .failed ∨ status = .timeout ∨ status = .error := by
  cases status <;> simp

/-- The report contains a failed test exactly when `gate run` reports failure. -/
def TapAgrees (results : List GateResult) : Prop :=
  HasNotOk (toTap results) ↔ (emitResults results).status = .fail

/-- The report agrees with the verdict exactly when an assertion has failed, or when there
is a gate without a result if and only if the text of some test looks like a failure. -/
theorem tapAgrees_iff (runs : List (GateSpec × Guest)) :
    let results := runs.map fun (spec, guest) => runGate spec guest
    TapAgrees results ↔ (∃ r ∈ results, r.status = .failed) ∨
      ((∃ r ∈ results, r.status = .timeout ∨ r.status = .error) ↔
        ∃ r ∈ results, ∃ a ∈ r.assertions, smugglesNotOk r.gate a.description = true) := by
  intro results
  have hdetail : ∀ r ∈ results, ∀ a ∈ r.assertions, a.passed = true → a.detail = none := by
    intro r hr
    obtain ⟨⟨spec, guest⟩, -, rfl⟩ := List.mem_map.mp hr
    exact runGate_detail spec guest
  have hfailed : ∀ r ∈ results, (∃ a ∈ r.assertions, a.passed = false) ↔ r.status = .failed := by
    intro r hr
    obtain ⟨⟨spec, guest⟩, -, rfl⟩ := List.mem_map.mp hr
    exact (runGate_failed_iff spec guest).symm
  have hnotOk : HasNotOk (toTap results) ↔ (∃ r ∈ results, r.status = .failed) ∨
      ∃ r ∈ results, ∃ a ∈ r.assertions, smugglesNotOk r.gate a.description = true := by
    rw [hasNotOk_toTap_iff hdetail]
    simp only [and_or_left, exists_or]
    exact or_congr_left (exists_congr fun r => and_congr_right (hfailed r))
  have hfail : (emitResults results).status = .fail ↔ (∃ r ∈ results, r.status = .failed) ∨
      ∃ r ∈ results, r.status = .timeout ∨ r.status = .error := by
    rw [emitResults_fail_iff, ← exists_or]
    exact exists_congr fun r => by rw [status_ne_passed_iff, and_or_left]
  rw [TapAgrees, hnotOk, hfail]
  by_cases hany : ∃ r ∈ results, r.status = .failed
  · exact iff_of_true (iff_of_true (.inl hany) (.inl hany)) (.inl hany)
  · rw [or_iff_right hany, or_iff_right hany, or_iff_right hany]
    exact iff_comm

/-- A gate that times out is a failure for `gate run` and nothing at all in the report. -/
theorem timeout_not_reported :
    let spec : GateSpec :=
      { gate := { name := "boot", phase := "1", subPhase := "1", timeoutSeconds := 300 }
        assert := { serial := [⟨"ZEN_BOOT_OK", none⟩], serialAbsent := [], exec := []
                    screenshot := [] } }
    let guest : Guest :=
      { timedOut := true, failure := none, logContains := fun _ _ => false
        logAbsent := fun _ _ => true, exec := fun _ => .error "", capture := fun _ => .error "" }
    ¬ TapAgrees [runGate spec guest] := by
  intro spec guest
  have hnot : ¬ HasNotOk (toTap [runGate spec guest]) := by
    rw [HasNotOk]
    decide +kernel
  have hfail : (emitResults [runGate spec guest]).status = .fail := by
    decide +kernel
  exact fun hagrees => hnot (hagrees.mpr hfail)

end ZenOS.ZenTest
