import ZenOS.ZenTest.GateOutput
import Mathlib.Data.List.DropRight
import Mathlib.Data.List.Infix

/-!
`tests/integration/test_crash_isolation.sh`: a test that runs one gate with `--report-json`
and takes its verdict from the report, which it reads with Python.
-/

namespace ZenOS.ZenTest.CrashIsolation

open ZenOS.Library ZenOS.Library.Json
open ZenOS.QualityGates (key)
open GateOutput

/-!
An exception is `none`. -/

section Python

/-- `v.get(name, default)` -/
def get (v : Json.Value) (name : String) (default : Json.Value) : Option Json.Value :=
  match v with
  | .obj members => some ((lookup members (key name)).getD default)
  | _ => none

/-- `v == text` -/
def isText (v : Json.Value) (text : String) : Bool :=
  match v with
  | .str s => s == key text
  | _ => false

def truthy : Json.Value → Bool
  | .null => false
  | .bool b => b
  | .int n => n ≠ 0
  | .float w =>
      (w.takeWhile fun c => c ≠ 'e' && c ≠ 'E').any fun c => c.isAlpha || '1' ≤ c && c ≤ '9'
  | .str s => s ≠ []
  | .arr items => !items.isEmpty
  | .obj members => !members.isEmpty

/-- What `for` goes through: the characters of a string, and the keys of a dictionary. -/
def iterate : Json.Value → Option (List Json.Value)
  | .arr items => some items
  | .str s => some (s.map fun c => .str [c])
  | .obj members => some (members.map fun m => .str m.1)
  | _ => none

/-- `text in v` -/
def contains (text : String) : Json.Value → Option Bool
  | .str s => some (decide (key text <:+: s))
  | .arr items => some (items.any fun v => isText v text)
  | .obj members => some (members.any fun m => m.1 == key text)
  | _ => none

end Python

section Validation

/-- What the first result says, for a report with the status `fail`. -/
def innerStatus (d : Json.Value) : Option Bool := do
  let results ← get (← get d "data" (.obj [])) "results" (.arr [])
  match results with
  | .arr (r :: _) => (get r "status" .null).map fun status => isText status "passed"
  | v => if truthy v then none else return false

/-- A value that is printed as the status; the shell drops NUL and line breaks at the end. -/
def legacyStatus : Json.Value → Bool
  | .str s => s == key "passed" || (s.filter (· != 0)).rdropWhile (· == 10) == key "pass"
  | _ => false

/-- Whether the first program prints `pass`. -/
def reportStatus (d : Json.Value) : Option Bool := do
  let top ← get d "status" (.str (key "unknown"))
  if isText top "ok" then return true
  else if isText top "fail" then innerStatus d
  else return legacyStatus top

def resultsIn (d : Json.Value) : Option (List Json.Value) := do
  let legacy ← get d "results" (.arr [])
  iterate (← get (← get d "data" (.obj [])) "results" legacy)

def assertionsIn (r : Json.Value) : Option (List Json.Value) := do
  iterate (← get r "assertions" (.arr []))

/-- `$assertions_failed`, which is 0 when the program fails. -/
def assertionsFailed (d : Option Json.Value) : Nat :=
  let failed := do
    let assertions ← (← resultsIn (← d)).mapM assertionsIn
    let passed ← assertions.flatten.mapM fun a => (get a "passed" (.bool true)).map truthy
    return passed.count false
  failed.getD 0

/-- Whether the first assertion about the compositor has passed, if there is one. -/
def findRunning : List Json.Value → Option (Option Bool)
  | [] => some none
  | a :: as => do
      if ← contains "Compositor still running" (← get a "description" (.str [])) then
        return some (truthy (← get a "passed" (.bool false)))
      else findRunning as

def findRunningIn : List Json.Value → Option (Option Bool)
  | [] => some none
  | r :: rs => do
      match ← findRunning (← assertionsIn r) with
      | some passed => return some passed
      | none => findRunningIn rs

-- what `grep` finds in the file at a path, where there is one
variable (serialChecks : List Nat → Option (List Bool))

/-- The checks of the serial log that the report names. -/
def serialLogChecks (d : Option Json.Value) : List Bool :=
  match d.bind fun d => get d "serial_log" (.str []) with
  | some (.str path) => if path = [] then [] else (serialChecks path).getD []
  | _ => []

/-- What is at the path of the report. -/
inductive ReportFile where
  | missing
  | text (content : List Char)
  -- no text, so that Python cannot read it
  | garbled

def ReportFile.parse : ReportFile → Option Json.Value
  | .text content => Json.parse content
  | _ => none

/-- The calls of `pass` and `fail` for a report, of which `d` is what Python reads. -/
def reportChecks (d : Option Json.Value) : List Bool :=
  let running := (d.bind resultsIn).bind findRunningIn
  [(d.bind reportStatus).getD false, assertionsFailed d = 0] ++
    (running.join.toList ++ serialLogChecks serialChecks d)

/-- Without Python every program fails. -/
def validateReport (python : Bool) : ReportFile → List Bool
  | .missing => [false]
  | file => reportChecks serialChecks (if python then file.parse else none)

/-- A run of the gate, as far as it shows in the report. -/
structure Run where
  spec : GateSpec
  guest : Guest
  elapsedMs : Nat
  screenshots : List String

def Run.reported (run : Run) : Reported :=
  { runGate run.spec run.guest with elapsedMs := run.elapsedMs, screenshots := run.screenshots }

/-- What becomes of the report. -/
inductive Writing where
  -- the file cannot be opened, or zen-test has ended before
  | untouched
  -- so many characters at its end are not written, and one more
  | cut (n : Nat)
  -- the end is within a character
  | torn
  | written

/-- How zen-test ends.  `died` is the exit code of a crash or a signal. -/
inductive ZenTestRun where
  -- `clap` refuses the value of `--timeout`
  | refused
  -- the gate cannot be parsed
  | stopped (died : Option Nat)
  | ran (run : Run) (writing : Writing) (died : Option Nat)

def ZenTestRun.exitCode : ZenTestRun → Nat
  | .refused => 2
  | .stopped died => died.getD 1
  | .ran run _ died => died.getD (verdict [run.reported]).code

def Run.report (serde : SerdeJson) (run : Run) : List Char :=
  (ending serde [run.reported] run.elapsedMs run.elapsedMs).report

def ZenTestRun.report (serde : SerdeJson) (old : ReportFile) : ZenTestRun → ReportFile
  | .ran run (.cut n) _ =>
      .text ((run.report serde).take ((run.report serde).length - (n + 1)))
  | .ran _ .torn _ => .garbled
  | .ran run .written _ => .text (run.report serde)
  | _ => old

/-- The file after runs of the test, one after another. -/
def reportAfter (serde : SerdeJson) (history : List ZenTestRun) : ReportFile :=
  history.foldl (fun file zen => zen.report serde file) .missing

/-- What the test finds. -/
structure Surroundings where
  zenTest : Bool
  gateToml : Bool
  image : Bool
  -- whether `mkdir -p` succeeds
  reportDir : Bool
  -- whether Python runs the programs, which have the path of the report in them
  python : Bool

structure Surroundings.Complete (s : Surroundings) : Prop where
  zenTest : s.zenTest = true
  gateToml : s.gateToml = true
  image : s.image = true
  reportDir : s.reportDir = true
  python : s.python = true

/-- The code that ends the test before the gate is run. -/
def preflight (s : Surroundings) : Option Nat :=
  if !s.zenTest then some 2
  else if !s.gateToml then some 2
  else if !s.image then some 2
  else if !s.reportDir then some 1
  else none

section Main

variable (serde : SerdeJson) (history : List ZenTestRun) (zen : ZenTestRun)

/-- All calls of `pass` and `fail`, after the runs in `history`. -/
def checks (python : Bool) : List Bool :=
  (if zen.exitCode = 2 ∨ zen.exitCode = 3 then [false] else []) ++
    validateReport serialChecks python (zen.report serde (reportAfter serde history))

/-- The exit code of the test. -/
def main (s : Surroundings) : Nat :=
  match preflight s with
  | some code => code
  | none => if (checks serialChecks serde history zen s.python).all id then 0 else 1

end Main

/-- The run whose report is whole and in place. -/
def ZenTestRun.leaves (old : Option Run) : ZenTestRun → Option Run
  | .ran _ (.cut _) _ | .ran _ .torn _ => none
  | .ran run .written _ => some run
  | _ => old

def lastWritten (history : List ZenTestRun) : Option Run :=
  history.foldl ZenTestRun.leaves none

end Validation

section Report

theorem get_of_lookup {members : List (List Nat × Json.Value)} {name : String} {v : Json.Value}
    (h : lookup members (key name) = some v) (default : Json.Value) :
    get (.obj members) name default = some v := by
  rw [get, h, Option.getD_some]

theorem runGate_assertions {spec : GateSpec} {guest : Guest}
    (h : (runGate spec guest).status = .passed) :
    ∀ a ∈ (runGate spec guest).assertions, a.passed = true := by
  revert h
  rw [runGate]
  rcases guest.timedOut with _ | _
  · rw [runGateInner]
    rcases guest.failure with _ | e
    · simp [List.countP_eq_zero]
    · rintro ⟨⟩
  · rintro ⟨⟩

theorem get_passed (a : AssertionResult) (default : Json.Value) :
    get (assertionDatum a).value "passed" default = some (.bool a.passed) := by
  obtain ⟨description, passed, detail⟩ := a
  rcases detail with _ | detail
  · exact get_of_lookup rfl default
  · exact get_of_lookup rfl default

theorem get_description (a : AssertionResult) (default : Json.Value) :
    get (assertionDatum a).value "description" default =
      some (.str (codes a.description.toList)) := by
  obtain ⟨description, passed, detail⟩ := a
  rcases detail with _ | detail
  · exact get_of_lookup rfl default
  · exact get_of_lookup rfl default

theorem assertionsIn_result (r : Reported) :
    assertionsIn (resultDatum r).value =
      some (r.assertions.map fun a => (assertionDatum a).value) := by
  have hlookup : lookup (resultMembers r) (key "assertions") =
      some (.arr (itemValues (r.assertions.map assertionDatum))) := by
    rw [resultMembers]
    rcases r.error with _ | e <;> rcases r.screenshots with _ | ⟨path, paths⟩ <;> rfl
  rw [assertionsIn, resultDatum_value, get_of_lookup hlookup, itemValues_eq_map, List.map_map]
  rfl

theorem get_status (r : Reported) (default : Json.Value) :
    get (resultDatum r).value "status" default =
      some (.str (codes (statusText r.status).toList)) := by
  rw [resultDatum_value]
  refine get_of_lookup ?_ default
  rw [resultMembers]
  rcases r.error with _ | e <;> rcases r.screenshots with _ | ⟨path, paths⟩ <;> rfl

variable (r : Reported) (elapsedMs : Nat)

theorem resultsIn_report :
    resultsIn (reportDatum [r] elapsedMs).value = some [(resultDatum r).value] :=
  rfl

theorem reportStatus_report :
    reportStatus (reportDatum [r] elapsedMs).value = some (decide (r.status = .passed)) := by
  have hcode := verdict_code_eq_zero_iff [r]
  rw [List.forall_mem_singleton] at hcode
  have hstatus : get (reportDatum [r] elapsedMs).value "status" (.str (key "unknown")) =
      some (.str (codes (outputStatusText (verdict [r]).status).toList)) := get_of_lookup rfl _
  rcases verdict_cases [r] with ⟨hok, hzero⟩ | ⟨hfail, hone⟩
  · have hpassed := hcode.mp hzero
    rw [reportStatus, hstatus, hok, hpassed]
    rfl
  · have hnot : r.status ≠ .passed := fun h => by
      rw [hcode.mpr h] at hone
      cases hone
    have hinner : innerStatus (reportDatum [r] elapsedMs).value = some false := by
      have hfirst : innerStatus (reportDatum [r] elapsedMs).value =
          (get (resultDatum r).value "status" .null).map fun status =>
            isText status "passed" := rfl
      rw [hfirst, get_status, Option.map_some]
      rcases hr : r.status with _ | _ | _ | _
      · exact absurd hr hnot
      all_goals rfl
    rw [reportStatus, hstatus, hfail, hinner, decide_eq_false hnot]
    rfl

theorem mapM_passed {as : List AssertionResult} (h : ∀ a ∈ as, a.passed = true) :
    (as.map fun a => (assertionDatum a).value).mapM
      (fun a => (get a "passed" (.bool true)).map truthy) = some (as.map fun _ => true) := by
  induction as with
  | nil => rfl
  | cons a as ih =>
      obtain ⟨ha, has⟩ := List.forall_mem_cons.mp h
      rw [List.map_cons, List.mapM_cons, get_passed, ih has, ha]
      rfl

theorem assertionsFailed_report (hpassed : ∀ a ∈ r.assertions, a.passed = true) :
    assertionsFailed (some (reportDatum [r] elapsedMs).value) = 0 := by
  have hall : [(resultDatum r).value].mapM assertionsIn =
      some [r.assertions.map fun a => (assertionDatum a).value] := by
    rw [List.mapM_cons, assertionsIn_result]
    rfl
  simp [assertionsFailed, resultsIn_report, hall, mapM_passed hpassed, List.count_replicate]

theorem findRunning_passed {as : List AssertionResult} (h : ∀ a ∈ as, a.passed = true) :
    ∃ running, findRunning (as.map fun a => (assertionDatum a).value) = some running ∧
      ∀ b ∈ running, b = true := by
  induction as with
  | nil => exact ⟨none, rfl, by simp⟩
  | cons a as ih =>
      obtain ⟨ha, has⟩ := List.forall_mem_cons.mp h
      rw [List.map_cons, findRunning, get_description]
      simp only [Option.bind_eq_bind, Option.bind_some, contains]
      split
      · exact ⟨some true, by rw [get_passed, ha]; rfl, by simp⟩
      · exact ih has

theorem findRunningIn_report (hpassed : ∀ a ∈ r.assertions, a.passed = true) :
    ∃ running, (resultsIn (reportDatum [r] elapsedMs).value).bind findRunningIn = some running ∧
      ∀ b ∈ running, b = true := by
  obtain ⟨running, hfind, hrunning⟩ := findRunning_passed hpassed
  refine ⟨running, ?_, hrunning⟩
  rw [resultsIn_report, Option.bind_some, findRunningIn, assertionsIn_result]
  simp only [Option.bind_eq_bind, Option.bind_some, hfind]
  cases running with
  | none => rfl
  | some b => rfl

variable (serialChecks : List Nat → Option (List Bool))

theorem serialLogChecks_report :
    serialLogChecks serialChecks (some (reportDatum [r] elapsedMs).value) = [] :=
  rfl

theorem reportChecks_report
    (hpassed : r.status = .passed → ∀ a ∈ r.assertions, a.passed = true) :
    (reportChecks serialChecks (some (reportDatum [r] elapsedMs).value)).all id =
      decide (r.status = .passed) := by
  rw [reportChecks, Option.bind_some, reportStatus_report, Option.getD_some,
    serialLogChecks_report]
  by_cases hstatus : r.status = .passed
  · have hall := hpassed hstatus
    obtain ⟨running, hfind, hrunning⟩ := findRunningIn_report r elapsedMs hall
    rw [Option.bind_some, hfind, assertionsFailed_report r elapsedMs hall, decide_eq_true hstatus]
    cases running with
    | none => rfl
    | some b =>
        cases hrunning b rfl
        rfl
  · rw [decide_eq_false hstatus]
    rfl

theorem validateReport_no_python (file : ReportFile) :
    (validateReport serialChecks false file).all id = false := by
  cases file <;> rfl

theorem validateReport_unread {file : ReportFile} (h : file.parse = none) (python : Bool) :
    (validateReport serialChecks python file).all id = false := by
  have hd : (if python then file.parse else none) = none := by
    rw [h, ite_self]
  cases file with
  | missing => rfl
  | text content =>
      rw [validateReport, hd]
      · rfl
      · nofun
  | garbled =>
      rw [validateReport, hd]
      · rfl
      · nofun

end Report

section Main

variable {serde : SerdeJson}

/-- The file is the report of this run; without one, no reader gets a value from it. -/
def Stands (serde : SerdeJson) (run : Option Run) (file : ReportFile) : Prop :=
  match run with
  | some run => file = .text (run.report serde)
  | none => file.parse = none

theorem Stands.report (hserde : serde.Lawful) {run : Option Run} {file : ReportFile}
    (h : Stands serde run file) (zen : ZenTestRun) :
    Stands serde (zen.leaves run) (zen.report serde file) := by
  cases zen with
  | refused => exact h
  | stopped died => exact h
  | ran new writing died =>
      cases writing with
      | untouched => exact h
      | cut n =>
          have hne : new.report serde ≠ [] := by
            intro hnil
            have hlast := hserde.pretty.getLast?_obj
              [member "code" (.int (verdict [new.reported]).code),
                member "data" (.obj [member "results" (resultsDatum [new.reported]),
                  member "summary" (text (summaryOf [new.reported]))]),
                member "elapsed_ms" (.int new.elapsedMs),
                member "status" (text (outputStatusText (verdict [new.reported]).status))]
            have hempty := congrArg List.getLast? hnil
            cases hlast.symm.trans hempty
          refine hserde.pretty.parse_take (n := (new.report serde).length - (n + 1)) ?_
          exact Nat.sub_lt (List.length_pos_iff.mpr hne) n.succ_pos
      | torn => rfl
      | written => rfl

theorem stands_reportAfter (hserde : serde.Lawful) (history : List ZenTestRun) :
    Stands serde (lastWritten history) (reportAfter serde history) := by
  induction history using List.reverseRecOn with
  | nil => rfl
  | append_singleton history zen ih =>
      rw [lastWritten, reportAfter, List.foldl_concat, List.foldl_concat]
      exact ih.report hserde zen

theorem lastWritten_concat (history : List ZenTestRun) (zen : ZenTestRun) :
    lastWritten (history ++ [zen]) = zen.leaves (lastWritten history) := by
  rw [lastWritten, List.foldl_concat]
  rfl

variable (serialChecks : List Nat → Option (List Bool))

theorem validateReport_of_stands (hserde : serde.Lawful) {run : Option Run} {file : ReportFile}
    (h : Stands serde run file) :
    (validateReport serialChecks true file).all id = true ↔
      ∃ r ∈ run, (runGate r.spec r.guest).status = .passed := by
  cases run with
  | none => simp [validateReport_unread serialChecks h]
  | some run =>
      obtain rfl := h
      have hparse : Json.parse (run.report serde) =
          some (reportDatum [run.reported] run.elapsedMs).value :=
        hserde.pretty.parse_toString (reportDatum [run.reported] run.elapsedMs)
      rw [validateReport, if_pos rfl, ReportFile.parse, hparse,
        reportChecks_report run.reported run.elapsedMs serialChecks runGate_assertions,
        decide_eq_true_eq]
      · simp [Run.reported]
      · nofun

theorem preflight_cases (s : Surroundings) :
    (s.zenTest && s.gateToml && s.image) = false ∧ preflight s = some 2 ∨
      (s.zenTest && s.gateToml && s.image) = true ∧ s.reportDir = false ∧ preflight s = some 1 ∨
      (s.zenTest && s.gateToml && s.image) = true ∧ s.reportDir = true ∧ preflight s = none := by
  rcases s with ⟨zenTest, gateToml, image, reportDir, python⟩
  cases zenTest <;> cases gateToml <;> cases image <;> cases reportDir <;> simp [preflight]

theorem checks_iff (hserde : serde.Lawful) (python : Bool) (history : List ZenTestRun)
    (zen : ZenTestRun) :
    (checks serialChecks serde history zen python).all id = true ↔
      python = true ∧ zen.exitCode ≠ 2 ∧ zen.exitCode ≠ 3 ∧
        ∃ r ∈ lastWritten (history ++ [zen]), (runGate r.spec r.guest).status = .passed := by
  have hstands : Stands serde (lastWritten (history ++ [zen]))
      (zen.report serde (reportAfter serde history)) := by
    rw [lastWritten_concat]
    exact (stands_reportAfter hserde history).report hserde zen
  rw [checks, List.all_append, Bool.and_eq_true]
  rcases python with _ | _
  · simp [validateReport_no_python]
  · rw [validateReport_of_stands serialChecks hserde hstands]
    split
    next hcode => rcases hcode with hcode | hcode <;> simp [hcode]
    next hcode =>
      rw [not_or] at hcode
      simp [hcode]

/-- The test succeeds exactly when nothing is missing, zen-test has not ended with one of the two
codes of an error, and the gate has passed in the run whose report is in place: this one or,
where it has left the report alone, the last one before it that has touched it. -/
theorem main_exitCode (serde : SerdeJson) (hserde : serde.Lawful) (s : Surroundings)
    (history : List ZenTestRun) (zen : ZenTestRun) :
    (main serialChecks serde history zen s = 0 ↔
      s.Complete ∧ zen.exitCode ≠ 2 ∧ zen.exitCode ≠ 3 ∧
        ∃ r ∈ lastWritten (history ++ [zen]), (runGate r.spec r.guest).status = .passed) ∧
    (main serialChecks serde history zen s = 2 ↔
      ¬ (s.zenTest = true ∧ s.gateToml = true ∧ s.image = true)) := by
  have hchecks := checks_iff serialChecks hserde s.python history zen
  rcases preflight_cases s with ⟨hmissing, hpre⟩ | ⟨hfound, hdir, hpre⟩ | ⟨hfound, hdir, hpre⟩
  · have hnot : ¬ s.Complete := by
      intro h
      simp [h.zenTest, h.gateToml, h.image] at hmissing
    rw [main, hpre]
    simpa [hnot, and_assoc] using hmissing
  · have hnot : ¬ s.Complete := by
      intro h
      rw [h.reportDir] at hdir
      cases hdir
    rw [main, hpre]
    simpa [hnot, and_assoc] using hfound
  · simp only [Bool.and_eq_true] at hfound
    have hcomplete : s.Complete ↔ s.python = true :=
      ⟨fun h => h.python, fun h => ⟨hfound.1.1, hfound.1.2, hfound.2, hdir, h⟩⟩
    rw [main, hpre, hcomplete, ← hchecks]
    dsimp only
    split
    next hall => simp [hall, hfound]
    next hall => simp [hall, hfound]

def emptyRun : Run where
  spec :=
    { gate := { name := "Crash Isolation", phase := "1", subPhase := "5", timeoutSeconds := 300 }
      assert := { serial := [], serialAbsent := [], exec := [], screenshot := [] } }
  guest :=
    { timedOut := false, failure := none, logContains := fun _ _ => true
      logAbsent := fun _ _ => true, exec := fun _ => .error "", capture := fun _ => .error "" }
  elapsedMs := 1000
  screenshots := []

/-- The gate cannot be parsed, and the report of an earlier run decides. -/
theorem main_exitCode_stale :
    (main (fun _ => none) plainSerde [.ran emptyRun .written none] (.stopped none)
        ⟨true, true, true, true, true⟩ = 0 ↔
      Surroundings.Complete ⟨true, true, true, true, true⟩ ∧
        (ZenTestRun.stopped none).exitCode ≠ 2 ∧ (ZenTestRun.stopped none).exitCode ≠ 3 ∧
        ∃ r ∈ lastWritten ([.ran emptyRun .written none] ++ [.stopped none]),
          (runGate r.spec r.guest).status = .passed) ∧
    (main (fun _ => none) plainSerde [.ran emptyRun .written none] (.stopped none)
        ⟨true, true, true, true, true⟩ = 2 ↔ ¬ (true = true ∧ true = true ∧ true = true)) :=
  main_exitCode (fun _ => none) plainSerde plainSerde_lawful ⟨true, true, true, true, true⟩
    [.ran emptyRun .written none] (.stopped none)

end Main

end ZenOS.ZenTest.CrashIsolation
