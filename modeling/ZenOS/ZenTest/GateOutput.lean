import ZenOS.Library.JsonWriter
import ZenOS.QualityGates.ResultLine
import ZenOS.ZenTest.Runner

/-!
The JSON that `gate run` leaves behind: the object on stdout, and the report of
`--report-json`.  What a reader finds in them is what the gates have returned.
-/

namespace ZenOS.ZenTest.GateOutput

open ZenOS.Library ZenOS.Library.Json
open ZenOS.QualityGates (key)

/-- A `GateResult` with its time and its screenshots. -/
structure Reported extends GateResult where
  elapsedMs : Nat
  screenshots : List String

def member (name : String) (d : Datum) : List Char × Datum :=
  (name.toList, d)

def text (s : String) : Datum :=
  .str s.toList

/-- A member that `skip_serializing_if` leaves out when there is nothing to write. -/
def optional (name : String) (d : Option Datum) : List (List Char × Datum) :=
  (d.map (member name)).toList

/-- The values of the field `status`. -/
def statusText : GateStatus → String
  | .passed => "passed"
  | .failed => "failed"
  | .timeout => "timeout"
  | .error => "error"

/-- `serde_json::Value` keeps the members of an object in the order of their names. -/
def assertionDatum (a : AssertionResult) : Datum :=
  .obj (member "description" (text a.description) :: (optional "detail" (a.detail.map text) ++
    [member "passed" (.bool a.passed)]))

def resultDatum (r : Reported) : Datum :=
  .obj ([member "assertions" (.arr (r.assertions.map assertionDatum)),
      member "elapsed_ms" (.int r.elapsedMs)] ++
    (optional "error" (r.error.map text) ++
      ([member "failed" (.int r.failed), member "gate" (text r.gate),
          member "passed" (.int r.passed), member "phase" (text r.phase)] ++
        (optional "screenshots"
            (if r.screenshots = [] then none else some (.arr (r.screenshots.map text))) ++
          [member "status" (text (statusText r.status)),
            member "sub_phase" (text r.subPhase)]))))

def resultsDatum (results : List Reported) : Datum :=
  .arr (results.map resultDatum)

def outputStatusText : OutputStatus → String
  | .ok => "ok"
  | .fail => "fail"

/-- The verdict of `handle_gate` on what the gates have returned. -/
def verdict (results : List Reported) : Output :=
  emitResults (results.map (·.toGateResult))

def summaryOf (results : List Reported) : String :=
  summary (results.map (·.toGateResult))

/-- `json_output` -/
def reportDatum (results : List Reported) (elapsedMs : Nat) : Datum :=
  .obj [member "code" (.int (verdict results).code),
    member "data" (.obj [member "results" (resultsDatum results),
      member "summary" (text (summaryOf results))]),
    member "elapsed_ms" (.int elapsedMs),
    member "status" (text (outputStatusText (verdict results).status))]

/-- The object on stdout: that of `emit_ok`, or the one of failed gates. -/
def printedDatum (results : List Reported) (elapsedMs : Nat) : Datum :=
  match (verdict results).status with
  | .ok =>
      .obj [member "status" (text "ok"),
        member "data" (.obj [member "results" (resultsDatum results),
          member "summary" (text (summaryOf results))]),
        member "code" (.int 0), member "elapsed_ms" (.int elapsedMs)]
  | .fail =>
      .obj [member "code" (.int 1), member "data" (.obj [member "results" (resultsDatum results)]),
        member "elapsed_ms" (.int elapsedMs), member "error" (text (summaryOf results)),
        member "status" (text "fail")]

/-- What writes JSON in `serde_json`. -/
structure SerdeJson where
  toString : Datum → List Char
  toStringPretty : Datum → List Char

structure SerdeJson.Lawful (serde : SerdeJson) : Prop where
  line : WritesLine serde.toString
  pretty : WritesPretty serde.toStringPretty

/-- How a `gate run` with `--report-json` ends. -/
structure Ending where
  stdout : List Char
  report : List Char
  exitCode : Nat

/-- The end of `handle_gate`; the two times are those at which the objects are built. -/
def ending (serde : SerdeJson) (results : List Reported) (reportMs stdoutMs : Nat) : Ending where
  stdout := serde.toString (printedDatum results stdoutMs) ++ ['\n']
  report := serde.toStringPretty (reportDatum results reportMs)
  exitCode := (verdict results).code

section Readers

variable (members : List (List Nat × Json.Value)) (name : String)

def textAt : Option String :=
  match lookup members (key name) with
  | some (.str s) => some (.ofList (s.map Char.ofNat))
  | _ => none

def numberAt : Option Nat :=
  match lookup members (key name) with
  | some (.int n) => some n.toNat
  | _ => none

def boolAt : Option Bool :=
  match lookup members (key name) with
  | some (.bool b) => some b
  | _ => none

/-- The items of a member that is an array; without the member there are none. -/
def itemsAt : Option (List Json.Value) :=
  match lookup members (key name) with
  | some (.arr items) => some items
  | some _ => none
  | none => some []

def objectAt : Option (List (List Nat × Json.Value)) :=
  match lookup members (key name) with
  | some (.obj inner) => some inner
  | _ => none

end Readers

def readText : Json.Value → Option String
  | .str s => some (.ofList (s.map Char.ofNat))
  | _ => none

def assertionOf (members : List (List Nat × Json.Value)) : Option AssertionResult := do
  let description ← textAt members "description"
  let passed ← boolAt members "passed"
  return { description, passed, detail := textAt members "detail" }

def readAssertion : Json.Value → Option AssertionResult
  | .obj members => assertionOf members
  | _ => none

def readStatus (s : String) : Option GateStatus :=
  [GateStatus.passed, .failed, .timeout, .error].find? fun status => statusText status = s

def resultOf (members : List (List Nat × Json.Value)) : Option Reported := do
  let assertions ← (← itemsAt members "assertions").mapM readAssertion
  let elapsedMs ← numberAt members "elapsed_ms"
  let failed ← numberAt members "failed"
  let gate ← textAt members "gate"
  let passed ← numberAt members "passed"
  let phase ← textAt members "phase"
  let screenshots ← (← itemsAt members "screenshots").mapM readText
  let status ← (textAt members "status").bind readStatus
  let subPhase ← textAt members "sub_phase"
  return { gate, phase, subPhase, status, assertions, passed, failed
           error := textAt members "error", elapsedMs, screenshots }

def readResult : Json.Value → Option Reported
  | .obj members => resultOf members
  | _ => none

/-- The status, the code, the summary and the results. -/
structure Reading where
  status : String
  code : Nat
  summary : String
  results : List Reported

def outputOf (members : List (List Nat × Json.Value)) : Option Reading := do
  let status ← textAt members "status"
  let code ← numberAt members "code"
  let data ← objectAt members "data"
  let summary ← (textAt members "error").or (textAt data "summary")
  let results ← (← itemsAt data "results").mapM readResult
  return { status, code, summary, results }

def readOutput (content : List Char) : Option Reading :=
  match parse content with
  | some (.obj members) => outputOf members
  | _ => none

section RoundTrips

theorem ofList_codes (s : String) : String.ofList ((codes s.toList).map Char.ofNat) = s := by
  simp [codes, Function.comp_def]

theorem readText_value (s : String) : readText (text s).value = some s :=
  congrArg some (ofList_codes s)

theorem itemValues_eq_map (ds : List Datum) : itemValues ds = ds.map Datum.value := by
  induction ds with
  | nil => rfl
  | cons d ds ih => rw [itemValues, ih, List.map_cons]

theorem mapM_itemValues {α : Type} {write : α → Datum} {read : Json.Value → Option α}
    (h : ∀ a, read (write a).value = some a) (as : List α) :
    (itemValues (as.map write)).mapM read = some as := by
  induction as with
  | nil => rfl
  | cons a as ih =>
      rw [List.map_cons, itemValues, List.mapM_cons, h, ih]
      rfl

theorem readStatus_statusText (status : GateStatus) :
    readStatus (statusText status) = some status := by
  cases status <;> rfl

section Members

variable {members inner : List (List Nat × Json.Value)} {name : String}

theorem textAt_of_lookup {s : String}
    (h : lookup members (key name) = some (.str (codes s.toList))) :
    textAt members name = some s := by
  simp only [textAt, h, ofList_codes]

theorem textAt_of_none (h : lookup members (key name) = none) : textAt members name = none := by
  simp only [textAt, h]

theorem numberAt_of_lookup {n : Nat} (h : lookup members (key name) = some (.int n)) :
    numberAt members name = some n := by
  simp only [numberAt, h, Int.toNat_natCast]

theorem boolAt_of_lookup {b : Bool} (h : lookup members (key name) = some (.bool b)) :
    boolAt members name = some b := by
  simp only [boolAt, h]

theorem itemsAt_of_lookup {items : List Json.Value}
    (h : lookup members (key name) = some (.arr items)) : itemsAt members name = some items := by
  simp only [itemsAt, h]

theorem itemsAt_of_none (h : lookup members (key name) = none) :
    itemsAt members name = some [] := by
  simp only [itemsAt, h]

theorem objectAt_of_lookup (h : lookup members (key name) = some (.obj inner)) :
    objectAt members name = some inner := by
  simp only [objectAt, h]

end Members

theorem memberValues_append (ms ms' : List (List Char × Datum)) :
    memberValues (ms ++ ms') = memberValues ms ++ memberValues ms' := by
  induction ms with
  | nil => rfl
  | cons m ms ih =>
      obtain ⟨k, d⟩ := m
      rw [List.cons_append, memberValues, memberValues, ih, List.cons_append]

theorem readAssertion_value (a : AssertionResult) :
    readAssertion (assertionDatum a).value = some a := by
  let members : List (List Nat × Json.Value) :=
    (key "description", .str (codes a.description.toList)) ::
      (memberValues (optional "detail" (a.detail.map text)) ++ [(key "passed", .bool a.passed)])
  have hvalue : (assertionDatum a).value = .obj members := by
    rw [assertionDatum, Datum.value, member, memberValues, memberValues_append]
    rfl
  have hmembers : textAt members "description" = some a.description ∧
      boolAt members "passed" = some a.passed ∧ textAt members "detail" = a.detail := by
    rcases hdetail : a.detail with _ | detail
    · simp only [members, hdetail]
      exact ⟨textAt_of_lookup rfl, boolAt_of_lookup rfl, textAt_of_none rfl⟩
    · simp only [members, hdetail]
      exact ⟨textAt_of_lookup rfl, boolAt_of_lookup rfl, textAt_of_lookup rfl⟩
  obtain ⟨hdescription, hpassed, hdetail⟩ := hmembers
  rw [hvalue, readAssertion, assertionOf, hdescription, hpassed, hdetail]
  rfl

/-- The members of a result as the parser has them. -/
def resultMembers (r : Reported) : List (List Nat × Json.Value) :=
  [(key "assertions", .arr (itemValues (r.assertions.map assertionDatum))),
      (key "elapsed_ms", .int r.elapsedMs)] ++
    (memberValues (optional "error" (r.error.map text)) ++
      ([(key "failed", .int r.failed), (key "gate", .str (codes r.gate.toList)),
          (key "passed", .int r.passed), (key "phase", .str (codes r.phase.toList))] ++
        (memberValues (optional "screenshots"
            (if r.screenshots = [] then none else some (.arr (r.screenshots.map text)))) ++
          [(key "status", .str (codes (statusText r.status).toList)),
            (key "sub_phase", .str (codes r.subPhase.toList))])))

theorem resultDatum_value (r : Reported) : (resultDatum r).value = .obj (resultMembers r) := by
  rw [resultDatum, Datum.value]
  simp only [memberValues_append]
  rfl

theorem resultMembers_always (r : Reported) :
    itemsAt (resultMembers r) "assertions" = some (itemValues (r.assertions.map assertionDatum)) ∧
      numberAt (resultMembers r) "elapsed_ms" = some r.elapsedMs ∧
      numberAt (resultMembers r) "failed" = some r.failed ∧
      textAt (resultMembers r) "gate" = some r.gate ∧
      numberAt (resultMembers r) "passed" = some r.passed ∧
      textAt (resultMembers r) "phase" = some r.phase ∧
      textAt (resultMembers r) "status" = some (statusText r.status) ∧
      textAt (resultMembers r) "sub_phase" = some r.subPhase := by
  rw [resultMembers]
  rcases r.error with _ | e <;> rcases r.screenshots with _ | ⟨path, paths⟩ <;>
    exact ⟨itemsAt_of_lookup rfl, numberAt_of_lookup rfl, numberAt_of_lookup rfl,
      textAt_of_lookup rfl, numberAt_of_lookup rfl, textAt_of_lookup rfl, textAt_of_lookup rfl,
      textAt_of_lookup rfl⟩

theorem textAt_error (r : Reported) : textAt (resultMembers r) "error" = r.error := by
  rw [resultMembers]
  rcases r.error with _ | e <;> rcases r.screenshots with _ | ⟨path, paths⟩
  · exact textAt_of_none rfl
  · exact textAt_of_none rfl
  · exact textAt_of_lookup rfl
  · exact textAt_of_lookup rfl

theorem itemsAt_screenshots (r : Reported) :
    itemsAt (resultMembers r) "screenshots" = some (itemValues (r.screenshots.map text)) := by
  rw [resultMembers]
  rcases r.error with _ | e <;> rcases r.screenshots with _ | ⟨path, paths⟩
  · exact itemsAt_of_none rfl
  · exact itemsAt_of_lookup rfl
  · exact itemsAt_of_none rfl
  · exact itemsAt_of_lookup rfl

theorem readResult_value (r : Reported) : readResult (resultDatum r).value = some r := by
  obtain ⟨hassertions, helapsed, hfailed, hgate, hpassed, hphase, hstatus, hsubPhase⟩ :=
    resultMembers_always r
  rw [resultDatum_value, readResult, resultOf, hassertions, helapsed, hfailed, hgate, hpassed,
    hphase, hstatus, hsubPhase, itemsAt_screenshots, textAt_error]
  simp only [Option.bind_eq_bind, Option.bind_some, mapM_itemValues readAssertion_value,
    mapM_itemValues readText_value, readStatus_statusText]
  rfl

theorem outputOf_members {members data : List (List Nat × Json.Value)} {status summary : String}
    {code : Nat} {results : List Reported} (hstatus : textAt members "status" = some status)
    (hcode : numberAt members "code" = some code) (hdata : objectAt members "data" = some data)
    (hsummary : (textAt members "error").or (textAt data "summary") = some summary)
    (hresults : itemsAt data "results" = some (itemValues (results.map resultDatum))) :
    outputOf members = some { status, code, summary, results } := by
  rw [outputOf, hstatus, hcode, hdata]
  simp only [Option.bind_eq_bind, Option.bind_some, hsummary, hresults,
    mapM_itemValues readResult_value]
  rfl

variable (results : List Reported)

/-- What there is to read about a run. -/
def readingOf : Reading where
  status := outputStatusText (verdict results).status
  code := (verdict results).code
  summary := summaryOf results
  results

theorem readOutput_of_value {content : List Char} {members : List (List Nat × Json.Value)}
    (h : parse content = some (.obj members)) : readOutput content = outputOf members := by
  rw [readOutput, h]

theorem readOutput_report {serde : SerdeJson} (hserde : serde.Lawful) (elapsedMs : Nat) :
    readOutput (serde.toStringPretty (reportDatum results elapsedMs)) =
      some (readingOf results) := by
  rw [readOutput_of_value (hserde.pretty.parse_toString (reportDatum results elapsedMs))]
  refine outputOf_members (textAt_of_lookup rfl) (numberAt_of_lookup rfl) (objectAt_of_lookup rfl)
    ?_ (itemsAt_of_lookup rfl)
  rw [textAt_of_none rfl, Option.none_or]
  exact textAt_of_lookup rfl

theorem verdict_cases :
    (verdict results).status = .ok ∧ (verdict results).code = 0 ∨
      (verdict results).status = .fail ∧ (verdict results).code = 1 := by
  rw [verdict, emitResults]
  split
  · exact .inl ⟨rfl, rfl⟩
  · exact .inr ⟨rfl, rfl⟩

theorem readOutput_printed {serde : SerdeJson} (hserde : serde.Lawful) (elapsedMs : Nat) :
    readOutput (serde.toString (printedDatum results elapsedMs) ++ ['\n']) =
      some (readingOf results) := by
  have hparse := hserde.line.parse_toString (printedDatum results elapsedMs)
  rw [← parse_append_newline] at hparse
  rcases verdict_cases results with ⟨hstatus, hcode⟩ | ⟨hstatus, hcode⟩
  · rw [readingOf, hstatus, hcode]
    rw [printedDatum, hstatus] at hparse ⊢
    rw [readOutput_of_value hparse]
    refine outputOf_members (textAt_of_lookup rfl) (numberAt_of_lookup rfl)
      (objectAt_of_lookup rfl) ?_ (itemsAt_of_lookup rfl)
    rw [textAt_of_none rfl, Option.none_or]
    exact textAt_of_lookup rfl
  · rw [readingOf, hstatus, hcode]
    rw [printedDatum, hstatus] at hparse ⊢
    rw [readOutput_of_value hparse]
    refine outputOf_members (textAt_of_lookup rfl) (numberAt_of_lookup rfl)
      (objectAt_of_lookup rfl) ?_ (itemsAt_of_lookup rfl)
    rw [textAt_of_lookup rfl]
    rfl

theorem verdict_code_eq_zero_iff :
    (verdict results).code = 0 ↔ ∀ r ∈ results, r.status = .passed := by
  rw [verdict, emitResults]
  split
  next hall => simpa using hall
  next hall => simpa using hall

end RoundTrips

/-- Stdout is one line, both JSON texts say everything about the run, and they agree with the
exit code. -/
structure Faithful (results : List Reported) (e : Ending) : Prop where
  oneLine : ∃ line, e.stdout = line ++ ['\n'] ∧ '\n' ∉ line
  stdout : readOutput e.stdout = some (readingOf results)
  report : readOutput e.report = some (readingOf results)
  exitCode : e.exitCode = (readingOf results).code
  success : e.exitCode = 0 ↔ ∀ r ∈ results, r.status = .passed

/-- Whatever the names, descriptions, details and errors of the gates are, both JSON texts are
read back as the results. -/
theorem ending_faithful (serde : SerdeJson) (hserde : serde.Lawful) (results : List Reported)
    (reportMs stdoutMs : Nat) : Faithful results (ending serde results reportMs stdoutMs) where
  oneLine := ⟨_, rfl, (hserde.line.oneLine (printedDatum results stdoutMs)).newline_notMem⟩
  stdout := readOutput_printed results hserde stdoutMs
  report := readOutput_report results hserde reportMs
  exitCode := rfl
  success := verdict_code_eq_zero_iff results

/-- The writers of the library. -/
def plainSerde : SerdeJson where
  toString := write false 0
  toStringPretty := write true 0

theorem plainSerde_lawful : plainSerde.Lawful where
  line := writesLine_write
  pretty := writesPretty_write

def quotedResult : Reported where
  gate := "a \"quoted\" gate"
  phase := "1"
  subPhase := "5"
  status := .failed
  assertions := [⟨"two\nlines", false, some "\\"⟩]
  passed := 0
  failed := 1
  error := none
  elapsedMs := 12
  screenshots := []

theorem ending_faithful_quoted :
    Faithful [quotedResult] (ending plainSerde [quotedResult] 12 13) :=
  ending_faithful plainSerde plainSerde_lawful [quotedResult] 12 13

end ZenOS.ZenTest.GateOutput
