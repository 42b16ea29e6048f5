import ZenOS.Library.JsonWriter
import ZenOS.ZenTest.AgentOutput

/-!
Calls of `guest_exec` one after another, from the request that the host writes to the result
that it returns: `serde_json` writes the line, the agent takes it apart with `jq` and has a
shell execute the command, and `serde_json` reads the answer.
-/

namespace ZenOS.ZenTest.AgentExec

open ZenOS.Library ZenOS.Library.Json ZenOS.Library.ShellText ZenOS.Library.Utf8
open AgentOutput (Output Reads agentReply guestExecInner responseOf)
open ZenOS.QualityGates (key intText)
open String (utf8EncodeChar)

/-- An `AgentRequest` as `serde` sees it. -/
def requestDatum (request : AgentRequest) : Datum :=
  .obj [("id".toList, .int request.id), ("cmd".toList, .str "exec".toList),
    ("args".toList, .obj [("command".toList, .str request.command.toList),
      ("timeout".toList, .int request.timeout)])]

-- `serde_json::to_string`
variable (toString : Datum → List Char) in
def requestJson (request : AgentRequest) : List Char :=
  toString (requestDatum request)

/-- How a command ends. -/
structure Finished where
  exitCode : UInt8
  stdout : Output
  stderr : Output
  steps : ShellSteps

def Finished.execution (finished : Finished) : Execution where
  exitCode := finished.exitCode.toNat
  stdout := finished.stdout.bytes
  stderr := finished.stderr.bytes
  steps := finished.steps

/-- What `printf` writes for a request without a command. -/
def errorObject (id : List Char) : List Char :=
  "\x7b\"id\":".toList ++ (intText (printfD id).1 ++
    (",\"status\":\"error\",\"exit_code\":1,\"stdout\":\"\",\"stderr\":\"\"," ++
      "\"message\":\"empty command\"\x7d").toList)

section Guest

variable (jq : List Char → JqFilter → JqOutput) (jqRs : List UInt8 → List Char)
  (decode : List UInt8 → String)
-- `timeout "$tmout" bash -c "$command"`, which need not end
variable (shell : List Char → List Char → Option Finished)

/-- The line that answers a line. -/
def replyText (line : List Char) (finished : Option Finished) : List Char :=
  if field jq line .command = [] then errorObject (field jq line .id) ++ ['\n']
  else
    match finished with
    | none => []
    | some finished =>
        agentReply jqRs (field jq line .id) finished.exitCode finished.stdout.bytes
          finished.stderr.bytes

/-- A character that the host writes, and what the agent writes then. -/
def receive (s : AgentLoop) (c : Char) : AgentLoop × List Char :=
  if h : c ≠ '\n' then (s.step jq decode (.byte ⟨c, h⟩), [])
  else
    let finished := shell (field jq s.line .command) (field jq s.line .timeout)
    (s.step jq decode (.lineEnd (finished.map Finished.execution)),
      if (s.handle jq decode (finished.map Finished.execution)).answers = [] then []
      else replyText jq jqRs s.line finished)

def serve (s : AgentLoop) : List Char → AgentLoop × List Char
  | [] => (s, [])
  | c :: text =>
      let p := receive jq jqRs decode shell s c
      let q := serve p.1 text
      (q.1, p.2 ++ q.2)

variable (toString : Datum → List Char) (fromStr : String → Except String AgentResponse)

/-- A call for which nothing else is on the port. -/
def guestExec (s : AgentLoop) (request : AgentRequest) :
    AgentLoop × Except String AgentExecResult :=
  let p := serve jq jqRs decode shell s (requestJson toString request ++ ['\n'])
  (p.1, guestExecInner fromStr p.2)

def guestExecs (s : AgentLoop) : List AgentRequest → List (Except String AgentExecResult)
  | [] => []
  | request :: requests =>
      let p := guestExec jq jqRs decode shell toString fromStr s request
      p.2 :: guestExecs p.1 requests

/-- The command ends, and with it all the steps around it. -/
def Ends (request : AgentRequest) (finished : Finished) : Prop :=
  shell (substituted request.command.toList) (decimal request.timeout) = some finished ∧
    finished.steps.succeed = true

/-- The end of the command, as far as command substitutions let it through: that of the
command itself, and that of its outputs. -/
def ownResult (request : AgentRequest) (finished : Finished) : Except String AgentExecResult :=
  if substituted request.command.toList = [] then .error "Agent error: empty command"
  else
    .ok { exitCode := finished.exitCode.toNat
          stdout := .ofList (substituted finished.stdout.text.toList)
          stderr := .ofList (substituted finished.stderr.text.toList) }

/-- The value behind names. -/
def valueAt : Json.Value → List String → Option Json.Value
  | v, [] => some v
  | .obj members, name :: names => (lookup members (key name)).bind fun v => valueAt v names
  | _, _ => none

end Guest

/-- Where a filter looks. -/
def path : JqFilter → List String
  | .id => ["id"]
  | .cmd => ["cmd"]
  | .command => ["args", "command"]
  | .timeout => ["args", "timeout"]

def IsScalar : Json.Value → Prop
  | .int _ => True
  | .str s => ∃ text, s = codes text
  | _ => False

/-- `jq -r` prints strings as they are and numbers that a double can hold, `jq -Rs` prints a
text as a literal, `to_string` writes on one line, and `from_str` reads an object with the members
of a response. -/
structure FollowJson (jq : List Char → JqFilter → JqOutput) (jqRs : List UInt8 → List Char)
    (toString : Datum → List Char) (fromStr : String → Except String AgentResponse) : Prop where
  toString : WritesLine toString
  string : ∀ {line v} filter {text}, parse line = some v →
    valueAt v (path filter) = some (.str (codes text)) → jq line filter = ⟨text ++ ['\n'], true⟩
  number : ∀ {line v} filter {n : Nat}, parse line = some v → n ≤ 2 ^ 53 →
    valueAt v (path filter) = some (.int n) →
      jq line filter = ⟨Nat.toDigits 10 n ++ ['\n'], true⟩
  jqRs : ∀ {text : List Char}, (∀ c ∈ text, c.toNat ≠ 0) →
    ∃ raw, IsLiteral raw text ∧
      jqRs (text.flatMap utf8EncodeChar) = '"' :: (raw ++ ['"']) ++ ['\n']
  fromStr : ∀ {line : String} {members resp}, parse line.toList = some (.obj members) →
    (members.map Prod.fst).Nodup → (∀ m ∈ members, IsScalar m.2) →
      responseOf members = .ok resp → fromStr line = .ok resp

section Calls

variable {jq : List Char → JqFilter → JqOutput} {jqRs : List UInt8 → List Char}
  {decode : List UInt8 → String} {shell : List Char → List Char → Option Finished}
  {toString : Datum → List Char} {fromStr : String → Except String AgentResponse}
variable {s : AgentLoop} {request : AgentRequest} {finished : Finished}

theorem parse_requestJson (h : WritesLine toString) (request : AgentRequest) :
    parse (requestJson toString request) = some (requestDatum request).value :=
  h.parse_toString (requestDatum request)

theorem requestJson_ne_nil (h : WritesLine toString) (request : AgentRequest) :
    requestJson toString request ≠ [] := by
  intro hnil
  have hparse := parse_requestJson h request
  rw [hnil] at hparse
  cases hparse

theorem substituted_toDigits (n : Nat) :
    substituted (Nat.toDigits 10 n ++ ['\n']) = Nat.toDigits 10 n := by
  have hline : OneLine (Nat.toDigits 10 n) := oneLine_decimal n
  rw [substituted_append_newline]
  exact substituted_of_line (fun _ => hline.toNat_ne_zero) hline.newline_notMem

section Fields

variable (hjson : FollowJson jq jqRs toString fromStr)
include hjson

theorem jq_command (request : AgentRequest) :
    jq (requestJson toString request) .command = ⟨request.command.toList ++ ['\n'], true⟩ :=
  hjson.string .command (parse_requestJson hjson.toString request) rfl

theorem jq_id (hid : request.id ≤ 2 ^ 53) :
    jq (requestJson toString request) .id = ⟨Nat.toDigits 10 request.id ++ ['\n'], true⟩ :=
  hjson.number .id (parse_requestJson hjson.toString request) hid rfl

theorem jq_timeout (htimeout : request.timeout ≤ 2 ^ 53) :
    jq (requestJson toString request) .timeout = ⟨Nat.toDigits 10 request.timeout ++ ['\n'], true⟩ :=
  hjson.number .timeout (parse_requestJson hjson.toString request) htimeout rfl

theorem jq_cmd (request : AgentRequest) :
    jq (requestJson toString request) .cmd = ⟨"exec".toList ++ ['\n'], true⟩ :=
  hjson.string .cmd (parse_requestJson hjson.toString request) rfl

theorem field_command (request : AgentRequest) :
    field jq (requestJson toString request) .command = substituted request.command.toList := by
  rw [field, jq_command hjson, substituted_append_newline]

theorem field_timeout (htimeout : request.timeout ≤ 2 ^ 53) :
    field jq (requestJson toString request) .timeout = decimal request.timeout := by
  rw [field, jq_timeout hjson htimeout, substituted_toDigits]
  rfl

theorem field_id (hid : request.id ≤ 2 ^ 53) :
    field jq (requestJson toString request) .id = Nat.toDigits 10 request.id := by
  rw [field, jq_id hjson hid, substituted_toDigits]

theorem jq_ok (hid : request.id ≤ 2 ^ 53) (htimeout : request.timeout ≤ 2 ^ 53) :
    ([JqFilter.id, .cmd, .command, .timeout].all fun filter =>
      (jq (requestJson toString request) filter).ok) = true := by
  simp [jq_id hjson hid, jq_cmd hjson, jq_command hjson, jq_timeout hjson htimeout]

end Fields

/-- The agent waits for a line. -/
structure Waits (s : AgentLoop) : Prop where
  running : s.life = .running
  line : s.line = []

theorem serve_append (s : AgentLoop) (first second : List Char) :
    serve jq jqRs decode shell s (first ++ second) =
      let p := serve jq jqRs decode shell s first
      let q := serve jq jqRs decode shell p.1 second
      (q.1, p.2 ++ q.2) := by
  induction first generalizing s with
  | nil => rfl
  | cons c first ih => simp [serve, ih]

/-- Of a line without control characters, `read` keeps all. -/
theorem serve_oneLine (hs : s.life = .running) {text : List Char} (h : OneLine text) :
    serve jq jqRs decode shell s text =
      ({ s with line := s.line ++ text, sent := s.sent ++ text }, []) := by
  induction text generalizing s with
  | nil => simp [serve]
  | cons c text ih =>
      obtain ⟨hc, htext⟩ := List.forall_mem_cons.mp h
      have hnewline : c ≠ '\n' := by
        rintro rfl
        cases hc
      have hkeep : ¬ (s.life = .exited ∨ c.toNat = 0) := by
        rw [hs]
        simpa using h.toNat_ne_zero List.mem_cons_self
      have hstep : receive jq jqRs decode shell s c =
          ({ s with line := s.line ++ [c], sent := s.sent ++ [c] }, []) := by
        rw [receive, dif_pos hnewline, AgentLoop.step]
        simp only [if_neg hkeep]
      have htail := ih (s := { s with line := s.line ++ [c], sent := s.sent ++ [c] }) hs htext
      simp [serve, hstep, htail]

variable (decode) in
theorem handle_requestJson (hjson : FollowJson jq jqRs toString fromStr) (hs : s.life = .running)
    (hline : s.line = requestJson toString request) (hid : request.id ≤ 2 ^ 53)
    (htimeout : request.timeout ≤ 2 ^ 53) {execution : Option Execution}
    (hends : substituted request.command.toList ≠ [] →
      ∃ own ∈ execution, own.steps.succeed = true) :
    (s.handle jq decode execution).life = .running ∧
      (s.handle jq decode execution).answers ≠ [] := by
  have hok : ¬ (s.errexit && !([JqFilter.id, .cmd, .command, .timeout].all fun filter =>
      (jq (requestJson toString request) filter).ok)) = true := by
    rw [jq_ok hjson hid htimeout, Bool.not_true, Bool.and_false]
    exact Bool.false_ne_true
  rw [AgentLoop.handle_of_running hs, hline, handleLine,
    if_neg (requestJson_ne_nil hjson.toString request), if_neg hok, field_id hjson hid,
    printfD_toDigits, field_command hjson]
  dsimp only
  split
  · simp
  next hcommand =>
    obtain ⟨own, rfl, hsteps⟩ := hends hcommand
    simp [hsteps]

variable (hjson : FollowJson jq jqRs toString fromStr)
include hjson

/-- The answer to a request without a command, as `serde` would write it. -/
def errorDatum (id : Nat) : Datum :=
  .obj [("id".toList, .int id), ("status".toList, .str "error".toList),
    ("exit_code".toList, .int 1), ("stdout".toList, .str []), ("stderr".toList, .str []),
    ("message".toList, .str "empty command".toList)]

omit hjson in
theorem errorObject_eq_write {id : Nat} (hid : id ≤ 2 ^ 53) :
    errorObject (Nat.toDigits 10 id) = write false 0 (errorDatum id) := by
  have hmin : min (2 ^ 63 - 1) (id : Int) = id := by omega
  rw [errorObject, printfD_toDigits, hmin]
  rfl

/-- Its members as the parser has them. -/
def errorMembers (id : Nat) : List (List Nat × Json.Value) :=
  [(key "id", .int id), (key "status", .str (key "error")), (key "exit_code", .int 1),
    (key "stdout", .str []), (key "stderr", .str []), (key "message", .str (key "empty command"))]

omit hjson in
theorem responseOf_errorMembers {id : Nat} (hid : id ≤ 2 ^ 53) :
    responseOf (errorMembers id) =
      .ok { id, status := "error", exitCode := 1, stdout := "", stderr := ""
            message := "empty command" } := by
  have hsmall : (id : Int) < 2 ^ 64 := by omega
  have hidMember : AgentOutput.intMember (errorMembers id) "id" none 0 (2 ^ 64) = .ok (id : Int) :=
    AgentOutput.intMember_of_lookup none rfl (Int.natCast_nonneg id) hsmall
  rw [responseOf, hidMember]
  rfl

omit hjson in
theorem isScalar_errorMembers (id : Nat) : ∀ m ∈ errorMembers id, IsScalar m.2 := by
  have hstring : ∀ text : List Char, IsScalar (.str (codes text)) := fun text => ⟨text, rfl⟩
  simp only [errorMembers, List.forall_mem_cons]
  exact ⟨trivial, hstring "error".toList, trivial, hstring [], hstring [],
    hstring "empty command".toList, by simp⟩

theorem guestExecInner_errorObject {id : Nat} (hid : id ≤ 2 ^ 53) :
    guestExecInner fromStr (errorObject (Nat.toDigits 10 id) ++ ['\n']) =
      .error "Agent error: empty command" := by
  have hparse : parse (write false 0 (errorDatum id)) = some (.obj (errorMembers id)) :=
    parse_write false 0 (errorDatum id)
  have hkeys : ((errorMembers id).map Prod.fst).Nodup := by
    rw [show (errorMembers id).map Prod.fst = ["id", "status", "exit_code", "stdout", "stderr",
      "message"].map key from rfl]
    decide
  have hresponse := hjson.fromStr ((congrArg parse String.toList_ofList).trans hparse) hkeys
    (isScalar_errorMembers id) (responseOf_errorMembers hid)
  have hline := AgentOutput.guestExecInner_line (oneLine_write 0 (errorDatum id)).newline_notMem
    (head?_write_obj false 0 _) (getLast?_write_obj false 0 _) hresponse []
  rw [errorObject_eq_write hid, ← List.append_nil (_ ++ _), hline]
  rfl

/-- What `AgentOutput` asks of the tools. -/
theorem FollowJson.reads : Reads jqRs fromStr := by
  refine ⟨hjson.jqRs, fun {line id exitCode stdout stderr} hid hleast hbound htokens => ?_⟩
  have hparse : parse line.toList =
      some (.obj (AgentOutput.responseMembers id exitCode stdout stderr)) := by
    rw [parse, htokens, Option.bind_some, AgentOutput.run_responseTokens]
    rfl
  have hstring : ∀ text : List Char, IsScalar (.str (codes text)) := fun text => ⟨text, rfl⟩
  have hkeys : ((AgentOutput.responseMembers id exitCode stdout stderr).map Prod.fst).Nodup := by
    rw [show (AgentOutput.responseMembers id exitCode stdout stderr).map Prod.fst =
      ["id", "status", "exit_code", "stdout", "stderr"].map key from rfl]
    decide
  have hscalars : ∀ m ∈ AgentOutput.responseMembers id exitCode stdout stderr, IsScalar m.2 := by
    simp only [AgentOutput.responseMembers, List.forall_mem_cons]
    exact ⟨trivial, hstring "ok".toList, trivial, hstring stdout, hstring stderr, by simp⟩
  exact hjson.fromStr hparse hkeys hscalars
    (AgentOutput.responseOf_responseMembers stdout stderr (by omega) hleast hbound)

variable (decode) in
theorem guestExec_spec (hs : Waits s) (hid : request.id ≤ 2 ^ 53)
    (htimeout : request.timeout ≤ 2 ^ 53)
    (hends : substituted request.command.toList ≠ [] → Ends shell request finished) :
    Waits (guestExec jq jqRs decode shell toString fromStr s request).1 ∧
      (guestExec jq jqRs decode shell toString fromStr s request).2 =
        ownResult request finished := by
  let text := requestJson toString request
  let s' : AgentLoop := { s with line := text, sent := s.sent ++ text }
  let found := shell (substituted request.command.toList) (decimal request.timeout)
  have hline : OneLine text := hjson.toString.oneLine (requestDatum request)
  have hread : serve jq jqRs decode shell s text = (s', []) := by
    rw [serve_oneLine hs.running hline, hs.line, List.nil_append]
  have hfound (hcommand : substituted request.command.toList ≠ []) :
      ∃ own ∈ found.map Finished.execution, own.steps.succeed = true := by
    obtain ⟨hshell, hsteps⟩ := hends hcommand
    exact ⟨finished.execution, by simp [found, hshell], hsteps⟩
  obtain ⟨hlife, hanswers⟩ := handle_requestJson decode hjson (s := s') hs.running rfl hid
    htimeout hfound
  have hend : receive jq jqRs decode shell s' '\n' =
      (s'.step jq decode (.lineEnd (found.map Finished.execution)),
        replyText jq jqRs text found) := by
    rw [receive, dif_neg (by decide)]
    simp only [s', text, field_command hjson, field_timeout hjson htimeout]
    rw [if_neg hanswers]
  have hserve : serve jq jqRs decode shell s (text ++ ['\n']) =
      (s'.step jq decode (.lineEnd (found.map Finished.execution)),
        replyText jq jqRs text found) := by
    rw [serve_append, hread]
    simp only [serve, List.append_nil, List.nil_append]
    exact hend
  rw [guestExec, hserve]
  refine ⟨⟨hlife, rfl⟩, ?_⟩
  simp only [replyText, text, field_command hjson, field_id hjson hid, ownResult]
  split
  · exact guestExecInner_errorObject hjson hid
  next hcommand =>
    have hreply := AgentOutput.guestExecInner_agentReply finished.stdout finished.stderr
      hjson.reads (.ofNat request.id) finished.exitCode []
    have hnat : (UInt64.ofNat request.id).toNat = request.id :=
      UInt64.toNat_ofNat_of_lt' (hid.trans_lt (by decide))
    have hshell : found = some finished := (hends hcommand).1
    rw [List.append_nil, hnat] at hreply
    rw [hshell]
    exact hreply

end Calls

section Examples

/-- `jq` on lines that it can parse, for members that are strings or whole numbers. -/
def exampleJq (line : List Char) (filter : JqFilter) : JqOutput :=
  match (parse line).bind fun v => valueAt v (path filter) with
  | some (.str s) => ⟨s.map Char.ofNat ++ ['\n'], true⟩
  | some (.int n) => ⟨decimal n ++ ['\n'], true⟩
  | _ => ⟨[], false⟩

theorem exampleFollowJson :
    FollowJson exampleJq AgentOutput.exampleJqRs (write false 0) AgentOutput.exampleFromStr := by
  refine ⟨writesLine_write, fun {line v} filter {text} hparse hvalue => ?_,
    fun {line v} filter {n} hparse _ hvalue => ?_, AgentOutput.exampleReads.jqRs,
    fun {line members resp} hparse _ _ hresp => ?_⟩
  · have hcodes : (codes text).map Char.ofNat = text := by simp [codes, Function.comp_def]
    simp only [exampleJq, hparse, Option.bind_some, hvalue, hcodes]
  · simp only [exampleJq, hparse, Option.bind_some, hvalue]
    rfl
  · rw [AgentOutput.exampleFromStr, hparse]
    exact hresp

def activeEnd : Finished where
  exitCode := 0
  stdout := AgentOutput.activeLine
  stderr := AgentOutput.noOutput
  steps := .all

/-- A command of two lines with quotes, and one that is only a line break, in a guest in which
every command says that it is active. -/
def exampleCalls : List (AgentRequest × Finished) :=
  [({ id := 1, command := "cd /tmp\nsystemctl is-active \"zen shell\"\n", timeout := 10 },
      activeEnd),
    ({ id := 2, command := "\n", timeout := 10 }, activeEnd)]

end Examples

end ZenOS.ZenTest.AgentExec
