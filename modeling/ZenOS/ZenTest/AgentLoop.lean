import ZenOS.Library.ShellText
import ZenOS.ZenTest.Agent

/-!
The main loop of the guest's `zen-test-agent`, byte by byte: `read` may give up in the
middle of a line, and `set -e` is on from the first command that has been executed.
-/

namespace ZenOS.ZenTest

open ZenOS.Library.Runs ZenOS.Library.ShellText

/-- The filters of the loop: `.id // 0`, `.cmd // "exec"`, `.args.command // ""` and
`.args.timeout // 10`. -/
inductive JqFilter where
  | id
  | cmd
  | command
  | timeout
  deriving DecidableEq

/-- What a run of `jq -r` prints, and whether its exit status is zero. -/
structure JqOutput where
  text : List Char
  ok : Bool
  deriving DecidableEq

/-- Which of the steps around a command succeed. -/
structure ShellSteps where
  -- both `mktemp`
  created : Bool
  -- the command leaves the agent alive
  spared : Bool
  -- both `head`: the command leaves the two files in their places
  read : Bool
  removed : Bool
  -- both `jq -Rs`
  quoted : Bool
  deriving DecidableEq

def ShellSteps.succeed (steps : ShellSteps) : Bool :=
  steps.created && steps.spared && steps.read && steps.removed && steps.quoted

def ShellSteps.all : ShellSteps :=
  ⟨true, true, true, true, true⟩

/-- How the execution of a command ends, with its output files. -/
structure Execution where
  exitCode : Int
  stdout : List UInt8
  stderr : List UInt8
  steps : ShellSteps

/-- A line that the agent writes to the port. -/
structure PortLine where
  id : Int
  status : String
  exitCode : Int
  stdout : String
  stderr : String
  message : String
  deriving DecidableEq

inductive Life where
  | running
  /-- a command does not come to its end -/
  | stuck
  | exited
  deriving DecidableEq

/-- The agent, and what the host has written of its current line. -/
structure AgentLoop where
  life : Life
  errexit : Bool
  -- what `read` has taken of the line
  line : List Char
  sent : List Char
  -- somebody else has begun a line to the host
  begun : Bool
  deriving DecidableEq

inductive LoopEvent where
  /-- the host writes a byte of a line -/
  | byte (c : {c : Char // c ≠ '\n'})
  /-- the host ends its line; if the line gets a command executed, this becomes of it -/
  | lineEnd (execution : Option Execution)
  /-- `read -t 2` times out, or finds the port closed by the host -/
  | giveUp
  /-- systemd starts the agent again -/
  | restart
  /-- a process that has the port from a command, as fd 3, takes what the host writes -/
  | taken (c : Char)
  /-- it writes to the host itself -/
  | told (text : List Char)
  /-- somebody kills the agent, or `log` finds no stderr under `set -e` -/
  | killed

section Loop

-- `jq` on `echo "$line"`, and the text that it makes of the bytes of an output
variable (jq : List Char → JqFilter → JqOutput) (decode : List UInt8 → String)

/-- A field of the request as the loop reads it. -/
def field (line : List Char) (filter : JqFilter) : List Char :=
  substituted (jq line filter).text

/-- `$(head -c 65536 "$out_file")` -/
def kept (output : List UInt8) : List UInt8 :=
  ((output.take 65536).filter (· != 0)).rdropWhile (· == 10)

/-- A command's end as its answer has it. -/
def Execution.outcome (execution : Execution) : CommandOutcome where
  exitCode := execution.exitCode
  stdout := decode (kept execution.stdout)
  stderr := decode (kept execution.stderr)

structure Handled where
  answers : List PortLine
  life : Life
  errexit : Bool
  deriving DecidableEq

/-- One pass through the loop with a line. -/
def handleLine (errexit : Bool) (line : List Char) (execution : Option Execution) : Handled :=
  if line = [] then { answers := [], life := .running, errexit }
  else if errexit &&
      !([JqFilter.id, .cmd, .command, .timeout].all fun filter => (jq line filter).ok)
  then { answers := [], life := .exited, errexit }
  else
    let (id, idOk) := printfD (field jq line .id)
    if field jq line .command = [] then
      { answers := [{ id, status := "error", exitCode := 1, stdout := "", stderr := ""
                      message := "empty command" }]
        life := if errexit && !idOk then .exited else .running
        errexit }
    else match execution with
      | none => { answers := [], life := .stuck, errexit := false }
      | some execution =>
        -- `set -e` comes before `head`, which has no file where `mktemp` has failed
        if !execution.steps.succeed then { answers := [], life := .exited, errexit := true }
        else
          let outcome := execution.outcome decode
          { answers := [{ id, status := "ok", exitCode := outcome.exitCode
                          stdout := outcome.stdout, stderr := outcome.stderr, message := "" }]
            life := if idOk then .running else .exited
            errexit := true }

namespace AgentLoop

def initial : AgentLoop :=
  { life := .running, errexit := false, line := [], sent := [], begun := false }

def handle (s : AgentLoop) (execution : Option Execution) : Handled :=
  if s.life = .running then handleLine jq decode s.errexit s.line execution
  else { answers := [], life := s.life, errexit := s.errexit }

def step (s : AgentLoop) : LoopEvent → AgentLoop
  | .byte c =>
      -- `read` drops NUL; nobody keeps what comes while the agent is down
      { s with
        line := if s.life = .exited ∨ c.val.toNat = 0 then s.line else s.line ++ [c.val]
        sent := s.sent ++ [c.val] }
  | .lineEnd execution =>
      let handled := s.handle jq decode execution
      { life := handled.life, errexit := handled.errexit, line := [], sent := []
        begun := s.begun && handled.answers.isEmpty }
  | .giveUp => if s.life = .running then { s with line := [] } else s
  | .restart =>
      if s.life = .exited then { s with life := .running, errexit := false, line := [] } else s
  | .taken c => { s with sent := if c = '\n' then [] else s.sent ++ [c] }
  | .told text => { s with begun := if text = [] then s.begun else text.getLast? ≠ some '\n' }
  | .killed => { s with life := .exited, line := [] }

end AgentLoop

-- JSON objects with an id, a command and a timeout
variable (IsRequest : List Char → AgentRequest → Prop)

/-- `jq` reads the fields of a request. -/
structure JqReads : Prop where
  line : ∀ {line request}, IsRequest line request → line ≠ [] ∧ ∀ c ∈ line, c.toNat ≠ 0
  ok : ∀ {line request}, IsRequest line request → ∀ filter, (jq line filter).ok = true
  id : ∀ {line request}, IsRequest line request →
    (jq line .id).text = Nat.toDigits 10 request.id ++ ['\n']
  command : ∀ {line request}, IsRequest line request →
    (jq line .command).text = request.command.toList ++ ['\n']

def PortLine.ofResponse (resp : AgentResponse) : PortLine where
  id := resp.id
  status := resp.status
  exitCode := resp.exitCode
  stdout := resp.stdout
  stderr := resp.stderr
  message := resp.message

namespace AgentLoop

/-- A request with a command that ends here is answered once, on a line of its own, with its
own id and the end of its own command. -/
def AnswersOwn (s : AgentLoop) : LoopEvent → Prop
  | .lineEnd execution => ∀ request, IsRequest s.sent request → request.command ≠ "" →
      s.begun = false ∧ ∃ own ∈ execution, (s.handle jq decode execution).answers =
        [.ofResponse (agentAnswer request (own.outcome decode))]
  | .taken c => c = '\n' → ∀ request, IsRequest s.sent request → request.command = ""
  | _ => True

/-- The loop goes on behind a line: once a command has been executed, `jq` has to succeed,
the id has to be a number wherever a failing `printf` is the end, and a command has to end with
all the steps around it. -/
structure GoesOn (errexit : Bool) (line : List Char) (execution : Option Execution) : Prop where
  parsed : errexit = true → ∀ filter, (jq line filter).ok = true
  idRead : errexit = true ∨ field jq line .command ≠ [] → (printfD (field jq line .id)).2 = true
  ended : field jq line .command ≠ [] → ∃ own ∈ execution, own.steps.succeed = true

/-- No line ends the agent, nobody else ends it or uses its port, and a request has been read
as a whole, has an id that `printf` can print, and its command consists not only of line
breaks. -/
def Steady (s : AgentLoop) : LoopEvent → Prop
  | .lineEnd execution =>
      (s.line ≠ [] → GoesOn jq s.errexit s.line execution) ∧
        ∀ request, IsRequest s.sent request → request.command ≠ "" →
          s.line = s.sent ∧ request.id < 2 ^ 63 ∧ substituted request.command.toList ≠ []
  | .taken _ | .told _ | .killed => False
  | _ => True

end AgentLoop

section Lines

variable {jq} {decode} {IsRequest}
variable {errexit : Bool} {line : List Char} {execution : Option Execution}

theorem handleLine_life (h : line ≠ [] → AgentLoop.GoesOn jq errexit line execution) :
    (handleLine jq decode errexit line execution).life = .running := by
  rw [handleLine]
  split
  · rfl
  next hline =>
  have hgoes := h hline
  split
  · next hfails =>
      obtain ⟨herrexit, hfails⟩ := Bool.and_eq_true_iff.mp hfails
      have hall := hgoes.parsed herrexit
      simp [hall] at hfails
  dsimp only
  split
  · next hcommand =>
      refine if_neg fun hexits => ?_
      obtain ⟨herrexit, hidOk⟩ := Bool.and_eq_true_iff.mp hexits
      rw [hgoes.idRead (.inl herrexit)] at hidOk
      cases hidOk
  · next hcommand =>
      obtain ⟨own, rfl, hsteps⟩ := hgoes.ended hcommand
      simp only [hsteps, Bool.not_true, Bool.false_eq_true, if_false]
      exact if_pos (hgoes.idRead (.inr hcommand))

theorem field_id (hjq : JqReads jq IsRequest) {request : AgentRequest}
    (hrequest : IsRequest line request) : field jq line .id = Nat.toDigits 10 request.id := by
  rw [field, hjq.id hrequest, substituted_append_newline]
  refine substituted_of_line (fun c hc hzero => ?_) fun hnewline => ?_
  · have hc := isDigit_of_mem_toDigits hc
    have hnul : c = Char.ofNat 0 := Char.toNat_inj.mp hzero
    rw [hnul] at hc
    cases hc
  · cases isDigit_of_mem_toDigits hnewline

theorem field_command (hjq : JqReads jq IsRequest) {request : AgentRequest}
    (hrequest : IsRequest line request) :
    field jq line .command = substituted request.command.toList := by
  rw [field, hjq.command hrequest, substituted_append_newline]

theorem handleLine_answers (hjq : JqReads jq IsRequest) {request : AgentRequest}
    (hrequest : IsRequest line request) (hid : request.id < 2 ^ 63)
    (hcommand : substituted request.command.toList ≠ []) {execution : Execution}
    (hsteps : execution.steps.succeed = true) :
    (handleLine jq decode errexit line (some execution)).answers =
      [.ofResponse (agentAnswer request (execution.outcome decode))] := by
  have hfield : field jq line .command ≠ [] := by
    rw [field_command hjq hrequest]
    exact hcommand
  have hparsed : ¬ (errexit &&
      !([JqFilter.id, .cmd, .command, .timeout].all fun filter => (jq line filter).ok)) =
        true := by
    simp [hjq.ok hrequest]
  have hprinted : printfD (field jq line .id) = ((request.id : Int), true) := by
    have hmin : min (2 ^ 63 - 1) (request.id : Int) = request.id := by omega
    rw [field_id hjq hrequest, printfD_toDigits, hmin]
  have hnonempty : request.command ≠ "" := by
    rintro hempty
    rw [hempty] at hcommand
    exact hcommand rfl
  rw [handleLine, if_neg (hjq.line hrequest).1, if_neg hparsed, hprinted]
  dsimp only
  rw [if_neg hfield, hsteps, agentAnswer, if_neg hnonempty]
  rfl

end Lines

namespace AgentLoop

variable {jq} {decode} {IsRequest}
variable {s : AgentLoop} {e : LoopEvent}

theorem handle_of_running (hs : s.life = .running) (execution : Option Execution) :
    s.handle jq decode execution = handleLine jq decode s.errexit s.line execution :=
  if_pos hs

theorem step_running (hs : s.life = .running) (he : s.Steady jq IsRequest e) :
    (s.step jq decode e).life = .running := by
  cases e with
  | byte c => exact hs
  | lineEnd execution =>
      rw [step, handle_of_running hs]
      exact handleLine_life he.1
  | giveUp =>
      rw [step, if_pos hs]
      exact hs
  | restart =>
      rw [step, if_neg (by rw [hs]; decide)]
      exact hs
  | taken | told | killed => exact he.elim

theorem step_begun (hs : s.begun = false) (he : s.Steady jq IsRequest e) :
    (s.step jq decode e).begun = false := by
  cases e with
  | byte c => exact hs
  | lineEnd execution => rw [step, hs, Bool.false_and]
  | giveUp | restart =>
      rw [step]
      split
      · exact hs
      · exact hs
  | taken | told | killed => exact he.elim

theorem answersOwn_of_steady (hjq : JqReads jq IsRequest) (hs : s.life = .running)
    (hbegun : s.begun = false) (he : s.Steady jq IsRequest e) :
    s.AnswersOwn jq decode IsRequest e := by
  cases e with
  | lineEnd execution =>
      intro request hrequest hnonempty
      obtain ⟨hgoes, hown⟩ := he
      obtain ⟨hwhole, hid, hcommand⟩ := hown request hrequest hnonempty
      rw [← hwhole] at hrequest
      have hended := (hgoes (hjq.line hrequest).1).ended
      rw [field_command hjq hrequest] at hended
      obtain ⟨own, rfl, hsteps⟩ := hended hcommand
      refine ⟨hbegun, own, rfl, ?_⟩
      rw [handle_of_running hs]
      exact handleLine_answers hjq hrequest hid hcommand hsteps
  | byte | giveUp | restart => trivial
  | taken | told | killed => exact he.elim

/-- In every run whose lines let the agent go on, in which every request is read as a whole and
nobody else uses the port, every request is answered once and as its own. -/
theorem run_answersOwn (hjq : JqReads jq IsRequest) {events : List LoopEvent}
    (h : Along (step jq decode) (Steady jq IsRequest) initial events) :
    Along (step jq decode) (AnswersOwn jq decode IsRequest) initial events :=
  h.of_invariant (I := fun s => s.life = .running ∧ s.begun = false)
    (fun _ _ hs he => ⟨step_running hs.1 he, step_begun hs.2 he⟩)
    (fun _ _ hs he => answersOwn_of_steady hjq hs.1 hs.2 he) ⟨rfl, rfl⟩

end AgentLoop

end Loop

namespace AgentLoop

variable {jq : List Char → JqFilter → JqOutput} {decode : List UInt8 → String}

def bytes (line : List {c : Char // c ≠ '\n'}) : List LoopEvent :=
  line.map .byte

theorem along_bytes {P : AgentLoop → LoopEvent → Prop} (hP : ∀ s c, P s (.byte c))
    (s : AgentLoop) (line : List {c : Char // c ≠ '\n'}) :
    Along (step jq decode) P s (bytes line) := by
  induction line generalizing s with
  | nil => trivial
  | cons c line ih => exact ⟨hP s c, ih _⟩

end AgentLoop

section Examples

/-- What `guest_exec` writes. -/
def lsRequest (id : Nat) : AgentRequest where
  id := id
  command := "ls"
  timeout := 10

def lsLine (id : Nat) : List Char :=
  ("\x7b\"id\":" ++ toString id ++
    ",\"cmd\":\"exec\",\"args\":\x7b\"command\":\"ls\",\"timeout\":10\x7d\x7d").toList

def lsOutput (id : Nat) : JqFilter → JqOutput
  | .id => ⟨Nat.toDigits 10 id ++ ['\n'], true⟩
  | .cmd => ⟨"exec\n".toList, true⟩
  | .command => ⟨"ls".toList ++ ['\n'], true⟩
  | .timeout => ⟨"10\n".toList, true⟩

/-- `jq` on the requests with the ids 1 and 2, and on lines that it cannot parse. -/
def exampleJq (line : List Char) : JqFilter → JqOutput :=
  if line = lsLine 1 then lsOutput 1
  else if line = lsLine 2 then lsOutput 2
  else fun _ => ⟨[], false⟩

def IsExampleRequest (line : List Char) (request : AgentRequest) : Prop :=
  ∃ id ∈ [1, 2], line = lsLine id ∧ request = lsRequest id

theorem exampleJq_lsLine {id : Nat} (hid : id ∈ [1, 2]) : exampleJq (lsLine id) = lsOutput id := by
  have hne : lsLine 2 ≠ lsLine 1 := by decide +kernel
  rcases List.mem_pair.mp hid with rfl | rfl
  · exact if_pos rfl
  · exact (if_neg hne).trans (if_pos rfl)

theorem exampleJq_reads : JqReads exampleJq IsExampleRequest := by
  constructor
  · rintro line request ⟨id, hid, rfl, rfl⟩
    rcases List.mem_pair.mp hid with rfl | rfl
    · exact ⟨by decide +kernel, toNat_ne_zero_of_all (by decide +kernel)⟩
    · exact ⟨by decide +kernel, toNat_ne_zero_of_all (by decide +kernel)⟩
  · rintro line request ⟨id, hid, rfl, rfl⟩ filter
    rw [exampleJq_lsLine hid]
    cases filter <;> rfl
  · rintro line request ⟨id, hid, rfl, rfl⟩
    rw [exampleJq_lsLine hid]
    rfl
  · rintro line request ⟨id, hid, rfl, rfl⟩
    rw [exampleJq_lsLine hid]
    rfl

/-- The line of a text, as the host writes it. -/
def written (text : List Char) : List LoopEvent :=
  AgentLoop.bytes (text.filterMap fun c => if h : c ≠ '\n' then some ⟨c, h⟩ else none)

def exampleDecode (output : List UInt8) : String :=
  .ofList (output.map fun b => Char.ofNat b.toNat)

/-- A line that is no JSON is the end of the agent once a command has been executed. -/
theorem second_request_unanswered :
    let finished : Execution := ⟨0, [], [], .all⟩
    let before := written (lsLine 1) ++ [.lineEnd (some finished)] ++ written ['x'] ++
      [.lineEnd none] ++ written (lsLine 2)
    ¬ Along (AgentLoop.step exampleJq exampleDecode)
      (AgentLoop.AnswersOwn exampleJq exampleDecode IsExampleRequest) .initial
      (before ++ [.lineEnd (some finished)]) := by
  intro finished before h
  rw [along_append] at h
  let s := exec (AgentLoop.step exampleJq exampleDecode) .initial before
  have hsent : s.sent = lsLine 2 := by decide +kernel
  have hnone : (s.handle exampleJq exampleDecode (some finished)).answers = [] := by
    decide +kernel
  have hrequest : IsExampleRequest s.sent (lsRequest 2) := ⟨2, by decide, hsent, rfl⟩
  obtain ⟨-, own, -, hanswers⟩ := h.2.1 (lsRequest 2) hrequest (by decide)
  exact List.cons_ne_nil _ _ (hanswers.symm.trans hnone)

theorem steady_lsLine {s : AgentLoop} (id : Nat) (hid : id ∈ [1, 2]) (hline : s.line = lsLine id)
    (hsent : s.sent = lsLine id) {finished : Execution} (hsteps : finished.steps.succeed = true) :
    s.Steady exampleJq IsExampleRequest (.lineEnd (some finished)) := by
  have hrequest : IsExampleRequest s.line (lsRequest id) := ⟨id, hid, hline, rfl⟩
  refine ⟨fun _ => ⟨fun _ => exampleJq_reads.ok hrequest, fun _ => ?_,
    fun _ => ⟨finished, rfl, hsteps⟩⟩, ?_⟩
  · rw [field_id exampleJq_reads hrequest, printfD_toDigits]
  · rintro request ⟨id', hid', -, rfl⟩ -
    have hcommand : substituted "ls".toList ≠ [] := by decide
    refine ⟨hline.trans hsent.symm, ?_, hcommand⟩
    rcases List.mem_pair.mp hid' with rfl | rfl <;> decide

/-- Two requests, with a time-out between them. -/
theorem run_answersOwn_two :
    let finished : Execution := ⟨0, [10], [], .all⟩
    Along (AgentLoop.step exampleJq exampleDecode)
      (AgentLoop.AnswersOwn exampleJq exampleDecode IsExampleRequest) .initial
      (written (lsLine 1) ++ [.lineEnd (some finished), .giveUp] ++ written (lsLine 2) ++
        [.lineEnd (some finished)]) := by
  intro finished
  apply AgentLoop.run_answersOwn exampleJq_reads
  rw [along_append, along_append, along_append]
  refine ⟨⟨⟨AgentLoop.along_bytes (fun _ _ => trivial) _ _, ?_, trivial, trivial⟩,
    AgentLoop.along_bytes (fun _ _ => trivial) _ _⟩, ?_, trivial⟩
  · exact steady_lsLine 1 (by decide) (by decide +kernel) (by decide +kernel) rfl
  · exact steady_lsLine 2 (by decide) (by decide +kernel) (by decide +kernel) rfl

end Examples

end ZenOS.ZenTest
