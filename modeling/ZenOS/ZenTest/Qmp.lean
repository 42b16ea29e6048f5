import ZenOS.ZenTest.Gate

/-!
`qmp/client.rs`: one QMP command on a fresh connection, and which line of the server is
taken for its response.
-/

namespace ZenOS.ZenTest

/-- `serde_json::Value`; a number is given by its text. -/
inductive Value where
  | null
  | bool (b : Bool)
  | number (text : String)
  | string (s : String)
  | array (items : List Value)
  | object (members : List (String × Value))

namespace Value

def get : Value → String → Option Value
  | .object members, key => members.lookup key
  | _, _ => none

def asStr : Value → Option String
  | .string s => some s
  | _ => none

end Value

inductive QmpFailure where
  | qmpError (message : String)
  | qmpConnectionFailed (message : String)
  deriving DecidableEq

/-- What is behind a socket path; a server is given by the lines it sends. -/
inductive Socket where
  | missing
  | refused (e : String)
  | server (incoming : List String)

/-- The outcome of a command, with the lines that have been sent and those that have not
been read. -/
structure Exchange where
  result : Except QmpFailure Value
  sent : List String
  unread : List String

section Client

variable (fromStr : String → Except String Value) (toJson : Value → String)

/-- The loop that reads the response, past events and blank lines. -/
def readResponse (command : String) : List String → Except QmpFailure Value × List String
  | [] => (.error (.qmpError "QMP connection closed before response"), [])
  | line :: lines =>
      let trimmed := trim line
      if trimmed = "" then readResponse command lines
      else
        match fromStr trimmed with
        | .error e => (.error (.qmpError ("Invalid QMP JSON: " ++ e ++ ": " ++ trimmed)), lines)
        | .ok val =>
            if (val.get "event").isSome then readResponse command lines
            else
              match val.get "error" with
              | some err =>
                  let desc := ((err.get "desc").bind Value.asStr).getD "unknown QMP error"
                  (.error (.qmpError ("QMP command '" ++ command ++ "' failed: " ++ desc)), lines)
              | none => (.ok val, lines)

def qmpCapabilities : String :=
  "\x7b\"execute\":\"qmp_capabilities\"\x7d"

def commandObject (command : String) (args : Option Value) : Value :=
  match args with
  | some a => .object [("arguments", a), ("execute", .string command)]
  | none => .object [("execute", .string command)]

def qmpExecuteInner (socketPath : String) (socket : Socket) (command : String)
    (args : Option Value) : Exchange :=
  match socket with
  | .missing =>
      { result := .error (.qmpConnectionFailed ("QMP socket does not exist: " ++ socketPath))
        sent := [], unread := [] }
  | .refused e =>
      { result := .error (.qmpConnectionFailed ("Failed to connect to " ++ socketPath ++ ": " ++ e))
        sent := [], unread := [] }
  | .server incoming =>
      -- one line for the greeting, and one for the reply to `qmp_capabilities`
      let incoming := incoming.drop 2
      let (result, unread) := readResponse fromStr command incoming
      { result, sent := [qmpCapabilities, toJson (commandObject command args)], unread }

/-- A blank line or an event. -/
def Noise (line : String) : Prop :=
  trim line = "" ∨
    (trim line ≠ "" ∧ ∃ val, fromStr (trim line) = .ok val ∧ (val.get "event").isSome = true)

/-- A line that answers a command, with a `return` or an `error`. -/
structure Answer where
  line : String
  val : Value
  notBlank : trim line ≠ ""
  parses : fromStr (trim line) = .ok val
  notEvent : val.get "event" = none
  answers : (val.get "return").isSome ≠ (val.get "error").isSome

/-- What a server sends on one connection: a greeting, and the replies to
`qmp_capabilities` and to the command, with noise between them. -/
structure ServerStream where
  greeting : String
  beforeCaps : List String
  caps : Answer fromStr
  beforeReply : List String
  reply : Answer fromStr
  afterReply : List String
  noise : ∀ line ∈ beforeCaps ++ beforeReply ++ afterReply, Noise fromStr line

variable {fromStr}

def ServerStream.lines (stream : ServerStream fromStr) : List String :=
  stream.greeting :: (stream.beforeCaps ++ stream.caps.line :: (stream.beforeReply ++
    stream.reply.line :: stream.afterReply))

/-- The reply to the command decides about the outcome, and the line that was taken for it
is not the reply to `qmp_capabilities`. -/
structure Matched (stream : ServerStream fromStr) (exchange : Exchange) : Prop where
  ok : ∀ v, exchange.result = .ok v → v = stream.reply.val ∧ (v.get "return").isSome = true
  error : (stream.reply.val.get "error").isSome = true → ∃ e, exchange.result = .error e
  notCaps : exchange.unread ≠
    stream.beforeReply ++ stream.reply.line :: stream.afterReply

section Reading

variable (command : String)

theorem readResponse_noise {noise : List String} (h : ∀ line ∈ noise, Noise fromStr line)
    (lines : List String) :
    readResponse fromStr command (noise ++ lines) = readResponse fromStr command lines := by
  induction noise with
  | nil => rfl
  | cons line noise ih =>
      have hrest := ih fun line' hline' => h line' (List.mem_cons_of_mem _ hline')
      rw [List.cons_append, readResponse]
      rcases h line List.mem_cons_self with hblank | ⟨hblank, val, hparse, hevent⟩
      · rw [if_pos hblank, hrest]
      · simp only [if_neg hblank, hparse, if_pos hevent]
        exact hrest

theorem readResponse_answer (answer : Answer fromStr) (lines : List String) :
    (readResponse fromStr command (answer.line :: lines)).2 = lines ∧
      (((answer.val.get "error").isSome = true ∧
          ∃ e, (readResponse fromStr command (answer.line :: lines)).1 = .error e) ∨
        ((answer.val.get "error").isSome = false ∧
          (readResponse fromStr command (answer.line :: lines)).1 = .ok answer.val)) := by
  have hevent : ¬ (answer.val.get "event").isSome = true := by simp [answer.notEvent]
  rw [readResponse]
  simp only [if_neg answer.notBlank, answer.parses, if_neg hevent]
  rcases answer.val.get "error" with _ | err
  · exact ⟨rfl, .inr ⟨rfl, rfl⟩⟩
  · exact ⟨rfl, .inl ⟨rfl, _, rfl⟩⟩

end Reading

/-- The response is matched to the command exactly when the server sends the reply to
`qmp_capabilities` right after its greeting. -/
theorem qmpExecuteInner_matched_iff (stream : ServerStream fromStr) (socketPath : String)
    (command : String) (args : Option Value) :
    Matched stream
        (qmpExecuteInner fromStr toJson socketPath (.server stream.lines) command args) ↔
      stream.beforeCaps = [] := by
  have hbefore : ∀ line ∈ stream.beforeReply, Noise fromStr line := fun line hline =>
    stream.noise line (List.mem_append_left _ (List.mem_append_right _ hline))
  rcases hcaps : stream.beforeCaps with _ | ⟨event, events⟩
  · refine iff_of_true ?_ rfl
    have hdrop : stream.lines.drop 2 =
        stream.beforeReply ++ stream.reply.line :: stream.afterReply := by
      rw [ServerStream.lines, hcaps]
      rfl
    obtain ⟨hunread, hresult⟩ :=
      readResponse_answer command stream.reply stream.afterReply
    rw [← readResponse_noise command hbefore, ← hdrop] at hunread hresult
    refine ⟨fun v hv => ?_, fun herror => ?_, fun hall => ?_⟩
    · rcases hresult with ⟨-, e, he⟩ | ⟨hno, hok⟩
      · cases he.symm.trans hv
      · cases hok.symm.trans hv
        have hanswers := stream.reply.answers
        rw [hno, Bool.ne_false_iff] at hanswers
        exact ⟨rfl, hanswers⟩
    · rcases hresult with ⟨-, herr⟩ | ⟨hno, -⟩
      · exact herr
      · rw [hno] at herror
        cases herror
    · have hlength := congrArg List.length (hunread.symm.trans hall)
      simp only [List.length_append, List.length_cons] at hlength
      omega
  · -- the first of the lines is taken for the reply, and the reply for the response
    refine iff_of_false (fun hmatched => hmatched.notCaps ?_) (List.cons_ne_nil _ _)
    have hevents : ∀ line ∈ events, Noise fromStr line := by
      intro line hline
      refine stream.noise line (List.mem_append_left _ (List.mem_append_left _ ?_))
      rw [hcaps]
      exact List.mem_cons_of_mem _ hline
    have hdrop : stream.lines.drop 2 = events ++ stream.caps.line ::
        (stream.beforeReply ++ stream.reply.line :: stream.afterReply) := by
      rw [ServerStream.lines, hcaps]
      rfl
    have hunread := (readResponse_answer command stream.caps
      (stream.beforeReply ++ stream.reply.line :: stream.afterReply)).1
    rwa [← readResponse_noise command hevents, ← hdrop] at hunread

end Client

/-- The JSON of a server that resumes the virtual machine. -/
def resumedJson (text : String) : Except String Value :=
  if text = "\x7b\"event\": \"RESUME\"\x7d" then .ok (.object [("event", .string "RESUME")])
  else if text = "\x7b\"return\": \x7b\x7d\x7d" then .ok (.object [("return", .object [])])
  else if text = "\x7b\"return\": \x7b\"status\": \"running\"\x7d\x7d" then
    .ok (.object [("return", .object [("status", .string "running")])])
  else .error "expected value"

/-- An event arrives before the reply to `qmp_capabilities`. -/
def resumedStream : ServerStream resumedJson where
  greeting := "\x7b\"QMP\": \x7b\x7d\x7d"
  beforeCaps := ["\x7b\"event\": \"RESUME\"\x7d"]
  caps :=
    { line := "\x7b\"return\": \x7b\x7d\x7d", val := .object [("return", .object [])]
      notBlank := by decide, parses := by rfl, notEvent := rfl, answers := by decide }
  beforeReply := []
  reply :=
    { line := "\x7b\"return\": \x7b\"status\": \"running\"\x7d\x7d"
      val := .object [("return", .object [("status", .string "running")])]
      notBlank := by decide, parses := by rfl, notEvent := rfl, answers := by decide }
  afterReply := []
  noise := by
    intro line hline
    obtain rfl := List.mem_singleton.mp hline
    exact .inr ⟨by decide, _, rfl, rfl⟩

/-- The empty reply to `qmp_capabilities` is returned as the status of the machine. -/
theorem caps_reply_taken :
    (qmpExecuteInner resumedJson (fun _ => "") "qmp.sock" (.server resumedStream.lines)
        "query-status" none).result = .ok resumedStream.caps.val ∧
      ¬ Matched resumedStream (qmpExecuteInner resumedJson (fun _ => "") "qmp.sock"
        (.server resumedStream.lines) "query-status" none) := by
  have hresult : (qmpExecuteInner resumedJson (fun _ => "") "qmp.sock"
      (.server resumedStream.lines) "query-status" none).result = .ok resumedStream.caps.val := by
    rfl
  refine ⟨hresult, fun hmatched => ?_⟩
  obtain ⟨heq, -⟩ := hmatched.ok _ hresult
  cases heq

end ZenOS.ZenTest
