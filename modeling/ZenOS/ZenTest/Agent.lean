import ZenOS.ZenTest.Gate
import ZenOS.Library.Runs

/-!
`agent.rs` and the guest's `zen-test-agent`.  The virtio-serial port is a queue of lines in
each direction; what nobody has read yet is read by whoever reads next.
-/

namespace ZenOS.ZenTest

open ZenOS.Library.Runs

structure AgentRequest where
  id : Nat
  command : String
  timeout : Nat

structure AgentResponse where
  id : Nat
  status : String
  exitCode : Int
  stdout : String
  stderr : String
  message : String
  deriving DecidableEq

/-- `GuestExecResult` with its `stderr`. -/
structure AgentExecResult extends GuestExecResult where
  stderr : String

/-- How a command ends in the guest. -/
structure CommandOutcome where
  exitCode : Int
  stdout : String
  stderr : String

/-- The line with which the main loop of the guest agent answers a request. -/
def agentAnswer (request : AgentRequest) (outcome : CommandOutcome) : AgentResponse :=
  if request.command = "" then
    { id := request.id, status := "error", exitCode := 1, stdout := "", stderr := ""
      message := "empty command" }
  else
    { id := request.id, status := "ok", exitCode := outcome.exitCode, stdout := outcome.stdout
      stderr := outcome.stderr, message := "" }

/-- The end of `guest_exec_inner`: what a call makes of the line it has read. -/
def guestExecResult (resp : AgentResponse) : Except String AgentExecResult :=
  if resp.status ≠ "ok" then .error ("Agent error: " ++ resp.message)
  else .ok { exitCode := resp.exitCode, stdout := resp.stdout, stderr := resp.stderr }

/-- The port with its host and its guest. -/
structure Channel where
  nextId : Nat
  toGuest : List AgentRequest
  toHost : List AgentResponse
  -- the calls that have sent their request and wait for a line
  waiting : List Nat
  -- what the agent has answered to which request, and how many lines the host has read
  answered : List (Nat × AgentResponse)
  linesRead : Nat

inductive ChannelEvent where
  /-- `guest_exec` connects and writes its request -/
  | send (command : String) (timeout : Nat)
  /-- the agent answers the first request of the queue -/
  | answer (outcome : CommandOutcome)
  /-- the call with this id reads a line and returns -/
  | receive (id : Nat)
  /-- the call with this id returns `AgentTimeout` -/
  | abandon (id : Nat)

def Channel.initial : Channel :=
  { nextId := 1, toGuest := [], toHost := [], waiting := [], answered := [], linesRead := 0 }

namespace Channel

def send (s : Channel) (command : String) (timeout : Nat) : Channel :=
  { s with
    nextId := s.nextId + 1
    toGuest := s.toGuest ++ [{ id := s.nextId, command, timeout }]
    waiting := s.nextId :: s.waiting }

def answer (s : Channel) (outcome : CommandOutcome) : Channel :=
  match s.toGuest with
  | [] => s
  | request :: toGuest =>
      let resp := agentAnswer request outcome
      { s with
        toGuest
        toHost := s.toHost ++ [resp]
        answered := s.answered ++ [(request.id, resp)] }

/-- The line that a waiting call would read now. -/
def lineFor (s : Channel) (id : Nat) : Option AgentResponse :=
  if id ∈ s.waiting then s.toHost.head? else none

def receive (s : Channel) (id : Nat) : Channel :=
  match s.lineFor id with
  | none => s
  | some _ =>
      { s with
        toHost := s.toHost.tail
        waiting := s.waiting.erase id
        linesRead := s.linesRead + 1 }

def abandon (s : Channel) (id : Nat) : Channel :=
  { s with waiting := s.waiting.erase id }

def step (s : Channel) : ChannelEvent → Channel
  | .send command timeout => s.send command timeout
  | .answer outcome => s.answer outcome
  | .receive id => s.receive id
  | .abandon id => s.abandon id

/-- Whenever the event makes `guest_exec` return `Ok`, it has read the agent's answer to
the request with the id of the call. -/
def ReturnsOwn (s : Channel) : ChannelEvent → Prop
  | .receive id => ∀ resp ∈ s.lineFor id, (guestExecResult resp).isOk = true →
      (id, resp) ∈ s.answered
  | _ => True

/-- A call that reads a successful answer has been preceded by the answers to all requests
before its own, and by no others. -/
def InTurn (s : Channel) : ChannelEvent → Prop
  | .receive id => ∀ resp ∈ s.lineFor id, resp.status = "ok" → id = s.linesRead + 1
  | _ => True

instance (s : Channel) : ∀ e, Decidable (s.ReturnsOwn e)
  | .receive _ => inferInstanceAs (Decidable (∀ resp ∈ (_ : Option AgentResponse), _ → _))
  | .send .. | .answer _ | .abandon _ => inferInstanceAs (Decidable True)

/-- The ids of the requests whose answers have not been read, oldest first. -/
def outstanding (s : Channel) : List Nat :=
  s.toHost.map (·.id) ++ s.toGuest.map (·.id)

/-- Requests are answered in the order of their ids, each once and under its id. -/
structure Fifo (s : Channel) : Prop where
  inOrder : s.outstanding = List.range' (s.linesRead + 1) s.outstanding.length
  nextId_eq : s.nextId = s.linesRead + 1 + s.outstanding.length
  answered_id : ∀ p ∈ s.answered, p.2.id = p.1
  toHost_answered : ∀ resp ∈ s.toHost, (resp.id, resp) ∈ s.answered

theorem fifo_initial : Fifo .initial where
  inOrder := rfl
  nextId_eq := rfl
  answered_id _ hp := by cases hp
  toHost_answered _ hresp := by cases hresp

end Channel

theorem agentAnswer_id (request : AgentRequest) (outcome : CommandOutcome) :
    (agentAnswer request outcome).id = request.id := by
  rw [agentAnswer]
  split <;> rfl

theorem guestExecResult_isOk (resp : AgentResponse) :
    (guestExecResult resp).isOk = true ↔ resp.status = "ok" := by
  rw [guestExecResult]
  split
  · next h => exact iff_of_false (by simp [Except.isOk, Except.toBool]) h
  · next h => exact iff_of_true rfl (not_not.mp h)

namespace Channel

section Step

variable {s : Channel}

theorem Fifo.head_id (h : s.Fifo) {resp : AgentResponse} {rest : List AgentResponse}
    (hrest : s.toHost = resp :: rest) : resp.id = s.linesRead + 1 := by
  have horder := h.inOrder
  rw [outstanding, hrest, List.map_cons, List.cons_append, List.length_cons,
    List.range'_succ] at horder
  exact (List.cons.inj horder).1

theorem outstanding_send (command : String) (timeout : Nat) :
    (s.send command timeout).outstanding = s.outstanding ++ [s.nextId] := by
  simp [outstanding, send]

theorem outstanding_answer (outcome : CommandOutcome) :
    (s.answer outcome).outstanding = s.outstanding := by
  rw [answer]
  split
  · rfl
  · next request rest hqueue => simp [outstanding, hqueue, agentAnswer_id]

theorem lineFor_eq_some {id : Nat} {resp : AgentResponse} (h : s.lineFor id = some resp) :
    id ∈ s.waiting ∧ ∃ rest, s.toHost = resp :: rest := by
  rw [lineFor] at h
  split at h
  · next hmem => exact ⟨hmem, List.head?_eq_some_iff.mp h⟩
  · cases h

theorem outstanding_receive {id : Nat} {resp : AgentResponse} (h : s.lineFor id = some resp) :
    s.outstanding = resp.id :: (s.receive id).outstanding := by
  obtain ⟨-, rest, hrest⟩ := lineFor_eq_some h
  simp [receive, h, outstanding, hrest]

theorem Fifo.send (h : s.Fifo) (command : String) (timeout : Nat) :
    (s.send command timeout).Fifo := by
  have hnext : (s.send command timeout).nextId = s.nextId + 1 := rfl
  refine ⟨?_, ?_, h.answered_id, h.toHost_answered⟩
  · rw [outstanding_send, List.length_append, List.length_singleton, List.range'_concat,
      h.nextId_eq]
    change _ = List.range' (s.linesRead + 1) _ ++ [s.linesRead + 1 + 1 * _]
    rw [← h.inOrder, Nat.one_mul]
  · rw [outstanding_send, List.length_append, List.length_singleton, hnext, h.nextId_eq]
    exact Nat.add_assoc ..

theorem Fifo.answer (h : s.Fifo) (outcome : CommandOutcome) : (s.answer outcome).Fifo := by
  have hout := outstanding_answer (s := s) outcome
  rw [Channel.answer] at hout ⊢
  split
  · exact h
  · next request rest hqueue =>
      simp only [hqueue] at hout
      refine ⟨?_, ?_, fun p hp => ?_, fun resp hresp => ?_⟩
      · rw [hout]
        exact h.inOrder
      · rw [hout]
        exact h.nextId_eq
      · rcases List.mem_append.mp hp with hp | hp
        · exact h.answered_id p hp
        · rw [List.mem_singleton.mp hp]
          exact agentAnswer_id request outcome
      · rcases List.mem_append.mp hresp with hresp | hresp
        · exact List.mem_append_left _ (h.toHost_answered resp hresp)
        · rw [List.mem_singleton.mp hresp, agentAnswer_id]
          exact List.mem_append_right _ (List.mem_singleton.mpr rfl)

theorem Fifo.receive (h : s.Fifo) (id : Nat) : (s.receive id).Fifo := by
  rcases hline : s.lineFor id with _ | resp
  · rw [Channel.receive, hline]
    exact h
  · have horder := h.inOrder
    have hnext := h.nextId_eq
    rw [outstanding_receive hline, List.length_cons] at horder hnext
    rw [List.range'_succ] at horder
    have hreceive : s.receive id = { s with
        toHost := s.toHost.tail, waiting := s.waiting.erase id
        linesRead := s.linesRead + 1 } := by
      rw [Channel.receive, hline]
    rw [hreceive] at horder hnext ⊢
    refine ⟨(List.cons.inj horder).2, ?_, h.answered_id, fun resp' hresp' => ?_⟩
    · change s.nextId = s.linesRead + 1 + 1 + _
      omega
    · exact h.toHost_answered resp' (List.mem_of_mem_tail hresp')

theorem Fifo.step (h : s.Fifo) (e : ChannelEvent) : (s.step e).Fifo := by
  cases e with
  | send command timeout => exact h.send command timeout
  | answer outcome => exact h.answer outcome
  | receive id => exact h.receive id
  | abandon id => exact ⟨h.inOrder, h.nextId_eq, h.answered_id, h.toHost_answered⟩

theorem Fifo.returnsOwn_iff (h : s.Fifo) (e : ChannelEvent) : s.ReturnsOwn e ↔ s.InTurn e := by
  cases e with
  | receive id =>
      refine forall_congr' fun resp => forall_congr' fun hresp => ?_
      rw [guestExecResult_isOk]
      refine imp_congr_right fun _ => ?_
      obtain ⟨-, rest, hrest⟩ := lineFor_eq_some hresp
      rw [← h.head_id hrest]
      constructor
      · intro hmem
        exact (h.answered_id _ hmem).symm
      · rintro rfl
        exact h.toHost_answered resp (by simp [hrest])
  | send | answer | abandon => exact Iff.rfl

end Step

/-- In every interleaving of calls, timeouts and late answers, the calls that return `Ok`
return the answers to their own requests exactly when each of them reads in its turn. -/
theorem run_returnsOwn_iff (events : List ChannelEvent) :
    Along step ReturnsOwn initial events ↔ Along step InTurn initial events :=
  along_iff_along (P := fun _ _ => True) (I := Fifo) (fun _ e hs _ _ => hs.step e)
    (fun _ e hs _ => hs.returnsOwn_iff e) (along_true _ _) fifo_initial

/-- A late answer of a call that has timed out is returned by the next call. -/
theorem late_answer_returned :
    ¬ Along step ReturnsOwn initial
      [.send "pgrep zen-compositor" 3, .abandon 1, .answer ⟨1, "", ""⟩,
        .send "echo ready" 3, .receive 2] := by
  decide +kernel

/-- A request is written only while no other call is waiting, and no call is abandoned. -/
def Sequential (s : Channel) : ChannelEvent → Prop
  | .send .. => s.waiting = []
  | .abandon _ => False
  | _ => True

/-- The call that is waiting is the one that has an answer to come. -/
structure InStep (s : Channel) : Prop where
  outstanding_eq : s.outstanding = s.waiting
  length_le : s.waiting.length ≤ 1

theorem InStep.eq_of_line {s : Channel} (h : s.InStep) {id : Nat} {resp : AgentResponse}
    (hline : s.lineFor id = some resp) :
    id = resp.id ∧ s.waiting = [id] ∧ (s.receive id).outstanding = [] := by
  obtain ⟨hmem, -⟩ := lineFor_eq_some hline
  obtain ⟨id', hone⟩ : ∃ id', s.waiting = [id'] :=
    List.length_eq_one_iff.mp (Nat.le_antisymm h.length_le (List.length_pos_of_mem hmem))
  rw [hone, List.mem_singleton] at hmem
  subst hmem
  have hout := outstanding_receive hline
  rw [h.outstanding_eq, hone, List.cons.injEq] at hout
  exact ⟨hout.1, hone, hout.2.symm⟩

theorem InStep.step {s : Channel} {e : ChannelEvent} (h : s.InStep)
    (hseq : s.Sequential e) : (s.step e).InStep := by
  cases e with
  | send command timeout =>
      have hnone : s.waiting = [] := hseq
      have hwaiting : (s.send command timeout).waiting = s.nextId :: s.waiting := rfl
      refine ⟨(outstanding_send command timeout).trans ?_, ?_⟩
      · rw [h.outstanding_eq, hnone, List.nil_append]
        exact (hwaiting.trans (by rw [hnone])).symm
      · change (s.nextId :: s.waiting).length ≤ 1
        rw [hnone]
        exact Nat.le_refl 1
  | answer outcome =>
      have hwaiting : (s.answer outcome).waiting = s.waiting := by
        rw [answer]
        split <;> rfl
      refine ⟨(outstanding_answer outcome).trans ?_, ?_⟩
      · exact h.outstanding_eq.trans hwaiting.symm
      · exact Nat.le_trans (Nat.le_of_eq (congrArg List.length hwaiting)) h.length_le
  | receive id =>
      change (s.receive id).InStep
      rcases hline : s.lineFor id with _ | resp
      · rw [receive, hline]
        exact h
      · obtain ⟨-, hone, hnone⟩ := h.eq_of_line hline
        have hwaiting : (s.receive id).waiting = [] := by
          rw [receive, hline]
          change s.waiting.erase id = []
          rw [hone, List.erase_cons_head]
        exact ⟨hnone.trans hwaiting.symm, by rw [hwaiting]; exact Nat.zero_le 1⟩
  | abandon _ => exact False.elim hseq

theorem returnsOwn_of_sequential (events : List ChannelEvent)
    (h : Along step Sequential initial events) : Along step ReturnsOwn initial events := by
  refine (along_iff_along (C := fun _ _ => True) (I := fun s => s.Fifo ∧ s.InStep)
    (fun s e hs hseq _ => ⟨hs.1.step e, hs.2.step hseq⟩) (fun s e hs _ => ?_) h
    ⟨fifo_initial, rfl, Nat.zero_le 1⟩).mpr (along_true _ _)
  refine iff_true_intro ((hs.1.returnsOwn_iff e).mpr ?_)
  cases e with
  | receive id =>
      intro resp hline _
      obtain ⟨-, rest, hrest⟩ := lineFor_eq_some hline
      exact (hs.2.eq_of_line hline).1.trans (hs.1.head_id hrest)
  | send | answer | abandon => trivial

end Channel

end ZenOS.ZenTest
