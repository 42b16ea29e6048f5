import ZenOS.ZenTest.Gate
import ZenOS.Library.Dialogue

/-!
`run_gate` step by step: what it asks of the virtual machine, in which order, whatever the
machine replies and wherever the time of the gate runs out.
-/

namespace ZenOS.ZenTest.GateSteps

open ZenOS.Library.Dialogue

structure VmSpec where
  ramMb : Nat
  cpus : Nat

structure ExecStep where
  command : String
  timeoutSeconds : Nat

structure ExecLoopStep where
  command : String
  count : Nat
  timeoutSeconds : Nat

structure TestSection where
  exec : List ExecStep
  execLoop : List ExecLoopStep

/-- A gate file with the sections that say what is done before the assertions. -/
structure FullSpec extends GateSpec where
  vm : Option VmSpec
  setup : Option (List ExecStep)
  test : Option TestSection

inductive Request where
  /-- `lifecycle::vm_create` -/
  | create (name : String) (ramMb cpus : Nat) (diskSize display image : String)
  /-- `lifecycle::vm_boot` -/
  | boot (name : String) (waitBoot : Bool) (timeoutSecs : Nat)
  | logContains (pattern : String)
  | logAbsent (pattern : String)
  | sleep (secs : Nat)
  | guestExec (command : String) (timeoutSecs : Nat)
  /-- `screenshot::capture` -/
  | capture
  /-- the copies of the screenshots -/
  | saveScreenshots (outDir : String)
  /-- `lifecycle::vm_destroy`, which always succeeds -/
  | destroy (name : String)
  deriving DecidableEq

def Reply : Request → Type
  | .create .. | .boot .. => Except String Unit
  | .logContains _ | .logAbsent _ => Bool
  | .sleep _ | .saveScreenshots _ | .destroy _ => Unit
  | .guestExec .. => Except String GuestExecResult
  | .capture => Except String ScreenshotInfo

def Request.answered (q : Request) (r : Reply q) : Entry Request Reply :=
  ⟨q, some r⟩

/-- The time of a gate can run out only where it waits. -/
def Request.awaits : Request → Bool
  | .boot .. | .sleep _ | .guestExec .. | .capture => true
  | _ => false

/-- The requests that assertions make. -/
def Request.asserts : Request → Bool
  | .logContains _ | .logAbsent _ | .guestExec .. | .capture => true
  | _ => false

/-- A request to a machine that has been booted. -/
def Request.usesVm : Request → Bool
  | .create .. | .boot .. | .destroy _ => false
  | _ => true

abbrev Step := Program Request Reply String

def ask (q : Request) : Step (Reply q) :=
  .request q

section RunGateInner

variable (gate : FullSpec) (image bootSignal : String) (screenshotsOut : Option String)

def vmName : String :=
  "gate-" ++ gate.gate.phase ++ "-" ++ gate.gate.subPhase

def hasExec : Bool :=
  !gate.assert.exec.isEmpty || gate.setup.isSome || gate.test.isSome

def needsBootSignal : Bool :=
  hasExec gate || gate.assert.serial.any (·.pattern = bootSignal)

def awaitBootSignal : Nat → Step Unit
  | 0 => .done ()
  | n + 1 => do
      let found : Bool ← ask (.logContains bootSignal)
      if found then .done ()
      else do
        let _ ← ask (.sleep 1)
        awaitBootSignal n

def agentReady : Except String GuestExecResult → Bool
  | .ok r => r.exitCode = 0
  | .error _ => false

def awaitAgent : Nat → Step Unit
  | 0 => .done ()
  | n + 1 => do
      let result : Except String GuestExecResult ← ask (.guestExec "echo ready" 3)
      if agentReady result then .done ()
      else do
        let _ ← ask (.sleep 2)
        awaitAgent n

def createRequest : Request :=
  .create (vmName gate) (gate.vm.elim 2048 (·.ramMb)) (gate.vm.elim 2 (·.cpus)) "32G"
    "1920x1080" image

def bootRequest : Request :=
  .boot (vmName gate) true 120

def createAndBoot : Step Unit := do
  let created : Except String Unit ← ask (createRequest gate image)
  let _ ← .ofExcept created
  let booted : Except String Unit ← ask (bootRequest gate)
  .ofExcept booted

def awaitReady : Step Unit :=
  if needsBootSignal gate bootSignal then do
    awaitBootSignal bootSignal 60
    if hasExec gate then awaitAgent 15 else .done ()
  else .done ()

def guestExec (step : ExecStep) : Step (Except String GuestExecResult) :=
  ask (.guestExec step.command step.timeoutSeconds)

/-- The failure of a command of the setup is no failure of the gate. -/
def runSetup : Step (List (Except String GuestExecResult)) :=
  .each guestExec (gate.setup.getD [])

/-- A command of the test fails the gate when it cannot be executed, whatever its exit code. -/
def runTest : Step (List GuestExecResult) :=
  .each (fun step => guestExec step >>= .ofExcept) (gate.test.elim [] (·.exec))

def runLoops : Step (List Unit) :=
  .each (fun step => .repeated
      (do
        let _ ← guestExec ⟨step.command, step.timeoutSeconds⟩
        .done ())
      step.count)
    (gate.test.elim [] (·.execLoop))

/-- A guest of which only one reply is of interest. -/
def silent : Guest where
  timedOut := false
  failure := none
  logContains _ _ := false
  logAbsent _ _ := false
  exec _ := .error ""
  capture _ := .error ""

def serialStep (sa : SerialAssert) : Step AssertionResult := do
  let found : Bool ← ask (.logContains sa.pattern)
  .done (serialAssertion { silent with logContains := fun _ _ => found } sa 0)

def serialAbsentStep (sa : SerialAbsentAssert) : Step AssertionResult := do
  let absent : Bool ← ask (.logAbsent sa.pattern)
  .done (serialAbsentAssertion { silent with logAbsent := fun _ _ => absent } sa 0)

def execStep (ea : ExecAssert) : Step AssertionResult := do
  let result : Except String GuestExecResult ← ask (.guestExec ea.command ea.timeoutSeconds)
  .done (execAssertion { silent with exec := fun _ => result } ea 0)

def screenshotStep (sa : ScreenshotAssert) : Step AssertionResult := do
  let result : Except String ScreenshotInfo ← ask .capture
  .done (screenshotAssertion { silent with capture := fun _ => result } sa 0)

def evaluateSteps : Step (List AssertionResult) := do
  let serial ← .each serialStep gate.assert.serial
  let serialAbsent ← .each serialAbsentStep gate.assert.serialAbsent
  let exec ← .each execStep gate.assert.exec
  let screenshot ← .each screenshotStep gate.assert.screenshot
  .done (serial ++ serialAbsent ++ exec ++ screenshot)

def saveScreenshots : Step Unit :=
  match screenshotsOut with
  | some outDir => do
      let _ ← ask (.saveScreenshots outDir)
      .done ()
  | none => .done ()

/-- The commands of the setup and of the test. -/
def runSteps : Step Unit := do
  let _ ← runSetup gate
  let _ ← runTest gate
  .done ()

/-- The rest of a gate, in which nothing can go wrong. -/
def judge : Step GateResult := do
  let _ ← runLoops gate
  let assertions ← evaluateSteps gate
  saveScreenshots screenshotsOut
  let failed := assertions.countP (!·.passed)
  .done
    { gate := gate.gate.name, phase := gate.gate.phase, subPhase := gate.gate.subPhase
      status := if failed = 0 then .passed else .failed
      assertions, passed := assertions.countP (·.passed), failed, error := none }

/-- What a gate does with a machine that is ready. -/
def execute : Step GateResult := do
  runSteps gate
  judge gate screenshotsOut

/-- What a gate does with a machine that has been booted. -/
def useVm : Step GateResult := do
  awaitReady gate bootSignal
  execute gate screenshotsOut

def runGateInner : Step GateResult := do
  createAndBoot gate image
  useVm gate bootSignal screenshotsOut

/-- What `run_gate` makes of the end of `run_gate_inner`. -/
def resultOf : Outcome String GateResult → GateResult :=
  let unfinished := fun status error =>
    { gate := gate.gate.name, phase := gate.gate.phase, subPhase := gate.gate.subPhase
      status, assertions := [], passed := 0, failed := 0, error := some error }
  fun
  | .finished result => result
  | .failed e => unfinished .error e
  | .cut => unfinished .timeout
      ("Gate timed out after " ++ toString gate.gate.timeoutSeconds ++ "s")

/-- `run_gate`, with all that it has asked for. -/
def runGate (partner : Partner Request Reply) : List (Entry Request Reply) × GateResult :=
  let (transcript, outcome) :=
    run Request.awaits partner (runGateInner gate image bootSignal screenshotsOut) []
  (transcript ++ [Request.answered (.destroy (vmName gate)) ()], resultOf gate outcome)

end RunGateInner

/-- A command that is sent to the guest, with its timeout. -/
abbrev Command := String × Nat

def Request.command : Request → Option Command
  | .guestExec command timeoutSecs => some (command, timeoutSecs)
  | _ => none

def sentCommand (entry : Entry Request Reply) : Option Command :=
  entry.request.command

theorem Request.command_eq_none {q : Request} (h : q.asserts = false) : q.command = none := by
  cases q <;> first | rfl | cases h

def ExecStep.sent (step : ExecStep) : Command :=
  (step.command, step.timeoutSeconds)

/-- The commands up to those of the test. -/
def preparation (gate : FullSpec) : List Command :=
  (gate.setup.getD []).map ExecStep.sent ++ (gate.test.elim [] (·.exec)).map ExecStep.sent

/-- The commands before the assertions, with those of a loop as often as it says. -/
def beforeAssertions (gate : FullSpec) : List Command :=
  preparation gate ++
    (gate.test.elim [] (·.execLoop)).flatMap fun step =>
      List.replicate step.count (step.command, step.timeoutSeconds)

def assertedCommands (gate : FullSpec) : List Command :=
  gate.assert.exec.map fun ea => (ea.command, ea.timeoutSeconds)

/-- All commands of a gate file, in its order. -/
def commands (gate : FullSpec) : List Command :=
  beforeAssertions gate ++ assertedCommands gate

def probe : Command :=
  ("echo ready", 3)

/-- A part of a gate sends a list of commands, or the beginning of it. -/
abbrev SendsCommands {α : Type} (p : Step α) (l : List Command) : Prop :=
  Sends Request.awaits sentCommand p l

theorem sends_ask_exec (command : String) (timeoutSecs : Nat) :
    SendsCommands (ask (.guestExec command timeoutSecs)) [(command, timeoutSecs)] :=
  sends_request fun _ => rfl

theorem sends_ask {q : Request} (h : q.command = none) : SendsCommands (ask q) [] :=
  sends_hidden fun _ => h

section Parts

variable (gate : FullSpec) (image bootSignal : String) (screenshotsOut : Option String)

theorem sends_guestExec (step : ExecStep) : SendsCommands (guestExec step) [step.sent] :=
  sends_ask_exec step.command step.timeoutSeconds

theorem sends_runSetup :
    SendsCommands (runSetup gate) ((gate.setup.getD []).map ExecStep.sent) :=
  sends_each_map sends_guestExec _

theorem sends_runTest :
    SendsCommands (runTest gate) ((gate.test.elim [] (·.exec)).map ExecStep.sent) :=
  sends_each_map (fun step => (sends_guestExec step).bind (m := []) sends_ofExcept) _

theorem sends_runSteps : SendsCommands (runSteps gate) (preparation gate) :=
  (sends_runSetup gate).bind fun _ => (sends_runTest gate).map fun _ => ()

theorem sends_runLoops :
    SendsCommands (runLoops gate) ((gate.test.elim [] (·.execLoop)).flatMap fun step =>
      List.replicate step.count (step.command, step.timeoutSeconds)) := by
  refine sends_each (fun step => ?_) _
  have hloop := sends_repeated
    ((sends_guestExec ⟨step.command, step.timeoutSeconds⟩).map fun _ => ()) step.count
  rwa [List.flatten_replicate_singleton] at hloop

theorem sends_evaluateSteps : SendsCommands (evaluateSteps gate) (assertedCommands gate) := by
  have hserial : SendsCommands (.each serialStep gate.assert.serial) [] :=
    sends_each_hidden (fun sa : SerialAssert =>
      (sends_ask (q := .logContains sa.pattern) rfl).map _) _
  have habsent : SendsCommands (.each serialAbsentStep gate.assert.serialAbsent) [] :=
    sends_each_hidden (fun sa : SerialAbsentAssert =>
      (sends_ask (q := .logAbsent sa.pattern) rfl).map _) _
  have hexec : SendsCommands (.each execStep gate.assert.exec) (assertedCommands gate) :=
    sends_each_map (fun ea : ExecAssert => (sends_ask_exec ea.command ea.timeoutSeconds).map _) _
  have hscreenshot : SendsCommands (.each screenshotStep gate.assert.screenshot) [] :=
    sends_each_hidden (fun sa : ScreenshotAssert => (sends_ask (q := .capture) rfl).map _) _
  have hall : SendsCommands (evaluateSteps gate) _ :=
    hserial.bind fun _ => habsent.bind fun _ => hexec.bind fun _ => hscreenshot.map _
  rwa [List.append_nil] at hall

theorem sends_saveScreenshots : SendsCommands (saveScreenshots screenshotsOut) [] := by
  cases screenshotsOut with
  | none => exact sends_done ()
  | some outDir => exact (sends_ask (q := .saveScreenshots outDir) rfl).map _

theorem saveScreenshots_respects :
    (saveScreenshots screenshotsOut).Respects (fun q => q.asserts = false) fun _ => False := by
  cases screenshotsOut with
  | none => trivial
  | some outDir => exact ⟨rfl, fun _ => trivial⟩

theorem sends_execute : SendsCommands (execute gate screenshotsOut) (commands gate) := by
  have hjudge : SendsCommands (judge gate screenshotsOut) _ :=
    (sends_runLoops gate).bind fun _ => (sends_evaluateSteps gate).bind fun _ =>
      (sends_saveScreenshots screenshotsOut).map _
  have hall : SendsCommands (execute gate screenshotsOut) _ :=
    (sends_runSteps gate).bind fun _ => hjudge
  rwa [List.append_nil, ← List.append_assoc] at hall

theorem awaitAgent_commands (n : Nat) {t : List (Entry Request Reply)} {o : Outcome String Unit}
    (h : Yields Request.awaits (awaitAgent n) t o) :
    ∃ k ≤ n, t.filterMap sentCommand = List.replicate k probe := by
  induction n generalizing t with
  | zero =>
      obtain ⟨rfl, -⟩ := yields_done.mp h
      exact ⟨0, Nat.le_refl 0, rfl⟩
  | succ n ih =>
      have hone : 1 ≤ n + 1 := Nat.le_add_left 1 n
      rcases yields_request_bind.mp h with ⟨-, rfl, rfl⟩ | ⟨r, rest, rfl, hrest⟩
      · exact ⟨1, hone, rfl⟩
      · split at hrest
        · obtain ⟨rfl, -⟩ := yields_done.mp hrest
          exact ⟨1, hone, rfl⟩
        · rcases yields_request_bind.mp hrest with ⟨-, rfl, rfl⟩ | ⟨r', rest', rfl, hrest'⟩
          · exact ⟨1, hone, rfl⟩
          · obtain ⟨k, hk, hcommands⟩ := ih hrest'
            refine ⟨k + 1, Nat.succ_le_succ hk, ?_⟩
            rw [List.replicate_succ, ← hcommands]
            rfl

theorem sends_awaitBootSignal (n : Nat) : SendsCommands (awaitBootSignal bootSignal n) [] := by
  induction n with
  | zero => exact sends_done ()
  | succ n ih =>
      refine (sends_ask (q := .logContains bootSignal) rfl).bind (m := []) fun found => ?_
      split
      · exact sends_done ()
      · exact (sends_ask (q := .sleep 1) rfl).bind fun _ => ih

theorem awaitReady_commands {t : List (Entry Request Reply)} {o : Outcome String Unit}
    (h : Yields Request.awaits (awaitReady gate bootSignal) t o) :
    ∃ k ≤ 15, (hasExec gate = false → k = 0) ∧
      t.filterMap sentCommand = List.replicate k probe := by
  have hnone : ∀ {t : List (Entry Request Reply)},
      t.filterMap sentCommand = [] → ∃ k ≤ 15, (hasExec gate = false → k = 0) ∧
        t.filterMap sentCommand = List.replicate k probe :=
    fun h => ⟨0, Nat.zero_le 15, fun _ => rfl, h⟩
  rw [awaitReady] at h
  split at h
  · have hsignal : ∀ {t o}, Yields Request.awaits (awaitBootSignal bootSignal 60) t o →
        t.filterMap sentCommand = [] :=
      fun h => List.prefix_nil.mp (sends_awaitBootSignal bootSignal 60 _ _ h).1
    rcases yields_bind.mp h with ⟨_, first, second, hfirst, hsecond, rfl⟩ | ⟨e, h, -⟩ | ⟨h, -⟩
    · rw [List.filterMap_append, hsignal hfirst, List.nil_append]
      split at hsecond
      next hexec =>
        obtain ⟨k, hk, hcommands⟩ := awaitAgent_commands 15 hsecond
        refine ⟨k, hk, fun hno => ?_, hcommands⟩
        rw [hexec] at hno
        cases hno
      next =>
        obtain ⟨rfl, -⟩ := yields_done.mp hsecond
        exact hnone rfl
    · exact hnone (hsignal h)
    · exact hnone (hsignal h)
  · obtain ⟨rfl, -⟩ := yields_done.mp h
    exact hnone rfl

/-- A part of a gate that only uses the machine, and fails for no reasons but these. -/
abbrev UsesVm {α : Type} (Q : String → Prop) (p : Step α) : Prop :=
  p.Respects (fun q => q.usesVm = true) Q

theorem usesVm_ask {q : Request} {Q : String → Prop} (h : q.usesVm = true) : UsesVm Q (ask q) :=
  respects_request h

theorem UsesVm.map {α β : Type} {Q : String → Prop} {p : Step α} (h : UsesVm Q p) (f : α → β) :
    UsesVm Q (do let a ← p; .done (f a)) :=
  h.bind fun _ => trivial

theorem awaitReady_usesVm (Q : String → Prop) : UsesVm Q (awaitReady gate bootSignal) := by
  have hsignal : ∀ n, UsesVm Q (awaitBootSignal bootSignal n) := by
    intro n
    induction n with
    | zero => trivial
    | succ n ih =>
        refine (usesVm_ask (q := .logContains bootSignal) rfl).bind fun found => ?_
        split
        · trivial
        · exact (usesVm_ask (q := .sleep 1) rfl).bind fun _ => ih
  have hagent : ∀ n, UsesVm Q (awaitAgent n) := by
    intro n
    induction n with
    | zero => trivial
    | succ n ih =>
        refine (usesVm_ask (q := .guestExec "echo ready" 3) rfl).bind fun result => ?_
        split
        · trivial
        · exact (usesVm_ask (q := .sleep 2) rfl).bind fun _ => ih
  rw [awaitReady]
  split
  · refine (hsignal 60).bind fun _ => ?_
    split
    · exact hagent 15
    · trivial
  · trivial

theorem runSteps_usesVm : UsesVm (fun _ => True) (runSteps gate) := by
  have hexec : ∀ step, UsesVm (fun _ => True) (guestExec step) := fun step => usesVm_ask rfl
  have hof : ∀ r : Except String GuestExecResult,
      UsesVm (fun _ => True) (.ofExcept r) := fun r => by cases r <;> trivial
  exact (respects_each hexec _).bind fun _ =>
    UsesVm.map (respects_each (fun step => (hexec step).bind hof) _) fun _ => ()

theorem judge_usesVm : UsesVm (fun _ => False) (judge gate screenshotsOut) := by
  have hloops : UsesVm (fun _ => False) (runLoops gate) :=
    respects_each (fun step : ExecLoopStep => respects_repeated
      (UsesVm.map (usesVm_ask (q := .guestExec step.command step.timeoutSeconds) rfl)
        fun _ => ()) _) _
  have hassertions : UsesVm (fun _ => False) (evaluateSteps gate) :=
    (respects_each (fun sa : SerialAssert =>
        UsesVm.map (usesVm_ask (q := .logContains sa.pattern) rfl) _) _).bind fun _ =>
      (respects_each (fun sa : SerialAbsentAssert =>
          UsesVm.map (usesVm_ask (q := .logAbsent sa.pattern) rfl) _) _).bind fun _ =>
        (respects_each (fun ea : ExecAssert =>
            UsesVm.map (usesVm_ask (q := .guestExec ea.command ea.timeoutSeconds) rfl) _)
            _).bind fun _ =>
          UsesVm.map (respects_each (fun sa : ScreenshotAssert =>
            UsesVm.map (usesVm_ask (q := .capture) rfl) _) _) _
  have hsave : UsesVm (fun _ => False) (saveScreenshots screenshotsOut) := by
    cases screenshotsOut with
    | none => trivial
    | some outDir => exact UsesVm.map (usesVm_ask (q := .saveScreenshots outDir) rfl) _
  exact hloops.bind fun _ => hassertions.bind fun _ => UsesVm.map hsave _

end Parts

section Gates

variable (gate : FullSpec) (image bootSignal : String) (screenshotsOut : Option String)
variable (partner : Partner Request Reply)

theorem runGateInner_yields {t : List (Entry Request Reply)} {o : Outcome String GateResult}
    (h : Yields Request.awaits (runGateInner gate image bootSignal screenshotsOut) t o) :
    (∃ e, t = [Request.answered (createRequest gate image) (.error e)] ∧ o = .failed e) ∨
    (t = [Request.answered (createRequest gate image) (.ok ()), ⟨bootRequest gate, none⟩] ∧
      o = .cut) ∨
    (∃ e, t = [Request.answered (createRequest gate image) (.ok ()),
      Request.answered (bootRequest gate) (.error e)] ∧ o = .failed e) ∨
    ∃ uses, t = Request.answered (createRequest gate image) (.ok ()) ::
        Request.answered (bootRequest gate) (.ok ()) :: uses ∧
      Yields Request.awaits (useVm gate bootSignal screenshotsOut) uses o := by
  rcases (yields_ask (q := createRequest gate image)).mp h with
    ⟨hcut, -, -⟩ | ⟨created, rest, rfl, hrest⟩
  · cases hcut
  change Except String Unit at created
  cases created with
  | error e =>
      obtain ⟨⟩ : Yields Request.awaits (.fail e) rest o := hrest
      exact .inl ⟨e, rfl, rfl⟩
  | ok =>
      rcases (yields_ask (q := bootRequest gate)).mp hrest with
        ⟨-, rfl, rfl⟩ | ⟨booted, uses, rfl, huses⟩
      · exact .inr (.inl ⟨rfl, rfl⟩)
      change Except String Unit at booted
      cases booted with
      | error e =>
          obtain ⟨⟩ : Yields Request.awaits (.fail e) uses o := huses
          exact .inr (.inr (.inl ⟨e, rfl, rfl⟩))
      | ok => exact .inr (.inr (.inr ⟨uses, rfl, huses⟩))

theorem useVm_usesVm {t : List (Entry Request Reply)} {o : Outcome String GateResult}
    (h : Yields Request.awaits (useVm gate bootSignal screenshotsOut) t o) :
    ∀ entry ∈ t, entry.request.usesVm = true := by
  have hjudge : UsesVm (fun _ => True) (judge gate screenshotsOut) :=
    (judge_usesVm gate screenshotsOut).mono fun _ h => h.elim
  have huse : UsesVm (fun _ => True) (useVm gate bootSignal screenshotsOut) :=
    (awaitReady_usesVm gate bootSignal _).bind fun _ => (runSteps_usesVm gate).bind fun _ => hjudge
  exact (huse.yields h).1

theorem useVm_commands {t : List (Entry Request Reply)} {o : Outcome String GateResult}
    (hyields : Yields Request.awaits (useVm gate bootSignal screenshotsOut) t o) :
    ∃ probes sent, t.filterMap sentCommand = List.replicate probes probe ++ sent ∧
      probes ≤ 15 ∧ (hasExec gate = false → probes = 0) ∧ sent <+: commands gate ∧
      (∀ result, o = .finished result → sent = commands gate) ∧
      ∀ e, o = .failed e → sent <+: preparation gate := by
  rcases yields_bind.mp hyields with
    ⟨_, ready, rest, hready, hrest, rfl⟩ | ⟨e, h, -⟩ | ⟨h, rfl⟩
  · obtain ⟨probes, hle, hno, hprobes⟩ := awaitReady_commands gate bootSignal hready
    obtain ⟨hpre, hall⟩ := sends_execute gate screenshotsOut rest o hrest
    refine ⟨probes, _, by rw [List.filterMap_append, hprobes], hle, hno, hpre, hall, ?_⟩
    rintro e rfl
    rcases hrest.failed_of_bind with ⟨_, _, last, _, hlast, rfl⟩ | hsteps
    · exact (((judge_usesVm gate screenshotsOut).yields hlast).2 e rfl).elim
    · exact (sends_runSteps gate rest _ hsteps).1
  · exact (((awaitReady_usesVm gate bootSignal fun _ => False).yields h).2 e rfl).elim
  · obtain ⟨probes, hle, hno, hprobes⟩ := awaitReady_commands gate bootSignal h
    refine ⟨probes, [], by rw [hprobes, List.append_nil], hle, hno, List.nil_prefix, ?_, ?_⟩
    · rintro result ⟨⟩
    · rintro e ⟨⟩

/-- The requests of the assertions, with the replies of a guest. -/
def heard (guest : Guest) (assert : AssertSection) : List (Entry Request Reply) :=
  (assert.serial.zipIdx.map fun (sa, i) =>
      Request.answered (.logContains sa.pattern) (guest.logContains i sa.pattern)) ++
    (assert.serialAbsent.zipIdx.map fun (sa, i) =>
      Request.answered (.logAbsent sa.pattern) (guest.logAbsent i sa.pattern)) ++
    (assert.exec.zipIdx.map fun (ea, i) =>
      Request.answered (.guestExec ea.command ea.timeoutSeconds) (guest.exec i)) ++
    assert.screenshot.zipIdx.map fun (_, i) => Request.answered .capture (guest.capture i)

variable {gate image bootSignal screenshotsOut}

theorem evaluateSteps_replies {t : List (Entry Request Reply)} {results : List AssertionResult}
    (h : Yields Request.awaits (evaluateSteps gate) t (.finished results)) :
    ∃ guest : Guest, guest.timedOut = false ∧ guest.failure = none ∧
      t = heard guest gate.assert ∧ results = evaluate guest gate.assert := by
  obtain ⟨serial, t₁, rest₁, hserial, hrest₁, rfl⟩ := h.of_bind
  obtain ⟨serialAbsent, t₂, rest₂, habsent, hrest₂, rfl⟩ := hrest₁.of_bind
  obtain ⟨exec, t₃, rest₃, hexec, hrest₃, rfl⟩ := hrest₂.of_bind
  obtain ⟨screenshot, t₄, rest₄, hscreenshot, hrest₄, rfl⟩ := hrest₃.of_bind
  obtain ⟨rfl, hresults⟩ := yields_done.mp hrest₄
  cases hresults
  obtain ⟨logContains, rfl, rfl⟩ := yields_each_zipIdx
    (fun (sa : SerialAssert) (found : Bool) => Request.answered (.logContains sa.pattern) found)
    (fun sa found => serialAssertion { silent with logContains := fun _ _ => found } sa 0)
    (fun _ _ _ => Yields.of_request_map) hserial
  obtain ⟨logAbsent, rfl, rfl⟩ := yields_each_zipIdx
    (fun (sa : SerialAbsentAssert) (absent : Bool) =>
      Request.answered (.logAbsent sa.pattern) absent)
    (fun sa absent => serialAbsentAssertion { silent with logAbsent := fun _ _ => absent } sa 0)
    (fun _ _ _ => Yields.of_request_map) habsent
  obtain ⟨reply, rfl, rfl⟩ := yields_each_zipIdx
    (fun (ea : ExecAssert) (result : Except String GuestExecResult) =>
      Request.answered (.guestExec ea.command ea.timeoutSeconds) result)
    (fun ea result => execAssertion { silent with exec := fun _ => result } ea 0)
    (fun _ _ _ => Yields.of_request_map) hexec
  obtain ⟨capture, rfl, rfl⟩ := yields_each_zipIdx
    (fun (_ : ScreenshotAssert) (result : Except String ScreenshotInfo) =>
      Request.answered .capture result)
    (fun sa result => screenshotAssertion { silent with capture := fun _ => result } sa 0)
    (fun _ _ _ => Yields.of_request_map) hscreenshot
  refine ⟨⟨false, none, fun i _ => logContains i, fun i _ => logAbsent i, reply, capture⟩,
    rfl, rfl, ?_, rfl⟩
  simp only [heard, List.append_nil, List.append_assoc]

theorem judge_finished {t : List (Entry Request Reply)} {result : GateResult}
    (h : Yields Request.awaits (judge gate screenshotsOut) t (.finished result)) :
    ∃ guest : Guest, guest.timedOut = false ∧ guest.failure = none ∧
      result = ZenTest.runGate gate.toGateSpec guest ∧
      ∃ before after, t = before ++ heard guest gate.assert ++ after ∧
        ∀ entry ∈ after, entry.request.asserts = false := by
  obtain ⟨_, loops, rest₁, -, hrest₁, rfl⟩ := h.of_bind
  obtain ⟨results, asserted, rest₂, hasserted, hrest₂, rfl⟩ := hrest₁.of_bind
  obtain ⟨_, saved, rest₃, hsaved, hrest₃, rfl⟩ := hrest₂.of_bind
  obtain ⟨rfl, hresult⟩ := yields_done.mp hrest₃
  obtain ⟨guest, htime, hfailure, rfl, rfl⟩ := evaluateSteps_replies hasserted
  refine ⟨guest, htime, hfailure, ?_, loops, saved, by simp, ?_⟩
  · cases hresult
    simp only [ZenTest.runGate, ZenTest.runGateInner, htime, hfailure, Bool.false_eq_true,
      if_false]
  · exact ((saveScreenshots_respects screenshotsOut).yields hsaved).1

/-- The error that a reply brings. -/
def failureOf : Entry Request Reply → Option String
  | ⟨.create .., some (.error e)⟩ => some e
  | ⟨.boot .., some (.error e)⟩ => some e
  | ⟨.guestExec .., some (.error e)⟩ => some e
  | _ => none

theorem runTest_failed {t : List (Entry Request Reply)} {e : String}
    (h : Yields Request.awaits (runTest gate) t (.failed e)) :
    ∃ entry ∈ t, failureOf entry = some e := by
  rw [runTest] at h
  generalize gate.test.elim [] (·.exec) = steps at h
  induction steps generalizing t with
  | nil => cases h
  | cons step steps ih =>
      rcases h.failed_of_bind with ⟨_, first, rest, -, hrest, rfl⟩ | hstep
      · rcases hrest.failed_of_bind with ⟨_, _, last, _, hlast, rfl⟩ | hsteps
        · cases hlast
        · obtain ⟨entry, hmem, hfailure⟩ := ih hsteps
          exact ⟨entry, List.mem_append_right first hmem, hfailure⟩
      · rcases yields_request_bind.mp hstep with ⟨_, _, h⟩ | ⟨r, rest, rfl, hrest⟩
        · cases h
        · obtain ⟨rfl, ⟨_, _, ⟨⟩⟩ | ⟨_, rfl, ⟨⟩⟩⟩ := yields_ofExcept.mp hrest
          exact ⟨_, List.mem_singleton_self _, rfl⟩

theorem runSteps_failed {t : List (Entry Request Reply)} {e : String}
    (h : Yields Request.awaits (runSteps gate) t (.failed e)) :
    ∃ entry ∈ t, failureOf entry = some e := by
  have hexec : ∀ step, UsesVm (fun _ => False) (guestExec step) := fun step => usesVm_ask rfl
  have hsetup : UsesVm (fun _ => False) (runSetup gate) := respects_each hexec _
  rcases h.failed_of_bind with ⟨_, first, rest, -, hrest, rfl⟩ | hfails
  · rcases hrest.failed_of_bind with ⟨_, _, last, _, hlast, rfl⟩ | htest
    · cases hlast
    · obtain ⟨entry, hmem, hfailure⟩ := runTest_failed htest
      exact ⟨entry, List.mem_append_right first hmem, hfailure⟩
  · exact ((hsetup.yields hfails).2 e rfl).elim

theorem useVm_failed {t : List (Entry Request Reply)} {e : String}
    (h : Yields Request.awaits (useVm gate bootSignal screenshotsOut) t (.failed e)) :
    ∃ entry ∈ t, failureOf entry = some e := by
  rcases h.failed_of_bind with ⟨_, ready, rest, -, hrest, rfl⟩ | hready
  · rcases hrest.failed_of_bind with ⟨_, _, last, _, hlast, rfl⟩ | hsteps
    · exact (((judge_usesVm gate screenshotsOut).yields hlast).2 e rfl).elim
    · obtain ⟨entry, hmem, hfailure⟩ := runSteps_failed hsteps
      exact ⟨entry, List.mem_append_right ready hmem, hfailure⟩
  · exact (((awaitReady_usesVm gate bootSignal fun _ => False).yields hready).2 e rfl).elim

theorem runGateInner_failed {t : List (Entry Request Reply)} {e : String}
    (h : Yields Request.awaits (runGateInner gate image bootSignal screenshotsOut) t
      (.failed e)) :
    ∃ entry ∈ t, failureOf entry = some e := by
  rcases runGateInner_yields gate image bootSignal screenshotsOut h with
    ⟨_, rfl, ⟨⟩⟩ | ⟨_, ⟨⟩⟩ | ⟨_, rfl, ⟨⟩⟩ | ⟨uses, rfl, huses⟩
  · exact ⟨_, List.mem_singleton_self _, rfl⟩
  · exact ⟨_, List.mem_cons_of_mem _ (List.mem_singleton_self _), rfl⟩
  · obtain ⟨entry, hmem, hfailure⟩ := useVm_failed huses
    exact ⟨entry, List.mem_cons_of_mem _ (List.mem_cons_of_mem _ hmem), hfailure⟩

theorem useVm_finished {t : List (Entry Request Reply)} {result : GateResult}
    (h : Yields Request.awaits (useVm gate bootSignal screenshotsOut) t (.finished result)) :
    ∃ guest : Guest, guest.timedOut = false ∧ guest.failure = none ∧
      result = ZenTest.runGate gate.toGateSpec guest ∧
      ∃ before after, t = before ++ heard guest gate.assert ++ after ∧
        ∀ entry ∈ after, entry.request.asserts = false := by
  obtain ⟨_, ready, rest₁, -, hrest₁, rfl⟩ := h.of_bind
  obtain ⟨_, steps, rest₂, -, hrest₂, rfl⟩ := hrest₁.of_bind
  obtain ⟨guest, htime, hfailure, hresult, before, after, rfl, hafter⟩ := judge_finished hrest₂
  exact ⟨guest, htime, hfailure, hresult, ready ++ steps ++ before, after, by simp, hafter⟩

theorem runGate_status_ne_error {guest : Guest} (htime : guest.timedOut = false)
    (hfailure : guest.failure = none) (spec : GateSpec) :
    (ZenTest.runGate spec guest).status ≠ .error := by
  simp only [ZenTest.runGate, ZenTest.runGateInner, htime, hfailure, Bool.false_eq_true, if_false]
  split <;> simp

variable (gate image bootSignal screenshotsOut) in
/-- What `run_gate` asks for, whatever the machine replies and wherever the time runs out: the
machine is created, booted, used and destroyed, with nothing of this left out or done twice
except what a failure prevents, and the commands of the gate file are sent in its order. -/
theorem runGate_transcript (partner : Partner Request Reply) :
    let transcript := (runGate gate image bootSignal screenshotsOut partner).1
    let status := (runGate gate image bootSignal screenshotsOut partner).2.status
    let created := Request.answered (createRequest gate image) (.ok ())
    let destroyed := Request.answered (.destroy (vmName gate)) ()
    (∃ e, transcript = [Request.answered (createRequest gate image) (.error e), destroyed] ∧
      status = .error) ∨
    (transcript = [created, ⟨bootRequest gate, none⟩, destroyed] ∧ status = .timeout) ∨
    (∃ e, transcript =
        [created, Request.answered (bootRequest gate) (.error e), destroyed] ∧
      status = .error) ∨
    ∃ uses probes sent,
      transcript =
        created :: Request.answered (bootRequest gate) (.ok ()) :: (uses ++ [destroyed]) ∧
      (∀ entry ∈ uses, entry.request.usesVm = true) ∧
      uses.filterMap sentCommand = List.replicate probes probe ++ sent ∧
      probes ≤ 15 ∧ (hasExec gate = false → probes = 0) ∧ sent <+: commands gate ∧
      (status = .passed ∨ status = .failed → sent = commands gate) ∧
      (status = .error → sent <+: preparation gate) := by
  obtain ⟨t, ht, hyields⟩ := run_yields Request.awaits partner
    (runGateInner gate image bootSignal screenshotsOut) []
  intro transcript status created destroyed
  have htranscript : transcript = t ++ [destroyed] := congrArg (· ++ [destroyed]) ht
  generalize ho : (run Request.awaits partner
    (runGateInner gate image bootSignal screenshotsOut) []).2 = o at hyields
  have hstatus : status = (resultOf gate o).status := by rw [← ho]; rfl
  rw [htranscript, hstatus]
  rcases runGateInner_yields gate image bootSignal screenshotsOut hyields with
    ⟨e, rfl, rfl⟩ | ⟨rfl, rfl⟩ | ⟨e, rfl, rfl⟩ | ⟨uses, rfl, huses⟩
  · exact .inl ⟨e, rfl, rfl⟩
  · exact .inr (.inl ⟨rfl, rfl⟩)
  · exact .inr (.inr (.inl ⟨e, rfl, rfl⟩))
  · obtain ⟨probes, sent, hsent, hle, hno, hpre, hall, hfails⟩ :=
      useVm_commands gate bootSignal screenshotsOut huses
    refine .inr (.inr (.inr ⟨uses, probes, sent, rfl,
      useVm_usesVm gate bootSignal screenshotsOut huses, hsent, hle, hno, hpre, ?_, ?_⟩))
    · cases o with
      | finished result => exact fun _ => hall result rfl
      | failed e => exact fun h => (by simp [resultOf] at h)
      | cut => exact fun h => (by simp [resultOf] at h)
    · cases o with
      | finished result =>
          obtain ⟨guest, htime, hfailure, rfl, -⟩ := useVm_finished huses
          exact fun h => absurd h (runGate_status_ne_error htime hfailure _)
      | failed e => exact fun _ => hfails e rfl
      | cut => exact fun h => (by simp [resultOf] at h)

variable (gate image bootSignal screenshotsOut) in
/-- The result of `run_gate` is that of a guest which has replied as the machine did: it is a
timeout exactly when a request has remained without a reply, and otherwise all assertions have
been put to the machine, or the error is one that the machine has replied. -/
theorem runGate_refines (partner : Partner Request Reply) :
    let transcript := (runGate gate image bootSignal screenshotsOut partner).1
    ∃ guest : Guest,
      (runGate gate image bootSignal screenshotsOut partner).2 =
        ZenTest.runGate gate.toGateSpec guest ∧
      (guest.timedOut = true ↔ ∃ entry ∈ transcript, entry.reply = none) ∧
      (∀ e, guest.failure = some e → ∃ entry ∈ transcript, failureOf entry = some e) ∧
      (guest.timedOut = false → guest.failure = none →
        ∃ before after, transcript = before ++ heard guest gate.assert ++ after ∧
          ∀ entry ∈ after, entry.request.command = none) := by
  obtain ⟨t, ht, hyields⟩ := run_yields Request.awaits partner
    (runGateInner gate image bootSignal screenshotsOut) []
  intro transcript
  have htranscript :
      transcript = t ++ [Request.answered (.destroy (vmName gate)) ()] :=
    congrArg (· ++ [Request.answered (.destroy (vmName gate)) ()]) ht
  generalize ho : (run Request.awaits partner
    (runGateInner gate image bootSignal screenshotsOut) []).2 = o at hyields
  have hresult : (runGate gate image bootSignal screenshotsOut partner).2 = resultOf gate o := by
    rw [← ho]
    rfl
  have hunanswered : o = .cut ↔ ∃ entry ∈ transcript, entry.reply = none := by
    rw [hyields.cut_iff, htranscript]
    simp [Request.answered]
  rw [hresult]
  cases o with
  | finished result =>
      obtain ⟨_, begun, uses, -, huses, rfl⟩ := hyields.of_bind
      obtain ⟨guest, htime, hfailure, rfl, before, after, rfl, hafter⟩ := useVm_finished huses
      refine ⟨guest, rfl, by rw [htime, ← hunanswered]; simp, by simp [hfailure], fun _ _ => ?_⟩
      refine ⟨begun ++ before, after ++ [Request.answered (.destroy (vmName gate)) ()],
        by simp [htranscript], ?_⟩
      exact List.forall_mem_append.mpr
        ⟨fun entry hmem => Request.command_eq_none (hafter entry hmem),
          List.forall_mem_singleton.mpr rfl⟩
  | failed e =>
      refine ⟨{ silent with failure := some e }, rfl, by rw [← hunanswered]; simp [silent],
        ?_, fun _ h => by cases h⟩
      rintro e' ⟨⟩
      obtain ⟨entry, hmem, hfailure⟩ := runGateInner_failed hyields
      exact ⟨entry, htranscript ▸ List.mem_append_left _ hmem, hfailure⟩
  | cut =>
      refine ⟨{ silent with timedOut := true }, rfl, by rw [← hunanswered]; simp, ?_, ?_⟩
      · rintro e ⟨⟩
      · rintro ⟨⟩

end Gates

end ZenOS.ZenTest.GateSteps
