import Mathlib.Data.List.DropRight
import ZenOS.ZenTest.GateSteps
import ZenOS.ZenTest.Tail

/-!
A gate whose virtual machine goes on writing to the serial log: which log its assertions read.
-/

namespace ZenOS.ZenTest.GateSteps

open ZenOS.Library.Dialogue ZenOS.Library.Runs

/-- A virtual machine with a serial log.  What it replies to a request, whether the time of the
gate runs out meanwhile, and what it has written by the time of the reply can depend on all that
has happened. -/
structure Machine where
  reply : List (Entry Request Reply) → (q : Request) → Reply q
  cuts : List (Entry Request Reply) → Request → Bool
  writes : List (Entry Request Reply) → Request → Option Bytes

/-- A file that does not exist before something is written. -/
def appendTo : Option Bytes → Option Bytes → Option Bytes
  | none, written => written
  | some content, written => some (content ++ written.getD [])

namespace Machine

variable (machine : Machine)

/-- What has happened, and the serial log. -/
def record (p : List (Entry Request Reply) × Option Bytes) (entry : Entry Request Reply) :
    List (Entry Request Reply) × Option Bytes :=
  (p.1 ++ [entry], appendTo p.2 (machine.writes p.1 entry.request))

/-- The serial log after a part of a run. -/
def log (t : List (Entry Request Reply)) : Option Bytes :=
  (exec machine.record ([], none) t).2

/-- The log as it is when a request is replied to. -/
def logAt (before : List (Entry Request Reply)) (q : Request) : Option Bytes :=
  appendTo (machine.log before) (machine.writes before q)

/-- The serial log is a file that the gate reads for itself. -/
def partner : Partner Request Reply where
  reply before q :=
    match q with
    | .logContains pattern => logContains (machine.logAt before (.logContains pattern)) pattern
    | .logAbsent pattern => logAbsent (machine.logAt before (.logAbsent pattern)) pattern
    | q => machine.reply before q
  cuts := machine.cuts

/-- The reply of an entry that reads the log. -/
def Reads (p : List (Entry Request Reply) × Option Bytes) : Entry Request Reply → Prop
  | ⟨.logAbsent pattern, some absent⟩ =>
      absent = logAbsent (appendTo p.2 (machine.writes p.1 (.logAbsent pattern))) pattern
  | ⟨.logContains pattern, some found⟩ =>
      found = logContains (appendTo p.2 (machine.writes p.1 (.logContains pattern))) pattern
  | _ => True

theorem exec_record (t : List (Entry Request Reply)) :
    exec machine.record ([], none) t = (t, machine.log t) := by
  have hhistory : ∀ p, (exec machine.record p t).1 = p.1 ++ t := by
    induction t with
    | nil => exact fun p => (List.append_nil p.1).symm
    | cons entry t ih =>
        intro p
        rw [exec_cons, ih, record, List.append_assoc, List.singleton_append]
  exact Prod.ext (hhistory ([], none)) rfl

theorem log_concat (t : List (Entry Request Reply)) (entry : Entry Request Reply) :
    machine.log (t ++ [entry]) = machine.logAt t entry.request := by
  rw [log, exec_append, exec_record]
  rfl

theorem log_append {t : List (Entry Request Reply)} {content : Bytes}
    (h : machine.log t = some content) (rest : List (Entry Request Reply)) :
    ∃ more, machine.log (t ++ rest) = some (content ++ more) := by
  induction rest generalizing t content with
  | nil => exact ⟨[], by rw [List.append_nil, List.append_nil, h]⟩
  | cons entry rest ih =>
      have hone : machine.log (t ++ [entry]) =
          some (content ++ (machine.writes t entry.request).getD []) := by
        rw [log_concat, logAt, h]
        rfl
      obtain ⟨more, hmore⟩ := ih hone
      exact ⟨_, by rw [← List.append_assoc, ← hmore, List.append_assoc, List.singleton_append]⟩

theorem run_reads {ε α : Type} (p : Program Request Reply ε α) :
    Along machine.record machine.Reads ([], none)
      (run Request.awaits machine.partner p []).1 := by
  refine run_along (fun before q => ?_) p [] trivial
  rw [exec_record]
  constructor
  · cases q <;> trivial
  · cases q <;> trivial

end Machine

/-- A run up to the evaluation of the last assertion. -/
def asserted (t : List (Entry Request Reply)) : List (Entry Request Reply) :=
  t.rdropWhile fun entry => !entry.request.asserts

theorem prefix_asserted {t : List (Entry Request Reply)} {entry : Entry Request Reply}
    (h : entry.request.asserts = true) (rest : List (Entry Request Reply)) :
    t ++ [entry] <+: asserted (t ++ [entry] ++ rest) := by
  induction rest using List.reverseRecOn with
  | nil =>
      rw [List.append_nil, asserted, List.rdropWhile_concat, if_neg (by simp [h])]
  | append_singleton rest last ih =>
      rw [← List.append_assoc, asserted, List.rdropWhile_concat]
      split
      · exact ih
      · exact (List.prefix_append _ rest).trans (List.prefix_append _ [last])

section Passed

variable {gate : FullSpec} {image bootSignal : String} {screenshotsOut : Option String}

def serialReads (gate : FullSpec) : List (Entry Request Reply) :=
  gate.assert.serial.map fun sa => Request.answered (.logContains sa.pattern) true

def absentReads (assertions : List SerialAbsentAssert) : List (Entry Request Reply) :=
  assertions.map fun sa => Request.answered (.logAbsent sa.pattern) true

theorem map_zipIdx_of_forall {α β : Type} {l : List α} {f : α × Nat → β} {g : α → β}
    (h : ∀ p ∈ l.zipIdx, f p = g p.1) : l.zipIdx.map f = l.map g := by
  calc l.zipIdx.map f
      = l.zipIdx.map (g ∘ Prod.fst) := List.map_congr_left h
    _ = (l.zipIdx.map Prod.fst).map g := List.map_map.symm
    _ = l.map g := by rw [List.zipIdx_map_fst]

/-- The entries of the assertions behind those on the log. -/
def otherEntries (guest : Guest) (assert : AssertSection) : List (Entry Request Reply) :=
  (assert.exec.zipIdx.map fun (ea, i) =>
      Request.answered (.guestExec ea.command ea.timeoutSeconds) (guest.exec i)) ++
    assert.screenshot.zipIdx.map fun (_, i) => Request.answered .capture (guest.capture i)

theorem heard_of_satisfies {guest : Guest} (h : guest.Satisfies gate.toGateSpec) :
    heard guest gate.assert = serialReads gate ++ absentReads gate.assert.serialAbsent ++
      otherEntries guest gate.assert := by
  rw [heard, List.append_assoc _ _ (List.map _ _), otherEntries]
  refine congrArg (· ++ _) (congrArg₂ (· ++ ·) ?_ ?_)
  · exact map_zipIdx_of_forall fun p hp => congrArg (Request.answered _) (h.serial p hp)
  · exact map_zipIdx_of_forall fun p hp => congrArg (Request.answered _) (h.serialAbsent p hp)

theorem otherEntries_commands (guest : Guest) :
    (otherEntries guest gate.assert).filterMap sentCommand = assertedCommands gate := by
  have hexec : (gate.assert.exec.zipIdx.map fun (ea, i) =>
      Request.answered (.guestExec ea.command ea.timeoutSeconds) (guest.exec i)).filterMap
        sentCommand = assertedCommands gate := by
    let command : ExecAssert × Nat → Command := fun p => (p.1.command, p.1.timeoutSeconds)
    have hsent : gate.assert.exec.zipIdx.filterMap (some ∘ command) =
        gate.assert.exec.zipIdx.map command := congrFun List.filterMap_eq_map _
    rw [List.filterMap_map]
    exact hsent.trans (map_zipIdx_of_forall fun _ _ => rfl)
  have hcapture : (gate.assert.screenshot.zipIdx.map fun (_, i) =>
      Request.answered .capture (guest.capture i)).filterMap sentCommand = [] := by
    rw [List.filterMap_map]
    exact List.filterMap_eq_nil_iff.mpr fun _ _ => rfl
  rw [otherEntries, List.filterMap_append, hexec, hcapture, List.append_nil]

theorem serialReads_commands : (serialReads gate).filterMap sentCommand = [] := by
  rw [serialReads, List.filterMap_map]
  exact List.filterMap_eq_nil_iff.mpr fun _ _ => rfl

theorem absentReads_commands (assertions : List SerialAbsentAssert) :
    (absentReads assertions).filterMap sentCommand = [] := by
  rw [absentReads, List.filterMap_map]
  exact List.filterMap_eq_nil_iff.mpr fun _ _ => rfl

def Request.readsLog : Request → Bool
  | .logContains _ | .logAbsent _ => true
  | _ => false

theorem Request.readsLog_of_asserts {q : Request} (h : q.asserts = false) :
    q.readsLog = false := by
  cases q <;> first | rfl | cases h

theorem otherEntries_readsLog (guest : Guest) :
    ∀ entry ∈ otherEntries guest gate.assert, entry.request.readsLog = false := by
  refine List.forall_mem_append.mpr ⟨?_, ?_⟩
  · rintro entry hmem
    obtain ⟨p, -, rfl⟩ := List.mem_map.mp hmem
    rfl
  · rintro entry hmem
    obtain ⟨p, -, rfl⟩ := List.mem_map.mp hmem
    rfl

/-- A gate that passes has read the log once for each of its serial assertions, behind all
commands of the setup and of the test and before those of its assertions. -/
theorem runGate_passed {partner : Partner Request Reply}
    (hpassed : (runGate gate image bootSignal screenshotsOut partner).2.status = .passed) :
    ∃ ready later,
      (runGate gate image bootSignal screenshotsOut partner).1 =
        ready ++ serialReads gate ++ absentReads gate.assert.serialAbsent ++ later ∧
      (∃ probes ≤ 15,
        ready.filterMap sentCommand = List.replicate probes probe ++ beforeAssertions gate) ∧
      later.filterMap sentCommand = assertedCommands gate ∧
      ∀ entry ∈ later, entry.request.readsLog = false := by
  obtain ⟨t, ht, hyields⟩ := run_yields Request.awaits partner
    (runGateInner gate image bootSignal screenshotsOut) []
  have htranscript : (runGate gate image bootSignal screenshotsOut partner).1 =
      t ++ [Request.answered (.destroy (vmName gate)) ()] :=
    congrArg (· ++ [Request.answered (.destroy (vmName gate)) ()]) ht
  generalize ho : (run Request.awaits partner
    (runGateInner gate image bootSignal screenshotsOut) []).2 = o at hyields
  have hstatus : (resultOf gate o).status = .passed := by
    rw [← ho]
    exact hpassed
  cases o with
  | failed e => cases hstatus
  | cut => cases hstatus
  | finished result =>
      rcases runGateInner_yields gate image bootSignal screenshotsOut hyields with
        ⟨_, _, ⟨⟩⟩ | ⟨_, ⟨⟩⟩ | ⟨_, _, ⟨⟩⟩ | ⟨uses, rfl, huses⟩
      obtain ⟨probes, sent, hsent, hle, -, -, hall, -⟩ :=
        useVm_commands gate bootSignal screenshotsOut huses
      obtain rfl := hall result rfl
      obtain ⟨guest, -, -, rfl, before, after, rfl, hafter⟩ := useVm_finished huses
      have hsatisfies := (runGate_passed_iff guest gate.toGateSpec).mp hstatus
      have hquiet : after.filterMap sentCommand = [] :=
        List.filterMap_eq_nil_iff.mpr fun entry hmem =>
          Request.command_eq_none (hafter entry hmem)
      rw [heard_of_satisfies hsatisfies] at hsent htranscript
      refine ⟨Request.answered (createRequest gate image) (.ok ()) ::
          Request.answered (bootRequest gate) (.ok ()) :: before,
        otherEntries guest gate.assert ++ after ++
          [Request.answered (.destroy (vmName gate)) ()], ?_, ⟨probes, hle, ?_⟩, ?_, ?_⟩
      · rw [htranscript]
        simp only [List.append_assoc, List.cons_append]
      · rw [List.filterMap_append, List.filterMap_append, List.filterMap_append,
          List.filterMap_append, serialReads_commands, absentReads_commands, hquiet,
          otherEntries_commands, commands, ← List.append_assoc] at hsent
        refine .trans (show _ = before.filterMap sentCommand from rfl)
          (List.append_cancel_right
            (show _ ++ assertedCommands gate = _ ++ assertedCommands gate from ?_))
        simpa using hsent
      · rw [List.filterMap_append, List.filterMap_append, otherEntries_commands, hquiet]
        exact (List.append_assoc ..).trans (List.append_nil _)
      · refine List.forall_mem_append.mpr ⟨List.forall_mem_append.mpr
          ⟨otherEntries_readsLog guest, fun entry hmem => ?_⟩, List.forall_mem_singleton.mpr rfl⟩
        exact Request.readsLog_of_asserts (hafter entry hmem)

theorem runGate_reads (machine : Machine) :
    Along machine.record machine.Reads ([], none)
      (runGate gate image bootSignal screenshotsOut machine.partner).1 :=
  (along_append ..).mpr
    ⟨machine.run_reads (runGateInner gate image bootSignal screenshotsOut), trivial, trivial⟩

/-- The log of a passed gate contains none of the `serial_absent` patterns when the last
assertion has been evaluated. -/
def AbsentAtEnd (gate : FullSpec) (image bootSignal : String) (screenshotsOut : Option String)
    (machine : Machine) : Prop :=
  let run := runGate gate image bootSignal screenshotsOut machine.partner
  run.2.status = .passed → ∀ content, machine.log (asserted run.1) = some content →
    ∀ sa ∈ gate.assert.serialAbsent, contains content sa.pattern = false

/-- A gate that looks for an abort and then runs a command. -/
def abortGate : FullSpec where
  gate := { name := "abort", phase := "1", subPhase := "5", timeoutSeconds := 300 }
  assert :=
    { serial := []
      serialAbsent := [{ pattern := "SIGABRT", description := none }]
      exec := [{ command := "pkill -ABRT zen-compositor", exitCode := 0, description := none
                 timeoutSeconds := 10 }]
      screenshot := [] }
  vm := none
  setup := none
  test := none

/-- The abort is written while the command of the assertion runs. -/
def abortedMachine : Machine where
  reply _ q :=
    match q with
    | .create .. | .boot .. => .ok ()
    | .guestExec .. => .ok { exitCode := 0, stdout := "" }
    | .capture => .error "no display"
    | .logContains _ | .logAbsent _ => true
    | .sleep _ | .saveScreenshots _ | .destroy _ => ()
  cuts _ _ := false
  writes _ q :=
    match q with
    | .boot .. => some (utf8 "ZEN_BOOT_OK\n")
    | .guestExec command _ => if command = "echo ready" then none else some (utf8 "SIGABRT\n")
    | _ => none

theorem abortedMachine_passes :
    (runGate abortGate "base.qcow2" "ZEN_BOOT_OK" none abortedMachine.partner).2.status =
      .passed := by
  decide +kernel

end Passed

end ZenOS.ZenTest.GateSteps
