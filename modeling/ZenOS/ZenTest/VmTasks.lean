import Mathlib.Logic.Function.Basic

/-!
`vm/lifecycle.rs` and `run_gate` as tasks that run side by side: invocations of zen-test,
the QEMU processes that they start, and the kernel, which gives pids out again.  A VM is
named by the place of its directory; one action of a task is one look at the system, one
change to a VM's files, or one signal.
-/

namespace ZenOS.ZenTest

variable {Name : Type*} [DecidableEq Name]

abbrev TaskId := Nat

abbrev Pid := Nat

/-- The directory of a VM: the task that made it, if it was one of these, and the pid in
`qemu.pid`. -/
structure VmFiles where
  creator : Option TaskId
  pidFile : Option Pid
  deriving DecidableEq

/-- A process is a QEMU that was started for a VM, with the task which had made the VM, or
has nothing to do with zen-test. -/
inductive Process (Name : Type*) where
  | qemu (name : Name) (creator : Option TaskId)
  | other
  deriving DecidableEq

/-- What a task is there for: a gate, or a command of `zen-test vm`. -/
inductive Job where
  | gate
  | create
  | boot
  | stop (force : Bool)
  | destroy
  deriving DecidableEq

inductive Pc where
  | createCheck
  | makeDir
  | setUp
  | bootCheck
  | cleanStale
  | spawn
  -- what `run_gate_inner` does with a booted VM
  | inner
  | destroyCheck
  | readPid
  | awaitExit (pid : Pid)
  | lastCheck (pid : Pid)
  | kill (pid : Pid)
  | cleanup
  -- the end of `vm_destroy`
  | remove
  deriving DecidableEq

/-- The pid that a task holds in `pid`. -/
def Pc.pid : Pc → Option Pid
  | .awaitExit pid | .lastCheck pid | .kill pid => some pid
  | _ => none

structure Task (Name : Type*) where
  name : Name
  job : Job
  pc : Pc

/-- The tasks under way, the VM directories and the processes. -/
structure System (Name : Type*) where
  vms : Name → Option VmFiles
  processes : Pid → Option (Process Name)
  tasks : TaskId → Option (Task Name)

/-- Where a task goes on behind `vm_create`. -/
def Job.created : Job → Option Pc
  | .gate => some .bootCheck
  | _ => none

def Job.booted : Job → Option Pc
  | .gate => some .inner
  | _ => none

/-- Where a task goes on when `vm_create` or `vm_boot` fails: a gate destroys its VM. -/
def Job.failed : Job → Option Pc
  | .gate => some .destroyCheck
  | _ => none

def Job.stopped : Job → Option Pc
  | .gate | .destroy => some .remove
  | _ => none

/-- `vm_destroy` stops by force. -/
def Job.force : Job → Bool
  | .stop force => force
  | _ => true

def Job.first : Job → Pc
  | .gate | .create => .createCheck
  | .boot => .bootCheck
  | .stop _ => .readPid
  | .destroy => .destroyCheck

namespace System

variable (s : System Name)

/-- `/proc/<pid>` exists. -/
def alive (pid : Pid) : Bool :=
  (s.processes pid).isSome

/-- The pid in the pid file of a VM. -/
def recorded (name : Name) : Option Pid :=
  (s.vms name).bind (·.pidFile)

def setPidFile (name : Name) (pidFile : Option Pid) : System Name :=
  { s with vms := Function.update s.vms name ((s.vms name).map fun v => { v with pidFile }) }

/-- The task goes on elsewhere, or is done. -/
def goto (i : TaskId) (t : Task Name) (next : Option Pc) : System Name :=
  { s with tasks := Function.update s.tasks i (next.map fun pc => { t with pc }) }

/-- What an action does apart from its task, and where the task goes on.  `ok` says whether
a command, or the wait for an exit, comes out well; `pid` is the pid of a new process. -/
def action (i : TaskId) (t : Task Name) (ok : Bool) (pid : Pid) : System Name × Option Pc :=
  match t.pc with
  | .createCheck =>
      if (s.vms t.name).isSome then (s, t.job.failed) else (s, some .makeDir)
  | .makeDir =>
      -- `create_dir_all` takes a directory that has come up meanwhile
      if (s.vms t.name).isSome then (s, some .setUp)
      else ({ s with vms := Function.update s.vms t.name (some ⟨some i, none⟩) }, some .setUp)
  | .setUp => (s, if ok then t.job.created else t.job.failed)
  | .bootCheck =>
      if (s.vms t.name).isNone || (s.recorded t.name).any s.alive || !ok then (s, t.job.failed)
      else (s, some .cleanStale)
  | .cleanStale => (s, some .spawn)
  | .spawn =>
      match s.vms t.name with
      | none => (s, t.job.failed)
      | some v =>
          if ok then
            ({ s.setPidFile t.name (some pid) with
              processes := Function.update s.processes pid (some (.qemu t.name v.creator)) },
              t.job.booted)
          else (s, t.job.failed)
  | .inner => (s, some .destroyCheck)
  | .destroyCheck => (s, if (s.vms t.name).isSome then some .readPid else none)
  | .readPid =>
      match s.recorded t.name with
      | some pid =>
          if s.alive pid then (s, some (if t.job.force then .kill pid else .awaitExit pid))
          else (s, t.job.stopped)
      | none => (s, t.job.stopped)
  | .awaitExit pid =>
      if s.alive pid then (s, some (if ok then .awaitExit pid else .lastCheck pid))
      else (s, some .cleanup)
  | .lastCheck pid => (s, some (if s.alive pid then .kill pid else .cleanup))
  | .kill pid =>
      ({ s with processes := Function.update s.processes pid none }, some .cleanup)
  | .cleanup => (s.setPidFile t.name none, t.job.stopped)
  | .remove =>
      (if ok then { s with vms := Function.update s.vms t.name none } else s, none)

end System

inductive Event (Name : Type*) where
  | start (i : TaskId) (job : Job) (name : Name)
  | act (i : TaskId) (ok : Bool) (pid : Pid)
  -- a process ends; a QEMU that ends by itself removes its pid file
  | exit (pid : Pid) (clean : Bool)
  -- a process comes up that has nothing to do with zen-test
  | fork (pid : Pid)

def step (s : System Name) : Event Name → System Name
  | .start i job name =>
      { s with tasks := Function.update s.tasks i (some ⟨name, job, job.first⟩) }
  | .act i ok pid =>
      match s.tasks i with
      | some t => (s.action i t ok pid).1.goto i t (s.action i t ok pid).2
      | none => s
  | .exit pid clean =>
      let ended := { s with processes := Function.update s.processes pid none }
      match s.processes pid with
      | some (.qemu name _) => if clean then ended.setPidFile name none else ended
      | _ => ended
  | .fork pid => { s with processes := Function.update s.processes pid (some .other) }

/-- A new task has a number of its own, only tasks under way act, and a new process gets a
pid that is free. -/
def Admissible (s : System Name) : Event Name → Prop
  | .start i _ _ => s.tasks i = none
  | .act i ok pid => ∃ t, s.tasks i = some t ∧
      (t.pc = .spawn → ok = true → s.processes pid = none)
  | .exit pid _ => s.processes pid ≠ none
  | .fork pid => s.processes pid = none

/-- What an action does to the processes and files of others. -/
inductive Effect (Name : Type*) where
  | sigkill (pid : Pid)
  | removes (name : Name)

def Task.effect (t : Task Name) : Option (Effect Name) :=
  match t.pc with
  | .kill pid => some (.sigkill pid)
  | .cleanStale | .cleanup | .remove => some (.removes t.name)
  | _ => none

section Actions

variable {s : System Name} {i : TaskId} {t : Task Name}

/-- What an action can do to the VMs and the processes. -/
inductive Changes (s : System Name) (i : TaskId) (t : Task Name) (pid : Pid) :
    System Name → Prop
  | nothing : Changes s i t pid s
  | makes : s.vms t.name = none →
      Changes s i t pid { s with vms := Function.update s.vms t.name (some ⟨some i, none⟩) }
  | spawns (v : VmFiles) : t.pc = .spawn → s.vms t.name = some v →
      Changes s i t pid { s.setPidFile t.name (some pid) with
        processes := Function.update s.processes pid (some (.qemu t.name v.creator)) }
  | kills (p : Pid) : t.pc = .kill p →
      Changes s i t pid { s with processes := Function.update s.processes p none }
  | cleans : Changes s i t pid (s.setPidFile t.name none)
  | removes : Changes s i t pid { s with vms := Function.update s.vms t.name none }

theorem Job.pid_eq_none (job : Job) :
    ∀ pc, job.created = some pc ∨ job.booted = some pc ∨ job.failed = some pc ∨
      job.stopped = some pc → pc.pid = none := by
  rintro pc (h | h | h | h)
  all_goals cases job <;> cases h <;> rfl

theorem action_spec (s : System Name) (i : TaskId) (t : Task Name) (ok : Bool) (pid : Pid) :
    Changes s i t pid (s.action i t ok pid).1 ∧
      ∀ pc, (s.action i t ok pid).2 = some pc → ∀ p, pc.pid = some p →
        (s.action i t ok pid).1.recorded t.name = some p ∨ t.pc.pid = some p := by
  have habsent : ∀ {pc : Pc} {Q : Pid → Prop}, pc.pid = none → ∀ p, pc.pid = some p → Q p := by
    intro pc Q hnone p hp
    rw [hnone] at hp
    cases hp
  have hjob := t.job.pid_eq_none
  rw [System.action]
  cases hpc : t.pc with
  | createCheck =>
      dsimp only
      split
      · exact ⟨.nothing, fun pc h => habsent (hjob pc (.inr (.inr (.inl h))))⟩
      · refine ⟨.nothing, ?_⟩
        rintro pc ⟨⟩
        exact habsent rfl
  | makeDir =>
      dsimp only
      split
      · refine ⟨.nothing, ?_⟩
        rintro pc ⟨⟩
        exact habsent rfl
      · next hnone =>
          refine ⟨.makes (by simpa using hnone), ?_⟩
          rintro pc ⟨⟩
          exact habsent rfl
  | setUp =>
      refine ⟨.nothing, fun pc h => habsent (hjob pc ?_)⟩
      dsimp only at h
      split at h
      · exact .inl h
      · exact .inr (.inr (.inl h))
  | bootCheck =>
      dsimp only
      split
      · exact ⟨.nothing, fun pc h => habsent (hjob pc (.inr (.inr (.inl h))))⟩
      · refine ⟨.nothing, ?_⟩
        rintro pc ⟨⟩
        exact habsent rfl
  | cleanStale =>
      refine ⟨.nothing, ?_⟩
      rintro pc ⟨⟩
      exact habsent rfl
  | spawn =>
      dsimp only
      split
      · exact ⟨.nothing, fun pc h => habsent (hjob pc (.inr (.inr (.inl h))))⟩
      · next v hv =>
          split
          · exact ⟨.spawns v hpc hv, fun pc h => habsent (hjob pc (.inr (.inl h)))⟩
          · exact ⟨.nothing, fun pc h => habsent (hjob pc (.inr (.inr (.inl h))))⟩
  | inner =>
      refine ⟨.nothing, ?_⟩
      rintro pc ⟨⟩
      exact habsent rfl
  | destroyCheck =>
      refine ⟨.nothing, fun pc h => ?_⟩
      dsimp only at h
      split at h
      · cases h
        exact habsent rfl
      · cases h
  | readPid =>
      dsimp only
      split
      · next p hrecorded =>
          split
          · refine ⟨.nothing, fun pc h q hq => .inl ?_⟩
            split at h <;> cases h <;> cases hq <;> exact hrecorded
          · exact ⟨.nothing, fun pc h => habsent (hjob pc (.inr (.inr (.inr h))))⟩
      · exact ⟨.nothing, fun pc h => habsent (hjob pc (.inr (.inr (.inr h))))⟩
  | awaitExit p =>
      dsimp only
      split
      · refine ⟨.nothing, fun pc h q hq => .inr ?_⟩
        split at h <;> cases h <;> exact hq
      · refine ⟨.nothing, ?_⟩
        rintro pc ⟨⟩
        exact habsent rfl
  | lastCheck p =>
      refine ⟨.nothing, fun pc h q hq => .inr ?_⟩
      dsimp only at h
      split at h <;> cases h <;> cases hq
      rfl
  | kill p =>
      refine ⟨.kills p hpc, ?_⟩
      rintro pc ⟨⟩
      exact habsent rfl
  | cleanup => exact ⟨.cleans, fun pc h => habsent (hjob pc (.inr (.inr (.inr h))))⟩
  | remove =>
      dsimp only
      split
      · exact ⟨.removes, nofun⟩
      · exact ⟨.nothing, nofun⟩

end Actions

section Reading

variable (s : System Name)

theorem recorded_setPidFile (name n : Name) (pidFile : Option Pid) :
    (s.setPidFile name pidFile).recorded n =
      if n = name then (s.vms name).bind fun _ => pidFile else s.recorded n := by
  rw [System.recorded, System.setPidFile]
  dsimp only
  rw [Function.update_apply]
  split
  · cases s.vms name <;> rfl
  · rfl

theorem setPidFile_vms {name n : Name} {pidFile : Option Pid} {v : VmFiles}
    (h : (s.setPidFile name pidFile).vms n = some v) :
    ∃ w, s.vms n = some w ∧ v.creator = w.creator := by
  rw [System.setPidFile] at h
  dsimp only at h
  rw [Function.update_apply] at h
  split at h
  · next hn =>
      obtain ⟨w, hw, rfl⟩ := Option.map_eq_some_iff.mp h
      exact ⟨w, hn ▸ hw, rfl⟩
  · exact ⟨v, h, rfl⟩

omit [DecidableEq Name] in
theorem goto_tasks {i j : TaskId} {t u : Task Name} {next : Option Pc}
    (h : (s.goto i t next).tasks j = some u) :
    (j = i ∧ u.name = t.name ∧ next = some u.pc) ∨ (j ≠ i ∧ s.tasks j = some u) := by
  rw [System.goto] at h
  dsimp only at h
  rw [Function.update_apply] at h
  split at h
  · next hj =>
      obtain ⟨pc, rfl, rfl⟩ := Option.map_eq_some_iff.mp h
      exact .inl ⟨hj, rfl, rfl⟩
  · next hj => exact .inr ⟨hj, h⟩

theorem action_tasks (i : TaskId) (t : Task Name) (ok : Bool) (pid : Pid) :
    (s.action i t ok pid).1.tasks = s.tasks := by
  have hchanges := (action_spec s i t ok pid).1
  generalize (s.action i t ok pid).1 = s' at hchanges
  cases hchanges <;> rfl

theorem act_tasks_of_ne {i j : TaskId} (hj : j ≠ i) (ok : Bool) (pid : Pid) :
    (step s (.act i ok pid)).tasks j = s.tasks j := by
  rw [step]
  split
  · next t ht =>
      rw [System.goto]
      dsimp only
      rw [Function.update_of_ne hj, action_tasks]
  · rfl

end Reading

end ZenOS.ZenTest
