import ZenOS.Library.Runs
import ZenOS.ZenTest.VmTasks

/-!
Whom `vm_stop` and `vm_destroy` kill, when pids are given out again.
-/

namespace ZenOS.ZenTest

open ZenOS.Library.Runs

variable {Name : Type*} [DecidableEq Name]

/-- The process is a QEMU that `vm_boot` has started for the VM. -/
def IsQemu (name : Name) (p : Process Name) : Prop :=
  ∃ creator, p = .qemu name creator

/-- A SIGKILL reaches the QEMU of the task's VM, if it reaches a process. -/
def KillsOwn (s : System Name) : Event Name → Prop
  | .act i _ _ => ∀ t, s.tasks i = some t → ∀ pid, t.effect = some (.sigkill pid) →
      ∀ p, s.processes pid = some p → IsQemu t.name p
  | _ => True

/-- A new process gets no pid that the pid file of another VM names, or that a `vm_stop` of
another VM holds. -/
def FreshPid (s : System Name) : Event Name → Prop
  | .act i _ pid => ∀ t, s.tasks i = some t → t.pc = .spawn →
      (∀ name, name ≠ t.name → s.recorded name ≠ some pid) ∧
        ∀ j u, s.tasks j = some u → u.name ≠ t.name → u.pc.pid ≠ some pid
  | .fork pid => (∀ name, s.recorded name ≠ some pid) ∧
      ∀ j u, s.tasks j = some u → u.pc.pid ≠ some pid
  | _ => True

/-- No VM has been made yet; the processes have nothing to do with zen-test. -/
def System.initial (running : Pid → Bool) : System Name :=
  { vms := fun _ => none
    processes := fun pid => if running pid then some .other else none
    tasks := fun _ => none }

/-- A pid in a pid file, or in a `vm_stop` under way, is that of the VM's QEMU, or of no
process. -/
structure Named (s : System Name) : Prop where
  recorded : ∀ name pid p, s.recorded name = some pid → s.processes pid = some p →
    IsQemu name p
  held : ∀ i t pid p, s.tasks i = some t → t.pc.pid = some pid → s.processes pid = some p →
    IsQemu t.name p

section Steps

variable {s s' : System Name}

omit [DecidableEq Name] in
theorem Named.mono (hs : Named s) (htasks : s'.tasks = s.tasks)
    (hrecorded : ∀ name pid, s'.recorded name = some pid → s.recorded name = some pid)
    (hprocesses : ∀ pid p, s'.processes pid = some p → s.processes pid = some p) : Named s' := by
  constructor
  · intro name pid p hname hp
    exact hs.recorded name pid p (hrecorded name pid hname) (hprocesses pid p hp)
  · intro i t pid p ht hpid hp
    rw [htasks] at ht
    exact hs.held i t pid p ht hpid (hprocesses pid p hp)

omit [DecidableEq Name] in
theorem processes_of_ended {pid q : Pid} {p : Process Name}
    (h : Function.update s.processes pid none q = some p) : s.processes q = some p := by
  rw [Function.update_apply] at h
  split at h
  · cases h
  · exact h

theorem recorded_of_cleared {name n : Name} {pid : Pid}
    (h : (s.setPidFile name none).recorded n = some pid) : s.recorded n = some pid := by
  rw [recorded_setPidFile] at h
  split at h
  · cases hv : s.vms name <;> simp [hv] at h
  · exact h

theorem recorded_of_update {name n : Name} {v : Option VmFiles} {pid : Pid}
    (hv : v.bind (·.pidFile) = none)
    (h : (Function.update s.vms name v n).bind (·.pidFile) = some pid) :
    s.recorded n = some pid := by
  rw [Function.update_apply] at h
  split at h
  · rw [hv] at h
    cases h
  · exact h

theorem Named.changes (hs : Named s) {i : TaskId} {t : Task Name} {ok : Bool} {pid : Pid}
    (ht : s.tasks i = some t) (hfresh : FreshPid s (.act i ok pid))
    (h : Changes s i t pid s') : Named s' := by
  cases h with
  | nothing => exact hs
  | makes => exact hs.mono rfl (fun _ _ h => recorded_of_update rfl h) fun _ _ h => h
  | kills p => exact hs.mono rfl (fun _ _ h => h) fun _ _ h => processes_of_ended h
  | cleans => exact hs.mono rfl (fun _ _ h => recorded_of_cleared h) fun _ _ h => h
  | removes => exact hs.mono rfl (fun _ _ h => recorded_of_update rfl h) fun _ _ h => h
  | spawns v hpc hv =>
      obtain ⟨hrecorded, hheld⟩ := hfresh t ht hpc
      have hself : (s.setPidFile t.name (some pid)).recorded t.name = some pid := by
        rw [recorded_setPidFile, if_pos rfl, hv]
        rfl
      have hother : ∀ name, name ≠ t.name →
          (s.setPidFile t.name (some pid)).recorded name = s.recorded name := by
        intro name hname
        rw [recorded_setPidFile, if_neg hname]
      constructor
      · intro name q p hname hp
        change (s.setPidFile t.name (some pid)).recorded name = some q at hname
        dsimp only at hp
        rw [Function.update_apply] at hp
        rcases eq_or_ne name t.name with rfl | hne
        · rw [hself] at hname
          cases hname
          rw [if_pos rfl] at hp
          cases hp
          exact ⟨_, rfl⟩
        · rw [hother name hne] at hname
          split at hp
          · next hq => exact absurd (hq ▸ hname) (hrecorded name hne)
          · exact hs.recorded name q p hname hp
      · intro j u q p hu hq hp
        dsimp only at hp
        rw [Function.update_apply] at hp
        split at hp
        · next hpid =>
            cases hp
            by_cases hname : u.name = t.name
            · rw [hname]
              exact ⟨_, rfl⟩
            · exact absurd (hpid ▸ hq) (hheld j u hu hname)
        · exact hs.held j u q p hu hq hp

omit [DecidableEq Name] in
theorem Named.goto (hs : Named s) {i : TaskId} {t : Task Name} {next : Option Pc}
    (ht : s.tasks i = some t)
    (hnext : ∀ pc, next = some pc → ∀ p, pc.pid = some p →
      s.recorded t.name = some p ∨ t.pc.pid = some p) : Named (s.goto i t next) := by
  constructor
  · exact hs.recorded
  · intro j u pid p hu hpid hp
    rcases goto_tasks s hu with ⟨-, hname, hpc⟩ | ⟨-, hu⟩
    · rw [hname]
      rcases hnext u.pc hpc pid hpid with h | h
      · exact hs.recorded t.name pid p h hp
      · exact hs.held i t pid p ht h hp
    · exact hs.held j u pid p hu hpid hp

theorem Named.step {e : Event Name} (hs : Named s) (hfresh : FreshPid s e) :
    Named (step s e) := by
  cases e with
  | start i job name =>
      refine ⟨hs.recorded, fun j u pid p hu hpid hp => ?_⟩
      rw [ZenTest.step] at hu
      dsimp only at hu
      rw [Function.update_apply] at hu
      split at hu
      · cases hu
        cases job <;> cases hpid
      · exact hs.held j u pid p hu hpid hp
  | act i ok pid =>
      rw [ZenTest.step]
      split
      · next t ht =>
          obtain ⟨hchanges, hnext⟩ := action_spec s i t ok pid
          have htasks := action_tasks s i t ok pid
          exact (hs.changes ht hfresh hchanges).goto (htasks ▸ ht) hnext
      · exact hs
  | exit pid clean =>
      have hended : Named { s with processes := Function.update s.processes pid none } :=
        hs.mono rfl (fun _ _ h => h) fun _ _ h => processes_of_ended h
      rw [ZenTest.step]
      split
      · split
        · exact hended.mono rfl (fun _ _ h => recorded_of_cleared h) fun _ _ h => h
        · exact hended
      · exact hended
  | fork pid =>
      have hold : ∀ q p, Function.update s.processes pid (some .other) q = some p → q ≠ pid →
          s.processes q = some p := by
        intro q p hp hq
        rwa [Function.update_of_ne hq] at hp
      constructor
      · intro name q p hname hp
        refine hs.recorded name q p hname (hold q p hp ?_)
        rintro rfl
        exact hfresh.1 name hname
      · intro j u q p hu hq hp
        refine hs.held j u q p hu hq (hold q p hp ?_)
        rintro rfl
        exact hfresh.2 j u hu hq

omit [DecidableEq Name] in
theorem Named.killsOwn (hs : Named s) (e : Event Name) : KillsOwn s e := by
  cases e with
  | act i ok pid =>
      intro t ht q heffect p hp
      cases hpc : t.pc with
      | kill r =>
          rw [Task.effect, hpc] at heffect
          cases heffect
          exact hs.held i t q p ht (by rw [hpc]; rfl) hp
      | _ =>
          rw [Task.effect, hpc] at heffect
          cases heffect
  | _ => trivial

end Steps

/-- As long as no process gets a pid that another VM still has, every SIGKILL goes to the
QEMU of the VM that is stopped. -/
theorem run_killsOwn (running : Pid → Bool) (events : List (Event Name))
    (hrun : Along step (fun s e => Admissible s e ∧ FreshPid s e) (.initial running) events) :
    Along step KillsOwn (.initial running) events := by
  refine hrun.of_invariant (I := Named) (fun s e hs h => hs.step h.2)
    (fun s e hs _ => hs.killsOwn e) ?_
  exact ⟨nofun, nofun⟩

/-- A VM is made, booted, and destroyed. -/
theorem run_killsOwn_destroy :
    let events : List (Event Nat) :=
      [.start 1 .create 0, .act 1 true 0, .act 1 true 0, .act 1 true 0,
        .start 2 .boot 0, .act 2 true 0, .act 2 true 0, .act 2 true 7,
        .start 3 .destroy 0, .act 3 true 0, .act 3 true 0, .act 3 true 0]
    Along step (fun s e => Admissible s e ∧ FreshPid s e) (.initial fun _ => false) events ∧
      Along step KillsOwn (.initial fun _ => false) events := by
  intro events
  have hrun : Along step (fun s e => Admissible s e ∧ FreshPid s e)
      (.initial fun _ => false) events := by
    have hquiet : ∀ (s : System Nat) (i : TaskId) (t : Task Nat) (ok : Bool) (pid : Pid),
        s.tasks i = some t → t.pc ≠ .spawn →
        Admissible s (.act i ok pid) ∧ FreshPid s (.act i ok pid) := by
      intro s i t ok pid ht hpc
      refine ⟨⟨t, ht, fun h => absurd h hpc⟩, fun u hu h => absurd ?_ hpc⟩
      cases ht.symm.trans hu
      exact h
    refine ⟨⟨rfl, trivial⟩, hquiet _ _ _ _ _ rfl nofun, hquiet _ _ _ _ _ rfl nofun,
      hquiet _ _ _ _ _ rfl nofun, ⟨rfl, trivial⟩, hquiet _ _ _ _ _ rfl nofun,
      hquiet _ _ _ _ _ rfl nofun, ⟨⟨_, rfl, fun _ _ => rfl⟩, ?_⟩, ⟨rfl, trivial⟩,
      hquiet _ _ _ _ _ rfl nofun, hquiet _ _ _ _ _ rfl nofun, hquiet _ _ _ _ _ rfl nofun,
      trivial⟩
    rintro t ⟨⟩ -
    refine ⟨fun name hname hrecorded => ?_, fun j u hu hname => ?_⟩
    · have hnone := congrArg (fun v : Option VmFiles => v.bind (·.pidFile))
        (Function.update_of_ne hname (some ⟨some 1, none⟩) fun _ : Nat => (none : Option VmFiles))
      cases hrecorded.symm.trans hnone
    · by_cases hj : j = 2
      · subst hj
        cases hu
        exact absurd rfl hname
      · simp only [act_tasks_of_ne _ hj] at hu
        change Function.update (_ : TaskId → Option (Task Nat)) 2 _ j = some u at hu
        rw [Function.update_of_ne hj] at hu
        by_cases hfirst : j = 1
        · subst hfirst
          cases hu
        · simp only [act_tasks_of_ne _ hfirst] at hu
          change Function.update (_ : TaskId → Option (Task Nat)) 1 _ j = some u at hu
          rw [Function.update_of_ne hfirst] at hu
          cases hu
  exact ⟨hrun, run_killsOwn _ events hrun⟩

/-- A QEMU crashes, another process gets its pid, and `vm destroy` kills that process. -/
theorem reused_pid_killed :
    let events : List (Event Nat) :=
      [.start 1 .create 0, .act 1 true 0, .act 1 true 0, .act 1 true 0,
        .start 2 .boot 0, .act 2 true 0, .act 2 true 0, .act 2 true 7,
        .exit 7 false, .fork 7,
        .start 3 .destroy 0, .act 3 true 0, .act 3 true 0, .act 3 true 0]
    Along step Admissible (.initial fun _ => false) events ∧
      ¬ Along step KillsOwn (.initial fun _ => false) events := by
  intro events
  refine ⟨⟨rfl, ⟨_, rfl, nofun⟩, ⟨_, rfl, nofun⟩, ⟨_, rfl, nofun⟩, rfl, ⟨_, rfl, nofun⟩,
    ⟨_, rfl, nofun⟩, ⟨_, rfl, fun _ _ => rfl⟩, nofun, rfl, rfl, ⟨_, rfl, nofun⟩,
    ⟨_, rfl, nofun⟩, ⟨_, rfl, nofun⟩, trivial⟩, fun halong => ?_⟩
  obtain ⟨-, -, -, -, -, -, -, -, -, -, -, -, -, hkill, -⟩ := halong
  obtain ⟨creator, hqemu⟩ := hkill _ rfl 7 rfl .other rfl
  cases hqemu

end ZenOS.ZenTest
