import ZenOS.Library.Runs
import ZenOS.ZenTest.VmTasks

/-!
Gates that run side by side, among VMs that were there before: whose processes they kill
and whose files they remove.
-/

namespace ZenOS.ZenTest

open ZenOS.Library.Runs

variable {Name : Type*} [DecidableEq Name]

/-- The events of `gate run` invocations: no task but gates. -/
def OnlyGates : Event Name → Prop
  | .start _ job _ => job = .gate
  | _ => True

/-- A task kills no QEMU and removes no file of a VM that it has not made. -/
def Isolated (s : System Name) : Event Name → Prop
  | .act i _ _ => ∀ t, s.tasks i = some t → ∀ e, t.effect = some e →
      match e with
      | .sigkill pid => ∀ name creator, s.processes pid = some (.qemu name creator) →
          creator = some i
      | .removes name => ∀ v, s.vms name = some v → v.creator = some i
  | _ => True

/-- The task takes the pid for that of its VM. -/
def Uses (s : System Name) (t : Task Name) (pid : Pid) : Prop :=
  s.recorded t.name = some pid ∨ t.pc.pid = some pid

/-- A gate begins while there is no VM of its name and no other gate under way that has the
name, and a new QEMU does not get a pid that another gate takes for its own. -/
def Undisturbed (s : System Name) : Event Name → Prop
  | .start _ _ name => s.vms name = none ∧ ∀ j u, s.tasks j = some u → u.name ≠ name
  | .act i _ pid => ∀ t, s.tasks i = some t → t.pc = .spawn →
      ∀ j u, s.tasks j = some u → j ≠ i → ¬ Uses s u pid
  | _ => True

/-- The VMs of the tasks under way are theirs. -/
structure Owned (s : System Name) : Prop where
  distinct : ∀ i j t u, s.tasks i = some t → s.tasks j = some u → t.name = u.name → i = j
  creator : ∀ i t v, s.tasks i = some t → s.vms t.name = some v → v.creator = some i
  own : ∀ i t pid, s.tasks i = some t → Uses s t pid →
    ∀ name creator, s.processes pid = some (.qemu name creator) → creator = some i

section Steps

variable {s s' : System Name}

/-- Nothing of the VMs changes but that files and processes go. -/
structure Shrinks (s s' : System Name) : Prop where
  tasks : s'.tasks = s.tasks
  vms : ∀ n v, s'.vms n = some v → ∃ w, s.vms n = some w ∧ v.creator = w.creator
  recorded : ∀ n pid, s'.recorded n = some pid → s.recorded n = some pid
  processes : ∀ pid name creator, s'.processes pid = some (.qemu name creator) →
    s.processes pid = some (.qemu name creator)

omit [DecidableEq Name] in
theorem Owned.shrink (hs : Owned s) (h : Shrinks s s') : Owned s' := by
  constructor
  · rw [h.tasks]
    exact hs.distinct
  · intro i t v ht hv
    rw [h.tasks] at ht
    obtain ⟨w, hw, hcreator⟩ := h.vms _ _ hv
    rw [hcreator]
    exact hs.creator i t w ht hw
  · intro i t pid ht huses name creator hprocess
    rw [h.tasks] at ht
    refine hs.own i t pid ht ?_ name creator (h.processes _ _ _ hprocess)
    exact huses.imp_left (h.recorded _ _)

omit [DecidableEq Name] in
theorem shrinks_processes (s : System Name) (pid : Pid) {p : Option (Process Name)}
    (hp : ∀ name creator, p ≠ some (.qemu name creator)) :
    Shrinks s { s with processes := Function.update s.processes pid p } := by
  refine ⟨rfl, fun _ v hv => ⟨v, hv, rfl⟩, fun _ _ h => h, fun q name creator h => ?_⟩
  dsimp only at h
  rw [Function.update_apply] at h
  split at h
  · exact absurd h (hp name creator)
  · exact h

theorem shrinks_setPidFile (s : System Name) (name : Name) :
    Shrinks s (s.setPidFile name none) := by
  refine ⟨rfl, fun n v hv => setPidFile_vms s hv, fun n pid h => ?_, fun _ _ _ h => h⟩
  rw [recorded_setPidFile] at h
  split at h
  · cases hv : s.vms name <;> simp [hv] at h
  · exact h

theorem shrinks_remove (s : System Name) (name : Name) :
    Shrinks s { s with vms := Function.update s.vms name none } := by
  have hkeep : ∀ n v, Function.update s.vms name none n = some v → s.vms n = some v := by
    intro n v hv
    rw [Function.update_apply] at hv
    split at hv
    · cases hv
    · exact hv
  refine ⟨rfl, fun n v hv => ⟨v, hkeep n v hv, rfl⟩, fun n pid h => ?_, fun _ _ _ h => h⟩
  obtain ⟨v, hv, hpid⟩ := Option.bind_eq_some_iff.mp h
  exact Option.bind_eq_some_iff.mpr ⟨v, hkeep n v hv, hpid⟩

omit [DecidableEq Name] in
theorem Shrinks.trans {s'' : System Name} (h : Shrinks s s') (h' : Shrinks s' s'') :
    Shrinks s s'' := by
  refine ⟨h'.tasks.trans h.tasks, fun n v hv => ?_, fun n pid hpid => ?_, fun _ _ _ hp => ?_⟩
  · obtain ⟨w, hw, hcreator⟩ := h'.vms n v hv
    obtain ⟨x, hx, hcreator'⟩ := h.vms n w hw
    exact ⟨x, hx, hcreator.trans hcreator'⟩
  · exact h.recorded n pid (h'.recorded n pid hpid)
  · exact h.processes _ _ _ (h'.processes _ _ _ hp)

theorem Owned.changes (hs : Owned s) {i : TaskId} {t : Task Name} {ok : Bool} {pid : Pid}
    (ht : s.tasks i = some t) (hfree : Undisturbed s (.act i ok pid))
    (h : Changes s i t pid s') : Owned s' := by
  cases h with
  | nothing => exact hs
  | kills p => exact hs.shrink (shrinks_processes s p nofun)
  | cleans => exact hs.shrink (shrinks_setPidFile s t.name)
  | removes => exact hs.shrink (shrinks_remove s t.name)
  | makes hnone =>
      have hothers : ∀ n, n ≠ t.name → Function.update s.vms t.name (some ⟨some i, none⟩) n =
          s.vms n := fun n hn => Function.update_of_ne hn _ _
      constructor
      · exact hs.distinct
      · intro j u v hu hv
        dsimp only at hv
        rcases eq_or_ne u.name t.name with hname | hname
        · obtain rfl := hs.distinct j i u t hu ht hname
          rw [hname, Function.update_self] at hv
          cases hv
          rfl
        · rw [hothers u.name hname] at hv
          exact hs.creator j u v hu hv
      · intro j u p hu huses
        refine hs.own j u p hu (huses.imp_left fun hrecorded => ?_)
        rw [System.recorded] at hrecorded
        dsimp only at hrecorded
        rcases eq_or_ne u.name t.name with hname | hname
        · rw [hname, Function.update_self] at hrecorded
          cases hrecorded
        · rwa [hothers u.name hname] at hrecorded
  | spawns v hpc hv =>
      have hrecorded : ∀ n, (s.setPidFile t.name (some pid)).recorded n =
          if n = t.name then some pid else s.recorded n := by
        intro n
        rw [recorded_setPidFile, hv]
        rfl
      have hbefore : ∀ j u p, s.tasks j = some u →
          ((s.setPidFile t.name (some pid)).recorded u.name = some p ∨ u.pc.pid = some p) →
          (j = i ∧ p = pid) ∨ Uses s u p := by
        intro j u p hu huses
        rcases huses with h | h
        · rw [hrecorded] at h
          split at h
          · next hname =>
              cases h
              exact .inl ⟨hs.distinct j i u t hu ht hname, rfl⟩
          · exact .inr (.inl h)
        · exact .inr (.inr h)
      constructor
      · exact hs.distinct
      · intro j u w hu hw
        obtain ⟨x, hx, hcreator⟩ := setPidFile_vms s hw
        rw [hcreator]
        exact hs.creator j u x hu hx
      · intro j u p hu huses name creator hprocess
        dsimp only at hprocess
        rw [Function.update_apply] at hprocess
        rcases hbefore j u p hu huses with ⟨rfl, rfl⟩ | hused
        · rw [if_pos rfl] at hprocess
          cases hprocess
          exact hs.creator j t v ht hv
        · split at hprocess
          · next hp =>
              subst hp
              cases hprocess
              by_cases hj : j = i
              · subst hj
                exact hs.creator j t v ht hv
              · exact absurd hused (hfree t ht hpc j u hu hj)
          · exact hs.own j u p hu hused name creator hprocess

omit [DecidableEq Name] in
theorem Owned.goto (hs : Owned s) {i : TaskId} {t : Task Name} {next : Option Pc}
    (ht : s.tasks i = some t)
    (hnext : ∀ pc, next = some pc → ∀ p, pc.pid = some p → Uses s t p) :
    Owned (s.goto i t next) := by
  have hold : ∀ j u, (s.goto i t next).tasks j = some u →
      ∃ u', s.tasks j = some u' ∧ u'.name = u.name ∧ ∀ p, Uses s u p → Uses s u' p := by
    intro j u hu
    rcases goto_tasks s hu with ⟨rfl, hname, hpc⟩ | ⟨-, hu⟩
    · refine ⟨t, ht, hname.symm, fun p huses => ?_⟩
      rcases huses with h | h
      · rw [hname] at h
        exact .inl h
      · exact hnext u.pc hpc p h
    · exact ⟨u, hu, rfl, fun _ h => h⟩
  constructor
  · intro j k u w hu hw hname
    obtain ⟨u', hu', hun, -⟩ := hold j u hu
    obtain ⟨w', hw', hwn, -⟩ := hold k w hw
    exact hs.distinct j k u' w' hu' hw' (hun.trans (hname.trans hwn.symm))
  · intro j u v hu hv
    obtain ⟨u', hu', hun, -⟩ := hold j u hu
    exact hs.creator j u' v hu' (hun ▸ hv)
  · intro j u p hu huses
    obtain ⟨u', hu', -, huse⟩ := hold j u hu
    exact hs.own j u' p hu' (huse p huses)

omit [DecidableEq Name] in
theorem Owned.start (hs : Owned s) {i : TaskId} {job : Job} {name : Name}
    (hnone : s.vms name = none) (hname : ∀ j u, s.tasks j = some u → u.name ≠ name) :
    Owned { s with tasks := Function.update s.tasks i (some ⟨name, job, job.first⟩) } := by
  have hcases : ∀ j u,
      Function.update s.tasks i (some ⟨name, job, job.first⟩) j = some u →
      (j = i ∧ u = ⟨name, job, job.first⟩) ∨ s.tasks j = some u := by
    intro j u hu
    rw [Function.update_apply] at hu
    split at hu
    · next hj =>
        cases hu
        exact .inl ⟨hj, rfl⟩
    · exact .inr hu
  constructor
  · intro j k u w hu hw heq
    rcases hcases j u hu with ⟨rfl, rfl⟩ | hu'
    · rcases hcases k w hw with ⟨rfl, rfl⟩ | hw'
      · rfl
      · exact absurd heq.symm (hname k w hw')
    · rcases hcases k w hw with ⟨rfl, rfl⟩ | hw'
      · exact absurd heq (hname j u hu')
      · exact hs.distinct j k u w hu' hw' heq
  · intro j u v hu hv
    rcases hcases j u hu with ⟨rfl, rfl⟩ | hu'
    · rw [hnone] at hv
      cases hv
    · exact hs.creator j u v hu' hv
  · intro j u pid hu huses
    rcases hcases j u hu with ⟨rfl, rfl⟩ | hu'
    · rcases huses with h | h
      · rw [System.recorded] at h
        dsimp only at h
        rw [hnone] at h
        cases h
      · cases job <;> cases h
    · exact hs.own j u pid hu' huses

theorem Owned.step {e : Event Name} (hs : Owned s) (hfree : Undisturbed s e) :
    Owned (step s e) := by
  cases e with
  | start i job name => exact hs.start hfree.1 hfree.2
  | act i ok pid =>
      rw [ZenTest.step]
      split
      · next t ht =>
          obtain ⟨hchanges, hnext⟩ := action_spec s i t ok pid
          have htasks := action_tasks s i t ok pid
          exact (hs.changes ht hfree hchanges).goto (htasks ▸ ht) hnext
      · exact hs
  | exit pid clean =>
      have hended := shrinks_processes s pid (p := none) (by rintro _ _ ⟨⟩)
      rw [ZenTest.step]
      split
      · split
        · exact hs.shrink (hended.trans (shrinks_setPidFile _ _))
        · exact hs.shrink hended
      · exact hs.shrink hended
  | fork pid => exact hs.shrink (shrinks_processes s pid (by rintro _ _ ⟨⟩))

omit [DecidableEq Name] in
theorem Owned.isolated (hs : Owned s) (e : Event Name) : Isolated s e := by
  cases e with
  | act i ok pid =>
      intro t ht effect heffect
      cases hpc : t.pc with
      | kill p =>
          rw [Task.effect, hpc] at heffect
          cases heffect
          exact hs.own i t p ht (.inr (by rw [hpc]; rfl))
      | cleanStale | cleanup | remove =>
          rw [Task.effect, hpc] at heffect
          cases heffect
          exact fun v hv => hs.creator i t v ht hv
      | _ =>
          rw [Task.effect, hpc] at heffect
          cases heffect
  | _ => trivial

/-- In every run of gates that start on names of their own, no gate touches the VM of
another or one that was there before. -/
theorem run_isolated (htasks : ∀ i, s.tasks i = none) (events : List (Event Name))
    (hrun : Along step (fun s e => Admissible s e ∧ OnlyGates e ∧ Undisturbed s e) s events) :
    Along step Isolated s events := by
  refine hrun.of_invariant (I := Owned) (fun s e hs h => hs.step h.2.2)
    (fun s e hs _ => hs.isolated e) ?_
  constructor
  · intro i j t u ht
    rw [htasks] at ht
    cases ht
  · intro i t v ht
    rw [htasks] at ht
    cases ht
  · intro i t pid ht
    rw [htasks] at ht
    cases ht

/-- One gate beside a VM that was there before. -/
theorem run_isolated_beside :
    let s : System Nat :=
      { vms := fun n => if n = 0 then some ⟨none, some 7⟩ else none
        processes := fun pid => if pid = 7 then some (.qemu 0 none) else none
        tasks := fun _ => none }
    let events : List (Event Nat) :=
      [.start 1 .gate 1, .act 1 true 0, .act 1 true 0, .act 1 true 0, .act 1 true 0, .act 1 true 0,
        .act 1 true 8, .act 1 true 0, .act 1 true 0, .act 1 true 0, .act 1 true 0]
    (∀ i, s.tasks i = none) ∧
      Along step (fun s e => Admissible s e ∧ OnlyGates e ∧ Undisturbed s e) s events ∧
      Along step Isolated s events := by
  intro s events
  have htasks : ∀ i, s.tasks i = none := fun _ => rfl
  have hquiet : ∀ (s : System Nat) (t : Task Nat) (ok : Bool) (pid : Pid),
      s.tasks 1 = some t → t.pc ≠ .spawn →
      Admissible s (.act 1 ok pid) ∧ OnlyGates (.act 1 ok pid : Event Nat) ∧
        Undisturbed s (.act 1 ok pid) := by
    intro s t ok pid ht hpc
    refine ⟨⟨t, ht, fun h => absurd h hpc⟩, trivial, fun u hu h => absurd ?_ hpc⟩
    cases ht.symm.trans hu
    exact h
  have hrun : Along step (fun s e => Admissible s e ∧ OnlyGates e ∧ Undisturbed s e) s events := by
    refine ⟨⟨rfl, rfl, rfl, fun j u hu => ?_⟩, hquiet _ _ _ _ rfl nofun, hquiet _ _ _ _ rfl nofun,
      hquiet _ _ _ _ rfl nofun, hquiet _ _ _ _ rfl nofun, hquiet _ _ _ _ rfl nofun,
      ⟨⟨_, rfl, fun _ _ => rfl⟩, trivial, fun t ht hpc j u hu hj => ?_⟩,
      hquiet _ _ _ _ rfl nofun, hquiet _ _ _ _ rfl nofun, hquiet _ _ _ _ rfl nofun,
      hquiet _ _ _ _ rfl nofun, trivial⟩
    · cases hu
    · simp only [act_tasks_of_ne _ hj] at hu
      rw [step] at hu
      dsimp only at hu
      rw [Function.update_of_ne hj] at hu
      cases hu
  exact ⟨htasks, hrun, run_isolated htasks events hrun⟩

end Steps

/-- A gate whose VM is there already kills its QEMU. -/
theorem existing_vm_killed :
    let s : System Nat :=
      { vms := fun n => if n = 0 then some ⟨none, some 7⟩ else none
        processes := fun pid => if pid = 7 then some (.qemu 0 none) else none
        tasks := fun _ => none }
    let events : List (Event Nat) :=
      [.start 1 .gate 0, .act 1 true 0, .act 1 true 0, .act 1 true 0, .act 1 true 0]
    Along step (fun s e => Admissible s e ∧ OnlyGates e) s events ∧
      (exec step s events).processes 7 = none ∧ ¬ Along step Isolated s events := by
  intro s events
  refine ⟨⟨⟨rfl, rfl⟩, ⟨⟨_, rfl, nofun⟩, trivial⟩, ⟨⟨_, rfl, nofun⟩, trivial⟩,
    ⟨⟨_, rfl, nofun⟩, trivial⟩, ⟨⟨_, rfl, nofun⟩, trivial⟩, trivial⟩, rfl, fun halong => ?_⟩
  obtain ⟨-, -, -, -, hkill, -⟩ := halong
  exact absurd (hkill _ rfl _ rfl 0 none rfl) nofun

end ZenOS.ZenTest
