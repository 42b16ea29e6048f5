import ZenOS.QualityGates.Script

/-!
What the verdict of the orchestrator says about the commands behind the gates.  A gate
is judged by the last stage of each pipeline, or not at all; what it is meant to say is
how the first stages exit.
-/

namespace ZenOS.QualityGates

open ZenOS.Library.Shell

/-- The command that a gate runs exits with 0: the first stage of a pipeline counts,
and not what its output is piped into. -/
def CommandSucceeds (W : World Command Variable) (g : GateId) : Prop :=
  Succeeds W (scriptShell.judging firstStatus) (childShell.judging firstStatus)
    (gateCommand g)

instance (W : World Command Variable) (g : GateId) : Decidable (CommandSucceeds W g) :=
  inferInstanceAs (Decidable (Succeeds ..))

/-- `wsl_run` gets as far as the text of the check. -/
def Starts (W : World Command Variable) (g : GateId) : Prop :=
  (W.status ⟨g, "grep -qi microsoft /proc/version"⟩ = 0 ∨
      W.status ⟨g, "wsl -d Ubuntu --"⟩ = 0) ∧
    W.status ⟨g, "cd ${WSL_REPO}"⟩ = 0

/-- The pipelines of a host gate do not hide a failure: when their last stages exit with
0 so do their first stages. -/
def HostTelling (W : World Command Variable) (g : GateId) : Prop :=
  Starts W g → (∀ p ∈ (hostCheck g).chained, lastStatus (p.statuses W) = 0) →
    ∀ p ∈ (hostCheck g).chained, W.status p.first = 0

/-- What `size` is after the command substitution of the image check. -/
def imageSize (W : World Command Variable) : Option (Option Int) :=
  if W.status ⟨.imageBuild, "test -f ${IMAGE_PATH}"⟩ = 0 then
    some (W.printed (GateId.imageBuild.pipeline "du -m ${IMAGE_PATH}" ["cut -f1"]))
  else W.environment .size

section Checks

variable {W : World Command Variable}

/-- Behind `wsl_run` a script succeeds when it is reached and its own shell succeeds. -/
theorem succeeds_wslRun {own child : Options} {g : GateId} {t : Script Command Variable}
    (hown : ∀ status, own.judge [status] = status) :
    Succeeds W own child (wslRun g t) ↔
      (W.status ⟨g, "grep -qi microsoft /proc/version"⟩ = 0 ∨
        W.status ⟨g, "wsl -d Ubuntu --"⟩ = 0) ∧
      Succeeds W child child (t.after g.cd) := by
  have hsingle : ∀ argv, own.judge ((g.pipeline argv []).statuses W) = W.status ⟨g, argv⟩ :=
    fun argv => hown _
  simp only [Succeeds, wslRun, exec, ok_bind, hsingle]
  split
  · next hwsl => simp [hwsl, exitStatus]
  · next hwsl =>
      split
      · next hstart => simp [hstart, exitStatus]
      · next hstart => simp [hwsl, hstart, exitStatus]

/-- A chain behind `wsl_run` succeeds when it is reached and the child judges each of
its pipelines successful. -/
theorem succeeds_wslRun_all {own child : Options} {g : GateId}
    (hown : ∀ status, own.judge [status] = status)
    (hchild : ∀ status, child.judge [status] = status) (p : Pipeline Command)
    (ps : List (Pipeline Command)) :
    Succeeds W own child (wslRun g (.all p ps)) ↔
      Starts W g ∧ ∀ q ∈ p :: ps, child.judge (q.statuses W) = 0 := by
  have hcd : child.judge (g.cd.statuses W) = W.status ⟨g, "cd ${WSL_REPO}"⟩ := hchild _
  rw [succeeds_wslRun hown, Succeeds, exec_all_after, exec_all, List.forall_mem_cons, hcd,
    Starts, and_assoc]

theorem checkExitCode_eq_zero_iff (g : GateId) :
    checkExitCode W g = 0 ↔ Succeeds W scriptShell childShell (gateCommand g) :=
  Iff.rfl

theorem hostTelling_iff_of_all {g : GateId} {p : Pipeline Command}
    {ps : List (Pipeline Command)} (hg : gateCommand g = wslRun g (hostCheck g))
    (hall : hostCheck g = .all p ps) :
    (checkExitCode W g = 0 → CommandSucceeds W g) ↔ HostTelling W g := by
  rw [checkExitCode_eq_zero_iff, CommandSucceeds, hg, HostTelling, hall, chained_all,
    succeeds_wslRun_all pipefail_singleton lastStatus_singleton,
    succeeds_wslRun_all firstStatus_singleton firstStatus_singleton]
  constructor
  · intro h hstarts hlast
    exact (h ⟨hstarts, hlast⟩).2
  · rintro h ⟨hstarts, hlast⟩
    exact ⟨hstarts, h hstarts hlast⟩

theorem hostTelling_iff_of_pipe {g : GateId} {p : Pipeline Command}
    (hg : gateCommand g = wslRun g (hostCheck g)) (hpipe : hostCheck g = .pipe p) :
    (checkExitCode W g = 0 → CommandSucceeds W g) ↔ HostTelling W g := by
  have hall : hostCheck g = .all p [] := hpipe
  exact hostTelling_iff_of_all hg hall

theorem checkExitCode_iff_of_alike {g : GateId}
    (h : (gateCommand g).Alike W firstStatus scriptShell childShell True) :
    checkExitCode W g = 0 ↔ CommandSucceeds W g :=
  (exec_judging h rfl).exitStatus trivial

theorem alike_wslRun {g : GateId} {t : Script Command Variable}
    (h : (t.after g.cd).Alike W firstStatus childShell childShell True) :
    (wslRun g t).Alike W firstStatus scriptShell childShell True := by
  have hsingle : ∀ argv, scriptShell.judge ((g.pipeline argv []).statuses W) = 0 ↔
      firstStatus ((g.pipeline argv []).statuses W) = 0 := by
    intro argv
    exact (congrArg (· = 0) (pipefail_singleton (W.status ⟨g, argv⟩))).to_iff
  exact ⟨fun _ => hsingle _, fun _ => h, fun _ => hsingle _, fun _ => h⟩

theorem hostTelling_iff_of_count {g : GateId} {a : Script Command Variable} {x : Variable}
    {op : Comparison} {n : Int} (hg : gateCommand g = wslRun g (hostCheck g))
    (hseq : hostCheck g = .seq a (.test x op n))
    (ha : (a.after g.cd).Alike W firstStatus childShell childShell False) :
    (checkExitCode W g = 0 → CommandSucceeds W g) ↔ HostTelling W g := by
  have htelling : HostTelling W g := by
    intro _ _ p hp
    rw [hseq] at hp
    cases hp
  have halike : (gateCommand g).Alike W firstStatus scriptShell childShell True := by
    rw [hg, hseq]
    exact alike_wslRun ⟨ha, trivial⟩
  exact iff_of_true (checkExitCode_iff_of_alike halike).mp htelling

theorem hostTelling_iff {g : GateId} (hg : g ∈ phase0Gates ++ phase1HostGates) :
    (checkExitCode W g = 0 → CommandSucceeds W g) ↔ HostTelling W g := by
  cases g with
  | zenTest | imageBuild | p1v01 | p1v02 | p1v03 | p1v04 => exact absurd hg (by decide)
  | p001 | p002 | p003 | p1h01 | p1h02 | p1h03 => exact hostTelling_iff_of_pipe rfl rfl
  | p008 | p013 | p015 => exact hostTelling_iff_of_count rfl rfl ⟨fun _ => Iff.rfl, nofun⟩
  | p010 =>
      exact hostTelling_iff_of_count rfl rfl ⟨⟨fun _ => Iff.rfl, fun _ => Iff.rfl⟩, nofun⟩
  | _ => exact hostTelling_iff_of_all rfl rfl

theorem zenTest_exitCode_iff :
    checkExitCode W .zenTest = 0 ↔
      W.status ⟨.zenTest, "test -f ${ZEN_TEST}"⟩ = 0 ∧
        W.status ⟨.zenTest, "${ZEN_TEST} version"⟩ = 0 ∧
        W.status ⟨.zenTest, "grep -q '\"name\":\"zen-test\"'"⟩ = 0 := by
  rw [checkExitCode_eq_zero_iff, gateCommand, Succeeds, exec_all]
  simp [scriptShell, pipefail_eq_zero_iff, Pipeline.statuses, Pipeline.stages,
    GateId.pipeline]

theorem zenTest_sound (h : checkExitCode W .zenTest = 0) : CommandSucceeds W .zenTest := by
  obtain ⟨hfile, hversion, -⟩ := zenTest_exitCode_iff.mp h
  rw [CommandSucceeds, gateCommand, Succeeds, exec_all]
  simp [Options.judging, Pipeline.firstStatus_statuses, GateId.pipeline, hfile, hversion]

/-- The compiler's gate asks for the status of `tail` only. -/
theorem compile_exitCode_iff :
    checkExitCode W .p002 = 0 ↔ Starts W .p002 ∧ W.status ⟨.p002, "tail -20"⟩ = 0 := by
  have h := succeeds_wslRun_all (W := W) (g := .p002)
    (show ∀ status, scriptShell.judge [status] = status from pipefail_singleton)
    (show ∀ status, childShell.judge [status] = status from lastStatus_singleton)
    (GateId.p002.pipeline "meson compile -C builddir" ["tail -20"]) []
  rw [List.forall_mem_singleton] at h
  exact h

theorem imageBuild_exitCode_iff :
    checkExitCode W .imageBuild = 0 ↔ ∃ size, imageSize W = some (some size) ∧ 100 < size := by
  have hfile : scriptShell.judge
      ((GateId.imageBuild.pipeline "test -f ${IMAGE_PATH}" []).statuses W) =
        W.status ⟨.imageBuild, "test -f ${IMAGE_PATH}"⟩ := pipefail_singleton _
  have hholds : ∀ v : Int, Comparison.gt.holds v 100 = true ↔ 100 < v := by
    intro v
    exact decide_eq_true_iff
  rw [checkExitCode, gateCommand, exec, exec, exec, ok_bind, imageSize, hfile]
  dsimp only
  split
  · rw [exec, ok_bind, exec_test]
    simp [hholds]
  · rw [ok_bind, exec_test]
    simp [hholds, World.fresh]

theorem imageBuild_sound (h : checkExitCode W .imageBuild = 0) :
    CommandSucceeds W .imageBuild := by
  have halike : (gateCommand .imageBuild).Alike W firstStatus scriptShell childShell True := by
    refine ⟨⟨fun _ => ?_, nofun⟩, trivial⟩
    exact (congrArg (· = 0) (pipefail_singleton _)).to_iff
  exact (checkExitCode_iff_of_alike halike).mp h

/-- `run_vm_gate` reads `PIPESTATUS` after `|| true` and never sees a failure. -/
theorem vmExitCode_eq_zero (g : GateId) : vmExitCode W g = 0 := by
  have hown : scriptShell.judge = pipefail := rfl
  obtain ⟨status, s, hexec, hpipestatus⟩ :=
    exec_or_nop_pipestatus hown (vmPipeline g) W.fresh
  rw [vmExitCode, hexec]
  exact hpipestatus

theorem vm_sound_iff {g : GateId} (hg : g ∈ vmGates) :
    CommandSucceeds W g ↔ W.status (vmPipeline g).first = 0 := by
  cases g <;> first | exact Iff.rfl | exact absurd hg (by decide)

end Checks

end ZenOS.QualityGates
