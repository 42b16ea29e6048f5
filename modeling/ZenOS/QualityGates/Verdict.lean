import ZenOS.QualityGates.Record

/-!
What the verdict of the orchestrator says about the commands behind the gates.
-/

namespace ZenOS.QualityGates

open ZenOS.Library.Shell

/-- Gates are recorded as passed only if their commands succeed, and the script exits
with 0 only if this holds of every gate that is not skipped. -/
structure Sound (W : World Command Variable) (o : Outcome) : Prop where
  pass : ∀ r ∈ o.tracking.resultsFile, r.status = .pass → CommandSucceeds W r.gate
  exit : o.exit = 0 → ∀ r ∈ o.tracking.resultsFile, r.status ≠ .skip →
    CommandSucceeds W r.gate

/-- The VM gates are not skipped: no flag excludes them, the zen-test binary answers,
the output of the compiler can be shown, and there is an image. -/
def VmRuns (flags : Flags) (W : World Command Variable) : Prop :=
  flags.skipVm = false ∧ flags.skipImageBuild = false ∧
    (W.status ⟨.zenTest, "test -f ${ZEN_TEST}"⟩ = 0 ∧
      W.status ⟨.zenTest, "${ZEN_TEST} version"⟩ = 0 ∧
      W.status ⟨.zenTest, "grep -q '\"name\":\"zen-test\"'"⟩ = 0) ∧
    (Starts W .p002 ∧ W.status ⟨.p002, "tail -20"⟩ = 0) ∧
    ∃ size, imageSize W = some (some size) ∧ 100 < size

/-- The exit statuses tell: no host gate hides a failure, and of the VM gates that run
none has one. -/
def Telling (flags : Flags) (h : Host) : Prop :=
  (∀ g ∈ phase0Gates ++ phase1HostGates, HostTelling h.world g) ∧
    (VmRuns flags h.world → ∀ g ∈ reached h.convertScreenshots vmGates,
      h.world.status (vmPipeline g).first = 0)

section Main

variable (flags : Flags) (h : Host)

theorem vmRuns_iff :
    VmRuns flags h.world ↔
      (flags.skipVm || (runHostStages flags h.world).zenTestFailed ||
        (runHostStages flags h.world).imageBuildFailed) = false := by
  obtain ⟨-, hzen, himage⟩ := runHostStages_eq (W := h.world) flags
  have hcompile : checkExitCode h.world .p002 = 0 ↔
      Starts h.world .p002 ∧ h.world.status ⟨.p002, "tail -20"⟩ = 0 :=
    compile_exitCode_iff
  rw [VmRuns, hzen, himage, ← zenTest_exitCode_iff, ← hcompile, ← imageBuild_exitCode_iff]
  simp only [Bool.or_eq_false_iff, decide_eq_false_iff_not, not_not]
  tauto

def vmResults (flags : Flags) (h : Host) (t : Tracking) : List GateResult :=
  if flags.skipVm || t.zenTestFailed || t.imageBuildFailed then vmGates.map skipResult
  else (reached h.convertScreenshots vmGates).map vmResult

theorem main_resultsFile :
    (main flags h).tracking.resultsFile =
      (runHostStages flags h.world).resultsFile ++
        vmResults flags h (runHostStages flags h.world) := by
  have hstage : (runVmStage flags h (runHostStages flags h.world)).1.resultsFile =
      (runHostStages flags h.world).resultsFile ++
        vmResults flags h (runHostStages flags h.world) := by
    rw [runVmStage, vmResults]
    split
    · exact foldl_skipGate _ _
    · exact runVmGates_eq h _ _
  rw [main]
  dsimp only
  split
  · exact hstage
  · split <;> exact hstage

theorem main_pass_iff (r : GateResult) (hpass : r.status = .pass) :
    r ∈ (main flags h).tracking.resultsFile ↔
      (r ∈ (GateId.zenTest :: phase0Gates ++ phase1HostGates).map (checkResult h.world) ∨
        r ∈ imageResults flags h.world (decide (checkExitCode h.world .p002 ≠ 0))) ∨
      VmRuns flags h.world ∧ r ∈ (reached h.convertScreenshots vmGates).map vmResult := by
  obtain ⟨hresults, -, -⟩ := runHostStages_eq (W := h.world) flags
  have hvm : r ∈ vmResults flags h (runHostStages flags h.world) ↔
      VmRuns flags h.world ∧ r ∈ (reached h.convertScreenshots vmGates).map vmResult := by
    rw [vmRuns_iff, vmResults]
    split
    · next hskip =>
        refine iff_of_false (fun hmem => ?_) fun hruns => ?_
        · obtain ⟨g, -, rfl⟩ := List.mem_map.mp hmem
          cases hpass
        · rw [hskip] at hruns
          cases hruns.1
    · next hskip => simp [Bool.eq_false_iff.mpr hskip]
  rw [main_resultsFile, List.mem_append, hresults, List.mem_append, hvm]

/-- The verdict is sound exactly when the exit statuses tell: the first stage of a
check's pipeline exits with 0 whenever the last one does, and no VM gate that runs has
a failure. -/
theorem main_sound_iff : Sound h.world (main flags h) ↔ Telling flags h := by
  constructor
  · intro hsound
    refine ⟨fun g hg => (hostTelling_iff hg).mp fun hexit => ?_, fun hruns g hg => ?_⟩
    · have hpass : (checkResult h.world g).status = .pass := if_pos hexit
      refine hsound.pass _ ((main_pass_iff flags h _ hpass).mpr (.inl (.inl ?_))) hpass
      exact List.mem_map_of_mem (List.mem_cons_of_mem _ hg)
    · have hmem : g ∈ vmGates := reached_subset _ _ hg
      refine (vm_sound_iff hmem).mp (hsound.pass (vmResult g) ?_ rfl)
      exact (main_pass_iff flags h _ rfl).mpr (.inr ⟨hruns, List.mem_map_of_mem hg⟩)
  · rintro ⟨hhost, hvm⟩
    have hpass : ∀ r ∈ (main flags h).tracking.resultsFile, r.status = .pass →
        CommandSucceeds h.world r.gate := by
      intro r hr hpass
      rcases (main_pass_iff flags h r hpass).mp hr with (hr | hr) | ⟨hruns, hr⟩
      · obtain ⟨g, hg, rfl⟩ := List.mem_map.mp hr
        have hexit := exitCode_of_pass hpass
        rcases List.mem_cons.mp hg with rfl | hg
        · exact zenTest_sound hexit
        · exact (hostTelling_iff hg).mpr (hhost g hg) hexit
      · rcases mem_imageResults hr with rfl | rfl
        · cases hpass
        · exact imageBuild_sound (exitCode_of_pass hpass)
      · obtain ⟨g, hg, rfl⟩ := List.mem_map.mp hr
        exact (vm_sound_iff (reached_subset _ _ hg)).mpr (hvm hruns g hg)
    refine ⟨hpass, fun hexit r hr hskip => hpass r hr ?_⟩
    have hfail := main_exit flags h hexit r hr
    rcases hstatus : r.status with _ | _ | _
    · rfl
    · exact absurd hstatus hfail
    · exact absurd hstatus hskip

/-- The test suite fails, and the script reports that every gate has passed. -/
theorem failing_tests_pass :
    let h : Host :=
      { world :=
          { status := fun c =>
              if c = ⟨.p003, "meson test -C builddir"⟩ then 1 else 0
            printed := fun _ => some 1000
            environment := fun _ => none }
        convertScreenshots := fun _ => 0
        generateReport := 0 }
    let o := main ⟨false, false⟩ h
    ⟨.p003, .pass, some 0⟩ ∈ o.tracking.resultsFile ∧ o.exit = 0 ∧
      ¬ CommandSucceeds h.world .p003 ∧ ¬ Sound h.world o := by
  intro h o
  have hrecorded : (⟨.p003, .pass, some 0⟩ : GateResult) ∈ o.tracking.resultsFile := by
    decide +kernel
  have hfails : ¬ CommandSucceeds h.world .p003 := by decide +kernel
  refine ⟨hrecorded, by decide +kernel, hfails, fun hsound => ?_⟩
  exact hfails (hsound.pass _ hrecorded rfl)

end Main

end ZenOS.QualityGates
