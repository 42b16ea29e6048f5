import ZenOS.QualityGates.Checks

/-!
What a run of the orchestrator records, line by line.
-/

namespace ZenOS.QualityGates

open ZenOS.Library.Shell

/-- The VM gates up to the first whose screenshots cannot be converted, at which the
script ends. -/
def reached (convertScreenshots : GateId → Nat) : List GateId → List GateId
  | [] => []
  | g :: gates =>
      g :: if convertScreenshots g = 0 then reached convertScreenshots gates else []

/-- The line that `run_check` records. -/
def checkResult (W : World Command Variable) (g : GateId) : GateResult :=
  ⟨g, if checkExitCode W g = 0 then .pass else .fail, some (checkExitCode W g)⟩

/-- The line that `run_vm_gate` records, whatever the gate does. -/
def vmResult (g : GateId) : GateResult :=
  ⟨g, .pass, some 0⟩

def skipResult (g : GateId) : GateResult :=
  ⟨g, .skip, none⟩

theorem reached_subset (convertScreenshots : GateId → Nat) (gates : List GateId) :
    reached convertScreenshots gates ⊆ gates := by
  induction gates with
  | nil => exact List.Subset.refl _
  | cons g gates ih =>
      rw [reached]
      split
      · exact List.cons_subset_cons g ih
      · exact List.cons_subset_cons g (List.nil_subset _)

section Recorded

variable {W : World Command Variable}

/-- `run_check` records one line and leaves the failure flags alone. -/
theorem runCheck_eq (t : Tracking) (g : GateId) :
    (runCheck W t g).2 = decide (checkExitCode W g = 0) ∧
      (runCheck W t g).1.resultsFile = t.resultsFile ++ [checkResult W g] ∧
      (runCheck W t g).1.compileFailed = t.compileFailed ∧
      (runCheck W t g).1.zenTestFailed = t.zenTestFailed ∧
      (runCheck W t g).1.imageBuildFailed = t.imageBuildFailed := by
  rw [runCheck, checkResult]
  split
  · next h => exact ⟨(decide_eq_true h).symm, rfl, rfl, rfl, rfl⟩
  · next h => exact ⟨(decide_eq_false h).symm, rfl, rfl, rfl, rfl⟩

theorem checkZenTest_eq (t : Tracking) :
    (checkZenTest W t).resultsFile = t.resultsFile ++ [checkResult W .zenTest] ∧
      (checkZenTest W t).compileFailed = t.compileFailed ∧
      (checkZenTest W t).zenTestFailed =
        (t.zenTestFailed || decide (checkExitCode W .zenTest ≠ 0)) ∧
      (checkZenTest W t).imageBuildFailed = t.imageBuildFailed := by
  obtain ⟨hok, hresults, hcompile, hzen, himage⟩ := runCheck_eq (W := W) t .zenTest
  rw [checkZenTest]
  dsimp only
  rw [hok]
  rcases eq_or_ne (checkExitCode W .zenTest) 0 with hexit | hexit
  · simp [hexit, hresults, hcompile, hzen, himage]
  · simp [hexit, hresults, hcompile, himage]

theorem runPhase0Gate_eq (t : Tracking) (g : GateId) :
    (runPhase0Gate W t g).resultsFile = t.resultsFile ++ [checkResult W g] ∧
      (runPhase0Gate W t g).compileFailed =
        (t.compileFailed || decide (g = .p002 ∧ checkExitCode W g ≠ 0)) ∧
      (runPhase0Gate W t g).zenTestFailed = t.zenTestFailed ∧
      (runPhase0Gate W t g).imageBuildFailed = t.imageBuildFailed := by
  obtain ⟨hok, hresults, hcompile, hzen, himage⟩ := runCheck_eq (W := W) t g
  rw [runPhase0Gate]
  dsimp only
  rw [hok]
  rcases eq_or_ne (checkExitCode W g) 0 with hexit | hexit
  · simp [hexit, hresults, hcompile, hzen, himage]
  · rcases eq_or_ne g .p002 with rfl | hg
    · simp [hexit, hresults, hzen, himage]
    · simp [hexit, hg, hresults, hcompile, hzen, himage]

theorem foldl_runPhase0Gate (gates : List GateId) (t : Tracking) :
    (gates.foldl (runPhase0Gate W) t).resultsFile =
        t.resultsFile ++ gates.map (checkResult W) ∧
      (gates.foldl (runPhase0Gate W) t).compileFailed =
        (t.compileFailed || decide (.p002 ∈ gates ∧ checkExitCode W .p002 ≠ 0)) ∧
      (gates.foldl (runPhase0Gate W) t).zenTestFailed = t.zenTestFailed ∧
      (gates.foldl (runPhase0Gate W) t).imageBuildFailed = t.imageBuildFailed := by
  induction gates generalizing t with
  | nil => simp
  | cons g gates ih =>
      obtain ⟨hresults, hcompile, hzen, himage⟩ := runPhase0Gate_eq (W := W) t g
      obtain ⟨ihresults, ihcompile, ihzen, ihimage⟩ := ih (runPhase0Gate W t g)
      rw [List.foldl_cons, ihresults, ihcompile, ihzen, ihimage, hresults, hcompile, hzen, himage]
      refine ⟨by simp, ?_, rfl, rfl⟩
      rcases eq_or_ne g .p002 with rfl | hne
      · rcases eq_or_ne (checkExitCode W .p002) 0 with hexit | hexit <;> simp [hexit]
      · simp [hne, hne.symm]

theorem foldl_runPhase1Gate (gates : List GateId) (t : Tracking) :
    (gates.foldl (runPhase1Gate W) t).resultsFile =
        t.resultsFile ++ gates.map (checkResult W) ∧
      (gates.foldl (runPhase1Gate W) t).compileFailed = t.compileFailed ∧
      (gates.foldl (runPhase1Gate W) t).zenTestFailed = t.zenTestFailed ∧
      (gates.foldl (runPhase1Gate W) t).imageBuildFailed = t.imageBuildFailed := by
  induction gates generalizing t with
  | nil => simp
  | cons g gates ih =>
      obtain ⟨-, hresults, hcompile, hzen, himage⟩ := runCheck_eq (W := W) t g
      obtain ⟨ihresults, ihcompile, ihzen, ihimage⟩ := ih (runPhase1Gate W t g)
      rw [List.foldl_cons, ihresults, ihcompile, ihzen, ihimage, runPhase1Gate, hresults]
      exact ⟨by simp, hcompile, hzen, himage⟩

def imageResults (flags : Flags) (W : World Command Variable) (compileFailed : Bool) :
    List GateResult :=
  if flags.skipImageBuild then []
  else if compileFailed then [skipResult .imageBuild]
  else [checkResult W .imageBuild]

theorem mem_imageResults {flags : Flags} {compileFailed : Bool} {r : GateResult}
    (h : r ∈ imageResults flags W compileFailed) :
    r = skipResult .imageBuild ∨ r = checkResult W .imageBuild := by
  rw [imageResults] at h
  split at h
  · cases h
  · split at h
    · exact .inl (List.mem_singleton.mp h)
    · exact .inr (List.mem_singleton.mp h)

theorem exitCode_of_pass {g : GateId} (h : (checkResult W g).status = .pass) :
    checkExitCode W g = 0 := by
  by_contra hne
  rw [checkResult, if_neg hne] at h
  cases h

theorem checkImage_eq (flags : Flags) (t : Tracking) :
    (checkImage flags W t).resultsFile =
        t.resultsFile ++ imageResults flags W t.compileFailed ∧
      (checkImage flags W t).zenTestFailed = t.zenTestFailed ∧
      (checkImage flags W t).imageBuildFailed =
        (t.imageBuildFailed || flags.skipImageBuild || t.compileFailed ||
          decide (checkExitCode W .imageBuild ≠ 0)) := by
  obtain ⟨hok, hresults, -, hzen, himage⟩ := runCheck_eq (W := W) t .imageBuild
  rw [checkImage, imageResults]
  rcases flags.skipImageBuild with _ | _
  · rcases t.compileFailed with _ | _
    · simp only [Bool.false_eq_true, if_false]
      rw [hok]
      rcases eq_or_ne (checkExitCode W .imageBuild) 0 with hexit | hexit
      · simp [hexit, hresults, hzen, himage]
      · simp [hexit, hresults, hzen]
    · simp [skipGate, recordResult, skipResult]
  · simp

theorem runVmGates_eq (h : Host) (gates : List GateId) (t : Tracking) :
    (runVmGates h t gates).1.resultsFile =
      t.resultsFile ++ (reached h.convertScreenshots gates).map vmResult := by
  induction gates generalizing t with
  | nil => simp [runVmGates, reached]
  | cons g gates ih =>
      have hrecord : (runVmGate h t g).1.resultsFile = t.resultsFile ++ [vmResult g] := by
        simp [runVmGate, vmExitCode_eq_zero, recordResult, vmResult]
      have hstatus : (runVmGate h t g).2 = h.convertScreenshots g := by
        simp [runVmGate, vmExitCode_eq_zero]
      rw [runVmGates, reached]
      dsimp only
      rw [hstatus]
      split
      · rw [ih, hrecord]
        simp
      · rw [hrecord]
        simp

theorem foldl_skipGate (gates : List GateId) (t : Tracking) :
    (gates.foldl skipGate t).resultsFile = t.resultsFile ++ gates.map skipResult := by
  induction gates generalizing t with
  | nil => simp
  | cons g gates ih =>
      rw [List.foldl_cons, ih]
      simp [skipGate, recordResult, skipResult]

theorem runHostStages_eq (flags : Flags) :
    let compileFailed := decide (checkExitCode W .p002 ≠ 0)
    (runHostStages flags W).resultsFile =
        (GateId.zenTest :: phase0Gates ++ phase1HostGates).map (checkResult W) ++
          imageResults flags W compileFailed ∧
      (runHostStages flags W).zenTestFailed = decide (checkExitCode W .zenTest ≠ 0) ∧
      (runHostStages flags W).imageBuildFailed =
        (flags.skipImageBuild || compileFailed ||
          decide (checkExitCode W .imageBuild ≠ 0)) := by
  intro compileFailed
  obtain ⟨hresults, hcompile, hzen, himage⟩ := checkZenTest_eq (W := W) .start
  obtain ⟨hresults0, hcompile0, hzen0, himage0⟩ :=
    foldl_runPhase0Gate (W := W) phase0Gates (checkZenTest W .start)
  obtain ⟨hresults1, hcompile1, hzen1, himage1⟩ := foldl_runPhase1Gate (W := W)
    phase1HostGates (phase0Gates.foldl (runPhase0Gate W) (checkZenTest W .start))
  have hmem : GateId.p002 ∈ phase0Gates := by decide
  have hcompile2 : (phase1HostGates.foldl (runPhase1Gate W)
      (phase0Gates.foldl (runPhase0Gate W) (checkZenTest W .start))).compileFailed =
        compileFailed := by
    rw [hcompile1, hcompile0, hcompile]
    simp [Tracking.start, hmem, compileFailed]
  obtain ⟨hresults2, hzen2, himage2⟩ := checkImage_eq (W := W) flags
    (phase1HostGates.foldl (runPhase1Gate W)
      (phase0Gates.foldl (runPhase0Gate W) (checkZenTest W .start)))
  rw [runHostStages]
  refine ⟨?_, ?_, ?_⟩
  · rw [hresults2, hcompile2, hresults1, hresults0, hresults]
    simp [Tracking.start]
  · rw [hzen2, hzen1, hzen0, hzen]
    simp [Tracking.start]
  · rw [himage2, hcompile2, himage1, himage0, himage]
    simp [Tracking.start]

end Recorded

/-- The counters add up, and every recorded failure is counted. -/
structure Tracking.Counted (t : Tracking) : Prop where
  total : t.totalGates = t.passedGates + t.failedGates + t.skippedGates
  failed : t.resultsFile.countP (·.status = .fail) ≤ t.failedGates

section Counters

variable {W : World Command Variable} {t : Tracking}

theorem recordResult_counted (ht : t.Counted) (gate : GateId) (status : GateStatus)
    (exitCode : Option Nat) : (recordResult t gate status exitCode).Counted := by
  obtain ⟨htotal, hfailed⟩ := ht
  rw [recordResult]
  cases status with
  | pass => exact ⟨by simp; omega, by simpa using hfailed⟩
  | fail => exact ⟨by simp; omega, by simpa using hfailed⟩
  | skip => exact ⟨by simp; omega, by simpa using hfailed⟩

theorem runCheck_counted (ht : t.Counted) (g : GateId) : (runCheck W t g).1.Counted := by
  rw [runCheck]
  split <;> exact recordResult_counted ht ..

/-- The counters and the recorded lines are the same; the failure flags may differ. -/
def Tracking.SameRecord (t t' : Tracking) : Prop :=
  t'.resultsFile = t.resultsFile ∧ t'.totalGates = t.totalGates ∧
    t'.passedGates = t.passedGates ∧ t'.failedGates = t.failedGates ∧
    t'.skippedGates = t.skippedGates

section Invariant

variable {P : Tracking → Prop} (hflags : ∀ {t t' : Tracking}, P t → t.SameRecord t' → P t')
  (hcheck : ∀ {t : Tracking} (g : GateId), P t → P (runCheck W t g).1)
  (hskip : ∀ {t : Tracking} (g : GateId), P t → P (skipGate t g))

include hflags hcheck in
theorem checkZenTest_invariant (ht : P t) : P (checkZenTest W t) := by
  rw [checkZenTest]
  dsimp only
  split
  · exact hflags (hcheck .zenTest ht) ⟨rfl, rfl, rfl, rfl, rfl⟩
  · exact hcheck .zenTest ht

include hflags hcheck in
theorem foldl_runPhase0Gate_invariant (gates : List GateId) (ht : P t) :
    P (gates.foldl (runPhase0Gate W) t) := by
  induction gates generalizing t with
  | nil => exact ht
  | cons g gates ih =>
      apply ih
      rw [runPhase0Gate]
      dsimp only
      split
      · exact hflags (hcheck g ht) ⟨rfl, rfl, rfl, rfl, rfl⟩
      · exact hcheck g ht

include hflags hcheck hskip in
theorem checkImage_invariant (flags : Flags) (ht : P t) : P (checkImage flags W t) := by
  rw [checkImage]
  split
  · exact hflags ht ⟨rfl, rfl, rfl, rfl, rfl⟩
  split
  · exact hflags (hskip .imageBuild ht) ⟨rfl, rfl, rfl, rfl, rfl⟩
  · dsimp only
    split
    · exact hflags (hcheck .imageBuild ht) ⟨rfl, rfl, rfl, rfl, rfl⟩
    · exact hcheck .imageBuild ht

theorem foldl_invariant {run : Tracking → GateId → Tracking}
    (hrun : ∀ {t : Tracking} (g : GateId), P t → P (run t g)) (gates : List GateId)
    (ht : P t) : P (gates.foldl run t) := by
  induction gates generalizing t with
  | nil => exact ht
  | cons g gates ih => exact ih (hrun g ht)

theorem runVmGates_invariant {h : Host}
    (hvm : ∀ {t : Tracking} (g : GateId), P t → P (runVmGate h t g).1)
    (gates : List GateId) (ht : P t) : P (runVmGates h t gates).1 := by
  induction gates generalizing t with
  | nil => exact ht
  | cons g gates ih =>
      rw [runVmGates]
      dsimp only
      split
      · exact ih (hvm g ht)
      · exact hvm g ht

end Invariant

/-- What holds at the start, is kept by the three functions that record, and does not
depend on the failure flags, holds of what a run has tracked. -/
theorem main_invariant {P : Tracking → Prop} (flags : Flags) (h : Host) (hstart : P .start)
    (hflags : ∀ {t t' : Tracking}, P t → t.SameRecord t' → P t')
    (hcheck : ∀ {t : Tracking} (g : GateId), P t → P (runCheck h.world t g).1)
    (hskip : ∀ {t : Tracking} (g : GateId), P t → P (skipGate t g))
    (hvm : ∀ {t : Tracking} (g : GateId), P t → P (runVmGate h t g).1) :
    P (main flags h).tracking := by
  have hhost : P (runHostStages flags h.world) := by
    rw [runHostStages]
    apply checkImage_invariant hflags hcheck hskip
    apply foldl_invariant hcheck
    apply foldl_runPhase0Gate_invariant hflags hcheck
    exact checkZenTest_invariant hflags hcheck hstart
  have hstage : P (runVmStage flags h (runHostStages flags h.world)).1 := by
    rw [runVmStage]
    split
    · exact foldl_invariant hskip _ hhost
    · exact runVmGates_invariant hvm _ hhost
  rw [main]
  dsimp only
  split
  · exact hstage
  · split <;> exact hstage

theorem runVmGate_counted (h : Host) (ht : t.Counted) (g : GateId) :
    (runVmGate h t g).1.Counted := by
  obtain ⟨htotal, hfailed⟩ := ht
  rw [runVmGate]
  dsimp only
  split
  · have hpass : Tracking.Counted { t with
        totalGates := t.totalGates + 1, passedGates := t.passedGates + 1 } :=
      ⟨by simp only; omega, hfailed⟩
    exact recordResult_counted hpass ..
  · have hfail : Tracking.Counted { t with
        totalGates := t.totalGates + 1, failedGates := t.failedGates + 1 } :=
      ⟨by simp only; omega, Nat.le_succ_of_le hfailed⟩
    exact recordResult_counted hfail ..

theorem main_counted (flags : Flags) (h : Host) : (main flags h).tracking.Counted := by
  refine main_invariant flags h ⟨rfl, Nat.le_refl _⟩ ?_ (fun g ht => runCheck_counted ht g)
    (fun g ht => recordResult_counted ht ..) fun g ht => runVmGate_counted h ht g
  rintro t t' ht ⟨hresults, htotal, hpassed, hfailed, hskipped⟩
  constructor
  · rw [htotal, hpassed, hfailed, hskipped]
    exact ht.total
  · rw [hresults, hfailed]
    exact ht.failed

/-- The script exits with 0 only if it has recorded no failure. -/
theorem main_exit (flags : Flags) (h : Host) (hexit : (main flags h).exit = 0) :
    ∀ r ∈ (main flags h).tracking.resultsFile, r.status ≠ .fail := by
  have hcounted := (main_counted flags h).failed
  have hfailed : (main flags h).tracking.failedGates = 0 := by
    rw [main] at hexit ⊢
    dsimp only at hexit ⊢
    split at hexit
    · next hstatus => exact absurd hexit hstatus
    · next hstatus =>
        rw [if_neg hstatus]
        split at hexit
        · next hreport => exact absurd hexit hreport
        · next hreport =>
            rw [if_neg hreport]
            by_contra hne
            rw [if_pos (Nat.pos_of_ne_zero hne)] at hexit
            cases hexit
  intro r hr hfail
  rw [hfailed, Nat.le_zero, List.countP_eq_zero] at hcounted
  exact hcounted r hr (decide_eq_true hfail)

end Counters

end ZenOS.QualityGates
