import ZenOS.QualityGates.Verdict

/-!
Whether `main` gets to its end.  Under `set -e` the status with which a function returns
decides about that wherever the function is called as a command of its own.
-/

namespace ZenOS.QualityGates

open ZenOS.Library.Shell

/-- The screenshots directory and the `convert` command, as `convert_screenshots` meets
them. -/
structure Screenshots where
  glob : String → List String
  isFile : String → Bool
  hasConvert : Bool
  convert : String → String → Nat

/-- The `case` of `convert_screenshots`: `name` and `sub_phase`. -/
def screenshotName : GateId → Option (String × String)
  | .p1v01 => some ("1.1-boot-baseline", "0.1")
  | .p1v02 => some ("1.2-surface-protocols", "1.2")
  | .p1v03 => some ("1.3-xdg-shell", "1.3")
  | .p1v04 => some ("1.4-input-routing", "1.4")
  | _ => none

def ppmPattern (subPhase : String) : String :=
  "${SCREENSHOTS_DIR}/" ++ subPhase ++ "-*.ppm"

def pngPath (name : String) : String :=
  "${SCREENSHOTS_DIR}/" ++ name ++ ".png"

/-- One round of the loop.  The last command is `convert ... && echo ...`, inside an
`if` that has no other branch. -/
def convertOne (d : Screenshots) (png ppm : String) : Nat :=
  if d.isFile ppm then if d.hasConvert then d.convert ppm png else 0
  else 0

/-- A `for` loop returns the status of its last round. -/
def convertAll (d : Screenshots) (png : String) (ppms : List String) : Nat :=
  ppms.foldl (fun _ ppm => convertOne d png ppm) 0

/-- The status of `convert_screenshots`. -/
def convertScreenshots (d : Screenshots) (gate : GateId) : Nat :=
  match screenshotName gate with
  | none => 0
  | some (name, subPhase) => convertAll d (pngPath name) (d.glob (ppmPattern subPhase))

/-- The last screenshot of a gate, if it is a file, is converted without an error. -/
def Converts (d : Screenshots) (gate : GateId) : Prop :=
  ∀ name subPhase, screenshotName gate = some (name, subPhase) →
    ∀ ppm ∈ (d.glob (ppmPattern subPhase)).getLast?, d.isFile ppm → d.hasConvert →
      d.convert ppm (pngPath name) = 0

/-- The host of a run.  `generate_report` ends in an `echo`. -/
def scriptHost (W : World Command Variable) (d : Screenshots) : Host :=
  { world := W, convertScreenshots := convertScreenshots d, generateReport := 0 }

theorem convertOne_eq_zero_iff (d : Screenshots) (png ppm : String) :
    convertOne d png ppm = 0 ↔ (d.isFile ppm → d.hasConvert → d.convert ppm png = 0) := by
  rw [convertOne]
  split
  · next hfile => split <;> simp_all
  · next hfile => simp [hfile]

theorem convertAll_eq_zero_iff (d : Screenshots) (png : String) (ppms : List String) :
    convertAll d png ppms = 0 ↔
      ∀ ppm ∈ ppms.getLast?, d.isFile ppm → d.hasConvert → d.convert ppm png = 0 := by
  rcases List.eq_nil_or_concat ppms with rfl | ⟨init, last, rfl⟩
  · simp [convertAll]
  · rw [convertAll, List.concat_eq_append, List.foldl_append, List.getLast?_append]
    simp [convertOne_eq_zero_iff]

theorem convertScreenshots_eq_zero_iff (d : Screenshots) (gate : GateId) :
    convertScreenshots d gate = 0 ↔ Converts d gate := by
  rw [convertScreenshots, Converts]
  split
  · next hname => simp [hname]
  · next name subPhase hname =>
      rw [convertAll_eq_zero_iff]
      constructor
      · intro h name' subPhase' hname'
        obtain ⟨rfl, rfl⟩ : name = name' ∧ subPhase = subPhase' := by
          simpa [hname] using hname'
        exact h
      · intro h
        exact h name subPhase hname

/-- The state that `generate_report` prints, when `main` calls it. -/
def report (flags : Flags) (h : Host) : Option Tracking :=
  let (t, status) := runVmStage flags h (runHostStages flags h.world)
  if status ≠ 0 then none else some t

/-- The command of a gate fails, and it is run at all. -/
def GateFails (flags : Flags) (W : World Command Variable) (g : GateId) : Prop :=
  if g ∈ vmGates then VmRuns flags W ∧ W.status (vmPipeline g).first ≠ 0
  else if g = .imageBuild then
    flags.skipImageBuild = false ∧ checkExitCode W .p002 = 0 ∧ checkExitCode W g ≠ 0
  else checkExitCode W g ≠ 0

/-- A run that gets to its end: a line for each gate of the registries, a report, and an
exit status that tells whether a gate failed. -/
structure Completes (flags : Flags) (h : Host) : Prop where
  lines : ∀ g ∈ phase0Gates ++ phase1HostGates ++ vmGates,
    (main flags h).tracking.resultsFile.countP (·.gate = g) = 1
  reported : report flags h = some (main flags h).tracking
  failed : (main flags h).exit = 1 ↔ ∃ g, GateFails flags h.world g
  passed : (main flags h).exit = 0 ↔ ¬ ∃ g, GateFails flags h.world g

/-- What a VM gate needs to leave the run alone: if they run, the screenshots are
converted, and no gate fails unless one of the host does as well. -/
def VmHarmless (flags : Flags) (W : World Command Variable) (d : Screenshots) : Prop :=
  VmRuns flags W → (∀ g ∈ vmGates, Converts d g) ∧
    ((∀ g ∈ vmGates, W.status (vmPipeline g).first = 0) ∨
      ∃ g ∈ phase0Gates ++ phase1HostGates, checkExitCode W g ≠ 0)

section End

variable (flags : Flags) (h : Host)

theorem runVmGates_status (gates : List GateId) (t : Tracking) :
    (runVmGates h t gates).2 = 0 ↔ ∀ g ∈ gates, h.convertScreenshots g = 0 := by
  induction gates generalizing t with
  | nil => simp [runVmGates]
  | cons g gates ih =>
      have hstatus : (runVmGate h t g).2 = h.convertScreenshots g := by
        simp [runVmGate, vmExitCode_eq_zero]
      rw [runVmGates, List.forall_mem_cons]
      dsimp only
      rw [hstatus]
      split
      · next hzero => rw [ih, and_iff_right hzero]
      · next hzero => exact iff_of_false hzero fun hall => hzero hall.1

theorem runVmStage_status :
    (runVmStage flags h (runHostStages flags h.world)).2 = 0 ↔
      (VmRuns flags h.world → ∀ g ∈ vmGates, h.convertScreenshots g = 0) := by
  rw [vmRuns_iff, runVmStage]
  split
  · next hskip => simp [hskip]
  · next hskip =>
      rw [runVmGates_status]
      simp [Bool.eq_false_iff.mpr hskip]

theorem report_eq_some_iff :
    report flags h = some (main flags h).tracking ↔
      (VmRuns flags h.world → ∀ g ∈ vmGates, h.convertScreenshots g = 0) := by
  rw [← runVmStage_status, report, main]
  dsimp only
  split
  · next hstatus => simp [hstatus]
  · next hstatus =>
      refine iff_of_true ?_ (not_not.mp hstatus)
      split <;> rfl

theorem reached_eq_self {convertScreenshots : GateId → Nat} {gates : List GateId}
    (hall : ∀ g ∈ gates, convertScreenshots g = 0) :
    reached convertScreenshots gates = gates := by
  induction gates with
  | nil => rfl
  | cons g gates ih =>
      rw [List.forall_mem_cons] at hall
      rw [reached, if_pos hall.1, ih hall.2]

theorem main_failedGates :
    (main flags h).tracking.failedGates =
      (main flags h).tracking.resultsFile.countP (·.status = .fail) := by
  have hrecord : ∀ {t : Tracking} (g : GateId) (status : GateStatus) (exitCode : Option Nat),
      t.failedGates = t.resultsFile.countP (·.status = .fail) →
      (recordResult t g status exitCode).failedGates =
        (recordResult t g status exitCode).resultsFile.countP (·.status = .fail) := by
    intro t g status exitCode ht
    rw [recordResult]
    cases status <;> simp [ht]
  refine main_invariant (P := fun t => t.failedGates = t.resultsFile.countP (·.status = .fail))
    flags h rfl ?_ ?_ (fun g ht => hrecord g .skip none ht) ?_
  · rintro t t' ht ⟨hresults, -, -, hfailed, -⟩
    rw [hresults, hfailed, ht]
  · intro t g ht
    rw [runCheck]
    split <;> exact hrecord g _ _ ht
  · intro t g ht
    rw [runVmGate]
    dsimp only
    rw [if_pos (vmExitCode_eq_zero g)]
    exact hrecord g .pass _ ht

theorem main_gates :
    (main flags h).tracking.resultsFile.map (·.gate) =
      GateId.zenTest :: phase0Gates ++ phase1HostGates ++
        (if flags.skipImageBuild then [] else [.imageBuild]) ++
        (vmResults flags h (runHostStages flags h.world)).map (·.gate) := by
  have hcheck : ∀ gates : List GateId,
      (gates.map (checkResult h.world)).map (·.gate) = gates := by
    intro gates
    rw [List.map_map]
    exact List.map_id' gates
  have himage : ∀ compileFailed,
      (imageResults flags h.world compileFailed).map (·.gate) =
        if flags.skipImageBuild then [] else [.imageBuild] := by
    intro compileFailed
    rw [imageResults]
    split
    · rfl
    · split <;> rfl
  rw [main_resultsFile, (runHostStages_eq flags).1, List.map_append, List.map_append,
    hcheck, himage]

theorem vmResults_gates (hconvert : VmRuns flags h.world →
    ∀ g ∈ vmGates, h.convertScreenshots g = 0) :
    (vmResults flags h (runHostStages flags h.world)).map (·.gate) = vmGates := by
  rw [vmRuns_iff] at hconvert
  rw [vmResults]
  split
  · rfl
  · next hskip =>
      rw [reached_eq_self (hconvert (Bool.eq_false_iff.mpr hskip)), List.map_map]
      exact List.map_id' vmGates

theorem vmResults_not_fail {r : GateResult}
    (hr : r ∈ vmResults flags h (runHostStages flags h.world)) : r.status ≠ .fail := by
  rw [vmResults] at hr
  split at hr
  · obtain ⟨g, -, rfl⟩ := List.mem_map.mp hr
    rintro ⟨⟩
  · obtain ⟨g, -, rfl⟩ := List.mem_map.mp hr
    rintro ⟨⟩

theorem checkResult_fail_iff (W : World Command Variable) (g : GateId) :
    (checkResult W g).status = .fail ↔ checkExitCode W g ≠ 0 := by
  rw [checkResult]
  split
  · next hzero => exact iff_of_false (by simp) (not_not.mpr hzero)
  · next hzero => exact iff_of_true rfl hzero

theorem mem_hostGates_iff {g : GateId} :
    g ∈ GateId.zenTest :: phase0Gates ++ phase1HostGates ↔ g ∉ vmGates ∧ g ≠ .imageBuild := by
  cases g <;> decide

theorem imageResults_fail_iff (W : World Command Variable) :
    (∃ r ∈ imageResults flags W (decide (checkExitCode W .p002 ≠ 0)), r.status = .fail) ↔
      GateFails flags W .imageBuild := by
  rw [GateFails, if_neg (by decide), if_pos rfl, imageResults]
  rcases flags.skipImageBuild with _ | _
  · rcases eq_or_ne (checkExitCode W .p002) 0 with hcompile | hcompile
    · simp [hcompile, checkResult_fail_iff]
    · simp [hcompile, skipResult]
  · simp

theorem main_failedGates_pos_iff :
    0 < (main flags h).tracking.failedGates ↔
      ∃ g, g ∉ vmGates ∧ GateFails flags h.world g := by
  have himage := imageResults_fail_iff flags h.world
  rw [main_failedGates, List.countP_pos_iff, main_resultsFile, (runHostStages_eq flags).1]
  constructor
  · rintro ⟨r, hr, hfail⟩
    have hfail : r.status = .fail := of_decide_eq_true hfail
    rcases List.mem_append.mp hr with hr | hr
    · rcases List.mem_append.mp hr with hr | hr
      · obtain ⟨g, hg, rfl⟩ := List.mem_map.mp hr
        have hhost := mem_hostGates_iff.mp hg
        refine ⟨g, hhost.1, ?_⟩
        rw [GateFails, if_neg hhost.1, if_neg hhost.2]
        exact (checkResult_fail_iff _ _).mp hfail
      · exact ⟨.imageBuild, by decide, himage.mp ⟨r, hr, hfail⟩⟩
    · exact absurd hfail (vmResults_not_fail flags h hr)
  · rintro ⟨g, hvm, hfail⟩
    rcases eq_or_ne g .imageBuild with rfl | hne
    · obtain ⟨r, hr, hstatus⟩ := himage.mpr hfail
      refine ⟨r, ?_, decide_eq_true hstatus⟩
      exact List.mem_append_left _ (List.mem_append_right _ hr)
    · rw [GateFails, if_neg hvm, if_neg hne] at hfail
      refine ⟨checkResult h.world g, ?_, decide_eq_true ((checkResult_fail_iff _ _).mpr hfail)⟩
      apply List.mem_append_left
      apply List.mem_append_left
      exact List.mem_map_of_mem (mem_hostGates_iff.mpr ⟨hvm, hne⟩)

theorem main_exit_eq (hreport : h.generateReport = 0)
    (hconvert : VmRuns flags h.world → ∀ g ∈ vmGates, h.convertScreenshots g = 0) :
    (main flags h).exit = if 0 < (main flags h).tracking.failedGates then 1 else 0 := by
  have hstatus := (runVmStage_status flags h).mpr hconvert
  have hmain : main flags h =
      ⟨(runVmStage flags h (runHostStages flags h.world)).1,
        if 0 < (runVmStage flags h (runHostStages flags h.world)).1.failedGates
          then 1 else 0⟩ := by
    rw [main]
    dsimp only
    rw [if_neg (not_not.mpr hstatus), if_neg (not_not.mpr hreport)]
  rw [hmain]

theorem main_lines (hconvert : VmRuns flags h.world →
    ∀ g ∈ vmGates, h.convertScreenshots g = 0) {g : GateId}
    (hg : g ∈ phase0Gates ++ phase1HostGates ++ vmGates) :
    (main flags h).tracking.resultsFile.countP (·.gate = g) = 1 := by
  have hcount : (main flags h).tracking.resultsFile.countP (·.gate = g) =
      ((main flags h).tracking.resultsFile.map (·.gate)).count g := by
    rw [List.count, List.countP_map]
    apply List.countP_congr
    intro r _
    simp
  rw [hcount, main_gates, vmResults_gates flags h hconvert]
  rcases flags.skipImageBuild with _ | _
  · cases g <;> rfl
  · cases g <;> first | rfl | exact absurd hg (by decide)

end End

theorem hostGate_of_gateFails {flags : Flags} {W : World Command Variable} {g : GateId}
    (hruns : VmRuns flags W) (hvm : g ∉ vmGates) (hfail : GateFails flags W g) :
    g ∈ phase0Gates ++ phase1HostGates ∧ checkExitCode W g ≠ 0 := by
  obtain ⟨-, -, hzen, -, himage⟩ := hruns
  rw [GateFails, if_neg hvm] at hfail
  split at hfail
  · next hg =>
      subst hg
      exact absurd (imageBuild_exitCode_iff.mpr himage) hfail.2.2
  · next hg =>
      have hmem := mem_hostGates_iff.mpr ⟨hvm, hg⟩
      rcases List.mem_cons.mp hmem with rfl | hmem
      · exact absurd (zenTest_exitCode_iff.mpr hzen) hfail
      · exact ⟨hmem, hfail⟩

theorem gateFails_of_hostGate {flags : Flags} {W : World Command Variable} {g : GateId}
    (hg : g ∈ phase0Gates ++ phase1HostGates) (hfail : checkExitCode W g ≠ 0) :
    g ∉ vmGates ∧ GateFails flags W g := by
  have hhost := mem_hostGates_iff.mp (List.mem_cons_of_mem .zenTest hg)
  refine ⟨hhost.1, ?_⟩
  rwa [GateFails, if_neg hhost.1, if_neg hhost.2]

/-- A run of `main` gets to its end, with an exit status that tells, exactly when the VM
gates are harmless: `convert_screenshots` ends in the status of `convert`, at which
`set -e` stops the script, and `run_vm_gate` never sees that zen-test fails. -/
theorem main_completes_iff (flags : Flags) (W : World Command Variable) (d : Screenshots) :
    Completes flags (scriptHost W d) ↔ VmHarmless flags W d := by
  have hconverts : (VmRuns flags W → ∀ g ∈ vmGates, convertScreenshots d g = 0) ↔
      (VmRuns flags W → ∀ g ∈ vmGates, Converts d g) := by
    simp only [convertScreenshots_eq_zero_iff]
  have hpos := main_failedGates_pos_iff flags (scriptHost W d)
  constructor
  · intro hcompletes hruns
    have hconvert := (report_eq_some_iff flags _).mp hcompletes.reported
    refine ⟨hconverts.mp hconvert hruns, ?_⟩
    by_contra hnot
    rw [not_or] at hnot
    obtain ⟨hzen, hhost⟩ := hnot
    have hfails : ∃ g, GateFails flags W g := by
      by_contra hnone
      refine hzen fun g hg => ?_
      by_contra hstatus
      exact hnone ⟨g, by rw [GateFails, if_pos hg]; exact ⟨hruns, hstatus⟩⟩
    have hexit := main_exit_eq flags (scriptHost W d) rfl hconvert
    rw [hcompletes.failed.mpr hfails] at hexit
    have hcounted : 0 < (main flags (scriptHost W d)).tracking.failedGates := by
      by_contra hzero
      rw [if_neg hzero] at hexit
      cases hexit
    obtain ⟨g, hvm, hfail⟩ := hpos.mp hcounted
    obtain ⟨hmem, hcheck⟩ := hostGate_of_gateFails hruns hvm hfail
    exact hhost ⟨g, hmem, hcheck⟩
  · intro hharmless
    have hconvert := hconverts.mpr fun hruns => (hharmless hruns).1
    have hfails : (∃ g, GateFails flags W g) ↔ ∃ g, g ∉ vmGates ∧ GateFails flags W g := by
      refine ⟨fun ⟨g, hfail⟩ => ?_, fun ⟨g, _, hfail⟩ => ⟨g, hfail⟩⟩
      by_cases hvm : g ∈ vmGates
      · rw [GateFails, if_pos hvm] at hfail
        rcases (hharmless hfail.1).2 with hzen | ⟨g', hmem, hcheck⟩
        · exact absurd (hzen g hvm) hfail.2
        · exact ⟨g', gateFails_of_hostGate hmem hcheck⟩
      · exact ⟨g, hvm, hfail⟩
    have hexit := main_exit_eq flags (scriptHost W d) rfl hconvert
    have hfailed := hpos.trans hfails.symm
    constructor
    · exact fun g hg => main_lines flags _ hconvert hg
    · exact (report_eq_some_iff flags _).mpr hconvert
    · refine Iff.trans ?_ hfailed
      rw [hexit]
      split <;> simp_all
    · refine Iff.trans ?_ (not_congr hfailed)
      rw [hexit]
      split <;> simp_all

/-- The screenshot of the first VM gate cannot be converted: the other three VM gates are
not recorded, there is no report, and the exit status is that of `convert`. -/
theorem failed_conversion_aborts :
    let W : World Command Variable :=
      { status := fun _ => 0, printed := fun _ => some 1000, environment := fun _ => none }
    let d : Screenshots :=
      { glob := fun pattern => if pattern = ppmPattern "0.1" then ["0.1-gate-check.ppm"] else []
        isFile := fun _ => true
        hasConvert := true
        convert := fun _ _ => 2 }
    let o := main ⟨false, false⟩ (scriptHost W d)
    o.exit = 2 ∧ o.tracking.resultsFile.countP (·.gate = .p1v02) = 0 ∧
      report ⟨false, false⟩ (scriptHost W d) = none ∧
      ¬ Completes ⟨false, false⟩ (scriptHost W d) := by
  intro W d o
  have hline : o.tracking.resultsFile.countP (·.gate = .p1v02) = 0 := by decide +kernel
  have hreport : report ⟨false, false⟩ (scriptHost W d) = none := by rfl
  refine ⟨by decide +kernel, hline, hreport, fun hcompletes => ?_⟩
  have hone := hcompletes.lines .p1v02 (by decide)
  rw [hline] at hone
  cases hone

end ZenOS.QualityGates
