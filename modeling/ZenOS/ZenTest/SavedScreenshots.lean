import ZenOS.ZenTest.Runner
import ZenOS.ZenTest.VmPaths

/-!
The screenshots that gates leave in one directory: the screenshot assertions of
`run_gate_inner`, the copies at its end, and the removal of the VM in `run_gate`.
-/

namespace ZenOS.ZenTest.SavedScreenshots

open ZenOS.Library.Paths

abbrev Image := List UInt8

/-- The files that hold an image as a whole. -/
abbrev Images := Place Text → Option Image

/-- The file to which every screenshot assertion captures. -/
def gateCheck : Text :=
  "gate-check.ppm".toList

/-- How `std::fs::copy` ends.  A copy that fails may have cut off the file that was there. -/
inductive Copy where
  | copied
  | failed (damaged : Bool)
  deriving DecidableEq

/-- A gate with what it meets when it is run. -/
structure GateRun where
  spec : GateSpec
  guest : Guest
  -- the image that a capture has put in its place, if it succeeds
  image : Nat → Image
  -- the screenshot assertions that have been evaluated when the time runs out
  evaluatedInTime : Nat
  -- whether the screenshots of the VM can be listed
  listed : Bool
  copy : Copy
  -- whether `vm_destroy` removes the directory of the VM
  destroyed : Bool

/-- The result of a gate, with its screenshots, and what its assertions have evaluated. -/
structure Outcome where
  result : GateResult
  screenshots : List Text
  evaluated : List (Nat × Image)

/-- What `gate-check.ppm` holds, and the screenshots that have been evaluated. -/
structure Captures where
  file : Option Image
  evaluated : List (Nat × Image)

namespace GateRun

variable (run : GateRun)

/-- How many screenshot assertions the gate gets to. -/
def reached : Nat :=
  if run.guest.timedOut then min run.evaluatedInTime run.spec.assert.screenshot.length
  else if run.guest.failure.isSome then 0
  else run.spec.assert.screenshot.length

def evaluateScreenshot (captures : Captures) (i : Nat) : Captures :=
  match run.guest.capture i with
  | .ok _ =>
      { file := some (run.image i)
        evaluated := captures.evaluated ++ [(i, run.image i)] }
  | .error _ => captures

def captures : Captures :=
  (List.range run.reached).foldl run.evaluateScreenshot { file := none, evaluated := [] }

/-- The entries of the screenshots directory.  What a capture that fails may leave there has
another extension. -/
def entries : List (Text × Image) :=
  run.captures.file.toList.map (gateCheck, ·)

def subPhase : Text :=
  run.spec.gate.subPhase.toList

def fileName (entry : Text) : Text :=
  run.subPhase ++ '-' :: (entry ++ ".ppm".toList)

def completes : Bool :=
  !run.guest.timedOut && run.guest.failure.isNone

variable (zenTestDir : Option VmDir) (cwd : Place Text) (outDir : Text)

def saveScreenshot (saved : Images × List Text) (entry : Text × Image) : Images × List Text :=
  if extension (.ofList entry.1) = some "ppm" then
    let dst := join outDir (run.fileName entry.1)
    match run.copy with
    | .copied => (Function.update saved.1 (placeOf cwd dst) (some entry.2), saved.2 ++ [dst])
    | .failed true => (Function.update saved.1 (placeOf cwd dst) none, saved.2)
    | .failed false => saved
  else saved

def saveScreenshots (images : Images) : Images × List Text :=
  if run.listed then run.entries.foldl (run.saveScreenshot cwd outDir) (images, [])
  else (images, [])

/-- The directory of the VM. -/
def vmDir : Place Text :=
  placeOf cwd (VmPaths.new zenTestDir (gateVmName run.spec.gate.phase.toList run.subPhase)).dir

def destroyVm (images : Images) : Images := fun p =>
  if run.destroyed && (run.vmDir zenTestDir cwd).isPrefixOf p then none else images p

def runGateInto (images : Images) : Images × Outcome :=
  let (images, screenshots) :=
    if run.completes then run.saveScreenshots cwd outDir images else (images, [])
  (run.destroyVm zenTestDir cwd images,
    { result := runGate run.spec run.guest, screenshots, evaluated := run.captures.evaluated })

end GateRun

section Runs

variable (zenTestDir : Option VmDir) (cwd : Place Text) (outDir : Text)

def runGatesInto : List GateRun → Images → Images × List Outcome
  | [], images => (images, [])
  | run :: runs, images =>
      let (images, outcome) := run.runGateInto zenTestDir cwd outDir images
      let (images, outcomes) := runGatesInto runs images
      (images, outcome :: outcomes)

/-- A screenshot that the assertion `j` of the gate `i` has evaluated. -/
def Evaluated (outcomes : List Outcome) (i j : Nat) (image : Image) : Prop :=
  ∃ outcome, outcomes[i]? = some outcome ∧ (j, image) ∈ outcome.evaluated

def Listed (outcomes : List Outcome) (i : Nat) (path : Text) : Prop :=
  ∃ outcome, outcomes[i]? = some outcome ∧ path ∈ outcome.screenshots

/-- Each screenshot that has been evaluated is there afterwards, in a file of its own which
the result of its gate lists. -/
def Preserved (runs : List GateRun) (images : Images) : Prop :=
  let (images, outcomes) := runGatesInto zenTestDir cwd outDir runs images
  ∃ path : Nat → Nat → Text,
    (∀ i j image, Evaluated outcomes i j image →
      Listed outcomes i (path i j) ∧ images (placeOf cwd (path i j)) = some image) ∧
    ∀ i j image i' j' image', Evaluated outcomes i j image → Evaluated outcomes i' j' image' →
      placeOf cwd (path i j) = placeOf cwd (path i' j') → i = i' ∧ j = j'

def GateRun.succeeds (run : GateRun) (i : Nat) : Bool :=
  (run.guest.capture i).isOk

/-- The screenshot assertions that the gate gets to and whose capture succeeds. -/
def GateRun.captured (run : GateRun) : List Nat :=
  (List.range run.reached).filter run.succeeds

/-- Where the copy goes. -/
def GateRun.path (run : GateRun) : Text :=
  join outDir (run.fileName gateCheck)

def GateRun.place (run : GateRun) : Place Text :=
  placeOf cwd (run.path outDir)

def GateRun.Removes (run : GateRun) (p : Place Text) : Prop :=
  run.destroyed = true ∧ run.vmDir zenTestDir cwd <+: p

/-- One screenshot is captured, the gate is not cut off after it, the copy succeeds, and it is
not below the directory of the VM. -/
structure GateRun.Keeps (run : GateRun) : Prop where
  single : run.captured.length = 1
  completes : run.completes = true
  listed : run.listed = true
  copied : run.copy = .copied
  outside : ¬ run.Removes zenTestDir cwd (run.place cwd outDir)

/-- The later of two gates neither overwrites nor removes the copy of the earlier one. -/
structure GateRun.Apart (run run' : GateRun) : Prop where
  place_ne : run'.captured ≠ [] → run'.place cwd outDir ≠ run.place cwd outDir
  outside : ¬ run'.Removes zenTestDir cwd (run.place cwd outDir)

structure KeptApart (runs : List GateRun) : Prop where
  keeps : ∀ run ∈ runs, run.captured ≠ [] → run.Keeps zenTestDir cwd outDir
  apart : runs.Pairwise fun run run' =>
    run.captured ≠ [] → run.Apart zenTestDir cwd outDir run'

end Runs

section Gate

variable (run : GateRun) (zenTestDir : Option VmDir) (cwd : Place Text) (outDir : Text)

theorem foldl_evaluateScreenshot (is : List Nat) (captures : Captures) :
    is.foldl run.evaluateScreenshot captures =
      { file := ((is.filter run.succeeds).getLast?.map run.image).or captures.file
        evaluated := captures.evaluated ++
          (is.filter run.succeeds).map fun i => (i, run.image i) } := by
  induction is generalizing captures with
  | nil => simp
  | cons i is ih =>
      rw [List.foldl_cons, ih, GateRun.evaluateScreenshot]
      rcases hcapture : run.guest.capture i with e | info
      · have hfails : ¬ run.succeeds i = true := by
          rw [GateRun.succeeds, hcapture]
          nofun
        rw [List.filter_cons_of_neg hfails]
      · have hsucceeds : run.succeeds i = true := by
          rw [GateRun.succeeds, hcapture]
          rfl
        rw [List.filter_cons_of_pos hsucceeds]
        rcases is.filter run.succeeds with _ | ⟨j, js⟩
        · simp
        · simp [List.getLast?_cons]

theorem captures_eq :
    run.captures =
      { file := run.captured.getLast?.map run.image
        evaluated := run.captured.map fun i => (i, run.image i) } := by
  rw [GateRun.captures, foldl_evaluateScreenshot, Option.or_none, List.nil_append]
  rfl

theorem captured_nodup : run.captured.Nodup :=
  List.nodup_range.filter _

/-- The gate lists a copy. -/
def GateRun.Saves (run : GateRun) : Prop :=
  run.captured ≠ [] ∧ run.completes = true ∧ run.listed = true ∧ run.copy = .copied

theorem extension_gateCheck : extension (.ofList gateCheck) = some "ppm" := by
  decide +kernel

theorem saveScreenshot_gateCheck (images : Images) (image : Image) :
    run.saveScreenshot cwd outDir (images, []) (gateCheck, image) =
      match run.copy with
      | .copied =>
          (Function.update images (run.place cwd outDir) (some image), [run.path outDir])
      | .failed true => (Function.update images (run.place cwd outDir) none, [])
      | .failed false => (images, []) := by
  rw [GateRun.saveScreenshot]
  dsimp only
  rw [if_pos extension_gateCheck]
  rfl

theorem saveScreenshots_of_captured (h : run.captured ≠ []) (hlisted : run.listed = true)
    (images : Images) :
    run.saveScreenshots cwd outDir images =
      run.saveScreenshot cwd outDir (images, [])
        (gateCheck, run.image (run.captured.getLast h)) := by
  rw [GateRun.saveScreenshots, if_pos hlisted, GateRun.entries, captures_eq,
    List.getLast?_eq_some_getLast h]
  rfl

theorem saveScreenshots_of_none (h : ¬(run.listed = true ∧ run.captured ≠ []))
    (images : Images) : run.saveScreenshots cwd outDir images = (images, []) := by
  rw [GateRun.saveScreenshots]
  split
  · next hlisted =>
      have hnone : run.captured = [] := not_not.mp fun hcaptured => h ⟨hlisted, hcaptured⟩
      rw [GateRun.entries, captures_eq, hnone]
      rfl
  · rfl

theorem mem_screenshots_iff (images : Images) {path : Text} :
    path ∈ (run.runGateInto zenTestDir cwd outDir images).2.screenshots ↔
      run.Saves ∧ path = run.path outDir := by
  change path ∈ (if run.completes = true then run.saveScreenshots cwd outDir images
    else (images, [])).2 ↔ _
  by_cases h : run.listed = true ∧ run.captured ≠ []
  · rw [saveScreenshots_of_captured run cwd outDir h.2 h.1, saveScreenshot_gateCheck]
    rcases hcompletes : run.completes with _ | _ <;> rcases hcopy : run.copy with _ | _ | _ <;>
      simp [GateRun.Saves, h, hcompletes, hcopy]
  · rw [saveScreenshots_of_none run cwd outDir h]
    have hsaves : ¬ run.Saves := fun hsaves => h ⟨hsaves.2.2.1, hsaves.1⟩
    simp [hsaves]

theorem evaluated_eq (images : Images) :
    (run.runGateInto zenTestDir cwd outDir images).2.evaluated =
      run.captured.map fun i => (i, run.image i) :=
  congrArg Captures.evaluated (captures_eq run)

theorem runGateInto_of_removes (images : Images) {p : Place Text}
    (h : run.Removes zenTestDir cwd p) :
    (run.runGateInto zenTestDir cwd outDir images).1 p = none := by
  refine if_pos ?_
  rw [Bool.and_eq_true, List.isPrefixOf_iff_prefix]
  exact h

theorem runGateInto_of_outside (images : Images) {p : Place Text}
    (h : ¬ run.Removes zenTestDir cwd p) :
    (run.runGateInto zenTestDir cwd outDir images).1 p =
      (if run.completes = true then run.saveScreenshots cwd outDir images
        else (images, [])).1 p := by
  refine if_neg ?_
  rw [Bool.and_eq_true, List.isPrefixOf_iff_prefix]
  exact h

theorem saveScreenshots_of_ne (images : Images) {p : Place Text}
    (h : run.captured ≠ [] → run.place cwd outDir ≠ p) :
    (run.saveScreenshots cwd outDir images).1 p = images p := by
  by_cases hcopies : run.listed = true ∧ run.captured ≠ []
  · have hne : p ≠ run.place cwd outDir := (h hcopies.2).symm
    rw [saveScreenshots_of_captured run cwd outDir hcopies.2 hcopies.1, saveScreenshot_gateCheck]
    rcases run.copy with _ | _ | _
    · exact Function.update_of_ne hne ..
    · rfl
    · exact Function.update_of_ne hne ..
  · rw [saveScreenshots_of_none run cwd outDir hcopies]

theorem runGateInto_of_ne (images : Images) {p : Place Text}
    (hne : run.captured ≠ [] → run.place cwd outDir ≠ p) (h : ¬ run.Removes zenTestDir cwd p) :
    (run.runGateInto zenTestDir cwd outDir images).1 p = images p := by
  rw [runGateInto_of_outside run zenTestDir cwd outDir images h]
  split
  · exact saveScreenshots_of_ne run cwd outDir images hne
  · rfl

theorem runGateInto_place (hsaves : run.Saves) (images : Images)
    (h : ¬ run.Removes zenTestDir cwd (run.place cwd outDir)) :
    (run.runGateInto zenTestDir cwd outDir images).1 (run.place cwd outDir) =
      run.captured.getLast?.map run.image := by
  obtain ⟨hcaptured, hcompletes, hlisted, hcopy⟩ := hsaves
  rw [runGateInto_of_outside run zenTestDir cwd outDir images h, if_pos hcompletes,
    saveScreenshots_of_captured run cwd outDir hcaptured hlisted, saveScreenshot_gateCheck, hcopy,
    List.getLast?_eq_some_getLast hcaptured]
  exact Function.update_self ..

end Gate

section Runs

variable (zenTestDir : Option VmDir) (cwd : Place Text) (outDir : Text)

theorem runGatesInto_append (runs runs' : List GateRun) (images : Images) :
    (runGatesInto zenTestDir cwd outDir (runs ++ runs') images).1 =
      (runGatesInto zenTestDir cwd outDir runs'
        (runGatesInto zenTestDir cwd outDir runs images).1).1 := by
  induction runs generalizing images with
  | nil => rfl
  | cons run runs ih => exact ih _

theorem runGatesInto_of_none {runs : List GateRun} {images : Images} {p : Place Text}
    (hne : ∀ run ∈ runs, run.captured ≠ [] → run.place cwd outDir ≠ p) (h : images p = none) :
    (runGatesInto zenTestDir cwd outDir runs images).1 p = none := by
  induction runs generalizing images with
  | nil => exact h
  | cons run runs ih =>
      obtain ⟨hrun, hruns⟩ := List.forall_mem_cons.mp hne
      refine ih hruns ?_
      by_cases hremoves : run.Removes zenTestDir cwd p
      · exact runGateInto_of_removes run zenTestDir cwd outDir images hremoves
      · exact (runGateInto_of_ne run zenTestDir cwd outDir images hrun hremoves).trans h

theorem runGatesInto_of_ne {runs : List GateRun} {images : Images} {p : Place Text}
    (hne : ∀ run ∈ runs, run.captured ≠ [] → run.place cwd outDir ≠ p)
    (h : ∀ run ∈ runs, ¬ run.Removes zenTestDir cwd p) :
    (runGatesInto zenTestDir cwd outDir runs images).1 p = images p := by
  induction runs generalizing images with
  | nil => rfl
  | cons run runs ih =>
      obtain ⟨hrun, hruns⟩ := List.forall_mem_cons.mp hne
      obtain ⟨hremoves, hrest⟩ := List.forall_mem_cons.mp h
      exact (ih hruns hrest).trans
        (runGateInto_of_ne run zenTestDir cwd outDir images hrun hremoves)

theorem exists_outcome_iff {P : GateRun → Prop} {Q : Outcome → Prop}
    (h : ∀ run images, Q (run.runGateInto zenTestDir cwd outDir images).2 ↔ P run)
    (runs : List GateRun) (images : Images) (i : Nat) :
    (∃ outcome, (runGatesInto zenTestDir cwd outDir runs images).2[i]? = some outcome ∧
        Q outcome) ↔
      ∃ run, runs[i]? = some run ∧ P run := by
  induction runs generalizing images i with
  | nil => simp [runGatesInto]
  | cons run runs ih =>
      rw [runGatesInto]
      cases i with
      | zero => simp [h]
      | succ i => exact ih _ i

theorem listed_iff (runs : List GateRun) (images : Images) (i : Nat) (path : Text) :
    Listed (runGatesInto zenTestDir cwd outDir runs images).2 i path ↔
      ∃ run, runs[i]? = some run ∧ run.Saves ∧ path = run.path outDir :=
  exists_outcome_iff zenTestDir cwd outDir
    (fun run images => mem_screenshots_iff run zenTestDir cwd outDir images) runs images i

theorem evaluated_iff (runs : List GateRun) (images : Images) (i j : Nat) (image : Image) :
    Evaluated (runGatesInto zenTestDir cwd outDir runs images).2 i j image ↔
      ∃ run, runs[i]? = some run ∧ j ∈ run.captured ∧ run.image j = image := by
  refine exists_outcome_iff zenTestDir cwd outDir (fun run images => ?_) runs images i
  rw [evaluated_eq]
  simp

end Runs

section Preservation

variable {zenTestDir : Option VmDir} {cwd : Place Text} {outDir : Text} {runs : List GateRun}
  {images : Images}

theorem exists_split {i : Nat} {run : GateRun} (h : runs[i]? = some run) :
    ∃ before after, runs = before ++ run :: after ∧
      ∀ run' ∈ after, ∃ k, i < k ∧ runs[k]? = some run' := by
  obtain ⟨hi, hrun⟩ := List.getElem?_eq_some_iff.mp h
  refine ⟨runs.take i, runs.drop (i + 1), ?_, fun run' hrun' => ?_⟩
  · rw [← hrun, List.getElem_cons_drop, List.take_append_drop]
  · obtain ⟨k, hk⟩ := List.mem_iff_getElem?.mp hrun'
    exact ⟨i + 1 + k, by omega, by rw [← List.getElem?_drop, hk]⟩

theorem runGatesInto_split {before after : List GateRun} {run : GateRun} (p : Place Text) :
    (runGatesInto zenTestDir cwd outDir (before ++ run :: after) images).1 p =
      (runGatesInto zenTestDir cwd outDir after
        (run.runGateInto zenTestDir cwd outDir
          (runGatesInto zenTestDir cwd outDir before images).1).1).1 p := by
  rw [runGatesInto_append]
  rfl

theorem none_of_removes {i : Nat} {run : GateRun} {p : Place Text} (hrun : runs[i]? = some run)
    (hremoves : run.Removes zenTestDir cwd p)
    (hlater : ∀ k run', i < k → runs[k]? = some run' → run'.captured ≠ [] →
      run'.place cwd outDir ≠ p) :
    (runGatesInto zenTestDir cwd outDir runs images).1 p = none := by
  obtain ⟨before, after, hsplit, hafter⟩ := exists_split hrun
  rw [hsplit, runGatesInto_split]
  refine runGatesInto_of_none zenTestDir cwd outDir (fun run' hrun' => ?_)
    (runGateInto_of_removes run zenTestDir cwd outDir _ hremoves)
  obtain ⟨k, hk, hget⟩ := hafter run' hrun'
  exact hlater k run' hk hget

theorem place_of_apart {i : Nat} {run : GateRun} (hrun : runs[i]? = some run)
    (hsaves : run.Saves) (houtside : ¬ run.Removes zenTestDir cwd (run.place cwd outDir))
    (hlater : ∀ k run', i < k → runs[k]? = some run' → run.Apart zenTestDir cwd outDir run') :
    (runGatesInto zenTestDir cwd outDir runs images).1 (run.place cwd outDir) =
      run.captured.getLast?.map run.image := by
  obtain ⟨before, after, hsplit, hafter⟩ := exists_split hrun
  have happart : ∀ run' ∈ after, run.Apart zenTestDir cwd outDir run' := by
    intro run' hrun'
    obtain ⟨k, hk, hget⟩ := hafter run' hrun'
    exact hlater k run' hk hget
  rw [hsplit, runGatesInto_split, runGatesInto_of_ne zenTestDir cwd outDir
    (fun run' hrun' => (happart run' hrun').place_ne)
    fun run' hrun' => (happart run' hrun').outside]
  exact runGateInto_place run zenTestDir cwd outDir hsaves _ houtside

theorem GateRun.Keeps.captured_eq {run : GateRun} (h : run.Keeps zenTestDir cwd outDir) {j : Nat}
    (hj : j ∈ run.captured) : run.captured = [j] := by
  obtain ⟨i, hi⟩ := List.length_eq_one_iff.mp h.single
  rw [hi] at hj ⊢
  rw [List.mem_singleton.mp hj]

theorem KeptApart.apart_of_lt (h : KeptApart zenTestDir cwd outDir runs) {i k : Nat}
    {run run' : GateRun} (hrun : runs[i]? = some run) (hrun' : runs[k]? = some run')
    (hlt : i < k) (hcaptured : run.captured ≠ []) : run.Apart zenTestDir cwd outDir run' := by
  obtain ⟨hi, rfl⟩ := List.getElem?_eq_some_iff.mp hrun
  obtain ⟨hk, rfl⟩ := List.getElem?_eq_some_iff.mp hrun'
  exact List.pairwise_iff_getElem.mp h.apart i k hi hk hlt hcaptured

theorem preserved_of_keptApart (h : KeptApart zenTestDir cwd outDir runs) :
    Preserved zenTestDir cwd outDir runs images := by
  obtain ⟨path, hpath⟩ : ∃ path : Nat → Nat → Text, ∀ {i : Nat} {run : GateRun} (j : Nat),
      runs[i]? = some run → path i j = run.path outDir := by
    refine ⟨fun i _ => (runs[i]?.map (GateRun.path outDir)).getD [], fun {i run} _ hrun => ?_⟩
    dsimp only
    rw [hrun]
    rfl
  refine ⟨path, fun i j image hevaluated => ?_,
    fun i j image i' j' image' hevaluated hevaluated' heq => ?_⟩
  · obtain ⟨run, hrun, hj, himage⟩ := (evaluated_iff ..).mp hevaluated
    have hcaptured := List.ne_nil_of_mem hj
    have hkeeps := h.keeps run (List.mem_of_getElem? hrun) hcaptured
    have hsaves : run.Saves := ⟨hcaptured, hkeeps.completes, hkeeps.listed, hkeeps.copied⟩
    rw [hpath j hrun]
    refine ⟨(listed_iff ..).mpr ⟨run, hrun, hsaves, rfl⟩, ?_⟩
    refine (place_of_apart hrun hsaves hkeeps.outside fun k run' hk hrun' =>
      h.apart_of_lt hrun hrun' hk hcaptured).trans ?_
    rw [hkeeps.captured_eq hj, ← himage]
    rfl
  · obtain ⟨run, hrun, hj, -⟩ := (evaluated_iff ..).mp hevaluated
    obtain ⟨run', hrun', hj', -⟩ := (evaluated_iff ..).mp hevaluated'
    rw [hpath j hrun, hpath j' hrun'] at heq
    rcases lt_trichotomy i i' with hlt | rfl | hgt
    · have hne := (h.apart_of_lt hrun hrun' hlt (List.ne_nil_of_mem hj)).place_ne
        (List.ne_nil_of_mem hj')
      exact absurd heq.symm hne
    · cases hrun.symm.trans hrun'
      have hkeeps := h.keeps run (List.mem_of_getElem? hrun) (List.ne_nil_of_mem hj)
      rw [hkeeps.captured_eq hj] at hj'
      exact ⟨rfl, (List.mem_singleton.mp hj').symm⟩
    · have hne := (h.apart_of_lt hrun' hrun hgt (List.ne_nil_of_mem hj')).place_ne
        (List.ne_nil_of_mem hj)
      exact absurd heq hne

theorem evaluated_of_captured {i j : Nat} {run : GateRun} (hrun : runs[i]? = some run)
    (hj : j ∈ run.captured) :
    Evaluated (runGatesInto zenTestDir cwd outDir runs images).2 i j (run.image j) :=
  (evaluated_iff ..).mpr ⟨run, hrun, hj, rfl⟩

section Kept

variable {path : Nat → Nat → Text}
  (hkept : ∀ i j image,
    Evaluated (runGatesInto zenTestDir cwd outDir runs images).2 i j image →
      Listed (runGatesInto zenTestDir cwd outDir runs images).2 i (path i j) ∧
        (runGatesInto zenTestDir cwd outDir runs images).1 (placeOf cwd (path i j)) = some image)
  (hown : ∀ i j image i' j' image',
    Evaluated (runGatesInto zenTestDir cwd outDir runs images).2 i j image →
      Evaluated (runGatesInto zenTestDir cwd outDir runs images).2 i' j' image' →
        placeOf cwd (path i j) = placeOf cwd (path i' j') → i = i' ∧ j = j')
  {i k : Nat} {run run' : GateRun}

include hkept in
theorem listed_of_kept {j : Nat} (hrun : runs[i]? = some run) (hj : j ∈ run.captured) :
    run.Saves ∧ path i j = run.path outDir := by
  have hlisted := (hkept i j _ (evaluated_of_captured hrun hj)).1
  obtain ⟨run', hrun', hsaves, hpath⟩ := (listed_iff ..).mp hlisted
  cases hrun.symm.trans hrun'
  exact ⟨hsaves, hpath⟩

include hkept hown in
theorem single_of_kept (hrun : runs[i]? = some run) (hcaptured : run.captured ≠ []) :
    run.captured.length = 1 := by
  obtain ⟨j, hj⟩ := List.exists_mem_of_ne_nil _ hcaptured
  have hall : ∀ j' ∈ run.captured, j' = j := by
    intro j' hj'
    refine (hown i j' _ i j _ (evaluated_of_captured hrun hj') (evaluated_of_captured hrun hj) ?_).2
    rw [(listed_of_kept hkept hrun hj).2, (listed_of_kept hkept hrun hj').2]
  have hnodup := captured_nodup run
  rw [List.eq_replicate_of_mem hall, List.nodup_replicate] at hnodup
  exact le_antisymm hnodup (List.length_pos_iff.mpr hcaptured)

include hkept hown in
theorem place_ne_of_kept (hrun : runs[i]? = some run) (hrun' : runs[k]? = some run')
    (hlt : i < k) (hcaptured : run.captured ≠ []) (hcaptured' : run'.captured ≠ []) :
    run'.place cwd outDir ≠ run.place cwd outDir := by
  intro heq
  obtain ⟨j, hj⟩ := List.exists_mem_of_ne_nil _ hcaptured
  obtain ⟨j', hj'⟩ := List.exists_mem_of_ne_nil _ hcaptured'
  have hplace : placeOf cwd (path k j') = placeOf cwd (path i j) := by
    rw [(listed_of_kept hkept hrun hj).2, (listed_of_kept hkept hrun' hj').2]
    exact heq
  obtain ⟨hsame, -⟩ := hown k j' _ i j _ (evaluated_of_captured hrun' hj')
    (evaluated_of_captured hrun hj) hplace
  exact hlt.ne' hsame

include hkept hown in
theorem outside_of_kept (hrun : runs[i]? = some run) (hrun' : runs[k]? = some run') (hle : i ≤ k)
    (hcaptured : run.captured ≠ []) :
    ¬ run'.Removes zenTestDir cwd (run.place cwd outDir) := by
  intro hremoves
  obtain ⟨j, hj⟩ := List.exists_mem_of_ne_nil _ hcaptured
  have himage := (hkept i j _ (evaluated_of_captured hrun hj)).2
  rw [(listed_of_kept hkept hrun hj).2] at himage
  have hnone : (runGatesInto zenTestDir cwd outDir runs images).1 (run.place cwd outDir) = none :=
    none_of_removes hrun' hremoves fun k' run'' hlt hrun'' =>
      place_ne_of_kept hkept hown hrun hrun'' (hle.trans_lt hlt) hcaptured
  cases himage.symm.trans hnone

end Kept

theorem keptApart_of_preserved (h : Preserved zenTestDir cwd outDir runs images) :
    KeptApart zenTestDir cwd outDir runs := by
  obtain ⟨path, hkept, hown⟩ := h
  refine ⟨fun run hmem hcaptured => ?_, ?_⟩
  · obtain ⟨i, hrun⟩ := List.mem_iff_getElem?.mp hmem
    obtain ⟨j, hj⟩ := List.exists_mem_of_ne_nil _ hcaptured
    obtain ⟨⟨-, hcompletes, hlisted, hcopied⟩, -⟩ := listed_of_kept hkept hrun hj
    exact
      { single := single_of_kept hkept hown hrun hcaptured
        completes := hcompletes
        listed := hlisted
        copied := hcopied
        outside := outside_of_kept hkept hown hrun hrun le_rfl hcaptured }
  · refine List.pairwise_iff_getElem.mpr fun i k hi hk hlt hcaptured => ?_
    have hrun := List.getElem?_eq_getElem hi
    have hrun' := List.getElem?_eq_getElem hk
    exact
      { place_ne := place_ne_of_kept hkept hown hrun hrun' hlt hcaptured
        outside := outside_of_kept hkept hown hrun hrun' hlt.le hcaptured }

variable (zenTestDir) (cwd) (outDir) (runs) (images)

/-- The screenshots are all kept when every gate that captures one captures no other and ends
with its copy, and no other gate has its place or removes it. -/
theorem preserved_iff :
    Preserved zenTestDir cwd outDir runs images ↔ KeptApart zenTestDir cwd outDir runs :=
  ⟨keptApart_of_preserved, preserved_of_keptApart⟩

end Preservation

/-- A gate of the sub-phase 1.1 with one screenshot assertion, in a run that passes. -/
def bootRun (name : String) (image : Image) : GateRun where
  spec :=
    { gate := { name, phase := "1", subPhase := "1.1", timeoutSeconds := 180 }
      assert :=
        { serial := [], serialAbsent := [], exec := []
          screenshot :=
            [{ assertType := "non_blank", minSizeBytes := none, description := none }] } }
  guest :=
    { timedOut := false, failure := none, logContains := fun _ _ => true
      logAbsent := fun _ _ => true, exec := fun _ => .error ""
      capture := fun _ => .ok { sizeBytes := image.length, isBlank := false } }
  image := fun _ => image
  evaluatedInTime := 1
  listed := true
  copy := .copied
  destroyed := true

/-- The second of two gates with one sub-phase replaces the screenshot of the first. -/
theorem same_subPhase_overwrites :
    ¬ Preserved none [] "/shots".toList
      [bootRun "Sub-Phase 1.1: Boot Signal" [1],
        bootRun "SceneFX Renderer Fix Verification" [2]] fun _ => none := by
  intro h
  have happart := (List.pairwise_pair.mp (keptApart_of_preserved h).apart) (by decide)
  exact happart.place_ne (by decide) rfl

end ZenOS.ZenTest.SavedScreenshots
