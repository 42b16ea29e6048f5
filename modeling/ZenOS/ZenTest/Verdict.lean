import ZenOS.ZenTest.Walk

/-!
What the verdict of `gate run` says about the tree of gate files.
-/

namespace ZenOS.ZenTest

section Verdict

variable (fromStr : String → Except String GateSpec) (guest : GateFile → Guest)
  (root : Node) (phase : Option String)

/-- The tree has this gate file, it can be parsed, and it belongs to the phase. -/
def Selects (file : GateFile) (spec : GateSpec) : Prop :=
  root.HasGateFile file ∧ parseGateFile fromStr file = .ok spec ∧ selected phase spec = true

/-- Every gate file of the tree can be parsed. -/
def AllParse : Prop :=
  ∀ file, root.HasGateFile file → ∃ spec, parseGateFile fromStr file = .ok spec

/-- `gate run` without a gate file succeeds only when every directory of the tree could
be read, all its gate files can be parsed, the phase selects some, and each of those has
been run and has passed. -/
def Sound : Prop :=
  let out := handleGateRun fromStr guest none root phase
  out.status = .ok ∨ out.code = 0 →
    root.Accessible ∧ AllParse fromStr root ∧ (∃ file spec, Selects fromStr root phase file spec) ∧
      ∀ file spec, Selects fromStr root phase file spec →
        runGate spec (guest file) ∈ out.results ∧
          (runGate spec (guest file)).status = .passed

theorem collectSpecs_of_listable (h : root.Listable) (file : GateFile) (spec : GateSpec) :
    (file, spec) ∈ collectSpecs fromStr root phase ↔ Selects fromStr root phase file spec := by
  obtain ⟨files, hwalk, hmem⟩ := walkTomlFiles_listable [] root h
  rw [collectSpecs, hwalk, Selects, Node.HasGateFile, ← hmem]
  dsimp only
  rw [List.mem_filterMap]
  constructor
  · rintro ⟨file', hfile, hspec⟩
    rcases hparse : parseGateFile fromStr file' with e | spec'
    · rw [hparse] at hspec
      cases hspec
    · rw [hparse] at hspec
      dsimp only at hspec
      split at hspec
      · next hselected =>
          cases hspec
          exact ⟨hfile, hparse, hselected⟩
      · cases hspec
  · rintro ⟨hfile, hparse, hselected⟩
    exact ⟨file, hfile, by rw [hparse]; exact if_pos hselected⟩

theorem collectSpecs_of_not_listable (h : ¬ root.Listable) :
    collectSpecs fromStr root phase = [] := by
  obtain ⟨e, hwalk⟩ := walkTomlFiles_unlistable [] root h
  rw [collectSpecs, hwalk]

theorem mem_runGates_iff (r : GateResult) :
    r ∈ runGates fromStr guest root phase ↔
      ∃ file spec, (file, spec) ∈ collectSpecs fromStr root phase ∧
        r = runGate spec (guest file) := by
  rw [runGates, List.mem_map]
  constructor
  · rintro ⟨⟨file, spec⟩, hmem, rfl⟩
    exact ⟨file, spec, List.mem_mergeSort.mp hmem, rfl⟩
  · rintro ⟨file, spec, hmem, rfl⟩
    exact ⟨(file, spec), List.mem_mergeSort.mpr hmem, rfl⟩

theorem emitResults_ok_iff (results : List GateResult) :
    (emitResults results).status = .ok ∨ (emitResults results).code = 0 ↔
      ∀ r ∈ results, r.status = .passed := by
  rw [emitResults]
  split
  · next h => simpa using h
  · next h => simpa using h

theorem emitResults_results (results : List GateResult) :
    (emitResults results).results = results := by
  rw [emitResults]
  split <;> rfl

/-- `gate run` succeeds when every gate it has collected is satisfied. -/
theorem handleGateRun_ok_iff :
    (handleGateRun fromStr guest none root phase).status = .ok ∨
        (handleGateRun fromStr guest none root phase).code = 0 ↔
      ∀ file spec, (file, spec) ∈ collectSpecs fromStr root phase →
        (guest file).Satisfies spec := by
  rw [handleGateRun, emitResults_ok_iff]
  constructor
  · intro h file spec hmem
    refine (runGate_passed_iff ..).mp (h _ ?_)
    exact (mem_runGates_iff ..).mpr ⟨file, spec, hmem, rfl⟩
  · intro h r hr
    obtain ⟨file, spec, hmem, rfl⟩ := (mem_runGates_iff ..).mp hr
    exact (runGate_passed_iff ..).mpr (h file spec hmem)

/-- The verdict is sound exactly when the directories can be listed and a selected gate
is not satisfied, or no directory is missed, all gate files can be parsed and the phase
selects some. -/
theorem handleGateRun_sound_iff :
    Sound fromStr guest root phase ↔
      (root.Listable ∧ ∃ file spec, Selects fromStr root phase file spec ∧
          ¬ (guest file).Satisfies spec) ∨
        (root.Accessible ∧ AllParse fromStr root ∧
          ∃ file spec, Selects fromStr root phase file spec) := by
  rw [Sound, handleGateRun_ok_iff]
  constructor
  · intro hsound
    by_cases hlistable : root.Listable
    · have hcollect := collectSpecs_of_listable fromStr root phase hlistable
      by_cases hall : ∀ file spec, Selects fromStr root phase file spec →
          (guest file).Satisfies spec
      · obtain ⟨haccessible, hparse, hsome, -⟩ :=
          hsound fun file spec hmem => hall file spec ((hcollect file spec).mp hmem)
        exact .inr ⟨haccessible, hparse, hsome⟩
      · simp only [not_forall] at hall
        obtain ⟨file, spec, hselects, hfails⟩ := hall
        exact .inl ⟨hlistable, file, spec, hselects, hfails⟩
    · -- the error of the walk is dropped, and with it all gates
      have hnone := collectSpecs_of_not_listable fromStr root phase hlistable
      obtain ⟨haccessible, -⟩ := hsound fun file spec hmem => by
        rw [hnone] at hmem
        cases hmem
      exact absurd haccessible.listable hlistable
  · rintro (⟨hlistable, file, spec, hselects, hfails⟩ | ⟨haccessible, hparse, hsome⟩) hok
    · have hmem := (collectSpecs_of_listable fromStr root phase hlistable file spec).mpr hselects
      exact absurd (hok file spec hmem) hfails
    · refine ⟨haccessible, hparse, hsome, fun file spec hselects => ?_⟩
      have hmem :=
        (collectSpecs_of_listable fromStr root phase haccessible.listable file spec).mpr hselects
      refine ⟨?_, (runGate_passed_iff ..).mpr (hok file spec hmem)⟩
      rw [handleGateRun, emitResults_results]
      exact (mem_runGates_iff ..).mpr ⟨file, spec, hmem, rfl⟩

end Verdict

/-- A directory whose only gate file cannot be parsed: nothing is run, and `gate run`
succeeds. -/
theorem unparsable_gate_succeeds :
    let fromStr : String → Except String GateSpec := fun _ => .error "TOML parse error"
    let guest : GateFile → Guest := fun _ =>
      { timedOut := false, failure := none, logContains := fun _ _ => true
        logAbsent := fun _ _ => true, exec := fun _ => .error "", capture := fun _ => .error "" }
    let root : Node := .directory (.entry "boot.toml" (.file (some "[gate")) .nil)
    (handleGateRun fromStr guest none root none).code = 0 ∧ ¬ Sound fromStr guest root none := by
  intro fromStr guest root
  have hcode : (handleGateRun fromStr guest none root none).code = 0 := by decide +kernel
  refine ⟨hcode, fun hsound => ?_⟩
  obtain ⟨-, hparse, -⟩ := hsound (.inr hcode)
  have hfile : root.HasGateFile ⟨["boot.toml"], some "[gate"⟩ :=
    ⟨_, rfl, ["boot.toml"], _, rfl, .here, rfl, by decide +kernel, rfl⟩
  obtain ⟨spec, hspec⟩ := hparse _ hfile
  cases hspec

end ZenOS.ZenTest
