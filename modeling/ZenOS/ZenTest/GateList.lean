import ZenOS.ZenTest.Verdict

/-!
`gate list` of `main.rs`, beside the gates that `gate run` runs: the two walk through the gate
directory with functions of their own.
-/

namespace ZenOS.ZenTest

mutual

/-- `walk_toml_files_simple` -/
def walkTomlFilesSimple (dir : List String) : Node → List GateFile
  | .directory entries => walkEntriesSimple dir entries
  | .file _ | .inaccessible _ => []

/-- The entries of a directory that can be read. -/
def walkEntriesSimple (dir : List String) : Entries → List GateFile
  | .nil | .unreadable => []
  | .entry name node rest =>
      let path := dir ++ [name]
      let files :=
        if node.isDir then walkTomlFilesSimple path node
        else if isToml path then [⟨path, node.content⟩]
        else []
      files ++ walkEntriesSimple dir rest

end

/-- What `gate list` shows of a gate. -/
structure ListedGate where
  name : String
  phase : String
  subPhase : String
  file : String

def ListedGate.of (file : GateFile) (spec : GateSpec) : ListedGate where
  name := spec.gate.name
  phase := spec.gate.phase
  subPhase := spec.gate.subPhase
  file := "/".intercalate file.path

section

variable (fromStr : String → Except String GateSpec)

/-- `handle_gate` for `gate list` -/
def handleGateList (root : Node) (phase : Option String) : List ListedGate :=
  (walkTomlFilesSimple [] root).filterMap fun file =>
    match parseGateFile fromStr file with
    | .ok spec =>
        if phase.any (spec.gate.phase ≠ ·) then none else some (.of file spec)
    | .error _ => none

end

theorem exists_of_bind_ok {α β : Type} {x : Except String α} {f : α → Except String β} {b : β}
    (h : x >>= f = .ok b) : ∃ a, x = .ok a ∧ f a = .ok b := by
  cases x with
  | error e => cases h
  | ok a => exact ⟨a, rfl, h⟩

mutual

theorem walkTomlFilesSimple_of_ok {dir : List String} :
    ∀ {node : Node} {files : List GateFile}, walkTomlFiles dir node = .ok files →
      walkTomlFilesSimple dir node = files
  | .directory entries, files, h => walkEntriesSimple_of_ok h
  | .file _, files, h => by
      cases h
      rfl
  | .inaccessible _, files, h => by
      cases h
      rfl

theorem walkEntriesSimple_of_ok {dir : List String} :
    ∀ {entries : Entries} {files : List GateFile}, walkEntries dir entries = .ok files →
      walkEntriesSimple dir entries = files
  | .nil, files, h => by
      cases h
      rfl
  | .unreadable, files, h => by cases h
  | .entry name node rest, files, h => by
      rw [walkEntries] at h
      have hmore : ∀ below : Except String (List GateFile),
          (do
            let files ← below
            let more ← walkEntries dir rest
            .ok (files ++ more)) = Except.ok files →
          ∃ found, below = .ok found ∧ found ++ walkEntriesSimple dir rest = files := by
        intro below h
        obtain ⟨found, hfound, h⟩ := exists_of_bind_ok h
        obtain ⟨more, hmore, h⟩ := exists_of_bind_ok h
        cases h
        exact ⟨found, hfound, by rw [walkEntriesSimple_of_ok hmore]⟩
      rw [walkEntriesSimple]
      split at h
      next hdir =>
        obtain ⟨found, hfound, rfl⟩ := hmore _ h
        rw [if_pos hdir, walkTomlFilesSimple_of_ok hfound]
      next hdir =>
        rw [if_neg hdir]
        split at h
        next htoml =>
          obtain ⟨found, hfound, rfl⟩ := hmore _ h
          cases hfound
          rw [if_pos htoml]
        next htoml =>
          obtain ⟨found, hfound, rfl⟩ := hmore _ h
          cases hfound
          rw [if_neg htoml]

end

/-- The name and the phases of a gate. -/
def ListedGate.title (gate : ListedGate) : String × String × String :=
  (gate.name, gate.phase, gate.subPhase)

def GateResult.title (result : GateResult) : String × String × String :=
  (result.gate, result.phase, result.subPhase)

section

variable (fromStr : String → Except String GateSpec) (guest : GateFile → Guest)
  (root : Node) (phase : Option String)

theorem runGate_title (spec : GateSpec) (guest : Guest) :
    (runGate spec guest).title = (spec.gate.name, spec.gate.phase, spec.gate.subPhase) := by
  simp only [runGate]
  split
  · rfl
  · split
    next result h =>
      rw [runGateInner] at h
      split at h
      · cases h
      · cases h
        rfl
    next => rfl

/-- Where the walk of `gate run` succeeds, the two commands select the same gates. -/
theorem handleGateList_of_listable (h : root.Listable) :
    handleGateList fromStr root phase =
      (collectSpecs fromStr root phase).map fun (file, spec) => .of file spec := by
  obtain ⟨files, hwalk, -⟩ := walkTomlFiles_listable [] root h
  rw [handleGateList, collectSpecs, hwalk, walkTomlFilesSimple_of_ok hwalk]
  dsimp only
  rw [List.map_filterMap]
  refine List.filterMap_congr fun file _ => ?_
  rcases parseGateFile fromStr file with e | spec
  · rfl
  · rcases phase with _ | phase
    · rfl
    · by_cases hphase : spec.gate.phase = phase
      · simp [selected, hphase]
      · simp [selected, hphase]

/-- `gate run` runs the gates that `gate list` shows, each as often, exactly when every
directory could be read or none is shown: what one command passes over keeps the other from
running any gate at all. -/
theorem runGates_perm_handleGateList_iff :
    ((runGates fromStr guest root phase).map GateResult.title).Perm
        ((handleGateList fromStr root phase).map ListedGate.title) ↔
      root.Listable ∨ handleGateList fromStr root phase = [] := by
  have htitles : (runGates fromStr guest root phase).map GateResult.title =
      ((collectSpecs fromStr root phase).mergeSort fun a b =>
        decide (sortKey a.2 ≤ sortKey b.2)).map fun (_, spec) =>
          (spec.gate.name, spec.gate.phase, spec.gate.subPhase) := by
    rw [runGates, List.map_map]
    exact List.map_congr_left fun p _ => runGate_title p.2 (guest p.1)
  by_cases h : root.Listable
  · refine iff_of_true ?_ (.inl h)
    rw [htitles, handleGateList_of_listable fromStr root phase h, List.map_map]
    exact (List.mergeSort_perm _ _).map _
  · rw [htitles, collectSpecs_of_not_listable fromStr root phase h, or_iff_right h]
    simp [List.nil_perm]

end

end ZenOS.ZenTest
