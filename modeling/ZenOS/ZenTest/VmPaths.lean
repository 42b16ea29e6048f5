import ZenOS.Library.Paths

/-!
Where the files of a VM are: `VmPaths` of `vm/config.rs`, and what the system makes of a path.
Links and limits on the length of names are left out.
-/

namespace ZenOS.ZenTest

open ZenOS.Library.Paths

abbrev Text := List Char

/-- What `Path::components` makes of a part between two separators. -/
def component (part : Text) : Option (Component Text) :=
  if part = [] ∨ part = ['.'] then none
  else if part = ['.', '.'] then some .up
  else some (.down part)

def components (path : Text) : List (Component Text) :=
  (path.splitOn '/').filterMap component

def isAbsolute (path : Text) : Bool :=
  path.head? = some '/'

/-- `Path::join` -/
def join (base name : Text) : Text :=
  if isAbsolute name then name
  else if base = [] ∨ base.getLast? = some '/' then base ++ name
  else base ++ '/' :: name

/-- The VM directory.  An environment variable holds no NUL. -/
structure VmDir where
  text : Text
  nul : '\x00' ∉ text

/-- `ZEN_TEST_DIR`, when it is set, or the default. -/
def vmDirOf (zenTestDir : Option VmDir) : Text :=
  (zenTestDir.map (·.text)).getD "/tmp/zen-test-vms".toList

structure VmPaths where
  dir : Text
  configFile : Text
  disk : Text
  qmpSocket : Text
  agentSocket : Text
  serialLog : Text
  pidFile : Text
  qemuStderr : Text
  screenshotsDir : Text

def VmPaths.new (zenTestDir : Option VmDir) (name : Text) : VmPaths :=
  let dir := join (vmDirOf zenTestDir) name
  { dir
    configFile := join dir "config.json".toList
    disk := join dir "disk.qcow2".toList
    qmpSocket := join dir "qmp.sock".toList
    agentSocket := join dir "agent.sock".toList
    serialLog := join dir "serial.log".toList
    pidFile := join dir "qemu.pid".toList
    qemuStderr := join dir "qemu-stderr.log".toList
    screenshotsDir := join dir "screenshots".toList }

/-- Where a path starts that is used in the working directory `cwd`. -/
def startOf (cwd : Place Text) (path : Text) : Place Text :=
  if isAbsolute path then [] else cwd

def placeOf (cwd : Place Text) (path : Text) : Place Text :=
  walk (startOf cwd path) (components path)

/-- What a path ends in, behind its last separator but those at its end. -/
def lastPart (path : Text) : Option Text :=
  ((path.splitOn '/').filter (· ≠ [])).getLast?

/-- A path that ends in a separator or in `.` names nothing but a directory. -/
def namesDirectory (path : Text) : Bool :=
  (path.splitOn '/').getLast?.any fun part => part = [] ∨ part = ['.']

/-- The system takes no empty path and none with a NUL. -/
def lookup (fs : FileTree Text) (cwd : Place Text) (path : Text) : Option (Place Text) :=
  if path = [] ∨ '\x00' ∈ path then none
  else (fs.resolve (startOf cwd path) (components path)).filter fun p =>
    !namesDirectory path || fs p = some .directory

def createDirAll (fs : FileTree Text) (cwd : Place Text) (path : Text) : FileTree Text × Bool :=
  if '\x00' ∈ path then (fs, false)
  else if lastPart path = some ['.'] then
    -- `mkdir` makes no `.`, and the parent of `d/.` is for `Path::parent` that of `d`
    let (fs, ok) := fs.makeDirs (startOf cwd path) (components path).dropLast
    (fs, ok && (lookup fs cwd path).isSome)
  else fs.makeDirs (startOf cwd path) (components path)

def createFile (fs : FileTree Text) (cwd : Place Text) (path : Text) : FileTree Text :=
  if fs (placeOf cwd path) = none then Function.update fs (placeOf cwd path) (some .file)
  else fs

/-- `rmdir` refuses a path that ends in `.` or `..`, and the root. -/
def removable (path : Text) : Bool :=
  (lastPart path).any fun part => part ≠ ['.'] ∧ part ≠ ['.', '.']

/-- The directory itself comes last, and stays when `rmdir` refuses its path. -/
def removeDirAll (fs : FileTree Text) (cwd : Place Text) (path : Text) : FileTree Text :=
  match lookup fs cwd path with
  | some p =>
      if fs p = some .directory then
        if removable path then fs.removeAll p else fs.clear p
      else fs
  | none => fs
/-- The files that `vm_destroy` removes; `vm_stop` removes one of them before. -/
def vmDestroy (paths : VmPaths) (cwd : Place Text) (fs : FileTree Text) : FileTree Text :=
  if (lookup fs cwd paths.dir).isNone then fs
  else removeDirAll fs cwd paths.dir
/-- The name of the VM of a gate, in `run_gate`. -/
def gateVmName (phase subPhase : Text) : Text :=
  "gate-".toList ++ phase ++ '-' :: subPhase
section Joins

theorem components_slash (before after : Text) :
    components (before ++ '/' :: after) = components before ++ components after := by
  rw [components, List.splitOn_append_cons_self, List.filterMap_append]
  rfl

theorem components_join {name : Text} (base : Text) (hname : isAbsolute name = false) :
    components (join base name) = components base ++ components name := by
  rw [join, if_neg (Bool.eq_false_iff.mp hname)]
  split
  · next hbase =>
      rcases hbase with rfl | hslash
      · rfl
      · obtain ⟨front, rfl⟩ := List.getLast?_eq_some_iff.mp hslash
        rw [List.append_assoc, List.singleton_append, components_slash, components_slash front []]
        simp [components, component]
  · exact components_slash base name

theorem isAbsolute_join (base name : Text) :
    isAbsolute (join base name) = (isAbsolute name || isAbsolute base) := by
  rw [join]
  split
  · next habs => rw [habs, Bool.true_or]
  · next hrel =>
      rw [Bool.eq_false_iff.mpr hrel, Bool.false_or]
      cases base with
      | nil =>
          rw [if_pos (.inl rfl), List.nil_append, Bool.eq_false_iff.mpr hrel]
          rfl
      | cons c base => split <;> rfl

theorem placeOf_join (cwd : Place Text) (base file : Text)
    (hfile : component file = some (.down file)) (hslash : '/' ∉ file) :
    placeOf cwd (join base file) = placeOf cwd base ++ [file] ∧
      ∀ q, q ∈ visited (startOf cwd (join base file)) (components (join base file)) →
        q ∈ visited (startOf cwd base) (components base) ∨ q = placeOf cwd (join base file) := by
  have habs : isAbsolute file = false := by
    rw [isAbsolute, decide_eq_false_iff_not]
    intro hhead
    exact hslash (List.mem_of_mem_head? hhead)
  have hcomponents : components file = [.down file] := by
    rw [components, List.splitOn_eq_singleton hslash]
    simp [hfile]
  have hstart : startOf cwd (join base file) = startOf cwd base := by
    rw [startOf, isAbsolute_join, habs, Bool.false_or, startOf]
  have hplace : placeOf cwd (join base file) = placeOf cwd base ++ [file] := by
    rw [placeOf, components_join base habs, hcomponents, walk_append, hstart]
    rfl
  refine ⟨hplace, fun q hq => ?_⟩
  rw [hstart, components_join base habs, hcomponents, visited_append, List.mem_append] at hq
  refine hq.imp_right fun hq => ?_
  rw [hplace, List.mem_singleton.mp hq]
  rfl

theorem join_eq_nil {base name : Text} (h : join base name = []) : base = [] ∧ name = [] := by
  rw [join] at h
  split at h
  · next habs =>
      rw [h] at habs
      cases habs
  · split at h
    · exact List.append_eq_nil_iff.mp h
    · exact absurd h (by simp)

theorem notMem_join {c : Char} {base name : Text} (hslash : c ≠ '/') (hbase : c ∉ base)
    (hname : c ∉ name) : c ∉ join base name := by
  rw [join]
  split
  · exact hname
  · split <;> simp [hslash, hbase, hname]

end Joins
section FileSystem

variable (cwd : Place Text)

theorem createFile_ne_none {fs : FileTree Text} {path : Text} {p : Place Text}
    (hp : createFile fs cwd path p ≠ none) : fs p ≠ none ∨ p = placeOf cwd path := by
  rw [createFile] at hp
  split at hp
  · rcases eq_or_ne p (placeOf cwd path) with rfl | hne
    · exact .inr rfl
    · rw [Function.update_of_ne hne] at hp
      exact .inl hp
  · exact .inl hp

theorem lookup_eq_some {fs : FileTree Text} {path : Text} {p : Place Text}
    (h : lookup fs cwd path = some p) :
    p = placeOf cwd path ∧
      ∀ q ∈ visited (startOf cwd path) (components path), fs q ≠ none := by
  rw [lookup] at h
  split at h
  · cases h
  · exact resolve_eq_some fs _ (Option.filter_eq_some_iff.mp h).1

theorem lookup_of_nul {fs : FileTree Text} {path : Text} (h : '\x00' ∈ path) :
    lookup fs cwd path = none :=
  if_pos (.inr h)

theorem lookup_eq_none {fs : FileTree Text} {path : Text} {q : Place Text}
    (hq : q ∈ visited (startOf cwd path) (components path)) (hnone : fs q = none) :
    lookup fs cwd path = none := by
  rw [Option.eq_none_iff_forall_ne_some]
  intro p hp
  exact (lookup_eq_some cwd hp).2 q hq hnone

theorem createDirAll_ne_none {fs : FileTree Text} {path : Text} {p : Place Text}
    (hp : (createDirAll fs cwd path).1 p ≠ none) :
    fs p ≠ none ∨ '\x00' ∉ path ∧ p ∈ visited (startOf cwd path) (components path) := by
  rw [createDirAll] at hp
  split at hp
  · exact .inl hp
  next hnul =>
    split at hp
    · exact (makeDirs_ne_none _ _ hp).imp_right fun h =>
        ⟨hnul, visited_dropLast_subset _ _ h⟩
    · exact (makeDirs_ne_none _ _ hp).imp_right fun h => ⟨hnul, h⟩

theorem nul_notMem_of_createDirAll {fs : FileTree Text} {path : Text}
    (h : (createDirAll fs cwd path).2 = true) : '\x00' ∉ path := by
  rw [createDirAll] at h
  split at h
  · cases h
  · next hnul => exact hnul

theorem createDirAll_of_some {fs : FileTree Text} (path : Text) {p : Place Text} {kind : Kind}
    (hp : fs p = some kind) : (createDirAll fs cwd path).1 p = some kind := by
  rw [createDirAll]
  split
  · exact hp
  · split <;> exact makeDirs_of_ne_none _ _ hp

theorem lookup_createDirAll {fs : FileTree Text} {path : Text} (hpath : path ≠ [])
    (hstart : fs (startOf cwd path) = some .directory)
    (h : (createDirAll fs cwd path).2 = true) :
    (lookup (createDirAll fs cwd path).1 cwd path).isSome = true := by
  have hnul := nul_notMem_of_createDirAll cwd h
  rw [createDirAll, if_neg hnul] at h ⊢
  split at h
  · next hdot =>
      rw [if_pos hdot]
      exact ((Bool.and_eq_true _ _).mp h).2
  · next hdot =>
      have hdir := makeDirs_walk fs _ hstart h
      rw [if_neg hdot, lookup, if_neg (by simp [hpath, hnul]), resolve_makeDirs fs _ hstart h,
        Option.filter_some, if_pos (by simp [hdir])]
      rfl

/-- Only what is at a place or below it is removed with it, and the place itself only when
its path is one that `rmdir` takes. -/
theorem prefix_of_removeDirAll {fs : FileTree Text} {path : Text} {p : Place Text}
    (hp : fs p ≠ none) (hnone : removeDirAll fs cwd path p = none) :
    placeOf cwd path <+: p ∧ (removable path = false → p ≠ placeOf cwd path) := by
  rw [removeDirAll] at hnone
  rcases hlookup : lookup fs cwd path with _ | r
  · rw [hlookup] at hnone
    exact absurd hnone hp
  · obtain rfl := (lookup_eq_some cwd hlookup).1
    rw [hlookup] at hnone
    dsimp only at hnone
    split at hnone
    · split at hnone
      · next hremovable =>
          refine ⟨(removeAll_eq_none_iff.mp hnone).resolve_right hp, fun h => ?_⟩
          rw [hremovable] at h
          cases h
      · obtain ⟨hpre, hne⟩ := (clear_eq_none_iff.mp hnone).resolve_right hp
        exact ⟨hpre, fun _ => hne⟩
    · exact absurd hnone hp
end FileSystem

end ZenOS.ZenTest
