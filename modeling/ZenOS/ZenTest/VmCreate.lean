import ZenOS.ZenTest.VmPaths

/-!
`vm_create` with each of the points at which it can fail, and what is left of a VM that
could not be created.
-/

namespace ZenOS.ZenTest.VmCreate

open ZenOS.Library.Paths

/-- The errors of `vm_create`.  The texts of `std` and of `serde_json` are left out. -/
inductive ZenTestError where
  | vmAlreadyExists (name : Text)
  | infraError (message : Text)
  | io
  | json
  deriving DecidableEq

structure VmInfo where
  name : Text
  ramMb : Nat
  cpus : Nat
  diskPath : Text
  image : Text
  deriving DecidableEq

/-- How `qemu-img create` ends.  A run that fails may leave a disk behind. -/
inductive QemuImg where
  | notFound (e : Text)
  | failed (stderr : Text) (partialDisk : Bool)
  | created
  deriving DecidableEq

/-- How `std::fs::write` ends.  A file that could not be filled may be there. -/
inductive Write where
  | failed (partialFile : Bool)
  | written
  deriving DecidableEq

/-- What one call of `vm_create` finds around it. -/
structure Surroundings where
  zenOsImage : Option Text
  qemuImg : QemuImg
  -- whether the configuration can be written as JSON
  serializes : Bool
  write : Write

structure Request where
  ramMb : Nat
  cpus : Nat
  image : Option Text

/-- A file system and a process in it. -/
structure Host where
  tree : FileTree Text
  cwd : Place Text
  root : tree [] = some .directory
  here : tree cwd = some .directory

theorem Host.start (host : Host) {path : Text} :
    host.tree (startOf host.cwd path) = some .directory := by
  rw [startOf]
  split
  · exact host.root
  · exact host.here

section Create

variable (zenTestDir : Option VmDir) (cwd : Place Text) (name : Text)

/-- `VmPaths::exists` -/
def vmExists (fs : FileTree Text) : Bool :=
  (lookup fs cwd (VmPaths.new zenTestDir name).dir).isSome

/-- `create_overlay_disk` and `create_blank_disk`, which differ in the arguments of
`qemu-img`. -/
def createDisk (disk : Text) (fs : FileTree Text) :
    QemuImg → FileTree Text × Except ZenTestError Unit
  | .notFound e => (fs, .error (.infraError ("qemu-img not found: ".toList ++ e)))
  | .failed stderr partialDisk =>
      (if partialDisk then createFile fs cwd disk else fs,
        .error (.infraError ("qemu-img create failed: ".toList ++ stderr)))
  | .created => (createFile fs cwd disk, .ok ())

def writeConfig (configFile : Text) (fs : FileTree Text) :
    Write → FileTree Text × Except ZenTestError Unit
  | .failed partialFile =>
      (if partialFile then createFile fs cwd configFile else fs, .error .io)
  | .written => (createFile fs cwd configFile, .ok ())

variable (request : Request) (world : Surroundings)

/-- The image that the disk is backed by. -/
def imagePath : Option Text :=
  request.image.or world.zenOsImage

/-- `vm_create` behind the two directories. -/
def fillDirectory (fs : FileTree Text) : FileTree Text × Except ZenTestError VmInfo :=
  let paths := VmPaths.new zenTestDir name
  let base := imagePath request world
  if base.any fun base => (lookup fs cwd base).isNone then
    (fs, .error (.infraError ("Base image not found: ".toList ++ base.getD [])))
  else
    match createDisk cwd paths.disk fs world.qemuImg with
    | (fs, .error e) => (fs, .error e)
    | (fs, .ok ()) =>
        if !world.serializes then (fs, .error .json)
        else
          match writeConfig cwd paths.configFile fs world.write with
          | (fs, .error e) => (fs, .error e)
          | (fs, .ok ()) =>
              (fs, .ok { name, ramMb := request.ramMb, cpus := request.cpus
                         diskPath := paths.disk, image := base.getD [] })

def vmCreate (fs : FileTree Text) : FileTree Text × Except ZenTestError VmInfo :=
  let paths := VmPaths.new zenTestDir name
  if vmExists zenTestDir cwd name fs then (fs, .error (.vmAlreadyExists name))
  else
    let (fs, ok) := createDirAll fs cwd paths.dir
    if !ok then (fs, .error .io)
    else
      let (fs, ok) := createDirAll fs cwd paths.screenshotsDir
      if !ok then (fs, .error .io)
      else fillDirectory zenTestDir cwd name request world fs

end Create

section Atomicity

variable (zenTestDir : Option VmDir) (host : Host) (name : Text) (request : Request)
  (world : Surroundings)

/-- A VM that was not there and could not be created is not there afterwards, and no later
attempt finds it there. -/
structure Atomic : Prop where
  gone : ∀ e, (vmCreate zenTestDir host.cwd name request world host.tree).2 = .error e →
    vmExists zenTestDir host.cwd name host.tree = false →
      vmExists zenTestDir host.cwd name
        (vmCreate zenTestDir host.cwd name request world host.tree).1 = false
  retry : ∀ e, (vmCreate zenTestDir host.cwd name request world host.tree).2 = .error e →
    vmExists zenTestDir host.cwd name host.tree = false → ∀ request' world',
      (vmCreate zenTestDir host.cwd name request' world'
        (vmCreate zenTestDir host.cwd name request world host.tree).1).2 ≠
          .error (.vmAlreadyExists name)

/-- The file system with the directory of the VM, as far as it can be made, and whether it
could be made. -/
def withDir : FileTree Text × Bool :=
  createDirAll host.tree host.cwd (VmPaths.new zenTestDir name).dir

def withScreenshots : FileTree Text × Bool :=
  createDirAll (withDir zenTestDir host name).1 host.cwd (VmPaths.new zenTestDir name).screenshotsDir

/-- All that comes behind the first directory succeeds. -/
structure Completes : Prop where
  screenshots : (withScreenshots zenTestDir host name).2 = true
  image : ∀ base ∈ imagePath request world,
    (lookup (withScreenshots zenTestDir host name).1 host.cwd base).isSome = true
  disk : world.qemuImg = .created
  serializes : world.serializes = true
  config : world.write = .written

variable {zenTestDir} {host} {name} {request} {world}

theorem createFile_of_some {fs : FileTree Text} {cwd : Place Text} (path : Text) {p : Place Text}
    {kind : Kind} (hp : fs p = some kind) : createFile fs cwd path p = some kind := by
  rw [createFile]
  split
  · next hnone =>
      rw [Function.update_of_ne, hp]
      rintro rfl
      rw [hnone] at hp
      cases hp
  · exact hp

theorem lookup_mono {fs fs' : FileTree Text} {cwd : Place Text} {path : Text}
    (h : ∀ p kind, fs p = some kind → fs' p = some kind)
    (hfound : (lookup fs cwd path).isSome = true) : (lookup fs' cwd path).isSome = true := by
  rw [lookup] at hfound ⊢
  split at hfound
  · cases hfound
  next htaken =>
    obtain ⟨p, hp⟩ := Option.isSome_iff_exists.mp hfound
    obtain ⟨hp, hnames⟩ := Option.filter_eq_some_iff.mp hp
    have hnames' : (!namesDirectory path || fs' p = some .directory) = true := by
      rcases hdir : namesDirectory path with _ | _
      · rfl
      · rw [hdir] at hnames
        simpa using h p .directory (by simpa using hnames)
    rw [if_neg htaken, resolve_mono h hp, Option.filter_some, if_pos hnames']
    rfl

/-- What `vm_create` does behind the directories takes nothing away. -/
theorem fillDirectory_of_some {cwd : Place Text} {fs : FileTree Text} {p : Place Text}
    {kind : Kind} (hp : fs p = some kind) :
    (fillDirectory zenTestDir cwd name request world fs).1 p = some kind := by
  have hfile : ∀ (fs : FileTree Text) (path : Text) (b : Bool), fs p = some kind →
      (if b then createFile fs cwd path else fs) p = some kind := by
    intro fs path b hp
    split
    · exact createFile_of_some path hp
    · exact hp
  rw [fillDirectory]
  split
  · exact hp
  rcases world.qemuImg with e | ⟨stderr, partialDisk⟩ | _
  · exact hp
  · exact hfile fs _ partialDisk hp
  · simp only [createDisk]
    have hdisk : createFile fs cwd (VmPaths.new zenTestDir name).disk p = some kind :=
      createFile_of_some _ hp
    split
    · exact hdisk
    rcases world.write with partialFile | _
    · exact hfile _ _ partialFile hdisk
    · exact createFile_of_some _ hdisk

theorem fillDirectory_ok_iff {cwd : Place Text} {fs : FileTree Text} :
    (∃ info, (fillDirectory zenTestDir cwd name request world fs).2 = .ok info) ↔
      (∀ base ∈ imagePath request world, (lookup fs cwd base).isSome = true) ∧
        world.qemuImg = .created ∧ world.serializes = true ∧ world.write = .written := by
  have hmissing : ((imagePath request world).any fun base => (lookup fs cwd base).isNone) = true ↔
      ¬ ∀ base ∈ imagePath request world, (lookup fs cwd base).isSome = true := by
    rcases imagePath request world with _ | base
    · simp
    · simp
  rw [fillDirectory]
  split
  next h => exact iff_of_false (by rintro ⟨info, ⟨⟩⟩) fun himage => hmissing.mp h himage.1
  next h =>
    rw [hmissing, not_not] at h
    rcases world.qemuImg with e | ⟨stderr, partialDisk⟩ | _
    · simp [createDisk]
    · simp [createDisk]
    · simp only [createDisk]
      rcases world.serializes with _ | _
      · simp
      rcases world.write with partialFile | _
      · simp [writeConfig]
      · simp only [writeConfig]
        exact iff_of_true ⟨_, rfl⟩ ⟨h, trivial, trivial, trivial⟩

theorem vmCreate_ne_alreadyExists {cwd : Place Text} {fs : FileTree Text}
    (h : vmExists zenTestDir cwd name fs = false) :
    (vmCreate zenTestDir cwd name request world fs).2 ≠ .error (.vmAlreadyExists name) := by
  have hfill : ∀ fs, (fillDirectory zenTestDir cwd name request world fs).2 ≠
      .error (.vmAlreadyExists name) := by
    intro fs
    rw [fillDirectory]
    split
    · rintro ⟨⟩
    rcases world.qemuImg with e | ⟨stderr, partialDisk⟩ | _
    · rintro ⟨⟩
    · rintro ⟨⟩
    · simp only [createDisk]
      split
      · rintro ⟨⟩
      rcases world.write with partialFile | _
      · rintro ⟨⟩
      · rintro ⟨⟩
  rw [vmCreate, h, if_neg Bool.false_ne_true]
  simp only
  rcases createDirAll fs cwd (VmPaths.new zenTestDir name).dir with ⟨fs, _ | _⟩
  · rintro ⟨⟩
  simp only
  rcases createDirAll fs cwd (VmPaths.new zenTestDir name).screenshotsDir with ⟨fs, _ | _⟩
  · rintro ⟨⟩
  · exact hfill fs

theorem vmCreate_of_no_dir (request : Request) (world : Surroundings)
    (h : vmExists zenTestDir host.cwd name host.tree = false)
    (hdir : (withDir zenTestDir host name).2 = false) :
    vmCreate zenTestDir host.cwd name request world host.tree =
      ((withDir zenTestDir host name).1, .error .io) := by
  rw [vmCreate, h]
  rw [withDir] at hdir ⊢
  simp [hdir]

theorem vmCreate_of_dir (request : Request) (world : Surroundings)
    (hpath : (VmPaths.new zenTestDir name).dir ≠ [])
    (h : vmExists zenTestDir host.cwd name host.tree = false)
    (hdir : (withDir zenTestDir host name).2 = true) :
    vmExists zenTestDir host.cwd name
        (vmCreate zenTestDir host.cwd name request world host.tree).1 = true ∧
      ((∃ info, (vmCreate zenTestDir host.cwd name request world host.tree).2 = .ok info) ↔
        Completes zenTestDir host name request world) := by
  have hmade : vmExists zenTestDir host.cwd name (withDir zenTestDir host name).1 = true :=
    lookup_createDirAll host.cwd hpath host.start hdir
  have hcreate : vmCreate zenTestDir host.cwd name request world host.tree =
      if !(withScreenshots zenTestDir host name).2 then
        ((withScreenshots zenTestDir host name).1, .error .io)
      else fillDirectory zenTestDir host.cwd name request world
        (withScreenshots zenTestDir host name).1 := by
    rw [vmCreate, h]
    rw [withDir] at hdir
    simp [hdir, withScreenshots, withDir]
  have hkept : ∀ p kind, (withDir zenTestDir host name).1 p = some kind →
      (withScreenshots zenTestDir host name).1 p = some kind :=
    fun p kind hp => createDirAll_of_some host.cwd _ hp
  rw [hcreate]
  rcases hscreenshots : (withScreenshots zenTestDir host name).2 with _ | _
  · refine ⟨lookup_mono hkept hmade, iff_of_false (by simp) fun hcompletes => ?_⟩
    rw [hcompletes.screenshots] at hscreenshots
    cases hscreenshots
  · refine ⟨lookup_mono (fun p kind hp => fillDirectory_of_some (hkept p kind hp)) hmade, ?_⟩
    refine fillDirectory_ok_iff.trans ⟨?_, ?_⟩
    · rintro ⟨himage, hdisk, hserializes, hconfig⟩
      exact ⟨hscreenshots, himage, hdisk, hserializes, hconfig⟩
    · intro hcompletes
      exact ⟨hcompletes.image, hcompletes.disk, hcompletes.serializes, hcompletes.config⟩

/-- Nothing is left of a VM that could not be created, exactly if it had been there before, if
its path leads nowhere when as much of its directory has been made as can be, or if everything
behind the directory succeeds. -/
theorem vmCreate_atomic_iff (zenTestDir : Option VmDir) (host : Host) (name : Text)
    (request : Request) (world : Surroundings) :
    Atomic zenTestDir host name request world ↔
      vmExists zenTestDir host.cwd name host.tree = true ∨
        vmExists zenTestDir host.cwd name (withDir zenTestDir host name).1 = false ∨
        (withDir zenTestDir host name).2 = true ∧ Completes zenTestDir host name request world := by
  rcases hbefore : vmExists zenTestDir host.cwd name host.tree with _ | _
  · have hatomic : vmExists zenTestDir host.cwd name
          (vmCreate zenTestDir host.cwd name request world host.tree).1 = false →
        Atomic zenTestDir host name request world :=
      fun hgone => ⟨fun _ _ _ => hgone, fun _ _ _ _ _ => vmCreate_ne_alreadyExists hgone⟩
    simp only [Bool.false_eq_true, false_or]
    rcases eq_or_ne (VmPaths.new zenTestDir name).dir [] with hempty | hpath
    · have hnowhere : ∀ fs, vmExists zenTestDir host.cwd name fs = false := by
        intro fs
        rw [vmExists, hempty]
        rfl
      exact iff_of_true (hatomic (hnowhere _)) (.inl (hnowhere _))
    rcases hdir : (withDir zenTestDir host name).2 with _ | _
    · have hcreate := vmCreate_of_no_dir request world hbefore hdir
      simp only [Bool.false_eq_true, false_and, or_false]
      rw [hcreate] at hatomic
      refine ⟨fun h => ?_, hatomic⟩
      have hgone := h.gone .io (by rw [hcreate]) hbefore
      rwa [hcreate] at hgone
    · obtain ⟨hthere, hok⟩ := vmCreate_of_dir request world hpath hbefore hdir
      have hmade : vmExists zenTestDir host.cwd name (withDir zenTestDir host name).1 = true :=
        lookup_createDirAll host.cwd hpath host.start hdir
      simp only [hmade, Bool.true_eq_false, false_or, true_and, ← hok]
      rcases hresult : (vmCreate zenTestDir host.cwd name request world host.tree).2 with e | info
      · refine iff_of_false (fun h => ?_) (by simp)
        rw [h.gone e hresult hbefore] at hthere
        cases hthere
      · refine iff_of_true ⟨?_, ?_⟩ ⟨info, rfl⟩ <;> intro e he
        · rw [hresult] at he
          cases he
        · rw [hresult] at he
          cases he
  · refine iff_of_true ⟨?_, ?_⟩ (.inl rfl) <;> intro e he hnone
    · rw [hbefore] at hnone
      cases hnone
    · rw [hbefore] at hnone
      cases hnone

/-- A missing image leaves a VM without a disk. -/
theorem missing_image_leaves_vm :
    let host : Host := { tree := fun p => if p = [] then some .directory else none, cwd := []
                         root := rfl, here := rfl }
    let request : Request := { ramMb := 2048, cpus := 2, image := some "/no.qcow2".toList }
    let world : Surroundings := { zenOsImage := none, qemuImg := .created, serializes := true
                                  write := .written }
    ¬ Atomic none host "test".toList request world := by
  intro host request world h
  have hgone := h.gone (.infraError "Base image not found: /no.qcow2".toList) (by decide +kernel)
    (by decide +kernel)
  exact absurd hgone (by decide +kernel)

end Atomicity

end ZenOS.ZenTest.VmCreate
