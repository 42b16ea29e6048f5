import ZenOS.ZenTest.GateOutput
import ZenOS.ZenTest.VmCreate

/-!
`config.json`: `vm_create` writes there what a virtual machine is to be, and `vm_boot` reads it
for the command line of QEMU, perhaps in another process.
-/

namespace ZenOS.ZenTest.VmStore

open ZenOS.Library ZenOS.Library.Json
open ZenOS.Library.Paths
open ZenOS.QualityGates (key)
open ZenOS.ZenTest.GateOutput (member)

structure VmConfig where
  name : Text
  ramMb : UInt32
  cpus : UInt32
  diskSize : Text
  display : Text
  image : Text
  diskPath : Text
  created : Text
  deriving DecidableEq

def buildQemuArgs (qemuBin name : Text) (ramMb cpus : UInt32) (diskPath display : Text)
    (paths : VmPaths) (kvm headless : Bool) : List Text :=
  let width := display.takeWhile (· ≠ 'x')
  let height := match display.dropWhile (· ≠ 'x') with
    | [] => "1080".toList
    | _ :: rest => rest.takeWhile (· ≠ 'x')
  [qemuBin, "-name".toList, name, "-m".toList, decimal ramMb.toNat, "-smp".toList,
    decimal cpus.toNat, "-drive".toList,
    "file=".toList ++ diskPath ++ ",format=qcow2,if=virtio".toList,
    "-qmp".toList, "unix:".toList ++ paths.qmpSocket ++ ",server,nowait".toList,
    "-serial".toList, "file:".toList ++ paths.serialLog,
    "-pidfile".toList, paths.pidFile, "-daemonize".toList,
    "-device".toList, "qemu-xhci,id=usb-bus".toList, "-device".toList, "virtio-serial".toList,
    "-chardev".toList,
    "socket,id=agent,path=".toList ++ paths.agentSocket ++ ",server=on,wait=off".toList,
    "-device".toList, "virtserialport,chardev=agent,name=org.zenos.agent".toList,
    "-nic".toList, "user,model=virtio-net-pci".toList] ++
  (if kvm then ["-enable-kvm".toList] else []) ++
  if headless then
    ["-device".toList, "virtio-vga".toList, "-display".toList, "none".toList]
  else
    ["-device".toList,
      "virtio-vga-gl,xres=".toList ++ width ++ ",yres=".toList ++ height,
      "-display".toList, "gtk,gl=on".toList]

theorem buildQemuArgs_headless (qemuBin name : Text) (ramMb cpus : UInt32)
    (diskPath display display' : Text) (paths : VmPaths) (kvm : Bool) :
    buildQemuArgs qemuBin name ramMb cpus diskPath display paths kvm true =
      buildQemuArgs qemuBin name ramMb cpus diskPath display' paths kvm true :=
  rfl

/-- How configurations are kept in a file: `serde_json::to_string_pretty` and `from_str`. -/
structure Format (α : Type) where
  save : VmConfig → α
  load : α → Option VmConfig

structure Format.Faithful {α : Type} (format : Format α) : Prop where
  load_save : ∀ config, format.load (format.save config) = some config

/-- Files that keep the configurations as they are. -/
def plainFormat : Format VmConfig where
  save := id
  load := some

/-- A file system, with what is in each `config.json` that a `vm_create` has written.  Another
file can be read but is no configuration. -/
structure Store (α : Type) where
  tree : FileTree Text
  content : Place Text → Option α

/-- The store when the file system has become `tree`. -/
def Store.keep {α : Type} (s : Store α) (tree : FileTree Text) : Store α where
  tree := tree
  content := fun p => if tree p = some .file then s.content p else none

def Store.put {α : Type} (s : Store α) (p : Place Text) (a : α) : Store α :=
  { s with content := Function.update s.content p (some a) }

structure CreateRequest where
  name : Text
  ramMb : UInt32
  cpus : UInt32
  diskSize : Text
  display : Text
  image : Option Text

def CreateRequest.toRequest (request : CreateRequest) : VmCreate.Request where
  ramMb := request.ramMb.toNat
  cpus := request.cpus.toNat
  image := request.image

structure BootWorld where
  -- whether there is a process with the recorded pid
  running : Bool
  serialLog : Bool
  -- the answer of `check_qemu_binary`
  qemuBin : Except Text Text
  kvm : Bool

inductive BootError where
  | vmNotFound (name : Text)
  | vmAlreadyRunning (name : Text)
  | infraError (message : Text)
  | io
  | json
  deriving DecidableEq

inductive Event where
  | create (request : CreateRequest) (world : VmCreate.Surroundings) (now : Text)
  | boot (name : Text) (world : BootWorld)
  -- with what is left when the removal is cut short
  | destroy (name : Text) (rest : Option (FileTree Text))
  -- QEMU and others make and remove files, but write no `config.json`
  | meanwhile (tree : FileTree Text)

inductive Result where
  | created (config : VmConfig)
  | notCreated (e : VmCreate.ZenTestError)
  | spawns (args : List Text)
  | notBooted (e : BootError)
  | destroyed
  deriving DecidableEq

def removeFile (fs : FileTree Text) (cwd : Place Text) (path : Text) : FileTree Text :=
  match lookup fs cwd path with
  | some p => if fs p = some .file then Function.update fs p none else fs
  | none => fs

section Store

variable (zenTestDir : Option VmDir) (cwd : Place Text)

def configPlace (name : Text) : Place Text :=
  placeOf cwd (VmPaths.new zenTestDir name).configFile

def configOf (request : CreateRequest) (world : VmCreate.Surroundings) (now : Text) :
    VmConfig where
  name := request.name
  ramMb := request.ramMb
  cpus := request.cpus
  diskSize := request.diskSize
  display := request.display
  image := (VmCreate.imagePath request.toRequest world).getD []
  diskPath := (VmPaths.new zenTestDir request.name).disk
  created := now

section Steps

variable {α : Type} (format : Format α) (s : Store α)

def vmCreate (request : CreateRequest) (world : VmCreate.Surroundings) (now : Text) :
    Store α × Result :=
  match VmCreate.vmCreate zenTestDir cwd request.name request.toRequest world s.tree with
  | (tree, .error e) => (s.keep tree, .notCreated e)
  | (tree, .ok _) =>
      let config := configOf zenTestDir request world now
      ((s.keep tree).put (configPlace zenTestDir cwd request.name) (format.save config),
        .created config)

/-- What is read of the configuration, and what it is. -/
def readConfig (name : Text) : Except BootError VmConfig :=
  match lookup s.tree cwd (VmPaths.new zenTestDir name).configFile with
  | none => .error .io
  | some p =>
      if s.tree p = some .directory then .error .io
      else
        match (s.content p).bind format.load with
        | none => .error .json
        | some config => .ok config

/-- `vm_boot` up to the start of QEMU -/
def vmBoot (name : Text) (world : BootWorld) : Store α × Result :=
  let paths := VmPaths.new zenTestDir name
  if !VmCreate.vmExists zenTestDir cwd name s.tree then (s, .notBooted (.vmNotFound name))
  else if world.running then (s, .notBooted (.vmAlreadyRunning name))
  else
    match readConfig zenTestDir cwd format s name with
    | .error e => (s, .notBooted e)
    | .ok config =>
        let tree := removeFile (removeFile s.tree cwd paths.qmpSocket) cwd paths.serialLog
        if !world.serialLog then (s.keep tree, .notBooted .io)
        else
          let s := s.keep (createFile tree cwd paths.serialLog)
          match world.qemuBin with
          | .error message => (s, .notBooted (.infraError message))
          | .ok qemuBin =>
              (s, .spawns (buildQemuArgs qemuBin name config.ramMb config.cpus
                config.diskPath config.display paths world.kvm true))

def vmDestroy (name : Text) (rest : Option (FileTree Text)) : Store α :=
  if !VmCreate.vmExists zenTestDir cwd name s.tree then s
  else s.keep (rest.getD (ZenTest.vmDestroy (.new zenTestDir name) cwd s.tree))

def step : Event → Store α × Option Result
  | .create request world now =>
      (vmCreate zenTestDir cwd format s request world now).map id some
  | .boot name world => (vmBoot zenTestDir cwd format s name world).map id some
  | .destroy name rest => (vmDestroy zenTestDir cwd s name rest, some .destroyed)
  | .meanwhile tree => (s.keep tree, none)

/-- The store behind a run. -/
def after (s : Store α) (events : List Event) : Store α :=
  events.foldl (fun s e => (step zenTestDir cwd format s e).1) s

end Steps

/-- A file system where no `vm_create` has written yet. -/
def fresh {α : Type} (tree : FileTree Text) : Store α where
  tree := tree
  content := fun _ => none

section Saving

variable {α : Type} (format : Format α)

/-- The store with the text of each configuration. -/
def saved (s : Store VmConfig) : Store α where
  tree := s.tree
  content := fun p => (s.content p).map format.save

variable (s : Store VmConfig)

theorem saved_tree : (saved format s).tree = s.tree :=
  rfl

theorem saved_content (p : Place Text) :
    (saved format s).content p = (s.content p).map format.save :=
  rfl

theorem saved_keep (tree : FileTree Text) :
    (saved format s).keep tree = saved format (s.keep tree) := by
  simp only [saved, Store.keep, Store.mk.injEq, true_and]
  funext p
  split <;> rfl

theorem saved_put (p : Place Text) (config : VmConfig) :
    (saved format s).put p (format.save config) = saved format (s.put p config) := by
  simp only [saved, Store.put, Store.mk.injEq, true_and]
  funext q
  rcases eq_or_ne q p with rfl | h
  · simp
  · simp [h]

theorem vmCreate_saved (request : CreateRequest) (world : VmCreate.Surroundings) (now : Text) :
    vmCreate zenTestDir cwd format (saved format s) request world now =
      (saved format (vmCreate zenTestDir cwd plainFormat s request world now).1,
        (vmCreate zenTestDir cwd plainFormat s request world now).2) := by
  rw [vmCreate, vmCreate, saved_tree]
  rcases VmCreate.vmCreate zenTestDir cwd request.name request.toRequest world s.tree with
    ⟨tree, e | info⟩
  · simp only [saved_keep]
  · simp only [saved_keep, saved_put, plainFormat, id]

variable {format} (hformat : format.Faithful)

include hformat

theorem readConfig_saved (name : Text) :
    readConfig zenTestDir cwd format (saved format s) name =
      readConfig zenTestDir cwd plainFormat s name := by
  rw [readConfig, readConfig, saved_tree]
  split
  · rfl
  next p _ =>
    have hload : ((saved format s).content p).bind format.load =
        (s.content p).bind plainFormat.load := by
      rw [saved_content]
      rcases s.content p with _ | config
      · rfl
      · exact hformat.load_save config
    rw [hload]

theorem vmBoot_saved (name : Text) (world : BootWorld) :
    vmBoot zenTestDir cwd format (saved format s) name world =
      (saved format (vmBoot zenTestDir cwd plainFormat s name world).1,
        (vmBoot zenTestDir cwd plainFormat s name world).2) := by
  simp only [vmBoot, saved_tree, readConfig_saved zenTestDir cwd s hformat, saved_keep]
  split
  · rfl
  · split
    · rfl
    · split
      · rfl
      · split
        · rfl
        · split <;> rfl

omit hformat in
theorem vmDestroy_saved (name : Text) (rest : Option (FileTree Text)) :
    vmDestroy zenTestDir cwd (saved format s) name rest =
      saved format (vmDestroy zenTestDir cwd s name rest) := by
  simp only [vmDestroy, saved_tree, saved_keep]
  split <;> rfl

theorem step_saved (e : Event) :
    step zenTestDir cwd format (saved format s) e =
      (saved format (step zenTestDir cwd plainFormat s e).1,
        (step zenTestDir cwd plainFormat s e).2) := by
  cases e with
  | create request world now => rw [step, vmCreate_saved]; rfl
  | boot name world => rw [step, vmBoot_saved zenTestDir cwd s hformat]; rfl
  | destroy name rest => rw [step, step, vmDestroy_saved]
  | meanwhile tree => rw [step, step, saved_keep]

theorem after_saved (events : List Event) :
    after zenTestDir cwd format (saved format s) events =
      saved format (after zenTestDir cwd plainFormat s events) := by
  induction events generalizing s with
  | nil => rfl
  | cons e events ih =>
      rw [after, List.foldl_cons, ← after, step_saved zenTestDir cwd s hformat, ih, after, after,
        List.foldl_cons]

end Saving

theorem after_concat {α : Type} (format : Format α) (s : Store α) (events : List Event)
    (e : Event) :
    after zenTestDir cwd format s (events ++ [e]) =
      (step zenTestDir cwd format (after zenTestDir cwd format s events) e).1 := by
  rw [after, List.foldl_append]
  rfl

variable {zenTestDir cwd}

theorem content_of_keep {s : Store VmConfig} {tree : FileTree Text} {p : Place Text}
    {config : VmConfig} (h : (s.keep tree).content p = some config) :
    s.content p = some config := by
  simp only [Store.keep] at h
  split at h
  · exact h
  · cases h

theorem content_of_vmCreate {s : Store VmConfig} {request : CreateRequest}
    {world : VmCreate.Surroundings} {now : Text} {p : Place Text} {config : VmConfig}
    (h : (vmCreate zenTestDir cwd plainFormat s request world now).1.content p = some config) :
    s.content p = some config ∨
      configPlace zenTestDir cwd request.name = p ∧
        (vmCreate zenTestDir cwd plainFormat s request world now).2 = .created config := by
  rcases hcreate : VmCreate.vmCreate zenTestDir cwd request.name request.toRequest world s.tree
    with ⟨tree, e | info⟩
  · rw [vmCreate, hcreate] at h
    exact .inl (content_of_keep h)
  · simp only [vmCreate, hcreate, Store.put] at h ⊢
    rcases eq_or_ne p (configPlace zenTestDir cwd request.name) with rfl | hne
    · rw [Function.update_self] at h
      obtain rfl := Option.some.inj h
      exact .inr ⟨rfl, rfl⟩
    · rw [Function.update_of_ne hne] at h
      exact .inl (content_of_keep h)

theorem content_of_vmBoot {s : Store VmConfig} {name : Text} {world : BootWorld}
    {p : Place Text} {config : VmConfig}
    (h : (vmBoot zenTestDir cwd plainFormat s name world).1.content p = some config) :
    s.content p = some config := by
  simp only [vmBoot] at h
  split at h
  · exact h
  · split at h
    · exact h
    · split at h
      · exact h
      · split at h
        · exact content_of_keep h
        · split at h <;> exact content_of_keep h

/-- A configuration comes from a `vm_create`, and has been there since. -/
theorem content_of_after {tree : FileTree Text} {events : List Event} {p : Place Text}
    {config : VmConfig}
    (h : (after zenTestDir cwd plainFormat (fresh tree) events).content p = some config) :
    ∃ before request world now behind, events = before ++ .create request world now :: behind ∧
      configPlace zenTestDir cwd request.name = p ∧
      (vmCreate zenTestDir cwd plainFormat
        (after zenTestDir cwd plainFormat (fresh tree) before) request world now).2 =
          .created config ∧
      ∀ since, since <+: behind →
        (after zenTestDir cwd plainFormat (fresh tree)
          (before ++ .create request world now :: since)).content p = some config := by
  induction events using List.reverseRecOn with
  | nil => cases h
  | append_singleton events e ih =>
      have hconcat := h
      rw [after_concat] at h
      have holder (hold : (after zenTestDir cwd plainFormat (fresh tree) events).content p =
          some config) :
          ∃ before request world now behind,
            events ++ [e] = before ++ .create request world now :: behind ∧
            configPlace zenTestDir cwd request.name = p ∧
            (vmCreate zenTestDir cwd plainFormat
              (after zenTestDir cwd plainFormat (fresh tree) before) request world now).2 =
                .created config ∧
            ∀ since, since <+: behind →
              (after zenTestDir cwd plainFormat (fresh tree)
                (before ++ .create request world now :: since)).content p = some config := by
        obtain ⟨before, request, world, now, behind, rfl, hplace, hcreated, hsince⟩ := ih hold
        refine ⟨before, request, world, now, behind ++ [e], by simp, hplace, hcreated, ?_⟩
        intro since hpre
        rcases List.prefix_concat_iff.mp hpre with rfl | hpre
        · simpa using hconcat
        · exact hsince since hpre
      cases e with
      | create request world now =>
          rcases content_of_vmCreate h with h | ⟨hplace, hcreated⟩
          · exact holder h
          · refine ⟨events, request, world, now, [], rfl, hplace, hcreated, ?_⟩
            intro since hpre
            rw [List.prefix_nil.mp hpre]
            exact hconcat
      | boot name world => exact holder (content_of_vmBoot h)
      | destroy name rest =>
          rw [step, vmDestroy] at h
          split at h
          · exact holder h
          · exact holder (content_of_keep h)
      | meanwhile tree => exact holder (content_of_keep h)

theorem created_configOf {α : Type} {format : Format α} {s : Store α} {request : CreateRequest}
    {world : VmCreate.Surroundings} {now : Text} {config : VmConfig}
    (h : (vmCreate zenTestDir cwd format s request world now).2 = .created config) :
    config = configOf zenTestDir request world now := by
  rw [vmCreate] at h
  split at h
  · cases h
  · exact (Result.created.inj h).symm

theorem readConfig_ok {s : Store VmConfig} {name : Text} {config : VmConfig}
    (h : readConfig zenTestDir cwd plainFormat s name = .ok config) :
    s.content (configPlace zenTestDir cwd name) = some config := by
  rw [readConfig] at h
  split at h
  · cases h
  next p hp =>
    have hplace : p = configPlace zenTestDir cwd name := (lookup_eq_some cwd hp).1
    split at h
    · cases h
    · split at h
      · cases h
      next loaded hloaded =>
        obtain rfl := Except.ok.inj h
        rw [← hplace]
        simpa [plainFormat] using hloaded

theorem vmBoot_spawns {s : Store VmConfig} {name : Text} {world : BootWorld}
    {args : List Text}
    (h : (vmBoot zenTestDir cwd plainFormat s name world).2 = .spawns args) :
    ∃ config qemuBin, s.content (configPlace zenTestDir cwd name) = some config ∧
      world.running = false ∧ world.qemuBin = .ok qemuBin ∧
      args = buildQemuArgs qemuBin name config.ramMb config.cpus config.diskPath
        config.display (VmPaths.new zenTestDir name) world.kvm true := by
  simp only [vmBoot] at h
  split at h
  · cases h
  · split at h
    · cases h
    next hrunning =>
      split at h
      · cases h
      next config hconfig =>
        split at h
        · cases h
        · split at h
          · cases h
          next qemuBin hqemu =>
            exact ⟨config, qemuBin, readConfig_ok hconfig, by simpa using hrunning, hqemu,
              (Result.spawns.inj h).symm⟩

/-- QEMU gets the memory, the processors and the disk that the last `vm_create` for this
`config.json` was asked for, whatever display that was asked for; its text has been there since. -/
theorem boot_as_created {α : Type} (format : Format α) (hformat : format.Faithful)
    (tree : FileTree Text) (events : List Event) (name : Text) (world : BootWorld)
    (args : List Text)
    (h : (vmBoot zenTestDir cwd format
      (after zenTestDir cwd format (fresh tree) events) name world).2 = .spawns args) :
    ∃ before request found now behind qemuBin,
      events = before ++ .create request found now :: behind ∧
      configPlace zenTestDir cwd request.name = configPlace zenTestDir cwd name ∧
      (vmCreate zenTestDir cwd format
        (after zenTestDir cwd format (fresh tree) before) request found now).2 =
          .created (configOf zenTestDir request found now) ∧
      (∀ since, since <+: behind →
        (after zenTestDir cwd format (fresh tree)
          (before ++ .create request found now :: since)).content
            (configPlace zenTestDir cwd name) =
          some (format.save (configOf zenTestDir request found now))) ∧
      world.running = false ∧ world.qemuBin = .ok qemuBin ∧
      ∀ display, args = buildQemuArgs qemuBin name request.ramMb request.cpus
        (VmPaths.new zenTestDir request.name).disk display
        (VmPaths.new zenTestDir name) world.kvm true := by
  have hafter := fun events => after_saved zenTestDir cwd (fresh tree) hformat events
  have hfresh : saved format (fresh tree) = fresh tree := rfl
  rw [hfresh] at hafter
  rw [hafter, vmBoot_saved zenTestDir cwd _ hformat] at h
  obtain ⟨config, qemuBin, hconfig, hrunning, hqemu, rfl⟩ := vmBoot_spawns h
  obtain ⟨before, request, found, now, behind, hevents, hplace, hcreated, hsince⟩ :=
    content_of_after hconfig
  obtain rfl := created_configOf hcreated
  refine ⟨before, request, found, now, behind, qemuBin, hevents, hplace, ?_, ?_, hrunning,
    hqemu, fun display => buildQemuArgs_headless ..⟩
  · rw [hafter, vmCreate_saved]
    exact hcreated
  · intro since hpre
    rw [hafter, saved_content, hsince since hpre]
    rfl

/-- What `serde` sees of a configuration; a structure keeps the order of its fields. -/
def configDatum (config : VmConfig) : Datum :=
  .obj [member "name" (.str config.name),
    member "ram_mb" (.int config.ramMb.toNat),
    member "cpus" (.int config.cpus.toNat),
    member "disk_size" (.str config.diskSize),
    member "display" (.str config.display),
    member "image" (.str config.image),
    member "disk_path" (.str config.diskPath),
    member "created" (.str config.created)]

def toStringPretty (config : VmConfig) : List Char :=
  write true 0 (configDatum config)

section Readers

variable (members : List (List Nat × Json.Value)) (name : String)

/-- A field that is missing or given twice is an error. -/
def field : Option Json.Value :=
  match members.filter (·.1 == key name) with
  | [m] => some m.2
  | _ => none

/-- A lone surrogate is no character. -/
def textField : Option Text :=
  match field members name with
  | some (.str s) =>
      if s.all fun n => decide n.isValidChar then some (s.map Char.ofNat) else none
  | _ => none

def u32Field : Option UInt32 :=
  match field members name with
  | some (.int n) => if 0 ≤ n ∧ n < 2 ^ 32 then some (.ofNat n.toNat) else none
  | _ => none

end Readers

/-- `serde_json::from_str` -/
def fromStr (content : List Char) : Option VmConfig :=
  match parse content with
  | some (.obj members) => do
      let name ← textField members "name"
      let ramMb ← u32Field members "ram_mb"
      let cpus ← u32Field members "cpus"
      let diskSize ← textField members "disk_size"
      let display ← textField members "display"
      let image ← textField members "image"
      let diskPath ← textField members "disk_path"
      let created ← textField members "created"
      return { name, ramMb, cpus, diskSize, display, image, diskPath, created }
  | _ => none

section RoundTrip

variable {members : List (List Nat × Json.Value)} {name : String}

theorem textField_of_field {s : Text} (h : field members name = some (.str (codes s))) :
    textField members name = some s := by
  have hvalid : (codes s).all (fun n => decide n.isValidChar) = true := by
    simp only [codes, List.all_eq_true, List.mem_map, decide_eq_true_eq]
    rintro _ ⟨c, -, rfl⟩
    exact c.valid
  have hback : (codes s).map Char.ofNat = s := by
    simp [codes, Function.comp_def]
  rw [textField, h]
  dsimp only
  rw [if_pos hvalid, hback]

theorem u32Field_of_field {n : UInt32} (h : field members name = some (.int n.toNat)) :
    u32Field members name = some n := by
  have hrange : (0 : Int) ≤ n.toNat ∧ (n.toNat : Int) < 2 ^ 32 := by
    have hlt := n.toNat_lt
    omega
  rw [u32Field, h]
  dsimp only
  rw [if_pos hrange, Int.toNat_natCast, UInt32.ofNat_toNat]

theorem fromStr_toStringPretty (config : VmConfig) :
    fromStr (toStringPretty config) = some config := by
  rw [fromStr, toStringPretty, parse_write]
  let members : List (List Nat × Json.Value) :=
    [(key "name", .str (codes config.name)),
      (key "ram_mb", .int config.ramMb.toNat),
      (key "cpus", .int config.cpus.toNat),
      (key "disk_size", .str (codes config.diskSize)),
      (key "display", .str (codes config.display)),
      (key "image", .str (codes config.image)),
      (key "disk_path", .str (codes config.diskPath)),
      (key "created", .str (codes config.created))]
  have hvalue : (configDatum config).value = .obj members := rfl
  rw [hvalue]
  dsimp only
  rw [textField_of_field (s := config.name) rfl,
    u32Field_of_field (n := config.ramMb) rfl,
    u32Field_of_field (n := config.cpus) rfl,
    textField_of_field (s := config.diskSize) rfl,
    textField_of_field (s := config.display) rfl,
    textField_of_field (s := config.image) rfl,
    textField_of_field (s := config.diskPath) rfl,
    textField_of_field (s := config.created) rfl]
  rfl

end RoundTrip

def jsonFormat : Format (List Char) where
  save := toStringPretty
  load := fromStr

theorem jsonFormat_faithful : jsonFormat.Faithful :=
  ⟨fromStr_toStringPretty⟩

/-- A name that has to be escaped in `config.json`. -/
def quotedRequest : CreateRequest where
  name := "a\"b".toList
  ramMb := 1024
  cpus := 4
  diskSize := "32G".toList
  display := "1920x1080".toList
  image := none

def goodSurroundings : VmCreate.Surroundings where
  zenOsImage := none
  qemuImg := .created
  serializes := true
  write := .written

def goodBoot : BootWorld where
  running := false
  serialLog := true
  qemuBin := .ok "qemu-system-x86_64".toList
  kvm := false

def rootOnly : FileTree Text :=
  fun p => if p = [] then some .directory else none

def quotedArgs : List Text :=
  buildQemuArgs "qemu-system-x86_64".toList quotedRequest.name 1024 4
    "/tmp/zen-test-vms/a\"b/disk.qcow2".toList "1920x1080".toList
    (VmPaths.new none quotedRequest.name) false true

theorem quoted_spawns :
    (vmBoot none [] jsonFormat
      (after none [] jsonFormat (fresh rootOnly) [.create quotedRequest goodSurroundings []])
      quotedRequest.name goodBoot).2 = .spawns quotedArgs := by
  have hfresh : (fresh rootOnly : Store (List Char)) = saved jsonFormat (fresh rootOnly) := rfl
  rw [hfresh, after_saved none [] _ jsonFormat_faithful, vmBoot_saved none [] _ jsonFormat_faithful]
  decide +kernel

theorem boot_as_created_quoted :
    ∃ before request found now behind qemuBin,
      [Event.create quotedRequest goodSurroundings []] =
        before ++ .create request found now :: behind ∧
      configPlace none [] request.name = configPlace none [] quotedRequest.name ∧
      (vmCreate none [] jsonFormat (after none [] jsonFormat (fresh rootOnly) before) request
        found now).2 = .created (configOf none request found now) ∧
      (∀ since, since <+: behind →
        (after none [] jsonFormat (fresh rootOnly)
          (before ++ .create request found now :: since)).content
            (configPlace none [] quotedRequest.name) =
          some (toStringPretty (configOf none request found now))) ∧
      goodBoot.running = false ∧ goodBoot.qemuBin = .ok qemuBin ∧
      ∀ display, quotedArgs = buildQemuArgs qemuBin quotedRequest.name request.ramMb request.cpus
        (VmPaths.new none request.name).disk display
        (VmPaths.new none quotedRequest.name) goodBoot.kvm true :=
  boot_as_created jsonFormat jsonFormat_faithful rootOnly
    [.create quotedRequest goodSurroundings []] quotedRequest.name goodBoot quotedArgs
    quoted_spawns

end Store

end ZenOS.ZenTest.VmStore
