import ZenOS.ZenTest.VmCreate

/-!
Whether the files of a VM stay inside the VM directory: what `vm_create` makes and
`vm_destroy` removes, for every name.
-/

namespace ZenOS.ZenTest

open ZenOS.Library.Paths
open ZenOS.ZenTest.VmCreate

/-- The working directory and the VM directory are there. -/
structure Present (zenTestDir : Option VmDir) (cwd : Place Text) (fs : FileTree Text) : Prop where
  rooted : fs.Rooted
  here : fs cwd = some .directory
  vmDir : ∀ p ∈ visited (startOf cwd (vmDirOf zenTestDir)) (components (vmDirOf zenTestDir)),
    fs p = some .directory

/-- Whatever the file system holds, what `vm_create` makes and what `vm_destroy` removes
lies strictly inside the VM directory. -/
structure Confined (zenTestDir : Option VmDir) (cwd : Place Text) (name : Text) : Prop where
  created : ∀ fs, Present zenTestDir cwd fs → ∀ request world p,
    Created fs (vmCreate zenTestDir cwd name request world fs).1 p →
      Inside (placeOf cwd (vmDirOf zenTestDir)) p
  removed : ∀ fs, Present zenTestDir cwd fs → ∀ p,
    Removed fs (vmDestroy (.new zenTestDir name) cwd fs) p →
      Inside (placeOf cwd (vmDirOf zenTestDir)) p

/-- A directory that is there whenever the VM directory is. -/
def Implied (zenTestDir : Option VmDir) (cwd q : Place Text) : Prop :=
  q <+: cwd ∨
    ∃ p ∈ visited (startOf cwd (vmDirOf zenTestDir)) (components (vmDirOf zenTestDir)), q <+: p

/-- The name, read from the root if it is absolute and from the VM directory if not, leads
strictly inside the VM directory, or to the VM directory by a path that `rmdir` refuses, and
on the way it goes through no other directory but those that are there whenever the VM
directory is. -/
def Descends (zenTestDir : Option VmDir) (cwd : Place Text) (name : Text) : Prop :=
  let d := placeOf cwd (vmDirOf zenTestDir)
  let start := if isAbsolute name then [] else d
  let dir := walk start (components name)
  (Inside d dir ∨ dir = d ∧ removable (join (vmDirOf zenTestDir) name) = false) ∧
    ∀ q ∈ visited start (components name), Inside d q ∨ Implied zenTestDir cwd q

section Confinement

variable (zenTestDir : Option VmDir) (cwd : Place Text) (name : Text)

theorem nul_notMem_vmDirOf : '\x00' ∉ vmDirOf zenTestDir := by
  cases zenTestDir with
  | none => decide
  | some vmDir => exact vmDir.nul

theorem walk_dir :
    let start := if isAbsolute name then [] else placeOf cwd (vmDirOf zenTestDir)
    let dir := join (vmDirOf zenTestDir) name
    placeOf cwd dir = walk start (components name) ∧
      ∀ q, q ∈ visited (startOf cwd dir) (components dir) ↔
        q ∈ visited start (components name) ∨ (isAbsolute name = false ∧
          q ∈ visited (startOf cwd (vmDirOf zenTestDir)) (components (vmDirOf zenTestDir))) := by
  dsimp only
  rcases habs : isAbsolute name with _ | _
  · have hstart : startOf cwd (join (vmDirOf zenTestDir) name) =
        startOf cwd (vmDirOf zenTestDir) := by
      rw [startOf, isAbsolute_join, habs, Bool.false_or, startOf]
    rw [placeOf, components_join _ habs, hstart, walk_append, visited_append]
    refine ⟨rfl, fun q => ?_⟩
    rw [List.mem_append]
    simp [or_comm, placeOf]
  · have hjoin : join (vmDirOf zenTestDir) name = name := if_pos habs
    rw [hjoin, placeOf, startOf, habs]
    exact ⟨rfl, fun q => by simp⟩

/-- Behind the directories, `vm_create` makes the two files of the VM at most. -/
theorem fillDirectory_ne_none {request : Request} {world : Surroundings} {fs : FileTree Text}
    {p : Place Text} (hp : (fillDirectory zenTestDir cwd name request world fs).1 p ≠ none) :
    fs p ≠ none ∨ p = placeOf cwd (VmPaths.new zenTestDir name).disk ∨
      p = placeOf cwd (VmPaths.new zenTestDir name).configFile := by
  have hfile : ∀ (fs : FileTree Text) (path : Text) (b : Bool),
      (if b then createFile fs cwd path else fs) p ≠ none → fs p ≠ none ∨ p = placeOf cwd path := by
    intro fs path b hp
    split at hp
    · exact createFile_ne_none cwd hp
    · exact .inl hp
  rw [fillDirectory] at hp
  split at hp
  · exact .inl hp
  rcases hqemu : world.qemuImg with e | ⟨stderr, partialDisk⟩ | _
  · rw [hqemu] at hp
    exact .inl hp
  · rw [hqemu] at hp
    exact (hfile fs _ partialDisk hp).imp_right .inl
  · rw [hqemu] at hp
    simp only [createDisk] at hp
    have hdisk : createFile fs cwd (VmPaths.new zenTestDir name).disk p ≠ none → _ :=
      createFile_ne_none cwd
    split at hp
    · exact (hdisk hp).imp_right .inl
    rcases hwrite : world.write with partialFile | _
    · rw [hwrite] at hp
      rcases hfile _ _ partialFile hp with h | h
      · exact (hdisk h).imp_right .inl
      · exact .inr (.inr h)
    · rw [hwrite] at hp
      rcases createFile_ne_none cwd hp with h | h
      · exact (hdisk h).imp_right .inl
      · exact .inr (.inr h)

/-- What `vm_create` makes: directories on its way, and the files of the VM. -/
theorem vmCreate_ne_none {request : Request} {world : Surroundings} {fs : FileTree Text}
    {p : Place Text} (hp : (vmCreate zenTestDir cwd name request world fs).1 p ≠ none) :
    let paths := VmPaths.new zenTestDir name
    fs p ≠ none ∨ '\x00' ∉ paths.dir ∧
      (p ∈ visited (startOf cwd paths.dir) (components paths.dir) ∨
        p ∈ visited (startOf cwd paths.screenshotsDir) (components paths.screenshotsDir) ∨
        p = placeOf cwd paths.disk ∨ p = placeOf cwd paths.configFile) := by
  intro paths
  rw [vmCreate] at hp
  split at hp
  · exact .inl hp
  have hdir : (createDirAll fs cwd paths.dir).1 p ≠ none → _ := createDirAll_ne_none cwd
  dsimp only at hp
  split at hp
  · exact (hdir hp).imp_right fun h => ⟨h.1, .inl h.2⟩
  next hok =>
  have hnul := nul_notMem_of_createDirAll cwd (by simpa using hok)
  have hdirs : (createDirAll (createDirAll fs cwd paths.dir).1 cwd paths.screenshotsDir).1 p ≠
      none → fs p ≠ none ∨ p ∈ visited (startOf cwd paths.dir) (components paths.dir) ∨
        p ∈ visited (startOf cwd paths.screenshotsDir) (components paths.screenshotsDir) := by
    intro h
    rcases createDirAll_ne_none cwd h with h | h
    · exact (hdir h).imp_right fun h => .inl h.2
    · exact .inr (.inr h.2)
  split at hp
  · exact (hdirs hp).imp_right fun h => ⟨hnul, h.imp_right .inl⟩
  · rcases fillDirectory_ne_none zenTestDir cwd name hp with h | h
    · exact (hdirs h).imp_right fun h => ⟨hnul, h.imp_right .inl⟩
    · exact .inr ⟨hnul, .inr (.inr h)⟩

theorem Present.implied {zenTestDir : Option VmDir} {cwd q : Place Text} {fs : FileTree Text}
    (h : Present zenTestDir cwd fs) (hq : Implied zenTestDir cwd q) : fs q ≠ none := by
  have habove : ∀ p, fs p = some .directory → q <+: p → fs q ≠ none := by
    intro p hp hqp
    rcases eq_or_ne q p with rfl | hne
    · rw [hp]
      nofun
    · rw [h.rooted.2 q p hqp hne (by rw [hp]; nofun)]
      nofun
  rcases hq with hq | ⟨p, hp, hq⟩
  · exact habove cwd h.here hq
  · exact habove p (h.vmDir p hp) hq

theorem confined_of_descends (h : Descends zenTestDir cwd name) :
    Confined zenTestDir cwd name := by
  obtain ⟨hinside, hvisited⟩ := h
  obtain ⟨hplace, hmem⟩ := walk_dir zenTestDir cwd name
  rw [← hplace] at hinside
  have hbelow : placeOf cwd (vmDirOf zenTestDir) <+:
      placeOf cwd (join (vmDirOf zenTestDir) name) :=
    hinside.elim And.left fun h => h.1 ▸ List.prefix_rfl
  have hfile : ∀ file : Text, component file = some (.down file) → '/' ∉ file →
      Inside (placeOf cwd (vmDirOf zenTestDir))
        (placeOf cwd (join (join (vmDirOf zenTestDir) name) file)) := by
    intro file hcomponent hslash
    rw [(placeOf_join cwd _ file hcomponent hslash).1]
    exact inside_concat _ hbelow file
  constructor
  · intro fs hpresent request world p ⟨hnone, hp⟩
    have hdir : p ∈ visited (startOf cwd (join (vmDirOf zenTestDir) name))
        (components (join (vmDirOf zenTestDir) name)) →
        Inside (placeOf cwd (vmDirOf zenTestDir)) p := by
      intro hp
      rcases (hmem p).mp hp with hp | ⟨-, hp⟩
      · rcases hvisited p hp with h | h
        · exact h
        · exact absurd hnone (hpresent.implied h)
      · rw [hpresent.vmDir p hp] at hnone
        cases hnone
    rcases vmCreate_ne_none zenTestDir cwd name hp with h | ⟨-, h | h | rfl | rfl⟩
    · exact absurd hnone h
    · exact hdir h
    · rcases (placeOf_join cwd _ "screenshots".toList (by decide) (by decide)).2 p h with h | rfl
      · exact hdir h
      · exact hfile "screenshots".toList (by decide) (by decide)
    · exact hfile "disk.qcow2".toList (by decide) (by decide)
    · exact hfile "config.json".toList (by decide) (by decide)
  · intro fs _ p ⟨hp, hnone⟩
    rw [vmDestroy] at hnone
    split at hnone
    · exact absurd hnone hp
    · obtain ⟨hpre, hkept⟩ := prefix_of_removeDirAll cwd hp hnone
      rcases hinside with hinside | ⟨heq, hrefused⟩
      · exact inside_of_prefix _ hinside hpre
      · have hne := hkept hrefused
        simp only [VmPaths.new, heq] at hpre hne
        exact ⟨hpre, hne⟩

theorem confined_of_nul (hname : '\x00' ∈ name) : Confined zenTestDir cwd name := by
  have hdir : '\x00' ∈ join (vmDirOf zenTestDir) name := by
    rw [join]
    split
    · exact hname
    · split <;> simp [hname]
  constructor
  · intro fs _ request world p hmade
    obtain ⟨hnone, hp⟩ := hmade
    rcases vmCreate_ne_none zenTestDir cwd name hp with h | ⟨hnul, -⟩
    · exact absurd hnone h
    · exact absurd hdir hnul
  · intro fs _ p hremoved
    obtain ⟨hp, hnone⟩ := hremoved
    rw [vmDestroy, VmPaths.new, lookup_of_nul cwd hdir] at hnone
    exact absurd hnone hp

theorem implied_vmDir : Implied zenTestDir cwd (placeOf cwd (vmDirOf zenTestDir)) := by
  rcases hcomponents : components (vmDirOf zenTestDir) with _ | ⟨c, path⟩
  · left
    rw [placeOf, hcomponents, walk_nil, startOf]
    split
    · exact List.nil_prefix
    · exact List.prefix_rfl
  · refine .inr ⟨_, ?_, List.prefix_rfl⟩
    rw [placeOf, hcomponents]
    exact walk_mem_visited _ (List.cons_ne_nil c path)

theorem present_implied : ∃ fs, Present zenTestDir cwd fs ∧ (∀ q, fs q ≠ some .file) ∧
    ∀ q, ¬ Implied zenTestDir cwd q → fs q = none := by
  classical
  refine ⟨fun q => if Implied zenTestDir cwd q then some .directory else none, ⟨⟨?_, ?_⟩, ?_, ?_⟩,
    fun q => ?_, fun q hq => if_neg hq⟩
  · exact if_pos (.inl (List.nil_prefix))
  · intro q p hqp _ hp
    refine if_pos ?_
    have himplied : Implied zenTestDir cwd p := by
      by_contra h
      exact hp (if_neg h)
    rcases himplied with h | ⟨r, hr, h⟩
    · exact .inl (hqp.trans h)
    · exact .inr ⟨r, hr, hqp.trans h⟩
  · exact if_pos (.inl (List.prefix_refl _))
  · exact fun p hp => if_pos (.inr ⟨p, hp, List.prefix_refl _⟩)
  · dsimp only
    split <;> nofun

/-- `vm_create` and `vm_destroy` stay strictly inside the VM directory exactly when the
name descends there: it is joined to the VM directory as it is. -/
theorem confined_iff :
    Confined zenTestDir cwd name ↔ '\x00' ∈ name ∨ Descends zenTestDir cwd name := by
  refine ⟨fun h => or_iff_not_imp_left.mpr fun hname => ?_, fun h =>
    h.elim (confined_of_nul zenTestDir cwd name) (confined_of_descends zenTestDir cwd name)⟩
  obtain ⟨hplace, hmem⟩ := walk_dir zenTestDir cwd name
  have hnul : '\x00' ∉ join (vmDirOf zenTestDir) name :=
    notMem_join (by decide) (nul_notMem_vmDirOf zenTestDir) hname
  have hinside : Inside (placeOf cwd (vmDirOf zenTestDir))
        (placeOf cwd (join (vmDirOf zenTestDir) name)) ∨
      placeOf cwd (join (vmDirOf zenTestDir) name) = placeOf cwd (vmDirOf zenTestDir) ∧
        removable (join (vmDirOf zenTestDir) name) = false := by
    rcases eq_or_ne (join (vmDirOf zenTestDir) name) [] with hempty | hne
    · obtain ⟨hbase, rfl⟩ := join_eq_nil hempty
      rw [hempty, hbase]
      exact .inr ⟨rfl, rfl⟩
    have hpresent : Present zenTestDir cwd fun _ => some .directory :=
      ⟨⟨rfl, fun _ _ _ _ _ => rfl⟩, rfl, fun _ _ => rfl⟩
    have hlookup : lookup (fun _ => some .directory) cwd (join (vmDirOf zenTestDir) name) =
        some (placeOf cwd (join (vmDirOf zenTestDir) name)) := by
      rw [lookup, if_neg (by simp [hne, hnul]), resolve_of_directories _ _ fun _ => rfl]
      simp [placeOf]
    have hremoved : ∀ p, removeDirAll (fun _ => some .directory) cwd
          (join (vmDirOf zenTestDir) name) p = none →
        Inside (placeOf cwd (vmDirOf zenTestDir)) p := by
      refine fun p hp => h.removed _ hpresent p ⟨Option.some_ne_none _, ?_⟩
      rw [vmDestroy, VmPaths.new, hlookup]
      exact hp
    rw [removeDirAll, hlookup] at hremoved
    rcases hremovable : removable (join (vmDirOf zenTestDir) name) with _ | _
    · have hbelow : placeOf cwd (vmDirOf zenTestDir) <+:
          placeOf cwd (join (vmDirOf zenTestDir) name) := by
        refine prefix_of_inside_concat _ [] (hremoved _ ?_)
        simp [hremovable, clear_eq_none_iff, inside_concat]
      exact (eq_or_ne _ _).symm.imp (fun hne => ⟨hbelow, hne⟩) fun heq => ⟨heq, rfl⟩
    · refine .inl (hremoved _ ?_)
      simp [hremovable, removeAll_eq_none_iff]
  refine ⟨by rwa [← hplace], fun q hq => ?_⟩
  by_contra hnot
  rw [not_or] at hnot
  obtain ⟨fs, hpresent, hfiles, hnone⟩ := present_implied zenTestDir cwd
  have hq : q ∈ visited (startOf cwd (join (vmDirOf zenTestDir) name))
      (components (join (vmDirOf zenTestDir) name)) := (hmem q).mpr (.inl hq)
  have hlookup := lookup_eq_none cwd hq (hnone q hnot.2)
  have hlast : q ≠ placeOf cwd (join (vmDirOf zenTestDir) name) := by
    rintro rfl
    rcases hinside with hinside | ⟨heq, -⟩
    · exact hnot.1 hinside
    · rw [heq] at hnot
      exact hnot.2 (implied_vmDir zenTestDir cwd)
  have hmade : (createDirAll fs cwd (join (vmDirOf zenTestDir) name)).1 q ≠ none := by
    have hmakes : ∀ path, q ∈ visited (startOf cwd (join (vmDirOf zenTestDir) name)) path →
        (fs.makeDirs (startOf cwd (join (vmDirOf zenTestDir) name)) path).1 q ≠ none := by
      intro path hq
      rw [(makeDirs_all fs _ hfiles path).2 q hq]
      exact Option.some_ne_none _
    rw [createDirAll, if_neg hnul]
    split
    · exact hmakes _ ((mem_visited _ hq).resolve_right hlast)
    · exact hmakes _ hq
  let request : Request := { ramMb := 2048, cpus := 2, image := none }
  let world : Surroundings := { zenOsImage := none, qemuImg := .created, serializes := true
                                write := .written }
  refine hnot.1 (h.created fs hpresent request world q ⟨hnone q hnot.2, ?_⟩)
  obtain ⟨kind, hkind⟩ := Option.ne_none_iff_exists'.mp hmade
  rw [vmCreate, vmExists, VmPaths.new, hlookup, if_neg (by simp)]
  dsimp only
  split
  · exact hmade
  · have hscreenshots := createDirAll_of_some cwd
      (join (join (vmDirOf zenTestDir) name) "screenshots".toList) hkind
    split
    · rw [hscreenshots]
      exact Option.some_ne_none _
    · rw [fillDirectory_of_some hscreenshots]
      exact Option.some_ne_none _

theorem descends_of_component (hname : component name = some (.down name))
    (hslash : '/' ∉ name) : Descends zenTestDir cwd name := by
  have habs : isAbsolute name = false := by
    rw [isAbsolute, decide_eq_false_iff_not]
    intro hhead
    exact hslash (List.mem_of_mem_head? hhead)
  have hcomponents : components name = [.down name] := by
    rw [components, List.splitOn_eq_singleton hslash]
    simp [hname]
  have hinside : Inside (placeOf cwd (vmDirOf zenTestDir))
      (placeOf cwd (vmDirOf zenTestDir) ++ [name]) :=
    ⟨List.prefix_append _ _, by simp⟩
  rw [Descends, habs, hcomponents]
  refine ⟨.inl hinside, fun q hq => .inl ?_⟩
  rw [List.mem_singleton.mp hq]
  exact hinside
theorem gateVmName_descends {phase subPhase : Text} (hphase : '/' ∉ phase)
    (hsub : '/' ∉ subPhase) : Descends zenTestDir cwd (gateVmName phase subPhase) := by
  apply descends_of_component
  · delta gateVmName
    simp [component]
  · delta gateVmName
    simp [hphase, hsub]

end Confinement

/-- `vm destroy ..` removes what is beside the VM directory. -/
theorem dotdot_removes_siblings :
    let fs : FileTree Text := fun _ => some .directory
    let home : Place Text := ["tmp".toList, "home".toList]
    Present none [] fs ∧ Removed fs (vmDestroy (.new none "..".toList) [] fs) home ∧
      ¬ Confined none [] "..".toList := by
  intro fs home
  have hpresent : Present none [] fs := ⟨⟨rfl, fun _ _ _ _ _ => rfl⟩, rfl, fun _ _ => rfl⟩
  have hremoved : Removed fs (vmDestroy (.new none "..".toList) [] fs) home :=
    ⟨nofun, by decide +kernel⟩
  refine ⟨hpresent, hremoved, fun hconfined => ?_⟩
  have hinside := (hconfined.removed fs hpresent home hremoved).1
  exact absurd hinside (by decide)

end ZenOS.ZenTest
