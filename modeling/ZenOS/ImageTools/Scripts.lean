import ZenOS.Library.Cleanup

/-!
The shell scripts that build, change and inspect disk images for the virtual machines.  Each of
them works in a directory under `/tmp`, mounts parts of an image there, and has an `EXIT` trap
that takes everything down again, wherever `set -e` has ended the script.
-/

namespace ZenOS.ImageTools

open ZenOS.Library.Cleanup

/-- The mount points: the root file system of the image, and what is mounted in it.  Those of
`/dev` and `/dev/pts` are bind mounts of the directories of the host. -/
inductive Point where
  | rootfs
  | proc
  | sys
  | dev
  | devPts
  deriving DecidableEq

def points : List Point :=
  [.rootfs, .proc, .sys, .dev, .devPts]

def below : Point → Point → Bool
  | .devPts, .dev => true
  | .rootfs, _ => false
  | _, .rootfs => true
  | _, _ => false

/-- The image that a script is about. -/
inductive Image where
  | unchanged
  | written
  /-- `qemu-img` or `cp` has given up while writing it -/
  | broken
  deriving DecidableEq

structure Host where
  mounted : Point → Bool
  -- whether a loop device is attached, and whether it goes away with its mount
  attached : Bool
  autoclear : Bool
  -- whether `LOOP_DEV` is set
  loopDev : Bool
  work : Bool
  -- the mount points through which `rm -rf` has gone
  emptied : Point → Bool
  image : Image

namespace Host

/-- The host when the trap is set. -/
def initial : Host where
  mounted _ := false
  attached := false
  autoclear := false
  loopDev := false
  work := true
  emptied _ := false
  image := .unchanged

def mount (s : Host) (m : Point) : Host :=
  { s with mounted := Function.update s.mounted m true }

def umount (s : Host) (busy : Point → Bool) (m : Point) : Host × Bool :=
  let p := Library.Cleanup.umount points below busy m s.mounted
  ({ s with
      mounted := p.1
      attached := s.attached && !(s.autoclear && s.mounted .rootfs && !p.1 .rootfs) },
    p.2)

/-- `losetup -d`: a device in use goes away with its mount. -/
def losetupDetach (s : Host) : Host :=
  if s.mounted .rootfs then { s with autoclear := true } else { s with attached := false }

end Host

/-- Commands that change neither mounts, devices nor the image of the script. -/
inductive Tool where
  | dd | sfdisk | awaitPartition | mkfs | mkdir | debootstrap | cp | echo | cat | chroot
  | install | copyLibraries | installAgent | kernelVersion | sync | qemuImg | chmod | ls | grep
  | find
  deriving DecidableEq

inductive Command where
  | run (tool : Tool)
  | mount (m : Point)
  /-- `mount -o loop`, with a loop device of its own -/
  | mountLoop (m : Point)
  | umount (m : Point)
  /-- `umount … || true` -/
  | umountOrTrue (m : Point)
  /-- `LOOP_DEV="$(losetup --find --show …)"` -/
  | losetup
  /-- `losetup -d "$LOOP_DEV"` and `LOOP_DEV=""` -/
  | losetupDetach
  /-- the command that writes the image -/
  | writeImage
  deriving DecidableEq

/-- A command, told whether what it does goes well. -/
def act : Command → Bool → Host → Host × Bool
  | .run _, ok, s => (s, ok)
  | .mount m, ok, s => (if ok then s.mount m else s, ok)
  | .mountLoop m, ok, s =>
      (if ok then { s.mount m with attached := true, autoclear := true } else s, ok)
  | .umount m, ok, s => s.umount (fun _ => !ok) m
  | .umountOrTrue m, ok, s => ((s.umount (fun _ => !ok) m).1, true)
  | .losetup, ok, s => (if ok then { s with attached := true, loopDev := true } else s, ok)
  | .losetupDetach, ok, s => (if ok then { s.losetupDetach with loopDev := false } else s, ok)
  | .writeImage, ok, s => ({ s with image := if ok then .written else .broken }, ok)

/-- A script behind its `trap`: its commands, and the mount points that its clean-up takes
away. -/
structure Script where
  commands : List Command
  umounts : List Point

def buildTestImage : Script where
  commands :=
    [.run .dd, .run .sfdisk, .losetup, .run .awaitPartition, .run .mkfs,
      .run .mkdir, .mount .rootfs, .run .debootstrap,
      .mount .proc, .mount .sys, .mount .dev, .mount .devPts,
      .run .cp, .run .echo, .run .echo, .run .echo, .run .mkdir, .run .cat, .run .chroot,
      .run .install, .run .mkdir, .run .copyLibraries, .run .echo, .run .chroot, .run .cat,
      .run .chroot, .run .installAgent,
      .run .chroot, .run .kernelVersion, .run .mkdir, .run .cat,
      .umountOrTrue .devPts, .umountOrTrue .dev, .umountOrTrue .sys, .umountOrTrue .proc,
      .run .sync, .umount .rootfs, .losetupDetach, .run .mkdir, .writeImage]
  umounts := [.devPts, .dev, .sys, .proc, .rootfs]

/-- The mount of a copy of an image, with which the other scripts begin. -/
def mountCopy : List Command :=
  [.run .qemuImg, .run .sfdisk, .run .mkdir, .mountLoop .rootfs]

def updateTestImage : Script where
  commands := mountCopy ++ [.run .cp, .run .chmod, .umount .rootfs, .writeImage]
  umounts := [.rootfs]

def updateImageNative : Script where
  commands := .run .cp :: (mountCopy ++ [.run .cp, .run .chmod, .run .cp, .run .chmod,
    .run .grep, .umount .rootfs, .run .qemuImg, .writeImage])
  umounts := [.rootfs]

def checkImageBinary : Script where
  commands := mountCopy ++ [.run .ls, .run .grep]
  umounts := [.rootfs]

def inspectImage : Script where
  commands := mountCopy ++ [.run .find, .run .grep, .run .cat, .run .ls, .run .find]
  umounts := [.rootfs]

def scripts : List Script :=
  [buildTestImage, updateTestImage, updateImageNative, checkImageBinary, inspectImage]

section Cleanup

variable (script : Script) (ok : Nat → Bool)
-- which mount points are in use during the clean-up, and whether `losetup -d` goes well there
variable (busy : Point → Bool) (detaches : Bool)

/-- The clean-up attempts every unmount. -/
def umountAll (s : Host) : Host :=
  script.umounts.foldl (fun s m => (s.umount busy m).1) s

/-- `rm -rf` does not stop at mount points, and cannot remove them. -/
def removeWork (s : Host) : Host :=
  { s with
    emptied := fun m => s.emptied m || s.mounted m
    work := points.any s.mounted }

def cleanup (s : Host) : Host :=
  let s := umountAll script busy s
  removeWork (if s.loopDev && detaches then s.losetupDetach else s)

/-- The host when the commands have ended. -/
def executed : Host × Bool :=
  Library.Cleanup.script act ok 0 script.commands .initial

/-- The host when the script has ended. -/
def run : Host :=
  cleanup script busy detaches (executed script ok).1

end Cleanup

/-- A script mounts nothing that its clean-up does not know of, and only the root file system
through a loop device without a name. -/
def Command.fits (script : Script) : Command → Bool
  | .mount m => m ∈ script.umounts
  | .mountLoop m => m = .rootfs && m ∈ script.umounts
  | _ => true

theorem scripts_fit : ∀ script ∈ scripts, ∀ c ∈ script.commands, c.fits script = true := by decide

theorem mem_points (m : Point) : m ∈ points := by
  cases m <;> decide

/-- What holds between two commands of a script: every mount point is one that the clean-up
goes through, and every loop device one that it takes away. -/
structure Kept (script : Script) (s : Host) : Prop where
  mounted : ∀ m, s.mounted m = true → m ∈ script.umounts
  attached : s.attached = true →
    s.loopDev = true ∨ s.autoclear = true ∧ s.mounted .rootfs = true
  emptied : ∀ m, s.emptied m = false

section Invariant

variable {script : Script} {s : Host}

theorem kept_initial (script : Script) : Kept script .initial where
  mounted _ h := by cases h
  attached h := by cases h
  emptied _ := rfl

theorem Host.mounted_mount {m a : Point} :
    (s.mount m).mounted a = true ↔ a = m ∨ s.mounted a = true := by
  rcases eq_or_ne a m with rfl | h
  · simp [Host.mount]
  · simp [Host.mount, h]

theorem Kept.umount (h : Kept script s) (busy : Point → Bool) (m : Point) :
    Kept script (s.umount busy m).1 where
  mounted a ha := h.mounted a (of_umount ha)
  attached ha := by
    simp only [Host.umount, Bool.and_eq_true, Bool.not_eq_true'] at ha ⊢
    obtain ⟨hattached, hstays⟩ := ha
    rcases h.attached hattached with hdev | ⟨hclear, hroot⟩
    · exact .inl hdev
    · rw [hclear, hroot] at hstays
      exact .inr ⟨hclear, by simpa using hstays⟩
  emptied := h.emptied

theorem Kept.losetupDetach (h : Kept script s) : Kept script s.losetupDetach := by
  rw [Host.losetupDetach]
  split
  next hroot => exact ⟨h.mounted, fun _ => .inr ⟨rfl, hroot⟩, h.emptied⟩
  next => exact ⟨h.mounted, fun ha => (by cases ha), h.emptied⟩

theorem Kept.forget (h : Kept script s) :
    Kept script { s.losetupDetach with loopDev := false } := by
  have hkept := h.losetupDetach
  refine ⟨hkept.mounted, fun ha => .inr ?_, hkept.emptied⟩
  dsimp only at ha ⊢
  rw [Host.losetupDetach] at ha ⊢
  split at ha
  next hroot => simp [hroot]
  next => cases ha

theorem Kept.act (h : Kept script s) {c : Command} (hc : c.fits script = true) (ok : Bool) :
    Kept script (act c ok s).1 := by
  cases c with
  | run tool => exact h
  | mount m =>
      rw [ImageTools.act]
      split
      · refine ⟨fun a ha => ?_, fun ha => ?_, h.emptied⟩
        · rcases Host.mounted_mount.mp ha with rfl | ha
          · simpa [Command.fits] using hc
          · exact h.mounted a ha
        · exact (h.attached ha).imp_right fun hclear =>
            ⟨hclear.1, Host.mounted_mount.mpr (.inr hclear.2)⟩
      · exact h
  | mountLoop m =>
      simp only [Command.fits, Bool.and_eq_true, decide_eq_true_eq] at hc
      obtain ⟨rfl, hmem⟩ := hc
      rw [ImageTools.act]
      split
      · refine ⟨fun a ha => ?_, fun _ => .inr ⟨rfl, by simp [Host.mount]⟩, h.emptied⟩
        rcases Host.mounted_mount.mp ha with rfl | ha
        · exact hmem
        · exact h.mounted a ha
      · exact h
  | umount m => exact h.umount _ m
  | umountOrTrue m => exact h.umount _ m
  | losetup =>
      rw [ImageTools.act]
      split
      · exact ⟨h.mounted, fun _ => .inl rfl, h.emptied⟩
      · exact h
  | losetupDetach =>
      rw [ImageTools.act]
      split
      · exact h.forget
      · exact h
  | writeImage => exact ⟨h.mounted, h.attached, h.emptied⟩

theorem kept_executed (hscript : script ∈ scripts) (ok : Nat → Bool) :
    Kept script (executed script ok).1 :=
  script_invariant ok (fun c hc b _ h => h.act (scripts_fit script hscript c hc) b)
    (kept_initial script) 0

end Invariant

section CleanUp

variable {script : Script} {s : Host} {busy : Point → Bool}

theorem kept_umountAll (h : Kept script s) : Kept script (umountAll script busy s) := by
  rw [umountAll]
  generalize script.umounts = order
  induction order generalizing s with
  | nil => exact h
  | cons m order ih => exact ih (h.umount busy m)

theorem mounted_umountAll (script : Script) (s : Host) :
    (umountAll script busy s).mounted =
      Library.Cleanup.umountAll points below busy script.umounts s.mounted := by
  rw [umountAll, Library.Cleanup.umountAll]
  generalize script.umounts = order
  induction order generalizing s with
  | nil => rfl
  | cons m order ih => exact ih _

theorem below_self (m : Point) : below m m = false := by
  cases m <;> rfl

theorem below_trans : ∀ a b c, below a b = true → below b c = true → below a c = true := by
  intro a b c
  cases a <;> cases b <;> cases c <;> decide

theorem umounts_pairwise :
    ∀ script ∈ scripts, script.umounts.Pairwise fun m a => below a m = false := by
  decide

theorem mounted_umountAll_iff (hscript : script ∈ scripts) (h : Kept script s) (m : Point) :
    (umountAll script busy s).mounted m = true ↔
      s.mounted m = true ∧ Stuck below busy s.mounted m := by
  rw [mounted_umountAll]
  exact umountAll_eq_true_iff mem_points below_self below_trans
    (umounts_pairwise script hscript) (fun a ha => .inl (h.mounted a ha)) m

theorem mounted_losetupDetach (s : Host) : s.losetupDetach.mounted = s.mounted := by
  rw [Host.losetupDetach]
  split <;> rfl

theorem emptied_losetupDetach (s : Host) : s.losetupDetach.emptied = s.emptied := by
  rw [Host.losetupDetach]
  split <;> rfl

theorem image_losetupDetach (s : Host) : s.losetupDetach.image = s.image := by
  rw [Host.losetupDetach]
  split <;> rfl

theorem image_umountAll (script : Script) (s : Host) :
    (umountAll script busy s).image = s.image := by
  rw [umountAll]
  generalize script.umounts = order
  induction order generalizing s with
  | nil => rfl
  | cons m order ih => exact ih _

theorem mounted_cleanup (script : Script) (detaches : Bool) (s : Host) :
    (cleanup script busy detaches s).mounted = (umountAll script busy s).mounted := by
  rw [cleanup]
  dsimp only [removeWork]
  split
  · exact mounted_losetupDetach _
  · rfl

/-- What `rm -rf` goes through is what the clean-up has left mounted. -/
theorem emptied_cleanup (h : Kept script s) (detaches : Bool) (m : Point) :
    (cleanup script busy detaches s).emptied m = (umountAll script busy s).mounted m := by
  have hkept : Kept script (umountAll script busy s) := kept_umountAll h
  have hemptied := hkept.emptied m
  rw [cleanup]
  dsimp only [removeWork]
  split
  · rw [emptied_losetupDetach, mounted_losetupDetach, hemptied, Bool.false_or]
  · rw [hemptied, Bool.false_or]

theorem image_cleanup (script : Script) (detaches : Bool) (s : Host) :
    (cleanup script busy detaches s).image = s.image := by
  rw [cleanup, ← image_umountAll script s]
  dsimp only [removeWork]
  split
  · exact image_losetupDetach _
  · rfl

/-- `losetup -d` frees the device that has a name, and the unmounts have freed any other. -/
theorem attached_cleanup (h : Kept script s)
    (hmounted : ∀ m, (umountAll script busy s).mounted m = false) :
    (cleanup script busy true s).attached = false := by
  have hkept : Kept script (umountAll script busy s) := kept_umountAll h
  rw [cleanup]
  dsimp only [removeWork]
  split
  next => rw [Host.losetupDetach, hmounted, if_neg Bool.false_ne_true]
  next hdev =>
    refine Bool.eq_false_iff.mpr fun hattached => ?_
    rcases hkept.attached hattached with h | ⟨-, h⟩
    · exact hdev (by rw [h]; rfl)
    · rw [hmounted] at h
      cases h

theorem work_cleanup (detaches : Bool)
    (hmounted : ∀ m, (umountAll script busy s).mounted m = false) :
    (cleanup script busy detaches s).work = false := by
  have hnone : points.any (umountAll script busy s).mounted = false :=
    List.any_eq_false.mpr fun m _ => by rw [hmounted m]; exact Bool.false_ne_true
  rw [cleanup]
  dsimp only [removeWork]
  split
  · rw [mounted_losetupDetach, hnone]
  · exact hnone

end CleanUp

/-- Wherever one of the scripts ends, its clean-up takes away what the script has set up: no
mount, no loop device and no working directory stays, and nothing has been deleted through a
mount point. -/
theorem run_released {script : Script} (hscript : script ∈ scripts) (ok : Nat → Bool)
    {busy : Point → Bool} (hbusy : ∀ m, busy m = false) :
    (∀ m, (run script ok busy true).mounted m = false ∧
      (run script ok busy true).emptied m = false) ∧
    (run script ok busy true).attached = false ∧ (run script ok busy true).work = false := by
  have hkept := kept_executed hscript ok
  have hmounted : ∀ m, (umountAll script busy (executed script ok).1).mounted m = false := by
    intro m
    refine Bool.eq_false_iff.mpr fun h => ?_
    rcases ((mounted_umountAll_iff hscript hkept m).mp h).2 with h | ⟨a, -, -, h⟩
    · rw [hbusy] at h
      cases h
    · rw [hbusy] at h
      cases h
  rw [run]
  refine ⟨fun m => ⟨?_, ?_⟩, attached_cleanup hkept hmounted, work_cleanup true hmounted⟩
  · rw [mounted_cleanup, hmounted]
  · rw [emptied_cleanup hkept, hmounted]

/-- The build script when `grub-install` fails and nothing is in use. -/
theorem run_released_grubInstall :
    (∀ m, (run buildTestImage (· != 27) (fun _ => false) true).mounted m = false ∧
      (run buildTestImage (· != 27) (fun _ => false) true).emptied m = false) ∧
    (run buildTestImage (· != 27) (fun _ => false) true).attached = false ∧
    (run buildTestImage (· != 27) (fun _ => false) true).work = false :=
  run_released (by simp [scripts]) (· != 27) fun _ => rfl

/-- Where something is still in use when a script ends, its clean-up deletes what lies behind:
`rm -rf` goes through exactly those mount points that are in use, or above one that is. -/
theorem run_emptied {script : Script} (hscript : script ∈ scripts) (ok : Nat → Bool)
    (busy : Point → Bool) (detaches : Bool) (m : Point) :
    (run script ok busy detaches).emptied m = true ↔
      (executed script ok).1.mounted m = true ∧
        (busy m = true ∨ ∃ a, below a m = true ∧
          (executed script ok).1.mounted a = true ∧ busy a = true) := by
  have hkept := kept_executed hscript ok
  rw [run, emptied_cleanup hkept, mounted_umountAll_iff hscript hkept, Stuck]

/-- The build script when the installation of packages has failed and something that it has
started still uses `/dev`: the devices of the host are deleted. -/
theorem run_emptied_packages :
    (run buildTestImage (· != 18) (· == .dev) true).emptied .dev = true :=
  (run_emptied (by simp [scripts]) (· != 18) (· == .dev) true .dev).mpr ⟨by decide, .inl rfl⟩

def Command.mounts : Command → Bool
  | .mount _ => true
  | .mountLoop _ => true
  | _ => false

theorem commands_writeImage {script : Script} (hscript : script ∈ scripts)
    (hwrites : .writeImage ∈ script.commands) :
    ∃ before after, script.commands = before ++ .umount .rootfs :: after ++ [.writeImage] ∧
      .writeImage ∉ before ++ .umount .rootfs :: after ∧ ∀ c ∈ after, c.mounts = false := by
  simp only [scripts, List.mem_cons, List.not_mem_nil, or_false] at hscript
  rcases hscript with rfl | rfl | rfl | rfl | rfl
  · exact ⟨buildTestImage.commands.take 36, [.losetupDetach, .run .mkdir], by decide⟩
  · exact ⟨updateTestImage.commands.take 6, [], by decide⟩
  · exact ⟨updateImageNative.commands.take 10, [.run .qemuImg], by decide⟩
  · exact absurd hwrites (by decide)
  · exact absurd hwrites (by decide)

theorem mounted_umount_rootfs {s : Host} {busy : Point → Bool}
    (h : (s.umount busy .rootfs).2 = true) (m : Point) :
    (s.umount busy .rootfs).1.mounted m = false := by
  simp only [Host.umount, umount] at h ⊢
  split at h
  next hgoes =>
    rw [if_pos hgoes]
    simp only [Bool.and_eq_true, List.all_eq_true, Bool.not_eq_true',
      Bool.and_eq_false_iff] at hgoes
    rcases eq_or_ne m .rootfs with rfl | hm
    · exact Function.update_self Point.rootfs false s.mounted
    · refine (Function.update_of_ne hm false s.mounted).trans ?_
      rcases hgoes.2 m (mem_points m) with h | h
      · cases m <;> first | exact absurd rfl hm | cases h
      · exact h
  next => cases h

theorem mounted_act {c : Command} (hc : c.mounts = false) (ok : Bool) {s : Host}
    (h : ∀ m, s.mounted m = false) (m : Point) : (act c ok s).1.mounted m = false := by
  have humount : ∀ busy a, (s.umount busy a).1.mounted m = false := by
    intro busy a
    refine Bool.eq_false_iff.mpr fun ha => ?_
    have hm : s.mounted m = true := of_umount ha
    rw [h] at hm
    cases hm
  cases c with
  | mount a => cases hc
  | mountLoop a => cases hc
  | run tool => exact h m
  | umount a => exact humount _ a
  | umountOrTrue a => exact humount _ a
  | losetup =>
      rw [act]
      split <;> exact h m
  | losetupDetach =>
      rw [act]
      split
      · exact (congrFun (mounted_losetupDetach s) m).trans (h m)
      · exact h m
  | writeImage => exact h m

theorem mounted_commands {before after : List Command} (hafter : ∀ c ∈ after, c.mounts = false)
    {ok : Nat → Bool}
    (h : (Library.Cleanup.script act ok 0 (before ++ .umount .rootfs :: after) .initial).2 = true)
    (m : Point) :
    (Library.Cleanup.script act ok 0 (before ++ .umount .rootfs :: after)
      .initial).1.mounted m = false := by
  rw [script_append] at h ⊢
  dsimp only at h ⊢
  split at h
  next hbefore =>
    rw [if_pos hbefore]
    rw [Library.Cleanup.script] at h ⊢
    split at h
    next hgoes =>
      rw [if_pos hgoes]
      exact script_invariant ok (I := fun s : Host => ∀ m, s.mounted m = false)
        (fun c hc ok s hs => mounted_act (hafter c hc) ok hs) (mounted_umount_rootfs hgoes) _ m
    next => cases h
  next hbefore => exact absurd h hbefore

theorem image_act {c : Command} (hc : c ≠ .writeImage) (ok : Bool) (s : Host) :
    (act c ok s).1.image = s.image := by
  cases c with
  | writeImage => exact absurd rfl hc
  | run tool => rfl
  | umount a => rfl
  | umountOrTrue a => rfl
  | losetupDetach =>
      rw [act]
      split
      · exact image_losetupDetach s
      · rfl
  | mount a => rw [act]; split <;> rfl
  | mountLoop a => rw [act]; split <;> rfl
  | losetup => rw [act]; split <;> rfl

theorem image_commands {commands : List Command} (hcommands : .writeImage ∉ commands)
    (ok : Nat → Bool) :
    (Library.Cleanup.script act ok 0 commands .initial).1.image = .unchanged := by
  refine script_invariant ok (I := fun s : Host => s.image = .unchanged)
    (fun c hc ok s hs => ?_) rfl 0
  exact (image_act (fun h => hcommands (h ▸ hc)) ok s).trans hs

/-- A script writes its image by its last command: the image is as it was unless all commands
before have gone well, and then nothing of it is mounted any more.  Only a failure of the write
itself leaves it broken. -/
theorem run_image {script : Script} (hscript : script ∈ scripts) (ok : Nat → Bool)
    (busy : Point → Bool) (detaches : Bool) :
    ((run script ok busy detaches).image = .written ↔
      .writeImage ∈ script.commands ∧ (executed script ok).2 = true) ∧
    ((run script ok busy detaches).image = .broken ↔
      .writeImage ∈ script.commands ∧ ok (script.commands.length - 1) = false ∧
        (Library.Cleanup.script act ok 0 script.commands.dropLast .initial).2 = true) ∧
    ((run script ok busy detaches).image ≠ .unchanged →
      ∀ m, (executed script ok).1.mounted m = false) := by
  rw [run, image_cleanup, executed]
  by_cases hwrites : .writeImage ∈ script.commands
  · obtain ⟨before, after, hcommands, hother, hafter⟩ := commands_writeImage hscript hwrites
    have himage := image_commands hother ok
    have hmounted : (Library.Cleanup.script act ok 0 (before ++ .umount .rootfs :: after)
        .initial).2 = true → ∀ m, (Library.Cleanup.script act ok 0
          (before ++ .umount .rootfs :: after) .initial).1.mounted m = false :=
      mounted_commands hafter
    rw [hcommands, List.dropLast_concat, List.length_append, List.length_singleton,
      Nat.add_sub_cancel, script_concat]
    generalize before ++ .umount .rootfs :: after = commands at himage hmounted ⊢
    generalize Library.Cleanup.script act ok 0 commands .initial = p at himage hmounted ⊢
    dsimp only
    rw [Nat.zero_add]
    cases hp : p.2 with
    | false => simp [himage, hp]
    | true =>
        have hmounted := hmounted hp
        cases hok : ok commands.length with
        | false => simpa [act] using hmounted
        | true => simpa [act] using hmounted
  · simp [image_commands hwrites ok, hwrites]

/-- An update that goes well throughout. -/
theorem run_image_update :
    (run updateTestImage (fun _ => true) (fun _ => false) true).image = .written :=
  (run_image (by simp [scripts]) (fun _ => true) (fun _ => false) true).1.mpr
    ⟨by decide, by decide⟩

end ZenOS.ImageTools
