import ZenOS.ImageTools.Scripts
import Mathlib.Data.List.Induction

/-!
`image.rs`, and the beginning of the script that it starts: its options and its checks.
-/

namespace ZenOS.ImageTools

/-- The options with a value. -/
inductive Setting where
  | compositor
  | builddir
  | output
  | diskSize
  deriving DecidableEq

def Setting.flag : Setting → String
  | .compositor => "--compositor"
  | .builddir => "--builddir"
  | .output => "--output"
  | .diskSize => "--disk-size"

structure Options where
  compositorBin : String
  buildDir : String
  output : String
  diskSizeMb : String

namespace Options

def initial : Options where
  compositorBin := ""
  buildDir := ""
  output := ""
  diskSizeMb := "2048"

def set (o : Options) (value : String) : Setting → Options
  | .compositor => { o with compositorBin := value }
  | .builddir => { o with buildDir := value }
  | .output => { o with output := value }
  | .diskSize => { o with diskSizeMb := value }

end Options

def settings : List Setting :=
  [.compositor, .builddir, .output, .diskSize]

/-- The loop over the arguments; an error is the exit status.  Under `set -u` an option without
its value ends the script. -/
def parseArguments : List String → Options → Except Nat Options
  | [], o => .ok o
  | flag :: rest, o =>
      match settings.find? (·.flag = flag) with
      | some setting =>
          match rest with
          | value :: rest => parseArguments rest (o.set value setting)
          | [] => .error 1
      | none => .error (if flag = "--help" ∨ flag = "-h" then 0 else 1)

/-- What the checks look at. -/
structure System where
  isFile : String → Bool
  root : Bool
  hasCommand : String → Bool
  mktemp : Bool

def requiredCommands : List String :=
  ["qemu-img", "sfdisk", "mkfs.ext4", "debootstrap", "mount", "chroot"]

/-- The script up to its trap: its options, or the status with which it exits. -/
def preamble (sys : System) (argv : List String) : Except Nat Options :=
  match parseArguments argv .initial with
  | .error status => .error status
  | .ok o =>
      if o.compositorBin = "" ∨ o.output = "" then .error 1
      else if !sys.isFile o.compositorBin then .error 1
      else if !sys.root then .error 1
      else if !requiredCommands.all sys.hasCommand then .error 1
      else if !sys.mktemp then .error 1
      else .ok o

/-- What becomes of `sudo bash <script>`: it cannot be executed, it refuses, or it runs the
script. -/
inductive Sudo where
  | missing (e : String)
  | refused
  | granted
  deriving DecidableEq

/-- The surroundings of `zen-test image build`. -/
structure World extends System where
  -- the paths that exist before, and the answer of `git rev-parse --show-toplevel`
  pathExists : String → Bool
  toplevel : Option String
  sudoBash : Sudo
  stderr : String
  -- how the commands of the script go, and whether its `rm -rf` succeeds
  ok : Nat → Bool
  busy : Point → Bool
  detaches : Bool
  removes : Bool
  -- the file at the output path behind the script
  size : Option Nat

structure ImageInfo where
  path : String
  sizeBytes : Nat

def candidates : List String :=
  ["tools/image-builder/build-test-image.sh", "../image-builder/build-test-image.sh",
    "../../tools/image-builder/build-test-image.sh"]

def findBuildScript (w : World) : Except String String :=
  let fromRoot := w.toplevel.map (· ++ "/tools/image-builder/build-test-image.sh")
  match candidates.find? w.pathExists, fromRoot.filter w.pathExists with
  | some path, _ => .ok path
  | none, some path => .ok path
  | none, none => .error
      "Infrastructure error: build-test-image.sh not found. Run from the repo root."

/-- The script with these arguments: whether it succeeds, and what becomes of the image. -/
def runBuildScript (w : World) (argv : List String) : Bool × Image :=
  match preamble w.toSystem argv with
  | .error status => (status = 0, .unchanged)
  | .ok _ =>
      ((executed buildTestImage w.ok).2 && w.removes,
        (run buildTestImage w.ok w.busy w.detaches).image)

/-- `build_image`: the script gets the two paths in its environment, and no arguments. -/
def buildImage (w : World) (_compositorPath outputPath : String) :
    Except String ImageInfo × Image :=
  match findBuildScript w with
  | .error e => (.error e, .unchanged)
  | .ok _ =>
      match w.sudoBash with
      | .missing e =>
          (.error ("Image build failed: Failed to run build script: " ++ e), .unchanged)
      | .refused => (.error ("Image build failed: Build script failed: " ++ w.stderr), .unchanged)
      | .granted =>
          let (success, image) := runBuildScript w []
          if success then
            match w.size with
            | some sizeBytes => (.ok ⟨outputPath, sizeBytes⟩, image)
            | none =>
                (.error "Image build failed: Build completed but output image not found", image)
          else (.error ("Image build failed: Build script failed: " ++ w.stderr), image)

/-- The arguments that set these options. -/
def arguments (given : List (Setting × String)) : List String :=
  given.flatMap fun (setting, value) => [setting.flag, value]

/-- The value with which an option is given last. -/
def lastValue (given : List (Setting × String)) (setting : Setting) (otherwise : String) :
    String :=
  ((given.reverse.find? (·.1 = setting)).map (·.2)).getD otherwise

theorem find?_flag (setting : Setting) :
    settings.find? (·.flag = setting.flag) = some setting := by
  cases setting <;> decide

theorem parseArguments_arguments (given : List (Setting × String)) (o : Options) :
    parseArguments (arguments given) o =
      .ok (given.foldl (fun o (setting, value) => o.set value setting) o) := by
  induction given generalizing o with
  | nil => rfl
  | cons p given ih =>
      obtain ⟨setting, value⟩ := p
      rw [arguments, List.flatMap_cons, List.cons_append, parseArguments, find?_flag]
      exact ih (o.set value setting)

theorem foldl_set (given : List (Setting × String)) (o : Options) :
    given.foldl (fun o (setting, value) => o.set value setting) o =
      { compositorBin := lastValue given .compositor o.compositorBin
        buildDir := lastValue given .builddir o.buildDir
        output := lastValue given .output o.output
        diskSizeMb := lastValue given .diskSize o.diskSizeMb } := by
  induction given using List.reverseRecOn with
  | nil => rfl
  | append_singleton given p ih =>
      obtain ⟨setting, value⟩ := p
      rw [List.foldl_append, ih]
      cases setting <;> simp [lastValue, Options.set]

theorem preamble_ok_iff (sys : System) (given : List (Setting × String)) :
    (∃ o, preamble sys (arguments given) = .ok o) ↔
      lastValue given .compositor "" ≠ "" ∧ lastValue given .output "" ≠ "" ∧
        sys.isFile (lastValue given .compositor "") = true ∧ sys.root = true ∧
        (∀ c ∈ requiredCommands, sys.hasCommand c = true) ∧ sys.mktemp = true := by
  rw [preamble, parseArguments_arguments, foldl_set]
  dsimp only [Options.initial]
  rw [← List.all_eq_true]
  split
  next h =>
    refine iff_of_false (by simp) fun hgoes => ?_
    exact h.elim hgoes.1 hgoes.2.1
  next h =>
    rw [not_or] at h
    rw [and_iff_right h.1, and_iff_right h.2]
    generalize sys.isFile (lastValue given .compositor "") = file
    generalize requiredCommands.all sys.hasCommand = commands
    rcases file with _ | _ <;> rcases sys.root with _ | _ <;> rcases commands with _ | _ <;>
      rcases sys.mktemp with _ | _ <;> simp

theorem runBuildScript_nil (w : World) : runBuildScript w [] = (false, .unchanged) :=
  rfl

/-- `zen-test image build` never builds an image: whatever the surroundings, it fails and leaves
the image as it was, also where the script with the two paths as its options would get to its
work. -/
theorem buildImage_fails (w : World) (compositorPath outputPath : String) :
    (∃ e, buildImage w compositorPath outputPath = (.error e, .unchanged)) ∧
      ((∃ o, preamble w.toSystem
          (arguments [(.compositor, compositorPath), (.output, outputPath)]) = .ok o) ↔
        compositorPath ≠ "" ∧ outputPath ≠ "" ∧ w.isFile compositorPath = true ∧
          w.root = true ∧ (∀ c ∈ requiredCommands, w.hasCommand c = true) ∧
          w.mktemp = true) := by
  refine ⟨?_, preamble_ok_iff w.toSystem _⟩
  rw [buildImage]
  split
  next e _ => exact ⟨e, rfl⟩
  next =>
    split
    next e _ => exact ⟨_, rfl⟩
    next => exact ⟨_, rfl⟩
    next =>
      rw [runBuildScript_nil]
      exact ⟨_, rfl⟩

end ZenOS.ImageTools
