import ZenOS.ZenTest.Gate
import Mathlib.Data.List.Sort
import Mathlib.Data.String.Basic

/-!
`gate/runner.rs` and `handle_gate` of `main.rs`: the walk through the gate directory, the
gates it selects, and the verdict.
-/

namespace ZenOS.ZenTest

mutual

/-- What `is_dir`, `read_dir` and `read_to_string` see at a path. -/
inductive Node where
  | file (content : Option String)
  | directory (entries : Entries)
  -- not even the metadata can be read, so that a directory is not recognised
  | inaccessible (directory : Bool)

/-- The entries of a directory in the order in which they are read, up to an error. -/
inductive Entries where
  | nil
  -- the directory, or its next entry, cannot be read
  | unreadable
  | entry (name : String) (node : Node) (rest : Entries)

end

def Node.isDir : Node → Bool
  | .directory _ => true
  | _ => false

def Node.content : Node → Option String
  | .file content => content
  | _ => none

/-- `Path::extension`: what stands behind the last dot, unless that is the first
character. -/
def extension (name : String) : Option String :=
  let after := (name.toList.reverse.takeWhile (· ≠ '.')).reverse
  let before := name.toList.take (name.toList.length - after.length - 1)
  if before = [] then none else some (.ofList after)

def isToml (path : List String) : Bool :=
  (path.getLast?.bind extension) = some "toml"

mutual

def walkTomlFiles (dir : List String) : Node → Except String (List GateFile)
  | .directory entries => walkEntries dir entries
  | .file _ | .inaccessible _ => .ok []

/-- The loop over the entries of a directory. -/
def walkEntries (dir : List String) : Entries → Except String (List GateFile)
  | .nil => .ok []
  | .unreadable => .error ("/".intercalate dir)
  | .entry name node rest => do
      let path := dir ++ [name]
      let files ←
        if node.isDir then walkTomlFiles path node
        else if isToml path then .ok [⟨path, node.content⟩]
        else .ok []
      let more ← walkEntries dir rest
      .ok (files ++ more)

end

def selected (phase : Option String) (spec : GateSpec) : Bool :=
  phase.all (spec.gate.phase = ·)

def sortKey (spec : GateSpec) : String :=
  spec.gate.phase ++ "." ++ spec.gate.subPhase

section

variable (fromStr : String → Except String GateSpec) (guest : GateFile → Guest)

/-- The gates that are run.  A file that cannot be parsed is logged and left out, and
when the walk fails there are none. -/
def collectSpecs (root : Node) (phase : Option String) : List (GateFile × GateSpec) :=
  match walkTomlFiles [] root with
  | .ok files => files.filterMap fun file =>
      match parseGateFile fromStr file with
      | .ok spec => if selected phase spec then some (file, spec) else none
      | .error _ => none
  | .error _ => []

def runGates (root : Node) (phase : Option String) : List GateResult :=
  ((collectSpecs fromStr root phase).mergeSort fun a b =>
    decide (sortKey a.2 ≤ sortKey b.2)).map fun (file, spec) => runGate spec (guest file)

inductive OutputStatus where
  | ok
  | fail
  deriving DecidableEq

/-- The JSON object on stdout; its code is the exit code. -/
structure Output where
  status : OutputStatus
  code : Nat
  error : Option String
  results : List GateResult

/-- `report::summary` -/
def summary (results : List GateResult) : String :=
  let count := fun status => toString (results.countP (·.status = status))
  toString results.length ++ " gates: " ++ count .passed ++ " passed, " ++ count .failed ++
    " failed, " ++ count .timeout ++ " timeout, " ++ count .error ++ " error"

/-- The end of `gate run`: `emit_ok`, or the JSON of failed gates. -/
def emitResults (results : List GateResult) : Output :=
  if results.all (·.status = .passed) then
    { status := .ok, code := 0, error := none, results }
  else { status := .fail, code := 1, error := some (summary results), results }

/-- `handle_gate` for `gate run`, with an explicit gate file or a gate directory. -/
def handleGateRun (gateFile : Option GateFile) (root : Node) (phase : Option String) :
    Output :=
  match gateFile with
  | some file =>
      match parseGateFile fromStr file with
      | .ok spec => emitResults [runGate spec (guest file)]
      | .error e =>
          { status := .fail, code := 1
            error := some ("Failed to parse gate: " ++ e), results := [] }
  | none => emitResults (runGates fromStr guest root phase)

end

end ZenOS.ZenTest
