import Mathlib.Data.List.Basic

/-!
`gate/definition.rs` and the evaluation of one gate in `gate/runner.rs`.  What the
virtual machine does during a gate is left to a `Guest`; screenshots that are kept and
elapsed times are left out.
-/

namespace ZenOS.ZenTest

structure GateMeta where
  name : String
  phase : String
  subPhase : String
  timeoutSeconds : Nat

structure SerialAssert where
  pattern : String
  description : Option String

structure SerialAbsentAssert where
  pattern : String
  description : Option String

structure ExecAssert where
  command : String
  exitCode : Int
  description : Option String
  timeoutSeconds : Nat

structure ScreenshotAssert where
  assertType : String
  minSizeBytes : Option Nat
  description : Option String

structure AssertSection where
  serial : List SerialAssert
  serialAbsent : List SerialAbsentAssert
  exec : List ExecAssert
  screenshot : List ScreenshotAssert

/-- The sections of a gate file that decide about its result. -/
structure GateSpec where
  gate : GateMeta
  assert : AssertSection

/-- A file in the gate directory; its content is missing when it cannot be read. -/
structure GateFile where
  path : List String
  content : Option String

/-- `parse_gate_file`; `fromStr` is `toml::from_str`. -/
def parseGateFile (fromStr : String → Except String GateSpec) (file : GateFile) :
    Except String GateSpec :=
  match file.content with
  | none => .error ("Gate parse error: Failed to read " ++ "/".intercalate file.path)
  | some content => fromStr content

inductive GateStatus where
  | passed
  | failed
  | timeout
  | error
  deriving DecidableEq

structure AssertionResult where
  description : String
  passed : Bool
  detail : Option String
  deriving DecidableEq

structure GateResult where
  gate : String
  phase : String
  subPhase : String
  status : GateStatus
  assertions : List AssertionResult
  passed : Nat
  failed : Nat
  error : Option String
  deriving DecidableEq

structure GuestExecResult where
  exitCode : Int
  stdout : String

structure ScreenshotInfo where
  sizeBytes : Nat
  isBlank : Bool

/-- What happens in the virtual machine while a gate runs: whether the gate's time runs
out, the error that ends it before the assertions, and what each assertion of a section
meets. -/
structure Guest where
  timedOut : Bool
  failure : Option String
  logContains : Nat → String → Bool
  logAbsent : Nat → String → Bool
  exec : Nat → Except String GuestExecResult
  capture : Nat → Except String ScreenshotInfo

/-- The characters that Rust's `trim` removes. -/
def isWhitespace (c : Char) : Bool :=
  (0x9 ≤ c.toNat && c.toNat ≤ 0xd) || (0x2000 ≤ c.toNat && c.toNat ≤ 0x200a) ||
    c.toNat ∈ [0x20, 0x85, 0xa0, 0x1680, 0x2028, 0x2029, 0x202f, 0x205f, 0x3000]

def trim (s : String) : String :=
  .ofList ((s.toList.dropWhile isWhitespace).reverse.dropWhile isWhitespace).reverse

def serialAssertion (guest : Guest) (sa : SerialAssert) (i : Nat) : AssertionResult :=
  let found := guest.logContains i sa.pattern
  { description := sa.description.getD ("Serial contains: " ++ sa.pattern)
    passed := found
    detail := if found then none else some ("Pattern not found: " ++ sa.pattern) }

def serialAbsentAssertion (guest : Guest) (sa : SerialAbsentAssert) (i : Nat) :
    AssertionResult :=
  let absent := guest.logAbsent i sa.pattern
  { description := sa.description.getD ("Serial absent: " ++ sa.pattern)
    passed := absent
    detail :=
      if absent then none
      else some ("Pattern found (should be absent): " ++ sa.pattern) }

def execAssertion (guest : Guest) (ea : ExecAssert) (i : Nat) : AssertionResult :=
  let (passed, detail) := match guest.exec i with
    | .ok r =>
        if r.exitCode = ea.exitCode then (true, none)
        else (false, some ("Expected exit code " ++ toString ea.exitCode ++ ", got " ++
          toString r.exitCode ++ ". stdout: " ++ trim r.stdout))
    | .error e => (false, some ("Exec failed: " ++ e))
  { description := ea.description.getD ("Exec: " ++ ea.command), passed, detail }

def screenshotAssertion (guest : Guest) (sa : ScreenshotAssert) (i : Nat) :
    AssertionResult :=
  let (passed, detail) := match guest.capture i with
    | .ok info =>
        if sa.assertType = "non_blank" then
          let sizeOk := sa.minSizeBytes.all (· ≤ info.sizeBytes)
          if sizeOk && !info.isBlank then (true, none)
          else (false, some ("blank=" ++ toString info.isBlank ++ ", size=" ++
            toString info.sizeBytes ++ " (min=" ++ toString (sa.minSizeBytes.getD 0) ++ ")"))
        else (false, some ("Unknown screenshot type: " ++ sa.assertType))
    | .error e => (false, some ("Screenshot failed: " ++ e))
  { description := sa.description.getD ("Screenshot: " ++ sa.assertType), passed, detail }

/-- The assertions of a gate, in the order in which they are evaluated. -/
def evaluate (guest : Guest) (assert : AssertSection) : List AssertionResult :=
  (assert.serial.zipIdx.map fun (sa, i) => serialAssertion guest sa i) ++
    (assert.serialAbsent.zipIdx.map fun (sa, i) => serialAbsentAssertion guest sa i) ++
    (assert.exec.zipIdx.map fun (ea, i) => execAssertion guest ea i) ++
    assert.screenshot.zipIdx.map fun (sa, i) => screenshotAssertion guest sa i

def runGateInner (spec : GateSpec) (guest : Guest) : Except String GateResult :=
  match guest.failure with
  | some e => .error e
  | none =>
      let assertions := evaluate guest spec.assert
      let failed := assertions.countP (!·.passed)
      .ok
        { gate := spec.gate.name, phase := spec.gate.phase, subPhase := spec.gate.subPhase
          status := if failed = 0 then .passed else .failed
          assertions, passed := assertions.countP (·.passed), failed, error := none }

def runGate (spec : GateSpec) (guest : Guest) : GateResult :=
  let unfinished := fun status error =>
    { gate := spec.gate.name, phase := spec.gate.phase, subPhase := spec.gate.subPhase
      status, assertions := [], passed := 0, failed := 0, error := some error }
  if guest.timedOut then
    unfinished .timeout ("Gate timed out after " ++ toString spec.gate.timeoutSeconds ++ "s")
  else
    match runGateInner spec guest with
    | .ok result => result
    | .error e => unfinished .error e

/-- The gate gets to its assertions in time, and each of them holds in the virtual
machine. -/
structure Guest.Satisfies (guest : Guest) (spec : GateSpec) : Prop where
  inTime : guest.timedOut = false
  completed : guest.failure = none
  serial : ∀ p ∈ spec.assert.serial.zipIdx, guest.logContains p.2 p.1.pattern = true
  serialAbsent : ∀ p ∈ spec.assert.serialAbsent.zipIdx,
    guest.logAbsent p.2 p.1.pattern = true
  exec : ∀ p ∈ spec.assert.exec.zipIdx,
    ∃ r, guest.exec p.2 = .ok r ∧ r.exitCode = p.1.exitCode
  screenshot : ∀ p ∈ spec.assert.screenshot.zipIdx, p.1.assertType = "non_blank" ∧
    ∃ info, guest.capture p.2 = .ok info ∧ info.isBlank = false ∧
      ∀ minSize ∈ p.1.minSizeBytes, minSize ≤ info.sizeBytes

section Passing

variable (guest : Guest)

theorem execAssertion_passed (ea : ExecAssert) (i : Nat) :
    (execAssertion guest ea i).passed = true ↔
      ∃ r, guest.exec i = .ok r ∧ r.exitCode = ea.exitCode := by
  rw [execAssertion]
  rcases guest.exec i with e | r
  · simp
  · rcases eq_or_ne r.exitCode ea.exitCode with heq | hne
    · simp [heq]
    · simp [hne]

theorem screenshotAssertion_passed (sa : ScreenshotAssert) (i : Nat) :
    (screenshotAssertion guest sa i).passed = true ↔ sa.assertType = "non_blank" ∧
      ∃ info, guest.capture i = .ok info ∧ info.isBlank = false ∧
        ∀ minSize ∈ sa.minSizeBytes, minSize ≤ info.sizeBytes := by
  rw [screenshotAssertion]
  rcases guest.capture i with e | info
  · simp
  rcases eq_or_ne sa.assertType "non_blank" with htype | htype
  · have hsize : sa.minSizeBytes.all (· ≤ info.sizeBytes) = true ↔
        ∀ minSize ∈ sa.minSizeBytes, minSize ≤ info.sizeBytes := by
      rcases sa.minSizeBytes with _ | minSize <;> simp
    simp only [htype, if_true, true_and, Except.ok.injEq, exists_eq_left', ← hsize]
    rcases sa.minSizeBytes.all (· ≤ info.sizeBytes) with _ | _ <;>
      rcases info.isBlank with _ | _ <;> simp
  · simp [htype]

theorem evaluate_passed_iff (assert : AssertSection) :
    (∀ a ∈ evaluate guest assert, a.passed = true) ↔
      (∀ p ∈ assert.serial.zipIdx, guest.logContains p.2 p.1.pattern = true) ∧
      (∀ p ∈ assert.serialAbsent.zipIdx, guest.logAbsent p.2 p.1.pattern = true) ∧
      (∀ p ∈ assert.exec.zipIdx, ∃ r, guest.exec p.2 = .ok r ∧ r.exitCode = p.1.exitCode) ∧
      ∀ p ∈ assert.screenshot.zipIdx, p.1.assertType = "non_blank" ∧
        ∃ info, guest.capture p.2 = .ok info ∧ info.isBlank = false ∧
          ∀ minSize ∈ p.1.minSizeBytes, minSize ≤ info.sizeBytes := by
  simp only [evaluate, List.forall_mem_append, List.forall_mem_map, and_assoc]
  refine and_congr Iff.rfl (and_congr Iff.rfl (and_congr ?_ ?_))
  · exact forall₂_congr fun p _ => execAssertion_passed guest p.1 p.2
  · exact forall₂_congr fun p _ => screenshotAssertion_passed guest p.1 p.2

theorem runGate_passed_iff (spec : GateSpec) :
    (runGate spec guest).status = .passed ↔ guest.Satisfies spec := by
  have hsatisfies : guest.Satisfies spec ↔ guest.timedOut = false ∧ guest.failure = none ∧
      ∀ a ∈ evaluate guest spec.assert, a.passed = true := by
    rw [evaluate_passed_iff]
    constructor
    · intro h
      exact ⟨h.inTime, h.completed, h.serial, h.serialAbsent, h.exec, h.screenshot⟩
    · rintro ⟨htime, hcompleted, hserial, habsent, hexec, hscreenshot⟩
      exact ⟨htime, hcompleted, hserial, habsent, hexec, hscreenshot⟩
  rw [hsatisfies, runGate]
  rcases guest.timedOut with _ | _
  · rw [runGateInner]
    rcases guest.failure with _ | e
    · simp
    · simp
  · simp

end Passing

end ZenOS.ZenTest
