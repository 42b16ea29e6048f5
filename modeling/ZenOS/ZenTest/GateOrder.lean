import ZenOS.Library.DottedNumbers
import ZenOS.Library.StableSort
import ZenOS.ZenTest.Runner

/-!
The order in which `run_gates` runs the gates of a directory, and the order of their numbers.
-/

namespace ZenOS.ZenTest

open ZenOS.Library.DottedNumbers
open ZenOS.Library.StableSort

def phaseNumber (phase subPhase : String) : List Nat ×ₗ List Nat :=
  toLex (numbers phase.toList, numbers subPhase.toList)

def GateSpec.number (spec : GateSpec) : List Nat ×ₗ List Nat :=
  phaseNumber spec.gate.phase spec.gate.subPhase

def GateResult.number (result : GateResult) : List Nat ×ₗ List Nat :=
  phaseNumber result.phase result.subPhase

def GateSpec.IsNumbered (spec : GateSpec) : Prop :=
  IsDotted spec.gate.phase.toList ∧ IsDotted spec.gate.subPhase.toList

instance : DecidablePred GateSpec.IsNumbered := fun _ => inferInstanceAs (Decidable (_ ∧ _))

/-- The components of the phase and of the sub-phase, one after the other and as they are
written. -/
def GateSpec.digits (spec : GateSpec) : List (List Char) :=
  pieces spec.gate.phase.toList ++ pieces spec.gate.subPhase.toList

section Order

variable (fromStr : String → Except String GateSpec) (guest : GateFile → Guest)
  (root : Node) (phase : Option String)

def RunsInOrder : Prop :=
  (runGates fromStr guest root phase).Pairwise fun a b => a.number ≤ b.number

variable {fromStr root phase}

theorem runGate_number (spec : GateSpec) (guest : Guest) :
    (runGate spec guest).number = spec.number := by
  simp only [runGate]
  split
  · rfl
  · split
    · next result h =>
        rw [runGateInner] at h
        split at h
        · cases h
        · cases h
          rfl
    · rfl

theorem sortKey_le_iff {a b : GateSpec} (ha : a.IsNumbered) (hb : b.IsNumbered) :
    sortKey a ≤ sortKey b ↔ a.digits ≤ b.digits := by
  have hkey : ∀ spec : GateSpec, (sortKey spec).toList =
      spec.gate.phase.toList ++ '.' :: spec.gate.subPhase.toList := by
    intro spec
    simp [sortKey]
  have hlt := pieces_lt_pieces_iff (hb.1.append_dot hb.2) (ha.1.append_dot ha.2)
  rw [pieces_append_dot, pieces_append_dot, ← hkey, ← hkey] at hlt
  rw [String.le_iff_toList_le, ← not_lt, ← not_lt, ← hlt]
  rfl

theorem runGates_eq_map_sortByKey :
    runGates fromStr guest root phase =
      (sortByKey (fun p => sortKey p.2) (collectSpecs fromStr root phase)).map
        fun p => runGate p.2 (guest p.1) :=
  rfl

theorem inOrder_iff_sortKey :
    RunsInOrder fromStr guest root phase ↔
      (collectSpecs fromStr root phase).Pairwise fun a b =>
        if sortKey a.2 ≤ sortKey b.2 then a.2.number ≤ b.2.number
        else b.2.number ≤ a.2.number := by
  rw [RunsInOrder, runGates_eq_map_sortByKey, List.pairwise_map]
  simp only [runGate_number]
  rw [pairwise_sortByKey_iff (R := fun a b : GateFile × GateSpec => a.2.number ≤ b.2.number)]

theorem digits_le_iff {a b : GateSpec} (ha : a.IsNumbered) (hb : b.IsNumbered)
    (hphase : (pieces a.gate.phase.toList).map List.length =
      (pieces b.gate.phase.toList).map List.length)
    (hsub : (pieces a.gate.subPhase.toList).map List.length =
      (pieces b.gate.subPhase.toList).map List.length) :
    a.digits ≤ b.digits ↔ a.number ≤ b.number := by
  have hdigits : ∀ {spec : GateSpec}, spec.IsNumbered →
      ∀ digits ∈ spec.digits, ∀ c ∈ digits, c.isDigit = true := by
    intro spec h digits hmem
    exact (List.mem_append.mp hmem).elim (fun hmem => (h.1 digits hmem).2)
      fun hmem => (h.2 digits hmem).2
  have hlength : (numbers b.gate.phase.toList).length = (numbers a.gate.phase.toList).length := by
    simpa [numbers] using congrArg List.length hphase.symm
  have hlengths : b.digits.map List.length = a.digits.map List.length := by
    rw [GateSpec.digits, GateSpec.digits, List.map_append, List.map_append, hphase, hsub]
  have hvalue := map_value_lt_map_value_iff (hdigits hb) (hdigits ha) hlengths
  rw [← not_lt, ← not_lt, ← hvalue, GateSpec.digits, GateSpec.digits, List.map_append,
    List.map_append]
  exact not_congr (append_lt_append_iff hlength)

/-- The components of one place are written with equally many digits in all of these gates. -/
def EquallyLong (specs : List (GateFile × GateSpec)) : Prop :=
  ∀ p ∈ specs, ∀ q ∈ specs,
    (pieces p.2.gate.phase.toList).map List.length =
      (pieces q.2.gate.phase.toList).map List.length ∧
    (pieces p.2.gate.subPhase.toList).map List.length =
      (pieces q.2.gate.subPhase.toList).map List.length

/-- The gates are run in the order of their numbers exactly when the texts have that order too,
and so if no component has more digits than those in its place. -/
theorem runGates_inOrder_iff
    (hnumbered : ∀ p ∈ collectSpecs fromStr root phase, p.2.IsNumbered) :
    (RunsInOrder fromStr guest root phase ↔
      (collectSpecs fromStr root phase).Pairwise fun a b =>
        if a.2.digits ≤ b.2.digits then a.2.number ≤ b.2.number
        else b.2.number ≤ a.2.number) ∧
    (EquallyLong (collectSpecs fromStr root phase) → RunsInOrder fromStr guest root phase) := by
  have hiff : RunsInOrder fromStr guest root phase ↔
      (collectSpecs fromStr root phase).Pairwise fun a b =>
        if a.2.digits ≤ b.2.digits then a.2.number ≤ b.2.number
        else b.2.number ≤ a.2.number := by
    rw [inOrder_iff_sortKey]
    refine List.Pairwise.iff_of_mem fun {a b} ha hb => ?_
    simp only [sortKey_le_iff (hnumbered a ha) (hnumbered b hb)]
  refine ⟨hiff, fun hlengths => hiff.mpr ?_⟩
  refine List.pairwise_of_forall_mem_list fun a ha b hb => ?_
  obtain ⟨hphase, hsub⟩ := hlengths a ha b hb
  have hle := digits_le_iff (hnumbered a ha) (hnumbered b hb) hphase hsub
  split
  · next h => exact hle.mp h
  · next h => exact (not_le.mp (h ∘ hle.mpr)).le

end Order

/-- What the gate files of a directory with two gates say. -/
def numberedSpec (content : String) : GateSpec where
  gate := { name := content, phase := "1", subPhase := content, timeoutSeconds := 60 }
  assert := { serial := [], serialAbsent := [], exec := [], screenshot := [] }

def idleGuest : Guest where
  timedOut := false
  failure := none
  logContains := fun _ _ => true
  logAbsent := fun _ _ => true
  exec := fun _ => .error ""
  capture := fun _ => .error ""

def twoGates (first second : String) : Node :=
  .directory (.entry "a.toml" (.file (some first)) (.entry "b.toml" (.file (some second)) .nil))

theorem runGates_inOrder_iff_two :
    RunsInOrder (.ok ∘ numberedSpec) (fun _ => idleGuest) (twoGates "1.9" "1.8") none :=
  (runGates_inOrder_iff _ (by decide +kernel)).1.mpr (by decide +kernel)

/-- The gate with the number 1.10 is run before the one with the number 1.2. -/
theorem tenth_before_second :
    (∀ p ∈ collectSpecs (.ok ∘ numberedSpec) (twoGates "1.2" "1.10") none, p.2.IsNumbered) ∧
      ¬ RunsInOrder (.ok ∘ numberedSpec) (fun _ => idleGuest) (twoGates "1.2" "1.10") none := by
  refine ⟨by decide +kernel, fun h => ?_⟩
  have horder := (inOrder_iff_sortKey _).mp h
  revert horder
  decide +kernel

end ZenOS.ZenTest
