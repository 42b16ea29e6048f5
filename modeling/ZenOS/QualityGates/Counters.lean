import ZenOS.QualityGates.Record

/-!
The counters of the orchestrator beside the lines that it has recorded.
-/

namespace ZenOS.QualityGates

open ZenOS.Library.Shell

/-- A call of a function that records a gate, with what it meets. -/
inductive Call where
  | runCheck (W : World Command Variable) (gate : GateId)
  | skipGate (gate : GateId)
  | runVmGate (h : Host) (gate : GateId)

def Call.run (t : Tracking) : Call → Tracking
  | .runCheck W gate => (QualityGates.runCheck W t gate).1
  | .skipGate gate => QualityGates.skipGate t gate
  | .runVmGate h gate => (QualityGates.runVmGate h t gate).1

def Call.isVm : Call → Bool
  | .runVmGate _ _ => true
  | _ => false

/-- The counters are those of the recorded lines. -/
structure Tracking.Consistent (t : Tracking) : Prop where
  sum : t.totalGates = t.passedGates + t.failedGates + t.skippedGates
  total : t.totalGates = t.resultsFile.length
  passed : t.passedGates = t.resultsFile.countP (·.status = .pass)
  failed : t.failedGates = t.resultsFile.countP (·.status = .fail)
  skipped : t.skippedGates = t.resultsFile.countP (·.status = .skip)

theorem recordResult_consistent {t : Tracking} (ht : t.Consistent) (gate : GateId)
    (status : GateStatus) (exitCode : Option Nat) :
    (recordResult t gate status exitCode).Consistent := by
  obtain ⟨hsum, htotal, hpassed, hfailed, hskipped⟩ := ht
  rw [recordResult]
  cases status <;> constructor <;> simp <;> omega

/-- A call other than `run_vm_gate` keeps the counters consistent. -/
theorem Call.run_consistent {t : Tracking} (ht : t.Consistent) (c : Call)
    (hc : c.isVm = false) : (c.run t).Consistent := by
  cases c with
  | runCheck W gate =>
      rw [Call.run, QualityGates.runCheck]
      split <;> exact recordResult_consistent ht ..
  | skipGate gate => exact recordResult_consistent ht ..
  | runVmGate h gate => cases hc

/-- Every call appends one line, and `run_vm_gate` adds two to the total. -/
theorem Call.run_total (t : Tracking) (c : Call) :
    (c.run t).resultsFile.length = t.resultsFile.length + 1 ∧
      (c.run t).totalGates = t.totalGates + 1 + if c.isVm then 1 else 0 := by
  cases c with
  | runCheck W gate =>
      rw [Call.run, QualityGates.runCheck]
      split <;> simp [recordResult, Call.isVm]
  | skipGate gate => simp [Call.run, QualityGates.skipGate, recordResult, Call.isVm]
  | runVmGate h gate =>
      rw [Call.run, QualityGates.runVmGate]
      split <;> simp [recordResult, Call.isVm]

theorem total_foldl_run (calls : List Call) (t : Tracking) :
    (calls.foldl Call.run t).totalGates + t.resultsFile.length =
      t.totalGates + (calls.foldl Call.run t).resultsFile.length +
        calls.countP (·.isVm) := by
  induction calls generalizing t with
  | nil => simp
  | cons c calls ih =>
      obtain ⟨hlines, htotal⟩ := Call.run_total t c
      have hih := ih (c.run t)
      rw [List.foldl_cons, List.countP_cons]
      omega

/-- The counters are consistent after a sequence of calls exactly when it has no VM
gate: `run_vm_gate` counts its gate, and `record_result` counts it again. -/
theorem calls_consistent_iff (calls : List Call) :
    (calls.foldl Call.run .start).Consistent ↔ ∀ c ∈ calls, c.isVm = false := by
  constructor
  · intro h c hc
    have htotal := total_foldl_run calls .start
    have hnone : calls.countP (·.isVm) = 0 := by
      have hequal := h.total
      simp only [Tracking.start, List.length_nil] at htotal hequal
      omega
    exact Bool.eq_false_iff.mpr (List.countP_eq_zero.mp hnone c hc)
  · intro h
    have hstart : Tracking.start.Consistent := ⟨rfl, rfl, rfl, rfl, rfl⟩
    have hrun : ∀ t : Tracking, t.Consistent → (calls.foldl Call.run t).Consistent := by
      induction calls with
      | nil => exact fun t ht => ht
      | cons c calls ih =>
          intro t ht
          have hhead : c.isVm = false := h c List.mem_cons_self
          exact ih (fun d hd => h d (List.mem_cons_of_mem _ hd)) _ (c.run_consistent ht hhead)
    exact hrun .start hstart

/-- One VM gate that passes: two gates in total, and one line. -/
theorem vm_gate_counted_twice :
    let h : Host :=
      { world := { status := fun _ => 0, printed := fun _ => none, environment := fun _ => none }
        convertScreenshots := fun _ => 0
        generateReport := 0 }
    let t := Call.run .start (.runVmGate h .p1v01)
    t.totalGates = 2 ∧ t.passedGates = 2 ∧ t.resultsFile.length = 1 ∧ ¬ t.Consistent := by
  intro h t
  have htotal : t.totalGates = 2 := by decide +kernel
  have hlines : t.resultsFile.length = 1 := by decide +kernel
  refine ⟨htotal, by decide +kernel, hlines, fun hconsistent => ?_⟩
  have hequal := hconsistent.total
  rw [htotal, hlines] at hequal
  cases hequal

end ZenOS.QualityGates
