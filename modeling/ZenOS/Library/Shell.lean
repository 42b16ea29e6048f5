import Mathlib.Data.List.Basic
import Mathlib.Logic.Function.Basic

/-!
A small shell.  A script combines pipelines of external commands; what these commands
do is up to the world.  Shells differ in how they judge a pipeline by the exit statuses
of its stages, and a shell that is started anew judges by its own rule.
-/

namespace ZenOS.Library.Shell

structure Pipeline (κ : Type*) where
  first : κ
  rest : List κ

/-- The exit statuses of the external commands, what a command substitution reads from
a pipeline if that is a number, and the exported variables. -/
structure World (κ ν : Type*) where
  status : κ → Nat
  printed : Pipeline κ → Option Int
  environment : ν → Option (Option Int)

inductive Comparison where
  | ge
  | gt
  deriving DecidableEq

def Comparison.holds : Comparison → Int → Int → Bool
  | .ge, a, b => b ≤ a
  | .gt, a, b => b < a

/-- Scripts over external commands `κ` and variables `ν`: in this order `a | b | c`,
`x=$(a | b)`, `[ "$x" -ge n ]`, `bash -c` with a script, `true`, `a && b`, `a || b`,
`a; b` and `if c; then a; else b; fi`. -/
inductive Script (κ ν : Type*) where
  | pipe (p : Pipeline κ)
  | assign (x : ν) (p : Pipeline κ)
  | test (x : ν) (op : Comparison) (n : Int)
  | bash (child : Script κ ν)
  | nop
  | and (a b : Script κ ν)
  | or (a b : Script κ ν)
  | seq (a b : Script κ ν)
  | cond (c a b : Script κ ν)

/-- Without `pipefail`: the status of the last stage. -/
def lastStatus (statuses : List Nat) : Nat :=
  statuses.getLast?.getD 0

/-- With `pipefail`: the last status that is not zero. -/
def pipefail (statuses : List Nat) : Nat :=
  (statuses.reverse.find? (· ≠ 0)).getD 0

def firstStatus (statuses : List Nat) : Nat :=
  statuses.head?.getD 0

theorem pipefail_eq_zero_iff (statuses : List Nat) :
    pipefail statuses = 0 ↔ ∀ status ∈ statuses, status = 0 := by
  rw [pipefail]
  constructor
  · intro h
    rcases hfind : statuses.reverse.find? (· ≠ 0) with _ | status
    · intro status hmem
      simpa using List.find?_eq_none.mp hfind status (List.mem_reverse.mpr hmem)
    · have hne : status ≠ 0 := by simpa using List.find?_some hfind
      rw [hfind] at h
      exact absurd h hne
  · intro h
    have hnone : statuses.reverse.find? (· ≠ 0) = none := by
      rw [List.find?_eq_none]
      intro status hmem
      simpa using h status (List.mem_reverse.mp hmem)
    rw [hnone]
    rfl

@[simp] theorem lastStatus_singleton (status : Nat) : lastStatus [status] = status :=
  rfl

@[simp] theorem pipefail_singleton (status : Nat) : pipefail [status] = status := by
  rcases eq_or_ne status 0 with rfl | hne
  · rfl
  · simp [pipefail, hne]

@[simp] theorem firstStatus_singleton (status : Nat) : firstStatus [status] = status :=
  rfl

namespace Pipeline

variable {κ ν : Type*}

def stages (p : Pipeline κ) : List κ :=
  p.first :: p.rest

def statuses (W : World κ ν) (p : Pipeline κ) : List Nat :=
  p.stages.map W.status

theorem firstStatus_statuses (W : World κ ν) (p : Pipeline κ) :
    firstStatus (p.statuses W) = W.status p.first :=
  rfl

end Pipeline

/-- How a shell judges pipelines, and whether an unset variable ends it. -/
structure Options where
  judge : List Nat → Nat
  nounset : Bool

def Options.judging (o : Options) (judge : List Nat → Nat) : Options :=
  { o with judge }

structure State (ν : Type*) where
  -- unset, set to something that is no number, or set to a number
  vars : ν → Option (Option Int)
  -- `PIPESTATUS`, of the most recent pipeline
  pipestatus : List Nat

section Exec

variable {κ ν : Type*} [DecidableEq ν] (W : World κ ν)

/-- The state of a shell that has just been started. -/
def World.fresh : State ν :=
  { vars := W.environment, pipestatus := [0] }

/-- The exit status of a shell after its script: the script leaves a status and a state,
or it has ended the shell early. -/
def exitStatus : Except Nat (Nat × State ν) → Nat
  | .ok (status, _) => status
  | .error status => status

/-- `[ "$x" -ge n ]`, which fails with status 2 on anything that is no number. -/
def testStatus (op : Comparison) (n : Int) : Option Int → Nat
  | some v => if op.holds v n then 0 else 1
  | none => 2

/-- Execute a script in a shell with the options `own`; `bash -c` starts one with the
options `child`. -/
def exec (own child : Options) : Script κ ν → State ν → Except Nat (Nat × State ν)
  | .pipe p, s =>
      .ok (own.judge (p.statuses W), { s with pipestatus := p.statuses W })
  | .assign x p, s =>
      let status := own.judge (p.statuses W)
      .ok (status,
        { vars := Function.update s.vars x (some (W.printed p)), pipestatus := [status] })
  | .test x op n, s =>
      match s.vars x with
      | none => if own.nounset then .error 1 else .ok (2, { s with pipestatus := [2] })
      | some v => .ok (testStatus op n v, { s with pipestatus := [testStatus op n v] })
  | .bash t, s =>
      let status := exitStatus (exec child child t W.fresh)
      .ok (status, { s with pipestatus := [status] })
  | .nop, s => .ok (0, { s with pipestatus := [0] })
  | .and a b, s => do
      let (status, s) ← exec own child a s
      if status = 0 then exec own child b s else .ok (status, s)
  | .or a b, s => do
      let (status, s) ← exec own child a s
      if status = 0 then .ok (status, s) else exec own child b s
  | .seq a b, s => do
      let (_, s) ← exec own child a s
      exec own child b s
  | .cond c a b, s => do
      let (status, s) ← exec own child c s
      if status = 0 then exec own child a s else exec own child b s

def Succeeds (own child : Options) (t : Script κ ν) : Prop :=
  exitStatus (exec W own child t W.fresh) = 0

instance (own child : Options) (t : Script κ ν) : Decidable (Succeeds W own child t) :=
  inferInstanceAs (Decidable (_ = 0))

/-- `p && q && r` -/
def Script.all : Pipeline κ → List (Pipeline κ) → Script κ ν
  | p, [] => .pipe p
  | p, q :: ps => .and (.pipe p) (all q ps)

/-- The pipelines of a chain. -/
def Script.chained : Script κ ν → List (Pipeline κ)
  | .pipe p => [p]
  | .and a b => a.chained ++ b.chained
  | _ => []

omit [DecidableEq ν] in
theorem chained_all (p : Pipeline κ) (ps : List (Pipeline κ)) :
    (Script.all p ps : Script κ ν).chained = p :: ps := by
  induction ps generalizing p with
  | nil => rfl
  | cons q ps ih => rw [Script.all, Script.chained, ih, Script.chained, List.singleton_append]

/-- Put a pipeline before the text of a script: `p && a; b` is `(p && a); b`. -/
def Script.after (p : Pipeline κ) : Script κ ν → Script κ ν
  | .seq a b => .seq (a.after p) b
  | .and a b => .and (a.after p) b
  | .or a b => .or (a.after p) b
  | t => .and (.pipe p) t

variable {W} {own child : Options}

omit [DecidableEq ν] in
theorem ok_bind (x : Nat × State ν) (f : Nat × State ν → Except Nat (Nat × State ν)) :
    Except.ok x >>= f = f x :=
  rfl

/-- A chain succeeds when the shell judges each of its pipelines successful. -/
theorem exec_all (p : Pipeline κ) (ps : List (Pipeline κ)) (s : State ν) :
    exitStatus (exec W own child (.all p ps) s) = 0 ↔
      ∀ q ∈ p :: ps, own.judge (q.statuses W) = 0 := by
  induction ps generalizing p s with
  | nil => simp [Script.all, exec, exitStatus]
  | cons q ps ih =>
      rw [Script.all, exec, exec, List.forall_mem_cons, ok_bind]
      dsimp only
      split
      · next hp => simp [hp, ih]
      · next hp => simp [hp, exitStatus]

theorem exec_and_assoc (a b c : Script κ ν) (s : State ν) :
    exec W own child (.and (.and a b) c) s = exec W own child (.and a (.and b c)) s := by
  simp only [exec]
  rcases exec W own child a s with status | ⟨status, s'⟩
  · rfl
  · rcases eq_or_ne status 0 with rfl | hne
    · rfl
    · simp [ok_bind, hne]

theorem exec_all_after (first p : Pipeline κ) (ps : List (Pipeline κ)) (s : State ν) :
    exec W own child ((Script.all p ps).after first) s =
      exec W own child (.all first (p :: ps)) s := by
  cases ps with
  | nil => rfl
  | cons q ps => exact exec_and_assoc (.pipe first) (.pipe p) (.all q ps) s

theorem exec_or_nop_pipestatus (hown : own.judge = pipefail) (p : Pipeline κ) (s : State ν) :
    ∃ status s', exec W own child (.or (.pipe p) .nop) s = .ok (status, s') ∧
      s'.pipestatus.headD 0 = 0 := by
  simp only [exec, hown, ok_bind]
  split
  · next hzero =>
      refine ⟨_, _, rfl, ?_⟩
      exact (pipefail_eq_zero_iff _).mp hzero _ List.mem_cons_self
  · exact ⟨_, _, rfl, rfl⟩

theorem exec_test (x : ν) (op : Comparison) (n : Int) (s : State ν) :
    exitStatus (exec W own child (.test x op n : Script κ ν) s) = 0 ↔
      ∃ v, s.vars x = some (some v) ∧ op.holds v n = true := by
  rw [exec]
  rcases s.vars x with _ | _ | v
  · dsimp only
    split <;> simp [exitStatus]
  · simp [exitStatus, testStatus]
  · rcases hv : op.holds v n with _ | _ <;> simp [exitStatus, testStatus, hv]

/-- Two results differ in their exit statuses at most, and not in their being zero
where that `matters`. -/
def Related (matters : Prop) :
    Except Nat (Nat × State ν) → Except Nat (Nat × State ν) → Prop
  | .error status, .error status' => status = status'
  | .ok (status, s), .ok (status', s') =>
      s.vars = s'.vars ∧ (matters → (status = 0 ↔ status' = 0))
  | _, _ => False

/-- Wherever its success `matters`, a pipeline of the script is judged by `judge` as by
the shell that executes it. -/
def Script.Alike (W : World κ ν) (judge : List Nat → Nat) :
    Options → Options → Prop → Script κ ν → Prop
  | own, _, matters, .pipe p | own, _, matters, .assign _ p =>
      matters → (own.judge (p.statuses W) = 0 ↔ judge (p.statuses W) = 0)
  | _, _, _, .test .. | _, _, _, .nop => True
  | _, child, matters, .bash t => matters → t.Alike W judge child child True
  | own, child, matters, .and a b | own, child, matters, .or a b =>
      a.Alike W judge own child True ∧ b.Alike W judge own child matters
  | own, child, matters, .seq a b =>
      a.Alike W judge own child False ∧ b.Alike W judge own child matters
  | own, child, matters, .cond c a b =>
      c.Alike W judge own child True ∧ a.Alike W judge own child matters ∧
        b.Alike W judge own child matters

omit [DecidableEq ν] in
theorem Related.exitStatus {matters : Prop} {r r' : Except Nat (Nat × State ν)}
    (h : Related matters r r')
    (hm : matters) : exitStatus r = 0 ↔ exitStatus r' = 0 := by
  rcases r with status | ⟨status, s⟩ <;> rcases r' with status' | ⟨status', s'⟩
  · obtain rfl : status = status' := h
    rfl
  · exact h.elim
  · exact h.elim
  · exact h.2 hm

omit [DecidableEq ν] in
theorem Related.bind {matters matters' : Prop} {r r' : Except Nat (Nat × State ν)}
    (h : Related matters r r') {f g : Nat × State ν → Except Nat (Nat × State ν)}
    (hfg : ∀ status status' s s', s.vars = s'.vars →
      (matters → (status = 0 ↔ status' = 0)) →
        Related matters' (f (status, s)) (g (status', s'))) :
    Related matters' (r >>= f) (r' >>= g) := by
  rcases r with status | ⟨status, s⟩ <;> rcases r' with status' | ⟨status', s'⟩
  · exact h
  · exact h.elim
  · exact h.elim
  · exact hfg status status' s s' h.1 h.2

omit [DecidableEq ν] in
theorem Related.ite {matters c c' : Prop} [Decidable c] [Decidable c'] (hc : c ↔ c')
    {x y x' y' : Except Nat (Nat × State ν)} (hx : Related matters x x')
    (hy : Related matters y y') :
    Related matters (if c then x else y) (if c' then x' else y') := by
  by_cases h : c
  · rwa [if_pos h, if_pos (hc.mp h)]
  · rwa [if_neg h, if_neg (mt hc.mpr h)]

theorem exec_judging {judge : List Nat → Nat} {t : Script κ ν} {own child : Options}
    {matters : Prop} (h : t.Alike W judge own child matters) {s s' : State ν}
    (hs : s.vars = s'.vars) :
    Related matters (exec W own child t s)
      (exec W (own.judging judge) (child.judging judge) t s') := by
  induction t generalizing own child matters s s' with
  | pipe p => exact ⟨hs, h⟩
  | assign x p => exact ⟨congrArg (Function.update · x _) hs, h⟩
  | test x op n =>
      rw [exec, exec, hs]
      rcases s'.vars x with _ | v
      · change Related matters (if own.nounset then _ else _) (if own.nounset then _ else _)
        split
        · rfl
        · exact ⟨rfl, fun _ => Iff.rfl⟩
      · exact ⟨rfl, fun _ => Iff.rfl⟩
  | bash t ih => exact ⟨hs, fun hm => (ih (h hm) rfl).exitStatus trivial⟩
  | nop => exact ⟨hs, fun _ => Iff.rfl⟩
  | and a b iha ihb =>
      refine (iha h.1 hs).bind fun status status' s s' hs hzero => ?_
      exact .ite (hzero trivial) (ihb h.2 hs) ⟨hs, fun _ => hzero trivial⟩
  | or a b iha ihb =>
      refine (iha h.1 hs).bind fun status status' s s' hs hzero => ?_
      exact .ite (hzero trivial) ⟨hs, fun _ => hzero trivial⟩ (ihb h.2 hs)
  | seq a b iha ihb =>
      exact (iha h.1 hs).bind fun _ _ s s' hs _ => ihb h.2 hs
  | cond c a b ihc iha ihb =>
      refine (ihc h.1 hs).bind fun status status' s s' hs hzero => ?_
      exact .ite (hzero trivial) (iha h.2.1 hs) (ihb h.2.2 hs)

end Exec

end ZenOS.Library.Shell
