import Mathlib.Tactic.TypeStar

/-!
Programs that change a state and may fail half-way.  A failure keeps the state that
has been reached, so that what has been done so far can be undone by a clean-up.
Triples say what holds after a success and what holds after a failure.
-/

namespace ZenOS.Library.Programs

abbrev Fallible (σ : Type) : Type → Type :=
  OptionT (StateM σ)

variable {σ : Type}

/-- Run a program: whether it succeeds, and the state in which it ends. -/
def exec (m : Fallible σ Unit) (s : σ) : Bool × σ :=
  let r := m.run.run s
  (r.1.isSome, r.2)

def update (f : σ → σ) : Fallible σ Unit :=
  modify f

/-- Fail unless the condition holds. -/
def ensure (ok : Bool) : Fallible σ Unit :=
  if ok then pure () else failure

def ensureState (ok : σ → Bool) : Fallible σ Unit := do
  ensure (ok (← get))

/-- A program whose failure does not matter. -/
def tolerate (m : Fallible σ Unit) : Fallible σ Unit :=
  m <|> pure ()

/-- A program that cleans up after its own failure. -/
def onFailure (m : Fallible σ Unit) (cleanup : σ → σ) : Fallible σ Unit :=
  m <|> do
    update cleanup
    failure

def each {α : Type*} (f : α → Fallible σ Unit) : List α → Fallible σ Unit
  | [] => pure ()
  | a :: as => do
      f a
      each f as

section Exec

variable (m n : Fallible σ Unit) (s : σ)

@[simp] theorem exec_pure : exec (pure () : Fallible σ Unit) s = (true, s) :=
  rfl

@[simp] theorem exec_update (f : σ → σ) : exec (update f) s = (true, f s) :=
  rfl

@[simp] theorem exec_ensure (ok : Bool) : exec (ensure ok) s = (ok, s) := by
  cases ok <;> rfl

@[simp] theorem exec_ensureState (ok : σ → Bool) : exec (ensureState ok) s = (ok s, s) := by
  change exec (ensure (ok s)) s = _
  exact exec_ensure s (ok s)

theorem exec_seq :
    exec (do m; n) s = if (exec m s).1 then exec n (exec m s).2 else exec m s := by
  rw [exec, OptionT.run_bind, Option.elimM, StateT.run_bind, exec]
  rcases h : m.run.run s with ⟨_ | _, s'⟩ <;> rfl

theorem exec_orElse :
    exec (m <|> n) s = if (exec m s).1 then exec m s else exec n (exec m s).2 := by
  rw [exec, OptionT.run_orElse, Option.elimM, StateT.run_bind, exec]
  rcases h : m.run.run s with ⟨_ | _, s'⟩ <;> rfl

theorem exec_seq_fst :
    (exec (do m; n) s).1 = ((exec m s).1 && (exec n (exec m s).2).1) := by
  rw [exec_seq]
  cases h : (exec m s).1 with
  | true => rw [if_pos rfl, Bool.true_and]
  | false => rw [if_neg Bool.false_ne_true, Bool.false_and, h]

theorem exec_onFailure (cleanup : σ → σ) :
    exec (onFailure m cleanup) s =
      if (exec m s).1 then exec m s else (false, cleanup (exec m s).2) := by
  rw [onFailure, exec_orElse, exec_seq]
  rfl

end Exec

/-- From `P` the program ends in `Q` if it succeeds, and in `E` if it fails. -/
def Triple (P : σ → Prop) (m : Fallible σ Unit) (Q E : σ → Prop) : Prop :=
  ∀ s, P s → if (exec m s).1 then Q (exec m s).2 else E (exec m s).2

section Rules

variable {m n : Fallible σ Unit} {P P' Q Q' R E E' : σ → Prop}

theorem Triple.mono (h : Triple P m Q E) (hP : ∀ s, P' s → P s) (hQ : ∀ s, Q s → Q' s)
    (hE : ∀ s, E s → E' s) : Triple P' m Q' E' := by
  intro s hs
  have hm := h s (hP s hs)
  split at hm
  · next hok => simpa [hok] using hQ _ hm
  · next hok => simpa [hok] using hE _ hm

theorem Triple.weakenFailure (h : Triple P m Q E) (hE : ∀ s, E s → E' s) : Triple P m Q E' :=
  h.mono (fun _ hs => hs) (fun _ hs => hs) hE

theorem Triple.and {P₁ P₂ Q₁ Q₂ E₁ E₂ : σ → Prop} (h₁ : Triple P₁ m Q₁ E₁)
    (h₂ : Triple P₂ m Q₂ E₂) :
    Triple (fun s => P₁ s ∧ P₂ s) m (fun s => Q₁ s ∧ Q₂ s) fun s => E₁ s ∧ E₂ s := by
  rintro s ⟨hs₁, hs₂⟩
  have hm₁ := h₁ s hs₁
  have hm₂ := h₂ s hs₂
  split
  · next hok => exact ⟨(if_pos hok).mp hm₁, (if_pos hok).mp hm₂⟩
  · next hok => exact ⟨(if_neg hok).mp hm₁, (if_neg hok).mp hm₂⟩

/-- What holds whether the program succeeds or not. -/
theorem Triple.always (h : Triple P m Q Q) {s : σ} (hs : P s) : Q (exec m s).2 := by
  have hm := h s hs
  rwa [ite_self] at hm

theorem Triple.pure (h : ∀ s, P s → Q s) : Triple P (pure ()) Q E :=
  fun s hs => h s hs

theorem Triple.update {f : σ → σ} (h : ∀ s, P s → Q (f s)) :
    Triple P (Programs.update f) Q E :=
  fun s hs => h s hs

theorem Triple.ensure {ok : Bool} (hok : ∀ s, P s → ok = true → Q s)
    (hfail : ∀ s, P s → ok = false → E s) : Triple P (Programs.ensure ok) Q E := by
  intro s hs
  rw [exec_ensure]
  cases ok with
  | true => exact hok s hs rfl
  | false => exact hfail s hs rfl

theorem Triple.ensureState {ok : σ → Bool} (hok : ∀ s, P s → ok s = true → Q s)
    (hfail : ∀ s, P s → ok s = false → E s) : Triple P (Programs.ensureState ok) Q E := by
  intro s hs
  rw [exec_ensureState]
  dsimp only
  split
  · next h => exact hok s hs h
  · next h => exact hfail s hs (by simpa using h)

theorem Triple.ensureKeeps (ok : Bool) : Triple P (Programs.ensure ok) P P :=
  Triple.ensure (fun _ hs _ => hs) fun _ hs _ => hs

theorem Triple.ensureStateKeeps (ok : σ → Bool) : Triple P (Programs.ensureState ok) P P :=
  Triple.ensureState (fun _ hs _ => hs) fun _ hs _ => hs

theorem Triple.seq (hm : Triple P m R E) (hn : Triple R n Q E) :
    Triple P (do m; n) Q E := by
  intro s hs
  have h := hm s hs
  rw [exec_seq]
  split at h
  · next hok =>
      rw [if_pos hok]
      exact hn _ h
  · next hok => rwa [if_neg hok, if_neg hok]

theorem Triple.tolerate (h : Triple P m Q Q) : Triple P (Programs.tolerate m) Q E := by
  intro s hs
  have hm := h s hs
  rw [Programs.tolerate, exec_orElse]
  split at hm
  · next hok => rwa [if_pos hok, if_pos hok]
  · next hok => rwa [if_neg hok, exec_pure, if_pos rfl]

theorem Triple.onFailure {cleanup : σ → σ} (h : Triple P m Q R)
    (hcleanup : ∀ s, R s → E (cleanup s)) : Triple P (Programs.onFailure m cleanup) Q E := by
  intro s hs
  have hm := h s hs
  rw [Programs.onFailure, exec_orElse]
  split at hm
  · next hok => rwa [if_pos hok, if_pos hok]
  · next hok =>
      rw [if_neg hok, exec_seq]
      exact hcleanup _ hm

theorem Triple.each {α : Type*} {f : α → Fallible σ Unit} (h : ∀ a, Triple P (f a) P E) :
    ∀ as, Triple P (Programs.each f as) P E
  | [] => Triple.pure fun _ hs => hs
  | a :: as => (h a).seq (Triple.each h as)

end Rules

end ZenOS.Library.Programs
