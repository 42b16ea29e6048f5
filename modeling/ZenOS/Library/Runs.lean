import Mathlib.Tactic.TypeStar

/-!
Finite runs of a deterministic system that is driven by events.  A law about
every step of a run is the relation `Along`; the rules below lift what one step
preserves, and what one step is equivalent to, from steps to whole runs.  Two runs are
put side by side by `Alongside`.
-/

namespace ZenOS.Library.Runs

variable {σ ε : Type*} {step : σ → ε → σ}

/-- The state in which a list of events leaves the system. -/
def exec (step : σ → ε → σ) (s : σ) (events : List ε) : σ :=
  events.foldl step s

/-- Every event of the run is delivered in a state to which `P` relates it. -/
def Along (step : σ → ε → σ) (P : σ → ε → Prop) : σ → List ε → Prop
  | _, [] => True
  | s, e :: events => P s e ∧ Along step P (step s e) events

instance decidableAlong (step : σ → ε → σ) (P : σ → ε → Prop)
    [∀ s e, Decidable (P s e)] :
    ∀ s events, Decidable (Along step P s events)
  | _, [] => inferInstanceAs (Decidable True)
  | s, e :: events =>
      have := decidableAlong step P (step s e) events
      inferInstanceAs (Decidable (P s e ∧ Along step P (step s e) events))

@[simp] theorem exec_nil (s : σ) : exec step s [] = s :=
  rfl

@[simp] theorem exec_cons (s : σ) (e : ε) (events : List ε) :
    exec step s (e :: events) = exec step (step s e) events :=
  rfl

theorem exec_append (s : σ) (first second : List ε) :
    exec step s (first ++ second) = exec step (exec step s first) second :=
  List.foldl_append

/-- A system that is observed by a second one runs as it does alone. -/
theorem exec_fst {τ : Type*} {observed : σ × τ → ε → σ × τ}
    (h : ∀ p e, (observed p e).1 = step p.1 e) (p : σ × τ) (events : List ε) :
    (exec observed p events).1 = exec step p.1 events := by
  induction events generalizing p with
  | nil => rfl
  | cons e events ih => rw [exec_cons, exec_cons, ih, h]

@[simp] theorem along_nil (P : σ → ε → Prop) (s : σ) : Along step P s [] :=
  trivial

@[simp] theorem along_cons (P : σ → ε → Prop) (s : σ) (e : ε) (events : List ε) :
    Along step P s (e :: events) ↔ P s e ∧ Along step P (step s e) events :=
  Iff.rfl

theorem along_append (P : σ → ε → Prop) (s : σ) (first second : List ε) :
    Along step P s (first ++ second) ↔
      Along step P s first ∧ Along step P (exec step s first) second := by
  induction first generalizing s with
  | nil => simp
  | cons e events ih => simp [ih, and_assoc]

theorem along_fst {τ : Type*} {observed : σ × τ → ε → σ × τ}
    (h : ∀ p e, (observed p e).1 = step p.1 e) (P : σ → ε → Prop) (p : σ × τ)
    (events : List ε) :
    Along observed (fun p e => P p.1 e) p events ↔ Along step P p.1 events := by
  induction events generalizing p with
  | nil => exact Iff.rfl
  | cons e events ih => rw [along_cons, along_cons, ih, h]

/-- A law about every step of a run, read at each place of the list of events. -/
theorem along_iff_split (P : σ → ε → Prop) (s : σ) (events : List ε) :
    Along step P s events ↔
      ∀ before e after, events = before ++ e :: after → P (exec step s before) e := by
  constructor
  · rintro h before e after rfl
    exact (((along_append P s before _).mp h).2).1
  · intro h
    induction events generalizing s with
    | nil => trivial
    | cons e events ih =>
        refine ⟨h [] e events rfl, ih _ fun before e' after hsplit => ?_⟩
        exact h (e :: before) e' after (congrArg (e :: ·) hsplit)

theorem along_true (s : σ) (events : List ε) : Along step (fun _ _ => True) s events := by
  induction events generalizing s with
  | nil => trivial
  | cons e events ih => exact ⟨trivial, ih _⟩

/-- A condition on the events alone. -/
theorem along_const (p : ε → Prop) (s : σ) (events : List ε) :
    Along step (fun _ e => p e) s events ↔ ∀ e ∈ events, p e := by
  induction events generalizing s with
  | nil => simp
  | cons e events ih => rw [along_cons, ih, List.forall_mem_cons]

theorem Along.mono {P Q : σ → ε → Prop} {s : σ} {events : List ε}
    (h : Along step P s events) (hPQ : ∀ s e, P s e → Q s e) :
    Along step Q s events := by
  induction events generalizing s with
  | nil => trivial
  | cons e events ih => exact ⟨hPQ s e h.1, ih h.2⟩

theorem Along.and {P Q : σ → ε → Prop} {s : σ} {events : List ε}
    (hP : Along step P s events) (hQ : Along step Q s events) :
    Along step (fun s e => P s e ∧ Q s e) s events := by
  induction events generalizing s with
  | nil => trivial
  | cons e events ih => exact ⟨⟨hP.1, hQ.1⟩, ih hP.2 hQ.2⟩

/-- An invariant that every admitted step preserves holds where a run ends. -/
theorem Along.invariant {P : σ → ε → Prop} {I : σ → Prop}
    (hstep : ∀ s e, I s → P s e → I (step s e))
    {s : σ} {events : List ε} (h : Along step P s events) (hs : I s) :
    I (exec step s events) := by
  induction events generalizing s with
  | nil => exact hs
  | cons e events ih => exact ih h.2 (hstep s e hs h.1)

theorem exec_concat_of_absorbing {I : σ → Prop} (hstep : ∀ s e, I s → I (step s e))
    (habsorbs : ∀ s e e', I s → step (step s e) e' = step s e') {s : σ} (hs : I s)
    (events : List ε) (e : ε) : exec step s (events ++ [e]) = step s e := by
  induction events generalizing s with
  | nil => rfl
  | cons e' events ih =>
      calc exec step (step s e') (events ++ [e])
          = step (step s e') e := ih (hstep s e' hs)
        _ = step s e := habsorbs s e' e hs

/-- Where an invariant that every admitted step preserves makes the step obey a law, the law
holds along the run. -/
theorem Along.of_invariant {P Q : σ → ε → Prop} {I : σ → Prop}
    (hstep : ∀ s e, I s → P s e → I (step s e)) (hlaw : ∀ s e, I s → P s e → Q s e)
    {s : σ} {events : List ε} (h : Along step P s events) (hs : I s) :
    Along step Q s events := by
  induction events generalizing s with
  | nil => trivial
  | cons e events ih => exact ⟨hlaw s e hs h.1, ih h.2 (hstep s e hs h.1)⟩

/-- Exactness lifts to runs: if, wherever the law has held so far, a single step
obeys it exactly under a condition, a run obeys it exactly when every one of its
steps meets the condition. -/
theorem along_iff_along {P Q C : σ → ε → Prop} {I : σ → Prop}
    (hstep : ∀ s e, I s → P s e → Q s e → I (step s e))
    (hiff : ∀ s e, I s → P s e → (Q s e ↔ C s e))
    {s : σ} {events : List ε} (h : Along step P s events) (hs : I s) :
    Along step Q s events ↔ Along step C s events := by
  induction events generalizing s with
  | nil => simp
  | cons e events ih =>
      rw [along_cons, along_cons, hiff s e hs h.1]
      refine and_congr_right fun hC => ih h.2 ?_
      exact hstep s e hs h.1 ((hiff s e hs h.1).mpr hC)

theorem Along.map_scanl {τ : Type*} {view : σ → τ} {small : τ → ε → τ} {P : σ → ε → Prop}
    (hview : ∀ s e, P s e → view (step s e) = small (view s) e)
    {s : σ} {events : List ε} (h : Along step P s events) :
    (events.scanl step s).map view = events.scanl small (view s) := by
  induction events generalizing s with
  | nil => simp
  | cons e events ih =>
      rw [List.scanl_cons, List.scanl_cons, List.map_cons, ih h.2, hview s e h.1]

/-- Two runs of as many events, related at each of their steps. -/
def Alongside (step : σ → ε → σ) (R : σ → ε → σ → ε → Prop) :
    σ → List ε → σ → List ε → Prop
  | _, [], _, [] => True
  | s, e :: events, s', e' :: events' =>
      R s e s' e' ∧ Alongside step R (step s e) events (step s' e') events'
  | _, _, _, _ => False

instance decidableAlongside (step : σ → ε → σ) (R : σ → ε → σ → ε → Prop)
    [∀ s e s' e', Decidable (R s e s' e')] :
    ∀ s events s' events', Decidable (Alongside step R s events s' events')
  | _, [], _, [] => inferInstanceAs (Decidable True)
  | s, e :: events, s', e' :: events' =>
      have := decidableAlongside step R (step s e) events (step s' e') events'
      inferInstanceAs (Decidable (R s e s' e' ∧ Alongside step R _ events _ events'))
  | _, [], _, _ :: _ | _, _ :: _, _, [] => inferInstanceAs (Decidable False)

theorem Alongside.scanl_map {ω : Type*} {view : σ → ω} {R : σ → ε → σ → ε → Prop}
    (hstep : ∀ s e s' e', view s = view s' → R s e s' e' →
      view (step s e) = view (step s' e'))
    {s s' : σ} {events events' : List ε} (h : Alongside step R s events s' events')
    (hs : view s = view s') :
    (events.scanl step s).map view = (events'.scanl step s').map view := by
  induction events generalizing s s' events' with
  | nil =>
      cases events' with
      | nil => simp [hs]
      | cons => exact absurd h id
  | cons e events ih =>
      cases events' with
      | nil => exact absurd h id
      | cons e' events' =>
          rw [List.scanl_cons, List.scanl_cons, List.map_cons, List.map_cons, hs,
            ih h.2 (hstep s e s' e' hs h.1)]

end ZenOS.Library.Runs
