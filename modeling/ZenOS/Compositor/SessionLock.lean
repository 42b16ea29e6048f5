import ZenOS.Compositor.Calls
import ZenOS.Library.Runs

/-!
`ext-session-lock-v1`.  A locker's request is granted by the event `locked` on its lock
object; from then on the object is outstanding until it is destroyed, by the compositor
or by the locker itself.
-/

namespace ZenOS.Compositor

open ZenOS.Library.Runs

inductive SessionEvent where
  | compositor (e : Event)
  -- a locker destroys its lock object; the compositor has no listener for that
  | lockDestroy (lock : SessionLockId)

/-- The lock objects that are outstanding after a call. -/
def outstandingAfter (outstanding : List SessionLockId) : Call → List SessionLockId
  | .sendLocked lock => lock :: outstanding
  | .sessionLockDestroy lock => outstanding.erase lock
  | _ => outstanding

/-- The compositor with the lock objects that are outstanding as locked. -/
def stepSession (p : ZenCompositor × List SessionLockId) :
    SessionEvent → ZenCompositor × List SessionLockId
  | .compositor e =>
      let s := step p.1 e
      (s, s.calls.foldl outstandingAfter p.2)
  | .lockDestroy lock => (p.1, p.2.erase lock)

/-- A lock is granted on a locked screen only, to one locker at a time, and whoever asks
in the meantime is refused. -/
structure GrantsSafely (p : ZenCompositor × List SessionLockId) (e : Event) : Prop where
  locked : ∀ lock, .sendLocked lock ∈ (step p.1 e).calls → (step p.1 e).lock.locked = true
  unique : (stepSession p (.compositor e)).2.length ≤ 1
  refused : ∀ lock, e = .newLock lock → p.2 ≠ [] →
    .sendLocked lock ∉ (step p.1 e).calls ∧ .sessionLockDestroy lock ∈ (step p.1 e).calls

/-- A locker asks only while the screen is locked and no lock object is outstanding. -/
def AsksInTime (p : ZenCompositor × List SessionLockId) (e : Event) : Prop :=
  ∀ lock, e = .newLock lock → p.1.lock.locked = true ∧ p.2 = []

/-- A law about the events of the compositor; lockers may go away at any time. -/
def OnCompositor (P : ZenCompositor × List SessionLockId → Event → Prop)
    (p : ZenCompositor × List SessionLockId) : SessionEvent → Prop
  | .compositor e => P p e
  | .lockDestroy _ => True

section Outstanding

variable {calls : List Call} {outstanding : List SessionLockId}

theorem length_outstandingAfter_le (h : ∀ c ∈ calls, ∀ lock, c ≠ .sendLocked lock) :
    (calls.foldl outstandingAfter outstanding).length ≤ outstanding.length := by
  induction calls generalizing outstanding with
  | nil => exact le_rfl
  | cons c calls ih =>
      refine (ih fun c' hc' => h c' (List.mem_cons_of_mem _ hc')).trans ?_
      cases c with
      | sendLocked lock => exact absurd rfl (h _ List.mem_cons_self lock)
      | sessionLockDestroy lock => exact List.length_erase_le
      | _ => exact le_rfl

end Outstanding

section Step

variable {p : ZenCompositor × List SessionLockId} {e : Event}

theorem step_grants_nothing (s : ZenCompositor) (he : ∀ lock, e ≠ .newLock lock) :
    ∀ c ∈ (step s e).calls, ∀ lock, c ≠ .sendLocked lock := by
  have emits : Emits (fun c => ∀ lock, c ≠ .sendLocked lock) { s with calls := [] }
      (step s e) := by
    rcases eq_or_ne e.owner .lock with ho | ho
    · cases e with
      | newLock lock => exact absurd rfl (he lock)
      | idleTimeout bufferOk | lockSignal bufferOk => exact .of_eq (zenLockActivate_calls _ _)
      | key k keycode syms pressed modifiers bufferOk pam =>
          refine handleKeyboardKey_emits_of (fun c hc lock h => ?_)
            (wlrKeyboardUpdate { s with calls := [] } k keycode pressed) keycode syms pressed
            modifiers bufferOk pam fun _ surface lock h => by cases h
          rw [h] at hc
          exact hc
      | _ => cases ho
    · refine (handle_emits_desktop { s with calls := [] } ho).mono fun c hc lock h => ?_
      exact Call.not_isSystem_of_isDesktop hc (by rw [h]; trivial)
  intro c hc
  exact (emits c hc).resolve_left List.not_mem_nil

theorem grantsSafely_iff (hp : p.2.length ≤ 1) : GrantsSafely p e ↔ AsksInTime p e := by
  by_cases he : ∃ lock, e = .newLock lock
  · obtain ⟨lock, rfl⟩ := he
    constructor
    · intro h lock' hlock'
      cases hlock'
      have hlocked : p.1.lock.locked = true := h.locked lock List.mem_cons_self
      have hunique : (lock :: p.2).length ≤ 1 := h.unique
      refine ⟨hlocked, List.length_eq_zero_iff.mp ?_⟩
      rw [List.length_cons] at hunique
      omega
    · intro h
      obtain ⟨hlocked, hnone⟩ := h lock rfl
      constructor
      · intro _ _
        exact hlocked
      · change (lock :: p.2).length ≤ 1
        rw [hnone]
        rfl
      · intro _ _ hne
        exact absurd hnone hne
  · have hgrants := step_grants_nothing p.1 (e := e) fun lock h => he ⟨lock, h⟩
    refine iff_of_true ⟨?_, ?_, ?_⟩ fun lock h => absurd ⟨lock, h⟩ he
    · intro lock hlock
      exact absurd rfl (hgrants _ hlock lock)
    · exact (length_outstandingAfter_le hgrants).trans hp
    · intro lock h
      exact absurd ⟨lock, h⟩ he

end Step

section Runs

variable (outputs : List Output) (bindings : List ZenKeybinding) (idleTimer : Bool)

/-- Session locks are granted safely all along a run exactly when every locker asks while
the screen is locked and nobody holds a lock. -/
theorem run_grantsSafely_iff (events : List SessionEvent) :
    Along stepSession (OnCompositor GrantsSafely) (created outputs bindings idleTimer, [])
        events ↔
      Along stepSession (OnCompositor AsksInTime) (created outputs bindings idleTimer, [])
        events := by
  refine along_iff_along (P := fun _ _ => True) (I := fun p => p.2.length ≤ 1)
    (fun p e hp _ hsafe => ?_) (fun p e hp _ => ?_) (along_true _ _) (Nat.zero_le 1)
  · cases e with
    | compositor e => exact hsafe.unique
    | lockDestroy lock => exact List.length_erase_le.trans hp
  · cases e with
    | compositor e => exact grantsSafely_iff hp
    | lockDestroy lock => exact Iff.rfl

end Runs

/-- Two lockers ask on an unlocked screen, and both are told that it is locked. -/
theorem two_lockers_are_granted :
    let events : List SessionEvent := [.compositor (.newLock 1), .compositor (.newLock 2)]
    let p := exec stepSession (created [] [] true, []) events
    p.1.lock.locked = false ∧ p.2 = [2, 1] ∧
      ¬ Along stepSession (OnCompositor GrantsSafely) (created [] [] true, []) events := by
  refine ⟨rfl, rfl, fun h => ?_⟩
  have hlocked := h.1.locked 1 List.mem_cons_self
  cases hlocked

end ZenOS.Compositor
