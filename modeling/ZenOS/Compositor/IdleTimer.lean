import Mathlib.Algebra.Order.Ring.Unbundled.Rat
import ZenOS.Compositor.Calls
import ZenOS.Compositor.LockScreen
import ZenOS.Library.Runs

/-!
The idle timer.  `lock.c` arms it when the module is initialised and whenever the
screen gets unlocked; this file follows the timer source and the activity of the user
along timed runs.
-/

namespace ZenOS.Compositor

open ZenOS.Library.Runs

def Call.timerUpdateMs : Call → Option Nat
  | .timerUpdate ms => some ms
  | _ => none

/-- The event comes from a key or from the pointer. -/
def Event.isActivity : Event → Bool
  | .key .. | .cursorMotion .. | .cursorButton .. => true
  | _ => false

def Event.isTimeout : Event → Bool
  | .idleTimeout _ => true
  | _ => false

/-- An event and the time at which it is handled, in milliseconds.  `none` is a pointer
event that the compositor has no listener for, such as scrolling. -/
structure TimedEvent where
  time : ℚ
  event : Option Event

/-- The compositor with the clock, the timer source of `s_idle_timer`, and the times of
all that has happened so far, latest first. -/
structure Timed where
  compositor : ZenCompositor
  now : ℚ
  -- when the timer source fires, if it is armed
  deadline : Option ℚ
  -- when `zen_lock_init` has run
  start : ℚ
  inputs : List ℚ
  unlocks : List ℚ

/-- `wl_event_source_timer_update` sets the timer anew. -/
def deadlineAfter (time : ℚ) (deadline : Option ℚ) (c : Call) : Option ℚ :=
  match c.timerUpdateMs with
  | some ms => some (time + ms)
  | none => deadline

/-- The timer source is disarmed when it calls back. -/
def Timed.fired (p : Timed) (e : Event) : Option ℚ :=
  if e.isTimeout then none else p.deadline

def stepTimed (p : Timed) (e : TimedEvent) : Timed :=
  match e.event with
  | none => { p with now := e.time, inputs := e.time :: p.inputs }
  | some event =>
      let s := step p.compositor event
      { p with
        compositor := s
        now := e.time
        deadline := s.calls.foldl (deadlineAfter e.time) (p.fired event)
        inputs := if event.isActivity then e.time :: p.inputs else p.inputs
        unlocks := if p.compositor.lock.locked && !s.lock.locked then e.time :: p.unlocks
          else p.unlocks }

/-- `zen_lock_init` at the time `start`, with the result of creating the timer. -/
def timedCreated (outputs : List Output) (bindings : List ZenKeybinding) (idleTimer : Bool)
    (start : ℚ) : Timed :=
  { compositor := created outputs bindings idleTimer
    now := start
    deadline := if idleTimer then some (start + zenLockIdleTimeoutMs) else none
    start, inputs := [], unlocks := [] }

/-- `lock.c` sets the timer when the screen gets unlocked, and only then. -/
structure Rearms (s s' : ZenCompositor) : Prop where
  idleTimer : s'.lock.idleTimer = s.lock.idleTimer
  updates : s'.calls.filterMap Call.timerUpdateMs = s.calls.filterMap Call.timerUpdateMs ++
    if s.lock.locked && !s'.lock.locked && s.lock.idleTimer then [zenLockIdleTimeoutMs] else []

namespace Rearms

variable {s s' s'' : ZenCompositor}

theorem of_silent (hlocked : s.lock.locked = true → s'.lock.locked = true)
    (htimer : s'.lock.idleTimer = s.lock.idleTimer)
    (hcalls : s'.calls.filterMap Call.timerUpdateMs = s.calls.filterMap Call.timerUpdateMs) :
    Rearms s s' := by
  refine ⟨htimer, ?_⟩
  rcases hl : s.lock.locked with _ | _
  · simpa using hcalls
  · simpa [hlocked hl] using hcalls

theorem of_lock (hlock : s'.lock = s.lock)
    (hcalls : s'.calls.filterMap Call.timerUpdateMs = s.calls.filterMap Call.timerUpdateMs) :
    Rearms s s' :=
  of_silent (fun hl => by rw [hlock, hl]) (by rw [hlock]) hcalls

theorem trans (h : Rearms s s') (h' : Rearms s' s'')
    (hlocks : s'.lock.locked = false → s''.lock.locked = false)
    (hunlocked : s.lock.locked = false → s'.lock.locked = false) : Rearms s s'' := by
  refine ⟨h'.idleTimer.trans h.idleTimer, ?_⟩
  rw [h'.updates, h.updates, h.idleTimer, List.append_assoc]
  congr 1
  rcases hl : s.lock.locked with _ | _
  · simp [hunlocked hl]
  · rcases hl' : s'.lock.locked with _ | _
    · simp [hlocks hl']
    · simp

end Rearms

theorem zenLockDeactivate_rearms {s : ZenCompositor} (hl : s.lock.locked = true) :
    Rearms s (zenLockDeactivate s) := by
  refine ⟨by rw [zenLockDeactivate_lock hl]; rfl, ?_⟩
  rw [zenLockDeactivate_calls hl, zenLockDeactivate_lock hl, List.filterMap_append,
    List.filterMap_append]
  cases s.lock.screen.wlrLock <;> cases s.lock.idleTimer <;> simp [Call.timerUpdateMs, hl]

theorem zenLockHandleKey_rearms (s : ZenCompositor) (keysym : UInt32) (pressed : Bool)
    (pam : Nat → List UInt8 → Bool) :
    Rearms s (zenLockHandleKey s keysym pressed pam).1 := by
  rw [zenLockHandleKey]
  split
  · exact .of_silent id rfl rfl
  next hlocked =>
  have hl : s.lock.locked = true := by
    by_contra hl
    simp [hl] at hlocked
  split
  · split <;> exact .of_silent id rfl rfl
  split
  · have ask : Rearms s (pamAuthenticatePassword s pam).1 :=
      .of_silent id rfl (by simp [pamAuthenticatePassword, Call.timerUpdateMs])
    have hask : (pamAuthenticatePassword s pam).1.lock.locked = true := hl
    generalize pamAuthenticatePassword s pam = answer at ask hask ⊢
    obtain ⟨s', success⟩ := answer
    cases success with
    | false =>
        exact ask.trans (.of_silent id rfl rfl) id (by simp [hl])
    | true =>
        exact ask.trans (zenLockDeactivate_rearms hask)
          (fun h => Bool.noConfusion (hask.symm.trans h)) (by simp [hl])
  split
  · exact .of_silent id rfl rfl
  split
  · split <;> exact .of_silent id rfl rfl
  · exact .of_silent id rfl rfl

theorem handleLockedSyms_rearms (s : ZenCompositor) (pressed : Bool)
    (pam : Nat → List UInt8 → Bool) (syms : List UInt32) :
    Rearms s (handleLockedSyms s pressed pam syms) := by
  induction syms generalizing s with
  | nil => exact .of_silent id rfl rfl
  | cons keysym syms ih =>
      have hkey := zenLockHandleKey_rearms s keysym pressed pam
      refine hkey.trans (ih _) (fun hl => ?_) fun hl => ?_
      · change (handleLockedSyms _ pressed pam syms).lock.locked = false
        rw [handleLockedSyms_of_unlocked hl]
        exact hl
      · rw [zenLockHandleKey_of_unlocked hl]
        exact hl

theorem zenLockActivate_rearms (s : ZenCompositor) (bufferOk : Bool) :
    Rearms s (zenLockActivate s bufferOk) := by
  refine .of_silent (fun hl => ?_) ?_ (by rw [zenLockActivate_calls])
  · simp [zenLockActivate, hl]
  · rw [zenLockActivate]
    split
    · rfl
    · dsimp only
      split <;> rfl

theorem executeAction_rearms (s : ZenCompositor) (action : ZenKeybindAction)
    (customCmd : Option String) (bufferOk : Bool) :
    Rearms s (executeAction s action customCmd bufferOk) := by
  rcases eq_or_ne action .lockScreen with rfl | h
  · exact zenLockActivate_rearms s bufferOk
  · refine .of_lock (executeAction_lock s h customCmd bufferOk).1 ?_
    unfold executeAction
    repeat' split
    all_goals first | exact absurd rfl h | simp [Call.timerUpdateMs]

theorem handleKeyboardKey_rearms (s : ZenCompositor) (keycode : UInt32)
    (syms : List UInt32) (pressed : Bool) (modifiers : UInt32) (bufferOk : Bool)
    (pam : Nat → List UInt8 → Bool) :
    Rearms s (handleKeyboardKey s keycode syms pressed modifiers bufferOk pam) := by
  rw [handleKeyboardKey]
  split
  · exact handleLockedSyms_rearms s pressed pam syms
  · have notifyKey : Rearms s (wlrSeatKeyboardNotifyKey s keycode pressed) := by
      refine .of_lock rfl ?_
      cases hf : s.seat.keyboardFocus <;>
        simp [wlrSeatKeyboardNotifyKey_eq, hf, Call.timerUpdateMs]
    cases pressed with
    | false => exact notifyKey
    | true =>
        simp only [if_true, handleKeybindingSyms_eq]
        rcases firstBinding s modifiers syms with _ | b
        · exact notifyKey
        · exact executeAction_rearms s b.action b.customCmd bufferOk

theorem step_rearms (s : ZenCompositor) (e : Event) : Rearms { s with calls := [] } (step s e) := by
  rcases eq_or_ne e.owner .lock with ho | ho
  · cases e with
    | key k keycode syms pressed modifiers bufferOk pam =>
        have hkey := handleKeyboardKey_rearms
          (wlrKeyboardUpdate { s with calls := [] } k keycode pressed) keycode syms pressed
          modifiers bufferOk pam
        exact ⟨hkey.idleTimer, hkey.updates⟩
    | idleTimeout bufferOk | lockSignal bufferOk => exact zenLockActivate_rearms _ bufferOk
    | newLock lock => exact .of_lock rfl (by simp [step, handle, handleNewLock, Call.timerUpdateMs])
    | _ => cases ho
  · refine .of_lock (step_lock s ho) ?_
    refine List.filterMap_eq_nil_iff.mpr fun c hc => ?_
    have hdesktop := (handle_emits_desktop { s with calls := [] } ho c hc).resolve_left
      List.not_mem_nil
    have hsystem := Call.not_isSystem_of_isDesktop hdesktop
    cases c with
    | timerUpdate => exact absurd trivial hsystem
    | _ => rfl

theorem foldl_deadlineAfter (time : ℚ) (deadline : Option ℚ) (calls : List Call) :
    calls.foldl (deadlineAfter time) deadline =
      (calls.filterMap Call.timerUpdateMs).getLast?.elim deadline fun ms => some (time + ms) := by
  induction calls generalizing deadline with
  | nil => rfl
  | cons c calls ih =>
      rw [List.foldl_cons, ih, List.filterMap_cons, deadlineAfter]
      cases c.timerUpdateMs with
      | none => rfl
      | some ms =>
          dsimp only
          rw [List.getLast?_cons]
          cases List.getLast? _ <;> rfl

/-- The event unlocks the screen. -/
def unlocks (s : ZenCompositor) (e : Event) : Bool :=
  s.lock.locked && !(step s e).lock.locked

theorem stepTimed_deadline (p : Timed) (time : ℚ) (e : Event) :
    (stepTimed p ⟨time, some e⟩).deadline =
      if unlocks p.compositor e && p.compositor.lock.idleTimer then
        some (time + zenLockIdleTimeoutMs)
      else p.fired e := by
  have hupdates := (step_rearms p.compositor e).updates
  change (step p.compositor e).calls.foldl (deadlineAfter time) (p.fired e) = _
  rw [foldl_deadlineAfter, hupdates, unlocks]
  dsimp only [List.filterMap_nil, List.nil_append]
  split <;> rfl

/-- When the screen was last unlocked, or else the lock module was initialised. -/
def Timed.lastUnlock (p : Timed) : ℚ :=
  p.unlocks.headD p.start

/-- The clock does not go back, and the timer calls back at the time it was set to. -/
structure Timely (p : Timed) (e : TimedEvent) : Prop where
  monotone : p.now ≤ e.time
  due : ∀ event ∈ e.event, event.isTimeout = true → p.deadline = some e.time

/-- The idle callback locks the screen. -/
def IdleLock (p : Timed) (e : TimedEvent) : Prop :=
  ∃ event ∈ e.event, event.isTimeout = true ∧ Locks p.compositor event

instance (s : ZenCompositor) (e : Event) : Decidable (Locks s e) :=
  inferInstanceAs (Decidable (_ ∧ ∃ bufferOk ∈ (_ : Option Bool), _))

instance (p : Timed) (e : TimedEvent) : Decidable (Timely p e) :=
  decidable_of_iff (p.now ≤ e.time ∧ ∀ event ∈ e.event, event.isTimeout = true → _)
    ⟨fun h => ⟨h.1, h.2⟩, fun h => ⟨h.monotone, h.due⟩⟩

instance (p : Timed) (e : TimedEvent) : Decidable (IdleLock p e) :=
  inferInstanceAs (Decidable (∃ event ∈ (_ : Option Event), _))

/-- When the idle callback locks the screen, the user has been idle for the whole of the
timeout and the screen has not been unlocked meanwhile. -/
def LocksWhenIdle (p : Timed) (e : TimedEvent) : Prop :=
  IdleLock p e →
    ∀ u ∈ p.inputs ++ p.unlocks, ¬ (e.time - zenLockIdleTimeoutMs < u ∧ u ≤ e.time)

/-- When the idle callback locks the screen, the user has never been active since the
screen was last unlocked. -/
def IdleSinceUnlock (p : Timed) (e : TimedEvent) : Prop :=
  IdleLock p e → ∀ u ∈ p.inputs, u ≤ p.lastUnlock

/-- The timer was set when the screen was last unlocked; the recorded times are past. -/
structure Timed.Kept (p : Timed) : Prop where
  deadline : ∀ d ∈ p.deadline, d = p.lastUnlock + zenLockIdleTimeoutMs
  timer : p.compositor.lock.idleTimer = false → p.deadline = none
  inputs : ∀ u ∈ p.inputs, u ≤ p.now
  unlocks : ∀ u ∈ p.unlocks, u ≤ p.lastUnlock
  past : p.lastUnlock ≤ p.now

section Idle

variable {p : Timed} {e : TimedEvent}

theorem Timed.fired_eq (p : Timed) (e : Event) :
    p.fired e = none ∨ p.fired e = p.deadline := by
  rw [Timed.fired]
  split
  · exact .inl rfl
  · exact .inr rfl

theorem stepTimed_inputs_le (h : p.Kept) (hmono : p.now ≤ e.time) :
    ∀ u ∈ (stepTimed p e).inputs, u ≤ e.time := by
  have hrecord : ∀ u ∈ e.time :: p.inputs, u ≤ e.time := by
    intro u hu
    rcases List.mem_cons.mp hu with rfl | hu
    · exact le_rfl
    · exact (h.inputs u hu).trans hmono
  rcases e with ⟨time, _ | event⟩
  · exact hrecord
  · intro u hu
    change u ∈ ite _ _ _ at hu
    split at hu
    · exact hrecord u hu
    · exact hrecord u (List.mem_cons_of_mem _ hu)

theorem stepTimed_kept (h : p.Kept) (hmono : p.now ≤ e.time) : (stepTimed p e).Kept := by
  have hinputs := stepTimed_inputs_le h hmono
  rcases e with ⟨time, _ | event⟩
  · exact ⟨h.deadline, h.timer, hinputs, h.unlocks, h.past.trans hmono⟩
  have hdeadline := stepTimed_deadline p time event
  have htimer := (step_rearms p.compositor event).idleTimer
  have hfired : p.compositor.lock.idleTimer = false → p.fired event = none := fun hnone =>
    (p.fired_eq event).elim id fun heq => heq.trans (h.timer hnone)
  have htimer' : (step p.compositor event).lock.idleTimer = false →
      (stepTimed p ⟨time, some event⟩).deadline = none := by
    intro hnone
    have hnone : p.compositor.lock.idleTimer = false := htimer.symm.trans hnone
    rw [hdeadline, hnone, Bool.and_false]
    exact hfired hnone
  rcases hu : unlocks p.compositor event with _ | _
  · have hunlocks : (stepTimed p ⟨time, some event⟩).unlocks = p.unlocks :=
      if_neg (by rw [← unlocks, hu]; simp)
    have hlast : (stepTimed p ⟨time, some event⟩).lastUnlock = p.lastUnlock :=
      congrArg (List.headD · p.start) hunlocks
    refine ⟨fun d hd => ?_, htimer', hinputs, fun u hmem => ?_, ?_⟩
    · rw [hdeadline, hu, Bool.false_and, if_neg Bool.false_ne_true] at hd
      rw [hlast]
      rcases p.fired_eq event with heq | heq <;> rw [heq] at hd
      · cases hd
      · exact h.deadline d hd
    · rw [hlast]
      exact h.unlocks u (hunlocks ▸ hmem)
    · rw [hlast]
      exact h.past.trans hmono
  · have hunlocks : (stepTimed p ⟨time, some event⟩).unlocks = time :: p.unlocks :=
      if_pos (by rw [← unlocks, hu])
    have hlast : (stepTimed p ⟨time, some event⟩).lastUnlock = time :=
      congrArg (List.headD · p.start) hunlocks
    refine ⟨fun d hd => ?_, htimer', hinputs, fun u hmem => ?_, hlast.le⟩
    · rw [hdeadline, hu, Bool.true_and] at hd
      rw [hlast]
      split at hd
      · exact (Option.some.inj hd).symm
      · next hnone =>
          rw [hfired (by simpa using hnone)] at hd
          cases hd
    · rw [hlast]
      rcases List.mem_cons.mp (hunlocks ▸ hmem) with rfl | hmem
      · exact le_rfl
      · exact (h.unlocks u hmem).trans (h.past.trans hmono)

theorem locksWhenIdle_iff (h : p.Kept) (he : Timely p e) :
    LocksWhenIdle p e ↔ IdleSinceUnlock p e := by
  refine imp_congr_right fun hlock => ?_
  obtain ⟨event, hevent, htimeout, -⟩ := hlock
  have hdue : e.time = p.lastUnlock + zenLockIdleTimeoutMs :=
    h.deadline e.time (he.due event hevent htimeout)
  have hsince : e.time - zenLockIdleTimeoutMs = p.lastUnlock := by
    rw [hdue, add_sub_cancel_right]
  rw [hsince]
  constructor
  · intro hidle u hu
    refine not_lt.mp fun hlt => hidle u (List.mem_append_left _ hu) ⟨hlt, ?_⟩
    exact (h.inputs u hu).trans he.monotone
  · intro hidle u hu hwithin
    rcases List.mem_append.mp hu with hu | hu
    · exact (hidle u hu).not_gt hwithin.1
    · exact (h.unlocks u hu).not_gt hwithin.1

end Idle

/-- The timer is armed while the screen is unlocked. -/
def Timed.Armed (p : Timed) : Prop :=
  p.compositor.lock.locked = false → p.deadline.isSome

/-- When the timer calls back on an unlocked screen, the screen gets locked. -/
def LocksOnTimeout (p : Timed) (e : TimedEvent) : Prop :=
  p.compositor.lock.locked = false → ∀ event ∈ e.event, event.isTimeout = true →
    Locks p.compositor event

theorem Event.owner_of_isTimeout {e : Event} (h : e.isTimeout = true) : e.owner = .lock := by
  cases e <;> first | rfl | cases h

section Armed

variable {p : Timed} {e : TimedEvent}

theorem stepTimed_armed_iff (hc : p.compositor.lock.Consistent)
    (htimer : p.compositor.lock.idleTimer = true) (h : p.Armed) :
    (stepTimed p e).Armed ↔ LocksOnTimeout p e := by
  rcases e with ⟨time, _ | event⟩
  · exact iff_of_true h fun _ _ hevent => by cases hevent
  have hdeadline := stepTimed_deadline p time event
  rw [htimer, Bool.and_true] at hdeadline
  rcases hl : p.compositor.lock.locked with _ | _
  · rw [unlocks, hl, Bool.false_and, if_neg Bool.false_ne_true] at hdeadline
    have harmed : (stepTimed p ⟨time, some event⟩).Armed ↔
        ((step p.compositor event).lock.locked = false → (p.fired event).isSome) := by
      rw [Timed.Armed, hdeadline]
      rfl
    rw [harmed, Timed.fired]
    rcases htimeout : event.isTimeout with _ | _
    · refine iff_of_true (fun _ => h hl) fun _ event' hevent htrue => ?_
      cases hevent
      exact Bool.noConfusion (htimeout.symm.trans htrue)
    · constructor
      · intro harm _ event' hevent _
        cases hevent
        by_contra hlocks
        have hunlocked : (step p.compositor event).lock.locked = false := by
          rcases step_of_not_locks hc (Event.owner_of_isTimeout htimeout) hlocks with h | h
          · exact h.locked.trans hl
          · exact h.locked
        cases harm hunlocked
      · intro hlocks hunlocked
        have hlocked := (step_locks (hlocks hl event rfl htimeout)).1
        exact Bool.noConfusion (hunlocked.symm.trans hlocked)
  · refine iff_of_true (fun hunlocked => ?_) fun hunlocked => ?_
    rotate_left
    · rw [hl] at hunlocked
      cases hunlocked
    have hunlocks : unlocks p.compositor event = true := by
      change (step p.compositor event).lock.locked = false at hunlocked
      rw [unlocks, hl, hunlocked]
      rfl
    rw [hdeadline, if_pos hunlocks]
    rfl

end Armed

section Runs

variable (outputs : List Output) (bindings : List ZenKeybinding) (start : ℚ)

/-- The idle callback locks the screen only after a whole timeout of inactivity, exactly
when it locks the screen only where the user has not been active at all since the last
unlock: activity never sets the timer anew. -/
theorem run_locksWhenIdle_iff (idleTimer : Bool) (events : List TimedEvent)
    (h : Along stepTimed Timely (timedCreated outputs bindings idleTimer start) events) :
    Along stepTimed LocksWhenIdle (timedCreated outputs bindings idleTimer start) events ↔
      Along stepTimed IdleSinceUnlock (timedCreated outputs bindings idleTimer start)
        events := by
  refine along_iff_along (I := Timed.Kept) (fun p e hp he _ => stepTimed_kept hp he.monotone)
    (fun p e hp he => locksWhenIdle_iff hp he) h ?_
  constructor
  · intro d hd
    cases idleTimer with
    | false => cases hd
    | true => exact (Option.some.inj hd).symm
  · intro hnone
    cases idleTimer with
    | false => rfl
    | true => cases hnone
  · exact fun u hu => absurd hu List.not_mem_nil
  · exact fun u hu => absurd hu List.not_mem_nil
  · exact le_rfl

/-- The timer is armed in every unlocked state of a run exactly when the screen can be
locked whenever the timer calls back. -/
theorem run_armed_iff (events : List TimedEvent) :
    Along stepTimed (fun p e => (stepTimed p e).Armed)
        (timedCreated outputs bindings true start) events ↔
      Along stepTimed LocksOnTimeout (timedCreated outputs bindings true start) events := by
  refine along_iff_along (P := fun _ _ => True)
    (I := fun p => p.compositor.lock.Consistent ∧ p.compositor.lock.idleTimer = true ∧ p.Armed)
    (fun p e hp _ harmed => ?_) (fun p e hp _ => stepTimed_armed_iff hp.1 hp.2.1 hp.2.2)
    (along_true _ _) ⟨created_consistent outputs bindings true, rfl, fun _ => rfl⟩
  rcases e with ⟨time, _ | event⟩
  · exact ⟨hp.1, hp.2.1, harmed⟩
  · exact ⟨step_consistent hp.1, (step_rearms _ event).idleTimer.trans hp.2.1, harmed⟩

end Runs

/-- The screen is locked, and unlocked again half an hour later; five minutes after that
it locks itself. -/
theorem run_locksWhenIdle_iff_unlock :
    let events : List TimedEvent :=
      [⟨0, some (.newKeyboard 1 true)⟩, ⟨300000, some (.idleTimeout true)⟩,
        ⟨2100000, some (.key 1 36 [keyReturn] true 0 true fun _ _ => true)⟩,
        ⟨2400000, some (.idleTimeout true)⟩]
    Along stepTimed LocksWhenIdle (timedCreated [] [] true 0) events ↔
      Along stepTimed IdleSinceUnlock (timedCreated [] [] true 0) events :=
  run_locksWhenIdle_iff [] [] 0 true _ (by decide +kernel)

/-- A key is pressed one second before the timer calls back. -/
theorem activity_does_not_delay_lock :
    let events : List TimedEvent :=
      [⟨0, some (.newKeyboard 1 true)⟩,
        ⟨299000, some (.key 1 30 [0x61] true 0 true fun _ _ => true)⟩,
        ⟨300000, some (.idleTimeout true)⟩]
    Along stepTimed Timely (timedCreated [] [] true 0) events ∧
      (exec stepTimed (timedCreated [] [] true 0) events).compositor.lock.locked = true ∧
      ¬ Along stepTimed LocksWhenIdle (timedCreated [] [] true 0) events := by
  refine ⟨by decide +kernel, by decide +kernel, fun h => ?_⟩
  refine h.2.2.1 (by decide +kernel) 299000 (by decide +kernel) (by decide +kernel)

/-- The lock buffer cannot be allocated when the timer calls back. -/
theorem failed_lock_disarms_timer :
    let events : List TimedEvent := [⟨300000, some (.idleTimeout false)⟩]
    let p := exec stepTimed (timedCreated [] [] true 0) events
    Along stepTimed Timely (timedCreated [] [] true 0) events ∧
      p.compositor.lock.locked = false ∧ p.deadline = none ∧
      ¬ Along stepTimed (fun p e => (stepTimed p e).Armed) (timedCreated [] [] true 0)
        events := by
  refine ⟨by decide +kernel, rfl, rfl, fun h => ?_⟩
  cases h.1 rfl

end ZenOS.Compositor
