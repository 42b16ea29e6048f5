import ZenOS.Compositor.Frame

/-!
The lock screen as a part of the whole: which events lock the screen, and how the
lock, its buffer and the scene change together.
-/

namespace ZenOS.Compositor

/-- The binding that consumes a key press: that of the first bound keysym. -/
def firstBinding (s : ZenCompositor) (modifiers : UInt32) (syms : List UInt32) :
    Option ZenKeybinding :=
  syms.findSome? (matchingBinding s modifiers)

/-- The event asks for the lock screen; the flag says whether its buffer can be
allocated. -/
def lockRequest (s : ZenCompositor) : Event → Option Bool
  | .idleTimeout bufferOk | .lockSignal bufferOk => some bufferOk
  | .key _ _ syms pressed modifiers bufferOk _ =>
      if pressed = true ∧
          (firstBinding s modifiers syms).map (·.action) = some .lockScreen then
        some bufferOk
      else none
  | _ => none

def lockBox (layout : List Output) : Box :=
  { x := 0, y := 0, width := (lockDimensions layout).1, height := (lockDimensions layout).2 }

/-- The event locks an unlocked screen. -/
def Locks (s : ZenCompositor) (e : Event) : Prop :=
  s.lock.locked = false ∧ ∃ bufferOk ∈ lockRequest s e,
    zenCairoBufferCreate (lockBox s.outputLayout).width (lockBox s.outputLayout).height
      bufferOk = true

/-- The screen is locked while there is a lock buffer. -/
def LockState.Consistent (l : LockState) : Prop :=
  l.locked = l.screen.lockBuffer.isSome

structure SameLock (s s' : ZenCompositor) : Prop where
  locked : s'.lock.locked = s.lock.locked
  lockBuffer : s'.lock.screen.lockBuffer = s.lock.screen.lockBuffer
  scene : s'.scene = s.scene

/-- The screen gets unlocked and the lock buffer leaves the scene. -/
structure Unlocked (s s' : ZenCompositor) : Prop where
  was_locked : s.lock.locked = true
  locked : s'.lock.locked = false
  lockBuffer : s'.lock.screen.lockBuffer = none
  scene : s'.scene = s.scene.destroy (overlayParent s) .lockBuffer

theorem SameLock.refl (s : ZenCompositor) : SameLock s s :=
  ⟨rfl, rfl, rfl⟩

theorem SameLock.of_eq {s s' : ZenCompositor} (hl : s'.lock = s.lock)
    (hs : s'.scene = s.scene) : SameLock s s' :=
  ⟨congrArg LockState.locked hl, congrArg (·.screen.lockBuffer) hl, hs⟩

theorem zenLockActivate_locks {s : ZenCompositor} {bufferOk : Bool}
    (hl : s.lock.locked = false)
    (hok : zenCairoBufferCreate (lockBox s.outputLayout).width
      (lockBox s.outputLayout).height bufferOk = true) :
    (zenLockActivate s bufferOk).lock.locked = true ∧
      (zenLockActivate s bufferOk).lock.screen.lockBuffer = some (lockBox s.outputLayout) ∧
      (zenLockActivate s bufferOk).scene = s.scene.create (overlayParent s) .lockBuffer := by
  have hcreate : zenCairoBufferCreate (lockDimensions s.outputLayout).1
      (lockDimensions s.outputLayout).2 bufferOk = true := hok
  simp [zenLockActivate, hl, hcreate, lockBox]

theorem zenLockActivate_sameLock {s : ZenCompositor} {bufferOk : Bool}
    (hc : s.lock.Consistent)
    (h : ¬ (s.lock.locked = false ∧ zenCairoBufferCreate (lockBox s.outputLayout).width
      (lockBox s.outputLayout).height bufferOk = true)) :
    SameLock s (zenLockActivate s bufferOk) := by
  rcases hl : s.lock.locked with _ | _
  · have hcreate : zenCairoBufferCreate (lockDimensions s.outputLayout).1
        (lockDimensions s.outputLayout).2 bufferOk = false := by
      simpa [hl, lockBox] using h
    have hbuffer : s.lock.screen.lockBuffer = none := by
      simpa [LockState.Consistent, hl] using hc
    constructor <;> simp [zenLockActivate, hl, hcreate, hbuffer, ZenLockScreen.zero]
  · have hsame : zenLockActivate s bufferOk = s := by simp [zenLockActivate, hl]
    rw [hsame]
    exact .refl s

theorem zenLockDeactivate_lock {s : ZenCompositor} (hl : s.lock.locked = true) :
    (zenLockDeactivate s).lock =
      { s.lock.clearPassword with
        locked := false, activeLock := none, screen := ZenLockScreen.zero } := by
  rw [zenLockDeactivate]
  simp only [hl, Bool.not_true, Bool.false_eq_true, if_false]
  rcases s.lock.screen.lockBuffer with _ | _ <;> rcases s.lock.screen.wlrLock with _ | _ <;>
    exact apply_ite ZenCompositor.lock .. |>.trans (ite_self _)

theorem zenLockDeactivate_scene {s : ZenCompositor} (hl : s.lock.locked = true) {box : Box}
    (hbox : s.lock.screen.lockBuffer = some box) :
    (zenLockDeactivate s).scene = s.scene.destroy (overlayParent s) .lockBuffer := by
  rw [zenLockDeactivate]
  simp only [hl, hbox, Bool.not_true, Bool.false_eq_true, if_false]
  rcases s.lock.screen.wlrLock with _ | _ <;>
    exact apply_ite ZenCompositor.scene .. |>.trans (ite_self _)

theorem zenLockDeactivate_unlocked {s : ZenCompositor} (hc : s.lock.Consistent)
    (hl : s.lock.locked = true) : Unlocked s (zenLockDeactivate s) := by
  obtain ⟨box, hbox⟩ : ∃ box, s.lock.screen.lockBuffer = some box :=
    Option.isSome_iff_exists.mp (hc.symm.trans hl)
  refine ⟨hl, ?_, ?_, zenLockDeactivate_scene hl hbox⟩
  · rw [zenLockDeactivate_lock hl]
  · rw [zenLockDeactivate_lock hl]
    rfl

theorem zenLockHandleKey_of_unlocked {s : ZenCompositor} (hl : s.lock.locked = false)
    (keysym : UInt32) (pressed : Bool) (pam : Nat → List UInt8 → Bool) :
    (zenLockHandleKey s keysym pressed pam).1 = s := by
  simp [zenLockHandleKey, hl]

theorem zenLockHandleKey_cases {s : ZenCompositor} (hc : s.lock.Consistent)
    (keysym : UInt32) (pressed : Bool) (pam : Nat → List UInt8 → Bool) :
    SameLock s (zenLockHandleKey s keysym pressed pam).1 ∨
      Unlocked s (zenLockHandleKey s keysym pressed pam).1 := by
  rw [zenLockHandleKey]
  split
  · exact .inl (.refl s)
  next hlocked =>
  have hl : s.lock.locked = true := by
    rcases h : s.lock.locked with _ | _
    · simp [h] at hlocked
    · rfl
  split
  · split <;> exact .inl ⟨rfl, rfl, rfl⟩
  split
  · have ask : SameLock s (pamAuthenticatePassword s pam).1 := ⟨rfl, rfl, rfl⟩
    have hparent : overlayParent (pamAuthenticatePassword s pam).1 = overlayParent s := rfl
    generalize pamAuthenticatePassword s pam = answer at ask hparent ⊢
    obtain ⟨s', success⟩ := answer
    cases success with
    | false => exact .inl ⟨ask.locked, ask.lockBuffer, ask.scene⟩
    | true =>
        have hc' : s'.lock.Consistent := by
          rw [LockState.Consistent, ask.locked, ask.lockBuffer]
          exact hc
        have h := zenLockDeactivate_unlocked hc' (ask.locked.trans hl)
        refine .inr ⟨hl, h.locked, h.lockBuffer, ?_⟩
        exact h.scene.trans (by rw [ask.scene, hparent])
  split
  · exact .inl ⟨rfl, rfl, rfl⟩
  split
  · split <;> exact .inl ⟨rfl, rfl, rfl⟩
  · exact .inl (.refl s)

theorem SameLock.trans {s s' s'' : ZenCompositor} (h : SameLock s s')
    (h' : SameLock s' s'') : SameLock s s'' :=
  ⟨h'.locked.trans h.locked, h'.lockBuffer.trans h.lockBuffer, h'.scene.trans h.scene⟩

theorem SameLock.consistent {s s' : ZenCompositor} (h : SameLock s s')
    (hc : s.lock.Consistent) : s'.lock.Consistent := by
  rw [LockState.Consistent, h.locked, h.lockBuffer]
  exact hc

theorem Unlocked.consistent {s s' : ZenCompositor} (h : Unlocked s s') :
    s'.lock.Consistent := by
  rw [LockState.Consistent, h.locked, h.lockBuffer]
  rfl

theorem handleLockedSyms_of_unlocked {s : ZenCompositor} (hl : s.lock.locked = false)
    (pressed : Bool) (pam : Nat → List UInt8 → Bool) (syms : List UInt32) :
    handleLockedSyms s pressed pam syms = s := by
  induction syms with
  | nil => rfl
  | cons keysym syms ih =>
      have hkey := zenLockHandleKey_of_unlocked hl keysym pressed pam
      exact (congrArg (handleLockedSyms · pressed pam syms) hkey).trans ih

theorem handleLockedSyms_cases {s : ZenCompositor} (hc : s.lock.Consistent)
    (pressed : Bool) (pam : Nat → List UInt8 → Bool) (syms : List UInt32) :
    SameLock s (handleLockedSyms s pressed pam syms) ∨
      Unlocked s (handleLockedSyms s pressed pam syms) := by
  induction syms generalizing s with
  | nil => exact .inl (.refl s)
  | cons keysym syms ih =>
      change SameLock s (handleLockedSyms _ pressed pam syms) ∨
        Unlocked s (handleLockedSyms _ pressed pam syms)
      have hparent := (zenLockHandleKey_writes s keysym pressed pam).framed.shellOverlayTree
      rcases zenLockHandleKey_cases hc keysym pressed pam with h | h
      · rcases ih (h.consistent hc) with hrest | hrest
        · exact .inl (h.trans hrest)
        · refine .inr ⟨h.locked ▸ hrest.was_locked, hrest.locked, hrest.lockBuffer, ?_⟩
          rw [hrest.scene, h.scene, overlayParent, overlayParent, hparent]
      · rw [handleLockedSyms_of_unlocked h.locked]
        exact .inr h

theorem handleKeybindingSyms_eq (s : ZenCompositor) (modifiers : UInt32)
    (bufferOk : Bool) (syms : List UInt32) :
    handleKeybindingSyms s modifiers bufferOk syms =
      match firstBinding s modifiers syms with
      | some b => (executeAction s b.action b.customCmd bufferOk, true)
      | none => (s, false) := by
  induction syms with
  | nil => rfl
  | cons keysym syms ih =>
      rw [handleKeybindingSyms, zenKeybindsHandleKey, firstBinding, List.findSome?_cons]
      rcases matchingBinding s modifiers keysym with _ | b
      · exact ih
      · rfl

theorem executeAction_lock (s : ZenCompositor) {action : ZenKeybindAction}
    (h : action ≠ .lockScreen) (customCmd : Option String) (bufferOk : Bool) :
    (executeAction s action customCmd bufferOk).lock = s.lock ∧
      (executeAction s action customCmd bufferOk).scene = s.scene := by
  cases action with
  | lockScreen => exact absurd rfl h
  | launchTerminal => exact ⟨rfl, rfl⟩
  | closeWindow =>
      rw [executeAction]
      split <;> exact ⟨rfl, rfl⟩
  | custom =>
      rcases customCmd with _ | cmd
      · exact ⟨rfl, rfl⟩
      · simp only [executeAction]
        split <;> exact ⟨rfl, rfl⟩
  | toggleLauncher => exact ⟨rfl, rfl⟩
  | switchWindow => exact ⟨rfl, rfl⟩

theorem handleKeyboardKey_of_unlocked {s : ZenCompositor} (hl : s.lock.locked = false)
    (k : KeyboardId) (keycode : UInt32) (syms : List UInt32) (pressed : Bool)
    (modifiers : UInt32) (bufferOk : Bool) (pam : Nat → List UInt8 → Bool) :
    match lockRequest s (.key k keycode syms pressed modifiers bufferOk pam) with
    | some ok => handleKeyboardKey s keycode syms pressed modifiers bufferOk pam =
        zenLockActivate s ok
    | none => (handleKeyboardKey s keycode syms pressed modifiers bufferOk pam).lock = s.lock ∧
        (handleKeyboardKey s keycode syms pressed modifiers bufferOk pam).scene = s.scene := by
  rw [handleKeyboardKey, if_neg (by simp [hl])]
  cases pressed with
  | false => exact ⟨rfl, rfl⟩
  | true =>
      simp only [if_true, handleKeybindingSyms_eq, lockRequest, true_and]
      rcases firstBinding s modifiers syms with _ | b
      · exact ⟨rfl, rfl⟩
      · rcases eq_or_ne b.action .lockScreen with hb | hb
        · simp [hb, executeAction]
        · simpa [hb] using executeAction_lock s hb b.customCmd bufferOk

theorem handle_locks {s : ZenCompositor} {e : Event} (h : Locks s e) :
    (handle s e).lock.locked = true ∧
      (handle s e).lock.screen.lockBuffer = some (lockBox s.outputLayout) ∧
      (handle s e).scene = s.scene.create (overlayParent s) .lockBuffer := by
  obtain ⟨hl, bufferOk, hreq, hok⟩ := h
  cases e with
  | idleTimeout ok | lockSignal ok =>
      cases hreq
      exact zenLockActivate_locks hl hok
  | key k keycode syms pressed modifiers ok pam =>
      let held := wlrKeyboardUpdate s k keycode pressed
      have hkey := handleKeyboardKey_of_unlocked (s := held) hl k keycode syms pressed modifiers
        ok pam
      have hreq' : lockRequest held (.key k keycode syms pressed modifiers ok pam) =
        some bufferOk := hreq
      rw [hreq'] at hkey
      rw [show handle s (.key k keycode syms pressed modifiers ok pam) =
        zenLockActivate held bufferOk from hkey]
      exact zenLockActivate_locks (s := held) hl hok
  | _ => cases hreq

theorem handle_of_not_locks {s : ZenCompositor} {e : Event} (hc : s.lock.Consistent)
    (ho : e.owner = .lock) (h : ¬ Locks s e) :
    SameLock s (handle s e) ∨ Unlocked s (handle s e) := by
  have activate : ∀ bufferOk, lockRequest s e = some bufferOk →
      SameLock s (zenLockActivate s bufferOk) := fun bufferOk hreq =>
    zenLockActivate_sameLock hc fun hok => h ⟨hok.1, bufferOk, hreq, hok.2⟩
  cases e with
  | idleTimeout ok | lockSignal ok => exact .inl (activate ok rfl)
  | newLock lock => exact .inl ⟨rfl, rfl, rfl⟩
  | key k keycode syms pressed modifiers ok pam =>
      let held := wlrKeyboardUpdate s k keycode pressed
      rcases hl : s.lock.locked with _ | _
      · have hkey := handleKeyboardKey_of_unlocked (s := held) hl k keycode syms pressed modifiers
          ok pam
        rcases hreq : lockRequest held (.key k keycode syms pressed modifiers ok pam) with _ | ok'
        · rw [hreq] at hkey
          exact .inl (.of_eq hkey.1 hkey.2)
        · rw [hreq] at hkey
          rw [show handle s (.key k keycode syms pressed modifiers ok pam) =
            zenLockActivate held ok' from hkey]
          have hsame : SameLock held (zenLockActivate held ok') :=
            zenLockActivate_sameLock hc fun hok => h ⟨hok.1, ok', hreq, hok.2⟩
          exact .inl ⟨hsame.locked, hsame.lockBuffer, hsame.scene⟩
      · rw [handle_key_of_locked hl]
        rcases handleLockedSyms_cases (s := held) hc pressed pam syms with hsame | hdone
        · exact .inl ⟨hsame.locked, hsame.lockBuffer, hsame.scene⟩
        · exact .inr ⟨hdone.was_locked, hdone.locked, hdone.lockBuffer, hdone.scene⟩
  | _ => cases ho

section Step

variable {s : ZenCompositor} {e : Event}

theorem locks_clear : Locks { s with calls := [] } e ↔ Locks s e := by
  cases e <;> rfl

theorem step_locks (h : Locks s e) :
    (step s e).lock.locked = true ∧
      (step s e).lock.screen.lockBuffer = some (lockBox s.outputLayout) ∧
      (step s e).scene = s.scene.create (overlayParent s) .lockBuffer :=
  handle_locks (locks_clear.mpr h)

/-- Any other event leaves the lock alone, and the scene too when the event is the
lock's, or else it unlocks. -/
theorem step_of_not_locks (hc : s.lock.Consistent) (ho : e.owner = .lock)
    (h : ¬ Locks s e) : SameLock s (step s e) ∨ Unlocked s (step s e) := by
  rcases handle_of_not_locks (s := { s with calls := [] }) hc ho (mt locks_clear.mp h) with
    hstep | hstep
  · exact .inl ⟨hstep.locked, hstep.lockBuffer, hstep.scene⟩
  · exact .inr ⟨hstep.was_locked, hstep.locked, hstep.lockBuffer, hstep.scene⟩

theorem Locks.owner (h : Locks s e) : e.owner = .lock := by
  obtain ⟨-, bufferOk, hreq, -⟩ := h
  cases e <;> first | rfl | cases hreq

theorem step_consistent (hc : s.lock.Consistent) : (step s e).lock.Consistent := by
  by_cases hlocks : Locks s e
  · obtain ⟨hl, hbuffer, -⟩ := step_locks hlocks
    rw [LockState.Consistent, hl, hbuffer]
    rfl
  · rcases eq_or_ne e.owner .lock with ho | ho
    · rcases step_of_not_locks hc ho hlocks with h | h
      · exact h.consistent hc
      · exact h.consistent
    · rw [step_lock s ho]
      exact hc

end Step

theorem created_consistent (outputs : List Output) (bindings : List ZenKeybinding)
    (idleTimer : Bool) : (created outputs bindings idleTimer).lock.Consistent :=
  rfl

end ZenOS.Compositor
