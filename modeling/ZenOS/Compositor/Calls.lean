import ZenOS.Compositor.Frame

/-!
Which calls the handlers make.  `lock.c` and `keybinds.c` only talk to the system;
what they do never reaches a client's seat or configures a surface.
-/

namespace ZenOS.Compositor

/-- Every call made between `s` and `s'` satisfies `P`. -/
def Emits (P : Call → Prop) (s s' : ZenCompositor) : Prop :=
  ∀ c ∈ s'.calls, c ∈ s.calls ∨ P c

section Emits

variable {P Q : Call → Prop} {s s' s'' : ZenCompositor}

theorem Emits.of_eq (h : s'.calls = s.calls) : Emits P s s' :=
  fun _ hc => .inl (h ▸ hc)

theorem Emits.refl (s : ZenCompositor) : Emits P s s :=
  .of_eq rfl

theorem Emits.of_append {calls : List Call} (h : s'.calls = s.calls ++ calls)
    (hP : ∀ c ∈ calls, P c) : Emits P s s' := by
  intro c hc
  rw [h] at hc
  exact (List.mem_append.mp hc).imp_right (hP c)

theorem Emits.trans (h : Emits P s s') (h' : Emits P s' s'') : Emits P s s'' := by
  intro c hc
  rcases h' c hc with hc | hc
  · exact h c hc
  · exact .inr hc

theorem Emits.mono (h : Emits P s s') (hPQ : ∀ c, P c → Q c) : Emits Q s s' :=
  fun c hc => (h c hc).imp_right (hPQ c)

end Emits

/-- The call notifies a client through the seat, of anything but a key. -/
def Call.isSeat : Call → Prop
  | .keyboardEnter .. | .keyboardLeave _ | .keyboardModifiers .. | .pointerEnter _
  | .pointerLeave _ | .pointerMotion _ | .pointerButton .. => True
  | _ => False

section Seat

variable (s : ZenCompositor)

theorem mem_focus_call {focus : Option SurfaceId} {f : SurfaceId → Call}
    {P : Call → Prop} (h : ∀ surface, P (f surface)) :
    ∀ c ∈ (focus.map f).toList, P c := by
  intro c hc
  obtain ⟨surface, -, rfl⟩ := Option.map_eq_some_iff.mp (Option.mem_toList.mp hc)
  exact h surface

theorem wlrSeatKeyboardNotifyEnter_emits (surface : SurfaceId) (keycodes : List UInt32)
    (modifiers : KeyboardModifiers) :
    Emits Call.isSeat s (wlrSeatKeyboardNotifyEnter s surface keycodes modifiers) := by
  rw [wlrSeatKeyboardNotifyEnter_eq]
  split
  · exact .refl s
  · refine .of_append (List.append_assoc ..) fun c hc => ?_
    rcases List.mem_append.mp hc with hc | hc
    · exact mem_focus_call (f := .keyboardLeave) (P := Call.isSeat) (fun _ => trivial) c hc
    · rcases List.mem_cons.mp hc with rfl | hc
      · trivial
      · rw [List.mem_singleton.mp hc]
        trivial

theorem enterToplevel_emits (t : ToplevelId) :
    Emits Call.isSeat s (enterToplevel s t) := by
  rw [enterToplevel]
  split
  · exact wlrSeatKeyboardNotifyEnter_emits s _ _ _
  · exact .refl s

theorem wlrSeatKeyboardNotifyClearFocus_emits :
    Emits Call.isSeat s (wlrSeatKeyboardNotifyClearFocus s) :=
  .of_append rfl (mem_focus_call fun _ => trivial)

theorem wlrSeatSetKeyboard_emits (k : KeyboardId) :
    Emits Call.isSeat s (wlrSeatSetKeyboard s k) := by
  rw [wlrSeatSetKeyboard]
  split
  · exact .refl s
  · exact .of_append rfl (mem_focus_call fun _ => trivial)

theorem wlrSeatKeyboardNotifyModifiers_emits (modifiers : KeyboardModifiers) :
    Emits Call.isSeat s (wlrSeatKeyboardNotifyModifiers s modifiers) :=
  .of_append rfl (mem_focus_call fun _ => trivial)

theorem newKeyboard_emits (k : KeyboardId) (ok : Bool) :
    Emits Call.isSeat s (handle s (.newKeyboard k ok)) := by
  have init : Emits Call.isSeat s (wlrKeyboardInit s k) := .of_eq rfl
  cases ok with
  | false => exact init
  | true => exact init.trans ((wlrSeatSetKeyboard_emits _ k).trans (.of_eq rfl))

theorem modifiers_emits (k : KeyboardId) (state : KeyboardModifiers) :
    Emits Call.isSeat s (handle s (.modifiers k state)) := by
  let updated := wlrKeyboardUpdateModifiers s k state
  have update : Emits Call.isSeat s updated := .of_eq rfl
  exact update.trans ((wlrSeatSetKeyboard_emits updated k).trans
    (wlrSeatKeyboardNotifyModifiers_emits _ _))

theorem wlrSeatPointerNotifyEnter_emits (surface : SurfaceId) (sx sy : ℚ) :
    Emits Call.isSeat s (wlrSeatPointerNotifyEnter s surface sx sy) := by
  rw [wlrSeatPointerNotifyEnter_eq]
  split
  · exact .refl s
  · refine .of_append (List.append_assoc ..) fun c hc => ?_
    rcases List.mem_append.mp hc with hc | hc
    · exact mem_focus_call (f := .pointerLeave) (P := Call.isSeat) (fun _ => trivial) c hc
    · rw [List.mem_singleton.mp hc]
      trivial

theorem wlrSeatPointerNotifyMotion_emits (sx sy : ℚ) :
    Emits Call.isSeat s (wlrSeatPointerNotifyMotion s sx sy) := by
  rw [wlrSeatPointerNotifyMotion_eq]
  split
  · exact .refl s
  · split
    · exact .refl s
    · refine .of_append rfl fun c hc => ?_
      rw [List.mem_singleton.mp hc]
      trivial

theorem wlrSeatPointerNotifyClearFocus_emits :
    Emits Call.isSeat s (wlrSeatPointerNotifyClearFocus s) :=
  .of_append rfl (mem_focus_call fun _ => trivial)

theorem wlrSeatPointerNotifyButton_emits (pressed : Bool) :
    Emits Call.isSeat s (wlrSeatPointerNotifyButton s pressed) :=
  .of_append rfl (mem_focus_call fun _ => trivial)

theorem handleCursorMotion_emits (x y : ℚ) (hit : Option Hit) :
    Emits Call.isSeat s (handleCursorMotion s x y hit) := by
  unfold handleCursorMotion zenInputProcessCursorMotion
  dsimp only
  split
  · exact .of_eq rfl
  · split
    · exact (wlrSeatPointerNotifyEnter_emits { s with cursorX := x, cursorY := y } _ _ _).trans
        (wlrSeatPointerNotifyMotion_emits _ _ _)
    · exact wlrSeatPointerNotifyClearFocus_emits { s with cursorX := x, cursorY := y }

end Seat

/-- The call schedules a configure. -/
def Call.isConfigure : Call → Prop
  | .setActivated .. | .setSize .. | .setMaximized .. | .setFullscreen ..
  | .layerConfigure .. => True
  | _ => False

section Requests

variable (s : ZenCompositor)

theorem handleToplevelRequestMaximize_emits (t : ToplevelId) :
    Emits Call.isConfigure s (handleToplevelRequestMaximize s t) := by
  rw [handleToplevelRequestMaximize]
  split
  · exact .refl s
  · dsimp only
    split
    · split
      · exact .refl s
      · exact .of_append (List.append_assoc ..) (by simp [Call.isConfigure])
    · exact .of_append (List.append_assoc ..) (by simp [Call.isConfigure])

theorem handleToplevelRequestFullscreen_emits (t : ToplevelId)
    (requested : Option OutputId) :
    Emits Call.isConfigure s (handleToplevelRequestFullscreen s t requested) := by
  rw [handleToplevelRequestFullscreen]
  split
  · exact .refl s
  · dsimp only
    split
    · split
      · exact .refl s
      · exact .of_append (List.append_assoc ..) (by simp [Call.isConfigure])
    · exact .of_append (List.append_assoc ..) (by simp [Call.isConfigure])

theorem handleNewLayerSurface_emits (l : LayerId) (output : Option OutputId) (ok : Bool) :
    Emits Call.isConfigure s (handleNewLayerSurface s l output ok) := by
  rw [handleNewLayerSurface]
  split
  · cases output with
    | none => exact .of_eq rfl
    | some o =>
        dsimp only
        split
        · exact .of_append rfl (by simp [Call.isConfigure])
        · exact .of_eq rfl
  · exact .refl s

end Requests

/-- The call goes to PAM, to a timer, to a child process, to a locker, or asks a
client to close its window. -/
def Call.isSystem : Call → Prop
  | .sendClose _ | .sendLocked _ | .sessionLockDestroy _ | .pamAuthenticate ..
  | .timerUpdate _ | .fork _ => True
  | _ => False

/-- What a key press may ask of the system: anything but to grant a session lock. -/
def Call.isKeyAction : Call → Prop
  | .sendClose _ | .sessionLockDestroy _ | .pamAuthenticate .. | .timerUpdate _
  | .fork _ => True
  | _ => False

theorem Call.isSystem_of_isKeyAction {c : Call} (h : c.isKeyAction) : c.isSystem := by
  cases c <;> trivial

theorem zenLockActivate_calls (s : ZenCompositor) (bufferOk : Bool) :
    (zenLockActivate s bufferOk).calls = s.calls := by
  rw [zenLockActivate]
  split
  · rfl
  · dsimp only
    split <;> rfl

theorem zenLockDeactivate_calls {s : ZenCompositor} (h : s.lock.locked = true) :
    (zenLockDeactivate s).calls =
      s.calls ++ ((s.lock.screen.wlrLock.map Call.sessionLockDestroy).toList ++
        if s.lock.idleTimer then [.timerUpdate zenLockIdleTimeoutMs] else []) := by
  rw [zenLockDeactivate]
  simp only [h, Bool.not_true, Bool.false_eq_true, if_false]
  cases s.lock.screen.lockBuffer <;> cases s.lock.screen.wlrLock <;>
    cases hi : s.lock.idleTimer <;> simp [LockState.clearPassword, hi]

theorem zenLockDeactivate_emits (s : ZenCompositor) :
    Emits Call.isKeyAction s (zenLockDeactivate s) := by
  cases h : s.lock.locked with
  | false => exact .of_eq (by simp [zenLockDeactivate, h])
  | true =>
      refine .of_append (zenLockDeactivate_calls h) fun c hc => ?_
      rcases List.mem_append.mp hc with hc | hc
      · obtain ⟨lock, -, rfl⟩ := Option.map_eq_some_iff.mp (Option.mem_toList.mp hc)
        trivial
      · split at hc <;> simp_all [Call.isKeyAction]

theorem zenLockHandleKey_emits (s : ZenCompositor) (keysym : UInt32) (pressed : Bool)
    (pam : Nat → List UInt8 → Bool) :
    Emits Call.isKeyAction s (zenLockHandleKey s keysym pressed pam).1 := by
  rw [zenLockHandleKey]
  split
  · exact .refl s
  split
  · split <;> exact .of_eq rfl
  split
  · have ask : Emits Call.isKeyAction s (pamAuthenticatePassword s pam).1 :=
      .of_append rfl (by simp [Call.isKeyAction])
    generalize pamAuthenticatePassword s pam = answer at ask ⊢
    obtain ⟨s', success⟩ := answer
    cases success
    · exact ask.trans (.of_eq rfl)
    · exact ask.trans (zenLockDeactivate_emits s')
  split
  · exact .of_eq rfl
  split
  · split <;> exact .of_eq rfl
  · exact .refl s

theorem handleLockedSyms_emits (s : ZenCompositor) (pressed : Bool)
    (pam : Nat → List UInt8 → Bool) (syms : List UInt32) :
    Emits Call.isKeyAction s (handleLockedSyms s pressed pam syms) := by
  induction syms generalizing s with
  | nil => exact .refl s
  | cons keysym syms ih => exact (zenLockHandleKey_emits s keysym pressed pam).trans (ih _)

theorem executeAction_emits (s : ZenCompositor) (action : ZenKeybindAction)
    (customCmd : Option String) (bufferOk : Bool) :
    Emits Call.isKeyAction s (executeAction s action customCmd bufferOk) := by
  unfold executeAction
  split
  · exact .of_append rfl (by simp [Call.isKeyAction])
  · exact .of_eq (zenLockActivate_calls s bufferOk)
  · split
    · exact .of_append rfl (by simp [Call.isKeyAction])
    · exact .refl s
  · split
    · split
      · exact .refl s
      · exact .of_append rfl (by simp [Call.isKeyAction])
    · exact .refl s
  all_goals exact .refl s

theorem handleKeybindingSyms_emits (s : ZenCompositor) (modifiers : UInt32)
    (bufferOk : Bool) (syms : List UInt32) :
    Emits Call.isKeyAction s (handleKeybindingSyms s modifiers bufferOk syms).1 := by
  induction syms with
  | nil => exact .refl s
  | cons keysym syms ih =>
      unfold handleKeybindingSyms zenKeybindsHandleKey
      cases matchingBinding s modifiers keysym with
      | none => exact ih
      | some b => exact executeAction_emits s b.action b.customCmd bufferOk

theorem handleKeyboardKey_emits_of {P : Call → Prop} (hP : ∀ c, c.isKeyAction → P c)
    (s : ZenCompositor) (keycode : UInt32) (syms : List UInt32) (pressed : Bool)
    (modifiers : UInt32) (bufferOk : Bool) (pam : Nat → List UInt8 → Bool)
    (hkey : s.lock.locked = false → ∀ surface, P (.keyboardKey surface keycode pressed)) :
    Emits P s (handleKeyboardKey s keycode syms pressed modifiers bufferOk pam) := by
  rw [handleKeyboardKey]
  split
  · exact (handleLockedSyms_emits s pressed pam syms).mono hP
  · next hl =>
    have notifyKey : ∀ s', Emits P s' (wlrSeatKeyboardNotifyKey s' keycode pressed) :=
      fun s' => .of_append rfl (mem_focus_call (hkey (by simpa using hl)))
    have binding : Emits P s _ := (handleKeybindingSyms_emits s modifiers bufferOk syms).mono hP
    cases pressed
    · exact notifyKey s
    · simp only [↓reduceIte]
      split
      · exact binding.trans (notifyKey _)
      · exact binding

/-- What a key event may call: the system and, while the screen is not locked, the
client with the keyboard focus. -/
def Call.followsKey (locked : Bool) : Call → Prop
  | .keyboardKey .. => locked = false
  | c => c.isSystem

theorem Call.followsKey_of_isSystem {locked : Bool} {c : Call} (h : c.isSystem) :
    c.followsKey locked := by
  cases c with
  | keyboardKey => exact absurd h id
  | _ => exact h

theorem handleKeyboardKey_emits (s : ZenCompositor) (keycode : UInt32)
    (syms : List UInt32) (pressed : Bool) (modifiers : UInt32) (bufferOk : Bool)
    (pam : Nat → List UInt8 → Bool) :
    Emits (Call.followsKey s.lock.locked) s
      (handleKeyboardKey s keycode syms pressed modifiers bufferOk pam) :=
  handleKeyboardKey_emits_of
    (fun _ hc => Call.followsKey_of_isSystem (Call.isSystem_of_isKeyAction hc))
    s keycode syms pressed modifiers bufferOk pam fun hl _ => hl

/-- The call goes to a client's seat, though not for a key, or configures a surface. -/
def Call.isDesktop (c : Call) : Prop :=
  c.isSeat ∨ c.isConfigure

theorem Call.not_isSystem_of_isDesktop {c : Call} (h : c.isDesktop) : ¬ c.isSystem := by
  cases c <;> first | exact id | exact absurd h (by rintro (h | h) <;> exact h)

section Desktop

variable (s : ZenCompositor)

theorem zenXdgFocusToplevel_emits_desktop (target : Option ToplevelId) :
    Emits Call.isDesktop s (zenXdgFocusToplevel s target) := by
  have activated : ∀ (s' : ZenCompositor) t b,
      Emits Call.isDesktop s' (wlrXdgToplevelSetActivated s' t b) := by
    intro s' t b
    refine .of_append rfl fun c hc => ?_
    rw [List.mem_singleton.mp hc]
    exact .inr trivial
  have deactivate : Emits Call.isDesktop s (deactivateFocused s) := by
    rw [deactivateFocused]
    split
    · exact activated s _ false
    · exact .refl s
  rw [zenXdgFocusToplevel]
  split
  · exact .refl s
  · refine deactivate.trans ?_
    cases target with
    | none => exact Emits.mono (wlrSeatKeyboardNotifyClearFocus_emits _) fun _ => .inl
    | some t =>
        refine .trans (activated _ t true) ?_
        exact Emits.mono (enterToplevel_emits _ t) fun _ => .inl

theorem handleToplevelUnmap_emits_desktop (t : ToplevelId) :
    Emits Call.isDesktop s (handleToplevelUnmap s t) := by
  have hide : Emits Call.isDesktop s (wlrSceneNodeSetEnabled s t false) := .of_eq rfl
  rw [handleToplevelUnmap]
  dsimp only
  split
  · exact hide.trans (zenXdgFocusToplevel_emits_desktop _ _)
  · exact hide

theorem handleToplevelDestroy_emits_desktop (t : ToplevelId) :
    Emits Call.isDesktop s (handleToplevelDestroy s t) := by
  rw [handleToplevelDestroy]
  dsimp only
  split
  · have transfer :=
      zenXdgFocusToplevel_emits_desktop s (s.windows.toplevels.find? fun iter => iter ≠ t)
    split <;> exact transfer.trans (.of_eq rfl)
  · split <;> exact .of_eq rfl

theorem handleCursorButton_emits_desktop (pressed : Bool) (hit : Option Hit) :
    Emits Call.isDesktop s (handleCursorButton s pressed hit) := by
  have button : ∀ s', Emits Call.isDesktop s' (wlrSeatPointerNotifyButton s' pressed) :=
    fun s' => (wlrSeatPointerNotifyButton_emits s' pressed).mono fun _ => .inl
  refine .trans ?_ (button _)
  cases pressed
  · simp only [Bool.not_false, Bool.true_and, Bool.false_eq_true, ↓reduceIte]
    split <;> exact .of_eq rfl
  · simp only [Bool.not_true, Bool.false_and, Bool.false_eq_true, ↓reduceIte]
    split
    · exact zenXdgFocusToplevel_emits_desktop s _
    · exact .refl s

/-- Only the events of the lock screen and of its keys talk to the system. -/
theorem handle_emits_desktop {e : Event} (ho : e.owner ≠ .lock) :
    Emits Call.isDesktop s (handle s e) := by
  cases e with
  | newToplevel t surface ok => cases ok <;> exact .of_eq rfl
  | map t =>
      have reveal : Emits Call.isDesktop s (wlrSceneNodeSetEnabled
          { s with windows := s.windows.modify t fun r => { r with mapped := true } } t true) :=
        .of_eq rfl
      exact reveal.trans (zenXdgFocusToplevel_emits_desktop _ _)
  | unmap t =>
      have mark : Emits Call.isDesktop s
          { s with windows := s.windows.modify t fun r => { r with mapped := false } } :=
        .of_eq rfl
      exact (mark.trans (handleToplevelUnmap_emits_desktop _ t)).trans (.of_eq rfl)
  | destroy t => exact handleToplevelDestroy_emits_desktop s t
  | requestMove t =>
      refine .of_eq ?_
      simp only [handle, handleToplevelRequestMove]
      split <;> rfl
  | requestMaximize t => exact (handleToplevelRequestMaximize_emits s t).mono fun _ => .inr
  | requestFullscreen t requested =>
      exact (handleToplevelRequestFullscreen_emits s t requested).mono fun _ => .inr
  | focus target => exact zenXdgFocusToplevel_emits_desktop s target
  | newLayerSurface l output ok =>
      exact (handleNewLayerSurface_emits s l output ok).mono fun _ => .inr
  | newKeyboard k ok =>
      exact (newKeyboard_emits s k ok).mono fun _ => .inl
  | modifiers k state => exact (modifiers_emits s k state).mono fun _ => .inl
  | cursorMotion x y hit => exact (handleCursorMotion_emits s x y hit).mono fun _ => .inl
  | cursorButton pressed hit => exact handleCursorButton_emits_desktop s pressed hit
  | newOutput o place allocs => exact .of_eq (handleNewOutput_writes s o place allocs).calls
  | wallpaperInit stateOk treeOk => exact .of_eq (zenWallpaperInit_writes s stateOk treeOk).calls
  | wallpaperDestroy => exact .of_eq (zenWallpaperDestroy_writes s).calls
  | key | idleTimeout | lockSignal | newLock => exact absurd rfl ho
  | _ => exact .of_eq rfl

end Desktop

end ZenOS.Compositor
