import ZenOS.Compositor.Calls
import ZenOS.Compositor.WindowMachine
import ZenOS.Library.Runs

/-!
The pointer of the seat.  What clients are told about it is told by a machine of its own that
knows the surface with the focus and the window that is dragged, and nothing else of the
compositor.
-/

namespace ZenOS.Compositor

open ZenOS.Library.Runs

/-- The call tells a client about the pointer. -/
def Call.isPointer : Call → Bool
  | .pointerEnter _ | .pointerLeave _ | .pointerMotion _ | .pointerButton .. => true
  | _ => false

/-- The pointer on its own.  `calls` holds what clients have been told since the current event
arrived. -/
structure Pointer where
  focus : Option SurfaceId
  x : ℚ
  y : ℚ
  dragged : Option ToplevelId
  calls : List Call
  deriving DecidableEq

namespace Pointer

variable (p : Pointer)

def enter (surface : SurfaceId) (sx sy : ℚ) : Pointer :=
  if p.focus = some surface then p
  else
    { p with
      focus := some surface, x := sx, y := sy
      calls := p.calls ++ (p.focus.map Call.pointerLeave).toList ++ [.pointerEnter surface] }

/-- A position that the client knows already is not sent again. -/
def move (sx sy : ℚ) : Pointer :=
  match p.focus with
  | none => p
  | some surface =>
      if p.x = sx ∧ p.y = sy then p
      else { p with x := sx, y := sy, calls := p.calls ++ [.pointerMotion surface] }

def leave : Pointer :=
  { p with focus := none, calls := p.calls ++ (p.focus.map Call.pointerLeave).toList }

def button (pressed : Bool) : Pointer :=
  { p with calls := p.calls ++ (p.focus.map fun f => Call.pointerButton f pressed).toList }

/-- The events that matter to the pointer. -/
def handle : Event → Pointer
  | .cursorMotion _ _ hit =>
      if p.dragged.isSome then p
      else
        match hit with
        | some { surface := some surface, sx, sy, .. } => (p.enter surface sx sy).move sx sy
        | _ => p.leave
  | .cursorButton pressed _ =>
      { p with dragged := if pressed then p.dragged else none }.button pressed
  | .requestMove t => { p with dragged := some t }
  | .destroy t => { p with dragged := if p.dragged = some t then none else p.dragged }
  | .surfaceDestroy surface =>
      { p with focus := if p.focus = some surface then none else p.focus }
  | _ => p

def step (e : Event) : Pointer :=
  { p with calls := [] }.handle e

end Pointer

/-- The pointer of the compositor. -/
def pointerOf (s : ZenCompositor) : Pointer where
  focus := s.seat.pointerFocus
  x := s.seat.pointerX
  y := s.seat.pointerY
  dragged := s.windows.grabbedToplevel
  calls := s.calls.filter Call.isPointer

theorem pointerOf_of_append {s s' : ZenCompositor} {calls : List Call}
    (hseat : s'.seat.pointerFocus = s.seat.pointerFocus ∧ s'.seat.pointerX = s.seat.pointerX ∧
      s'.seat.pointerY = s.seat.pointerY)
    (hgrab : s'.windows.grabbedToplevel = s.windows.grabbedToplevel)
    (hcalls : s'.calls = s.calls ++ calls) (hnone : ∀ c ∈ calls, c.isPointer = false) :
    pointerOf s' = pointerOf s := by
  have hfilter : calls.filter Call.isPointer = [] :=
    List.filter_eq_nil_iff.mpr fun c hc => by simp [hnone c hc]
  obtain ⟨hfocus, hx, hy⟩ := hseat
  simp [pointerOf, hfocus, hx, hy, hgrab, hcalls, hfilter]

section Primitives

variable (s : ZenCompositor)

theorem pointerOf_setActivated (t : ToplevelId) (activated : Bool) :
    pointerOf (wlrXdgToplevelSetActivated s t activated) = pointerOf s :=
  pointerOf_of_append ⟨rfl, rfl, rfl⟩ rfl rfl (by simp [Call.isPointer])

theorem pointerOf_keyboardNotifyEnter (surface : SurfaceId) (keycodes : List UInt32)
    (modifiers : KeyboardModifiers) :
    pointerOf (wlrSeatKeyboardNotifyEnter s surface keycodes modifiers) = pointerOf s := by
  rw [wlrSeatKeyboardNotifyEnter_eq]
  split
  · rfl
  · refine pointerOf_of_append ⟨rfl, rfl, rfl⟩ rfl (List.append_assoc ..) fun c hc => ?_
    rcases List.mem_append.mp hc with hc | hc
    · exact mem_focus_call (P := fun c => c.isPointer = false) (fun _ => rfl) c hc
    · rcases List.mem_cons.mp hc with rfl | hc
      · rfl
      · rw [List.mem_singleton.mp hc]
        rfl

theorem pointerOf_setKeyboard (k : KeyboardId) :
    pointerOf (wlrSeatSetKeyboard s k) = pointerOf s := by
  rw [wlrSeatSetKeyboard]
  split
  · rfl
  · exact pointerOf_of_append ⟨rfl, rfl, rfl⟩ rfl rfl (mem_focus_call fun _ => rfl)

theorem pointerOf_enterToplevel (t : ToplevelId) :
    pointerOf (enterToplevel s t) = pointerOf s := by
  rw [enterToplevel]
  split
  · exact pointerOf_keyboardNotifyEnter s _ _ _
  · rfl

theorem pointerOf_deactivateFocused : pointerOf (deactivateFocused s) = pointerOf s := by
  rw [deactivateFocused]
  split
  · exact pointerOf_setActivated s _ false
  · rfl

theorem pointerOf_zenXdgFocusToplevel (target : Option ToplevelId) :
    pointerOf (zenXdgFocusToplevel s target) = pointerOf s := by
  rw [zenXdgFocusToplevel]
  split
  · rfl
  · cases target with
    | none =>
        refine .trans ?_ (pointerOf_deactivateFocused s)
        exact pointerOf_of_append ⟨rfl, rfl, rfl⟩ rfl rfl (mem_focus_call fun _ => rfl)
    | some t =>
        refine .trans ?_ (pointerOf_deactivateFocused s)
        refine .trans ?_ (pointerOf_setActivated _ t true)
        exact pointerOf_enterToplevel _ t

end Primitives

section Handlers

variable (s : ZenCompositor)

theorem pointerOf_handleToplevelUnmap (t : ToplevelId) :
    pointerOf (handleToplevelUnmap s t) = pointerOf s := by
  rw [handleToplevelUnmap]
  dsimp only
  split
  · exact pointerOf_zenXdgFocusToplevel _ _
  · rfl

theorem pointerOf_handleToplevelDestroy (t : ToplevelId) :
    pointerOf (handleToplevelDestroy s t) = (pointerOf s).handle (.destroy t) := by
  have free : ∀ s' : ZenCompositor, pointerOf s' = pointerOf s →
      pointerOf (if s'.windows.grabbedToplevel = some t then
        { s' with windows := { s'.windows with
          grabbedToplevel := none, grabX := 0, grabY := 0,
          grabNodeX := 0, grabNodeY := 0 } }
      else s') = (pointerOf s).handle (.destroy t) := by
    intro s' hs'
    rw [← hs']
    have hdragged : (pointerOf s').dragged = s'.windows.grabbedToplevel := rfl
    simp only [Pointer.handle, hdragged]
    split
    · rfl
    · rfl
  rw [handleToplevelDestroy]
  dsimp only
  split
  · exact free _ (pointerOf_zenXdgFocusToplevel s _)
  · exact free s rfl

theorem pointerOf_pointerNotifyEnter (surface : SurfaceId) (sx sy : ℚ) :
    pointerOf (wlrSeatPointerNotifyEnter s surface sx sy) =
      (pointerOf s).enter surface sx sy := by
  have hfocus : (pointerOf s).focus = s.seat.pointerFocus := rfl
  rw [wlrSeatPointerNotifyEnter_eq, Pointer.enter, hfocus]
  split
  · rfl
  · rcases s.seat.pointerFocus with _ | old
    · simp [pointerOf, Call.isPointer]
    · simp [pointerOf, Call.isPointer]

theorem pointerOf_pointerNotifyMotion (sx sy : ℚ) :
    pointerOf (wlrSeatPointerNotifyMotion s sx sy) = (pointerOf s).move sx sy := by
  rw [wlrSeatPointerNotifyMotion_eq, Pointer.move]
  rcases hf : s.seat.pointerFocus with _ | surface
  · have hfocus : (pointerOf s).focus = none := hf
    rw [hfocus]
  · have hfocus : (pointerOf s).focus = some surface := hf
    have hx : (pointerOf s).x = s.seat.pointerX := rfl
    have hy : (pointerOf s).y = s.seat.pointerY := rfl
    rw [hfocus, hx, hy]
    dsimp only
    split
    · rfl
    · simp [pointerOf, Call.isPointer, hf]

theorem pointerOf_pointerNotifyClearFocus :
    pointerOf (wlrSeatPointerNotifyClearFocus s) = (pointerOf s).leave := by
  rcases hf : s.seat.pointerFocus with _ | surface
  · simp [wlrSeatPointerNotifyClearFocus_eq, Pointer.leave, pointerOf, hf]
  · simp [wlrSeatPointerNotifyClearFocus_eq, Pointer.leave, pointerOf, hf, Call.isPointer]

theorem pointerOf_pointerNotifyButton (pressed : Bool) :
    pointerOf (wlrSeatPointerNotifyButton s pressed) = (pointerOf s).button pressed := by
  rcases hf : s.seat.pointerFocus with _ | surface
  · simp [wlrSeatPointerNotifyButton_eq, Pointer.button, pointerOf, hf]
  · simp [wlrSeatPointerNotifyButton_eq, Pointer.button, pointerOf, hf, Call.isPointer]

theorem pointerOf_handleCursorMotion (x y : ℚ) (hit : Option Hit) :
    pointerOf (handleCursorMotion s x y hit) =
      (pointerOf s).handle (.cursorMotion x y hit) := by
  let moved : ZenCompositor := { s with cursorX := x, cursorY := y }
  have hmoved : pointerOf moved = pointerOf s := rfl
  change pointerOf (zenInputProcessCursorMotion moved hit) = _
  unfold zenInputProcessCursorMotion
  rw [← hmoved]
  rcases hg : moved.windows.grabbedToplevel with _ | g
  · have hdragged : (pointerOf moved).dragged = none := hg
    simp only [Pointer.handle, hdragged, Option.isSome_none, Bool.false_eq_true, if_false]
    rcases hit with _ | ⟨nodes, _ | surface, sx, sy⟩
    · exact pointerOf_pointerNotifyClearFocus moved
    · exact pointerOf_pointerNotifyClearFocus moved
    · dsimp only
      rw [pointerOf_pointerNotifyMotion, pointerOf_pointerNotifyEnter]
  · have hdragged : (pointerOf moved).dragged = some g := hg
    simp only [Pointer.handle, hdragged, Option.isSome_some, if_true]
    rfl

theorem pointerOf_handleCursorButton (pressed : Bool) (hit : Option Hit) :
    pointerOf (handleCursorButton s pressed hit) =
      (pointerOf s).handle (.cursorButton pressed hit) := by
  cases pressed with
  | false =>
      simp only [handleCursorButton, Bool.not_false, Bool.true_and, Bool.false_eq_true, if_false,
        Pointer.handle, pointerOf_pointerNotifyButton]
      refine congrArg (Pointer.button · false) ?_
      rcases hg : s.windows.grabbedToplevel with _ | g
      · simp [pointerOf, hg]
      · simp [pointerOf]
  | true =>
      simp only [handleCursorButton, Bool.not_true, Bool.false_and, Bool.false_eq_true, if_false,
        if_true, Pointer.handle, pointerOf_pointerNotifyButton]
      refine congrArg (Pointer.button · true) ?_
      split
      · exact pointerOf_zenXdgFocusToplevel s _
      · rfl

theorem pointerOf_handleToplevelRequestMove {t : ToplevelId} (h : s.windows.Live t) :
    pointerOf (handleToplevelRequestMove s t) = (pointerOf s).handle (.requestMove t) := by
  obtain ⟨r, hr⟩ := Option.isSome_iff_exists.mp h
  rw [handleToplevelRequestMove, hr]
  rfl

theorem pointerOf_handleToplevelRequestMaximize (t : ToplevelId) :
    pointerOf (handleToplevelRequestMaximize s t) = pointerOf s := by
  rw [handleToplevelRequestMaximize]
  split
  · rfl
  · dsimp only
    split
    · split
      · rfl
      · exact pointerOf_of_append ⟨rfl, rfl, rfl⟩ rfl (List.append_assoc ..)
          (by simp [Call.isPointer])
    · exact pointerOf_of_append ⟨rfl, rfl, rfl⟩ rfl (List.append_assoc ..)
        (by simp [Call.isPointer])

theorem pointerOf_handleToplevelRequestFullscreen (t : ToplevelId)
    (requested : Option OutputId) :
    pointerOf (handleToplevelRequestFullscreen s t requested) = pointerOf s := by
  rw [handleToplevelRequestFullscreen]
  split
  · rfl
  · dsimp only
    split
    · split
      · rfl
      · exact pointerOf_of_append ⟨rfl, rfl, rfl⟩ rfl (List.append_assoc ..)
          (by simp [Call.isPointer])
    · exact pointerOf_of_append ⟨rfl, rfl, rfl⟩ rfl (List.append_assoc ..)
        (by simp [Call.isPointer])

end Handlers

theorem Call.isPointer_of_isConfigure {c : Call} (h : c.isConfigure) : c.isPointer = false := by
  cases c <;> first | rfl | exact absurd h id

theorem Call.isPointer_of_followsKey {locked : Bool} {c : Call} (h : c.followsKey locked) :
    c.isPointer = false := by
  cases c <;> first | rfl | exact absurd h id

theorem step_calls_isPointer (s : ZenCompositor) {e : Event} (ho : e.owner ≠ .desktop) :
    (step s e).calls.filter Call.isPointer = [] := by
  have hnone {P : Call → Prop} (hemits : Emits P { s with calls := [] } (step s e))
      (hP : ∀ c, P c → c.isPointer = false) :
      (step s e).calls.filter Call.isPointer = [] := by
    refine List.filter_eq_nil_iff.mpr fun c hc => ?_
    rcases hemits c hc with h | h
    · cases h
    · simp [hP c h]
  have hsame (hcalls : (step s e).calls = []) :
      (step s e).calls.filter Call.isPointer = [] := by
    rw [hcalls, List.filter_nil]
  cases e with
  | newLayerSurface l output ok =>
      exact hnone (handleNewLayerSurface_emits _ l output ok)
        fun _ => Call.isPointer_of_isConfigure
  | layerCommit | layerMap | layerUnmap | layerDestroy => exact hsame rfl
  | newOutput o place allocs => exact hsame (handleNewOutput_writes _ o place allocs).calls
  | wallpaperInit stateOk treeOk => exact hsame (zenWallpaperInit_writes _ stateOk treeOk).calls
  | wallpaperDestroy => exact hsame (zenWallpaperDestroy_writes _).calls
  | outputRequestState | outputDestroy => exact hsame rfl
  | key k keycode syms pressed modifiers bufferOk pam =>
      exact hnone (handleKeyboardKey_emits _ keycode syms pressed modifiers bufferOk pam)
        fun _ => Call.isPointer_of_followsKey
  | idleTimeout bufferOk | lockSignal bufferOk =>
      exact hsame (zenLockActivate_calls _ bufferOk)
  | newLock lock => rfl
  | _ => exact absurd rfl ho

theorem pointerOf_step (s : ZenCompositor) (e : Event) (hadm : Admissible s e) :
    pointerOf (step s e) = (pointerOf s).step e := by
  let cleared : ZenCompositor := { s with calls := [] }
  change pointerOf (handle cleared e) = (pointerOf cleared).handle e
  by_cases ho : e.owner = .desktop
  · cases e with
    | newToplevel t surface ok => cases ok <;> rfl
    | map t => exact pointerOf_zenXdgFocusToplevel _ _
    | unmap t => exact pointerOf_handleToplevelUnmap _ t
    | destroy t => exact pointerOf_handleToplevelDestroy cleared t
    | requestMove t => exact pointerOf_handleToplevelRequestMove cleared hadm
    | requestMaximize t => exact pointerOf_handleToplevelRequestMaximize cleared t
    | requestFullscreen t requested =>
        exact pointerOf_handleToplevelRequestFullscreen cleared t requested
    | focus target => exact pointerOf_zenXdgFocusToplevel cleared target
    | newKeyboard k ok =>
        cases ok with
        | false => rfl
        | true => exact pointerOf_setKeyboard (wlrKeyboardInit cleared k) k
    | keyboardDestroy k =>
        simp only [handle, handleKeyboardDestroy, pointerOf]
        split <;> rfl
    | modifiers k state =>
        refine .trans ?_ (pointerOf_setKeyboard (wlrKeyboardUpdateModifiers cleared k state) k)
        exact pointerOf_of_append ⟨rfl, rfl, rfl⟩ rfl rfl (mem_focus_call fun _ => rfl)
    | cursorMotion x y hit => exact pointerOf_handleCursorMotion cleared x y hit
    | cursorButton pressed hit => exact pointerOf_handleCursorButton cleared pressed hit
    | commit | requestResize | surfaceDestroy => rfl
    | _ => cases ho
  · have hframed := (handle_writes cleared e).framed
    have hsmall : (pointerOf cleared).handle e = pointerOf cleared := by
      cases e <;> first | rfl | exact absurd rfl ho
    have hcalls : (handle cleared e).calls.filter Call.isPointer = [] := step_calls_isPointer s ho
    rw [hsmall, pointerOf, hcalls, hframed.windows ho, hframed.seat ho]
    rfl

/-- The event neither moves the cursor outside a drag nor takes the surface away. -/
def Event.Spares (surface : SurfaceId) (dragged : Option ToplevelId) : Event → Prop
  | .cursorMotion .. => dragged ≠ none
  | .surfaceDestroy gone => gone ≠ surface
  | _ => True

instance (surface : SurfaceId) (dragged : Option ToplevelId) :
    ∀ e : Event, Decidable (e.Spares surface dragged)
  | .cursorMotion .. | .surfaceDestroy _ => inferInstanceAs (Decidable (_ ≠ _))
  | .newToplevel .. | .commit .. | .map _ | .unmap _ | .destroy _ | .requestMove _
  | .requestResize _ | .requestMaximize _ | .requestFullscreen .. | .focus _
  | .newLayerSurface .. | .layerCommit _ | .layerMap _ | .layerUnmap _ | .layerDestroy _
  | .newKeyboard .. | .keyboardDestroy _ | .key .. | .modifiers .. | .cursorButton ..
  | .newOutput .. | .outputRequestState .. | .outputDestroy .. | .wallpaperInit ..
  | .wallpaperDestroy | .idleTimeout _ | .lockSignal _ | .newLock _ =>
      inferInstanceAs (Decidable True)

namespace Pointer

theorem focus_of_spares {p : Pointer} {surface : SurfaceId} (hp : p.focus = some surface)
    {e : Event} (he : e.Spares surface p.dragged) : (p.step e).focus = some surface := by
  cases e with
  | surfaceDestroy gone =>
      have hne : ¬ surface = gone := fun heq => he heq.symm
      simp [step, handle, hne, hp]
  | cursorMotion x y hit =>
      obtain ⟨t, hdragged⟩ := Option.ne_none_iff_exists'.mp he
      simp [step, handle, hdragged, hp]
  | _ => exact hp

theorem focus_of_motion {p : Pointer} (hp : p.dragged = none) (x y : ℚ)
    (nodes : List SceneNode) (surface : SurfaceId) (sx sy : ℚ) :
    (p.step (.cursorMotion x y (some ⟨nodes, some surface, sx, sy⟩))).focus = some surface := by
  have henter : ∀ q : Pointer, (q.enter surface sx sy).focus = some surface := by
    intro q
    rw [enter]
    split <;> [assumption; rfl]
  simp only [step, handle, hp, Option.isSome_none, Bool.false_eq_true, if_false]
  rw [move, henter]
  dsimp only
  split <;> [exact henter _; rfl]

theorem calls_of_button {p : Pointer} {surface : SurfaceId} (hp : p.focus = some surface)
    (pressed : Bool) (hit : Option Hit) :
    (p.step (.cursorButton pressed hit)).calls = [.pointerButton surface pressed] := by
  simp [step, handle, button, hp]

end Pointer

section Runs

variable (outputs : List Output) (bindings : List ZenKeybinding) (idleTimer : Bool)

/-- The pointer before anything has happened. -/
def Pointer.start : Pointer where
  focus := none
  x := 0
  y := 0
  dragged := none
  calls := []

/-- In every run clients are told about the pointer what the pointer on its own tells them:
nothing but motions, buttons, the beginning and the end of a drag, and surfaces that go away
has a part in it. -/
theorem run_pointer (events : List Event)
    (h : Along step Admissible (created outputs bindings idleTimer) events) :
    (events.scanl step (created outputs bindings idleTimer)).map pointerOf =
      events.scanl Pointer.step Pointer.start :=
  h.map_scanl pointerOf_step

/-- A window is dragged by its surface, and goes away once it is let go. -/
def dragAway : List Event :=
  let hit : Option Hit := some ⟨[.surfaceBuffer 11, .toplevel 1, .root], some 11, 5, 5⟩
  showWindow 1 11 ++
    [.cursorMotion 5 5 hit, .cursorButton true hit, .requestMove 1, .cursorMotion 9 7 hit,
      .cursorButton false hit, .cursorMotion 10 7 hit, .surfaceDestroy 11, .destroy 1]

theorem run_pointer_drag :
    (dragAway.scanl step (created [] [] true)).map pointerOf =
      dragAway.scanl Pointer.step Pointer.start :=
  run_pointer [] [] true dragAway (by decide)

/-- A button event goes to the surface that the last motion outside a drag has found, as long as
that is there.  What has come to lie under the cursor since, a window or the lock screen, gets
no part of it. -/
theorem button_follows_motion (before between : List Event) (x y : ℚ)
    (nodes : List SceneNode) (surface : SurfaceId) (sx sy : ℚ) (pressed : Bool)
    (hit : Option Hit)
    (h : Along step Admissible (created outputs bindings idleTimer)
      (before ++ [.cursorMotion x y (some ⟨nodes, some surface, sx, sy⟩)] ++ between ++
        [.cursorButton pressed hit]))
    (hdragged : (exec step (created outputs bindings idleTimer)
      before).windows.grabbedToplevel = none)
    (hbetween : Along step (fun s e => e.Spares surface s.windows.grabbedToplevel)
      (exec step (created outputs bindings idleTimer)
        (before ++ [.cursorMotion x y (some ⟨nodes, some surface, sx, sy⟩)])) between) :
    (exec step (created outputs bindings idleTimer)
      (before ++ [.cursorMotion x y (some ⟨nodes, some surface, sx, sy⟩)] ++ between ++
        [.cursorButton pressed hit])).calls.filter Call.isPointer =
      [.pointerButton surface pressed] := by
  let motion : Event := .cursorMotion x y (some ⟨nodes, some surface, sx, sy⟩)
  let moved := exec step (created outputs bindings idleTimer) (before ++ [motion])
  obtain ⟨hmoved, hbutton⟩ := (along_append _ _ _ _).mp h
  obtain ⟨hmotion, hrest⟩ := (along_append _ _ _ _).mp hmoved
  rw [exec_append] at hbutton
  have hfound : (pointerOf moved).focus = some surface := by
    have hstep := ((along_append _ _ _ _).mp hmotion).2.1
    rw [show moved = step (exec step (created outputs bindings idleTimer) before) motion from
      exec_append .., pointerOf_step _ _ hstep]
    exact Pointer.focus_of_motion hdragged x y nodes surface sx sy
  have hkept : (pointerOf (exec step moved between)).focus = some surface := by
    refine Along.invariant (I := fun s => (pointerOf s).focus = some surface)
      (fun s e hs he => ?_) (hrest.and hbetween) hfound
    rw [pointerOf_step s e he.1]
    exact Pointer.focus_of_spares hs he.2
  rw [exec_append, exec_append, exec_cons, exec_nil]
  exact (congrArg Pointer.calls (pointerOf_step _ _ hbutton.1)).trans
    (Pointer.calls_of_button hkept pressed hit)

/-- The first window is dragged to where the cursor is outside of it, a second one comes up, and
the screen is locked. -/
def dragBehind : List Event :=
  .requestMove 1 :: .cursorMotion 90 70 none :: (showWindow 2 12 ++ [.lockSignal true])

/-- The release goes to the window on which the drag has begun. -/
theorem button_follows_motion_locked :
    (exec step (created [] [] true) (List.append (showWindow 1 11)
      [.cursorMotion 5 5 (some ⟨[.surfaceBuffer 11, .toplevel 1, .root], some 11, 5, 5⟩)] ++
        dragBehind ++
        [.cursorButton false (some ⟨[.lockBuffer, .root], none, 90, 70⟩)])).calls.filter
        Call.isPointer = [.pointerButton 11 false] :=
  button_follows_motion [] [] true (showWindow 1 11) dragBehind 5 5
    [.surfaceBuffer 11, .toplevel 1, .root] 11 5 5 false
    (some ⟨[.lockBuffer, .root], none, 90, 70⟩) (by decide) rfl
    ⟨trivial, by decide, trivial, trivial, trivial, trivial, trivial⟩

end Runs

end ZenOS.Compositor
