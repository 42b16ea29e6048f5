import ZenOS.Compositor.Calls
import ZenOS.Compositor.LockFrame
import ZenOS.Library.Runs

/-!
What the compositor reveals of the password that is typed into its lock screen.  Two runs
in which other characters are typed look alike to the clients, to the processes and on the
display, as long as PAM gives the same answers.
-/

namespace ZenOS.Compositor

open ZenOS.Library.Runs ZenOS.Library.CString

/-- What PAM is told stays between the compositor and PAM.  A client learns which keys are held
when it gets the focus, and which key is released. -/
def Call.masked : Call → Call
  | .pamAuthenticate _ success => .pamAuthenticate [] success
  | .keyboardEnter surface _ => .keyboardEnter surface []
  | .keyboardKey surface keycode pressed =>
      .keyboardKey surface (if pressed then keycode else 0) pressed
  | c => c

def LockState.masked (l : LockState) : LockState :=
  { l with password := Vector.replicate (zenLockPassMax + 1) 0 }

/-- All of the state but the characters of the password and the keys that are held. -/
def ZenCompositor.masked (s : ZenCompositor) : ZenCompositor :=
  { s with lock := s.lock.masked, keycodes := fun _ => [], calls := s.calls.map Call.masked }

/-- The masked state and the pixels of the lock buffer. -/
def LockDisplay.masked (d : LockDisplay) : LockDisplay :=
  { d with compositor := d.compositor.masked }

/-- Which printable character it is does not show. -/
def maskKeysym (keysym : UInt32) : UInt32 :=
  if 0x20 ≤ keysym ∧ keysym ≤ 0x7e then 0x20 else keysym

/-- All of an event but the key that is pressed, when it types a character, and the
modifiers held. -/
def Event.masked : Event → Event
  | .key _ _ syms pressed _ _ _ =>
      .key 0 0 (syms.map maskKeysym) pressed 0 false fun _ _ => false
  | e => e

def Event.isRelease : Event → Bool
  | .key _ _ _ pressed _ _ _ => !pressed
  | _ => false

/-- PAM's answers among the calls. -/
def verdicts (calls : List Call) : List Bool :=
  calls.filterMap fun
    | .pamAuthenticate _ success => some success
    | _ => none

/-- The beginning of a step: no calls yet, and a key event is in the record of its keyboard. -/
def ZenCompositor.arrive (s : ZenCompositor) : Event → ZenCompositor
  | .key k keycode _ pressed _ _ _ => wlrKeyboardUpdate { s with calls := [] } k keycode pressed
  | _ => { s with calls := [] }

/-- The compositor with its lock buffer, at a time of day. -/
def stepDisplay (t : Toolkit) (d : LockDisplay) (e : ClockTime × Event) : LockDisplay :=
  let arrived := { d with compositor := d.compositor.arrive e.2 }
  if d.lock.locked then
    match e.2 with
    | .key _ _ syms pressed _ _ pam =>
        syms.foldl (fun d keysym => handleKeyDisplay t e.1 d keysym pressed pam) arrived
    | _ => { d with compositor := step d.compositor e.2 }
  else
    match lockRequest d.compositor e.2 with
    | some bufferOk => activateDisplay t e.1 arrived bufferOk
    | none => { d with compositor := step d.compositor e.2 }

/-- The same happens at the same time of day and gets the same answers from PAM; while the
screen is locked, other characters may be typed, and their keys may be released at any time. -/
structure Alike (t : Toolkit) (d : LockDisplay) (e : ClockTime × Event) (d' : LockDisplay)
    (e' : ClockTime × Event) : Prop where
  clock : e.1 = e'.1
  event : e.2 = e'.2 ∨
    (d.lock.locked = true ∨ e.2.isRelease = true) ∧ e.2.masked = e'.2.masked
  verdicts : verdicts (stepDisplay t d e).compositor.calls =
    verdicts (stepDisplay t d' e').compositor.calls

theorem activateDisplay_compositor (t : Toolkit) (now : ClockTime) (d : LockDisplay)
    (bufferOk : Bool) :
    (activateDisplay t now d bufferOk).compositor = zenLockActivate d.compositor bufferOk := by
  rw [activateDisplay]
  split
  · rfl
  · exact renderLockUi_compositor

theorem foldl_handleKeyDisplay_compositor (t : Toolkit) (now : ClockTime) (d : LockDisplay)
    (pressed : Bool) (pam : Nat → List UInt8 → Bool) (syms : List UInt32) :
    (syms.foldl (fun d keysym => handleKeyDisplay t now d keysym pressed pam) d).compositor =
      handleLockedSyms d.compositor pressed pam syms := by
  induction syms generalizing d with
  | nil => rfl
  | cons keysym syms ih =>
      rw [List.foldl_cons, ih, handleKeyDisplay_compositor]
      rfl

theorem stepDisplay_compositor (t : Toolkit) (d : LockDisplay) (e : ClockTime × Event) :
    (stepDisplay t d e).compositor = step d.compositor e.2 := by
  obtain ⟨now, e⟩ := e
  rw [stepDisplay]
  dsimp only
  split
  · next hl =>
      split
      · next k keycode syms pressed modifiers bufferOk pam =>
          rw [foldl_handleKeyDisplay_compositor]
          exact (handle_key_of_locked (s := { d.compositor with calls := [] }) hl).symm
      · rfl
  · next hl =>
      have hl' : d.compositor.lock.locked = false := by simpa using hl
      split
      · next bufferOk hreq =>
          rw [activateDisplay_compositor]
          cases e with
          | idleTimeout ok | lockSignal ok =>
              cases hreq
              rfl
          | key k keycode syms pressed modifiers ok pam =>
              let arrived := d.compositor.arrive (.key k keycode syms pressed modifiers ok pam)
              have hkey := handleKeyboardKey_of_unlocked (s := arrived) hl' k keycode syms pressed
                modifiers ok pam
              have hreq' : lockRequest arrived (.key k keycode syms pressed modifiers ok pam) =
                  some bufferOk := hreq
              rw [hreq'] at hkey
              exact hkey.symm
          | _ => cases hreq
      · rfl

/-- Another lock state, and what is masked but for it. -/
def ZenCompositor.disguise (s : ZenCompositor) (lock : LockState) : ZenCompositor :=
  { s with lock, keycodes := fun _ => [], calls := s.calls.map Call.masked }

section Disguise

variable (s : ZenCompositor) (l : LockState)

theorem ite_disguise (p : Prop) [Decidable p] (a b : ZenCompositor) :
    (if p then a.disguise l else b.disguise l) = (if p then a else b).disguise l :=
  (apply_ite (ZenCompositor.disguise · l) p a b).symm

theorem wlrXdgToplevelSetActivated_disguise (t : ToplevelId) (activated : Bool) :
    wlrXdgToplevelSetActivated (s.disguise l) t activated =
      (wlrXdgToplevelSetActivated s t activated).disguise l := by
  simp [wlrXdgToplevelSetActivated, ZenCompositor.disguise, Call.masked]

theorem wlrXdgToplevelSetSize_disguise (t : ToplevelId) (width height : Int) :
    wlrXdgToplevelSetSize (s.disguise l) t width height =
      (wlrXdgToplevelSetSize s t width height).disguise l := by
  simp [wlrXdgToplevelSetSize, ZenCompositor.disguise, Call.masked]

theorem wlrXdgToplevelSetMaximized_disguise (t : ToplevelId) (maximized : Bool) :
    wlrXdgToplevelSetMaximized (s.disguise l) t maximized =
      (wlrXdgToplevelSetMaximized s t maximized).disguise l := by
  simp [wlrXdgToplevelSetMaximized, ZenCompositor.disguise, Call.masked]

theorem wlrXdgToplevelSetFullscreen_disguise (t : ToplevelId) (fullscreen : Bool) :
    wlrXdgToplevelSetFullscreen (s.disguise l) t fullscreen =
      (wlrXdgToplevelSetFullscreen s t fullscreen).disguise l := by
  simp [wlrXdgToplevelSetFullscreen, ZenCompositor.disguise, Call.masked]

theorem wlrSeatKeyboardNotifyClearFocus_disguise :
    wlrSeatKeyboardNotifyClearFocus (s.disguise l) =
      (wlrSeatKeyboardNotifyClearFocus s).disguise l := by
  cases h : s.seat.keyboardFocus <;>
    simp [wlrSeatKeyboardNotifyClearFocus_eq, ZenCompositor.disguise, Call.masked, h]

theorem wlrKeyboardInit_disguise (k : KeyboardId) :
    wlrKeyboardInit (s.disguise l) k = (wlrKeyboardInit s k).disguise l := by
  simp [wlrKeyboardInit, ZenCompositor.disguise]

theorem wlrSeatKeyboardNotifyModifiers_disguise (modifiers : KeyboardModifiers) :
    wlrSeatKeyboardNotifyModifiers (s.disguise l) modifiers =
      (wlrSeatKeyboardNotifyModifiers s modifiers).disguise l := by
  cases h : s.seat.keyboardFocus <;>
    simp [wlrSeatKeyboardNotifyModifiers_eq, ZenCompositor.disguise, Call.masked, h]

theorem wlrSeatPointerNotifyButton_disguise (pressed : Bool) :
    wlrSeatPointerNotifyButton (s.disguise l) pressed =
      (wlrSeatPointerNotifyButton s pressed).disguise l := by
  cases h : s.seat.pointerFocus <;>
    simp [wlrSeatPointerNotifyButton_eq, ZenCompositor.disguise, Call.masked, h]

theorem wlrSeatPointerNotifyClearFocus_disguise :
    wlrSeatPointerNotifyClearFocus (s.disguise l) =
      (wlrSeatPointerNotifyClearFocus s).disguise l := by
  cases h : s.seat.pointerFocus <;>
    simp [wlrSeatPointerNotifyClearFocus_eq, ZenCompositor.disguise, Call.masked, h]

theorem wlrSeatKeyboardNotifyKey_disguise (keycode : UInt32) :
    wlrSeatKeyboardNotifyKey (s.disguise l) keycode true =
      (wlrSeatKeyboardNotifyKey s keycode true).disguise l := by
  cases h : s.seat.keyboardFocus <;>
    simp [wlrSeatKeyboardNotifyKey_eq, ZenCompositor.disguise, Call.masked, h]

theorem wlrSeatKeyboardNotifyEnter_disguise (surface : SurfaceId) (keycodes : List UInt32)
    (modifiers : KeyboardModifiers) :
    wlrSeatKeyboardNotifyEnter (s.disguise l) surface [] modifiers =
      (wlrSeatKeyboardNotifyEnter s surface keycodes modifiers).disguise l := by
  rw [wlrSeatKeyboardNotifyEnter_eq, wlrSeatKeyboardNotifyEnter_eq]
  refine .trans ?_ (ite_disguise l _ _ _)
  refine if_congr Iff.rfl rfl ?_
  cases h : s.seat.keyboardFocus <;> simp [ZenCompositor.disguise, Call.masked, h]

theorem deactivateFocused_disguise :
    deactivateFocused (s.disguise l) = (deactivateFocused s).disguise l := by
  have hfocused : (s.disguise l).windows.focusedToplevel = s.windows.focusedToplevel := rfl
  rw [deactivateFocused, deactivateFocused, hfocused]
  split
  · exact wlrXdgToplevelSetActivated_disguise s l _ false
  · rfl

theorem enterToplevel_disguise (t : ToplevelId) :
    enterToplevel (s.disguise l) t = (enterToplevel s t).disguise l := by
  rw [enterToplevel, enterToplevel]
  simp only [ZenCompositor.disguise]
  rcases s.seat.keyboard with _ | k
  · rfl
  · rcases s.windows.heap t with _ | r
    · rfl
    · exact wlrSeatKeyboardNotifyEnter_disguise s l r.surface (s.keycodes k) (s.modifiers k)

theorem activateToplevel_disguise (t : ToplevelId) :
    activateToplevel (s.disguise l) t = (activateToplevel s t).disguise l := by
  let moved : ZenCompositor := { s with windows := { s.windows with
    toplevels := t :: s.windows.toplevels.erase t } }
  have hactivate := wlrXdgToplevelSetActivated_disguise moved l t true
  have henter := enterToplevel_disguise (wlrXdgToplevelSetActivated moved t true) l t
  exact congrArg (fun s' : ZenCompositor =>
    { s' with scene := s'.scene.raiseToTop .root (.toplevel t) })
    ((congrArg (enterToplevel · t) hactivate).trans henter)

theorem zenXdgFocusToplevel_disguise (target : Option ToplevelId) :
    zenXdgFocusToplevel (s.disguise l) target = (zenXdgFocusToplevel s target).disguise l := by
  rw [zenXdgFocusToplevel, zenXdgFocusToplevel, deactivateFocused_disguise, ← ite_disguise]
  refine if_congr Iff.rfl rfl ?_
  let marked : ZenCompositor := { deactivateFocused s with
    windows := { (deactivateFocused s).windows with focusedToplevel := target } }
  cases target with
  | none => exact wlrSeatKeyboardNotifyClearFocus_disguise marked l
  | some t => exact activateToplevel_disguise marked l t

theorem handleToplevelUnmap_disguise (t : ToplevelId) :
    handleToplevelUnmap (s.disguise l) t = (handleToplevelUnmap s t).disguise l := by
  rw [handleToplevelUnmap, handleToplevelUnmap]
  refine .trans ?_ (ite_disguise l _ _ _)
  exact if_congr Iff.rfl (zenXdgFocusToplevel_disguise (wlrSceneNodeSetEnabled s t false) l _) rfl

/-- The part of `handle_toplevel_destroy` after the focus transfer. -/
theorem destroyed_disguise (t : ToplevelId) :
    let destroyed : ZenCompositor → ZenCompositor := fun s =>
      let s := if s.windows.grabbedToplevel = some t then
          { s with windows := { s.windows with
            grabbedToplevel := none, grabX := 0, grabY := 0,
            grabNodeX := 0, grabNodeY := 0 } }
        else s
      { s with
        windows := { s.windows with
          toplevels := s.windows.toplevels.erase t
          heap := Function.update s.windows.heap t none }
        scene := s.scene.destroy .root (.toplevel t) }
    destroyed (s.disguise l) = (destroyed s).disguise l := by
  dsimp only
  by_cases h : s.windows.grabbedToplevel = some t
  · simp [ZenCompositor.disguise, h]
  · simp [ZenCompositor.disguise, h]

theorem handleToplevelDestroy_disguise (t : ToplevelId) :
    handleToplevelDestroy (s.disguise l) t = (handleToplevelDestroy s t).disguise l := by
  have transfer : (if (s.disguise l).windows.focusedToplevel = some t then
        zenXdgFocusToplevel (s.disguise l)
          ((s.disguise l).windows.toplevels.find? fun iter => iter ≠ t)
      else s.disguise l) =
      (if s.windows.focusedToplevel = some t then
        zenXdgFocusToplevel s (s.windows.toplevels.find? fun iter => iter ≠ t)
      else s).disguise l := by
    refine .trans ?_ (ite_disguise l _ _ _)
    exact if_congr Iff.rfl (zenXdgFocusToplevel_disguise s l _) rfl
  rw [handleToplevelDestroy, handleToplevelDestroy]
  dsimp only
  rw [transfer]
  exact destroyed_disguise _ l t

theorem handleToplevelRequestMove_disguise (t : ToplevelId) :
    handleToplevelRequestMove (s.disguise l) t =
      (handleToplevelRequestMove s t).disguise l := by
  simp only [handleToplevelRequestMove, ZenCompositor.disguise]
  rcases s.windows.heap t with _ | r <;> rfl

theorem outputOfToplevel_disguise (r : ZenToplevel) :
    outputOfToplevel (s.disguise l) r = outputOfToplevel s r :=
  rfl

theorem disguise_heap (t : ToplevelId) : (s.disguise l).windows.heap t = s.windows.heap t :=
  rfl

theorem handleToplevelRequestMaximize_disguise (t : ToplevelId) :
    handleToplevelRequestMaximize (s.disguise l) t =
      (handleToplevelRequestMaximize s t).disguise l := by
  rw [handleToplevelRequestMaximize, handleToplevelRequestMaximize]
  rw [disguise_heap]
  rcases s.windows.heap t with _ | r
  · rfl
  · dsimp only
    refine .trans ?_ (ite_disguise l _ _ _)
    refine if_congr Iff.rfl ?_ ?_
    · rw [outputOfToplevel_disguise]
      rcases outputOfToplevel s r with _ | o
      · rfl
      · simp [wlrXdgToplevelSetSize, wlrXdgToplevelSetMaximized, wlrSceneNodeSetPosition,
          ZenCompositor.disguise, Call.masked]
    · rw [wlrXdgToplevelSetSize_disguise, wlrXdgToplevelSetMaximized_disguise]

theorem handleToplevelRequestFullscreen_disguise (t : ToplevelId)
    (requested : Option OutputId) :
    handleToplevelRequestFullscreen (s.disguise l) t requested =
      (handleToplevelRequestFullscreen s t requested).disguise l := by
  rw [handleToplevelRequestFullscreen, handleToplevelRequestFullscreen]
  rw [disguise_heap]
  rcases s.windows.heap t with _ | r
  · rfl
  · dsimp only
    refine .trans ?_ (ite_disguise l _ _ _)
    refine if_congr Iff.rfl ?_ ?_
    · rw [outputOfToplevel_disguise]
      rcases requested with _ | o
      · rcases outputOfToplevel s r with _ | o
        · rfl
        · simp [wlrXdgToplevelSetSize, wlrXdgToplevelSetFullscreen, wlrSceneNodeSetPosition,
            ZenCompositor.disguise, Call.masked]
      · simp [wlrXdgToplevelSetSize, wlrXdgToplevelSetFullscreen, wlrSceneNodeSetPosition,
          ZenCompositor.disguise, Call.masked]
    · rw [wlrXdgToplevelSetSize_disguise, wlrXdgToplevelSetFullscreen_disguise]

theorem wlrSeatSetKeyboard_disguise (k : KeyboardId) :
    wlrSeatSetKeyboard (s.disguise l) k = (wlrSeatSetKeyboard s k).disguise l := by
  rw [wlrSeatSetKeyboard, wlrSeatSetKeyboard]
  refine .trans ?_ (ite_disguise l _ _ _)
  refine if_congr Iff.rfl rfl ?_
  cases h : s.seat.keyboardFocus <;> simp [ZenCompositor.disguise, Call.masked, h]

theorem wlrSeatPointerNotifyEnter_disguise (surface : SurfaceId) (sx sy : ℚ) :
    wlrSeatPointerNotifyEnter (s.disguise l) surface sx sy =
      (wlrSeatPointerNotifyEnter s surface sx sy).disguise l := by
  rw [wlrSeatPointerNotifyEnter_eq, wlrSeatPointerNotifyEnter_eq]
  refine .trans ?_ (ite_disguise l _ _ _)
  refine if_congr Iff.rfl rfl ?_
  cases h : s.seat.pointerFocus <;> simp [ZenCompositor.disguise, Call.masked, h]

theorem wlrSeatPointerNotifyMotion_disguise (sx sy : ℚ) :
    wlrSeatPointerNotifyMotion (s.disguise l) sx sy =
      (wlrSeatPointerNotifyMotion s sx sy).disguise l := by
  rw [wlrSeatPointerNotifyMotion_eq, wlrSeatPointerNotifyMotion_eq]
  have hfocus : (s.disguise l).seat.pointerFocus = s.seat.pointerFocus := rfl
  rw [hfocus]
  rcases s.seat.pointerFocus with _ | surface
  · rfl
  · refine .trans ?_ (ite_disguise l _ _ _)
    refine if_congr Iff.rfl rfl ?_
    simp [ZenCompositor.disguise, Call.masked]

theorem handleCursorMotion_disguise (x y : ℚ) (hit : Option Hit) :
    handleCursorMotion (s.disguise l) x y hit = (handleCursorMotion s x y hit).disguise l := by
  let moved : ZenCompositor := { s with cursorX := x, cursorY := y }
  change zenInputProcessCursorMotion (moved.disguise l) hit =
    (zenInputProcessCursorMotion moved hit).disguise l
  unfold zenInputProcessCursorMotion
  rcases hg : moved.windows.grabbedToplevel with _ | g
  · rw [show (moved.disguise l).windows.grabbedToplevel = none from hg]
    rcases hit with _ | ⟨nodes, _ | surface, sx, sy⟩
    · exact wlrSeatPointerNotifyClearFocus_disguise moved l
    · exact wlrSeatPointerNotifyClearFocus_disguise moved l
    · dsimp only
      rw [wlrSeatPointerNotifyEnter_disguise, wlrSeatPointerNotifyMotion_disguise]
  · rw [show (moved.disguise l).windows.grabbedToplevel = some g from hg]
    rfl

theorem handleCursorButton_disguise (pressed : Bool) (hit : Option Hit) :
    handleCursorButton (s.disguise l) pressed hit =
      (handleCursorButton s pressed hit).disguise l := by
  cases pressed with
  | false =>
      have released : (if s.windows.grabbedToplevel.isSome then _ else s.disguise l) = _ :=
        ite_disguise l (s.windows.grabbedToplevel.isSome = true)
          { s with windows := { s.windows with
            grabbedToplevel := none, grabX := 0, grabY := 0,
            grabNodeX := 0, grabNodeY := 0 } } s
      simp only [handleCursorButton, Bool.not_false, Bool.true_and, Bool.false_eq_true, if_false]
      exact (congrArg (wlrSeatPointerNotifyButton · false) released).trans
        (wlrSeatPointerNotifyButton_disguise _ l false)
  | true =>
      simp only [handleCursorButton, Bool.not_true, Bool.false_and, Bool.false_eq_true, if_false,
        if_true]
      rcases toplevelAtHit hit with _ | t
      · exact wlrSeatPointerNotifyButton_disguise s l true
      · dsimp only
        rw [zenXdgFocusToplevel_disguise, wlrSeatPointerNotifyButton_disguise]

theorem handleNewLayerSurface_disguise (id : LayerId) (output : Option OutputId) (ok : Bool) :
    handleNewLayerSurface (s.disguise l) id output ok =
      (handleNewLayerSurface s id output ok).disguise l := by
  rw [handleNewLayerSurface, handleNewLayerSurface]
  refine .trans ?_ (ite_disguise l _ _ _)
  refine if_congr Iff.rfl ?_ rfl
  rcases output with _ | o
  · rfl
  · refine .trans ?_ (ite_disguise l _ _ _)
    refine if_congr Iff.rfl ?_ rfl
    simp [wlrLayerSurfaceConfigure, ZenCompositor.disguise, Call.masked, overlayParent]
    rfl

theorem zenWallpaperRenderOutput_disguise (o : Output) (ok : Bool) :
    zenWallpaperRenderOutput (s.disguise l) o ok =
      (zenWallpaperRenderOutput s o ok).disguise l := by
  rcases hs : s.wallpaperState with _ | outputs
  · simp [zenWallpaperRenderOutput, ZenCompositor.disguise, hs]
  · rcases ht : s.wallpaperTree with _ | tree
    · simp [zenWallpaperRenderOutput, ZenCompositor.disguise, hs, ht]
    · rcases hdraw : (0 < o.width && 0 < o.height && ok : Bool) with _ | _ <;>
        simp [zenWallpaperRenderOutput, ZenCompositor.disguise, hs, ht, hdraw]

theorem createTestOverlay_disguise (o : Output) (ok : Bool) :
    createTestOverlay (s.disguise l) o ok = (createTestOverlay s o ok).disguise l := by
  rw [createTestOverlay, createTestOverlay]
  refine .trans ?_ (ite_disguise l _ _ _)
  rfl

theorem handleNewOutput_disguise (o : Output) (place : OutputId → Int × Int)
    (allocs : OutputAllocs) :
    handleNewOutput (s.disguise l) o place allocs =
      (handleNewOutput s o place allocs).disguise l := by
  rw [handleNewOutput_eq, handleNewOutput_eq]
  refine .trans ?_ (ite_disguise l _ _ _)
  refine if_congr Iff.rfl ?_ rfl
  let added : ZenCompositor := { s with outputLayout := arrange place (s.outputLayout ++ [o]) }
  have hrender := zenWallpaperRenderOutput_disguise added l o allocs.wallpaper
  exact (congrArg (createTestOverlay · o allocs.overlay) hrender).trans
    (createTestOverlay_disguise _ l o allocs.overlay)

theorem zenWallpaperInit_disguise (stateOk treeOk : Bool) :
    zenWallpaperInit (s.disguise l) stateOk treeOk =
      (zenWallpaperInit s stateOk treeOk).disguise l := by
  cases stateOk <;> cases treeOk <;> rfl

theorem zenWallpaperDestroy_disguise :
    zenWallpaperDestroy (s.disguise l) = (zenWallpaperDestroy s).disguise l := by
  rcases hs : s.wallpaperState with _ | outputs <;>
    simp [zenWallpaperDestroy, ZenCompositor.disguise, hs]

theorem handle_disguise {e : Event} (ho : e.owner ≠ .lock) :
    handle (s.disguise l) e = (handle s e).disguise l := by
  cases e with
  | newToplevel t surface ok => cases ok <;> rfl
  | map t =>
      let marked : ZenCompositor :=
        { s with windows := s.windows.modify t fun r => { r with mapped := true } }
      exact zenXdgFocusToplevel_disguise (wlrSceneNodeSetEnabled marked t true) l (some t)
  | unmap t =>
      let marked : ZenCompositor :=
        { s with windows := s.windows.modify t fun r => { r with mapped := false } }
      exact congrArg (fun s' : ZenCompositor => { s' with
          windows := s'.windows.modify t fun r => { r with initialized := false } })
        (handleToplevelUnmap_disguise marked l t)
  | destroy t => exact handleToplevelDestroy_disguise s l t
  | requestMove t => exact handleToplevelRequestMove_disguise s l t
  | requestMaximize t => exact handleToplevelRequestMaximize_disguise s l t
  | requestFullscreen t requested =>
      exact handleToplevelRequestFullscreen_disguise s l t requested
  | focus target => exact zenXdgFocusToplevel_disguise s l target
  | newLayerSurface id output ok => exact handleNewLayerSurface_disguise s l id output ok
  | newKeyboard k ok =>
      rw [handle, handle, wlrKeyboardInit_disguise]
      cases ok with
      | false => rfl
      | true =>
          exact congrArg (fun s' : ZenCompositor => { s' with keyboards := k :: s'.keyboards })
            (wlrSeatSetKeyboard_disguise (wlrKeyboardInit s k) l k)
  | modifiers k state =>
      let updated := wlrKeyboardUpdateModifiers s k state
      exact (congrArg (wlrSeatKeyboardNotifyModifiers · (updated.modifiers k))
        (wlrSeatSetKeyboard_disguise updated l k)).trans
          (wlrSeatKeyboardNotifyModifiers_disguise _ l _)
  | cursorMotion x y hit => exact handleCursorMotion_disguise s l x y hit
  | cursorButton pressed hit => exact handleCursorButton_disguise s l pressed hit
  | newOutput o place allocs => exact handleNewOutput_disguise s l o place allocs
  | wallpaperInit stateOk treeOk => exact zenWallpaperInit_disguise s l stateOk treeOk
  | wallpaperDestroy => exact zenWallpaperDestroy_disguise s l
  | key | idleTimeout | lockSignal | newLock => exact absurd rfl ho
  | _ => rfl

end Disguise

theorem verdicts_map_masked (calls : List Call) :
    verdicts (calls.map Call.masked) = verdicts calls := by
  rw [verdicts, verdicts, List.filterMap_map]
  refine List.filterMap_congr fun c _ => ?_
  cases c <;> rfl

theorem verdicts_append (calls calls' : List Call) :
    verdicts (calls ++ calls') = verdicts calls ++ verdicts calls' :=
  List.filterMap_append

section Masked

variable {s s' : ZenCompositor}

theorem masked_lock (h : s.masked = s'.masked) : s.lock.masked = s'.lock.masked :=
  congrArg ZenCompositor.lock h

theorem masked_locked (h : s.masked = s'.masked) : s.lock.locked = s'.lock.locked :=
  congrArg (·.lock.locked) h

theorem masked_verdicts (h : s.masked = s'.masked) : verdicts s.calls = verdicts s'.calls := by
  rw [← verdicts_map_masked s.calls, ← verdicts_map_masked s'.calls]
  exact congrArg verdicts (congrArg ZenCompositor.calls h)

theorem disguise_congr (h : s.masked = s'.masked) (l : LockState) :
    s.disguise l = s'.disguise l :=
  congrArg (fun s : ZenCompositor => { s with lock := l }) h

theorem masked_congr {l : LockState} (h : s.disguise l = s'.disguise l)
    (hlock : s.lock.masked = s'.lock.masked) : s.masked = s'.masked :=
  congrArg₂ (fun (s : ZenCompositor) lock => { s with lock }) h hlock

theorem masked_clear (h : s.masked = s'.masked) :
    ({ s with calls := [] } : ZenCompositor).masked =
      ({ s' with calls := [] } : ZenCompositor).masked :=
  congrArg (fun s : ZenCompositor => { s with calls := [] }) h

end Masked

theorem Call.masked_masked (c : Call) : c.masked.masked = c.masked := by
  cases c with
  | keyboardKey surface keycode pressed => cases pressed <;> rfl
  | _ => rfl

@[simp] theorem Call.masked_comp_masked : Call.masked ∘ Call.masked = Call.masked :=
  funext Call.masked_masked

theorem zenLockActivate_masked (s : ZenCompositor) (bufferOk : Bool) :
    (zenLockActivate s bufferOk).masked = (zenLockActivate s.masked bufferOk).masked := by
  rcases hl : s.lock.locked with _ | _
  · rcases hok : zenCairoBufferCreate (lockDimensions s.outputLayout).1
        (lockDimensions s.outputLayout).2 bufferOk with _ | _ <;>
      simp [zenLockActivate, ZenCompositor.masked, hl, hok, LockState.masked,
        LockState.clearPassword, overlayParent]
  · simp [zenLockActivate, ZenCompositor.masked, hl, LockState.masked]

theorem zenLockDeactivate_masked (s : ZenCompositor) :
    (zenLockDeactivate s).masked = (zenLockDeactivate s.masked).masked := by
  rcases hl : s.lock.locked with _ | _
  · simp [zenLockDeactivate, ZenCompositor.masked, hl, LockState.masked]
  · rcases hb : s.lock.screen.lockBuffer with _ | box <;>
      rcases hw : s.lock.screen.wlrLock with _ | lock <;>
      rcases hi : s.lock.idleTimer with _ | _ <;>
      simp [zenLockDeactivate, ZenCompositor.masked, hl, hb, hw, hi, LockState.masked,
        LockState.clearPassword, overlayParent, Call.masked]

theorem printable_maskKeysym (keysym : UInt32) :
    (0x20 ≤ maskKeysym keysym ∧ maskKeysym keysym ≤ 0x7e) ↔ (0x20 ≤ keysym ∧ keysym ≤ 0x7e) := by
  rw [maskKeysym]
  split
  · next h => exact ⟨fun _ => h, fun _ => by decide⟩
  · exact Iff.rfl

theorem maskKeysym_eq_iff {keysym special : UInt32} (hspecial : ¬ special ≤ 0x7e) :
    maskKeysym keysym = special ↔ keysym = special := by
  rw [maskKeysym]
  split
  · next h =>
      constructor
      · rintro rfl
        exact absurd (by decide) hspecial
      · rintro rfl
        exact absurd h.2 hspecial
  · exact Iff.rfl

/-- What PAM says to the password in the buffer. -/
def verdict (s : ZenCompositor) (pam : Nat → List UInt8 → Bool) : Bool :=
  pam s.lock.pamAttempts (cString s.lock.password)

theorem zenLockHandleKey_masked (s : ZenCompositor) (keysym : UInt32) (pressed : Bool)
    (pam : Nat → List UInt8 → Bool) :
    (zenLockHandleKey s keysym pressed pam).1.masked =
      (zenLockHandleKey s.masked (maskKeysym keysym) pressed
        fun _ _ => verdict s pam).1.masked := by
  have hback : maskKeysym keysym = keyBackSpace ↔ keysym = keyBackSpace :=
    maskKeysym_eq_iff (by decide)
  have hreturn : (maskKeysym keysym = keyReturn ∨ maskKeysym keysym = keyKPEnter) ↔
      (keysym = keyReturn ∨ keysym = keyKPEnter) :=
    or_congr (maskKeysym_eq_iff (by decide)) (maskKeysym_eq_iff (by decide))
  have hescape : maskKeysym keysym = keyEscape ↔ keysym = keyEscape :=
    maskKeysym_eq_iff (by decide)
  have hlocked : s.masked.lock.locked = s.lock.locked := rfl
  have hlen : s.masked.lock.passwordLen = s.lock.passwordLen := rfl
  simp only [zenLockHandleKey, hback, hreturn, hescape, printable_maskKeysym, hlocked, hlen]
  have hsame : s.masked = s.masked.masked := by
    simp [ZenCompositor.masked, LockState.masked]
  split
  · exact hsame
  split
  · split
    · simp [ZenCompositor.masked, LockState.masked]
    · exact hsame
  split
  · rw [show (pamAuthenticatePassword s pam).2 = verdict s pam from rfl,
      show (pamAuthenticatePassword s.masked fun _ _ => verdict s pam).2 = verdict s pam from rfl]
    have hask : (pamAuthenticatePassword s pam).1.masked =
        (pamAuthenticatePassword s.masked fun _ _ => verdict s pam).1.masked := by
      simp [pamAuthenticatePassword, ZenCompositor.masked, LockState.masked, Call.masked, verdict]
    generalize (pamAuthenticatePassword s pam).1 = asked at hask ⊢
    generalize (pamAuthenticatePassword s.masked fun _ _ => verdict s pam).1 = asked' at hask ⊢
    split
    · dsimp only
      rw [zenLockDeactivate_masked, hask, ← zenLockDeactivate_masked]
    · exact congrArg (fun s : ZenCompositor => { s with lock := { s.lock.clearPassword with
        screen := { s.lock.screen with showError := true } } }) hask
  split
  · simp [ZenCompositor.masked, LockState.masked, LockState.clearPassword]
  split
  · split
    · simp [ZenCompositor.masked, LockState.masked]
    · exact hsame
  · exact hsame

/-- The keysym makes the lock screen ask PAM. -/
def Asks (s : ZenCompositor) (keysym : UInt32) (pressed : Bool) : Prop :=
  s.lock.locked = true ∧ pressed = true ∧ (keysym = keyReturn ∨ keysym = keyKPEnter)

instance (s : ZenCompositor) (keysym : UInt32) (pressed : Bool) :
    Decidable (Asks s keysym pressed) :=
  inferInstanceAs (Decidable (_ ∧ _))

theorem asks_masked (s : ZenCompositor) (keysym : UInt32) (pressed : Bool) :
    Asks s.masked (maskKeysym keysym) pressed ↔ Asks s keysym pressed :=
  and_congr_right' (and_congr_right' (or_congr (maskKeysym_eq_iff (by decide))
    (maskKeysym_eq_iff (by decide))))

theorem zenLockDeactivate_verdicts (s : ZenCompositor) :
    verdicts (zenLockDeactivate s).calls = verdicts s.calls := by
  rcases hl : s.lock.locked with _ | _
  · simp [zenLockDeactivate, hl]
  · rw [zenLockDeactivate_calls hl, verdicts_append]
    rcases s.lock.screen.wlrLock with _ | lock <;> rcases s.lock.idleTimer with _ | _ <;>
      simp [verdicts]

theorem zenLockHandleKey_verdicts (s : ZenCompositor) (keysym : UInt32) (pressed : Bool)
    (pam : Nat → List UInt8 → Bool) :
    verdicts (zenLockHandleKey s keysym pressed pam).1.calls =
      verdicts s.calls ++ if Asks s keysym pressed then [verdict s pam] else [] := by
  by_cases hasks : Asks s keysym pressed
  · obtain ⟨hl, rfl, hreturn⟩ := id hasks
    have hback : keysym ≠ keyBackSpace := by rcases hreturn with rfl | rfl <;> decide
    have hask : verdicts (pamAuthenticatePassword s pam).1.calls =
        verdicts s.calls ++ [verdict s pam] := verdicts_append _ _
    rw [if_pos hasks, zenLockHandleKey, if_neg (by simp [hl]), if_neg hback, if_pos hreturn,
      ← hask]
    generalize pamAuthenticatePassword s pam = answer
    obtain ⟨asked, success⟩ := answer
    cases success with
    | false => rfl
    | true => exact zenLockDeactivate_verdicts asked
  · rw [if_neg hasks, List.append_nil, zenLockHandleKey]
    split
    · rfl
    next hpressed =>
    split
    · split <;> rfl
    split
    · next hreturn => exact absurd ⟨by simp_all, by simp_all, hreturn⟩ hasks
    split
    · rfl
    split
    · split <;> rfl
    · rfl

section Keysym

variable {t : Toolkit} {now : ClockTime} {d d' : LockDisplay}

theorem renderLockUi_masked (d : LockDisplay) :
    (renderLockUi t now d).masked = renderLockUi t now d.masked := by
  rw [renderLockUi, renderLockUi]
  exact apply_ite LockDisplay.masked _ _ _

theorem rendersLockUi_masked (s : ZenCompositor) (keysym : UInt32) (pressed : Bool)
    (pam : Nat → List UInt8 → Bool) :
    rendersLockUi s keysym pressed pam =
      rendersLockUi s.masked (maskKeysym keysym) pressed fun _ _ => verdict s pam := by
  have hback : maskKeysym keysym = keyBackSpace ↔ keysym = keyBackSpace :=
    maskKeysym_eq_iff (by decide)
  have hreturn : (maskKeysym keysym = keyReturn ∨ maskKeysym keysym = keyKPEnter) ↔
      (keysym = keyReturn ∨ keysym = keyKPEnter) :=
    or_congr (maskKeysym_eq_iff (by decide)) (maskKeysym_eq_iff (by decide))
  have hescape : maskKeysym keysym = keyEscape ↔ keysym = keyEscape :=
    maskKeysym_eq_iff (by decide)
  simp only [rendersLockUi, hback, hreturn, hescape, printable_maskKeysym]
  rfl

theorem handleKeyDisplay_masked (d : LockDisplay) (keysym : UInt32) (pressed : Bool)
    (pam : Nat → List UInt8 → Bool) :
    (handleKeyDisplay t now d keysym pressed pam).masked =
      (handleKeyDisplay t now d.masked (maskKeysym keysym) pressed
        fun _ _ => verdict d.compositor pam).masked := by
  have hkey := zenLockHandleKey_masked d.compositor keysym pressed pam
  have hmasked : d.masked.compositor = d.compositor.masked := rfl
  rw [handleKeyDisplay, handleKeyDisplay, rendersLockUi_masked, hmasked]
  split
  · rw [renderLockUi_masked, renderLockUi_masked]
    refine congrArg (renderLockUi t now) ?_
    exact congrArg (fun s => ({ d with compositor := s } : LockDisplay)) hkey
  · exact congrArg (fun s => ({ d with compositor := s } : LockDisplay)) hkey

theorem zenLockHandleKey_of_not_asks {s : ZenCompositor} {keysym : UInt32} {pressed : Bool}
    (h : ¬ Asks s keysym pressed) (pam pam' : Nat → List UInt8 → Bool) :
    zenLockHandleKey s keysym pressed pam = zenLockHandleKey s keysym pressed pam' := by
  rw [zenLockHandleKey, zenLockHandleKey]
  split
  · rfl
  next hpressed =>
  split
  · rfl
  split
  · next hreturn => exact absurd ⟨by simp_all, by simp_all, hreturn⟩ h
  · rfl

theorem rendersLockUi_of_not_asks {s : ZenCompositor} {keysym : UInt32} {pressed : Bool}
    (h : ¬ Asks s keysym pressed) (pam pam' : Nat → List UInt8 → Bool) :
    rendersLockUi s keysym pressed pam = rendersLockUi s keysym pressed pam' := by
  rw [rendersLockUi, rendersLockUi]
  split
  · rfl
  next hpressed =>
  split
  · rfl
  split
  · next hreturn => exact absurd ⟨by simp_all, by simp_all, hreturn⟩ h
  · rfl

theorem handleKeyDisplay_congr {keysym keysym' : UInt32} {pressed : Bool}
    {pam pam' : Nat → List UInt8 → Bool} (hd : d.masked = d'.masked)
    (hkey : maskKeysym keysym = maskKeysym keysym')
    (hverdict : Asks d.compositor keysym pressed →
      verdict d.compositor pam = verdict d'.compositor pam') :
    (handleKeyDisplay t now d keysym pressed pam).masked =
      (handleKeyDisplay t now d' keysym' pressed pam').masked := by
  rw [handleKeyDisplay_masked d, handleKeyDisplay_masked d', ← hd, ← hkey]
  by_cases hasks : Asks d.compositor keysym pressed
  · rw [hverdict hasks]
  · have hnot : ¬ Asks d.masked.compositor (maskKeysym keysym) pressed :=
      mt (asks_masked ..).mp hasks
    rw [handleKeyDisplay, handleKeyDisplay, zenLockHandleKey_of_not_asks hnot,
      rendersLockUi_of_not_asks hnot]

theorem verdicts_prefix_foldl (t : Toolkit) (now : ClockTime) (d : LockDisplay) (pressed : Bool)
    (pam : Nat → List UInt8 → Bool) (syms : List UInt32) :
    verdicts d.compositor.calls <+: verdicts
      (syms.foldl (fun d keysym => handleKeyDisplay t now d keysym pressed pam)
        d).compositor.calls := by
  induction syms generalizing d with
  | nil => exact List.prefix_refl _
  | cons keysym syms ih =>
      refine .trans ?_ (ih _)
      rw [handleKeyDisplay_compositor, zenLockHandleKey_verdicts]
      exact List.prefix_append _ _

theorem foldl_handleKeyDisplay_congr {pressed : Bool} {pam pam' : Nat → List UInt8 → Bool}
    {syms syms' : List UInt32} (hd : d.masked = d'.masked)
    (hsyms : syms.map maskKeysym = syms'.map maskKeysym)
    (hverdicts : verdicts (syms.foldl (fun d keysym => handleKeyDisplay t now d keysym pressed
        pam) d).compositor.calls =
      verdicts (syms'.foldl (fun d keysym => handleKeyDisplay t now d keysym pressed pam')
        d').compositor.calls) :
    (syms.foldl (fun d keysym => handleKeyDisplay t now d keysym pressed pam) d).masked =
      (syms'.foldl (fun d keysym => handleKeyDisplay t now d keysym pressed pam') d').masked := by
  induction syms generalizing d d' syms' with
  | nil =>
      obtain rfl : syms' = [] := List.map_eq_nil_iff.mp hsyms.symm
      exact hd
  | cons keysym syms ih =>
      obtain ⟨keysym', syms', rfl, hkey, hrest⟩ := List.map_eq_cons_iff.mp hsyms.symm
      have hstep : (handleKeyDisplay t now d keysym pressed pam).masked =
          (handleKeyDisplay t now d' keysym' pressed pam').masked := by
        refine handleKeyDisplay_congr hd hkey.symm fun hasks => ?_
        have hasks' : Asks d'.compositor keysym' pressed := by
          rw [← asks_masked] at hasks ⊢
          rwa [hkey, show d'.compositor.masked = d.compositor.masked from
            (congrArg LockDisplay.compositor hd).symm]
        have hfirst := verdicts_prefix_foldl t now
          (handleKeyDisplay t now d keysym pressed pam) pressed pam syms
        have hfirst' := verdicts_prefix_foldl t now
          (handleKeyDisplay t now d' keysym' pressed pam') pressed pam' syms'
        rw [← List.foldl_cons, hverdicts] at hfirst
        rw [handleKeyDisplay_compositor, zenLockHandleKey_verdicts, if_pos hasks] at hfirst
        rw [handleKeyDisplay_compositor, zenLockHandleKey_verdicts, if_pos hasks',
          ← masked_verdicts (congrArg LockDisplay.compositor hd)] at hfirst'
        have hsame := (List.prefix_of_prefix_length_le hfirst hfirst' (by simp)).eq_of_length
          (by simp)
        simpa using hsame
      rw [List.foldl_cons, List.foldl_cons]
      exact ih hstep hrest.symm hverdicts

end Keysym

theorem handleKeyboardKey_eq_of_unlocked {s : ZenCompositor} (hs : s.lock.locked = false)
    (keycode : UInt32) (syms : List UInt32) (pressed : Bool) (modifiers : UInt32)
    (bufferOk : Bool) (pam : Nat → List UInt8 → Bool) :
    handleKeyboardKey s keycode syms pressed modifiers bufferOk pam =
      if pressed then
        match firstBinding s modifiers syms with
        | some b => executeAction s b.action b.customCmd bufferOk
        | none => wlrSeatKeyboardNotifyKey s keycode true
      else wlrSeatKeyboardNotifyKey s keycode false := by
  rw [handleKeyboardKey, if_neg (by simp [hs])]
  cases pressed with
  | false => rfl
  | true =>
      simp only [if_true, handleKeybindingSyms_eq]
      rcases firstBinding s modifiers syms with _ | b <;> rfl

theorem executeAction_disguise (s : ZenCompositor) (l : LockState) {action : ZenKeybindAction}
    (haction : action ≠ .lockScreen) (customCmd : Option String) (bufferOk : Bool) :
    executeAction (s.disguise l) action customCmd bufferOk =
      (executeAction s action customCmd bufferOk).disguise l := by
  cases action with
  | lockScreen => exact absurd rfl haction
  | toggleLauncher | switchWindow => rfl
  | launchTerminal => simp [executeAction, ZenCompositor.disguise, Call.masked]
  | closeWindow =>
      rcases hf : s.windows.focusedToplevel with _ | t <;>
        simp [executeAction, ZenCompositor.disguise, Call.masked, hf]
  | custom =>
      rcases customCmd with _ | cmd
      · rfl
      · refine .trans ?_ (ite_disguise l _ _ _)
        refine if_congr Iff.rfl rfl ?_
        simp [ZenCompositor.disguise, Call.masked]

theorem press_disguise {s : ZenCompositor} {l : LockState} (hs : s.lock.locked = false)
    (hl : l.locked = false) {k : KeyboardId} {keycode : UInt32} {syms : List UInt32}
    {modifiers : UInt32} {bufferOk : Bool} {pam : Nat → List UInt8 → Bool}
    (hreq : lockRequest s (.key k keycode syms true modifiers bufferOk pam) = none) :
    handleKeyboardKey (s.disguise l) keycode syms true modifiers bufferOk pam =
      (handleKeyboardKey s keycode syms true modifiers bufferOk pam).disguise l := by
  have hl' : (s.disguise l).lock.locked = false := hl
  have hfirst : firstBinding (s.disguise l) modifiers syms = firstBinding s modifiers syms := rfl
  rw [handleKeyboardKey_eq_of_unlocked hl', handleKeyboardKey_eq_of_unlocked hs, hfirst]
  rcases hb : firstBinding s modifiers syms with _ | b
  · exact wlrSeatKeyboardNotifyKey_disguise s l keycode
  · refine executeAction_disguise s l (fun haction => ?_) b.customCmd bufferOk
    simp [lockRequest, hb, haction] at hreq

theorem release_masked (s : ZenCompositor) (keycode : UInt32) :
    (wlrSeatKeyboardNotifyKey s keycode false).masked =
      (wlrSeatKeyboardNotifyKey s.masked 0 false).masked := by
  rcases hf : s.seat.keyboardFocus with _ | f <;>
    simp [wlrSeatKeyboardNotifyKey_eq, ZenCompositor.masked, LockState.masked, Call.masked, hf]

theorem arrive_masked (s : ZenCompositor) (e : Event) :
    (s.arrive e).masked = ({ s with calls := [] } : ZenCompositor).masked := by
  cases e <;> rfl

def Event.isKey : Event → Bool
  | .key .. => true
  | _ => false

theorem Event.masked_of_not_isKey {e : Event} (h : e.isKey = false) : e.masked = e := by
  cases e with
  | key => cases h
  | _ => rfl

theorem Event.isKey_masked (e : Event) : e.masked.isKey = e.isKey := by
  cases e <;> rfl

theorem Event.eq_of_masked_eq {e e' : Event} (h : e.isKey = false) (he : e.masked = e'.masked) :
    e = e' := by
  have h' : e'.isKey = false := by rw [← e'.isKey_masked, ← he, e.isKey_masked, h]
  rwa [masked_of_not_isKey h, masked_of_not_isKey h'] at he

theorem Event.eq_key_of_masked_eq {k : KeyboardId} {keycode : UInt32} {syms : List UInt32}
    {pressed : Bool} {modifiers : UInt32} {bufferOk : Bool} {pam : Nat → List UInt8 → Bool}
    {e' : Event}
    (he : (Event.key k keycode syms pressed modifiers bufferOk pam).masked = e'.masked) :
    ∃ k' keycode' syms' modifiers' bufferOk' pam',
      e' = .key k' keycode' syms' pressed modifiers' bufferOk' pam' ∧
        syms.map maskKeysym = syms'.map maskKeysym := by
  cases e' with
  | key k' keycode' syms' pressed' modifiers' bufferOk' pam' =>
      simp only [Event.masked, Event.key.injEq, and_true, true_and] at he
      obtain ⟨hsyms, rfl⟩ := he
      exact ⟨k', keycode', syms', modifiers', bufferOk', pam', rfl, hsyms⟩
  | _ => cases he

section Step

variable {s s' : ZenCompositor} {e : Event}

theorem lockRequest_congr (h : s.masked = s'.masked) (e : Event) :
    lockRequest s' e = lockRequest s e := by
  calc lockRequest s' e
      = lockRequest s'.masked e := by cases e <;> rfl
    _ = lockRequest s.masked e := by rw [h]
    _ = lockRequest s e := by cases e <;> rfl

theorem step_masked (h : s.masked = s'.masked)
    (hkey : e.isKey = false) : (step s e).masked = (step s' e).masked := by
  by_cases ho : e.owner = .lock
  · cases e with
    | key => cases hkey
    | idleTimeout bufferOk | lockSignal bufferOk =>
        rw [step, step, handle, handle]
        refine (zenLockActivate_masked _ bufferOk).trans ?_
        rw [masked_clear h]
        exact (zenLockActivate_masked _ bufferOk).symm
    | newLock lock =>
        exact congrArg (fun s : ZenCompositor => { s with calls := [.sendLocked lock] }) h
    | _ => cases ho
  · refine masked_congr (l := s.lock) ?_ ?_
    · rw [step, step, ← handle_disguise _ _ ho, ← handle_disguise _ _ ho,
        disguise_congr (masked_clear h)]
    · rw [step_lock s ho, step_lock s' ho]
      exact masked_lock h

theorem step_press_masked (h : s.masked = s'.masked) (hs : s.lock.locked = false)
    {k : KeyboardId} {keycode : UInt32} {syms : List UInt32} {modifiers : UInt32}
    {bufferOk : Bool} {pam : Nat → List UInt8 → Bool}
    (hreq : lockRequest s (.key k keycode syms true modifiers bufferOk pam) = none) :
    (step s (.key k keycode syms true modifiers bufferOk pam)).masked =
      (step s' (.key k keycode syms true modifiers bufferOk pam)).masked := by
  have hs' : s'.lock.locked = false := (masked_locked h).symm.trans hs
  let e : Event := .key k keycode syms true modifiers bufferOk pam
  have hreq' : lockRequest s' e = none := (lockRequest_congr h e).trans hreq
  have hlock : ∀ {s : ZenCompositor}, s.lock.locked = false → lockRequest s e = none →
      (step s e).lock = s.lock := by
    intro s hs hreq
    have hkey := handleKeyboardKey_of_unlocked (s := s.arrive e) hs k keycode syms true modifiers
      bufferOk pam
    rw [show lockRequest (s.arrive e) (.key k keycode syms true modifiers bufferOk pam) = none from
      hreq] at hkey
    exact hkey.1
  have hcongr : (s.arrive e).disguise s.lock = (s'.arrive e).disguise s.lock :=
    disguise_congr (masked_clear h) s.lock
  refine masked_congr (l := s.lock) ?_ ?_
  · exact (press_disguise (s := s.arrive e) (k := k) hs hs hreq).symm.trans
      ((congrArg (handleKeyboardKey · keycode syms true modifiers bufferOk pam) hcongr).trans
        (press_disguise (s := s'.arrive e) (k := k) hs' hs hreq'))
  · rw [hlock hs hreq, hlock hs' hreq']
    exact masked_lock h

theorem step_release_masked (h : s.masked = s'.masked) (hs : s.lock.locked = false)
    {k k' : KeyboardId} {keycode keycode' : UInt32} {syms syms' : List UInt32}
    {modifiers modifiers' : UInt32} {bufferOk bufferOk' : Bool}
    {pam pam' : Nat → List UInt8 → Bool} :
    (step s (.key k keycode syms false modifiers bufferOk pam)).masked =
      (step s' (.key k' keycode' syms' false modifiers' bufferOk' pam')).masked := by
  have hs' : s'.lock.locked = false := (masked_locked h).symm.trans hs
  have hreleased : ∀ {s : ZenCompositor}, s.lock.locked = false → ∀ k keycode syms modifiers
      bufferOk pam, (step s (.key k keycode syms false modifiers bufferOk pam)).masked =
        (wlrSeatKeyboardNotifyKey ({ s with calls := [] } : ZenCompositor).masked 0
          false).masked := by
    intro s hs k keycode syms modifiers bufferOk pam
    let arrived := s.arrive (.key k keycode syms false modifiers bufferOk pam)
    exact (congrArg ZenCompositor.masked (handleKeyboardKey_eq_of_unlocked (s := arrived) hs
      keycode syms false modifiers bufferOk pam)).trans (release_masked arrived keycode)
  rw [hreleased hs, hreleased hs', masked_clear h]

end Step

section StepDisplay

variable {t : Toolkit} {d d' : LockDisplay} {now : ClockTime} {e : Event}

theorem stepDisplay_of_not_isKey (hl : d.lock.locked = true) (h : e.isKey = false) :
    stepDisplay t d (now, e) = { d with compositor := step d.compositor e } := by
  rw [stepDisplay]
  dsimp only
  rw [if_pos hl]
  cases e with
  | key => cases h
  | _ => rfl

theorem stepDisplay_key (hl : d.lock.locked = true) {k : KeyboardId} {keycode : UInt32}
    {syms : List UInt32} {pressed : Bool} {modifiers : UInt32} {bufferOk : Bool}
    {pam : Nat → List UInt8 → Bool} :
    stepDisplay t d (now, .key k keycode syms pressed modifiers bufferOk pam) =
      syms.foldl (fun d keysym => handleKeyDisplay t now d keysym pressed pam)
        { d with compositor :=
          d.compositor.arrive (.key k keycode syms pressed modifiers bufferOk pam) } := by
  rw [stepDisplay]
  dsimp only
  rw [if_pos hl]

theorem activateDisplay_masked (d : LockDisplay) (bufferOk : Bool) :
    (activateDisplay t now d bufferOk).masked =
      (activateDisplay t now d.masked bufferOk).masked := by
  have hactivate := zenLockActivate_masked d.compositor bufferOk
  have hlocked : (zenLockActivate d.compositor.masked bufferOk).lock.locked =
      (zenLockActivate d.compositor bufferOk).lock.locked := (masked_locked hactivate).symm
  have hmasked : d.masked.compositor = d.compositor.masked := rfl
  have hlock : d.masked.lock.locked = d.lock.locked := rfl
  rw [activateDisplay, activateDisplay, hmasked, hlocked, hlock]
  split
  · exact congrArg (fun s => ({ d with compositor := s } : LockDisplay)) hactivate
  · rw [renderLockUi_masked, renderLockUi_masked]
    refine congrArg (renderLockUi t now) ?_
    exact congrArg (fun s => ({ d with compositor := s, surface := .create } : LockDisplay))
      hactivate

theorem stepDisplay_masked {e e' : ClockTime × Event} (hd : d.masked = d'.masked)
    (h : Alike t d e d' e') : (stepDisplay t d e).masked = (stepDisplay t d' e').masked := by
  obtain ⟨now, e⟩ := e
  obtain ⟨now', e'⟩ := e'
  obtain ⟨hclock, hevent, hverdicts⟩ := h
  obtain rfl : now = now' := hclock
  have hs : d.compositor.masked = d'.compositor.masked := congrArg LockDisplay.compositor hd
  have harrive : ({ d with compositor := d.compositor.arrive e } : LockDisplay).masked =
      ({ d' with compositor := d'.compositor.arrive e' } : LockDisplay).masked := by
    refine .trans (congrArg (fun s => ({ d.masked with compositor := s } : LockDisplay))
      (arrive_masked d.compositor e)) (.trans ?_
      (congrArg (fun s => ({ d'.masked with compositor := s } : LockDisplay))
        (arrive_masked d'.compositor e')).symm)
    exact congrArg (fun d : LockDisplay =>
      { d with compositor := { d.compositor with calls := [] } }) hd
  have replace : ∀ {s s' : ZenCompositor}, s.masked = s'.masked →
      ({ d with compositor := s } : LockDisplay).masked =
        ({ d' with compositor := s' } : LockDisplay).masked := by
    intro s s' h
    have hsurface : d.masked.surface = d'.masked.surface := congrArg LockDisplay.surface hd
    have hshown : d.masked.shown = d'.masked.shown := congrArg LockDisplay.shown hd
    rw [LockDisplay.masked, LockDisplay.masked, h]
    exact congrArg₂ (LockDisplay.mk s'.masked) hsurface hshown
  by_cases hl : d.lock.locked = true
  · have hl' : d'.lock.locked = true := (masked_locked hs).symm.trans hl
    have hmasked : e.masked = e'.masked := by
      rcases hevent with rfl | ⟨-, hmasked⟩
      · rfl
      · exact hmasked
    rcases hkey : e.isKey with _ | _
    · obtain rfl := Event.eq_of_masked_eq hkey hmasked
      rw [stepDisplay_of_not_isKey hl hkey, stepDisplay_of_not_isKey hl' hkey]
      exact replace (step_masked hs hkey)
    · cases e with
      | key k keycode syms pressed modifiers bufferOk pam =>
          obtain ⟨k', keycode', syms', modifiers', bufferOk', pam', rfl, hsyms⟩ :=
            Event.eq_key_of_masked_eq hmasked
          rw [stepDisplay_key hl, stepDisplay_key hl'] at hverdicts ⊢
          exact foldl_handleKeyDisplay_congr harrive hsyms hverdicts
      | _ => cases hkey
  · have hl' : ¬ d'.lock.locked = true := by
      rwa [show d'.lock.locked = d.lock.locked from (masked_locked hs).symm]
    have hs' : d.compositor.lock.locked = false := by simpa using hl
    have unlocked : ∀ {d : LockDisplay} {e : Event}, ¬ d.lock.locked = true →
        lockRequest d.compositor e = none →
        stepDisplay t d (now, e) = { d with compositor := step d.compositor e } := by
      intro d e hl hr
      rw [stepDisplay]
      dsimp only
      rw [if_neg hl, hr]
    rcases hevent with rfl | ⟨hrelease, hmasked⟩
    · have hreq : lockRequest d'.compositor e = lockRequest d.compositor e :=
        lockRequest_congr hs e
      rcases hr : lockRequest d.compositor e with _ | bufferOk
      · rw [unlocked hl hr, unlocked hl' (hreq.trans hr)]
        refine replace ?_
        cases e with
        | key k keycode syms pressed modifiers bufferOk pam =>
            cases pressed with
            | false => exact step_release_masked hs hs'
            | true => exact step_press_masked hs hs' hr
        | _ => exact step_masked hs rfl
      · rw [stepDisplay, stepDisplay]
        dsimp only
        rw [if_neg hl, if_neg hl', hreq, hr]
        dsimp only
        rw [activateDisplay_masked, harrive, ← activateDisplay_masked]
    · cases e with
      | key k keycode syms pressed modifiers bufferOk pam =>
          obtain rfl : pressed = false := by
            simpa [hl, Event.isRelease] using hrelease
          obtain ⟨k', keycode', syms', modifiers', bufferOk', pam', rfl, -⟩ :=
            Event.eq_key_of_masked_eq hmasked
          rw [unlocked hl (by simp [lockRequest]), unlocked hl' (by simp [lockRequest])]
          exact replace (step_release_masked hs hs')
      | _ => simp [hl, Event.isRelease] at hrelease

end StepDisplay

end ZenOS.Compositor
