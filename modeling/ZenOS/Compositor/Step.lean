import ZenOS.Compositor.Input
import ZenOS.Compositor.Layer
import ZenOS.Compositor.Output

/-!
The compositor as a system that handles one event after another.  An event
carries what the outside decides while it is handled: whether allocations
succeed, what lies under the cursor, what PAM answers, where outputs are placed.
-/

namespace ZenOS.Compositor

inductive Event where
  | newToplevel (t : ToplevelId) (surface : SurfaceId) (ok : Bool)
  | commit (t : ToplevelId) (maximized fullscreen : Bool)
  | map (t : ToplevelId)
  | unmap (t : ToplevelId)
  | destroy (t : ToplevelId)
  | requestMove (t : ToplevelId)
  | requestResize (t : ToplevelId)
  | requestMaximize (t : ToplevelId)
  | requestFullscreen (t : ToplevelId) (requested : Option OutputId)
  /-- a direct call of `zen_xdg_focus_toplevel` -/
  | focus (target : Option ToplevelId)
  | surfaceDestroy (surface : SurfaceId)
  | newLayerSurface (l : LayerId) (output : Option OutputId) (ok : Bool)
  | layerCommit (l : LayerId)
  | layerMap (l : LayerId)
  | layerUnmap (l : LayerId)
  | layerDestroy (l : LayerId)
  | newKeyboard (k : KeyboardId) (ok : Bool)
  | keyboardDestroy (k : KeyboardId)
  | key (k : KeyboardId) (keycode : UInt32) (syms : List UInt32) (pressed : Bool)
      (modifiers : UInt32) (bufferOk : Bool) (pam : Nat → List UInt8 → Bool)
  | modifiers (k : KeyboardId) (state : KeyboardModifiers)
  | cursorMotion (x y : ℚ) (hit : Option Hit)
  | cursorButton (pressed : Bool) (hit : Option Hit)
  | newOutput (o : Output) (place : OutputId → Int × Int) (allocs : OutputAllocs)
  | outputRequestState (id : OutputId) (state : OutputState)
      (place : OutputId → Int × Int)
  | outputDestroy (id : OutputId) (place : OutputId → Int × Int)
  | wallpaperInit (stateOk treeOk : Bool)
  | wallpaperDestroy
  | idleTimeout (bufferOk : Bool)
  | lockSignal (bufferOk : Bool)
  | newLock (lock : SessionLockId)

/-- `handle_toplevel_commit`; wlroots marks the surface as initialised before. -/
def handleToplevelCommit (s : ZenCompositor) : ZenCompositor :=
  s

def handleToplevelRequestResize (s : ZenCompositor) : ZenCompositor :=
  s

/-- The seat forgets a destroyed surface. -/
def Seat.forget (seat : Seat) (surface : SurfaceId) : Seat :=
  { seat with
    keyboardFocus := if seat.keyboardFocus = some surface then none else seat.keyboardFocus
    pointerFocus := if seat.pointerFocus = some surface then none else seat.pointerFocus }

/-- The handler of an event, with what wlroots itself records before and after it:
a surface is mapped when `map` is emitted, no longer mapped but still initialised
when `unmap` is emitted, and uninitialised from then on; a keyboard knows what is held when
it emits `key` or `modifiers`. -/
def handle (s : ZenCompositor) : Event → ZenCompositor
  | .newToplevel t surface ok => handleNewXdgToplevel s t surface ok
  | .commit t maximized fullscreen =>
      handleToplevelCommit { s with windows := s.windows.modify t fun r =>
        { r with initialized := true, maximized, fullscreen } }
  | .map t =>
      handleToplevelMap { s with windows := s.windows.modify t fun r =>
        { r with mapped := true } } t
  | .unmap t =>
      let s := handleToplevelUnmap { s with windows := s.windows.modify t fun r =>
        { r with mapped := false } } t
      { s with windows := s.windows.modify t fun r => { r with initialized := false } }
  | .destroy t => handleToplevelDestroy s t
  | .requestMove t => handleToplevelRequestMove s t
  | .requestResize _ => handleToplevelRequestResize s
  | .requestMaximize t => handleToplevelRequestMaximize s t
  | .requestFullscreen t requested => handleToplevelRequestFullscreen s t requested
  | .focus target => zenXdgFocusToplevel s target
  | .surfaceDestroy surface => { s with seat := s.seat.forget surface }
  | .newLayerSurface l output ok => handleNewLayerSurface s l output ok
  | .layerCommit l => modifyLayer s l fun r => { r with initialized := true }
  | .layerMap l => handleLayerSurfaceMap s l
  | .layerUnmap l =>
      modifyLayer (handleLayerSurfaceUnmap s l) l fun r => { r with initialized := false }
  | .layerDestroy l => handleLayerSurfaceDestroy s l
  | .newKeyboard k ok => handleNewKeyboard (wlrKeyboardInit s k) k ok
  | .keyboardDestroy k => handleKeyboardDestroy s k
  | .key k keycode syms pressed modifiers bufferOk pam =>
      handleKeyboardKey (wlrKeyboardUpdate s k keycode pressed) keycode syms pressed modifiers
        bufferOk pam
  | .modifiers k state => handleKeyboardModifiers (wlrKeyboardUpdateModifiers s k state) k
  | .cursorMotion x y hit => handleCursorMotion s x y hit
  | .cursorButton pressed hit => handleCursorButton s pressed hit
  | .newOutput o place allocs => handleNewOutput s o place allocs
  | .outputRequestState id state place => outputHandleRequestState s id state place
  | .outputDestroy id place => outputHandleDestroy s id place
  | .wallpaperInit stateOk treeOk => zenWallpaperInit s stateOk treeOk
  | .wallpaperDestroy => zenWallpaperDestroy s
  | .idleTimeout bufferOk => idleTimeoutCb s bufferOk
  | .lockSignal bufferOk => lockSignalCb s bufferOk
  | .newLock lock => handleNewLock s lock

theorem handle_key_of_locked {s : ZenCompositor} (hl : s.lock.locked = true) {k : KeyboardId}
    {keycode : UInt32} {syms : List UInt32} {pressed : Bool} {modifiers : UInt32}
    {bufferOk : Bool} {pam : Nat → List UInt8 → Bool} :
    handle s (.key k keycode syms pressed modifiers bufferOk pam) =
      handleLockedSyms (wlrKeyboardUpdate s k keycode pressed) pressed pam syms :=
  if_pos hl

/-- Handle one event; `calls` then holds exactly the calls made meanwhile. -/
def step (s : ZenCompositor) (e : Event) : ZenCompositor :=
  handle { s with calls := [] } e

/-- The state `zen_compositor_create` leaves.  Outputs announced while the backend
starts are in the layout before any overlay or wallpaper exists. -/
def created (outputs : List Output) (bindings : List ZenKeybinding)
    (idleTimer : Bool) : ZenCompositor :=
  { windows :=
      { heap := fun _ => none, toplevels := [], focusedToplevel := none
        grabbedToplevel := none, grabX := 0, grabY := 0
        grabNodeX := 0, grabNodeY := 0 }
    seat :=
      { keyboard := none, keyboardFocus := none, pointerFocus := none
        pointerX := 0, pointerY := 0 }
    cursorX := 0
    cursorY := 0
    keyboards := []
    keycodes := fun _ => []
    modifiers := fun _ => .zero
    keybindings := defaultBindings ++ bindings
    scene :=
      { root := [.background, .shellOverlayTree, .wallpaperTree 0]
        overlay := [], wallpaper := fun _ => [], nextNode := 1 }
    outputLayout := outputs
    layerSurfaces := fun _ => none
    shellOverlayTree := true
    wallpaperTree := some 0
    wallpaperState := some []
    testOverlay := false
    lock :=
      { locked := false, activeLock := none, screen := ZenLockScreen.zero
        password := Vector.replicate (zenLockPassMax + 1) 0, passwordLen := 0
        idleTimer, pamAttempts := 0 }
    calls := [] }

def showWindow (t : ToplevelId) (surface : SurfaceId) : List Event :=
  [.newToplevel t surface true, .commit t false false, .map t]

def Windows.Live (w : Windows) (t : ToplevelId) : Prop :=
  (w.heap t).isSome

instance (w : Windows) (t : ToplevelId) : Decidable (w.Live t) :=
  inferInstanceAs (Decidable (_ = true))

/-- The events that can arrive in a state: a handler runs on an object that exists,
a new object has an address that is not in use, and the cursor is over a live
toplevel if it is over any. -/
def Admissible (s : ZenCompositor) : Event → Prop
  | .newToplevel t _ _ => ¬ s.windows.Live t
  | .commit t _ _ | .map t | .unmap t | .destroy t | .requestMove t
  | .requestResize t | .requestMaximize t | .requestFullscreen t _ => s.windows.Live t
  | .focus target => ∀ t ∈ target, s.windows.Live t
  | .cursorButton _ hit => ∀ t ∈ toplevelAtHit hit, s.windows.Live t
  | .newLayerSurface l _ _ => (s.layerSurfaces l).isNone
  | .layerCommit l | .layerMap l | .layerUnmap l | .layerDestroy l =>
      (s.layerSurfaces l).isSome
  | .newKeyboard k _ => k ∉ s.keyboards
  | .keyboardDestroy k | .key k _ _ _ _ _ _ | .modifiers k _ => k ∈ s.keyboards
  | .newOutput o _ _ => ∀ o' ∈ s.outputLayout, o'.id ≠ o.id
  | .outputRequestState id _ _ | .outputDestroy id _ => ∃ o ∈ s.outputLayout, o.id = id
  | _ => True

/-- The order in which wlroots emits the events of one toplevel: `map` and `unmap`
alternate, and only a mapped toplevel can be clicked.  A toplevel may be destroyed
while it is still mapped.  Nobody but the handlers moves the focus. -/
def Ordered (s : ZenCompositor) : Event → Prop
  | .map t => s.windows.mapped t = false
  | .unmap t => s.windows.mapped t = true
  | .cursorButton _ hit => ∀ t ∈ toplevelAtHit hit, s.windows.mapped t = true
  | .focus _ => False
  | _ => True

instance (s : ZenCompositor) : ∀ e, Decidable (Admissible s e)
  | .newToplevel .. => inferInstanceAs (Decidable (¬ _))
  | .commit .. | .map _ | .unmap _ | .destroy _ | .requestMove _ | .requestResize _
  | .requestMaximize _ | .requestFullscreen .. =>
      inferInstanceAs (Decidable (Windows.Live _ _))
  | .focus _ | .cursorButton .. => inferInstanceAs (Decidable (∀ t ∈ (_ : Option _), _))
  | .newLayerSurface .. | .layerCommit _ | .layerMap _ | .layerUnmap _
  | .layerDestroy _ => inferInstanceAs (Decidable (_ = true))
  | .newKeyboard .. => inferInstanceAs (Decidable (¬ _ ∈ _))
  | .keyboardDestroy _ | .key .. | .modifiers .. => inferInstanceAs (Decidable (_ ∈ _))
  | .newOutput .. => inferInstanceAs (Decidable (∀ o ∈ (_ : List _), _))
  | .outputRequestState .. | .outputDestroy .. =>
      inferInstanceAs (Decidable (∃ o ∈ (_ : List _), _))
  | .surfaceDestroy _ | .cursorMotion .. | .wallpaperInit .. | .wallpaperDestroy
  | .idleTimeout _ | .lockSignal _ | .newLock _ => inferInstanceAs (Decidable True)

instance (s : ZenCompositor) : ∀ e, Decidable (Ordered s e)
  | .map _ | .unmap _ => inferInstanceAs (Decidable (_ = _))
  | .cursorButton .. => inferInstanceAs (Decidable (∀ t ∈ (_ : Option _), _))
  | .focus _ => inferInstanceAs (Decidable False)
  | .newToplevel .. | .commit .. | .destroy _ | .requestMove _ | .requestResize _
  | .requestMaximize _ | .requestFullscreen .. | .surfaceDestroy _
  | .newLayerSurface .. | .layerCommit _ | .layerMap _ | .layerUnmap _
  | .layerDestroy _ | .newKeyboard .. | .keyboardDestroy _ | .key .. | .modifiers ..
  | .cursorMotion .. | .newOutput .. | .outputRequestState .. | .outputDestroy ..
  | .wallpaperInit .. | .wallpaperDestroy | .idleTimeout _ | .lockSignal _
  | .newLock _ => inferInstanceAs (Decidable True)

end ZenOS.Compositor
