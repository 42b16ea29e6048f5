import Mathlib.Logic.Function.Basic
import ZenOS.Compositor.Keybinds
import ZenOS.Library.Fallible
import ZenOS.Library.Ownership

/-!
The resources and the listeners of the compositor over its whole life, from
`zen_compositor_create` to the end of `zen_compositor_destroy`.  `Ownership` is what the
compositor acquires and has to release; `Wiring` is its records for the objects of
wlroots and the listeners they are told by.  A misuse of either is recorded as a fault,
and the program goes on.
-/

namespace ZenOS.Lifecycle

open ZenOS.Compositor (ZenKeybinding)
open ZenOS.Library.Programs ZenOS.Library.Ownership

inductive CairoBuffer where
  | lockBuffer
  | testOverlay
  deriving DecidableEq

/-- The pointers of `struct ZenCairoBuffer`. -/
inductive CairoField where
  | surface
  | cr
  | pangoLayout
  | wlrBuf
  | sceneBuffer
  deriving DecidableEq

/-- The pointers, in `struct ZenCompositor` and in statics of its modules, to what the
compositor creates and destroys itself. -/
inductive Pointer where
  | wlDisplay
  | backend
  | renderer
  | allocator
  | scene
  | cursor
  | xcursorMgr
  | shell
  | bus
  | dbusSlot
  | dbusEventSource
  | idleTimer
  | lockSignalSlot
  | buffer (b : CairoBuffer)
  | field (b : CairoBuffer) (f : CairoField)
  deriving DecidableEq

/-- Whatever is acquired gets a number of its own. -/
inductive Resource where
  | pointee (p : Pointer) (n : Nat)
  | keybinding (n : Nat)
  | customCmd (n : Nat)
  deriving DecidableEq

def Resource.number : Resource → Nat
  | .pointee _ n | .keybinding n | .customCmd n => n

/-- The pointer is to a node of the scene. -/
def Pointer.onScene : Pointer → Bool
  | .field _ .sceneBuffer => true
  | _ => false

inductive Misuse where
  /-- a list whose head is still zero is traversed -/
  | uninitialised
  /-- a node is destroyed after its scene -/
  | sceneGone
  deriving DecidableEq

structure Ownership where
  pointers : Pointer → Option Nat
  -- a list whose head has not been initialised is `none`
  keybindings : Option (List (Nat × ZenKeybinding))
  -- `g_wallpaper_state`, with the number of its scene buffers
  wallpaperState : Option Nat
  shellOverlayTree : Bool
  wallpaperTree : Bool
  locked : Bool
  next : Nat
  trace : List (Op Resource)
  misuses : List Misuse

namespace Ownership

def has (o : Ownership) (p : Pointer) : Bool :=
  (o.pointers p).isSome

def acquire (o : Ownership) (p : Pointer) : Ownership :=
  { o with
    pointers := Function.update o.pointers p (some o.next)
    next := o.next + 1
    trace := .acquire (.pointee p o.next) :: o.trace }

/-- Destroying a node needs its scene. -/
def checkScene (o : Ownership) (onScene : Bool) : List Misuse :=
  if onScene && !o.has .scene then .sceneGone :: o.misuses else o.misuses

/-- `if (p) { destroy(p); p = NULL; }` -/
def release (o : Ownership) (p : Pointer) : Ownership :=
  match o.pointers p with
  | none => o
  | some n =>
      { o with
        pointers := Function.update o.pointers p none
        trace := .release (.pointee p n) :: o.trace
        misuses := o.checkScene p.onScene }

def releaseAll (o : Ownership) (ps : List Pointer) : Ownership :=
  ps.foldl release o

end Ownership

/-- The objects of wlroots that the compositor's own listeners are added to. -/
inductive Global where
  | backend
  | cursor
  | seat
  | xdgShell
  | layerShell
  | lockMgr
  | outputLayout
  | xwayland
  deriving DecidableEq

/-- The listeners of `struct ZenCompositor`, and `s_new_lock_listener`. -/
inductive GlobalListener where
  | newOutput
  | newXdgToplevel
  | cursorMotion
  | cursorMotionAbsolute
  | cursorButton
  | requestCursor
  | newInput
  | newLayerSurface
  | newLock
  | xwaylandReady
  | newXwaylandSurface
  deriving DecidableEq

/-- The object whose signal the listener is added to. -/
def GlobalListener.source : GlobalListener → Global
  | .newOutput | .newInput => .backend
  | .newXdgToplevel => .xdgShell
  | .cursorMotion | .cursorMotionAbsolute | .cursorButton => .cursor
  | .requestCursor => .seat
  | .newLayerSurface => .layerShell
  | .newLock => .lockMgr
  | .xwaylandReady | .newXwaylandSurface => .xwayland

def globalListeners : List GlobalListener :=
  [.newOutput, .newXdgToplevel, .cursorMotion, .cursorMotionAbsolute, .cursorButton,
    .requestCursor, .newInput, .newLayerSurface, .newLock, .xwaylandReady, .newXwaylandSurface]

/-- `enum wlr_input_device_type` -/
inductive DeviceType where
  | keyboard
  | pointer
  | touch
  | tablet
  | tabletPad
  | switch
  deriving DecidableEq

/-- The objects of clients and of the backend. -/
inductive Kind where
  | toplevel
  | layerSurface
  | xwaylandSurface
  | output
  | device (type : DeviceType)
  deriving DecidableEq

structure Obj where
  kind : Kind
  number : Nat
  deriving DecidableEq

/-- The listeners of the records. -/
inductive Slot where
  | map
  | unmap
  | commit
  | destroy
  | requestMove
  | requestResize
  | requestMaximize
  | requestFullscreen
  | setTitle
  | setAppId
  | key
  | modifiers
  | frame
  | requestState
  | associate
  | dissociate
  deriving DecidableEq

/-- The listeners in the record of an object: `struct ZenToplevel`, `ZenLayerSurface`,
`ZenXWaylandSurface`, `ZenOutput` and `ZenKeyboard`. -/
def Kind.slots : Kind → List Slot
  | .toplevel => [.map, .unmap, .commit, .destroy, .requestMove, .requestResize,
      .requestMaximize, .requestFullscreen, .setTitle, .setAppId]
  | .layerSurface => [.map, .unmap, .destroy]
  | .xwaylandSurface => [.associate, .dissociate, .destroy, .setTitle, .map, .unmap]
  | .output => [.frame, .requestState, .destroy]
  | .device .keyboard => [.key, .modifiers, .destroy]
  | .device _ => []

inductive Listener where
  | own (l : GlobalListener)
  | record (o : Obj) (slot : Slot)
  deriving DecidableEq

inductive ListHead where
  | toplevels
  | keyboards
  | layerSurfaces
  deriving DecidableEq

/-- The list that the records of a kind are linked into. -/
def Kind.list : Kind → Option ListHead
  | .toplevel => some .toplevels
  | .layerSurface => some .layerSurfaces
  | .device .keyboard => some .keyboards
  | _ => none

/-- The record that the compositor keeps for an object. -/
inductive Record where
  | none
  | live
  | freed
  deriving DecidableEq

inductive Fault where
  /-- a list whose head is still zero is used -/
  | uninitialised
  /-- a record is freed while one of its listeners is linked -/
  | freedLinked (o : Obj)
  /-- a handler runs on a record that has been freed -/
  | calledFreed (o : Obj)
  /-- an object is destroyed while a listener of the compositor is linked to it -/
  | listened (g : Global)
  deriving DecidableEq

/-- `alive` and `objects` are the objects of wlroots; the rest is the compositor's. -/
structure Wiring where
  links : Listener → Bool
  notify : GlobalListener → Bool
  alive : Global → Bool
  lists : ListHead → Option (List Nat)
  records : Obj → Record
  objects : List Obj
  -- the input devices attached to the cursor
  attached : List Obj
  -- the X11 windows that have a surface
  associated : List Nat
  keyboardCapability : Bool
  next : Nat
  faults : List Fault

namespace Wiring

def fault (w : Wiring) (f : Fault) : Wiring :=
  { w with faults := f :: w.faults }

/-- `wl_signal_add` -/
def link (w : Wiring) (l : Listener) : Wiring :=
  { w with links := Function.update w.links l true }

/-- `wl_list_remove` on the link of a listener -/
def unlink (w : Wiring) (l : Listener) : Wiring :=
  { w with links := Function.update w.links l false }

def linkAll (w : Wiring) (o : Obj) (slots : List Slot) : Wiring :=
  slots.foldl (fun w slot => w.link (.record o slot)) w

def unlinkAll (w : Wiring) (o : Obj) (slots : List Slot) : Wiring :=
  slots.foldl (fun w slot => w.unlink (.record o slot)) w

/-- `notify` is set and the listener is added to its signal. -/
def register (w : Wiring) (l : GlobalListener) : Wiring :=
  { w.link (.own l) with notify := Function.update w.notify l true }

/-- `if (l.notify) { wl_list_remove(&l.link); l.notify = NULL; }` -/
def unregister (w : Wiring) (l : GlobalListener) : Wiring :=
  if w.notify l then
    { w.unlink (.own l) with notify := Function.update w.notify l false }
  else w

/-- `if (l.link.next) wl_list_remove(&l.link);` -/
def unlinkIfLinked (w : Wiring) (l : GlobalListener) : Wiring :=
  if w.links (.own l) then w.unlink (.own l) else w

/-- `wl_list_init` -/
def listInit (w : Wiring) (head : ListHead) : Wiring :=
  { w with lists := Function.update w.lists head (some []) }

/-- The use of a list that may not have been initialised. -/
def useList (w : Wiring) (head : ListHead) : Wiring :=
  if (w.lists head).isSome then w else w.fault .uninitialised

def insert (w : Wiring) (head : ListHead) (n : Nat) : Wiring :=
  { w.useList head with
    lists := Function.update w.lists head ((w.lists head).map (n :: ·)) }

def remove (w : Wiring) (head : ListHead) (n : Nat) : Wiring :=
  { w with lists := Function.update w.lists head ((w.lists head).map (·.erase n)) }

def allocate (w : Wiring) (o : Obj) : Wiring :=
  { w with records := Function.update w.records o .live }

/-- `free` of the record of an object -/
def free (w : Wiring) (o : Obj) : Wiring :=
  let w := if o.kind.slots.any fun slot => w.links (.record o slot) then
      w.fault (.freedLinked o)
    else w
  { w with records := Function.update w.records o .freed }

/-- A handler reads the record that it is called for. -/
def enter (w : Wiring) (o : Obj) : Wiring :=
  if w.records o = .freed then w.fault (.calledFreed o) else w

def createGlobal (w : Wiring) (g : Global) : Wiring :=
  { w with alive := Function.update w.alive g true }

/-- An object of wlroots is destroyed; it asserts that nobody listens to it any more. -/
def destroyGlobal (w : Wiring) (g : Global) : Wiring :=
  let w := if globalListeners.any fun l => l.source = g && w.links (.own l) then
      w.fault (.listened g)
    else w
  { w with alive := Function.update w.alive g false }

section Links

variable (w : Wiring) (l' : Listener)

@[simp] theorem link_links (l : Listener) :
    (w.link l).links l' = (decide (l' = l) || w.links l') := by
  simp only [link, Function.update_apply]
  split <;> simp [*]

@[simp] theorem unlink_links (l : Listener) :
    (w.unlink l).links l' = (!decide (l' = l) && w.links l') := by
  simp only [unlink, Function.update_apply]
  split <;> simp [*]

@[simp] theorem register_links (l : GlobalListener) :
    (w.register l).links l' = (decide (l' = .own l) || w.links l') :=
  w.link_links l' (.own l)

@[simp] theorem unregister_links (l : GlobalListener) :
    (w.unregister l).links l' = (!decide (w.notify l = true ∧ l' = .own l) && w.links l') := by
  rw [unregister]
  split
  · next h =>
      refine (w.unlink_links l' (.own l)).trans ?_
      simp [h]
  · next h => simp [h]

@[simp] theorem destroyGlobal_links (g : Global) : (w.destroyGlobal g).links = w.links := by
  rw [destroyGlobal]
  split <;> rfl

@[simp] theorem destroyGlobal_notify (g : Global) : (w.destroyGlobal g).notify = w.notify := by
  rw [destroyGlobal]
  split <;> rfl

end Links

end Wiring

structure World where
  owned : Ownership
  wired : Wiring

def own (f : Ownership → Ownership) (s : World) : World :=
  { s with owned := f s.owned }

def wire (f : Wiring → Wiring) (s : World) : World :=
  { s with wired := f s.wired }

/-- `if (p) f(p);` -/
def wireIf (p : Pointer) (f : Wiring → Wiring) (s : World) : World :=
  { s with wired := if s.owned.has p then f s.wired else s.wired }

/-- `p = create(); if (!p) goto cleanup;` -/
def create (p : Pointer) (ok : Bool) : Fallible World Unit := do
  ensure ok
  update (own (·.acquire p))

/-- The creation of an object that belongs to the display. -/
def createGlobal (g : Global) (ok : Bool) : Fallible World Unit := do
  ensure ok
  update (wire (·.createGlobal g))

/-- The process when `zen_compositor_create` has cleared the structure. -/
def zeroed : World :=
  { owned :=
      { pointers := fun _ => none, keybindings := none, wallpaperState := none
        shellOverlayTree := false, wallpaperTree := false, locked := false
        next := 0, trace := [], misuses := [] }
    wired :=
      { links := fun _ => false, notify := fun _ => false, alive := fun _ => false
        lists := fun _ => none, records := fun _ => .none, objects := []
        attached := [], associated := [], keyboardCapability := false
        next := 0, faults := [] } }

end ZenOS.Lifecycle
