import Mathlib.Data.Rat.Defs
import Mathlib.Logic.Function.Basic

/-!
The state of the compositor: the fields of `struct ZenCompositor`, grouped by
the source file that owns them, the module-level state of `lock.c` and
`wallpaper.c`, and as much of wlroots as the handlers read back.  Types and functions
bear the source's names, in camel case; objects are named by their addresses.
-/

namespace ZenOS.Compositor

abbrev ToplevelId := Nat

abbrev SurfaceId := Nat

abbrev KeyboardId := Nat

abbrev LayerId := Nat

abbrev OutputId := Nat

abbrev SessionLockId := Nat

structure Box where
  x : Int
  y : Int
  width : Int
  height : Int
  deriving DecidableEq

/-- `struct ZenToplevel` with the part of its `wlr_xdg_toplevel` and of its scene
tree that the handlers use. -/
structure ZenToplevel where
  -- `xdg_toplevel->base`; the initial commit makes the surface initialised
  surface : SurfaceId
  initialized : Bool
  mapped : Bool
  -- what `wlr_xdg_toplevel_set_activated` was last given
  activated : Bool
  -- `xdg_toplevel->current`
  maximized : Bool
  fullscreen : Bool
  -- `scene_tree->node`
  nodeX : Int
  nodeY : Int
  nodeEnabled : Bool
  deriving DecidableEq

/-- The fields of the compositor that `xdg.c` maintains, and the interactive move
grab.  `heap` holds the allocated `ZenToplevel` records. -/
structure Windows where
  heap : ToplevelId → Option ZenToplevel
  toplevels : List ToplevelId
  focusedToplevel : Option ToplevelId
  grabbedToplevel : Option ToplevelId
  grabX : ℚ
  grabY : ℚ
  grabNodeX : Int
  grabNodeY : Int

/-- `struct wlr_seat`: its keyboard and the surfaces that hold its focus. -/
structure Seat where
  keyboard : Option KeyboardId
  keyboardFocus : Option SurfaceId
  pointerFocus : Option SurfaceId
  -- surface-local position of the last pointer enter or motion
  pointerX : ℚ
  pointerY : ℚ
  deriving DecidableEq

/-- Nodes of the scene graph. -/
inductive SceneNode where
  | root
  | background
  | toplevel (t : ToplevelId)
  -- a surface's buffer below the tree of a toplevel or layer surface
  | surfaceBuffer (surface : SurfaceId)
  | shellOverlayTree
  | testOverlay
  | layerSurface (l : LayerId)
  | lockBuffer
  -- a tree made by `zen_wallpaper_init`, and the wallpaper buffer of one output
  | wallpaperTree (n : Nat)
  | wallpaper (n : Nat)
  deriving DecidableEq

/-- The children of the scene's trees, bottom first. -/
structure Scene where
  root : List SceneNode
  overlay : List SceneNode
  wallpaper : Nat → List SceneNode
  -- next unused number of a wallpaper tree or wallpaper buffer
  nextNode : Nat

/-- `struct wlr_output` together with its entry in the output layout. -/
structure Output where
  id : OutputId
  enabled : Bool
  width : Int
  height : Int
  -- the transform swaps the axes
  transposed : Bool
  scale : ℚ
  x : Int
  y : Int
  deriving DecidableEq

/-- `struct ZenLayerSurface` and the part of its `wlr_layer_surface_v1` in use. -/
structure ZenLayerSurface where
  initialized : Bool
  nodeEnabled : Bool
  deriving DecidableEq

inductive ZenKeybindAction where
  | launchTerminal
  | toggleLauncher
  | lockScreen
  | switchWindow
  | closeWindow
  | custom
  deriving DecidableEq

structure ZenKeybinding where
  modifiers : UInt32
  keysym : UInt32
  action : ZenKeybindAction
  customCmd : Option String
  deriving DecidableEq

abbrev zenLockPassMax : Nat := 255

def zenLockIdleTimeoutMs : Nat := 300000

/-- `struct ZenLockScreen`.  The lock buffer is given by the box of its scene node. -/
structure ZenLockScreen where
  wlrLock : Option SessionLockId
  lockBuffer : Option Box
  width : Int
  height : Int
  showError : Bool
  deriving DecidableEq

/-- `compositor->locked`, `compositor->active_lock` and the statics of `lock.c`. -/
structure LockState where
  locked : Bool
  activeLock : Option SessionLockId
  screen : ZenLockScreen
  -- `s_password`, `s_password_len`
  password : Vector UInt8 (zenLockPassMax + 1)
  passwordLen : Nat
  -- `s_idle_timer` was created
  idleTimer : Bool
  -- how often PAM has been asked so far
  pamAttempts : Nat

/-- `struct wlr_keyboard_modifiers` -/
structure KeyboardModifiers where
  depressed : UInt32
  latched : UInt32
  locked : UInt32
  group : UInt32
  deriving DecidableEq

def KeyboardModifiers.zero : KeyboardModifiers :=
  ⟨0, 0, 0, 0⟩

/-- What the compositor does to the outside while it handles an event.  A call
that schedules a configure records whether its target was initialised. -/
inductive Call where
  | keyboardEnter (surface : SurfaceId) (keycodes : List UInt32)
  | keyboardLeave (surface : SurfaceId)
  | keyboardModifiers (surface : SurfaceId) (modifiers : KeyboardModifiers)
  | keyboardKey (surface : SurfaceId) (keycode : UInt32) (pressed : Bool)
  | pointerEnter (surface : SurfaceId)
  | pointerLeave (surface : SurfaceId)
  | pointerMotion (surface : SurfaceId)
  | pointerButton (surface : SurfaceId) (pressed : Bool)
  | setActivated (t : ToplevelId) (activated initialized : Bool)
  | setSize (t : ToplevelId) (width height : Int) (initialized : Bool)
  | setMaximized (t : ToplevelId) (maximized initialized : Bool)
  | setFullscreen (t : ToplevelId) (fullscreen initialized : Bool)
  | layerConfigure (l : LayerId) (width height : Int) (initialized : Bool)
  | sendClose (t : ToplevelId)
  | sendLocked (lock : SessionLockId)
  | sessionLockDestroy (lock : SessionLockId)
  | pamAuthenticate (password : List UInt8) (success : Bool)
  | timerUpdate (ms : Nat)
  /-- `fork`, for a child that tries to execute these programs one after another -/
  | fork (programs : List (List String))
  deriving DecidableEq

/-- `struct ZenCompositor` and the module state behind it.  `calls` holds what has
been done to the outside since the current event arrived. -/
structure ZenCompositor where
  windows : Windows
  seat : Seat
  cursorX : ℚ
  cursorY : ℚ
  keyboards : List KeyboardId
  -- `keycodes` and `modifiers` of each `wlr_keyboard`: what is held
  keycodes : KeyboardId → List UInt32
  modifiers : KeyboardId → KeyboardModifiers
  keybindings : List ZenKeybinding
  scene : Scene
  outputLayout : List Output
  layerSurfaces : LayerId → Option ZenLayerSurface
  -- whether the pointer `shell_overlay_tree` is not NULL
  shellOverlayTree : Bool
  wallpaperTree : Option Nat
  -- `g_wallpaper_state`: the scene buffers of its outputs
  wallpaperState : Option (List Nat)
  testOverlay : Bool
  lock : LockState
  calls : List Call

end ZenOS.Compositor
