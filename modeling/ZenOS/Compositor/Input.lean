import ZenOS.Compositor.Keybinds
import ZenOS.Compositor.Xdg

/-!
`input.c`: keyboards, pointer and the routing of their events.
-/

namespace ZenOS.Compositor

/-- What `wlr_scene_node_at` finds under the cursor: the node with its ancestors,
innermost first, the client surface when the node shows one, and the position on
it. -/
structure Hit where
  nodes : List SceneNode
  surface : Option SurfaceId
  sx : ℚ
  sy : ℚ
  deriving DecidableEq

/-- `toplevel_at_scene_node`: walk up to the first node with a back-pointer. -/
def toplevelAtSceneNode : List SceneNode → Option ToplevelId
  | [] => none
  | node :: ancestors =>
      match node.data with
      | some t => some t
      | none => toplevelAtSceneNode ancestors

def toplevelAtHit (hit : Option Hit) : Option ToplevelId :=
  match hit with
  | some h => toplevelAtSceneNode h.nodes
  | none => none

/-- The key press loop of `handle_keyboard_key`: the first keysym with a binding
consumes the event. -/
def handleKeybindingSyms (s : ZenCompositor) (modifiers : UInt32) (bufferOk : Bool) :
    List UInt32 → ZenCompositor × Bool
  | [] => (s, false)
  | keysym :: syms =>
      match zenKeybindsHandleKey s modifiers keysym bufferOk with
      | (s, true) => (s, true)
      | (s, false) => handleKeybindingSyms s modifiers bufferOk syms

/-- The loop of `handle_keyboard_key` while the screen is locked. -/
def handleLockedSyms (s : ZenCompositor) (pressed : Bool)
    (pam : Nat → List UInt8 → Bool) (syms : List UInt32) : ZenCompositor :=
  syms.foldl (fun s keysym => (zenLockHandleKey s keysym pressed pam).1) s

def handleKeyboardKey (s : ZenCompositor) (keycode : UInt32) (syms : List UInt32)
    (pressed : Bool) (modifiers : UInt32) (bufferOk : Bool)
    (pam : Nat → List UInt8 → Bool) : ZenCompositor :=
  if s.lock.locked then handleLockedSyms s pressed pam syms
  else
    let (s, consumed) :=
      if pressed then handleKeybindingSyms s modifiers bufferOk syms else (s, false)
    if !consumed then wlrSeatKeyboardNotifyKey s keycode pressed else s

def handleKeyboardModifiers (s : ZenCompositor) (k : KeyboardId) : ZenCompositor :=
  wlrSeatKeyboardNotifyModifiers (wlrSeatSetKeyboard s k) (s.modifiers k)

/-- `handle_keyboard_destroy`; the seat drops a destroyed keyboard. -/
def handleKeyboardDestroy (s : ZenCompositor) (k : KeyboardId) : ZenCompositor :=
  { s with
    keyboards := s.keyboards.erase k
    seat := if s.seat.keyboard = some k then { s.seat with keyboard := none } else s.seat }

/-- The keyboard case of `handle_new_input`; `ok` says whether the record can be
allocated. -/
def handleNewKeyboard (s : ZenCompositor) (k : KeyboardId) (ok : Bool) :
    ZenCompositor :=
  if ok then
    let s := wlrSeatSetKeyboard s k
    { s with keyboards := k :: s.keyboards }
  else s

def zenInputProcessCursorMotion (s : ZenCompositor) (hit : Option Hit) :
    ZenCompositor :=
  match s.windows.grabbedToplevel with
  | some g =>
      -- no pointer focus changes during a drag
      let newX := s.windows.grabNodeX + truncToInt (s.cursorX - s.windows.grabX)
      let newY := s.windows.grabNodeY + truncToInt (s.cursorY - s.windows.grabY)
      wlrSceneNodeSetPosition s g newX newY
  | none =>
      match hit with
      | some { surface := some surface, sx, sy, .. } =>
          wlrSeatPointerNotifyMotion (wlrSeatPointerNotifyEnter s surface sx sy) sx sy
      | _ => wlrSeatPointerNotifyClearFocus s

/-- `handle_cursor_motion` and `handle_cursor_motion_absolute`, which differ only in
how wlroots computes the new cursor position. -/
def handleCursorMotion (s : ZenCompositor) (x y : ℚ) (hit : Option Hit) :
    ZenCompositor :=
  zenInputProcessCursorMotion { s with cursorX := x, cursorY := y } hit

def handleCursorButton (s : ZenCompositor) (pressed : Bool) (hit : Option Hit) :
    ZenCompositor :=
  let s :=
    if !pressed && s.windows.grabbedToplevel.isSome then
      { s with windows := { s.windows with
        grabbedToplevel := none, grabX := 0, grabY := 0,
        grabNodeX := 0, grabNodeY := 0 } }
    else s
  let s :=
    if pressed then
      match toplevelAtHit hit with
      | some t => zenXdgFocusToplevel s (some t)
      | none => s
    else s
  wlrSeatPointerNotifyButton s pressed

end ZenOS.Compositor
