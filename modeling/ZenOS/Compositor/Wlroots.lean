import ZenOS.Compositor.State

/-!
The wlroots calls of the compositor, as far as their effect is read back by a
handler or seen by a client.  Every client is taken to have bound the seat.
-/

namespace ZenOS.Compositor

def truncToInt (q : ℚ) : Int :=
  q.num.tdiv q.den

def Output.effectiveResolution (o : Output) : Int × Int :=
  if o.transposed then
    (truncToInt (o.height / o.scale), truncToInt (o.width / o.scale))
  else
    (truncToInt (o.width / o.scale), truncToInt (o.height / o.scale))

/-- The box an output occupies in the layout. -/
def Output.box (o : Output) : Box :=
  { x := o.x, y := o.y
    width := o.effectiveResolution.1, height := o.effectiveResolution.2 }

/-- `wlr_box_contains_point` -/
def Box.containsPoint (b : Box) (x y : ℚ) : Bool :=
  0 < b.width && 0 < b.height &&
    (b.x : ℚ) ≤ x && x < (b.x + b.width : ℚ) &&
    (b.y : ℚ) ≤ y && y < (b.y + b.height : ℚ)

def wlrOutputLayoutOutputAt (layout : List Output) (x y : ℚ) : Option OutputId :=
  (layout.find? fun o => o.box.containsPoint x y).map (·.id)

/-- `wlr_output_layout_get_box`: an output outside the layout has an empty box. -/
def wlrOutputLayoutGetBox (layout : List Output) (id : OutputId) : Box :=
  match layout.find? fun o => o.id == id with
  | some o => o.box
  | none => { x := 0, y := 0, width := 0, height := 0 }

/-- The layout positions its outputs anew whenever one of them changes. -/
def arrange (place : OutputId → Int × Int) (layout : List Output) : List Output :=
  layout.map fun o => { o with x := (place o.id).1, y := (place o.id).2 }

def Scene.children (sc : Scene) : SceneNode → List SceneNode
  | .root => sc.root
  | .shellOverlayTree => sc.overlay
  | .wallpaperTree n => sc.wallpaper n
  | _ => []

def Scene.setChildren (sc : Scene) (parent : SceneNode)
    (children : List SceneNode) : Scene :=
  match parent with
  | .root => { sc with root := children }
  | .shellOverlayTree => { sc with overlay := children }
  | .wallpaperTree n => { sc with wallpaper := Function.update sc.wallpaper n children }
  | _ => sc

/-- A created node becomes the topmost child of its parent. -/
def Scene.create (sc : Scene) (parent node : SceneNode) : Scene :=
  sc.setChildren parent (sc.children parent ++ [node])

/-- `wlr_scene_node_destroy` -/
def Scene.destroy (sc : Scene) (parent node : SceneNode) : Scene :=
  sc.setChildren parent ((sc.children parent).erase node)

/-- `wlr_scene_node_raise_to_top`: the node moves above its siblings. -/
def Scene.raiseToTop (sc : Scene) (parent node : SceneNode) : Scene :=
  if node ∈ sc.children parent then
    sc.setChildren parent ((sc.children parent).erase node ++ [node])
  else sc

/-- What a child of the root paints: a plain tree paints its children. -/
def Scene.painted (sc : Scene) : SceneNode → List SceneNode
  | .shellOverlayTree => sc.overlay
  | .wallpaperTree n => sc.wallpaper n
  | node => [node]

/-- The nodes in the order in which the scene paints them, depth first. -/
def Scene.paintOrder (sc : Scene) : List SceneNode :=
  sc.root.flatMap sc.painted

/-- `node->data`: only the scene tree of a toplevel carries a back-pointer. -/
def SceneNode.data : SceneNode → Option ToplevelId
  | .toplevel t => some t
  | _ => none

def Windows.modify (w : Windows) (t : ToplevelId) (f : ZenToplevel → ZenToplevel) :
    Windows :=
  { w with heap := Function.update w.heap t ((w.heap t).map f) }

/-- The toplevel's xdg surface has made its initial commit. -/
def Windows.initialized (w : Windows) (t : ToplevelId) : Bool :=
  (w.heap t).any (·.initialized)

def Windows.mapped (w : Windows) (t : ToplevelId) : Bool :=
  (w.heap t).any (·.mapped)

def wlrXdgToplevelSetActivated (s : ZenCompositor) (t : ToplevelId)
    (activated : Bool) : ZenCompositor :=
  { s with
    windows := s.windows.modify t fun r => { r with activated := activated }
    calls := s.calls ++ [.setActivated t activated (s.windows.initialized t)] }

def wlrXdgToplevelSetSize (s : ZenCompositor) (t : ToplevelId)
    (width height : Int) : ZenCompositor :=
  { s with calls := s.calls ++ [.setSize t width height (s.windows.initialized t)] }

def wlrXdgToplevelSetMaximized (s : ZenCompositor) (t : ToplevelId)
    (maximized : Bool) : ZenCompositor :=
  { s with calls := s.calls ++ [.setMaximized t maximized (s.windows.initialized t)] }

def wlrXdgToplevelSetFullscreen (s : ZenCompositor) (t : ToplevelId)
    (fullscreen : Bool) : ZenCompositor :=
  { s with calls := s.calls ++ [.setFullscreen t fullscreen (s.windows.initialized t)] }

/-- `wlr_scene_node_set_position` on the scene tree of a toplevel -/
def wlrSceneNodeSetPosition (s : ZenCompositor) (t : ToplevelId) (x y : Int) :
    ZenCompositor :=
  { s with windows := s.windows.modify t fun r => { r with nodeX := x, nodeY := y } }

/-- `wlr_scene_node_set_enabled` on the scene tree of a toplevel -/
def wlrSceneNodeSetEnabled (s : ZenCompositor) (t : ToplevelId) (enabled : Bool) :
    ZenCompositor :=
  { s with windows := s.windows.modify t fun r => { r with nodeEnabled := enabled } }

/-- What a `wlr_keyboard` records of a key event before it emits it. -/
def wlrKeyboardUpdate (s : ZenCompositor) (k : KeyboardId) (keycode : UInt32)
    (pressed : Bool) : ZenCompositor :=
  { s with
    keycodes := Function.update s.keycodes k
      (if pressed then (s.keycodes k).insert keycode else (s.keycodes k).erase keycode) }

/-- The modifiers that a `wlr_keyboard` emits it has recorded before. -/
def wlrKeyboardUpdateModifiers (s : ZenCompositor) (k : KeyboardId)
    (modifiers : KeyboardModifiers) : ZenCompositor :=
  { s with modifiers := Function.update s.modifiers k modifiers }

/-- A new `wlr_keyboard`: nothing is held. -/
def wlrKeyboardInit (s : ZenCompositor) (k : KeyboardId) : ZenCompositor :=
  { s with
    keycodes := Function.update s.keycodes k []
    modifiers := Function.update s.modifiers k .zero }

/-- `struct wlr_keyboard_grab_interface`: what becomes of the notifications of the keyboard. -/
structure KeyboardGrab where
  enter : ZenCompositor → SurfaceId → List UInt32 → KeyboardModifiers → ZenCompositor
  clearFocus : ZenCompositor → ZenCompositor
  key : ZenCompositor → UInt32 → Bool → ZenCompositor
  modifiers : ZenCompositor → KeyboardModifiers → ZenCompositor

/-- `struct wlr_pointer_grab_interface` -/
structure PointerGrab where
  enter : ZenCompositor → SurfaceId → ℚ → ℚ → ZenCompositor
  clearFocus : ZenCompositor → ZenCompositor
  motion : ZenCompositor → ℚ → ℚ → ZenCompositor
  button : ZenCompositor → Bool → ZenCompositor

/-- `default_keyboard_grab_impl` -/
def defaultKeyboardGrab : KeyboardGrab where
  enter s surface keycodes modifiers :=
    if s.seat.keyboardFocus = some surface then s
    else
      { s with
        seat := { s.seat with keyboardFocus := some surface }
        calls := s.calls ++ (s.seat.keyboardFocus.map Call.keyboardLeave).toList ++
          [.keyboardEnter surface keycodes, .keyboardModifiers surface modifiers] }
  clearFocus s :=
    { s with
      seat := { s.seat with keyboardFocus := none }
      calls := s.calls ++ (s.seat.keyboardFocus.map Call.keyboardLeave).toList }
  key s keycode pressed :=
    { s with
      calls := s.calls ++
        (s.seat.keyboardFocus.map fun f => Call.keyboardKey f keycode pressed).toList }
  modifiers s modifiers :=
    { s with
      calls := s.calls ++
        (s.seat.keyboardFocus.map fun f => Call.keyboardModifiers f modifiers).toList }

/-- `default_pointer_grab_impl`; a position the client already has is not sent again. -/
def defaultPointerGrab : PointerGrab where
  enter s surface sx sy :=
    if s.seat.pointerFocus = some surface then s
    else
      { s with
        seat := { s.seat with
          pointerFocus := some surface, pointerX := sx, pointerY := sy }
        calls := s.calls ++ (s.seat.pointerFocus.map Call.pointerLeave).toList ++
          [.pointerEnter surface] }
  clearFocus s :=
    { s with
      seat := { s.seat with pointerFocus := none }
      calls := s.calls ++ (s.seat.pointerFocus.map Call.pointerLeave).toList }
  motion s sx sy :=
    match s.seat.pointerFocus with
    | none => s
    | some surface =>
        if s.seat.pointerX = sx ∧ s.seat.pointerY = sy then s
        else
          { s with
            seat := { s.seat with pointerX := sx, pointerY := sy }
            calls := s.calls ++ [.pointerMotion surface] }
  button s pressed :=
    { s with
      calls := s.calls ++
        (s.seat.pointerFocus.map fun f => Call.pointerButton f pressed).toList }

/-- The grabs of the seat. -/
structure Grabs where
  keyboard : KeyboardGrab
  pointer : PointerGrab

/-- No client has a popup or drags data, and so nobody has taken the grabs over. -/
def seatGrabs : Grabs where
  keyboard := defaultKeyboardGrab
  pointer := defaultPointerGrab

def wlrSeatKeyboardNotifyEnter (s : ZenCompositor) (surface : SurfaceId)
    (keycodes : List UInt32) (modifiers : KeyboardModifiers) : ZenCompositor :=
  seatGrabs.keyboard.enter s surface keycodes modifiers

def wlrSeatKeyboardNotifyClearFocus (s : ZenCompositor) : ZenCompositor :=
  seatGrabs.keyboard.clearFocus s

def wlrSeatKeyboardNotifyModifiers (s : ZenCompositor) (modifiers : KeyboardModifiers) :
    ZenCompositor :=
  seatGrabs.keyboard.modifiers s modifiers

def wlrSeatKeyboardNotifyKey (s : ZenCompositor) (keycode : UInt32) (pressed : Bool) :
    ZenCompositor :=
  seatGrabs.keyboard.key s keycode pressed

/-- `wlr_seat_set_keyboard`: a keyboard that is not yet the seat's is announced
with its modifiers to the client that holds the focus. -/
def wlrSeatSetKeyboard (s : ZenCompositor) (k : KeyboardId) : ZenCompositor :=
  if s.seat.keyboard = some k then s
  else
    { s with
      seat := { s.seat with keyboard := some k }
      calls := s.calls ++
        (s.seat.keyboardFocus.map fun f => Call.keyboardModifiers f (s.modifiers k)).toList }

def wlrSeatPointerNotifyEnter (s : ZenCompositor) (surface : SurfaceId) (sx sy : ℚ) :
    ZenCompositor :=
  seatGrabs.pointer.enter s surface sx sy

def wlrSeatPointerNotifyMotion (s : ZenCompositor) (sx sy : ℚ) : ZenCompositor :=
  seatGrabs.pointer.motion s sx sy

def wlrSeatPointerNotifyClearFocus (s : ZenCompositor) : ZenCompositor :=
  seatGrabs.pointer.clearFocus s

def wlrSeatPointerNotifyButton (s : ZenCompositor) (pressed : Bool) : ZenCompositor :=
  seatGrabs.pointer.button s pressed

section Grabs

variable (s : ZenCompositor)

theorem wlrSeatKeyboardNotifyEnter_eq (surface : SurfaceId) (keycodes : List UInt32)
    (modifiers : KeyboardModifiers) :
    wlrSeatKeyboardNotifyEnter s surface keycodes modifiers =
      if s.seat.keyboardFocus = some surface then s
      else
        { s with
          seat := { s.seat with keyboardFocus := some surface }
          calls := s.calls ++ (s.seat.keyboardFocus.map Call.keyboardLeave).toList ++
            [.keyboardEnter surface keycodes, .keyboardModifiers surface modifiers] } :=
  rfl

theorem wlrSeatKeyboardNotifyClearFocus_eq :
    wlrSeatKeyboardNotifyClearFocus s =
      { s with
        seat := { s.seat with keyboardFocus := none }
        calls := s.calls ++ (s.seat.keyboardFocus.map Call.keyboardLeave).toList } :=
  rfl

theorem wlrSeatKeyboardNotifyKey_eq (keycode : UInt32) (pressed : Bool) :
    wlrSeatKeyboardNotifyKey s keycode pressed =
      { s with
        calls := s.calls ++
          (s.seat.keyboardFocus.map fun f => Call.keyboardKey f keycode pressed).toList } :=
  rfl

theorem wlrSeatKeyboardNotifyModifiers_eq (modifiers : KeyboardModifiers) :
    wlrSeatKeyboardNotifyModifiers s modifiers =
      { s with
        calls := s.calls ++
          (s.seat.keyboardFocus.map fun f => Call.keyboardModifiers f modifiers).toList } :=
  rfl

theorem wlrSeatPointerNotifyEnter_eq (surface : SurfaceId) (sx sy : ℚ) :
    wlrSeatPointerNotifyEnter s surface sx sy =
      if s.seat.pointerFocus = some surface then s
      else
        { s with
          seat := { s.seat with
            pointerFocus := some surface, pointerX := sx, pointerY := sy }
          calls := s.calls ++ (s.seat.pointerFocus.map Call.pointerLeave).toList ++
            [.pointerEnter surface] } :=
  rfl

theorem wlrSeatPointerNotifyClearFocus_eq :
    wlrSeatPointerNotifyClearFocus s =
      { s with
        seat := { s.seat with pointerFocus := none }
        calls := s.calls ++ (s.seat.pointerFocus.map Call.pointerLeave).toList } :=
  rfl

theorem wlrSeatPointerNotifyMotion_eq (sx sy : ℚ) :
    wlrSeatPointerNotifyMotion s sx sy =
      match s.seat.pointerFocus with
      | none => s
      | some surface =>
          if s.seat.pointerX = sx ∧ s.seat.pointerY = sy then s
          else
            { s with
              seat := { s.seat with pointerX := sx, pointerY := sy }
              calls := s.calls ++ [.pointerMotion surface] } :=
  rfl

theorem wlrSeatPointerNotifyButton_eq (pressed : Bool) :
    wlrSeatPointerNotifyButton s pressed =
      { s with
        calls := s.calls ++
          (s.seat.pointerFocus.map fun f => Call.pointerButton f pressed).toList } :=
  rfl

end Grabs

end ZenOS.Compositor
