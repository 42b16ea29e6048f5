import ZenOS.Compositor.KeyboardSelection

/-!
`xwayland.c`, with what it shares with the other windows: the keyboard focus of the seat,
and the scene graph with the data pointers of its nodes, from which a click on the screen
finds its toplevel.
-/

namespace ZenOS.Compositor.Xwayland

open ZenOS.Library.Runs

abbrev XwsId := Nat

structure SceneSurface where
  enabled : Bool
  deriving DecidableEq

/-- `struct ZenXWaylandSurface` with the part of its `wlr_xwayland_surface` in use. -/
structure ZenXWaylandSurface where
  -- `xwayland_surface->surface`, and whether it is mapped
  surface : Option SurfaceId
  mapped : Bool
  sceneSurface : Option SceneSurface
  -- the map and unmap listeners are on the surface
  listening : Bool
  deriving DecidableEq

/-- What the data pointer of a node points to. -/
inductive Record where
  | toplevel (t : ToplevelId)
  | xwayland (x : XwsId)
  deriving DecidableEq

/-- Nodes of the scene graph: those of the other modules, and the ones that they do not
tell apart. -/
inductive GraphNode where
  | scene (node : SceneNode)
  | xdgTree (n : Nat)
  | xwayland (x : XwsId)
  -- what wlroots puts below the tree of a client's surface
  | inner (tree : GraphNode) (n : Nat)
  deriving DecidableEq

/-- The compositor with its X11 windows and the data pointers of its scene graph. -/
structure Bridge where
  compositor : ZenCompositor
  xwaylandSurfaces : XwsId → Option ZenXWaylandSurface
  xdgTrees : List Nat
  -- `node->data`
  data : GraphNode → Option Record
  -- a record was used as one of another type, or after it was freed
  corrupted : Bool

/-- The tree of a client's surface, below which wlroots keeps its subsurfaces. -/
def GraphNode.OfClient : GraphNode → Prop
  | .scene (.toplevel _) | .scene (.layerSurface _) | .xdgTree _ | .inner .. => True
  | _ => False

def Bridge.Child (p : Bridge) : GraphNode → GraphNode → Prop
  | .scene parent, .scene node => node ∈ p.compositor.scene.children parent
  | .scene .root, .xdgTree n => n ∈ p.xdgTrees
  | .scene .root, .xwayland x => ∃ r ∈ p.xwaylandSurfaces x, r.sceneSurface.isSome
  | parent, .inner tree _ => parent = tree ∧ tree.OfClient
  | _, _ => False

/-- A node of the scene graph with its ancestors, innermost first. -/
inductive Bridge.InGraph (p : Bridge) : List GraphNode → Prop where
  | root : p.InGraph [.scene .root]
  | child {node parent : GraphNode} {ancestors : List GraphNode}
      (h : p.InGraph (parent :: ancestors)) (hchild : p.Child parent node) :
      p.InGraph (node :: parent :: ancestors)

/-- `toplevel_at_scene_node`: what the first data pointer on the way up points to. -/
def toplevelAtSceneNode (data : GraphNode → Option Record) : List GraphNode → Option Record
  | [] => none
  | node :: ancestors =>
      match data node with
      | some r => some r
      | none => toplevelAtSceneNode data ancestors

def Bridge.modify (p : Bridge) (x : XwsId) (f : ZenXWaylandSurface → ZenXWaylandSurface) :
    Bridge :=
  { p with xwaylandSurfaces :=
      Function.update p.xwaylandSurfaces x ((p.xwaylandSurfaces x).map f) }

def Bridge.surfaceOf (p : Bridge) (x : XwsId) : Option SurfaceId :=
  (p.xwaylandSurfaces x).bind (·.surface)

/-- `wlr_scene_node_set_enabled` on the node of an X11 window, if there is one -/
def Bridge.setEnabled (p : Bridge) (x : XwsId) (enabled : Bool) : Bridge :=
  p.modify x fun r => { r with sceneSurface := r.sceneSurface.map fun _ => { enabled } }

/-- `handle_new_xwayland_surface`; `ok` says whether the record can be allocated. -/
def handleNewXwaylandSurface (p : Bridge) (x : XwsId) (ok : Bool) : Bridge :=
  if ok then
    { p with xwaylandSurfaces := Function.update p.xwaylandSurfaces x (some
        { surface := none, mapped := false, sceneSurface := none, listening := false }) }
  else p

/-- `handle_xws_associate`; `ok` says whether the scene node can be created. -/
def handleXwsAssociate (p : Bridge) (x : XwsId) (ok : Bool) : Bridge :=
  if ok then
    let p := p.modify x fun r => { r with sceneSurface := some { enabled := true } }
    let p := { p with data := Function.update p.data (.xwayland x) (some (.xwayland x)) }
    p.modify x fun r => { r with listening := true }
  else p

/-- The end of `handle_xws_dissociate` and of `handle_xws_destroy`: the listeners on the
surface and the scene node go. -/
def Bridge.release (p : Bridge) (x : XwsId) : Bridge :=
  let p := p.modify x fun r => { r with listening := false }
  let p := p.modify x fun r => { r with sceneSurface := none }
  { p with data := Function.update p.data (.xwayland x) none }

def handleXwsDissociate (p : Bridge) (x : XwsId) : Bridge :=
  p.release x

def handleXwsDestroy (p : Bridge) (x : XwsId) : Bridge :=
  let p := p.release x
  { p with xwaylandSurfaces := Function.update p.xwaylandSurfaces x none }

/-- `handle_xws_map`; `wlr_xwayland_surface_activate` tells Xwayland, not the seat. -/
def handleXwsMap (p : Bridge) (x : XwsId) : Bridge :=
  let p := p.setEnabled x true
  match p.surfaceOf x, p.compositor.seat.keyboard with
  | some surface, some k =>
      { p with
        compositor := wlrSeatKeyboardNotifyEnter p.compositor surface
          (p.compositor.keycodes k) (p.compositor.modifiers k) }
  | _, _ => p

def handleXwsUnmap (p : Bridge) (x : XwsId) : Bridge :=
  let p := p.setEnabled x false
  -- whichever surface holds the focus
  { p with compositor := wlrSeatKeyboardNotifyClearFocus p.compositor }

/-- A hit on the tree of a toplevel. -/
def toplevelHit (t : ToplevelId) : Hit :=
  { nodes := [.toplevel t], surface := none, sx := 0, sy := 0 }

/-- `handle_cursor_button`, with the node under the cursor.  The data pointer that it finds
is taken for that of a toplevel. -/
def handleCursorButton (p : Bridge) (pressed : Bool) (node : Option (List GraphNode)) :
    Bridge :=
  match if pressed then node.bind (toplevelAtSceneNode p.data) else none with
  | none =>
      { p with compositor := step p.compositor (.cursorButton pressed none) }
  | some (.toplevel t) =>
      if p.compositor.windows.Live t then
        { p with
          compositor := step p.compositor (.cursorButton pressed (some (toplevelHit t))) }
      else { p with corrupted := true }
  | some (.xwayland _) => { p with corrupted := true }

inductive BridgeEvent where
  /-- an event of the other modules; `destroy` destroys the xdg surface too -/
  | compositor (e : Event)
  | cursorButton (pressed : Bool) (node : Option (List GraphNode))
  /-- a toplevel is destroyed, and its xdg surface stays with its scene tree -/
  | toplevelDestroy (t : ToplevelId) (tree : Nat)
  | xdgSurfaceDestroy (tree : Nat)
  | newXwaylandSurface (x : XwsId) (ok : Bool)
  | associate (x : XwsId) (surface : SurfaceId) (ok : Bool)
  | dissociate (x : XwsId)
  | xwsMap (x : XwsId)
  | xwsUnmap (x : XwsId)
  | xwsDestroy (x : XwsId)

/-- What the other modules write to `node->data`.  A node that is destroyed takes its
pointer along. -/
def nodeData (data : GraphNode → Option Record) : Event → GraphNode → Option Record
  | .newToplevel t _ true =>
      Function.update data (.scene (.toplevel t)) (some (.toplevel t))
  | .destroy t => Function.update data (.scene (.toplevel t)) none
  | _ => data

def Bridge.listens (p : Bridge) (x : XwsId) : Bool :=
  (p.xwaylandSurfaces x).any (·.listening)

/-- The handler of an event, with what wlroots records of the X11 window before and after
it. -/
def handleBridge (p : Bridge) : BridgeEvent → Bridge
  | .compositor e =>
      { p with compositor := step p.compositor e, data := nodeData p.data e }
  | .cursorButton pressed node => handleCursorButton p pressed node
  | .toplevelDestroy t tree =>
      let data := p.data (.scene (.toplevel t))
      { p with
        compositor := step p.compositor (.destroy t)
        xdgTrees := tree :: p.xdgTrees
        data := Function.update (Function.update p.data (.scene (.toplevel t)) none)
          (.xdgTree tree) data }
  | .xdgSurfaceDestroy tree =>
      { p with
        xdgTrees := p.xdgTrees.erase tree
        data := Function.update p.data (.xdgTree tree) none }
  | .newXwaylandSurface x ok => handleNewXwaylandSurface p x ok
  | .associate x surface ok =>
      handleXwsAssociate (p.modify x fun r => { r with surface := some surface }) x ok
  | .dissociate x => (handleXwsDissociate p x).modify x fun r => { r with surface := none }
  | .xwsMap x =>
      let p := p.modify x fun r => { r with mapped := true }
      if p.listens x then handleXwsMap p x else p
  | .xwsUnmap x =>
      let p := p.modify x fun r => { r with mapped := false }
      if p.listens x then handleXwsUnmap p x else p
  | .xwsDestroy x => handleXwsDestroy p x

/-- Once a record has been misused nothing is known any more. -/
def stepBridge (p : Bridge) (e : BridgeEvent) : Bridge :=
  if p.corrupted then p
  else handleBridge { p with compositor := { p.compositor with calls := [] } } e

theorem stepBridge_of_sound {p : Bridge} (h : p.corrupted = false) (e : BridgeEvent) :
    stepBridge p e =
      handleBridge { p with compositor := { p.compositor with calls := [] } } e :=
  if_neg (by rw [h]; simp)

/-- `zen_xwayland_init`, in the state that `zen_compositor_create` leaves. -/
def bridgeCreated (s : ZenCompositor) : Bridge :=
  { compositor := s, xwaylandSurfaces := fun _ => none, xdgTrees := []
    data := fun _ => none, corrupted := false }

/-- The events that can arrive in a state.  The pointer is over a node of the scene graph
if it is over any; a surface of an X11 window is associated, mapped, unmapped and
dissociated in this order. -/
def BridgeAdmissible (p : Bridge) : BridgeEvent → Prop
  | .compositor (.cursorButton ..) | .compositor (.focus _) => False
  | .compositor e => Admissible p.compositor e
  | .cursorButton _ node => ∀ chain ∈ node, p.InGraph chain
  | .toplevelDestroy t tree => p.compositor.windows.Live t ∧ tree ∉ p.xdgTrees
  | .xdgSurfaceDestroy tree => tree ∈ p.xdgTrees
  | .newXwaylandSurface x _ => p.xwaylandSurfaces x = none
  | .associate x _ _ => ∃ r ∈ p.xwaylandSurfaces x, r.surface = none
  | .xwsMap x => ∃ r ∈ p.xwaylandSurfaces x, r.surface.isSome ∧ r.mapped = false
  | .xwsUnmap x => ∃ r ∈ p.xwaylandSurfaces x, r.mapped = true
  | .dissociate x => ∃ r ∈ p.xwaylandSurfaces x, r.surface.isSome ∧ r.mapped = false
  | .xwsDestroy x => ∃ r ∈ p.xwaylandSurfaces x, r.surface = none

end ZenOS.Compositor.Xwayland
