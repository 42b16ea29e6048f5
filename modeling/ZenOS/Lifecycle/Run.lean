import ZenOS.Lifecycle.Modules

/-!
`main.c`: the nineteen steps of `zen_compositor_create`, the run, and
`zen_compositor_destroy`.
-/

namespace ZenOS.Lifecycle

open ZenOS.Library.Programs ZenOS.Library.Ownership

/-- A new object, with which of the allocations for it succeed. -/
inductive Arrival where
  | toplevel (allocs : XdgAllocs)
  | layerSurface (allocs : XdgAllocs)
  | xwaylandSurface (ok : Bool)
  | output (allocs : OutputAllocs)
  | device (type : DeviceType) (ok : Bool)

def Arrival.kind : Arrival → Kind
  | .toplevel _ => .toplevel
  | .layerSurface _ => .layerSurface
  | .xwaylandSurface _ => .xwaylandSurface
  | .output _ => .output
  | .device type _ => .device type

/-- The listener that is told of a new object. -/
def Arrival.listener : Arrival → GlobalListener
  | .toplevel _ => .newXdgToplevel
  | .layerSurface _ => .newLayerSurface
  | .xwaylandSurface _ => .newXwaylandSurface
  | .output _ => .newOutput
  | .device .. => .newInput

/-- The handler of a new object. -/
def handleArrival (o : Obj) (s : World) : Arrival → World
  | .toplevel allocs => wire (handleNewXdgToplevel · o allocs) s
  | .layerSurface allocs => wire (handleNewLayerSurface · o allocs) s
  | .xwaylandSurface ok => wire (handleNewXwaylandSurface · o ok) s
  | .output allocs => handleNewOutput o allocs s
  | .device _ ok => wire (handleNewInput · o ok) s

def Wiring.announce (w : Wiring) (o : Obj) : Wiring :=
  { w with objects := o :: w.objects, next := w.next + 1 }

/-- wlroots announces an object to whoever listens. -/
def arrive (s : World) (a : Arrival) : World :=
  let o : Obj := ⟨a.kind, s.wired.next⟩
  let s := wire (·.announce o) s
  if s.wired.links (.own a.listener) then handleArrival o s a else s

def handleDestroy (w : Wiring) (o : Obj) : Wiring :=
  match o.kind with
  | .toplevel => handleToplevelDestroy w o
  | .layerSurface => handleLayerSurfaceDestroy w o
  | .xwaylandSurface => handleXwsDestroy w o
  | .output => outputHandleDestroy w o
  | .device .keyboard => handleKeyboardDestroy w o
  | .device _ => w

/-- An X11 window gets its surface; `ok` says whether its scene node can be made. -/
def associate (w : Wiring) (o : Obj) (ok : Bool) : Wiring :=
  if o.kind = .xwaylandSurface ∧ o ∈ w.objects ∧ o.number ∉ w.associated then
    let w := { w with associated := o.number :: w.associated }
    if w.links (.record o .associate) then handleXwsAssociate w o ok else w
  else w

def dissociate (w : Wiring) (o : Obj) : Wiring :=
  if o.kind = .xwaylandSurface ∧ o.number ∈ w.associated then
    let w := { w with associated := w.associated.erase o.number }
    if w.links (.record o .dissociate) then handleXwsDissociate w o else w
  else w

/-- wlroots gives an object up: an X11 window loses its surface, and an input device is
detached from the cursor. -/
def Wiring.withdraw (w : Wiring) (o : Obj) : Wiring :=
  let w := dissociate w o
  { w with objects := w.objects.erase o, attached := w.attached.erase o }

/-- An object goes, and its record is told. -/
def vanish (w : Wiring) (o : Obj) : Wiring :=
  if o ∈ w.objects then
    let w := w.withdraw o
    if w.links (.record o .destroy) then handleDestroy w o else w
  else w

def vanishAll (w : Wiring) (os : List Obj) : Wiring :=
  os.foldl vanish w

/-- The object belongs to a client, and not to the backend. -/
def Kind.ofClient : Kind → Bool
  | .toplevel | .layerSurface | .xwaylandSurface => true
  | .output | .device _ => false

/-- `wl_display_destroy_clients`: the objects named in `order` go first, in that order. -/
def wlDisplayDestroyClients (order : List Obj) (w : Wiring) : Wiring :=
  vanishAll w ((order ++ w.objects).filter (·.kind.ofClient))

/-- `wlr_backend_destroy`: outputs and input devices go, then the backend. -/
def wlrBackendDestroy (order : List Obj) (w : Wiring) : Wiring :=
  (vanishAll w ((order ++ w.objects).filter (!·.kind.ofClient))).destroyGlobal .backend

/-- `wl_display_destroy` takes the objects of the display with it. -/
def wlDisplayDestroy (w : Wiring) : Wiring :=
  [Global.seat, .xdgShell, .layerShell, .lockMgr, .outputLayout, .xwayland].foldl
    (fun w g => if w.alive g then w.destroyGlobal g else w) w

/-- The modules that were created in steps 13 to 19. -/
def destroyDesktop (s : World) : World :=
  let s := freeBuffer .testOverlay s
  let s := own (·.release .shell) s
  let s := zenLockDestroy s
  let s := zenDbusDestroy s
  let s := zenLayerDestroy s
  let s := zenKeybindsDestroy s
  zenWallpaperDestroy s

/-- Core resources, in reverse creation order. -/
def destroyCore (order : List Obj) (s : World) : World :=
  let s := wireIf .wlDisplay (wlDisplayDestroyClients order) s
  let s := own (·.releaseAll [.scene, .allocator, .renderer]) s
  let s := wireIf .backend (wlrBackendDestroy order) s
  let s := own (·.release .backend) s
  let s := wireIf .wlDisplay wlDisplayDestroy s
  own (·.release .wlDisplay) s

def zenCompositorDestroy (order : List Obj) (s : World) : World :=
  destroyCore order (zenXdgDestroy (zenInputDestroy (destroyDesktop s)))

structure CreateCalls where
  wlDisplay : Bool
  backend : Bool
  renderer : Bool
  wlrComp : Bool
  allocator : Bool
  scene : Bool
  outputLayout : Bool
  sceneLayout : Bool
  backendStart : Bool
  xdgShell : Bool
  input : InputCalls
  shellOverlayTree : Bool
  wallpaper : WallpaperCalls
  defaultBinding : Nat → Bool
  config : List BindingAllocs
  layerShell : Bool
  dbus : DbusCalls
  lock : LockCalls
  shellCalloc : Bool
  shellInit : Bool

/-- The calls of steps 1 to 8 succeed. -/
def CreateCalls.coreSucceeds (calls : CreateCalls) : Bool :=
  calls.wlDisplay && calls.backend && calls.renderer && calls.wlrComp && calls.allocator &&
    calls.scene && calls.outputLayout && calls.sceneLayout

/-- Nothing fails, and there is no configuration file. -/
def CreateCalls.succeed : CreateCalls :=
  { wlDisplay := true, backend := true, renderer := true, wlrComp := true, allocator := true
    scene := true, outputLayout := true, sceneLayout := true, backendStart := true
    xdgShell := true
    input := { seat := true, cursor := true, xcursorMgr := true }
    shellOverlayTree := true
    wallpaper := { calloc := true, tree := true }
    defaultBinding := fun _ => true, config := []
    layerShell := true
    dbus := { openUser := true, addObjectVtable := true, requestName := true, getFd := true
              addFd := true }
    lock := { lockMgr := true, timer := true, matchSignal := true }
    shellCalloc := true, shellInit := true }

/-- What the backend announces while it starts. -/
inductive StartEvent where
  | output (allocs : OutputAllocs)
  | device (type : DeviceType) (ok : Bool)
  | vanish (o : Obj)

def startEvent (s : World) : StartEvent → World
  | .output allocs => arrive s (.output allocs)
  | .device type ok => arrive s (.device type ok)
  | .vanish o => wire (vanish · o) s

def wlrBackendStart (start : List StartEvent) (ok : Bool) : Fallible World Unit := do
  update fun s => start.foldl startEvent s
  ensure ok

/-- Steps 1 to 8: display, backend, renderer, allocator, scene and output layout. -/
def createCore (calls : CreateCalls) : Fallible World Unit := do
  create .wlDisplay calls.wlDisplay
  create .backend calls.backend
  update (wire (·.createGlobal .backend))
  create .renderer calls.renderer
  ensure calls.wlrComp
  create .allocator calls.allocator
  create .scene calls.scene
  createGlobal .outputLayout calls.outputLayout
  ensure calls.sceneLayout

/-- Steps 13 to 19: what runs on top of windows and input. -/
def createDesktop (calls : CreateCalls) : Fallible World Unit := do
  ensure calls.shellOverlayTree
  update (own fun o => { o with shellOverlayTree := true })
  zenWallpaperInit calls.wallpaper
  zenKeybindsInit calls.defaultBinding calls.config
  zenLayerInit calls.layerShell
  tolerate (zenDbusInit calls.dbus)
  zenLockInit calls.lock
  create .shell calls.shellCalloc
  ensure calls.shellInit

/-- Steps 11 to 19: the modules. -/
def createModules (calls : CreateCalls) : Fallible World Unit := do
  zenXdgInit calls.xdgShell
  zenInputInit calls.input
  createDesktop calls

/-- Steps 9 to 19. -/
def createRest (calls : CreateCalls) (start : List StartEvent) : Fallible World Unit := do
  update (wire (·.register .newOutput))
  wlrBackendStart start calls.backendStart
  createModules calls

def zenCompositorCreate (calls : CreateCalls) (start : List StartEvent) (order : List Obj) :
    Fallible World Unit :=
  onFailure (do
    createCore calls
    createRest calls start) (zenCompositorDestroy order)

inductive RunEvent where
  | arrive (a : Arrival)
  | vanish (o : Obj)
  | associate (o : Obj) (ok : Bool)
  | dissociate (o : Obj)
  | lockActivate (calls : CairoCalls)
  | lockDeactivate
  /-- a key press looks through the key bindings -/
  | key
  /-- `handle_get_running_apps` of `dbus.c` -/
  | getRunningApps
  /-- `zen_xwayland_init`, which `zen_compositor_create` leaves out -/
  | xwaylandInit (ok : Bool)

def useKeybindings (o : Ownership) : Ownership :=
  if o.keybindings.isSome then o else { o with misuses := .uninitialised :: o.misuses }

def runStep (s : World) : RunEvent → World
  | .arrive a => arrive s a
  | .vanish o => wire (vanish · o) s
  | .associate o ok => wire (associate · o ok) s
  | .dissociate o => wire (dissociate · o) s
  | .lockActivate calls => zenLockActivate calls s
  | .lockDeactivate => zenLockDeactivate s
  | .key => own useKeybindings s
  | .getRunningApps => wire (·.useList .toplevels) s
  | .xwaylandInit ok => (exec (zenXwaylandInit ok) s).2

/-- Everything that the outside decides in the life of the process. -/
structure Plan where
  calls : CreateCalls
  start : List StartEvent
  events : List RunEvent
  -- the order in which objects go at the end
  order : List Obj

/-- `zen_compositor_create`: whether it succeeds, and the state in which it returns. -/
def Plan.created (plan : Plan) : Bool × World :=
  exec (zenCompositorCreate plan.calls plan.start plan.order) zeroed

/-- The state in which the run ends. -/
def Plan.ended (plan : Plan) : World :=
  plan.events.foldl runStep plan.created.2

/-- The whole life: a failed creation has cleaned up already. -/
def Plan.finish (plan : Plan) : World :=
  if plan.created.1 then
    zenCompositorDestroy plan.order plan.ended
  else plan.created.2

end ZenOS.Lifecycle
