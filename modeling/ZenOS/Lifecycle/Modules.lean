import ZenOS.Lifecycle.State

/-!
The modules of the compositor: what each of them creates, listens to and frees.
Arguments of the names `ok` and `calls` say which of the fallible calls succeed.
-/

namespace ZenOS.Lifecycle

open ZenOS.Compositor (ZenKeybinding defaultBindings)
open ZenOS.Library.Programs ZenOS.Library.Ownership

/-- The calls that make a `ZenCairoBuffer`, with the `calloc` of the structure. -/
structure CairoCalls where
  calloc : Bool
  sized : Bool
  surface : Bool
  cr : Bool
  pangoLayout : Bool
  wlrBuf : Bool
  sceneBuffer : Bool

/-- The pointers of a buffer, in the order in which they are destroyed. -/
def CairoBuffer.fields (b : CairoBuffer) : List Pointer :=
  [.field b .sceneBuffer, .field b .wlrBuf, .field b .pangoLayout, .field b .cr,
    .field b .surface]

def zenCairoBufferDestroy (b : CairoBuffer) : World → World :=
  own (·.releaseAll b.fields)

def zenCairoBufferCreate (b : CairoBuffer) (calls : CairoCalls) : Fallible World Unit :=
  onFailure (do
    ensure calls.sized
    create (.field b .surface) calls.surface
    create (.field b .cr) calls.cr
    create (.field b .pangoLayout) calls.pangoLayout
    create (.field b .wlrBuf) calls.wlrBuf
    create (.field b .sceneBuffer) calls.sceneBuffer) (zenCairoBufferDestroy b)

/-- Allocate a buffer and create it, or free it again. -/
def newBuffer (b : CairoBuffer) (calls : CairoCalls) : Fallible World Unit := do
  create (.buffer b) calls.calloc
  onFailure (zenCairoBufferCreate b calls) (own (·.release (.buffer b)))

/-- `if (buf) { zen_cairo_buffer_destroy(buf); free(buf); buf = NULL; }` -/
def freeBuffer (b : CairoBuffer) (s : World) : World :=
  if s.owned.has (.buffer b) then
    own (·.release (.buffer b)) (zenCairoBufferDestroy b s)
  else s

structure XdgAllocs where
  calloc : Bool
  scene : Bool

def zenXdgInit (ok : Bool) : Fallible World Unit := do
  ensureState fun s => s.owned.has .wlDisplay
  update (wire (·.listInit .toplevels))
  createGlobal .xdgShell ok
  update (wire (·.register .newXdgToplevel))

/-- `zen_xdg_destroy` frees what is left of the list. -/
def Wiring.freeToplevels (w : Wiring) : Wiring :=
  match w.lists .toplevels with
  | none => w
  | some ts => ts.foldl (fun w n => (w.remove .toplevels n).free ⟨.toplevel, n⟩) w

def zenXdgDestroy : World → World :=
  wire fun w => w.freeToplevels.unlinkIfLinked .newXdgToplevel

def handleNewXdgToplevel (w : Wiring) (o : Obj) (allocs : XdgAllocs) : Wiring :=
  if !allocs.calloc then w
  else
    let w := w.allocate o
    if !allocs.scene then w.free o
    else (w.linkAll o o.kind.slots).insert .toplevels o.number

def handleToplevelDestroy (w : Wiring) (o : Obj) : Wiring :=
  let w := (w.enter o).useList .toplevels
  ((w.unlinkAll o o.kind.slots).remove .toplevels o.number).free o

structure InputCalls where
  seat : Bool
  cursor : Bool
  xcursorMgr : Bool

/-- The first loop of `zen_input_destroy`. -/
def Wiring.freeKeyboards (w : Wiring) : Wiring :=
  match w.lists .keyboards with
  | none => w
  | some ks => ks.foldl (fun w n =>
      let o : Obj := ⟨.device .keyboard, n⟩
      ((w.unlinkAll o [.key, .modifiers, .destroy]).remove .keyboards n).free o) w

def zenInputDestroy (s : World) : World :=
  let s := wire (·.freeKeyboards) s
  let s := wire (fun w => ((((w.unregister .cursorMotion).unregister
    .cursorMotionAbsolute).unregister .cursorButton).unregister .requestCursor).unregister
    .newInput) s
  let s := own (·.release .xcursorMgr) s
  own (·.release .cursor) (wireIf .cursor (·.destroyGlobal .cursor) s)

def zenInputInit (calls : InputCalls) : Fallible World Unit :=
  onFailure (do
    ensureState fun s => s.owned.has .wlDisplay
    update (wire (·.listInit .keyboards))
    createGlobal .seat calls.seat
    create .cursor calls.cursor
    update (wire (·.createGlobal .cursor))
    create .xcursorMgr calls.xcursorMgr
    update (wire (·.register .cursorMotion))
    update (wire (·.register .cursorMotionAbsolute))
    update (wire (·.register .cursorButton))
    update (wire (·.register .requestCursor))
    update (wire (·.register .newInput))) zenInputDestroy

/-- The seat's capabilities follow from the keyboards that are attached. -/
def Wiring.updateCapabilities (w : Wiring) : Wiring :=
  { w with keyboardCapability := (w.lists .keyboards).any (!·.isEmpty) }

def handleNewInput (w : Wiring) (o : Obj) (ok : Bool) : Wiring :=
  match o.kind with
  | .device .keyboard =>
      if !ok then w
      else
        (((w.allocate o).linkAll o [.key, .modifiers, .destroy]).insert .keyboards
          o.number).updateCapabilities
  | .device .pointer | .device .touch =>
      { w with attached := o :: w.attached }.updateCapabilities
  | _ => w.updateCapabilities

def handleKeyboardDestroy (w : Wiring) (o : Obj) : Wiring :=
  (((w.enter o).unlinkAll o [.key, .modifiers, .destroy]).remove .keyboards o.number).free o

/-- An entry to be registered, and which of its allocations succeed. -/
structure BindingAllocs where
  binding : ZenKeybinding
  calloc : Bool
  strdup : Bool

/-- `register_binding`; the copy of the command gets the number of its binding. -/
def registerBinding (b : BindingAllocs) : Fallible World Unit := do
  ensure b.calloc
  if b.binding.customCmd.isSome then
    if b.strdup then
      update (own fun o => { o with
        next := o.next + 1
        trace := .acquire (.customCmd o.next) :: .acquire (.keybinding o.next) :: o.trace
        keybindings := o.keybindings.map (· ++ [(o.next, b.binding)]) })
    else do
      update (own fun o => { o with
        next := o.next + 1
        trace := .release (.keybinding o.next) :: .acquire (.keybinding o.next) :: o.trace })
      failure
  else
    update (own fun o => { o with
      next := o.next + 1
      trace := .acquire (.keybinding o.next) :: o.trace
      keybindings := o.keybindings.map (· ++ [(o.next, b.binding)]) })

/-- The body of the loop of `zen_keybinds_destroy`; `free(NULL)` does nothing. -/
def Ownership.freeBinding (o : Ownership) (b : Nat × ZenKeybinding) : Ownership :=
  { o with
    keybindings := o.keybindings.map (·.erase b)
    trace := .release (.keybinding b.1) ::
      (if b.2.customCmd.isSome then [Op.release (.customCmd b.1)] else []) ++ o.trace }

def Ownership.freeBindings (o : Ownership) : Ownership :=
  match o.keybindings with
  | none => o
  | some bs => bs.foldl freeBinding o

def zenKeybindsDestroy : World → World :=
  own (·.freeBindings)

/-- `zen_keybinds_init`: the five defaults, of which `calloc` may fail, then what
`zen_keybinds_load_config` finds in the file; its result is not looked at. -/
def zenKeybindsInit (calloc : Nat → Bool) (config : List BindingAllocs) :
    Fallible World Unit := do
  update (own fun o => { o with keybindings := some [] })
  onFailure (each registerBinding (defaultBindings.zipIdx.map fun b =>
    { binding := b.1, calloc := calloc b.2, strdup := true })) zenKeybindsDestroy
  tolerate (each registerBinding config)

structure WallpaperCalls where
  calloc : Bool
  tree : Bool

def zenWallpaperInit (calls : WallpaperCalls) : Fallible World Unit := do
  ensure calls.calloc
  ensure calls.tree
  update (own fun o => { o with wallpaperTree := true, wallpaperState := some 0 })

/-- `zen_wallpaper_render_output`; `ok` says whether it comes to the scene buffer. -/
def Ownership.renderWallpaper (o : Ownership) (ok : Bool) : Ownership :=
  match o.wallpaperState with
  | some n => if o.wallpaperTree && ok then { o with wallpaperState := some (n + 1) } else o
  | none => o

def zenWallpaperDestroy : World → World :=
  own fun o => match o.wallpaperState with
    | none => o
    | some n => { o with
        misuses := o.checkScene (0 < n)
        wallpaperState := none }

def zenLayerInit (ok : Bool) : Fallible World Unit := do
  update (wire (·.listInit .layerSurfaces))
  createGlobal .layerShell ok
  update (wire (·.register .newLayerSurface))

/-- The loop of `zen_layer_destroy`, which leaves `new_layer_surface` where it is. -/
def Wiring.freeLayerSurfaces (w : Wiring) : Wiring :=
  match w.lists .layerSurfaces with
  | none => w
  | some ls => ls.foldl (fun w n =>
      let o : Obj := ⟨.layerSurface, n⟩
      ((w.unlinkAll o [.map, .unmap, .destroy]).remove .layerSurfaces n).free o) w

def zenLayerDestroy : World → World :=
  wire (·.freeLayerSurfaces)

/-- `wlr_layer_surface_v1_destroy`; nobody listens to the object yet. -/
def wlrLayerSurfaceV1Destroy (w : Wiring) (o : Obj) : Wiring :=
  { w with objects := w.objects.erase o }

/-- Without a record the layer surface is destroyed. -/
def handleNewLayerSurface (w : Wiring) (o : Obj) (allocs : XdgAllocs) : Wiring :=
  if !allocs.calloc then wlrLayerSurfaceV1Destroy w o
  else
    let w := w.allocate o
    if !allocs.scene then wlrLayerSurfaceV1Destroy (w.free o) o
    else (w.linkAll o [.map, .unmap, .destroy]).insert .layerSurfaces o.number

def handleLayerSurfaceDestroy (w : Wiring) (o : Obj) : Wiring :=
  (((w.enter o).unlinkAll o [.map, .unmap, .destroy]).remove .layerSurfaces o.number).free o

structure DbusCalls where
  openUser : Bool
  addObjectVtable : Bool
  requestName : Bool
  getFd : Bool
  addFd : Bool

def zenDbusDestroy : World → World :=
  own (·.releaseAll [.dbusEventSource, .dbusSlot, .bus])

def zenDbusInit (calls : DbusCalls) : Fallible World Unit :=
  onFailure (do
    create .bus calls.openUser
    create .dbusSlot calls.addObjectVtable
    ensure calls.requestName
    ensure calls.getFd
    create .dbusEventSource calls.addFd) zenDbusDestroy

structure LockCalls where
  lockMgr : Bool
  timer : Bool
  matchSignal : Bool

def zenLockDestroy (s : World) : World :=
  let s := own (·.releaseAll [.idleTimer, .lockSignalSlot]) s
  own (fun o => { o with locked := false }) (freeBuffer .lockBuffer s)

def zenLockInit (calls : LockCalls) : Fallible World Unit :=
  onFailure (do
    ensureState fun s => s.owned.has .wlDisplay
    createGlobal .lockMgr calls.lockMgr
    update (wire (·.register .newLock))
    tolerate (create .idleTimer calls.timer)
    tolerate (do
      ensureState fun s => s.owned.has .bus
      create .lockSignalSlot calls.matchSignal)) zenLockDestroy

def zenLockActivate (calls : CairoCalls) (s : World) : World :=
  if s.owned.locked then s
  else
    let (ok, s) := exec (newBuffer .lockBuffer calls) s
    own (fun o => { o with locked := ok }) s

def zenLockDeactivate (s : World) : World :=
  if s.owned.locked then
    own (fun o => { o with locked := false }) (freeBuffer .lockBuffer s)
  else s

/-- After a failure `zen_xwayland_destroy` finds no instance and does nothing. -/
def zenXwaylandInit (ok : Bool) : Fallible World Unit := do
  ensureState fun s => s.owned.has .wlDisplay
  createGlobal .xwayland ok
  update (wire (·.register .xwaylandReady))
  update (wire (·.register .newXwaylandSurface))

def handleNewXwaylandSurface (w : Wiring) (o : Obj) (ok : Bool) : Wiring :=
  if ok then (w.allocate o).linkAll o [.associate, .dissociate, .destroy, .setTitle] else w

def handleXwsAssociate (w : Wiring) (o : Obj) (ok : Bool) : Wiring :=
  let w := w.enter o
  if ok then w.linkAll o [.map, .unmap] else w

def handleXwsDissociate (w : Wiring) (o : Obj) : Wiring :=
  (w.enter o).unlinkAll o [.map, .unmap]

def handleXwsDestroy (w : Wiring) (o : Obj) : Wiring :=
  ((w.enter o).unlinkAll o [.associate, .dissociate, .destroy, .setTitle, .map, .unmap]).free o

structure OutputAllocs where
  calloc : Bool
  wallpaper : Bool
  overlay : CairoCalls

/-- The wallpaper of `handle_new_output`. -/
def drawWallpaper (ok : Bool) (s : World) : World :=
  if s.owned.wallpaperTree then own (·.renderWallpaper ok) s else s

/-- The test overlay of `handle_new_output`, which is not even allocated on an output
without size. -/
def drawOverlay (calls : CairoCalls) (s : World) : World :=
  if !s.owned.has (.buffer .testOverlay) && s.owned.shellOverlayTree && calls.sized then
    (exec (newBuffer .testOverlay calls) s).2
  else s

def handleNewOutput (o : Obj) (allocs : OutputAllocs) (s : World) : World :=
  if !allocs.calloc then s
  else
    drawOverlay allocs.overlay (drawWallpaper allocs.wallpaper
      (wire (fun w => (w.allocate o).linkAll o [.frame, .requestState, .destroy]) s))

def outputHandleDestroy (w : Wiring) (o : Obj) : Wiring :=
  ((w.enter o).unlinkAll o [.frame, .requestState, .destroy]).free o

end ZenOS.Lifecycle
