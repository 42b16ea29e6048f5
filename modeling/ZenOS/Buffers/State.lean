import ZenOS.Library.Fallible
import ZenOS.Library.References
import Mathlib.Logic.Function.Basic

/-!
`cairo_buffer.c` and `wallpaper.c` as far as they wrap the pixels of Cairo surfaces in
`wlr_buffer`s.  Each call that draws something acquires its own surface, context, layout,
wrapper and scene node: they are the `Pixels` of that call.
-/

namespace ZenOS.Buffers

open ZenOS.Library.Programs ZenOS.Library.References

/-- What one call has acquired.  `fault` records a misuse: something is released twice or
before it is acquired, or a surface is released while the wrapper of its pixels is still
allocated. -/
structure Pixels where
  surface : Cell
  context : Cell
  layout : Cell
  wrapper : Counted
  node : Cell
  fault : Bool
  deriving DecidableEq

namespace Pixels

def fresh : Pixels :=
  { surface := .unused, context := .unused, layout := .unused, wrapper := .unused
    node := .unused, fault := false }

def act (f : Pixels → Option Pixels) (p : Pixels) : Pixels :=
  (f p).getD { p with fault := true }

def createSurface : Pixels → Pixels :=
  act fun p => p.surface.acquire.map fun surface => { p with surface }

/-- `cairo_surface_destroy`; the surface owns the pixels of the wrapper. -/
def destroySurface (p : Pixels) : Pixels :=
  let released := act (fun p => p.surface.release.map fun surface => { p with surface }) p
  if p.wrapper.isLive then { released with fault := true } else released

def createContext : Pixels → Pixels :=
  act fun p => p.context.acquire.map fun context => { p with context }

def destroyContext : Pixels → Pixels :=
  act fun p => p.context.release.map fun context => { p with context }

def createLayout : Pixels → Pixels :=
  act fun p => p.layout.acquire.map fun layout => { p with layout }

def unrefLayout : Pixels → Pixels :=
  act fun p => p.layout.release.map fun layout => { p with layout }

def initWrapper : Pixels → Pixels :=
  act fun p => p.wrapper.init.map fun wrapper => { p with wrapper }

def dropWrapper : Pixels → Pixels :=
  act fun p => p.wrapper.drop.map fun wrapper => { p with wrapper }

/-- `wlr_scene_buffer_create`: the node becomes a consumer of the wrapper. -/
def createNode : Pixels → Pixels :=
  act fun p => do
    let node ← p.node.acquire
    let wrapper ← p.wrapper.lock
    some { p with node, wrapper }

/-- `wlr_scene_buffer_set_buffer` with the buffer that the node has already -/
def setBuffer : Pixels → Pixels :=
  act fun p => do
    guard (p.node = .held)
    let wrapper ← p.wrapper.unlock
    let wrapper ← wrapper.lock
    some { p with wrapper }

def destroyNode : Pixels → Pixels :=
  act fun p => do
    let node ← p.node.release
    let wrapper ← p.wrapper.unlock
    some { p with node, wrapper }

/-- Nothing is held, and nothing was misused: each thing was released once if it was ever
acquired, and the wrapper was freed once if it was ever initialised. -/
structure Settled (p : Pixels) : Prop where
  surface : p.surface ≠ .held
  context : p.context ≠ .held
  layout : p.layout ≠ .held
  wrapper : p.wrapper.isLive = false
  node : p.node ≠ .held
  faultless : p.fault = false

end Pixels

/-- `struct ZenCairoBuffer`: which of its pointers are not NULL, and what the call that
filled it has acquired. -/
structure ZenCairoBuffer where
  surface : Bool
  cr : Bool
  pangoLayout : Bool
  wlrBuf : Bool
  sceneBuffer : Bool
  pixels : Pixels
  deriving DecidableEq

namespace ZenCairoBuffer

/-- After `memset` -/
def zeroed : ZenCairoBuffer :=
  { surface := false, cr := false, pangoLayout := false, wlrBuf := false
    sceneBuffer := false, pixels := .fresh }

end ZenCairoBuffer

def zenCairoBufferDestroy (buf : ZenCairoBuffer) : ZenCairoBuffer :=
  let buf :=
    if buf.sceneBuffer then { buf with sceneBuffer := false, pixels := buf.pixels.destroyNode }
    else buf
  let buf :=
    if buf.wlrBuf then { buf with wlrBuf := false, pixels := buf.pixels.dropWrapper } else buf
  let buf :=
    if buf.pangoLayout then
      { buf with pangoLayout := false, pixels := buf.pixels.unrefLayout }
    else buf
  let buf :=
    if buf.cr then { buf with cr := false, pixels := buf.pixels.destroyContext } else buf
  if buf.surface then { buf with surface := false, pixels := buf.pixels.destroySurface }
  else buf

/-- Which of the calls of `zen_cairo_buffer_create` succeed. -/
structure CreateCalls where
  surface : Bool
  cr : Bool
  pangoLayout : Bool
  raw : Bool
  sceneBuffer : Bool
  deriving DecidableEq

/-- The part of `zen_cairo_buffer_create` that can go to `cleanup`.  A Cairo object in an
error state is taken as not acquired: destroying it does nothing. -/
def createSteps (calls : CreateCalls) : Fallible ZenCairoBuffer Unit := do
  ensure calls.surface
  update fun buf => { buf with surface := true, pixels := buf.pixels.createSurface }
  ensure calls.cr
  update fun buf => { buf with cr := true, pixels := buf.pixels.createContext }
  ensure calls.pangoLayout
  update fun buf => { buf with pangoLayout := true, pixels := buf.pixels.createLayout }
  ensure calls.raw
  update fun buf => { buf with wlrBuf := true, pixels := buf.pixels.initWrapper }
  onFailure (ensure calls.sceneBuffer) fun buf =>
    { buf with wlrBuf := false, pixels := buf.pixels.dropWrapper }
  update fun buf => { buf with sceneBuffer := true, pixels := buf.pixels.createNode }

/-- `zen_cairo_buffer_create` on a structure that its arguments allow to be filled -/
def zenCairoBufferCreate (calls : CreateCalls) : ZenCairoBuffer :=
  (exec (onFailure (createSteps calls) zenCairoBufferDestroy) ZenCairoBuffer.zeroed).2

def zenCairoBufferSubmit (buf : ZenCairoBuffer) : ZenCairoBuffer :=
  if buf.surface && buf.sceneBuffer && buf.wlrBuf then
    { buf with pixels := buf.pixels.setBuffer }
  else buf

/-- `struct ZenWallpaperOutput`: which of its pointers are not NULL, and what
`render_output_internal` has acquired for it. -/
structure ZenWallpaperOutput where
  surface : Bool
  wbuf : Bool
  sceneBuf : Bool
  pixels : Pixels
  deriving DecidableEq

def ZenWallpaperOutput.zeroed : ZenWallpaperOutput :=
  { surface := false, wbuf := false, sceneBuf := false, pixels := .fresh }

/-- Which of the calls of `render_output_internal` succeed. -/
structure RenderCalls where
  record : Bool
  surface : Bool
  cr : Bool
  wbuf : Bool
  sceneBuf : Bool
  deriving DecidableEq

def renderSteps (calls : RenderCalls) : Fallible ZenWallpaperOutput Unit := do
  ensure calls.surface
  update fun wo => { wo with surface := true, pixels := wo.pixels.createSurface }
  ensure calls.cr
  update fun wo => { wo with pixels := wo.pixels.createContext }
  update fun wo => { wo with pixels := wo.pixels.destroyContext }
  ensure calls.wbuf
  update fun wo => { wo with wbuf := true, pixels := wo.pixels.initWrapper }
  onFailure (ensure calls.sceneBuf) fun wo =>
    { wo with wbuf := false, pixels := wo.pixels.dropWrapper }
  update fun wo => { wo with sceneBuf := true, pixels := wo.pixels.createNode }

/-- What is released before a `ZenWallpaperOutput` is freed: the cleanup of
`render_output_internal`, and the loop of `zen_wallpaper_destroy`. -/
def releaseOutput (wo : ZenWallpaperOutput) : ZenWallpaperOutput :=
  let wo :=
    if wo.sceneBuf then { wo with sceneBuf := false, pixels := wo.pixels.destroyNode } else wo
  if wo.surface then { wo with surface := false, pixels := wo.pixels.destroySurface } else wo

/-- `render_output_internal` after its record is allocated: whether it succeeds, and the
record. -/
def renderOutputInternal (calls : RenderCalls) : Bool × ZenWallpaperOutput :=
  exec (onFailure (renderSteps calls) releaseOutput) ZenWallpaperOutput.zeroed

/-- `struct ZenWallpaperState`; `srcImage` is unused when the pointer is NULL. -/
structure ZenWallpaperState where
  srcImage : Cell
  outputs : List ZenWallpaperOutput
  deriving DecidableEq

/-- The structures of the callers and the module state, with the records and images that
nothing points to any more. -/
structure World where
  buffers : Nat → ZenCairoBuffer
  overwritten : List ZenCairoBuffer
  wallpaperTree : Bool
  wallpaperState : Option ZenWallpaperState
  outputsGone : List ZenWallpaperOutput
  imagesGone : List Cell

inductive Event where
  /-- `sized` says whether the arguments are valid -/
  | create (b : Nat) (sized : Bool) (calls : CreateCalls)
  | submit (b : Nat)
  | destroy (b : Nat)
  /-- `image` says whether an image is found, and whether it can be loaded -/
  | wallpaperInit (state tree : Bool) (image : Option Bool)
  | renderOutput (sized : Bool) (calls : RenderCalls)
  | wallpaperDestroy
  deriving DecidableEq

def World.initial : World :=
  { buffers := fun _ => .zeroed, overwritten := [], wallpaperTree := false
    wallpaperState := none, outputsGone := [], imagesGone := [] }

/-- The module state that a successful `zen_wallpaper_init` leaves. -/
def loadedState (image : Option Bool) : ZenWallpaperState :=
  { srcImage := if image = some true then .held else .unused, outputs := [] }

def zenWallpaperInit (w : World) (state tree : Bool) (image : Option Bool) : World :=
  if !state then w
  else if !tree then { w with wallpaperTree := false }
  else
    { w with
      wallpaperTree := true
      wallpaperState := some (loadedState image)
      -- what an earlier state points to
      outputsGone := (w.wallpaperState.elim [] (·.outputs)) ++ w.outputsGone
      imagesGone := (w.wallpaperState.map (·.srcImage)).toList ++ w.imagesGone }

def zenWallpaperRenderOutput (w : World) (sized : Bool) (calls : RenderCalls) : World :=
  match w.wallpaperState with
  | none => w
  | some state =>
      if w.wallpaperTree && sized && calls.record then
        match renderOutputInternal calls with
        | (true, wo) =>
            { w with wallpaperState := some { state with outputs := wo :: state.outputs } }
        | (false, wo) => { w with outputsGone := wo :: w.outputsGone }
      else w

def zenWallpaperDestroy (w : World) : World :=
  match w.wallpaperState with
  | none => w
  | some state =>
      { w with
        wallpaperState := none
        outputsGone := state.outputs.map releaseOutput ++ w.outputsGone
        imagesGone := (state.srcImage.release.getD state.srcImage) :: w.imagesGone }

def step (w : World) : Event → World
  | .create b sized calls =>
      if sized then
        { w with
          buffers := Function.update w.buffers b (zenCairoBufferCreate calls)
          overwritten := w.buffers b :: w.overwritten }
      else
        { w with buffers := Function.update w.buffers b (zenCairoBufferDestroy (w.buffers b)) }
  | .submit b =>
      { w with buffers := Function.update w.buffers b (zenCairoBufferSubmit (w.buffers b)) }
  | .destroy b =>
      { w with buffers := Function.update w.buffers b (zenCairoBufferDestroy (w.buffers b)) }
  | .wallpaperInit state tree image => zenWallpaperInit w state tree image
  | .renderOutput sized calls => zenWallpaperRenderOutput w sized calls
  | .wallpaperDestroy => zenWallpaperDestroy w

end ZenOS.Buffers
