import ZenOS.Compositor.Lock

/-!
The output handlers of `main.c` and the per-output part of `wallpaper.c`.
-/

namespace ZenOS.Compositor

/-- The part of a `wlr_output_state` that changes what the layout sees. -/
structure OutputState where
  enabled : Option Bool
  mode : Option (Int × Int)
  transposed : Option Bool
  scale : Option ℚ

def OutputState.apply (state : OutputState) (o : Output) : Output :=
  { o with
    enabled := state.enabled.getD o.enabled
    width := (state.mode.getD (o.width, o.height)).1
    height := (state.mode.getD (o.width, o.height)).2
    transposed := state.transposed.getD o.transposed
    scale := state.scale.getD o.scale }

/-- `zen_wallpaper_render_output`; `ok` says whether every allocation succeeds. -/
def zenWallpaperRenderOutput (s : ZenCompositor) (o : Output) (ok : Bool) :
    ZenCompositor :=
  match s.wallpaperState, s.wallpaperTree with
  | some outputs, some tree =>
      if 0 < o.width && 0 < o.height && ok then
        let node := s.scene.nextNode
        { s with
          scene := { s.scene.create (.wallpaperTree tree) (.wallpaper node) with
            nextNode := node + 1 }
          wallpaperState := some (node :: outputs) }
      else s
  | _, _ => s

/-- The test overlay of `handle_new_output`, on the first output only. -/
def createTestOverlay (s : ZenCompositor) (o : Output) (ok : Bool) : ZenCompositor :=
  if !s.testOverlay && s.shellOverlayTree && 0 < o.width && 0 < o.height &&
      zenCairoBufferCreate o.width 48 ok then
    { s with
      scene := s.scene.create .shellOverlayTree .testOverlay
      testOverlay := true }
  else s

/-- Which of the allocations of `handle_new_output` succeed. -/
structure OutputAllocs where
  output : Bool
  wallpaper : Bool
  overlay : Bool
  deriving DecidableEq

/-- `handle_new_output`, for an output as its first commit leaves it; `place` is
where the layout then puts its outputs. -/
def handleNewOutput (s : ZenCompositor) (o : Output)
    (place : OutputId → Int × Int) (allocs : OutputAllocs) : ZenCompositor :=
  if allocs.output then
    let s := { s with outputLayout := arrange place (s.outputLayout ++ [o]) }
    let s := match s.wallpaperTree with
      | some _ => zenWallpaperRenderOutput s o allocs.wallpaper
      | none => s
    createTestOverlay s o allocs.overlay
  else s

def outputHandleRequestState (s : ZenCompositor) (id : OutputId) (state : OutputState)
    (place : OutputId → Int × Int) : ZenCompositor :=
  { s with
    outputLayout := arrange place
      (s.outputLayout.map fun o => if o.id = id then state.apply o else o) }

/-- `output_handle_destroy`; the layout drops a destroyed output. -/
def outputHandleDestroy (s : ZenCompositor) (id : OutputId)
    (place : OutputId → Int × Int) : ZenCompositor :=
  { s with outputLayout := arrange place (s.outputLayout.filter fun o => o.id ≠ id) }

/-- `zen_wallpaper_init`; the flags say whether the state and the tree can be
allocated. -/
def zenWallpaperInit (s : ZenCompositor) (stateOk treeOk : Bool) : ZenCompositor :=
  if !stateOk then s
  else if !treeOk then { s with wallpaperTree := none }
  else
    let node := s.scene.nextNode
    { s with
      scene := { s.scene.create .root (.wallpaperTree node) with nextNode := node + 1 }
      wallpaperTree := some node
      wallpaperState := some [] }

def Scene.destroyWallpapers (sc : Scene) (nodes : List Nat) : Scene :=
  { sc with wallpaper := fun tree =>
      (sc.wallpaper tree).filter fun node => node ∉ nodes.map SceneNode.wallpaper }

def zenWallpaperDestroy (s : ZenCompositor) : ZenCompositor :=
  match s.wallpaperState with
  | none => s
  | some outputs =>
      { s with
        scene := s.scene.destroyWallpapers outputs
        wallpaperState := none }

end ZenOS.Compositor
