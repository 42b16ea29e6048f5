import ZenOS.Compositor.Lock

/-!
`layer.c`: surfaces of the layer shell.
-/

namespace ZenOS.Compositor

def modifyLayer (s : ZenCompositor) (l : LayerId)
    (f : ZenLayerSurface → ZenLayerSurface) : ZenCompositor :=
  { s with layerSurfaces :=
      Function.update s.layerSurfaces l ((s.layerSurfaces l).map f) }

def wlrLayerSurfaceConfigure (s : ZenCompositor) (l : LayerId) (width height : Int) :
    ZenCompositor :=
  { s with calls := s.calls ++
      [.layerConfigure l width height ((s.layerSurfaces l).any (·.initialized))] }

/-- `handle_new_layer_surface`; `ok` says whether both allocations succeed. -/
def handleNewLayerSurface (s : ZenCompositor) (l : LayerId)
    (output : Option OutputId) (ok : Bool) : ZenCompositor :=
  if ok then
    let s := { s with
      scene := s.scene.create (overlayParent s) (.layerSurface l)
      layerSurfaces := Function.update s.layerSurfaces l
        (some { initialized := false, nodeEnabled := true }) }
    match output with
    | none => s
    | some o =>
        let box := wlrOutputLayoutGetBox s.outputLayout o
        if 0 < box.width && 0 < box.height then
          wlrLayerSurfaceConfigure s l box.width box.height
        else s
  else s

def handleLayerSurfaceMap (s : ZenCompositor) (l : LayerId) : ZenCompositor :=
  modifyLayer s l fun r => { r with nodeEnabled := true }

def handleLayerSurfaceUnmap (s : ZenCompositor) (l : LayerId) : ZenCompositor :=
  modifyLayer s l fun r => { r with nodeEnabled := false }

/-- `handle_layer_surface_destroy`; the scene tree goes with the layer surface. -/
def handleLayerSurfaceDestroy (s : ZenCompositor) (l : LayerId) : ZenCompositor :=
  { s with
    layerSurfaces := Function.update s.layerSurfaces l none
    scene := s.scene.destroy (overlayParent s) (.layerSurface l) }

end ZenOS.Compositor
