import ZenOS.Compositor.Wlroots

/-!
`xdg.c`: toplevel life cycle and focus.
-/

namespace ZenOS.Compositor

/-- The beginning of `zen_xdg_focus_toplevel`: clear the focus on the previously
focused toplevel. -/
def deactivateFocused (s : ZenCompositor) : ZenCompositor :=
  match s.windows.focusedToplevel with
  | some p => wlrXdgToplevelSetActivated s p false
  | none => s

/-- Send a keyboard enter to the toplevel when the seat has a keyboard. -/
def enterToplevel (s : ZenCompositor) (t : ToplevelId) : ZenCompositor :=
  match s.seat.keyboard, s.windows.heap t with
  | some k, some r => wlrSeatKeyboardNotifyEnter s r.surface (s.keycodes k) (s.modifiers k)
  | _, _ => s

/-- The end of `zen_xdg_focus_toplevel`, for a toplevel that is not NULL. -/
def activateToplevel (s : ZenCompositor) (t : ToplevelId) : ZenCompositor :=
  let s := { s with windows := { s.windows with
    toplevels := t :: s.windows.toplevels.erase t } }
  let s := wlrXdgToplevelSetActivated s t true
  let s := enterToplevel s t
  { s with scene := s.scene.raiseToTop .root (.toplevel t) }

def zenXdgFocusToplevel (s : ZenCompositor) (toplevel : Option ToplevelId) :
    ZenCompositor :=
  if s.windows.focusedToplevel = toplevel then s
  else
    let s := deactivateFocused s
    let s := { s with windows := { s.windows with focusedToplevel := toplevel } }
    match toplevel with
    | none => wlrSeatKeyboardNotifyClearFocus s
    | some t => activateToplevel s t

def handleToplevelMap (s : ZenCompositor) (t : ToplevelId) : ZenCompositor :=
  let s := wlrSceneNodeSetEnabled s t true
  zenXdgFocusToplevel s (some t)

def handleToplevelUnmap (s : ZenCompositor) (t : ToplevelId) : ZenCompositor :=
  let s := wlrSceneNodeSetEnabled s t false
  if s.windows.focusedToplevel = some t then
    let next := s.windows.toplevels.find? fun iter => iter ≠ t && s.windows.mapped iter
    zenXdgFocusToplevel s next
  else s

/-- `handle_toplevel_destroy`; the scene tree goes with the xdg surface. -/
def handleToplevelDestroy (s : ZenCompositor) (t : ToplevelId) : ZenCompositor :=
  let s :=
    if s.windows.focusedToplevel = some t then
      -- unlike the unmap path, this loop does not ask whether `iter` is mapped
      let next := s.windows.toplevels.find? fun iter => iter ≠ t
      zenXdgFocusToplevel s next
    else s
  let s :=
    if s.windows.grabbedToplevel = some t then
      { s with windows := { s.windows with
        grabbedToplevel := none, grabX := 0, grabY := 0,
        grabNodeX := 0, grabNodeY := 0 } }
    else s
  { s with
    windows := { s.windows with
      toplevels := s.windows.toplevels.erase t
      heap := Function.update s.windows.heap t none }
    scene := s.scene.destroy .root (.toplevel t) }

def handleToplevelRequestMove (s : ZenCompositor) (t : ToplevelId) : ZenCompositor :=
  match s.windows.heap t with
  | none => s
  | some r =>
      { s with windows := { s.windows with
        grabbedToplevel := some t, grabX := s.cursorX, grabY := s.cursorY,
        grabNodeX := r.nodeX, grabNodeY := r.nodeY } }

/-- The output a maximized or fullscreen toplevel goes to: the one under its node,
else the first of the layout. -/
def outputOfToplevel (s : ZenCompositor) (r : ZenToplevel) : Option OutputId :=
  match wlrOutputLayoutOutputAt s.outputLayout r.nodeX r.nodeY with
  | some o => some o
  | none => s.outputLayout.head?.map (·.id)

def handleToplevelRequestMaximize (s : ZenCompositor) (t : ToplevelId) :
    ZenCompositor :=
  match s.windows.heap t with
  | none => s
  | some r =>
      let maximized := !r.maximized
      if maximized then
        match outputOfToplevel s r with
        | none => s
        | some o =>
            let box := wlrOutputLayoutGetBox s.outputLayout o
            let s := wlrXdgToplevelSetSize s t box.width box.height
            let s := wlrXdgToplevelSetMaximized s t true
            wlrSceneNodeSetPosition s t box.x box.y
      else
        let s := wlrXdgToplevelSetSize s t 0 0
        wlrXdgToplevelSetMaximized s t false

/-- `handle_toplevel_request_fullscreen`, with the output the client asked for -/
def handleToplevelRequestFullscreen (s : ZenCompositor) (t : ToplevelId)
    (requested : Option OutputId) : ZenCompositor :=
  match s.windows.heap t with
  | none => s
  | some r =>
      let fullscreen := !r.fullscreen
      if fullscreen then
        let output := match requested with
          | some o => some o
          | none => outputOfToplevel s r
        match output with
        | none => s
        | some o =>
            let box := wlrOutputLayoutGetBox s.outputLayout o
            let s := wlrXdgToplevelSetSize s t box.width box.height
            let s := wlrXdgToplevelSetFullscreen s t true
            wlrSceneNodeSetPosition s t box.x box.y
      else
        let s := wlrXdgToplevelSetSize s t 0 0
        wlrXdgToplevelSetFullscreen s t false

/-- `handle_new_xdg_toplevel`; `ok` says whether both allocations succeed. -/
def handleNewXdgToplevel (s : ZenCompositor) (t : ToplevelId) (surface : SurfaceId)
    (ok : Bool) : ZenCompositor :=
  if ok then
    { s with
      scene := s.scene.create .root (.toplevel t)
      windows := { s.windows with
        heap := Function.update s.windows.heap t (some
          { surface, initialized := false, mapped := false, activated := false
            maximized := false, fullscreen := false
            nodeX := 0, nodeY := 0, nodeEnabled := true })
        toplevels := t :: s.windows.toplevels } }
  else s

end ZenOS.Compositor
