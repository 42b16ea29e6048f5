import ZenOS.Compositor.Requests
import ZenOS.Compositor.WindowMachine

/-!
Size and position of a window that is maximized and made fullscreen.  Each toggle is
followed by the commit that acknowledges what it scheduled.
-/

namespace ZenOS.Compositor

open ZenOS.Library.Runs

/-- A request of the client to be maximized or fullscreen, or to stop being so. -/
inductive Toggle where
  | maximize
  | fullscreen (requested : Option OutputId)
  deriving DecidableEq

/-- What is scheduled for one toplevel: `scheduled` in its `wlr_xdg_toplevel`. -/
structure ScheduledGeometry where
  flags : Scheduled
  width : Int
  height : Int
  deriving DecidableEq

def Call.scheduleGeometry (t : ToplevelId) (scheduled : ScheduledGeometry) :
    Call → ScheduledGeometry
  | .setSize u width height _ => if u = t then { scheduled with width, height } else scheduled
  | .setMaximized u maximized _ =>
      if u = t then { scheduled with flags := { scheduled.flags with maximized } }
      else scheduled
  | .setFullscreen u fullscreen _ =>
      if u = t then { scheduled with flags := { scheduled.flags with fullscreen } }
      else scheduled
  | _ => scheduled

namespace Toggle

def event (t : ToplevelId) : Toggle → Event
  | maximize => .requestMaximize t
  | fullscreen requested => .requestFullscreen t requested

/-- The flag that the toggle is about. -/
def flag (r : ZenToplevel) : Toggle → Bool
  | maximize => r.maximized
  | fullscreen _ => r.fullscreen

def set (flags : Scheduled) (on : Bool) : Toggle → Scheduled
  | maximize => { flags with maximized := on }
  | fullscreen _ => { flags with fullscreen := on }

/-- The call that schedules the flag. -/
def call (t : ToplevelId) (on initialized : Bool) : Toggle → Call
  | maximize => .setMaximized t on initialized
  | fullscreen _ => .setFullscreen t on initialized

/-- The output that the client asks for. -/
def requested : Toggle → Option OutputId
  | maximize => none
  | fullscreen requested => requested

/-- A client can only ask for an output that has been announced to it. -/
def Announced (layout : List Output) : Toggle → Prop
  | maximize => True
  | fullscreen requested => ∀ id ∈ requested, ∃ o ∈ layout, o.id = id

end Toggle

/-- The client toggles, and acknowledges and commits what the handler schedules. -/
def stepToggle (t : ToplevelId) (p : ZenCompositor × ScheduledGeometry) (toggle : Toggle) :
    ZenCompositor × ScheduledGeometry :=
  let s := step p.1 (toggle.event t)
  let scheduled := s.calls.foldl (Call.scheduleGeometry t) p.2
  (step s (.commit t scheduled.flags.maximized scheduled.flags.fullscreen), scheduled)

/-- The position of the window is the origin of an output's box. -/
def AtOutput (layout : List Output) (r : ZenToplevel) : Prop :=
  ∃ o ∈ layout, r.nodeX = o.box.x ∧ r.nodeY = o.box.y

/-- The scheduled size and the position are an output's box. -/
def FillsOutput (layout : List Output) (r : ZenToplevel) (scheduled : ScheduledGeometry) :
    Prop :=
  ∃ o ∈ layout, o.box =
    { x := r.nodeX, y := r.nodeY, width := scheduled.width, height := scheduled.height }

/-- The geometry follows the flags of a window that was floating at `(x, y)`, and is
restored with them. -/
structure Restores (layout : List Output) (x y : Int) (r : ZenToplevel)
    (scheduled : ScheduledGeometry) : Prop where
  fullscreen : r.fullscreen = true → FillsOutput layout r scheduled
  maximized : r.maximized = true → r.fullscreen = false → FillsOutput layout r scheduled
  floating : r.maximized = false → r.fullscreen = false → r.nodeX = x ∧ r.nodeY = y

/-- What a toggle does to the geometry.  A flag that it sets puts the window on an output,
and there the window stays: a flag that it clears leaves the position alone, and with the
last flag the size is left to the client. -/
structure Toggled (layout : List Output) (toggle : Toggle) (r r' : ZenToplevel)
    (scheduled : ScheduledGeometry) : Prop where
  sets : toggle.flag r' = true → FillsOutput layout r' scheduled
  clears : toggle.flag r' = false → r'.nodeX = r.nodeX ∧ r'.nodeY = r.nodeY
  held : r'.maximized = true ∨ r'.fullscreen = true → AtOutput layout r'
  floats : r'.maximized = false → r'.fullscreen = false → layout ≠ [] →
    AtOutput layout r' ∧ scheduled.width = 0 ∧ scheduled.height = 0

section Requests

variable {s : ZenCompositor} {t : ToplevelId} {r : ZenToplevel}

theorem exists_wlrOutputLayoutGetBox {layout : List Output} {id : OutputId}
    (h : ∃ o ∈ layout, o.id = id) : ∃ o ∈ layout, wlrOutputLayoutGetBox layout id = o.box := by
  rw [wlrOutputLayoutGetBox]
  cases hfind : layout.find? fun o => o.id == id with
  | none =>
      obtain ⟨o, ho, hid⟩ := h
      have := List.find?_eq_none.mp hfind o ho
      simp [hid] at this
  | some o => exact ⟨o, List.mem_of_find?_eq_some hfind, rfl⟩

theorem outputOfToplevel_mem {id : OutputId} (h : outputOfToplevel s r = some id) :
    ∃ o ∈ s.outputLayout, o.id = id := by
  rw [outputOfToplevel] at h
  split at h
  · next id' hat =>
      obtain rfl : id' = id := Option.some.inj h
      rw [wlrOutputLayoutOutputAt] at hat
      obtain ⟨o, ho, hid⟩ := Option.map_eq_some_iff.mp hat
      exact ⟨o, List.mem_of_find?_eq_some ho, hid⟩
  · obtain ⟨o, ho, hid⟩ := Option.map_eq_some_iff.mp h
    exact ⟨o, List.mem_of_mem_head? ho, hid⟩

theorem step_toggle_clears {toggle : Toggle} (hr : s.windows.heap t = some r)
    (hflag : toggle.flag r = true) :
    step s (toggle.event t) =
      { s with calls := [.setSize t 0 0 (s.windows.initialized t),
          toggle.call t false (s.windows.initialized t)] } := by
  cases toggle with
  | maximize =>
      change handleToplevelRequestMaximize { s with calls := [] } t = _
      rw [handleToplevelRequestMaximize]
      change r.maximized = true at hflag
      simp only [hr, hflag]
      rfl
  | fullscreen requested =>
      change handleToplevelRequestFullscreen { s with calls := [] } t requested = _
      rw [handleToplevelRequestFullscreen]
      change r.fullscreen = true at hflag
      simp only [hr, hflag]
      rfl

/-- A toggle that finds its flag unset sets it for the box of the output that the client
asks for, or else of the one that the window is found on. -/
theorem step_toggle_box {toggle : Toggle} (hr : s.windows.heap t = some r)
    (hflag : toggle.flag r = false) {id : OutputId} {box : Box}
    (hid : toggle.requested.or (outputOfToplevel s r) = some id)
    (hbox : wlrOutputLayoutGetBox s.outputLayout id = box) :
    step s (toggle.event t) =
      { s with
        calls := [.setSize t box.width box.height (s.windows.initialized t),
          toggle.call t true (s.windows.initialized t)]
        windows := s.windows.modify t fun r => { r with nodeX := box.x, nodeY := box.y } } := by
  subst hbox
  cases toggle with
  | maximize =>
      change handleToplevelRequestMaximize { s with calls := [] } t = _
      rw [handleToplevelRequestMaximize]
      change r.maximized = false at hflag
      change outputOfToplevel { s with calls := [] } r = some id at hid
      simp only [hr, hflag, hid]
      rfl
  | fullscreen requested =>
      change handleToplevelRequestFullscreen { s with calls := [] } t requested = _
      rw [handleToplevelRequestFullscreen]
      change r.fullscreen = false at hflag
      change requested.or (outputOfToplevel { s with calls := [] } r) = some id at hid
      cases requested with
      | none =>
          rw [Option.none_or] at hid
          simp only [hr, hflag, hid]
          rfl
      | some id' =>
          obtain rfl : id' = id := Option.some.inj hid
          simp only [hr, hflag]
          rfl

theorem step_toggle_sets {toggle : Toggle} (hr : s.windows.heap t = some r)
    (hflag : toggle.flag r = false) (hann : toggle.Announced s.outputLayout)
    (hout : s.outputLayout ≠ []) :
    ∃ o ∈ s.outputLayout, step s (toggle.event t) =
      { s with
        calls := [.setSize t o.box.width o.box.height (s.windows.initialized t),
          toggle.call t true (s.windows.initialized t)]
        windows := s.windows.modify t fun r =>
          { r with nodeX := o.box.x, nodeY := o.box.y } } := by
  obtain ⟨id, hid, hmem⟩ : ∃ id, toggle.requested.or (outputOfToplevel s r) = some id ∧
      ∃ o ∈ s.outputLayout, o.id = id := by
    obtain ⟨id, hid⟩ := Option.ne_none_iff_exists'.mp (outputOfToplevel_ne_none (r := r) hout)
    cases toggle with
    | maximize => exact ⟨id, hid, outputOfToplevel_mem hid⟩
    | fullscreen requested =>
        cases requested with
        | none => exact ⟨id, hid, outputOfToplevel_mem hid⟩
        | some id => exact ⟨id, rfl, hann id rfl⟩
  obtain ⟨o, ho, hbox⟩ := exists_wlrOutputLayoutGetBox hmem
  exact ⟨o, ho, step_toggle_box hr hflag hid hbox⟩

theorem step_toggle_nowhere {toggle : Toggle} (hr : s.windows.heap t = some r)
    (hflag : toggle.flag r = false) (hann : toggle.Announced s.outputLayout)
    (hout : s.outputLayout = []) : step s (toggle.event t) = { s with calls := [] } := by
  have hnear : outputOfToplevel { s with calls := [] } r = none := by
    rw [outputOfToplevel]
    simp only [hout]
    rfl
  cases toggle with
  | maximize =>
      change handleToplevelRequestMaximize { s with calls := [] } t = _
      rw [handleToplevelRequestMaximize]
      change r.maximized = false at hflag
      simp only [hr, hflag, hnear]
      rfl
  | fullscreen requested =>
      obtain rfl : requested = none := by
        cases requested with
        | none => rfl
        | some id =>
            obtain ⟨o, ho, -⟩ := hann id rfl
            rw [hout] at ho
            cases ho
      change handleToplevelRequestFullscreen { s with calls := [] } t none = _
      rw [handleToplevelRequestFullscreen]
      change r.fullscreen = false at hflag
      simp only [hr, hflag, hnear]
      rfl

end Requests

/-- A window whose scheduled flags are the ones that it has committed. -/
structure Acknowledged (layout : List Output) (t : ToplevelId)
    (p : ZenCompositor × ScheduledGeometry) (r : ZenToplevel) : Prop where
  heap : p.1.windows.heap t = some r
  outputs : p.1.outputLayout = layout
  flags : p.2.flags = { maximized := r.maximized, fullscreen := r.fullscreen }
  held : r.maximized = true ∨ r.fullscreen = true → AtOutput layout r

section Runs

variable {layout : List Output} {t : ToplevelId} {p : ZenCompositor × ScheduledGeometry}
  {r : ZenToplevel} {toggle : Toggle}

theorem schedule_toggle_calls (scheduled : ScheduledGeometry) (width height : Int)
    (on initialized : Bool) :
    [Call.setSize t width height initialized, toggle.call t on initialized].foldl
        (Call.scheduleGeometry t) scheduled =
      { flags := toggle.set scheduled.flags on, width, height } := by
  cases toggle <;> simp [Call.scheduleGeometry, Toggle.call, Toggle.set]

theorem stepToggle_heap {s : ZenCompositor} {scheduled : ScheduledGeometry}
    (hstep : step p.1 (toggle.event t) = s)
    (hcalls : s.calls.foldl (Call.scheduleGeometry t) p.2 = scheduled) :
    (stepToggle t p toggle).2 = scheduled ∧
      (stepToggle t p toggle).1.outputLayout = s.outputLayout ∧
      (stepToggle t p toggle).1.windows.heap t = (s.windows.heap t).map fun r =>
        { r with
          initialized := true
          maximized := scheduled.flags.maximized
          fullscreen := scheduled.flags.fullscreen } := by
  subst hstep hcalls
  refine ⟨rfl, rfl, ?_⟩
  exact Function.update_self ..

theorem stepToggle_clears (h : Acknowledged layout t p r) (hflag : toggle.flag r = true) :
    ∃ r', Acknowledged layout t (stepToggle t p toggle) r' ∧
      Toggled layout toggle r r' (stepToggle t p toggle).2 := by
  have hstep := step_toggle_clears h.heap hflag
  obtain ⟨hscheduled, hlayout, hheap⟩ :=
    stepToggle_heap hstep (schedule_toggle_calls p.2 0 0 false _)
  rw [show p.1.windows.heap t = some r from h.heap, Option.map_some] at hheap
  have hat : AtOutput layout r := by
    apply h.held
    cases toggle with
    | maximize => exact .inl hflag
    | fullscreen _ => exact .inr hflag
  refine ⟨_, ⟨hheap, hlayout.trans h.outputs, ?_, fun _ => hat⟩, ?_, ?_, fun _ => hat, ?_⟩
  · rw [hscheduled]
  · intro hset
    cases toggle <;> cases hset
  · intro _
    exact ⟨rfl, rfl⟩
  · intro _ _ _
    rw [hscheduled]
    exact ⟨hat, rfl, rfl⟩

theorem stepToggle_sets (h : Acknowledged layout t p r) (hflag : toggle.flag r = false)
    (hann : toggle.Announced layout) (hout : layout ≠ []) :
    ∃ r', Acknowledged layout t (stepToggle t p toggle) r' ∧
      Toggled layout toggle r r' (stepToggle t p toggle).2 := by
  obtain ⟨hr, rfl, hflags, -⟩ := h
  obtain ⟨o, ho, hstep⟩ := step_toggle_sets hr hflag hann hout
  obtain ⟨hscheduled, hlayout, hheap⟩ :=
    stepToggle_heap hstep (schedule_toggle_calls p.2 o.box.width o.box.height true _)
  dsimp only at hheap
  rw [Windows.modify_heap, if_pos rfl, hr, Option.map_some, Option.map_some] at hheap
  refine ⟨_, ⟨hheap, hlayout, ?_, fun _ => ⟨o, ho, rfl, rfl⟩⟩, ?_, ?_,
    fun _ => ⟨o, ho, rfl, rfl⟩, ?_⟩
  · rw [hscheduled]
  · intro _
    rw [hscheduled]
    exact ⟨o, ho, rfl⟩
  · intro hclear
    cases toggle <;> cases hclear
  · intro hmax hfull
    cases toggle with
    | maximize => cases hmax
    | fullscreen _ => cases hfull

theorem stepToggle_nowhere (h : Acknowledged layout t p r) (hflag : toggle.flag r = false)
    (hann : toggle.Announced layout) (hout : layout = []) :
    ∃ r', Acknowledged layout t (stepToggle t p toggle) r' ∧
      Toggled layout toggle r r' (stepToggle t p toggle).2 := by
  obtain ⟨hr, rfl, hflags, hheld⟩ := h
  have hstep := step_toggle_nowhere hr hflag hann hout
  obtain ⟨hscheduled, hlayout, hheap⟩ := stepToggle_heap hstep rfl
  rw [show p.1.windows.heap t = some r from hr, Option.map_some] at hheap
  have hnone : ∀ {r : ZenToplevel}, ¬ AtOutput p.1.outputLayout r := by
    rintro r ⟨o, ho, -⟩
    rw [hout] at ho
    cases ho
  have hoff : ¬ (p.2.flags.maximized = true ∨ p.2.flags.fullscreen = true) := by
    rw [hflags]
    exact fun hon => hnone (hheld hon)
  refine ⟨_, ⟨hheap, hlayout, ?_, fun hon => absurd hon hoff⟩, ?_, ?_,
    fun hon => absurd hon hoff, ?_⟩
  · rw [hscheduled]
  · intro hset
    cases toggle with
    | maximize => exact absurd (.inl hset) hoff
    | fullscreen _ => exact absurd (.inr hset) hoff
  · intro _
    exact ⟨rfl, rfl⟩
  · intro _ _ hsome
    exact absurd hout hsome

theorem stepToggle_toggled (h : Acknowledged layout t p r) (hann : toggle.Announced layout) :
    ∃ r', Acknowledged layout t (stepToggle t p toggle) r' ∧
      Toggled layout toggle r r' (stepToggle t p toggle).2 := by
  cases hflag : toggle.flag r with
  | true => exact stepToggle_clears h hflag
  | false =>
      rcases eq_or_ne layout [] with hout | hout
      · exact stepToggle_nowhere h hflag hann hout
      · exact stepToggle_sets h hflag hann hout

/-- However a floating window is toggled, it lies on an output while a flag is set, with an
output's size when the toggle set it, and a cleared flag leaves it where it is. -/
theorem run_toggled {s : ZenCompositor} {scheduled : ScheduledGeometry}
    (hr : s.windows.heap t = some r) (hmax : r.maximized = false)
    (hfull : r.fullscreen = false)
    (hscheduled : scheduled.flags = { maximized := false, fullscreen := false })
    (toggles : List Toggle) (hann : ∀ toggle ∈ toggles, toggle.Announced s.outputLayout) :
    Along (stepToggle t)
      (fun p toggle => ∃ r r', p.1.windows.heap t = some r ∧
        (stepToggle t p toggle).1.windows.heap t = some r' ∧
        Toggled s.outputLayout toggle r r' (stepToggle t p toggle).2)
      (s, scheduled) toggles := by
  have hstart : Acknowledged s.outputLayout t (s, scheduled) r := by
    refine ⟨hr, rfl, ?_, ?_⟩
    · rw [hmax, hfull]
      exact hscheduled
    · rw [hmax, hfull]
      rintro (⟨⟨⟩⟩ | ⟨⟨⟩⟩)
  refine Along.of_invariant (P := fun _ toggle => toggle.Announced s.outputLayout)
    (I := fun p => ∃ r, Acknowledged s.outputLayout t p r) ?_ ?_
    ((along_const _ _ _).mpr hann) ⟨r, hstart⟩
  · rintro p toggle ⟨r, h⟩ hann
    obtain ⟨r', h', -⟩ := stepToggle_toggled h hann
    exact ⟨r', h'⟩
  · rintro p toggle ⟨r, h⟩ hann
    obtain ⟨r', h', htoggled⟩ := stepToggle_toggled h hann
    exact ⟨r, r', h.heap, h'.heap, htoggled⟩

end Runs

/-- A shown window on a full HD output, dragged to `(100, 50)`. -/
def draggedWindow : ZenCompositor :=
  exec step
    (created [{ id := 0, enabled := true, width := 1920, height := 1080, transposed := false
                scale := 1, x := 0, y := 0 }] [] true)
    (showWindow 1 11 ++
      [.cursorMotion 10 10 none, .cursorButton true none, .requestMove 1,
        .cursorMotion 110 60 none, .cursorButton false none])

def floatingGeometry : ScheduledGeometry :=
  { flags := { maximized := false, fullscreen := false }, width := 0, height := 0 }

theorem run_toggled_dragged :
    ∃ r, draggedWindow.windows.heap 1 = some r ∧ r.nodeX = 100 ∧ r.nodeY = 50 ∧
      Along (stepToggle 1)
        (fun p toggle => ∃ r r', p.1.windows.heap 1 = some r ∧
          (stepToggle 1 p toggle).1.windows.heap 1 = some r' ∧
          Toggled draggedWindow.outputLayout toggle r r' (stepToggle 1 p toggle).2)
        (draggedWindow, floatingGeometry) [.maximize, .fullscreen (some 0), .maximize] := by
  have hr : draggedWindow.windows.heap 1 = some
      { surface := 11, initialized := true, mapped := true, activated := true
        maximized := false, fullscreen := false, nodeX := 100, nodeY := 50
        nodeEnabled := true } := by decide +kernel
  refine ⟨_, hr, rfl, rfl, run_toggled hr rfl rfl rfl _ ?_⟩
  intro toggle htoggle
  simp only [List.mem_cons, List.not_mem_nil, or_false] at htoggle
  rcases htoggle with rfl | rfl | rfl
  · trivial
  · rintro id ⟨⟩
    exact ⟨_, List.mem_singleton_self _, rfl⟩
  · trivial

/-- The window is not put back where it was, and a fullscreen window that stops being
maximized is left without an output's size. -/
theorem toggles_do_not_restore :
    let unmaximized := exec (stepToggle 1) (draggedWindow, floatingGeometry)
      [.maximize, .maximize]
    let fullscreen := exec (stepToggle 1) (draggedWindow, floatingGeometry)
      [.maximize, .fullscreen none, .maximize]
    ¬ (∀ r ∈ unmaximized.1.windows.heap 1,
        Restores draggedWindow.outputLayout 100 50 r unmaximized.2) ∧
      ¬ (∀ r ∈ fullscreen.1.windows.heap 1,
        Restores draggedWindow.outputLayout 100 50 r fullscreen.2) := by
  intro unmaximized fullscreen
  constructor
  · intro h
    have hr : unmaximized.1.windows.heap 1 = some
        { surface := 11, initialized := true, mapped := true, activated := true
          maximized := false, fullscreen := false, nodeX := 0, nodeY := 0
          nodeEnabled := true } := by decide +kernel
    have hx : (0 : Int) = 100 := ((h _ hr).floating rfl rfl).1
    omega
  · intro h
    have hr : fullscreen.1.windows.heap 1 = some
        { surface := 11, initialized := true, mapped := true, activated := true
          maximized := false, fullscreen := true, nodeX := 0, nodeY := 0
          nodeEnabled := true } := by decide +kernel
    have hwidth : fullscreen.2.width = 0 := by decide +kernel
    obtain ⟨o, ho, hbox⟩ := (h _ hr).fullscreen rfl
    have hsize : ∀ o ∈ draggedWindow.outputLayout, o.box.width ≠ 0 := by decide +kernel
    apply hsize o ho
    rw [hbox]
    exact hwidth

end ZenOS.Compositor
