import ZenOS.Compositor.Step
import ZenOS.Library.Runs

/-!
The requests of a client to be maximized or fullscreen.  A client asks for a flag, and
sees of the answer what the next configure carries.
-/

namespace ZenOS.Compositor

open ZenOS.Library.Runs

/-- The flags of the last scheduled configure of a toplevel: `scheduled` in its
`wlr_xdg_toplevel`, which each `wlr_xdg_toplevel_set_` function updates. -/
structure Scheduled where
  maximized : Bool
  fullscreen : Bool
  deriving DecidableEq

def Call.schedule (scheduled : ToplevelId → Scheduled) : Call → ToplevelId → Scheduled
  | .setMaximized t maximized _ =>
      Function.update scheduled t { scheduled t with maximized }
  | .setFullscreen t fullscreen _ =>
      Function.update scheduled t { scheduled t with fullscreen }
  | _ => scheduled

/-- An event with the flag that a request asks for: `requested.maximized` or
`requested.fullscreen`, which wlroots sets before it emits the event. -/
structure Asked where
  event : Event
  flag : Bool

/-- The compositor with the flags that it has scheduled. -/
def stepScheduled (p : ZenCompositor × (ToplevelId → Scheduled)) (a : Asked) :
    ZenCompositor × (ToplevelId → Scheduled) :=
  let s := step p.1 a.event
  (s, s.calls.foldl Call.schedule p.2)

/-- The toplevel of a request to be maximized or fullscreen. -/
def Event.asks : Event → Option ToplevelId
  | .requestMaximize t | .requestFullscreen t _ => some t
  | _ => none

/-- A request of an initialised toplevel while there is an output. -/
def Due (s : ZenCompositor) (e : Event) : Prop :=
  ∃ t, e.asks = some t ∧ s.windows.initialized t = true ∧ s.outputLayout ≠ []

/-- The scheduled flag is the one that the request asked for. -/
def Honoured (scheduled : ToplevelId → Scheduled) (a : Asked) : Prop :=
  match a.event with
  | .requestMaximize t => (scheduled t).maximized = a.flag
  | .requestFullscreen t _ => (scheduled t).fullscreen = a.flag
  | _ => True

/-- The request asks for another flag than the current one, which the client has
acknowledged and committed. -/
def Reverses (w : Windows) (a : Asked) : Prop :=
  match a.event with
  | .requestMaximize t => ∀ r ∈ w.heap t, a.flag ≠ r.maximized
  | .requestFullscreen t _ => ∀ r ∈ w.heap t, a.flag ≠ r.fullscreen
  | _ => True

section Requests

variable {s : ZenCompositor} {t : ToplevelId} {r : ZenToplevel}

theorem outputOfToplevel_ne_none (hout : s.outputLayout ≠ []) :
    outputOfToplevel s r ≠ none := by
  rw [outputOfToplevel]
  split
  · nofun
  · cases hlayout : s.outputLayout with
    | nil => exact absurd hlayout hout
    | cons o layout => nofun

theorem requestMaximize_calls (hr : s.windows.heap t = some r) (hout : s.outputLayout ≠ []) :
    ∃ width height, (handleToplevelRequestMaximize s t).calls =
      s.calls ++ [.setSize t width height (s.windows.initialized t),
        .setMaximized t (!r.maximized) (s.windows.initialized t)] := by
  rw [handleToplevelRequestMaximize, hr]
  rcases hmax : r.maximized with _ | _
  · obtain ⟨o, ho⟩ := Option.ne_none_iff_exists'.mp (outputOfToplevel_ne_none (r := r) hout)
    refine ⟨(wlrOutputLayoutGetBox s.outputLayout o).width,
      (wlrOutputLayoutGetBox s.outputLayout o).height, ?_⟩
    simp only [hmax, Bool.not_false, if_true, ho]
    exact List.append_assoc ..
  · refine ⟨0, 0, ?_⟩
    simp only [hmax, Bool.not_true, Bool.false_eq_true, if_false]
    exact List.append_assoc ..

theorem requestFullscreen_calls (requested : Option OutputId)
    (hr : s.windows.heap t = some r) (hout : s.outputLayout ≠ []) :
    ∃ width height, (handleToplevelRequestFullscreen s t requested).calls =
      s.calls ++ [.setSize t width height (s.windows.initialized t),
        .setFullscreen t (!r.fullscreen) (s.windows.initialized t)] := by
  rw [handleToplevelRequestFullscreen, hr]
  rcases hfull : r.fullscreen with _ | _
  · rcases requested with _ | o
    · obtain ⟨o, ho⟩ := Option.ne_none_iff_exists'.mp (outputOfToplevel_ne_none (r := r) hout)
      refine ⟨(wlrOutputLayoutGetBox s.outputLayout o).width,
        (wlrOutputLayoutGetBox s.outputLayout o).height, ?_⟩
      simp only [hfull, Bool.not_false, if_true, ho]
      exact List.append_assoc ..
    · refine ⟨(wlrOutputLayoutGetBox s.outputLayout o).width,
        (wlrOutputLayoutGetBox s.outputLayout o).height, ?_⟩
      simp only [hfull, Bool.not_false, if_true]
      exact List.append_assoc ..
  · refine ⟨0, 0, ?_⟩
    simp only [hfull, Bool.not_true, Bool.false_eq_true, if_false]
    exact List.append_assoc ..

theorem honoured_iff (p : ZenCompositor × (ToplevelId → Scheduled)) (a : Asked)
    (hdue : Due p.1 a.event) :
    Honoured (stepScheduled p a).2 a ↔ Reverses p.1.windows a := by
  have hnot : ∀ flag current : Bool, (!current) = flag ↔ flag ≠ current := by decide
  obtain ⟨t, hasks, hinit, hout⟩ := hdue
  obtain ⟨e, flag⟩ := a
  obtain ⟨r, hr⟩ : ∃ r, p.1.windows.heap t = some r := by
    rcases hheap : p.1.windows.heap t with _ | r
    · rw [Windows.initialized, hheap] at hinit
      cases hinit
    · exact ⟨r, rfl⟩
  cases e with
  | requestMaximize u =>
      cases hasks
      obtain ⟨width, height, hcalls⟩ :=
        requestMaximize_calls (s := { p.1 with calls := [] }) hr hout
      have hstep : (stepScheduled p ⟨.requestMaximize t, flag⟩).2 =
          (handleToplevelRequestMaximize { p.1 with calls := [] } t).calls.foldl
            Call.schedule p.2 := rfl
      rw [Honoured, Reverses, hstep, hcalls]
      simp [Call.schedule, hr, hnot]
  | requestFullscreen u requested =>
      cases hasks
      obtain ⟨width, height, hcalls⟩ :=
        requestFullscreen_calls (s := { p.1 with calls := [] }) requested hr hout
      have hstep : (stepScheduled p ⟨.requestFullscreen t requested, flag⟩).2 =
          (handleToplevelRequestFullscreen { p.1 with calls := [] } t requested).calls.foldl
            Call.schedule p.2 := rfl
      rw [Honoured, Reverses, hstep, hcalls]
      simp [Call.schedule, hr, hnot]
  | _ => cases hasks

end Requests

/-- All requests of a run are honoured exactly when each reverses the flag that the client
has committed last: the handlers toggle `current` and never look at `requested`. -/
theorem run_honoured_iff (outputs : List Output) (bindings : List ZenKeybinding)
    (idleTimer : Bool) (events : List Asked) :
    Along stepScheduled
        (fun p a => Due p.1 a.event → Honoured (stepScheduled p a).2 a)
        (created outputs bindings idleTimer, fun _ => ⟨false, false⟩) events ↔
      Along stepScheduled (fun p a => Due p.1 a.event → Reverses p.1.windows a)
        (created outputs bindings idleTimer, fun _ => ⟨false, false⟩) events := by
  refine along_iff_along (I := fun _ => True) (fun _ _ _ _ _ => trivial) ?_
    (along_true _ _) trivial
  intro p a _ _
  exact forall_congr' fun hdue => honoured_iff p a hdue

/-- A client maximizes its window and takes that back before it has seen the configure:
the second request maximizes the window again. -/
theorem reversed_request_is_lost :
    let output : Output :=
      { id := 0, enabled := true, width := 1920, height := 1080, transposed := false
        scale := 1, x := 0, y := 0 }
    let opening : List Asked := (showWindow 1 11).map fun e => ⟨e, false⟩
    let p := exec stepScheduled (created [output] [] true, fun _ => ⟨false, false⟩)
      (opening ++ [⟨.requestMaximize 1, true⟩])
    let a : Asked := ⟨.requestMaximize 1, false⟩
    Due p.1 a.event ∧ ((stepScheduled p a).2 1).maximized = true ∧
      ¬ Along stepScheduled
        (fun p a => Due p.1 a.event → Honoured (stepScheduled p a).2 a)
        (created [output] [] true, fun _ => ⟨false, false⟩)
        (opening ++ [⟨.requestMaximize 1, true⟩, a]) := by
  intro output opening p a
  have hdue : Due p.1 a.event := ⟨1, rfl, by decide +kernel, by decide +kernel⟩
  have hscheduled : ((stepScheduled p a).2 1).maximized = true := by decide +kernel
  refine ⟨hdue, hscheduled, fun halong => ?_⟩
  obtain ⟨-, -, -, -, hlast, -⟩ := halong
  have hhonoured : ((stepScheduled p a).2 1).maximized = false := hlast hdue
  rw [hscheduled] at hhonoured
  cases hhonoured

end ZenOS.Compositor
