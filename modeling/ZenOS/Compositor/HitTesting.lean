import ZenOS.Compositor.Xwayland

/-!
What a click finds in the scene graph.  The data pointers of the graph are those of the live
toplevels as long as no X11 window has a node and no scene tree outlives its toplevel.
-/

namespace ZenOS.Compositor.Xwayland

open ZenOS.Library.Runs

/-- From every node `toplevel_at_scene_node` finds nothing or a live toplevel of the list. -/
def WellTyped (p : Bridge) : Prop :=
  ∀ chain, p.InGraph chain → ∀ r ∈ toplevelAtSceneNode p.data chain,
    ∃ t ∈ p.compositor.windows.toplevels, p.compositor.windows.Live t ∧ r = .toplevel t

def StaysWellTyped (p : Bridge) (e : BridgeEvent) : Prop :=
  WellTyped (stepBridge p e) ∧ (stepBridge p e).corrupted = false

/-- The event gives no X11 window a scene node, and leaves no scene tree without its
toplevel. -/
def BridgeEvent.Typed : BridgeEvent → Prop
  | .associate _ _ ok => ok = false
  | .toplevelDestroy .. => False
  | _ => True

instance : ∀ e : BridgeEvent, Decidable e.Typed
  | .associate .. => inferInstanceAs (Decidable (_ = _))
  | .toplevelDestroy .. => inferInstanceAs (Decidable False)
  | .compositor _ | .cursorButton .. | .xdgSurfaceDestroy _ | .newXwaylandSurface ..
  | .dissociate _ | .xwsMap _ | .xwsUnmap _ | .xwsDestroy _ =>
      inferInstanceAs (Decidable True)

/-- Every live toplevel, and nothing else, has the tree that points to it. -/
def pointers (w : Windows) : GraphNode → Option Record
  | .scene (.toplevel t) => if w.Live t then some (.toplevel t) else none
  | _ => none

section Pointers

variable {w : Windows} {data : GraphNode → Option Record}

theorem pointers_congr {w' : Windows} (h : ∀ t, w'.Live t ↔ w.Live t) :
    pointers w' = pointers w := by
  funext n
  unfold pointers
  split
  · next t => exact if_congr (h t) rfl rfl
  · rfl

theorem pointers_of_ne {w' : Windows} {t : ToplevelId} (h : ∀ u, u ≠ t → (w'.Live u ↔ w.Live u))
    {n : GraphNode} (hn : n ≠ .scene (.toplevel t)) : pointers w n = pointers w' n := by
  unfold pointers
  split
  · next u =>
    have hu : u ≠ t := fun hu => hn (hu ▸ rfl)
    exact if_congr (h u hu).symm rfl rfl
  · rfl

theorem eq_toplevel_of_pointers {n : GraphNode} {r : Record} (h : pointers w n = some r) :
    ∃ t, w.Live t ∧ n = .scene (.toplevel t) ∧ r = .toplevel t := by
  unfold pointers at h
  split at h
  · next t =>
    split at h
    · next ht => exact ⟨t, ht, rfl, (Option.some.inj h).symm⟩
    · cases h
  · cases h

theorem exists_data_of_walk {chain : List GraphNode} {r : Record}
    (h : toplevelAtSceneNode data chain = some r) : ∃ n ∈ chain, data n = some r := by
  induction chain with
  | nil => cases h
  | cons n ancestors ih =>
      rw [toplevelAtSceneNode] at h
      split at h
      · next hn => exact ⟨n, List.mem_cons_self, hn.trans h⟩
      · obtain ⟨n', hn', hdata⟩ := ih h
        exact ⟨n', List.mem_cons_of_mem n hn', hdata⟩

theorem walk_of_data {n : GraphNode} {r : Record} (h : data n = some r)
    (ancestors : List GraphNode) : toplevelAtSceneNode data (n :: ancestors) = some r := by
  rw [toplevelAtSceneNode, h]

end Pointers

section Steps

variable {s : ZenCompositor}

theorem apply_live {w : Windows} {a : WindowAction} (hcreate : ∀ t surface, a ≠ .create t surface)
    (hdestroy : ∀ t, a ≠ .destroy t) (u : ToplevelId) : (w.apply a).Live u ↔ w.Live u := by
  cases a with
  | idle | grab | release => rfl
  | create t surface => exact absurd rfl (hcreate t surface)
  | destroy t => exact absurd rfl (hdestroy t)
  | commit | position => exact Windows.modify_live ..
  | focus target => exact Windows.focus_live ..
  | map t =>
      rw [Windows.apply, Windows.focus_live]
      exact (Windows.modify_live ..).trans (Windows.modify_live ..)
  | unmap t =>
      have hhide : (w.hide t).Live u ↔ w.Live u :=
        (Windows.modify_live ..).trans (Windows.modify_live ..)
      rw [Windows.apply, Windows.modify_live]
      split
      · exact (Windows.focus_live ..).trans hhide
      · exact hhide

theorem create_live (w : Windows) (t : ToplevelId) (surface : SurfaceId) (u : ToplevelId) :
    (w.apply (.create t surface)).Live u ↔ u = t ∨ w.Live u := by
  rcases eq_or_ne u t with rfl | hu
  · simp [Windows.apply, Windows.Live]
  · simp [Windows.apply, Windows.Live, hu]

theorem destroy_live (w : Windows) (t u : ToplevelId) :
    (w.apply (.destroy t)).Live u ↔ u ≠ t ∧ w.Live u := by
  rw [Windows.apply, Windows.free_live]
  split
  · rw [Windows.focus_live]
  · rfl

theorem nodeData_pointers (s : ZenCompositor) (e : Event) :
    nodeData (pointers s.windows) e = pointers (step s e).windows := by
  rw [step_windows]
  have unchanged (hnew : ∀ t surface, e ≠ .newToplevel t surface true)
      (hdestroy : ∀ t, e ≠ .destroy t) :
      pointers (s.windows.apply (windowAction s e)) = pointers s.windows := by
    refine pointers_congr fun t => apply_live ?_ ?_ t
    · intro t surface ha
      cases performs_of_eq ha
      exact hnew t surface rfl
    · intro t ha
      cases performs_of_eq ha
      exact hdestroy t rfl
  cases e with
  | newToplevel t surface ok =>
      cases ok with
      | false => rfl
      | true =>
          funext n
          rcases eq_or_ne n (.scene (.toplevel t)) with rfl | hn
          · simp [nodeData, pointers, windowAction, create_live]
          · rw [nodeData, Function.update_of_ne hn]
            refine pointers_of_ne (fun u hu => ?_) hn
            exact (create_live ..).trans (or_iff_right hu)
  | destroy t =>
      funext n
      rcases eq_or_ne n (.scene (.toplevel t)) with rfl | hn
      · simp [nodeData, pointers, windowAction, destroy_live]
      · rw [nodeData, Function.update_of_ne hn]
        refine pointers_of_ne (fun u hu => ?_) hn
        exact (destroy_live ..).trans (and_iff_right hu)
  | _ =>
      refine (unchanged ?_ ?_).symm
      · rintro t surface ⟨⟩
      · rintro t ⟨⟩

end Steps

/-- The data pointers of the graph are those of the live toplevels. -/
structure Typed (p : Bridge) : Prop where
  windows : p.compositor.windows.WellFormed
  data : p.data = pointers p.compositor.windows
  sound : p.corrupted = false

namespace Typed

variable {p : Bridge}

theorem wellTyped (h : Typed p) : WellTyped p := by
  intro chain _ r hr
  rw [h.data] at hr
  obtain ⟨n, -, hn⟩ := exists_data_of_walk hr
  obtain ⟨t, hlive, -, rfl⟩ := eq_toplevel_of_pointers hn
  exact ⟨t, (h.windows.live_iff t).mp hlive, hlive, rfl⟩

theorem of_eq (h : Typed p) {p' : Bridge}
    (hwindows : p'.compositor.windows = p.compositor.windows) (hdata : p'.data = p.data)
    (hsound : p'.corrupted = p.corrupted) : Typed p' where
  windows := hwindows ▸ h.windows
  data := by rw [hdata, hwindows, h.data]
  sound := hsound.trans h.sound

theorem compositor (h : Typed p) {e : Event} (he : Admissible p.compositor e) :
    Typed { p with compositor := step p.compositor e, data := nodeData p.data e } where
  windows := step_windows_wellFormed h.windows he
  data := by rw [h.data, nodeData_pointers]
  sound := h.sound

theorem clear (h : Typed p) {n : GraphNode} (hn : pointers p.compositor.windows n = none) :
    Function.update p.data n none = p.data := by
  rw [← hn, ← h.data]
  exact Function.update_eq_self n p.data

theorem cursorButton (h : Typed p) (pressed : Bool) {node : Option (List GraphNode)}
    (hnode : ∀ chain ∈ node, p.InGraph chain) : Typed (handleCursorButton p pressed node) := by
  rw [handleCursorButton]
  split
  · refine h.compositor (e := .cursorButton pressed none) ?_
    rintro t ⟨⟩
  · next t ht =>
    split
    · next hlive =>
      refine h.compositor (e := .cursorButton pressed (some (toplevelHit t))) ?_
      rintro u ⟨⟩
      exact hlive
    · next hdead =>
      cases pressed with
      | false => cases ht
      | true =>
          obtain ⟨chain, hchain, hwalk⟩ := Option.bind_eq_some_iff.mp ht
          obtain ⟨u, -, hlive, hu⟩ := h.wellTyped chain (hnode chain hchain) _ hwalk
          cases hu
          exact absurd hlive hdead
  · next x hx =>
    cases pressed with
    | false => cases hx
    | true =>
        obtain ⟨chain, hchain, hwalk⟩ := Option.bind_eq_some_iff.mp hx
        obtain ⟨u, -, -, hu⟩ := h.wellTyped chain (hnode chain hchain) _ hwalk
        cases hu

theorem xwsMap (h : Typed p) (x : XwsId) : Typed (handleXwsMap p x) := by
  rw [handleXwsMap]
  split
  · exact h.of_eq (wlrSeatKeyboardNotifyEnter_windows ..) rfl rfl
  · exact h.of_eq rfl rfl rfl

theorem handleBridge (h : Typed p) {e : BridgeEvent} (he : BridgeAdmissible p e)
    (htyped : e.Typed) : Typed (handleBridge p e) := by
  cases e with
  | compositor e =>
      refine h.compositor ?_
      cases e with
      | cursorButton | focus => exact he.elim
      | _ => exact he
  | cursorButton pressed node => exact h.cursorButton pressed he
  | toplevelDestroy t tree => exact htyped.elim
  | xdgSurfaceDestroy tree => exact h.of_eq rfl (h.clear rfl) rfl
  | newXwaylandSurface x ok =>
      cases ok with
      | false => exact h
      | true => exact h.of_eq rfl rfl rfl
  | associate x surface ok =>
      obtain rfl : ok = false := htyped
      exact h.of_eq rfl rfl rfl
  | dissociate x => exact h.of_eq rfl (h.clear rfl) rfl
  | xwsDestroy x => exact h.of_eq rfl (h.clear rfl) rfl
  | xwsMap x =>
      have hmapped : Typed (p.modify x fun r => { r with mapped := true }) :=
        h.of_eq rfl rfl rfl
      rw [Xwayland.handleBridge]
      split
      · exact hmapped.xwsMap x
      · exact hmapped
  | xwsUnmap x =>
      rw [Xwayland.handleBridge]
      split
      · exact h.of_eq rfl rfl rfl
      · exact h.of_eq rfl rfl rfl

theorem clearCalls (h : Typed p) :
    Typed { p with compositor := { p.compositor with calls := [] } } :=
  h.of_eq rfl rfl rfl

theorem step (h : Typed p) {e : BridgeEvent} (he : BridgeAdmissible p e) (htyped : e.Typed) :
    Typed (stepBridge p e) := by
  rw [stepBridge_of_sound h.sound]
  refine h.clearCalls.handleBridge ?_ htyped
  cases e with
  | compositor e => cases e <;> exact he
  | cursorButton pressed node =>
      intro chain hchain
      have hin := he chain hchain
      clear hchain
      induction hin with
      | root => exact .root
      | @child node parent ancestors _ hchild ih =>
          refine .child ih ?_
          cases parent <;> cases node <;> exact hchild
  | _ => exact he

end Typed

section Violations

variable {p : Bridge}

theorem not_wellTyped {n : GraphNode} {r : Record} (hchild : p.Child (.scene .root) n)
    (hdata : p.data n = some r) (hr : ∀ t, r = .toplevel t → ¬ p.compositor.windows.Live t) :
    ¬ WellTyped p := by
  intro hwell
  have hwalk : toplevelAtSceneNode p.data [n, .scene .root] = some r := walk_of_data hdata _
  obtain ⟨t, -, hlive, ht⟩ := hwell _ (.child .root hchild) r hwalk
  exact hr t ht hlive

variable (h : Typed p)

include h

theorem associate_not_wellTyped {x : XwsId} (hx : ∃ r ∈ p.xwaylandSurfaces x, r.surface = none)
    (surface : SurfaceId) : ¬ WellTyped (stepBridge p (.associate x surface true)) := by
  obtain ⟨r, hr, -⟩ := hx
  have hrecord : p.xwaylandSurfaces x = some r := hr
  rw [stepBridge_of_sound h.sound]
  refine not_wellTyped (n := .xwayland x) (r := .xwayland x) ?_ (Function.update_self ..) ?_
  · refine ⟨{ r with
      surface := some surface, sceneSurface := some { enabled := true }, listening := true },
      ?_, rfl⟩
    simp [handleBridge, handleXwsAssociate, Bridge.modify, hrecord]
  · rintro t ⟨⟩

theorem toplevelDestroy_not_wellTyped {t : ToplevelId} (ht : p.compositor.windows.Live t)
    (tree : Nat) : ¬ WellTyped (stepBridge p (.toplevelDestroy t tree)) := by
  have hdata : p.data (.scene (.toplevel t)) = some (.toplevel t) := by
    rw [h.data, pointers, if_pos ht]
  rw [stepBridge_of_sound h.sound]
  refine not_wellTyped (n := .xdgTree tree) (r := .toplevel t) List.mem_cons_self
    ((Function.update_self ..).trans hdata) ?_
  rintro u ⟨⟩ hlive
  change (step _ (.destroy t)).windows.Live t at hlive
  rw [step_windows] at hlive
  exact ((destroy_live _ t t).mp hlive).1 rfl

theorem staysWellTyped_iff {e : BridgeEvent} (he : BridgeAdmissible p e) :
    StaysWellTyped p e ↔ e.Typed := by
  constructor
  · intro hstays
    cases e with
    | associate x surface ok =>
        cases ok with
        | false => rfl
        | true => exact absurd hstays.1 (associate_not_wellTyped h he surface)
    | toplevelDestroy t tree => exact toplevelDestroy_not_wellTyped h he.1 tree hstays.1
    | _ => trivial
  · intro htyped
    have hstep := h.step he htyped
    exact ⟨hstep.wellTyped, hstep.sound⟩

end Violations

section Runs

variable (outputs : List Output) (bindings : List ZenKeybinding) (idleTimer : Bool)

theorem bridgeCreated_typed : Typed (bridgeCreated (created outputs bindings idleTimer)) where
  windows := created_windows_wellFormed outputs bindings idleTimer
  data := by
    funext n
    unfold pointers
    split
    · rfl
    · rfl
  sound := rfl

/-- In every run hit-testing finds only live toplevels, exactly when no X11 window is given a
scene node and no toplevel is destroyed before its xdg surface. -/
theorem run_staysWellTyped_iff (events : List BridgeEvent)
    (h : Along stepBridge BridgeAdmissible
      (bridgeCreated (created outputs bindings idleTimer)) events) :
    Along stepBridge StaysWellTyped (bridgeCreated (created outputs bindings idleTimer)) events ↔
      ∀ e ∈ events, e.Typed := by
  let p := bridgeCreated (created outputs bindings idleTimer)
  have htyped : Along stepBridge StaysWellTyped p events ↔
      Along stepBridge (fun _ e => e.Typed) p events := by
    refine along_iff_along (I := Typed) (fun p e hp he hstays => ?_)
      (fun p e hp he => staysWellTyped_iff hp he) h
      (bridgeCreated_typed outputs bindings idleTimer)
    exact hp.step he ((staysWellTyped_iff hp he).mp hstays)
  exact htyped.trans (along_const _ _ events)

/-- A window is shown and clicked while an X11 window has a record but no surface. -/
theorem run_staysWellTyped_iff_click :
    let events : List BridgeEvent :=
      [.newXwaylandSurface 1 true] ++ (showWindow 1 11).map .compositor ++
        [.cursorButton true
          (some [.inner (.scene (.toplevel 1)) 0, .scene (.toplevel 1), .scene .root])]
    Along stepBridge StaysWellTyped (bridgeCreated (created [] [] true)) events ↔
      ∀ e ∈ events, e.Typed := by
  refine run_staysWellTyped_iff [] [] true _ ⟨rfl, ?_, ?_, ?_, ?_, trivial⟩
  · exact (by decide : ¬ (created [] [] true).windows.Live 1)
  · exact (by decide : (step (created [] [] true) (.newToplevel 1 11 true)).windows.Live 1)
  · exact (by decide : (exec step (created [] [] true)
      [.newToplevel 1 11 true, .commit 1 false false]).windows.Live 1)
  · rintro chain ⟨⟩
    refine .child (.child .root ?_) ⟨rfl, trivial⟩
    exact (by decide : SceneNode.toplevel 1 ∈
      (exec step (created [] [] true) (showWindow 1 11)).scene.root)

end Runs

/-- An X11 window is shown and clicked; and a toplevel goes before its xdg surface. -/
theorem x11_window_found_as_toplevel :
    let p := bridgeCreated (created [] [] true)
    let show11 : List BridgeEvent := [.newXwaylandSurface 1 true, .associate 1 21 true, .xwsMap 1]
    let click : BridgeEvent := .cursorButton true (some [.xwayland 1, .scene .root])
    let close : List BridgeEvent :=
      (showWindow 1 11).map .compositor ++ [.compositor (.unmap 1), .toplevelDestroy 1 0]
    toplevelAtSceneNode (exec stepBridge p show11).data [.xwayland 1, .scene .root] =
        some (.xwayland 1) ∧
      Along stepBridge BridgeAdmissible p (show11 ++ [click]) ∧
      (exec stepBridge p (show11 ++ [click])).corrupted = true ∧
      toplevelAtSceneNode (exec stepBridge p close).data [.xdgTree 0, .scene .root] =
        some (.toplevel 1) ∧
      ¬ (exec stepBridge p close).compositor.windows.Live 1 ∧
      ¬ Along stepBridge StaysWellTyped p show11 := by
  intro p show11 click close
  have hin : (exec stepBridge p show11).InGraph [.xwayland 1, .scene .root] :=
    .child .root ⟨_, rfl, rfl⟩
  refine ⟨rfl, ⟨rfl, ⟨_, rfl, rfl⟩, ⟨_, rfl, rfl, rfl⟩, ?_, trivial⟩, rfl, rfl, by decide, ?_⟩
  · rintro chain ⟨⟩
    exact hin
  · rintro ⟨-, -, ⟨hwell, -⟩, -⟩
    obtain ⟨t, -, -, ht⟩ := hwell _ hin _ rfl
    cases ht

end ZenOS.Compositor.Xwayland
