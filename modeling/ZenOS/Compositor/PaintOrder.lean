import ZenOS.Compositor.FocusHistory
import ZenOS.Compositor.LayerOrder

/-!
The windows of the scene.  Their scene nodes and the MRU list are kept by different calls, and
yet in every reachable state the toplevels are painted in the reverse of the MRU list.
-/

namespace ZenOS.Compositor

open ZenOS.Library.Runs ZenOS.Library.Stacking

/-- The toplevels among the children of the root, bottom first. -/
def Scene.toplevels (sc : Scene) : List ToplevelId :=
  sc.root.filterMap SceneNode.data

/-- The toplevels lie in the scene as the MRU list has them, its head on top. -/
def Stacked (s : ZenCompositor) : Prop :=
  s.scene.toplevels = s.windows.toplevels.reverse

theorem SceneNode.data_eq_some_iff (t : ToplevelId) (node : SceneNode) :
    node.data = some t ↔ node = .toplevel t := by
  cases node <;> simp [SceneNode.data]

theorem map_filterMap_data (nodes : List SceneNode) :
    (nodes.filterMap SceneNode.data).map SceneNode.toplevel = nodes.filter (·.data.isSome) := by
  induction nodes with
  | nil => rfl
  | cons node nodes ih =>
      cases hd : node.data with
      | none =>
          rw [List.filterMap_cons_none hd, List.filter_cons_of_neg (by simp [hd]), ih]
      | some t =>
          rw [List.filterMap_cons_some hd, List.filter_cons_of_pos (by simp [hd]), List.map_cons,
            ih, (SceneNode.data_eq_some_iff t node).mp hd]

section Scene

variable {sc : Scene} {t : ToplevelId}

theorem Scene.mem_toplevels : t ∈ sc.toplevels ↔ .toplevel t ∈ sc.root := by
  rw [Scene.toplevels, List.mem_filterMap]
  simp [SceneNode.data_eq_some_iff]

theorem Scene.toplevels_create : (sc.create .root (.toplevel t)).toplevels = sc.toplevels ++ [t] :=
  List.filterMap_append

theorem Scene.toplevels_destroy :
    (sc.destroy .root (.toplevel t)).toplevels = sc.toplevels.erase t :=
  filterMap_erase (SceneNode.data_eq_some_iff t) sc.root

theorem Scene.toplevels_raiseToTop (ht : t ∈ sc.toplevels) :
    (sc.raiseToTop .root (.toplevel t)).toplevels = sc.toplevels.erase t ++ [t] := by
  have hmem : .toplevel t ∈ sc.children .root := Scene.mem_toplevels.mp ht
  rw [Scene.raiseToTop, if_pos hmem]
  change (sc.root.erase (SceneNode.toplevel t) ++ [SceneNode.toplevel t]).filterMap _ = _
  rw [List.filterMap_append, filterMap_erase (SceneNode.data_eq_some_iff t)]
  rfl

end Scene

theorem zenXdgFocusToplevel_scene_eq (s : ZenCompositor) (target : Option ToplevelId) :
    (zenXdgFocusToplevel s target).scene =
      if s.windows.focusedToplevel = target then s.scene
      else match target with
        | none => s.scene
        | some t => s.scene.raiseToTop .root (.toplevel t) := by
  have hdeactivate : (deactivateFocused s).scene = s.scene := by
    rw [deactivateFocused]
    split <;> rfl
  have henter : ∀ (s' : ZenCompositor) t, (enterToplevel s' t).scene = s'.scene := by
    intro s' t
    rw [enterToplevel]
    split
    · rw [wlrSeatKeyboardNotifyEnter_eq]
      split <;> rfl
    · rfl
  rw [zenXdgFocusToplevel]
  split
  · rfl
  · cases target with
    | none => exact hdeactivate
    | some t =>
        dsimp only [activateToplevel]
        rw [henter]
        exact congrArg (Scene.raiseToTop · .root (.toplevel t)) hdeactivate

theorem Stacked.focus {s : ZenCompositor} (h : Stacked s) (hw : s.windows.WellFormed)
    {target : Option ToplevelId} (htarget : ∀ t ∈ target, t ∈ s.windows.toplevels) :
    Stacked (zenXdgFocusToplevel s target) := by
  rw [Stacked, zenXdgFocusToplevel_windows, zenXdgFocusToplevel_scene_eq, Windows.focus_toplevels]
  split
  · exact h
  · cases target with
    | none => exact h
    | some t =>
        have ht : t ∈ s.scene.toplevels := by
          rw [h]
          exact List.mem_reverse.mpr (htarget t rfl)
        dsimp only
        rw [Scene.toplevels_raiseToTop ht, reverse_cons_erase hw.nodup, h]

theorem Stacked.create {s : ZenCompositor} (h : Stacked s) (t : ToplevelId)
    (surface : SurfaceId) (ok : Bool) : Stacked (handleNewXdgToplevel s t surface ok) := by
  cases ok with
  | false => exact h
  | true =>
      change (s.scene.create .root (.toplevel t)).toplevels = (t :: s.windows.toplevels).reverse
      rw [Scene.toplevels_create, h, List.reverse_cons]

theorem Stacked.unmap {s : ZenCompositor} (h : Stacked s) (hw : s.windows.WellFormed)
    (t : ToplevelId) : Stacked (handle s (.unmap t)) := by
  have hhide : (s.windows.hide t).WellFormed := hw.hide t
  simp only [handle, handleToplevelUnmap]
  split
  · exact Stacked.focus
      (s := wlrSceneNodeSetEnabled { s with windows := s.windows.modify t _ } t false) h hhide
      fun u hu => List.mem_of_find?_eq_some hu
  · exact h

theorem Stacked.destroy {s : ZenCompositor} (h : Stacked s) (hw : s.windows.WellFormed)
    (t : ToplevelId) : Stacked (handleToplevelDestroy s t) := by
  have free : ∀ s' : ZenCompositor, Stacked s' → s'.windows.WellFormed →
      (s'.scene.destroy .root (.toplevel t)).toplevels =
        (s'.windows.toplevels.erase t).reverse := by
    intro s' hs' hw'
    have hrev : s'.windows.toplevels.reverse.Nodup := List.nodup_reverse.mpr hw'.nodup
    rw [Scene.toplevels_destroy, hs', hw'.nodup.erase_eq_filter, hrev.erase_eq_filter,
      List.filter_reverse]
  have hnext : ∀ u ∈ s.windows.toplevels.find? fun iter => iter ≠ t, u ∈ s.windows.toplevels :=
    fun u hu => List.mem_of_find?_eq_some hu
  have hmoved : (zenXdgFocusToplevel s
      (s.windows.toplevels.find? fun iter => iter ≠ t)).windows.WellFormed := by
    rw [zenXdgFocusToplevel_windows]
    exact hw.focus hnext
  rw [handleToplevelDestroy]
  dsimp only
  by_cases hf : s.windows.focusedToplevel = some t
  · have freed := free _ (h.focus hw hnext) hmoved
    rw [if_pos hf]
    split <;> exact freed
  · have freed := free s h hw
    rw [if_neg hf]
    split <;> exact freed

theorem handleNewOutput_toplevels (s : ZenCompositor) (o : Output) (place : OutputId → Int × Int)
    (allocs : OutputAllocs) :
    (handleNewOutput s o place allocs).scene.toplevels = s.scene.toplevels := by
  have hrender : ∀ s' : ZenCompositor,
      (zenWallpaperRenderOutput s' o allocs.wallpaper).scene.root = s'.scene.root := by
    intro s'
    rcases zenWallpaperRenderOutput_scene s' o allocs.wallpaper with ⟨-, hsame⟩ | ⟨_, -, -, hscene⟩
    · rw [hsame]
    · rw [hscene]
      rfl
  rw [handleNewOutput_eq]
  split
  · let added : ZenCompositor :=
      { s with outputLayout := arrange place (s.outputLayout ++ [o]) }
    have hroot : (zenWallpaperRenderOutput added o allocs.wallpaper).scene.toplevels =
        s.scene.toplevels := congrArg (List.filterMap SceneNode.data) (hrender added)
    rcases createTestOverlay_scene (zenWallpaperRenderOutput added o allocs.wallpaper) o
      allocs.overlay with hscene | hscene
    · exact (congrArg Scene.toplevels hscene).trans hroot
    · exact (congrArg Scene.toplevels hscene).trans hroot
  · rfl

section Step

variable {s : ZenCompositor} {e : Event}

/-- An event of `xdg.c` or `input.c` does to the scene what it does to the MRU list. -/
theorem handle_desktop_stacked (h : Stacked s) (hw : s.windows.WellFormed)
    (hadm : Admissible s e) (ho : e.owner = .desktop) : Stacked (handle s e) := by
  have keep : (handle s e).scene = s.scene →
      (∀ a, Performs s e a → (s.windows.apply a).toplevels = s.windows.toplevels) →
        Stacked (handle s e) := by
    intro hscene hlist
    rw [Stacked, hscene, handle_windows, hlist _ (windowAction_performs s e)]
    exact h
  cases e with
  | newToplevel t surface ok => exact h.create t surface ok
  | map t =>
      exact Stacked.focus
        (s := wlrSceneNodeSetEnabled { s with windows := s.windows.modify t _ } t true) h
        (hw.reveal t) fun u hu => by
          cases hu
          exact (hw.live_iff t).mp hadm
  | unmap t => exact h.unmap hw t
  | destroy t => exact h.destroy hw t
  | focus target => exact h.focus hw fun t ht => (hw.live_iff t).mp (hadm t ht)
  | cursorButton pressed hit =>
      cases pressed with
      | false =>
          simp only [handle, handleCursorButton, Bool.not_false, Bool.true_and,
            Bool.false_eq_true, if_false]
          split <;> exact h
      | true =>
          simp only [handle, handleCursorButton, Bool.not_true, Bool.false_and,
            Bool.false_eq_true, if_false, if_true]
          split
          · next t ht =>
              refine Stacked.focus h hw fun u hu => ?_
              cases hu
              exact (hw.live_iff t).mp (hadm t ht)
          · exact h
  | requestMove t =>
      exact keep (handleToplevelRequestMove_scene s t) fun a ha => by cases ha <;> rfl
  | requestMaximize t =>
      exact keep (handleToplevelRequestMaximize_scene s t) fun a ha => by cases ha <;> rfl
  | requestFullscreen t requested =>
      exact keep (handleToplevelRequestFullscreen_scene s t requested) fun a ha => by
        cases ha <;> rfl
  | cursorMotion x y hit =>
      exact keep (handleCursorMotion_scene s x y hit) fun a ha => by cases ha <;> rfl
  | newKeyboard k ok =>
      exact keep (newKeyboard_scene s k ok) fun a ha => by cases ha <;> rfl
  | modifiers k state => exact keep (modifiers_scene s k state) fun a ha => by cases ha <;> rfl
  | commit | requestResize | surfaceDestroy | keyboardDestroy => exact h
  | _ => cases ho

theorem step_toplevels (h : Layered s) (ho : e.owner ≠ .desktop) :
    (step s e).scene.toplevels = s.scene.toplevels := by
  have hparent := overlayParent_eq h.clear
  rcases howner : e.owner with _ | _ | _ | _
  · exact absurd howner ho
  · rcases handle_layers_scene { s with calls := [] } howner with
      ⟨-, hscene | ⟨l, hscene⟩⟩ | ⟨l, -, hscene⟩
    · rw [step, hscene]
    · rw [step, hscene, hparent]
      rfl
    · rw [step, hscene, hparent]
      rfl
  · cases e with
    | newOutput o place allocs =>
        exact handleNewOutput_toplevels { s with calls := [] } o place allocs
    | wallpaperInit stateOk treeOk =>
        cases stateOk
        · rfl
        · cases treeOk
          · rfl
          · change (s.scene.root ++ [_]).filterMap SceneNode.data = _
            rw [List.filterMap_append]
            exact List.append_nil _
    | wallpaperDestroy =>
        change (zenWallpaperDestroy { s with calls := [] }).scene.toplevels = _
        rw [zenWallpaperDestroy]
        split <;> rfl
    | outputRequestState | outputDestroy => rfl
    | _ => cases howner
  · rcases step_lock_scene h howner with hscene | hscene | hscene <;> rw [hscene] <;> rfl

theorem step_stacked (h : Stacked s) (hlayered : Layered s) (hw : s.windows.WellFormed)
    (hadm : Admissible s e) : Stacked (step s e) := by
  rcases eq_or_ne e.owner .desktop with ho | ho
  · exact handle_desktop_stacked (s := { s with calls := [] }) h hw (by cases e <;> exact hadm) ho
  · have hwindows : (step s e).windows = s.windows := (handle_writes _ e).framed.windows ho
    rw [Stacked, step_toplevels hlayered ho, hwindows]
    exact h

end Step

theorem Placed.paintOrder_toplevels {s : ZenCompositor} (h : Placed s) :
    s.scene.paintOrder.filterMap SceneNode.data = s.scene.toplevels := by
  obtain ⟨front, hfront⟩ := h.layered.scene
  have hoverlay : s.scene.overlay.filterMap SceneNode.data = [] := by
    refine List.filterMap_eq_nil_iff.mpr fun node hnode => ?_
    rcases h.overlay node hnode with ⟨l, rfl⟩ | rfl | rfl <;> rfl
  have hpainted : ∀ nodes : List SceneNode,
      (∀ node ∈ nodes, (∃ t, node = .toplevel t) ∨ ∃ n, node = .wallpaperTree n) →
        (nodes.flatMap s.scene.painted).filterMap SceneNode.data =
          nodes.filterMap SceneNode.data := by
    intro nodes hnodes
    induction nodes with
    | nil => rfl
    | cons node nodes ih =>
        have hrest := ih fun node' hnode' => hnodes node' (List.mem_cons_of_mem _ hnode')
        rw [List.flatMap_cons, List.filterMap_append, hrest]
        rcases hnodes node List.mem_cons_self with ⟨t, rfl⟩ | ⟨n, rfl⟩
        · rfl
        · have hnone : (s.scene.wallpaper n).filterMap SceneNode.data = [] := by
            refine List.filterMap_eq_nil_iff.mpr fun node hnode => ?_
            obtain ⟨m, rfl⟩ := hfront.wallpaper n node hnode
            rfl
          change (s.scene.wallpaper n).filterMap SceneNode.data ++ _ = _
          rw [hnone]
          rfl
  rw [hfront.paintOrder_eq, Scene.toplevels, hfront.root]
  change (s.scene.overlay ++ front.flatMap s.scene.painted).filterMap SceneNode.data =
    front.filterMap SceneNode.data
  rw [List.filterMap_append, hoverlay, hpainted front hfront.front]
  rfl

section Runs

variable (outputs : List Output) (bindings : List ZenKeybinding) (idleTimer : Bool)

theorem run_stacked (events : List Event)
    (h : Along step Admissible (created outputs bindings idleTimer) events) :
    let s := exec step (created outputs bindings idleTimer) events
    Placed s ∧ s.windows.WellFormed ∧ Stacked s := by
  refine Along.invariant (I := fun s => Placed s ∧ s.windows.WellFormed ∧ Stacked s) ?_ h
    ⟨created_placed outputs bindings idleTimer,
      created_windows_wellFormed outputs bindings idleTimer, rfl⟩
  rintro s e ⟨hplaced, hw, hstacked⟩ hadm
  exact ⟨step_placed hplaced hadm, step_windows_wellFormed hw hadm,
    step_stacked hstacked hplaced.layered hw hadm⟩

/-- In every reachable state the windows are painted in the reverse of the MRU list. -/
theorem paintOrder_mru (events : List Event)
    (h : Along step Admissible (created outputs bindings idleTimer) events) :
    let s := exec step (created outputs bindings idleTimer) events
    s.scene.paintOrder.filterMap SceneNode.data = s.windows.toplevels.reverse := by
  intro s
  have hs := run_stacked outputs bindings idleTimer events h
  rw [hs.1.paintOrder_toplevels]
  exact hs.2.2

/-- Two windows are created, the first is clicked, and a third is created and destroyed. -/
theorem paintOrder_mru_click :
    let s := exec step (created [] [] true)
      (showWindow 1 11 ++ showWindow 2 12 ++
        [.cursorButton true (some ⟨[.toplevel 1, .root], some 11, 0, 0⟩),
          .newToplevel 3 13 true, .destroy 3])
    s.scene.paintOrder.filterMap SceneNode.data = s.windows.toplevels.reverse :=
  paintOrder_mru [] [] true _ (by decide)

/-- When events come in order, the focused window is painted above every other one that is
mapped. -/
theorem focused_on_top (events : List Event)
    (h : Along step (fun s e => Admissible s e ∧ Ordered s e)
      (created outputs bindings idleTimer) events) :
    let s := exec step (created outputs bindings idleTimer) events
    ∀ t, s.windows.focusedToplevel = some t → ∀ u, u ≠ t → s.windows.mapped u = true →
      [.toplevel u, .toplevel t].Sublist s.scene.paintOrder := by
  intro s t ht u hut hu
  have hfst : ∀ p e, (stepLogged p e).1 = step p.1 e := fun _ _ => rfl
  have hproper : Along stepLogged Proper (created outputs bindings idleTimer, []) events :=
    (along_fst hfst _ (_, []) events).mpr h
  have hw := run_mruOrder outputs bindings idleTimer hproper
  simp only [exec_stepLogged_fst] at hw
  have hmru : [t, u].Sublist s.windows.toplevels :=
    hw.follows.sublist (hw.focused_head t ht) (hw.mapped_mem u hu) hut
  have hs := run_stacked outputs bindings idleTimer events (h.mono fun _ _ => And.left)
  have hnames : [u, t].Sublist (s.scene.paintOrder.filterMap SceneNode.data) := by
    rw [hs.1.paintOrder_toplevels, hs.2.2]
    exact hmru.reverse
  calc [SceneNode.toplevel u, .toplevel t].Sublist
        ((s.scene.paintOrder.filterMap SceneNode.data).map SceneNode.toplevel) := hnames.map _
    _ = s.scene.paintOrder.filter (·.data.isSome) := map_filterMap_data s.scene.paintOrder
    List.Sublist _ s.scene.paintOrder := List.filter_sublist

/-- The second of three windows is clicked, and the third is unmapped. -/
theorem focused_on_top_click :
    let s := exec step (created [] [] true)
      (showWindow 1 11 ++ showWindow 2 12 ++ showWindow 3 13 ++
        [.cursorButton true (some ⟨[.toplevel 2, .root], some 12, 0, 0⟩), .unmap 3])
    ∀ t, s.windows.focusedToplevel = some t → ∀ u, u ≠ t → s.windows.mapped u = true →
      [.toplevel u, .toplevel t].Sublist s.scene.paintOrder :=
  focused_on_top [] [] true _ (by decide)

end Runs

end ZenOS.Compositor
