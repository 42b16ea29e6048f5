import Mathlib.Data.List.Nodup
import ZenOS.Compositor.Frame
import ZenOS.Library.Runs

/-!
The wallpapers of the outputs.  A run is observed together with the list `state->outputs`
of `wallpaper.c`, of which the compositor's state has the scene nodes.
-/

namespace ZenOS.Compositor

open ZenOS.Library.Runs

/-- `struct ZenWallpaperOutput`, with the box of its scene node: the position below
`wallpaper_tree`, which lies at the origin of the scene, and the size of the buffer. -/
structure ZenWallpaperOutput where
  wlrOutput : OutputId
  sceneBuf : Nat
  box : Box
  deriving DecidableEq

def Output.drawable (o : Output) : Bool :=
  0 < o.width && 0 < o.height

/-- What `render_output_internal` makes of `state->outputs`; `ok` says whether every
allocation succeeds. -/
def renderOutputInternal (node : Nat) (o : Output) (ok : Bool)
    (outputs : List ZenWallpaperOutput) : List ZenWallpaperOutput :=
  if o.drawable && ok then
    { wlrOutput := o.id, sceneBuf := node
      box := { x := 0, y := 0, width := o.width, height := o.height } } :: outputs
  else outputs

def recordWallpaper (s : ZenCompositor) (outputs : List ZenWallpaperOutput) :
    Event → List ZenWallpaperOutput
  | .newOutput o _ allocs =>
      if allocs.output && s.wallpaperState.isSome && s.wallpaperTree.isSome then
        renderOutputInternal s.scene.nextNode o allocs.wallpaper outputs
      else outputs
  | .wallpaperInit stateOk treeOk => if stateOk && treeOk then [] else outputs
  | .wallpaperDestroy => []
  | _ => outputs

def stepWallpaper (p : ZenCompositor × List ZenWallpaperOutput) (e : Event) :
    ZenCompositor × List ZenWallpaperOutput :=
  (step p.1 e, recordWallpaper p.1 p.2 e)

/-- The compositor has the scene nodes of the recorded wallpapers. -/
def RecordsNodes (p : ZenCompositor × List ZenWallpaperOutput) : Prop :=
  p.1.wallpaperState.getD [] = p.2.map (·.sceneBuf)

section Steps

variable {s : ZenCompositor} {p : ZenCompositor × List ZenWallpaperOutput} {e : Event}

theorem createTestOverlay_wallpaper (s : ZenCompositor) (o : Output) (ok : Bool) :
    (createTestOverlay s o ok).wallpaperState = s.wallpaperState := by
  obtain ⟨_, _, hfields⟩ := createTestOverlay_fields s o ok
  rw [hfields]

theorem zenWallpaperRenderOutput_wallpaperState (s : ZenCompositor) (o : Output) (ok : Bool) :
    (zenWallpaperRenderOutput s o ok).wallpaperState =
      if s.wallpaperState.isSome && s.wallpaperTree.isSome && (o.drawable && ok) then
        some (s.scene.nextNode :: s.wallpaperState.getD [])
      else s.wallpaperState := by
  rw [zenWallpaperRenderOutput]
  rcases hstate : s.wallpaperState with _ | outputs
  · exact hstate
  rcases htree : s.wallpaperTree with _ | tree
  · exact hstate
  · dsimp only
    change (if o.drawable && ok then _ else s).wallpaperState =
      if o.drawable && ok then _ else _
    split
    · rfl
    · exact hstate

theorem handleNewOutput_wallpaperState (s : ZenCompositor) (o : Output)
    (place : OutputId → Int × Int) (allocs : OutputAllocs) :
    (handleNewOutput s o place allocs).wallpaperState =
      if allocs.output && s.wallpaperState.isSome && s.wallpaperTree.isSome &&
          (o.drawable && allocs.wallpaper) then
        some (s.scene.nextNode :: s.wallpaperState.getD [])
      else s.wallpaperState := by
  rw [handleNewOutput_eq]
  cases allocs.output with
  | false => rfl
  | true =>
      rw [if_pos rfl, createTestOverlay_wallpaper, zenWallpaperRenderOutput_wallpaperState]
      rfl

theorem step_wallpaperState (s : ZenCompositor) (he : e.owner ≠ .outputs) :
    (step s e).wallpaperState = s.wallpaperState ∧
      (step s e).wallpaperTree = s.wallpaperTree := by
  have hwrites := handle_writes { s with calls := [] } e
  unfold step
  cases ho : e.owner with
  | outputs => exact absurd ho he
  | desktop =>
      rw [ho] at hwrites
      obtain ⟨_, _, _, _, _, _, _, _, _, hwrites⟩ := hwrites
      rw [hwrites]
      exact ⟨rfl, rfl⟩
  | layers =>
      rw [ho] at hwrites
      obtain ⟨_, _, _, hwrites⟩ := hwrites
      rw [hwrites]
      exact ⟨rfl, rfl⟩
  | lock =>
      rw [ho] at hwrites
      obtain ⟨_, _, _, _, hwrites⟩ := hwrites
      rw [hwrites]
      exact ⟨rfl, rfl⟩

theorem recordWallpaper_of_owner (outputs : List ZenWallpaperOutput)
    (he : e.owner ≠ .outputs) : recordWallpaper s outputs e = outputs := by
  cases e with
  | newOutput | wallpaperInit | wallpaperDestroy => exact absurd rfl he
  | _ => rfl

theorem RecordsNodes.step (h : RecordsNodes p) : RecordsNodes (stepWallpaper p e) := by
  rcases eq_or_ne e.owner .outputs with ho | ho
  · cases e with
    | newOutput o place allocs =>
        change (handleNewOutput _ o place allocs).wallpaperState.getD [] = _
        rw [handleNewOutput_wallpaperState]
        change (if allocs.output && p.1.wallpaperState.isSome && p.1.wallpaperTree.isSome &&
          (o.drawable && allocs.wallpaper) then
            some (p.1.scene.nextNode :: p.1.wallpaperState.getD [])
          else p.1.wallpaperState).getD [] =
          (if allocs.output && p.1.wallpaperState.isSome && p.1.wallpaperTree.isSome then
            renderOutputInternal p.1.scene.nextNode o allocs.wallpaper p.2 else p.2).map _
        cases allocs.output && p.1.wallpaperState.isSome && p.1.wallpaperTree.isSome with
        | false => exact h
        | true =>
            rw [if_pos rfl, Bool.true_and, renderOutputInternal]
            split
            · exact congrArg (p.1.scene.nextNode :: ·) h
            · exact h
    | wallpaperInit stateOk treeOk =>
        change (zenWallpaperInit _ stateOk treeOk).wallpaperState.getD [] =
          (if stateOk && treeOk then [] else p.2).map _
        cases stateOk with
        | false => exact h
        | true =>
            cases treeOk with
            | false => exact h
            | true => rfl
    | wallpaperDestroy =>
        change (zenWallpaperDestroy _).wallpaperState.getD [] = _
        rw [zenWallpaperDestroy]
        split
        · next hnone => rw [hnone]; rfl
        · rfl
    | outputRequestState | outputDestroy => exact h
    | _ => cases ho
  · change (ZenOS.Compositor.step p.1 e).wallpaperState.getD [] =
      (recordWallpaper p.1 p.2 e).map _
    rw [(step_wallpaperState p.1 ho).1, recordWallpaper_of_owner p.2 ho]
    exact h

end Steps

/-- The wallpapers can be drawn: `zen_wallpaper_init` has succeeded. -/
structure CanDraw (s : ZenCompositor) : Prop where
  state : s.wallpaperState.isSome = true
  tree : s.wallpaperTree.isSome = true

/-- What happens to a compositor once it has been created, with every allocation for an
output succeeding. -/
def Event.Allocated : Event → Prop
  | .newOutput _ _ allocs => allocs.output = true ∧ allocs.wallpaper = true
  | .wallpaperInit .. | .wallpaperDestroy => False
  | _ => True

instance : ∀ e : Event, Decidable e.Allocated
  | .newOutput _ _ allocs =>
      inferInstanceAs (Decidable (allocs.output = true ∧ allocs.wallpaper = true))
  | .wallpaperInit .. | .wallpaperDestroy => inferInstanceAs (Decidable False)
  | .newToplevel .. | .commit .. | .map _ | .unmap _ | .destroy _ | .requestMove _
  | .requestResize _ | .requestMaximize _ | .requestFullscreen .. | .focus _
  | .surfaceDestroy _ | .newLayerSurface .. | .layerCommit _ | .layerMap _ | .layerUnmap _
  | .layerDestroy _ | .newKeyboard .. | .keyboardDestroy _ | .key .. | .modifiers ..
  | .cursorMotion .. | .cursorButton .. | .outputRequestState .. | .outputDestroy ..
  | .idleTimeout _ | .lockSignal _ | .newLock _ => inferInstanceAs (Decidable True)

/-- Everything that an event does to the layout and to the list of wallpapers. -/
inductive OutputChange (layout : List Output) (outputs : List ZenWallpaperOutput) :
    Event → List Output → List ZenWallpaperOutput → Prop
  | added {o : Output} {place : OutputId → Int × Int} {allocs : OutputAllocs} (node : Nat) :
      OutputChange layout outputs (.newOutput o place allocs) (arrange place (layout ++ [o]))
        (renderOutputInternal node o true outputs)
  | changed {id : OutputId} {state : OutputState} {place : OutputId → Int × Int} :
      OutputChange layout outputs (.outputRequestState id state place)
        (arrange place (layout.map fun o => if o.id = id then state.apply o else o)) outputs
  | removed {id : OutputId} {place : OutputId → Int × Int} :
      OutputChange layout outputs (.outputDestroy id place)
        (arrange place (layout.filter fun o => o.id ≠ id)) outputs
  | kept {e : Event} (he : e.owner ≠ .outputs) : OutputChange layout outputs e layout outputs

section Layout

variable {p : ZenCompositor × List ZenWallpaperOutput} {e : Event}

theorem mem_arrange {place : OutputId → Int × Int} {layout : List Output} {o : Output} :
    o ∈ arrange place layout ↔
      ∃ o' ∈ layout, { o' with x := (place o'.id).1, y := (place o'.id).2 } = o :=
  List.mem_map

theorem stepWallpaper_change (hdraw : CanDraw p.1) (he : e.Allocated) :
    OutputChange p.1.outputLayout p.2 e (stepWallpaper p e).1.outputLayout
      (stepWallpaper p e).2 := by
  rcases eq_or_ne e.owner .outputs with ho | ho
  · cases e with
    | newOutput o place allocs =>
        obtain ⟨houtput, hwallpaper⟩ := he
        have hlayout : (stepWallpaper p (.newOutput o place allocs)).1.outputLayout =
            arrange place (p.1.outputLayout ++ [o]) := by
          change (handleNewOutput _ o place allocs).outputLayout = _
          rw [handleNewOutput_outputLayout, if_pos houtput]
        have houtputs : (stepWallpaper p (.newOutput o place allocs)).2 =
            renderOutputInternal p.1.scene.nextNode o true p.2 := by
          change (if allocs.output && p.1.wallpaperState.isSome && p.1.wallpaperTree.isSome then
            renderOutputInternal p.1.scene.nextNode o allocs.wallpaper p.2 else p.2) = _
          rw [houtput, hwallpaper, hdraw.state, hdraw.tree]
          rfl
        rw [hlayout, houtputs]
        exact .added _
    | outputRequestState id state place => exact .changed
    | outputDestroy id place => exact .removed
    | wallpaperInit | wallpaperDestroy => exact he.elim
    | _ => cases ho
  · have hlayout : (stepWallpaper p e).1.outputLayout = p.1.outputLayout :=
      step_outputLayout p.1 ho
    rw [hlayout, show (stepWallpaper p e).2 = p.2 from recordWallpaper_of_owner p.2 ho]
    exact .kept ho

theorem CanDraw.step (hdraw : CanDraw p.1) (he : e.Allocated) :
    CanDraw (ZenOS.Compositor.step p.1 e) := by
  rcases eq_or_ne e.owner .outputs with ho | ho
  · cases e with
    | newOutput o place allocs =>
        constructor
        · change (handleNewOutput _ o place allocs).wallpaperState.isSome = true
          rw [handleNewOutput_wallpaperState]
          split
          · rfl
          · exact hdraw.state
        · change (handleNewOutput _ o place allocs).wallpaperTree.isSome = true
          rw [handleNewOutput_wallpaperTree]
          exact hdraw.tree
    | outputRequestState | outputDestroy => exact ⟨hdraw.state, hdraw.tree⟩
    | wallpaperInit | wallpaperDestroy => exact he.elim
    | _ => cases ho
  · obtain ⟨hstate, htree⟩ := step_wallpaperState p.1 ho
    constructor
    · rw [hstate]
      exact hdraw.state
    · rw [htree]
      exact hdraw.tree

end Layout

/-- Each live output with a positive size has exactly one wallpaper, and only live outputs
have one. -/
structure OnePerOutput (layout : List Output) (outputs : List ZenWallpaperOutput) : Prop where
  live : ∀ o ∈ layout, o.drawable = true → (outputs.map (·.wlrOutput)).count o.id = 1
  gone : ∀ w ∈ outputs, ∃ o ∈ layout, o.id = w.wlrOutput

/-- An output that gets a positive size has a wallpaper already, and an output that goes
away has none. -/
def DrawnInTime (p : ZenCompositor × List ZenWallpaperOutput) : Event → Prop
  | .outputRequestState id state _ =>
      ∀ o ∈ p.1.outputLayout, o.id = id → (state.apply o).drawable = true →
        id ∈ p.2.map (·.wlrOutput)
  | .outputDestroy id _ => id ∉ p.2.map (·.wlrOutput)
  | _ => True

section OnePerOutput

variable {layout : List Output} {outputs : List ZenWallpaperOutput}
  {place : OutputId → Int × Int}

theorem arrange_mem (place : OutputId → Int × Int) {o : Output} (ho : o ∈ layout) :
    { o with x := (place o.id).1, y := (place o.id).2 } ∈ arrange place layout :=
  mem_arrange.mpr ⟨o, ho, rfl⟩

theorem onePerOutput_arrange :
    OnePerOutput (arrange place layout) outputs ↔ OnePerOutput layout outputs := by
  constructor
  · rintro ⟨hlive, hgone⟩
    refine ⟨fun o ho hdrawable => ?_, fun w hw => ?_⟩
    · have hcount := hlive _ (arrange_mem place ho)
      exact hcount hdrawable
    · obtain ⟨_, hplaced, hid⟩ := hgone w hw
      obtain ⟨o, ho, rfl⟩ := mem_arrange.mp hplaced
      exact ⟨o, ho, hid⟩
  · rintro ⟨hlive, hgone⟩
    refine ⟨fun _ hplaced hdrawable => ?_, fun w hw => ?_⟩
    · obtain ⟨o, ho, rfl⟩ := mem_arrange.mp hplaced
      exact hlive o ho hdrawable
    · obtain ⟨o, ho, hid⟩ := hgone w hw
      exact ⟨_, arrange_mem place ho, hid⟩

theorem OnePerOutput.fresh (h : OnePerOutput layout outputs) {id : OutputId}
    (hfresh : ∀ o ∈ layout, o.id ≠ id) : id ∉ outputs.map (·.wlrOutput) := by
  intro hmem
  obtain ⟨w, hw, rfl⟩ := List.mem_map.mp hmem
  obtain ⟨o, ho, hid⟩ := h.gone w hw
  exact hfresh o ho hid

theorem OnePerOutput.add (h : OnePerOutput layout outputs) {o : Output}
    (hfresh : ∀ o' ∈ layout, o'.id ≠ o.id) (node : Nat) :
    OnePerOutput (layout ++ [o]) (renderOutputInternal node o true outputs) := by
  have hnone := List.count_eq_zero_of_not_mem (h.fresh hfresh)
  rw [renderOutputInternal, Bool.and_true]
  cases hdraw : o.drawable with
  | false =>
      refine ⟨fun o' ho' hdrawable => ?_, fun w hw => ?_⟩
      · rcases List.mem_append.mp ho' with ho' | ho'
        · exact h.live o' ho' hdrawable
        · obtain rfl := List.mem_singleton.mp ho'
          rw [hdraw] at hdrawable
          cases hdrawable
      · obtain ⟨o', ho', hid⟩ := h.gone w hw
        exact ⟨o', List.mem_append_left _ ho', hid⟩
  | true =>
      rw [if_pos rfl]
      refine ⟨fun o' ho' hdrawable => ?_, fun w hw => ?_⟩
      · rcases List.mem_append.mp ho' with ho' | ho'
        · rw [List.map_cons, List.count_cons_of_ne (hfresh o' ho').symm]
          exact h.live o' ho' hdrawable
        · obtain rfl := List.mem_singleton.mp ho'
          rw [List.map_cons, List.count_cons_self, hnone]
      · rcases List.mem_cons.mp hw with rfl | hw
        · exact ⟨o, List.mem_append_right _ (List.mem_singleton_self o), rfl⟩
        · obtain ⟨o', ho', hid⟩ := h.gone w hw
          exact ⟨o', List.mem_append_left _ ho', hid⟩

theorem OnePerOutput.change_iff (h : OnePerOutput layout outputs)
    (hnodup : (outputs.map (·.wlrOutput)).Nodup) (id : OutputId) (state : OutputState) :
    OnePerOutput (layout.map fun o => if o.id = id then state.apply o else o) outputs ↔
      ∀ o ∈ layout, o.id = id → (state.apply o).drawable = true →
        id ∈ outputs.map (·.wlrOutput) := by
  have hid : ∀ o : Output, (if o.id = id then state.apply o else o).id = o.id := by
    intro o
    split <;> rfl
  constructor
  · intro hafter o ho ho' hdrawable
    subst ho'
    have hmem : state.apply o ∈ layout.map fun o' => if o'.id = o.id then state.apply o' else o' :=
      List.mem_map.mpr ⟨o, ho, if_pos rfl⟩
    have hcount := hafter.live _ hmem hdrawable
    exact List.count_pos_iff.mp (hcount ▸ Nat.one_pos)
  · intro hdrawn
    refine ⟨fun o' ho' hdrawable => ?_, fun w hw => ?_⟩
    · obtain ⟨o, ho, rfl⟩ := List.mem_map.mp ho'
      rw [hid]
      by_cases hsame : o.id = id
      · rw [if_pos hsame] at hdrawable
        rw [hsame]
        exact List.count_eq_one_of_mem hnodup (hdrawn o ho hsame hdrawable)
      · rw [if_neg hsame] at hdrawable
        exact h.live o ho hdrawable
    · obtain ⟨o, ho, hw⟩ := h.gone w hw
      exact ⟨_, List.mem_map.mpr ⟨o, ho, rfl⟩, (hid o).trans hw⟩

theorem OnePerOutput.remove_iff (h : OnePerOutput layout outputs) (id : OutputId) :
    OnePerOutput (layout.filter fun o => o.id ≠ id) outputs ↔
      id ∉ outputs.map (·.wlrOutput) := by
  constructor
  · rintro hafter hmem
    obtain ⟨w, hw, rfl⟩ := List.mem_map.mp hmem
    obtain ⟨o, ho, hid⟩ := hafter.gone w hw
    exact of_decide_eq_true (List.mem_filter.mp ho).2 hid
  · intro hnone
    refine ⟨fun o ho hdrawable => h.live o (List.mem_filter.mp ho).1 hdrawable,
      fun w hw => ?_⟩
    obtain ⟨o, ho, hid⟩ := h.gone w hw
    refine ⟨o, List.mem_filter.mpr ⟨ho, decide_eq_true ?_⟩, hid⟩
    rintro rfl
    exact hnone (hid ▸ List.mem_map_of_mem hw)

end OnePerOutput

/-- The compositor when the backend starts: there is neither an overlay nor a wallpaper tree,
and the fields that later steps of `zen_compositor_create` fill are as they will be. -/
def starting (bindings : List ZenKeybinding) (idleTimer : Bool) : ZenCompositor :=
  { created [] bindings idleTimer with
    scene := { root := [.background], overlay := [], wallpaper := fun _ => [], nextNode := 0 }
    shellOverlayTree := false
    wallpaperTree := none
    wallpaperState := none }

/-- Steps 13 and 14 of `zen_compositor_create`: the overlay tree and `zen_wallpaper_init`. -/
def createTrees (s : ZenCompositor) : ZenCompositor :=
  zenWallpaperInit
    { s with scene := s.scene.create .root .shellOverlayTree, shellOverlayTree := true }
    true true

/-- What the backend can emit while it starts. -/
def Event.Announces : Event → Prop
  | .newOutput .. | .outputRequestState .. | .outputDestroy .. => True
  | _ => False

section Runs

variable (bindings : List ZenKeybinding) (idleTimer : Bool)

theorem step_starting {layout : List Output} {e : Event} (he : e.Announces) :
    ∃ layout', step { starting bindings idleTimer with outputLayout := layout } e =
      { starting bindings idleTimer with outputLayout := layout' } := by
  cases e with
  | newOutput o place allocs =>
      change ∃ layout', handleNewOutput { starting bindings idleTimer with
        outputLayout := layout } o place allocs = _
      rw [handleNewOutput_eq]
      cases allocs.output with
      | false => exact ⟨_, rfl⟩
      | true => exact ⟨_, rfl⟩
  | outputRequestState | outputDestroy => exact ⟨_, rfl⟩
  | _ => exact he.elim

theorem createTrees_exec (start : List Event) (hstart : ∀ e ∈ start, e.Announces) :
    createTrees (exec step (starting bindings idleTimer) start) =
      created (exec step (starting bindings idleTimer) start).outputLayout bindings
        idleTimer := by
  have hexec : ∃ layout, exec step (starting bindings idleTimer) start =
      { starting bindings idleTimer with outputLayout := layout } := by
    refine Along.invariant (P := fun _ (e : Event) => e.Announces)
      (I := fun (s : ZenCompositor) => ∃ layout,
        s = { starting bindings idleTimer with outputLayout := layout })
      ?_ ((along_const _ _ _).mpr hstart) ⟨[], rfl⟩
    rintro _ e ⟨layout, rfl⟩ he
    exact step_starting bindings idleTimer he
  obtain ⟨layout, hlayout⟩ := hexec
  rw [hlayout]
  rfl

variable {p : ZenCompositor × List ZenWallpaperOutput} {e : Event}

theorem stepWallpaper_nodup (hnodup : (p.2.map (·.wlrOutput)).Nodup)
    (h : OnePerOutput p.1.outputLayout p.2) (hdraw : CanDraw p.1) (hadm : Admissible p.1 e)
    (he : e.Allocated) : ((stepWallpaper p e).2.map (·.wlrOutput)).Nodup := by
  have hchange := stepWallpaper_change hdraw he
  generalize (stepWallpaper p e).1.outputLayout = layout' at hchange
  generalize (stepWallpaper p e).2 = outputs' at hchange
  cases hchange with
  | added node =>
      rw [renderOutputInternal]
      split
      · exact List.nodup_cons.mpr ⟨h.fresh hadm, hnodup⟩
      · exact hnodup
  | changed | removed | kept => exact hnodup

theorem onePerOutput_step_iff (hnodup : (p.2.map (·.wlrOutput)).Nodup)
    (h : OnePerOutput p.1.outputLayout p.2) (hdraw : CanDraw p.1) (hadm : Admissible p.1 e)
    (he : e.Allocated) :
    OnePerOutput (stepWallpaper p e).1.outputLayout (stepWallpaper p e).2 ↔
      DrawnInTime p e := by
  have hchange := stepWallpaper_change hdraw he
  generalize (stepWallpaper p e).1.outputLayout = layout' at hchange ⊢
  generalize (stepWallpaper p e).2 = outputs' at hchange ⊢
  cases hchange with
  | added node => exact iff_of_true (onePerOutput_arrange.mpr (h.add hadm node)) trivial
  | @changed id state place => exact onePerOutput_arrange.trans (h.change_iff hnodup id state)
  | @removed id place => exact onePerOutput_arrange.trans (h.remove_iff id)
  | kept ho =>
      refine iff_of_true h ?_
      cases e with
      | outputRequestState | outputDestroy => exact absurd rfl ho
      | _ => trivial

theorem onePerOutput_nil_iff {layout : List Output} :
    OnePerOutput layout [] ↔ ∀ o ∈ layout, o.drawable = false := by
  constructor
  · intro h o ho
    cases hdraw : o.drawable with
    | false => rfl
    | true =>
        have hcount : 0 = 1 := h.live o ho hdraw
        omega
  · intro h
    refine ⟨fun o ho hdraw => ?_, ?_⟩
    · rw [h o ho] at hdraw
      cases hdraw
    · rintro w ⟨⟩

/-- In every state from the creation on, the recorded wallpapers are those of the compositor's
scene nodes; the live outputs have one each and no other output has one, exactly when no output
of positive size was announced before `zen_wallpaper_init`, and each later step meets
`DrawnInTime`. -/
theorem run_onePerOutput_iff (start events : List Event)
    (hstart : ∀ e ∈ start, e.Announces) :
    let s := createTrees (exec step (starting bindings idleTimer) start)
    Along stepWallpaper (fun p e => Admissible p.1 e ∧ e.Allocated) (s, []) events →
      Along stepWallpaper (fun p e => RecordsNodes (stepWallpaper p e)) (s, []) events ∧
      ((OnePerOutput s.outputLayout [] ∧
        Along stepWallpaper (fun p e =>
          OnePerOutput (stepWallpaper p e).1.outputLayout (stepWallpaper p e).2)
          (s, []) events) ↔
        (∀ o ∈ s.outputLayout, o.drawable = false) ∧
          Along stepWallpaper DrawnInTime (s, []) events) := by
  intro s h
  have hs : s = created s.outputLayout bindings idleTimer := by
    rw [show s = _ from createTrees_exec bindings idleTimer start hstart]
    rfl
  have hdraw : CanDraw s := by
    rw [hs]
    exact ⟨rfl, rfl⟩
  have hnodes : RecordsNodes (s, []) := by
    rw [hs]
    rfl
  refine ⟨(along_true _ events).of_invariant (I := RecordsNodes) (fun _ _ h _ => h.step)
    (fun _ _ h _ => h.step) hnodes, ?_⟩
  rw [onePerOutput_nil_iff]
  refine and_congr_right fun hnone => ?_
  refine along_iff_along (I := fun p => CanDraw p.1 ∧ (p.2.map (·.wlrOutput)).Nodup ∧
    OnePerOutput p.1.outputLayout p.2) ?_ ?_ h
    ⟨hdraw, List.nodup_nil, onePerOutput_nil_iff.mpr hnone⟩
  · rintro p e ⟨hdraw, hnodup, hone⟩ ⟨hadm, he⟩ hafter
    exact ⟨hdraw.step he, stepWallpaper_nodup hnodup hone hdraw hadm he, hafter⟩
  · rintro p e ⟨hdraw, hnodup, hone⟩ ⟨hadm, he⟩
    exact onePerOutput_step_iff hnodup hone hdraw hadm he

end Runs

def fullHd (id : OutputId) : Output :=
  { id, enabled := true, width := 1920, height := 1080, transposed := false, scale := 1
    x := 0, y := 0 }

def allAllocated : OutputAllocs :=
  { output := true, wallpaper := true, overlay := true }

/-- Outputs side by side. -/
def sideBySide (id : OutputId) : Int × Int :=
  (1920 * id, 0)

/-- An output without a mode at first; two more are attached later. -/
theorem run_onePerOutput_iff_hotplug :
    let s := createTrees (exec step (starting [] true)
      [.newOutput { fullHd 0 with width := 0, height := 0 } sideBySide allAllocated])
    let events : List Event :=
      [.newOutput (fullHd 1) sideBySide allAllocated, .outputDestroy 0 sideBySide,
        .newOutput (fullHd 2) sideBySide allAllocated]
    (OnePerOutput s.outputLayout [] ∧
        Along stepWallpaper (fun p e =>
          OnePerOutput (stepWallpaper p e).1.outputLayout (stepWallpaper p e).2)
          (s, []) events) ↔
      (∀ o ∈ s.outputLayout, o.drawable = false) ∧
        Along stepWallpaper DrawnInTime (s, []) events :=
  (run_onePerOutput_iff [] true _ _ (by rintro e (_ | ⟨_, ⟨⟩⟩); trivial) (by decide +kernel)).2

/-- The output that the backend announces while it starts has no wallpaper, and an output
that is attached and removed leaves one. -/
theorem wallpaper_missing_and_left :
    let atStart := createTrees (exec step (starting [] true)
      [.newOutput (fullHd 0) sideBySide allAllocated])
    let s := createTrees (starting [] true)
    let events : List Event :=
      [.newOutput (fullHd 0) sideBySide allAllocated, .outputDestroy 0 sideBySide]
    let p := exec stepWallpaper (s, []) events
    ¬ OnePerOutput atStart.outputLayout [] ∧
      Along stepWallpaper (fun p e => Admissible p.1 e ∧ e.Allocated) (s, []) events ∧
      ¬ OnePerOutput p.1.outputLayout p.2 := by
  intro atStart s events p
  refine ⟨fun h => ?_, by decide +kernel, fun h => ?_⟩
  · have hmem : fullHd 0 ∈ atStart.outputLayout := by decide +kernel
    have hcount : 0 = 1 := h.live _ hmem (by decide)
    omega
  · have hleft : p.2 ≠ [] := by decide +kernel
    have hgone : p.1.outputLayout = [] := by decide +kernel
    obtain ⟨w, hw⟩ := List.exists_mem_of_ne_nil _ hleft
    obtain ⟨o, ho, -⟩ := h.gone w hw
    rw [hgone] at ho
    cases ho

/-- The node of each wallpaper occupies the layout box of its output. -/
def Covers (layout : List Output) (outputs : List ZenWallpaperOutput) : Prop :=
  ∀ w ∈ outputs, ∀ o ∈ layout, o.id = w.wlrOutput → w.box = o.box

/-- The layout puts the outputs with a wallpaper at its origin, and their effective
resolution is the size that was drawn. -/
def FitsOrigin (place : OutputId → Int × Int) (layout : List Output)
    (outputs : List ZenWallpaperOutput) : Prop :=
  ∀ w ∈ outputs, ∀ o ∈ layout, o.id = w.wlrOutput →
    place o.id = (0, 0) ∧ o.effectiveResolution = (w.box.width, w.box.height)

/-- Whenever the layout changes, the outputs with a wallpaper, a new one among them, are at
its origin in the size that is drawn. -/
def StaysAtOrigin (p : ZenCompositor × List ZenWallpaperOutput) : Event → Prop
  | .newOutput o place _ =>
      FitsOrigin place (p.1.outputLayout ++ [o]) p.2 ∧
        (o.drawable = true →
          place o.id = (0, 0) ∧ o.effectiveResolution = (o.width, o.height))
  | .outputRequestState id state place =>
      FitsOrigin place
        (p.1.outputLayout.map fun o => if o.id = id then state.apply o else o) p.2
  | .outputDestroy id place =>
      FitsOrigin place (p.1.outputLayout.filter fun o => o.id ≠ id) p.2
  | _ => True

section Places

variable {layout : List Output} {outputs : List ZenWallpaperOutput}
  {place : OutputId → Int × Int} {p : ZenCompositor × List ZenWallpaperOutput} {e : Event}

theorem covers_arrange_iff (horigin : ∀ w ∈ outputs, w.box.x = 0 ∧ w.box.y = 0) :
    Covers (arrange place layout) outputs ↔ FitsOrigin place layout outputs := by
  have hbox : ∀ w ∈ outputs, ∀ o : Output,
      w.box = Output.box { o with x := (place o.id).1, y := (place o.id).2 } ↔
        place o.id = (0, 0) ∧ o.effectiveResolution = (w.box.width, w.box.height) := by
    intro w hw o
    obtain ⟨hx, hy⟩ := horigin w hw
    constructor
    · intro heq
      refine ⟨Prod.ext ?_ ?_, Prod.ext ?_ ?_⟩
      · exact (congrArg Box.x heq).symm.trans hx
      · exact (congrArg Box.y heq).symm.trans hy
      · exact (congrArg Box.width heq).symm
      · exact (congrArg Box.height heq).symm
    · rintro ⟨hplace, hsize⟩
      change w.box = { x := (place o.id).1, y := (place o.id).2
                       width := o.effectiveResolution.1, height := o.effectiveResolution.2 }
      rw [hplace, hsize]
      obtain ⟨id, node, x, y, width, height⟩ := w
      obtain rfl : x = 0 := hx
      obtain rfl : y = 0 := hy
      rfl
  constructor
  · intro h w hw o ho hid
    exact (hbox w hw o).mp (h w hw _ (arrange_mem place ho) hid)
  · intro h w hw o' ho' hid
    obtain ⟨o, ho, rfl⟩ := mem_arrange.mp ho'
    exact (hbox w hw o).mpr (h w hw o ho hid)

theorem renderOutputInternal_origin (horigin : ∀ w ∈ outputs, w.box.x = 0 ∧ w.box.y = 0)
    (node : Nat) (o : Output) (ok : Bool) :
    ∀ w ∈ renderOutputInternal node o ok outputs, w.box.x = 0 ∧ w.box.y = 0 := by
  intro w hw
  rw [renderOutputInternal] at hw
  split at hw
  · rcases List.mem_cons.mp hw with rfl | hw
    · exact ⟨rfl, rfl⟩
    · exact horigin w hw
  · exact horigin w hw

theorem fitsOrigin_render_iff {o : Output} (hfresh : ∀ o' ∈ layout, o'.id ≠ o.id)
    (node : Nat) :
    FitsOrigin place (layout ++ [o]) (renderOutputInternal node o true outputs) ↔
      FitsOrigin place (layout ++ [o]) outputs ∧
        (o.drawable = true →
          place o.id = (0, 0) ∧ o.effectiveResolution = (o.width, o.height)) := by
  have hlast : o ∈ layout ++ [o] := List.mem_append_right _ (List.mem_singleton_self o)
  rw [renderOutputInternal, Bool.and_true]
  cases hdraw : o.drawable with
  | false => exact (and_iff_left (by rintro ⟨⟩)).symm
  | true =>
      rw [if_pos rfl]
      constructor
      · intro h
        refine ⟨fun w hw => h w (List.mem_cons_of_mem _ hw), fun _ => ?_⟩
        exact h _ List.mem_cons_self o hlast rfl
      · rintro ⟨hold, hnew⟩ w hw o' ho' hid
        rcases List.mem_cons.mp hw with rfl | hw
        · rcases List.mem_append.mp ho' with ho' | ho'
          · exact absurd hid (hfresh o' ho')
          · obtain rfl := List.mem_singleton.mp ho'
            exact hnew rfl
        · exact hold w hw o' ho' hid

theorem stepWallpaper_origin (hdraw : CanDraw p.1) (he : e.Allocated)
    (horigin : ∀ w ∈ p.2, w.box.x = 0 ∧ w.box.y = 0) :
    ∀ w ∈ (stepWallpaper p e).2, w.box.x = 0 ∧ w.box.y = 0 := by
  have hchange := stepWallpaper_change hdraw he
  generalize (stepWallpaper p e).1.outputLayout = layout' at hchange
  generalize (stepWallpaper p e).2 = outputs' at hchange ⊢
  cases hchange with
  | added node => exact renderOutputInternal_origin horigin node _ true
  | changed | removed | kept => exact horigin

theorem covers_step_iff (hcovers : Covers p.1.outputLayout p.2)
    (horigin : ∀ w ∈ p.2, w.box.x = 0 ∧ w.box.y = 0) (hdraw : CanDraw p.1)
    (hadm : Admissible p.1 e) (he : e.Allocated) :
    Covers (stepWallpaper p e).1.outputLayout (stepWallpaper p e).2 ↔ StaysAtOrigin p e := by
  have hchange := stepWallpaper_change hdraw he
  generalize (stepWallpaper p e).1.outputLayout = layout' at hchange ⊢
  generalize (stepWallpaper p e).2 = outputs' at hchange ⊢
  cases hchange with
  | added node =>
      refine (covers_arrange_iff (renderOutputInternal_origin horigin node _ true)).trans ?_
      exact fitsOrigin_render_iff hadm node
  | changed | removed => exact covers_arrange_iff horigin
  | kept ho =>
      refine iff_of_true hcovers ?_
      cases e with
      | newOutput | outputRequestState | outputDestroy => exact absurd rfl ho
      | _ => trivial

/-- The wallpapers cover their outputs after every step of a run exactly when the layout
keeps every output with a wallpaper at its origin. -/
theorem run_covers_iff (outputs : List Output) (bindings : List ZenKeybinding)
    (idleTimer : Bool) (events : List Event)
    (h : Along stepWallpaper (fun p e => Admissible p.1 e ∧ e.Allocated)
      (created outputs bindings idleTimer, []) events) :
    Along stepWallpaper
        (fun p e => Covers (stepWallpaper p e).1.outputLayout (stepWallpaper p e).2)
        (created outputs bindings idleTimer, []) events ↔
      Along stepWallpaper StaysAtOrigin (created outputs bindings idleTimer, []) events := by
  refine along_iff_along (I := fun p => CanDraw p.1 ∧
    (∀ w ∈ p.2, w.box.x = 0 ∧ w.box.y = 0) ∧ Covers p.1.outputLayout p.2) ?_ ?_ h
    ⟨⟨rfl, rfl⟩, ?_, ?_⟩
  · rintro p e ⟨hdraw, horigin, -⟩ ⟨-, he⟩ hafter
    exact ⟨hdraw.step he, stepWallpaper_origin hdraw he horigin, hafter⟩
  · rintro p e ⟨hdraw, horigin, hcovers⟩ ⟨hadm, he⟩
    exact covers_step_iff hcovers horigin hdraw hadm he
  · rintro w ⟨⟩
  · rintro w ⟨⟩

end Places

/-- Two outputs side by side. -/
theorem run_covers_iff_two_outputs :
    let p := (created [] [] true, ([] : List ZenWallpaperOutput))
    let events : List Event :=
      [.newOutput (fullHd 0) sideBySide allAllocated,
        .newOutput (fullHd 1) sideBySide allAllocated]
    Along stepWallpaper
        (fun p e => Covers (stepWallpaper p e).1.outputLayout (stepWallpaper p e).2) p events ↔
      Along stepWallpaper StaysAtOrigin p events :=
  run_covers_iff [] [] true _ (by decide +kernel)

/-- The second wallpaper lies on the first output. -/
theorem second_wallpaper_on_first_output :
    let p := exec stepWallpaper (created [] [] true, [])
      [.newOutput (fullHd 0) sideBySide allAllocated,
        .newOutput (fullHd 1) sideBySide allAllocated]
    (p.2.map fun w => (w.wlrOutput, w.box)) =
        [(1, { x := 0, y := 0, width := 1920, height := 1080 }),
          (0, { x := 0, y := 0, width := 1920, height := 1080 })] ∧
      wlrOutputLayoutGetBox p.1.outputLayout 1 =
        { x := 1920, y := 0, width := 1920, height := 1080 } ∧
      ¬ Covers p.1.outputLayout p.2 := by
  intro p
  refine ⟨by decide +kernel, by decide +kernel, fun h => ?_⟩
  have hdrawn : ∃ w ∈ p.2, ∃ o ∈ p.1.outputLayout, o.id = w.wlrOutput ∧ w.box ≠ o.box := by
    decide +kernel
  obtain ⟨w, hw, o, ho, hid, hbox⟩ := hdrawn
  exact hbox (h w hw o ho hid)

end ZenOS.Compositor
