import ZenOS.Compositor.Calls
import ZenOS.Compositor.WindowMachine
import ZenOS.Library.Runs

/-!
Configures and initialised surfaces.  wlroots asserts that a surface is initialised
when a configure is scheduled on it; this file says in which runs of the compositor
the assertion can fail.
-/

namespace ZenOS.Compositor

open ZenOS.Library.Runs

/-- A call that schedules a configure has an initialised target. -/
def Call.OnInitialized : Call → Prop
  | .setActivated _ _ initialized | .setSize _ _ _ initialized
  | .setMaximized _ _ initialized | .setFullscreen _ _ initialized
  | .layerConfigure _ _ _ initialized => initialized = true
  | _ => True

/-- Handling the event schedules no configure on an uninitialised surface. -/
def ConfiguresInitialized (s : ZenCompositor) (e : Event) : Prop :=
  ∀ c ∈ (step s e).calls, c.OnInitialized

/-- A toplevel is mapped after its initial commit and unmapped before it is destroyed. -/
def InPhase (s : ZenCompositor) : Event → Prop
  | .map t => s.windows.initialized t = true
  | .destroy t => s.windows.mapped t = false
  | _ => True

/-- The order in which wlroots 0.19 emits events. -/
def WlrootsOrder (s : ZenCompositor) (e : Event) : Prop :=
  Admissible s e ∧ Ordered s e ∧ InPhase s e

instance (s : ZenCompositor) : ∀ e, Decidable (InPhase s e)
  | .map _ | .destroy _ => inferInstanceAs (Decidable (_ = _))
  | .newToplevel .. | .commit .. | .unmap _ | .requestMove _ | .requestResize _
  | .requestMaximize _ | .requestFullscreen .. | .focus _ | .surfaceDestroy _
  | .newLayerSurface .. | .layerCommit _ | .layerMap _ | .layerUnmap _
  | .layerDestroy _ | .newKeyboard .. | .keyboardDestroy _ | .key .. | .modifiers ..
  | .cursorMotion .. | .cursorButton .. | .newOutput .. | .outputRequestState ..
  | .outputDestroy .. | .wallpaperInit .. | .wallpaperDestroy | .idleTimeout _
  | .lockSignal _ | .newLock _ => inferInstanceAs (Decidable True)

instance (s : ZenCompositor) (e : Event) : Decidable (WlrootsOrder s e) :=
  inferInstanceAs (Decidable (_ ∧ _ ∧ _))

/-- A request or a new layer surface arrives when its surface can be configured, or
when the handler finds no output to size it for. -/
def ConfigureReady (s : ZenCompositor) : Event → Prop
  | .requestMaximize t => ∀ r ∈ s.windows.heap t,
      r.initialized = true ∨ r.maximized = false ∧ s.outputLayout = []
  | .requestFullscreen t requested => ∀ r ∈ s.windows.heap t,
      r.initialized = true ∨
        r.fullscreen = false ∧ requested = none ∧ s.outputLayout = []
  | .newLayerSurface _ output ok => ok = true → ∀ o ∈ output,
      let box := wlrOutputLayoutGetBox s.outputLayout o
      ¬ (0 < box.width ∧ 0 < box.height)
  | _ => True

/-- Mapped toplevels are initialised, and only a mapped one holds the focus. -/
structure Windows.Configurable (w : Windows) : Prop where
  mapped_initialized : ∀ t, w.mapped t = true → w.initialized t = true
  focused_mapped : ∀ t ∈ w.focusedToplevel, w.mapped t = true

namespace Windows.Configurable

variable {w : Windows}

theorem of_step {w' : Windows} (h : w.Configurable)
    (hmap : ∀ t, w'.mapped t = true → w.mapped t = true)
    (hinit : ∀ t, w'.mapped t = true → w.initialized t = true → w'.initialized t = true)
    (hfocus : ∀ t ∈ w'.focusedToplevel, w'.mapped t = true) : w'.Configurable where
  mapped_initialized t ht := hinit t ht (h.mapped_initialized t (hmap t ht))
  focused_mapped := hfocus

theorem focused_initialized (h : w.Configurable) {t : ToplevelId}
    (ht : t ∈ w.focusedToplevel) : w.initialized t = true :=
  h.mapped_initialized t (h.focused_mapped t ht)

theorem modify (h : w.Configurable) (t : ToplevelId) {f : ZenToplevel → ZenToplevel}
    (hmap : ∀ r, (f r).mapped = r.mapped) (hinit : ∀ r, (f r).initialized = r.initialized) :
    (w.modify t f).Configurable := by
  refine h.of_step (fun u hu => ?_) (fun u _ hu => ?_) fun u hu => ?_
  · rwa [w.modify_mapped t hmap] at hu
  · rwa [w.modify_initialized t hinit]
  · rw [w.modify_mapped t hmap]
    exact h.focused_mapped u hu

theorem focus (h : w.Configurable) {target : Option ToplevelId}
    (htarget : ∀ t ∈ target, w.mapped t = true) : (w.focus target).Configurable := by
  refine h.of_step (fun u hu => ?_) (fun u _ hu => ?_) fun u hu => ?_
  · rwa [w.focus_mapped] at hu
  · rwa [w.focus_initialized]
  · rw [w.focus_focusedToplevel] at hu
    rw [w.focus_mapped]
    exact htarget u hu

theorem commit (h : w.Configurable) (t : ToplevelId) (maximized fullscreen : Bool) :
    (w.apply (.commit t maximized fullscreen)).Configurable := by
  have hmap : ∀ u, (w.apply (.commit t maximized fullscreen)).mapped u = w.mapped u :=
    w.modify_mapped t fun _ => rfl
  refine h.of_step (fun u hu => ?_) (fun u _ hu => ?_) fun u hu => ?_
  · rwa [hmap] at hu
  · unfold Windows.initialized at hu ⊢
    change ((w.modify t _).heap u).any _ = true
    rw [Windows.modify_heap]
    split
    · next hut =>
        rw [hut] at hu
        cases hr : w.heap t <;> simp_all
    · exact hu
  · rw [hmap]
    exact h.focused_mapped u hu

theorem create (h : w.Configurable) {t : ToplevelId} (ht : ¬ w.Live t)
    (surface : SurfaceId) : (w.apply (.create t surface)).Configurable := by
  have hold : ∀ u, u ≠ t → (w.apply (.create t surface)).heap u = w.heap u :=
    fun u hu => Function.update_of_ne hu _ w.heap
  have hne : ∀ u, (w.apply (.create t surface)).mapped u = true → u ≠ t := by
    rintro u hu rfl
    simp [Windows.apply, Windows.mapped] at hu
  refine h.of_step (fun u hu => ?_) (fun u hu' hu => ?_) fun u hu => ?_
  · simpa only [Windows.mapped, hold u (hne u hu)] using hu
  · simpa only [Windows.initialized, hold u (hne u hu')] using hu
  · have hmapped := h.focused_mapped u hu
    have hut : u ≠ t := fun hut => ht (hut ▸ w.live_of_mapped u hmapped)
    simpa only [Windows.mapped, hold u hut] using hmapped

theorem map (h : w.Configurable) {t : ToplevelId} (ht : w.initialized t = true) :
    (w.apply (.map t)).Configurable := by
  change ((w.reveal t).focus (some t)).Configurable
  refine Configurable.mk (fun u hu => ?_) fun u hu => ?_
  · rw [Windows.focus_initialized, Windows.reveal_initialized]
    rw [Windows.focus_mapped] at hu
    rcases w.reveal_mapped t u hu with rfl | hu
    · exact ht
    · exact h.mapped_initialized u hu
  · rw [Windows.focus_focusedToplevel] at hu
    cases hu
    rw [Windows.focus_mapped]
    exact w.reveal_mapped_self t (w.live_of_initialized t ht)

theorem hide (h : w.Configurable) {t : ToplevelId} (ht : w.focusedToplevel ≠ some t) :
    (w.hide t).Configurable := by
  refine h.of_step (fun u hu => ?_) (fun u _ hu => ?_) fun u hu => ?_
  · rw [Windows.hide_mapped, Bool.and_eq_true] at hu
    exact hu.2
  · rwa [Windows.hide_initialized]
  · have hut : u ≠ t := fun hut => ht (hut ▸ hu)
    rw [Windows.hide_mapped, h.focused_mapped u hu]
    simpa using hut

theorem await_commit (h : w.Configurable) {t : ToplevelId} (ht : w.mapped t = false) :
    (w.modify t fun r => { r with initialized := false }).Configurable := by
  have hmap : ∀ u, (w.modify t fun r => { r with initialized := false }).mapped u =
      w.mapped u := w.modify_mapped t fun _ => rfl
  refine h.of_step (fun u hu => ?_) (fun u hu' hu => ?_) fun u hu => ?_
  · rwa [hmap] at hu
  · rw [hmap] at hu'
    have hut : u ≠ t := fun hut => by simp [hut, ht] at hu'
    unfold Windows.initialized at hu ⊢
    rwa [Windows.modify_heap, if_neg hut]
  · rw [hmap]
    exact h.focused_mapped u hu

theorem unmap (h : w.Configurable) (t : ToplevelId) :
    (w.apply (.unmap t)).Configurable := by
  have hidden : (w.hide t).mapped t = false := by simp [Windows.hide_mapped]
  rcases eq_or_ne w.focusedToplevel (some t) with ht | ht
  · have hf : (w.hide t).focusedToplevel = some t := ht
    simp only [Windows.apply, hf, if_true]
    refine await_commit ?_ (by rwa [Windows.focus_mapped])
    refine Configurable.mk (fun u hu => ?_) fun u hu => ?_
    · rw [Windows.focus_mapped, Windows.hide_mapped, Bool.and_eq_true] at hu
      rw [Windows.focus_initialized, Windows.hide_initialized]
      exact h.mapped_initialized u hu.2
    · rw [Windows.focus_focusedToplevel] at hu
      rw [Windows.focus_mapped]
      have := List.find?_some hu
      rw [Bool.and_eq_true] at this
      exact this.2
  · have hf : (w.hide t).focusedToplevel ≠ some t := ht
    simp only [Windows.apply, hf, if_false]
    exact (h.hide ht).await_commit hidden

theorem destroy (h : w.Configurable) {t : ToplevelId} (ht : w.mapped t = false) :
    (w.apply (.destroy t)).Configurable := by
  have hf : w.focusedToplevel ≠ some t := fun hf => by
    simp [h.focused_mapped t hf] at ht
  have hw : w.apply (.destroy t) = w.free t := by simp [Windows.apply, hf]
  rw [hw]
  refine h.of_step (fun u hu => ?_) (fun u hu' hu => ?_) fun u hu => ?_
  · rw [Windows.free_mapped, Bool.and_eq_true] at hu
    exact hu.2
  · rw [Windows.free_mapped, Bool.and_eq_true] at hu'
    rw [Windows.free_initialized, hu, hu'.1, Bool.and_true]
  · rw [Windows.free_focusedToplevel] at hu
    have hut : u ≠ t := fun hut => hf (hut ▸ hu)
    rw [Windows.free_mapped, h.focused_mapped u hu]
    simpa using hut

end Windows.Configurable

theorem step_configurable {s : ZenCompositor} {e : Event} (h : s.windows.Configurable)
    (he : WlrootsOrder s e) : (step s e).windows.Configurable := by
  obtain ⟨hadm, hord, hphase⟩ := he
  rw [step_windows]
  have hperforms := windowAction_performs s e
  generalize windowAction s e = a at hperforms ⊢
  cases hperforms with
  | idle => exact h
  | position => exact h.modify _ (fun _ => rfl) fun _ => rfl
  | release | grab => exact ⟨h.mapped_initialized, h.focused_mapped⟩
  | create => exact h.create hadm _
  | commit => exact h.commit ..
  | map => exact h.map hphase
  | unmap => exact h.unmap _
  | destroy => exact h.destroy hphase
  | focus => exact absurd hord id
  | click ht =>
      refine h.focus fun u hu => ?_
      cases hu
      exact hord _ ht

theorem Call.onInitialized_of_isSeat {c : Call} (h : c.isSeat) : c.OnInitialized := by
  cases c <;> trivial

theorem Call.onInitialized_of_followsKey {locked : Bool} {c : Call}
    (h : c.followsKey locked) : c.OnInitialized := by
  cases c <;> trivial

theorem wlrXdgToplevelSetActivated_emits {s : ZenCompositor} {t : ToplevelId}
    (activated : Bool) (ht : s.windows.initialized t = true) :
    Emits Call.OnInitialized s (wlrXdgToplevelSetActivated s t activated) := by
  refine .of_append rfl fun c hc => ?_
  rw [List.mem_singleton.mp hc]
  exact ht

theorem deactivateFocused_initialized (s : ZenCompositor) (u : ToplevelId) :
    (deactivateFocused s).windows.initialized u = s.windows.initialized u := by
  rw [deactivateFocused]
  split
  · exact Windows.modify_initialized _ _ (fun _ => by rfl) u
  · rfl

theorem deactivateFocused_emits {s : ZenCompositor}
    (hprev : ∀ p ∈ s.windows.focusedToplevel, s.windows.initialized p = true) :
    Emits Call.OnInitialized s (deactivateFocused s) := by
  rw [deactivateFocused]
  split
  · next p hp => exact wlrXdgToplevelSetActivated_emits false (hprev p hp)
  · exact .refl s

theorem activateToplevel_emits {s : ZenCompositor} {t : ToplevelId}
    (ht : s.windows.initialized t = true) :
    Emits Call.OnInitialized s (activateToplevel s t) := by
  have activate : Emits Call.OnInitialized s (wlrXdgToplevelSetActivated { s with
      windows := { s.windows with toplevels := t :: s.windows.toplevels.erase t } } t true) :=
    wlrXdgToplevelSetActivated_emits true ht
  exact activate.trans ((enterToplevel_emits _ t).mono fun _ => Call.onInitialized_of_isSeat)

theorem zenXdgFocusToplevel_emits {s : ZenCompositor} {target : Option ToplevelId}
    (hprev : ∀ p ∈ s.windows.focusedToplevel, s.windows.initialized p = true)
    (htarget : ∀ t ∈ target, s.windows.initialized t = true) :
    Emits Call.OnInitialized s (zenXdgFocusToplevel s target) := by
  rw [zenXdgFocusToplevel]
  split
  · exact .refl s
  · refine (deactivateFocused_emits hprev).trans ?_
    cases target with
    | none =>
        exact Emits.mono (wlrSeatKeyboardNotifyClearFocus_emits _)
          fun _ => Call.onInitialized_of_isSeat
    | some t =>
        refine activateToplevel_emits ?_
        change (deactivateFocused s).windows.initialized t = true
        rw [deactivateFocused_initialized, htarget t rfl]

theorem outputOfToplevel_eq_none (s : ZenCompositor) (r : ZenToplevel) :
    outputOfToplevel s r = none ↔ s.outputLayout = [] := by
  unfold outputOfToplevel wlrOutputLayoutOutputAt
  cases s.outputLayout with
  | nil => simp
  | cons o layout => split <;> simp

section Requests

variable {s : ZenCompositor} (hs : s.calls = [])

include hs

theorem handleToplevelRequestMaximize_configures (t : ToplevelId) :
    (∀ c ∈ (handleToplevelRequestMaximize s t).calls, c.OnInitialized) ↔
      ConfigureReady s (.requestMaximize t) := by
  rw [handleToplevelRequestMaximize]
  cases hr : s.windows.heap t with
  | none => simp [ConfigureReady, hr, hs]
  | some r =>
      have hinit : s.windows.initialized t = r.initialized := s.windows.initialized_of_heap t hr
      simp only [ConfigureReady, hr, Option.mem_some_iff, forall_eq']
      cases hm : r.maximized with
      | true =>
          simp [wlrXdgToplevelSetSize, wlrXdgToplevelSetMaximized, Call.OnInitialized, hinit, hs]
      | false =>
          rw [← outputOfToplevel_eq_none s r]
          cases outputOfToplevel s r with
          | none => simp [hs]
          | some o =>
              simp [wlrXdgToplevelSetSize, wlrXdgToplevelSetMaximized,
                wlrSceneNodeSetPosition, Call.OnInitialized, hinit, hs]

theorem handleToplevelRequestFullscreen_configures (t : ToplevelId)
    (requested : Option OutputId) :
    (∀ c ∈ (handleToplevelRequestFullscreen s t requested).calls, c.OnInitialized) ↔
      ConfigureReady s (.requestFullscreen t requested) := by
  rw [handleToplevelRequestFullscreen]
  cases hr : s.windows.heap t with
  | none => simp [ConfigureReady, hr, hs]
  | some r =>
      have hinit : s.windows.initialized t = r.initialized := s.windows.initialized_of_heap t hr
      simp only [ConfigureReady, hr, Option.mem_some_iff, forall_eq']
      cases hf : r.fullscreen with
      | true =>
          simp [wlrXdgToplevelSetSize, wlrXdgToplevelSetFullscreen, Call.OnInitialized, hinit,
            hs]
      | false =>
          rw [← outputOfToplevel_eq_none s r]
          cases requested with
          | none =>
              cases outputOfToplevel s r with
              | none => simp [hs]
              | some o =>
                  simp [wlrXdgToplevelSetSize, wlrXdgToplevelSetFullscreen,
                    wlrSceneNodeSetPosition, Call.OnInitialized, hinit, hs]
          | some o =>
              simp [wlrXdgToplevelSetSize, wlrXdgToplevelSetFullscreen,
                wlrSceneNodeSetPosition, Call.OnInitialized, hinit, hs]

theorem handleNewLayerSurface_configures (l : LayerId) (output : Option OutputId)
    (ok : Bool) :
    (∀ c ∈ (handleNewLayerSurface s l output ok).calls, c.OnInitialized) ↔
      ConfigureReady s (.newLayerSurface l output ok) := by
  rw [handleNewLayerSurface]
  cases ok with
  | false => simp [ConfigureReady, hs]
  | true =>
      cases output with
      | none => simp [ConfigureReady, hs]
      | some o =>
          simp only [ConfigureReady, if_true, Option.mem_some_iff, forall_eq', forall_const]
          split
          · next hbox =>
              rw [Bool.and_eq_true, decide_eq_true_eq, decide_eq_true_eq] at hbox
              simp [wlrLayerSurfaceConfigure, Call.OnInitialized, hs, hbox]
          · next hbox =>
              rw [Bool.and_eq_true, decide_eq_true_eq, decide_eq_true_eq] at hbox
              simp [hs, hbox]

end Requests

section Transfer

variable {s : ZenCompositor} (h : s.windows.Configurable)

include h

theorem map_emits {t : ToplevelId} (ht : s.windows.initialized t = true) :
    Emits Call.OnInitialized s (handle s (.map t)) := by
  have reveal : Emits Call.OnInitialized s (wlrSceneNodeSetEnabled
      { s with windows := s.windows.modify t fun r => { r with mapped := true } } t true) :=
    .of_eq rfl
  refine reveal.trans (zenXdgFocusToplevel_emits (fun p hp => ?_) fun u hu => ?_)
  · change (s.windows.reveal t).initialized p = true
    rw [Windows.reveal_initialized]
    exact h.focused_initialized hp
  · cases hu
    change (s.windows.reveal t).initialized t = true
    rwa [Windows.reveal_initialized]

theorem unmap_emits (t : ToplevelId) :
    Emits Call.OnInitialized s (handle s (.unmap t)) := by
  have hide : Emits Call.OnInitialized s (wlrSceneNodeSetEnabled
      { s with windows := s.windows.modify t fun r => { r with mapped := false } } t false) :=
    .of_eq rfl
  have transfer : Emits Call.OnInitialized s (handleToplevelUnmap
      { s with windows := s.windows.modify t fun r => { r with mapped := false } } t) := by
    rw [handleToplevelUnmap]
    dsimp only
    split
    · refine hide.trans (zenXdgFocusToplevel_emits (fun p hp => ?_) fun u hu => ?_)
      · change (s.windows.hide t).initialized p = true
        rw [Windows.hide_initialized]
        exact h.focused_initialized hp
      · change (s.windows.hide t).initialized u = true
        have hmapped : (s.windows.hide t).mapped u = true := by
          simpa using (Bool.and_eq_true _ _ ▸ List.find?_some hu).2
        rw [Windows.hide_mapped, Bool.and_eq_true] at hmapped
        rw [Windows.hide_initialized]
        exact h.mapped_initialized u hmapped.2
    · exact hide
  exact transfer.trans (.of_eq rfl)

theorem destroy_emits {t : ToplevelId} (ht : s.windows.mapped t = false) :
    Emits Call.OnInitialized s (handle s (.destroy t)) := by
  have hf : s.windows.focusedToplevel ≠ some t := fun hf => by
    simp [h.focused_mapped t hf] at ht
  simp only [handle, handleToplevelDestroy, hf, if_false]
  split <;> exact .of_eq rfl

theorem cursorButton_emits (pressed : Bool) {hit : Option Hit}
    (hhit : ∀ t ∈ toplevelAtHit hit, s.windows.mapped t = true) :
    Emits Call.OnInitialized s (handle s (.cursorButton pressed hit)) := by
  have button : ∀ s', Emits Call.OnInitialized s' (wlrSeatPointerNotifyButton s' pressed) :=
    fun s' => (wlrSeatPointerNotifyButton_emits s' pressed).mono
      fun _ => Call.onInitialized_of_isSeat
  refine Emits.trans ?_ (button _)
  cases pressed
  · simp only [Bool.not_false, Bool.true_and, Bool.false_eq_true, ↓reduceIte]
    split <;> exact .of_eq rfl
  · simp only [Bool.not_true, Bool.false_and, Bool.false_eq_true, ↓reduceIte]
    split
    · next t ht =>
        refine zenXdgFocusToplevel_emits (fun p hp => h.focused_initialized hp) fun u hu => ?_
        cases hu
        exact h.mapped_initialized t (hhit t ht)
    · exact .refl s

end Transfer

theorem handle_configures {s : ZenCompositor} (hs : s.calls = [])
    (h : s.windows.Configurable) {e : Event} (he : WlrootsOrder s e) :
    (∀ c ∈ (handle s e).calls, c.OnInitialized) ↔ ConfigureReady s e := by
  have quiet : ∀ {s'}, Emits Call.OnInitialized s s' → ∀ c ∈ s'.calls, c.OnInitialized :=
    fun hemits c hc => (hemits c hc).resolve_left (by simp [hs])
  have seat : ∀ {s'}, Emits Call.isSeat s s' → ∀ c ∈ s'.calls, c.OnInitialized :=
    fun hemits => quiet (hemits.mono fun _ => Call.onInitialized_of_isSeat)
  obtain ⟨hadm, hord, hphase⟩ := he
  cases e with
  | requestMaximize t => exact handleToplevelRequestMaximize_configures hs t
  | requestFullscreen t requested =>
      exact handleToplevelRequestFullscreen_configures hs t requested
  | newLayerSurface l output ok => exact handleNewLayerSurface_configures hs l output ok
  | newToplevel t surface ok =>
      refine iff_of_true (quiet ?_) trivial
      cases ok <;> exact .of_eq rfl
  | map t => exact iff_of_true (quiet (map_emits h hphase)) trivial
  | unmap t => exact iff_of_true (quiet (unmap_emits h t)) trivial
  | destroy t => exact iff_of_true (quiet (destroy_emits h hphase)) trivial
  | focus target => exact absurd hord id
  | requestMove t =>
      refine iff_of_true (quiet (.of_eq ?_)) trivial
      simp only [handle, handleToplevelRequestMove]
      split <;> rfl
  | newKeyboard k ok => exact iff_of_true (seat (newKeyboard_emits s k ok)) trivial
  | modifiers k state => exact iff_of_true (seat (modifiers_emits s k state)) trivial
  | key k keycode syms pressed modifiers bufferOk pam =>
      refine iff_of_true (quiet ?_) trivial
      exact (handleKeyboardKey_emits (wlrKeyboardUpdate s k keycode pressed) keycode syms pressed
        modifiers bufferOk pam).mono
        fun _ => Call.onInitialized_of_followsKey
  | cursorMotion x y hit => exact iff_of_true (seat (handleCursorMotion_emits s x y hit)) trivial
  | cursorButton pressed hit =>
      exact iff_of_true (quiet (cursorButton_emits h pressed hord)) trivial
  | newOutput o place allocs =>
      exact iff_of_true (quiet (.of_eq (handleNewOutput_writes s o place allocs).calls)) trivial
  | wallpaperInit stateOk treeOk =>
      exact iff_of_true (quiet (.of_eq (zenWallpaperInit_writes s stateOk treeOk).calls)) trivial
  | wallpaperDestroy =>
      exact iff_of_true (quiet (.of_eq (zenWallpaperDestroy_writes s).calls)) trivial
  | idleTimeout bufferOk | lockSignal bufferOk =>
      exact iff_of_true (quiet (.of_eq (zenLockActivate_calls s bufferOk))) trivial
  | newLock lock =>
      refine iff_of_true (quiet (.of_append rfl fun c hc => ?_)) trivial
      rw [List.mem_singleton.mp hc]
      trivial
  | _ => exact iff_of_true (quiet (.of_eq rfl)) trivial

theorem configuresInitialized_iff {s : ZenCompositor} (h : s.windows.Configurable)
    {e : Event} (he : WlrootsOrder s e) : ConfiguresInitialized s e ↔ ConfigureReady s e := by
  have hready : ConfigureReady { s with calls := [] } e ↔ ConfigureReady s e := by
    cases e <;> rfl
  have horder : WlrootsOrder { s with calls := [] } e := by
    cases e <;> exact he
  exact (handle_configures (s := { s with calls := [] }) rfl h horder).trans hready

section Runs

variable (outputs : List Output) (bindings : List ZenKeybinding) (idleTimer : Bool)

theorem created_configurable :
    (created outputs bindings idleTimer).windows.Configurable where
  mapped_initialized t ht := by cases ht
  focused_mapped t ht := by cases ht

/-- In every run that wlroots can drive, the compositor configures initialised
surfaces only, exactly when every maximize and fullscreen request and every new layer
surface of the run arrives when its surface can be configured. -/
theorem run_configures_initialized_iff (events : List Event)
    (h : Along step WlrootsOrder (created outputs bindings idleTimer) events) :
    Along step ConfiguresInitialized (created outputs bindings idleTimer) events ↔
      Along step ConfigureReady (created outputs bindings idleTimer) events :=
  along_iff_along (I := fun s => s.windows.Configurable)
    (fun _ _ hs he _ => step_configurable hs he)
    (fun _ _ hs he => configuresInitialized_iff hs he) h
    (created_configurable outputs bindings idleTimer)

end Runs

/-- A window is shown and maximized. -/
theorem run_configures_initialized_iff_maximize :
    Along step ConfiguresInitialized (created [] [] true)
        (showWindow 1 11 ++ [.requestMaximize 1, .unmap 1, .destroy 1]) ↔
      Along step ConfigureReady (created [] [] true)
        (showWindow 1 11 ++ [.requestMaximize 1, .unmap 1, .destroy 1]) :=
  run_configures_initialized_iff [] [] true _ (by decide)

/-- A client asks to be maximized before its initial commit, and a layer surface with
an output is created. -/
theorem early_requests_configure_too_soon :
    let screen : Output :=
      { id := 1, enabled := true, width := 1920, height := 1080, transposed := false
        scale := 1, x := 0, y := 0 }
    let events : List Event :=
      [.newToplevel 1 11 true, .requestMaximize 1, .newLayerSurface 5 (some 1) true]
    Along step WlrootsOrder (created [screen] [] true) events ∧
      (step (exec step (created [screen] [] true) (events.take 1)) (.requestMaximize 1)).calls =
        [.setSize 1 1920 1080 false, .setMaximized 1 true false] ∧
      (exec step (created [screen] [] true) events).calls =
        [.layerConfigure 5 1920 1080 false] ∧
      ¬ Along step ConfiguresInitialized (created [screen] [] true) events := by
  refine ⟨by decide +kernel, by decide +kernel, by decide +kernel, fun h => ?_⟩
  exact absurd (h.2.1 (.setMaximized 1 true false) (by decide +kernel)) Bool.false_ne_true

end ZenOS.Compositor
