import ZenOS.Compositor.Confinement
import ZenOS.Compositor.WindowInvariant

/-!
Keyboard focus and focused toplevel under keyboard hotplug.  The focus moves while the
seat has no keyboard too, but then nobody tells the seat; a keyboard that is attached
later finds the seat as the last keyboard left it.
-/

namespace ZenOS.Compositor

open ZenOS.Library.Runs

/-- The surface that ought to have the keyboard focus. -/
def ZenCompositor.focusedSurface (s : ZenCompositor) : Option SurfaceId :=
  s.windows.focusedToplevel.bind s.windows.surfaceOf

/-- The focused toplevel's surface has the keyboard focus, or there is neither. -/
def FocusAgrees (s : ZenCompositor) : Prop :=
  s.seat.keyboardFocus = s.focusedSurface

instance (s : ZenCompositor) : Decidable (FocusAgrees s) :=
  inferInstanceAs (Decidable (_ = _))

/-- If the seat has a keyboard after the event, the focus agrees. -/
def KeepsAgreement (s : ZenCompositor) (e : Event) : Prop :=
  (step s e).seat.keyboard.isSome → FocusAgrees (step s e)

instance (s : ZenCompositor) (e : Event) : Decidable (KeepsAgreement s e) :=
  inferInstanceAs (Decidable (_ → _))

/-- A surface is destroyed only after the toplevel whose role it has. -/
def SurfaceOutlives (s : ZenCompositor) : Event → Prop
  | .surfaceDestroy surface => ∀ t ∈ s.windows.toplevels, s.windows.surfaceOf t ≠ some surface
  | _ => True

instance (s : ZenCompositor) : ∀ e, Decidable (SurfaceOutlives s e)
  | .surfaceDestroy _ => inferInstanceAs (Decidable (∀ t ∈ (_ : List _), _))
  | .newToplevel .. | .commit .. | .map _ | .unmap _ | .destroy _ | .requestMove _
  | .requestResize _ | .requestMaximize _ | .requestFullscreen .. | .focus _
  | .newLayerSurface .. | .layerCommit _ | .layerMap _ | .layerUnmap _ | .layerDestroy _
  | .newKeyboard .. | .keyboardDestroy _ | .key .. | .modifiers .. | .cursorMotion ..
  | .cursorButton .. | .newOutput .. | .outputRequestState .. | .outputDestroy ..
  | .wallpaperInit .. | .wallpaperDestroy | .idleTimeout _ | .lockSignal _
  | .newLock _ => inferInstanceAs (Decidable True)

/-- The order in which wlroots emits the events of windows and their surfaces. -/
def SurfaceOrder (s : ZenCompositor) (e : Event) : Prop :=
  Admissible s e ∧ SurfaceOutlives s e

instance (s : ZenCompositor) (e : Event) : Decidable (SurfaceOrder s e) :=
  inferInstanceAs (Decidable (_ ∧ _))

/-- A seat without a keyboard gets one only while the toplevel that is focused, if any,
has the keyboard focus already. -/
def AttachesInTime (s : ZenCompositor) : Event → Prop
  | .newKeyboard _ true | .modifiers .. => s.seat.keyboard = none →
      ∀ t ∈ s.windows.focusedToplevel, s.seat.keyboardFocus = s.windows.surfaceOf t
  | _ => True

section Surfaces

variable (w : Windows) (t u : ToplevelId)

theorem Windows.focus_surfaceOf (target : Option ToplevelId) :
    (w.focus target).surfaceOf u = w.surfaceOf u := by
  unfold Windows.surfaceOf
  rw [Windows.focus_heap, Option.map_map]
  rfl

theorem Windows.free_surfaceOf (h : u ≠ t) : (w.free t).surfaceOf u = w.surfaceOf u := by
  unfold Windows.surfaceOf
  rw [Windows.free_heap, if_neg h]

end Surfaces

theorem wlrSeatKeyboardNotifyEnter_seat (s : ZenCompositor) (surface : SurfaceId)
    (keycodes : List UInt32) (modifiers : KeyboardModifiers) :
    (wlrSeatKeyboardNotifyEnter s surface keycodes modifiers).seat =
      { s.seat with keyboardFocus := some surface } := by
  rw [wlrSeatKeyboardNotifyEnter_eq]
  split
  · next h => rw [← h]
  · rfl

theorem wlrSeatSetKeyboard_seat (s : ZenCompositor) (k : KeyboardId) :
    (wlrSeatSetKeyboard s k).seat = { s.seat with keyboard := some k } := by
  rw [wlrSeatSetKeyboard]
  split
  · next h => rw [← h]
  · rfl

theorem enterToplevel_seat {s : ZenCompositor} {t : ToplevelId} (ht : s.windows.Live t) :
    (enterToplevel s t).seat =
      if s.seat.keyboard.isSome then { s.seat with keyboardFocus := s.windows.surfaceOf t }
      else s.seat := by
  obtain ⟨r, hr⟩ := Option.isSome_iff_exists.mp ht
  rw [enterToplevel, Windows.surfaceOf, hr]
  cases s.seat.keyboard with
  | none => rfl
  | some k => exact wlrSeatKeyboardNotifyEnter_seat s r.surface (s.keycodes k) (s.modifiers k)

/-- The seat after the focus moved to `target`, as far as the seat is told. -/
def Seat.focusMoved (seat : Seat) (w : Windows) : Option ToplevelId → Seat
  | none => { seat with keyboardFocus := none }
  | some t =>
      if seat.keyboard.isSome then { seat with keyboardFocus := w.surfaceOf t } else seat

theorem zenXdgFocusToplevel_seat {s : ZenCompositor} {target : Option ToplevelId}
    (hne : s.windows.focusedToplevel ≠ target) (htarget : ∀ t ∈ target, s.windows.Live t) :
    (zenXdgFocusToplevel s target).seat = s.seat.focusMoved s.windows target := by
  rw [zenXdgFocusToplevel, if_neg hne]
  have hseat := deactivateFocused_seat s
  have hsurface := deactivateFocused_surfaceOf s
  cases target with
  | none => exact congrArg (fun seat : Seat => { seat with keyboardFocus := none }) hseat
  | some t =>
      have hlive : (deactivateFocused s).windows.Live t := by
        have : ((deactivateFocused s).windows.surfaceOf t).isSome := by
          rw [hsurface, Windows.surfaceOf, Option.isSome_map]
          exact htarget t rfl
        rwa [Windows.surfaceOf, Option.isSome_map] at this
      let moved : ZenCompositor := wlrXdgToplevelSetActivated { deactivateFocused s with
        windows := { (deactivateFocused s).windows with
          focusedToplevel := some t
          toplevels := t :: (deactivateFocused s).windows.toplevels.erase t } } t true
      have hmoved : moved.windows.surfaceOf t = s.windows.surfaceOf t :=
        (Windows.modify_surfaceOf _ t (fun _ => by rfl) t).trans (hsurface t)
      have henter : (enterToplevel moved t).seat = _ :=
        enterToplevel_seat ((Windows.modify_live ..).mpr hlive)
      rw [hmoved, show moved.seat = s.seat from hseat] at henter
      exact henter

theorem handleToplevelRequestMaximize_seat (s : ZenCompositor) (t : ToplevelId) :
    (handleToplevelRequestMaximize s t).seat = s.seat := by
  rw [handleToplevelRequestMaximize]
  split
  · rfl
  · dsimp only
    split
    · split <;> rfl
    · rfl

theorem handleToplevelRequestFullscreen_seat (s : ZenCompositor) (t : ToplevelId)
    (requested : Option OutputId) :
    (handleToplevelRequestFullscreen s t requested).seat = s.seat := by
  rw [handleToplevelRequestFullscreen]
  split
  · rfl
  · dsimp only
    split
    · split <;> rfl
    · rfl

theorem handleCursorMotion_keyboard (s : ZenCompositor) (x y : ℚ) (hit : Option Hit) :
    (handleCursorMotion s x y hit).seat.keyboard = s.seat.keyboard ∧
      (handleCursorMotion s x y hit).seat.keyboardFocus = s.seat.keyboardFocus := by
  unfold handleCursorMotion zenInputProcessCursorMotion
  simp only [wlrSeatPointerNotifyMotion_eq, wlrSeatPointerNotifyEnter_eq]
  repeat' split
  all_goals exact ⟨rfl, rfl⟩

/-- While the seat has a keyboard the focus agrees, and nothing has the keyboard focus
when no toplevel is focused. -/
structure Synced (s : ZenCompositor) : Prop where
  agrees : s.seat.keyboard ≠ none → FocusAgrees s
  cleared : s.windows.focusedToplevel = none → s.seat.keyboardFocus = none

namespace Synced

variable {s s' : ZenCompositor}

theorem of_same (h : Synced s)
    (hfocused : s'.windows.focusedToplevel = s.windows.focusedToplevel)
    (hsurface : ∀ t ∈ s.windows.focusedToplevel,
      s'.windows.surfaceOf t = s.windows.surfaceOf t)
    (hkeyboard : s'.seat.keyboard ≠ none → s.seat.keyboard ≠ none)
    (hfocus : s'.seat.keyboardFocus = s.seat.keyboardFocus) : Synced s' where
  agrees hk := by
    rw [FocusAgrees, hfocus, h.agrees (hkeyboard hk), ZenCompositor.focusedSurface,
      ZenCompositor.focusedSurface, hfocused]
    rcases hf : s.windows.focusedToplevel with _ | t
    · rfl
    · exact (hsurface t hf).symm
  cleared hf := hfocus.trans (h.cleared (hfocused.symm.trans hf))

theorem of_eq (h : Synced s) (hwindows : s'.windows = s.windows)
    (hseat : s'.seat = s.seat) : Synced s' :=
  h.of_same (congrArg Windows.focusedToplevel hwindows) (fun t _ => by rw [hwindows])
    (by rw [hseat]; exact id) (congrArg Seat.keyboardFocus hseat)

theorem focusAgrees_iff (h : Synced s) :
    FocusAgrees s ↔ ∀ t ∈ s.windows.focusedToplevel,
      s.seat.keyboardFocus = s.windows.surfaceOf t := by
  rw [FocusAgrees, ZenCompositor.focusedSurface]
  rcases hf : s.windows.focusedToplevel with _ | t
  · simpa using h.cleared hf
  · simp

theorem focus (h : Synced s) {target : Option ToplevelId}
    (htarget : ∀ t ∈ target, s.windows.Live t) :
    Synced (zenXdgFocusToplevel s target) := by
  rcases eq_or_ne s.windows.focusedToplevel target with heq | hne
  · rw [zenXdgFocusToplevel_self heq]
    exact h
  have hseat := zenXdgFocusToplevel_seat hne htarget
  have hfocused : (zenXdgFocusToplevel s target).focusedSurface =
      target.bind s.windows.surfaceOf := by
    rw [ZenCompositor.focusedSurface, zenXdgFocusToplevel_windows,
      Windows.focus_focusedToplevel]
    exact congrArg target.bind (funext fun t => s.windows.focus_surfaceOf t target)
  constructor
  · intro hk
    rw [FocusAgrees, hfocused, hseat]
    cases target with
    | none => rfl
    | some t =>
        rw [hseat] at hk
        rcases hkeyboard : s.seat.keyboard with _ | k
        · simp [Seat.focusMoved, hkeyboard] at hk
        · simp [Seat.focusMoved, hkeyboard]
  · intro hnone
    rw [zenXdgFocusToplevel_windows, Windows.focus_focusedToplevel] at hnone
    rw [hseat, hnone]
    rfl

end Synced

section Events

variable {s : ZenCompositor} (h : Synced s) (hw : s.windows.WellFormed)

include h

theorem apply_position_synced {s' : ZenCompositor} {e : Event}
    (haction : windowAction s e = .idle ∨ ∃ t x y, windowAction s e = .position t x y)
    (hwindows : s'.windows = s.windows.apply (windowAction s e))
    (hkeyboard : s'.seat.keyboard = s.seat.keyboard)
    (hfocus : s'.seat.keyboardFocus = s.seat.keyboardFocus) : Synced s' := by
  refine h.of_same ?_ (fun t _ => ?_) (by rw [hkeyboard]; exact id) hfocus
  · rw [hwindows]
    rcases haction with ha | ⟨u, x, y, ha⟩ <;> rw [ha] <;> rfl
  · rw [hwindows]
    rcases haction with ha | ⟨u, x, y, ha⟩
    · rw [ha]
      rfl
    · rw [ha]
      exact Windows.modify_surfaceOf _ _ (fun _ => by rfl) t

theorem unmap_synced (hadm : ∀ t ∈ s.windows.toplevels, s.windows.Live t)
    (t : ToplevelId) : Synced (handle s (.unmap t)) := by
  let hidden : ZenCompositor := { s with windows := s.windows.hide t }
  have hhidden : Synced hidden :=
    h.of_same rfl (fun u _ => s.windows.hide_surfaceOf t u) id rfl
  have hunmap : Synced (handleToplevelUnmap
      { s with windows := s.windows.modify t fun r => { r with mapped := false } } t) := by
    change Synced (if s.windows.focusedToplevel = some t then zenXdgFocusToplevel hidden _
      else hidden)
    split
    · refine hhidden.focus fun u hu => ?_
      exact (Windows.modify_live ..).mpr
        ((Windows.modify_live ..).mpr (hadm u (List.mem_of_find?_eq_some hu)))
    · exact hhidden
  exact hunmap.of_same rfl (fun u _ => Windows.modify_surfaceOf _ _ (fun _ => by rfl) u) id rfl

theorem keyboardDestroy_synced (k : KeyboardId) : Synced (handle s (.keyboardDestroy k)) := by
  have hseat : (handle s (.keyboardDestroy k)).seat.keyboardFocus = s.seat.keyboardFocus := by
    change (if _ then _ else _ : Seat).keyboardFocus = _
    split <;> rfl
  refine h.of_same rfl (fun _ _ => rfl) (fun hk hnone => hk ?_) hseat
  change (if s.seat.keyboard = some k then _ else _ : Seat).keyboard = _
  split
  · rfl
  · exact hnone

theorem cursorButton_synced (pressed : Bool) {hit : Option Hit}
    (hlive : ∀ t ∈ toplevelAtHit hit, s.windows.Live t) :
    Synced (handle s (.cursorButton pressed hit)) := by
  cases pressed with
  | false =>
      change Synced (wlrSeatPointerNotifyButton (if _ then _ else s : ZenCompositor) false)
      split
      · exact h.of_same rfl (fun _ _ => rfl) id rfl
      · exact h.of_same rfl (fun _ _ => rfl) id rfl
  | true =>
      change Synced (handleCursorButton s true hit)
      simp only [handleCursorButton, Bool.not_true, Bool.false_and, Bool.false_eq_true,
        if_false, if_true]
      split
      · next t ht =>
          have hfocus : Synced (zenXdgFocusToplevel s (some t)) :=
            h.focus fun u hu => hlive u (ht.trans hu)
          exact hfocus.of_same rfl (fun _ _ => rfl) id rfl
      · exact h.of_same rfl (fun _ _ => rfl) id rfl

theorem surfaceDestroy_synced {surface : SurfaceId}
    (houtlives : ∀ t ∈ s.windows.focusedToplevel, s.windows.surfaceOf t ≠ some surface) :
    Synced (handle s (.surfaceDestroy surface)) := by
  constructor
  · intro hk
    have hagrees : s.seat.keyboardFocus = s.focusedSurface := h.agrees hk
    have hne : s.seat.keyboardFocus ≠ some surface := by
      rw [hagrees, ZenCompositor.focusedSurface]
      rcases hf : s.windows.focusedToplevel with _ | t
      · simp
      · exact houtlives t hf
    exact (if_neg hne).trans hagrees
  · intro hf
    change (if s.seat.keyboardFocus = some surface then none else s.seat.keyboardFocus) = none
    rw [h.cleared hf]
    rfl

include hw

theorem destroy_synced (t : ToplevelId) : Synced (handle s (.destroy t)) := by
  let next := s.windows.toplevels.find? fun u => u ≠ t
  let moved : ZenCompositor :=
    if s.windows.focusedToplevel = some t then zenXdgFocusToplevel s next else s
  have hmoved : Synced moved ∧ moved.windows.focusedToplevel ≠ some t := by
    rcases eq_or_ne s.windows.focusedToplevel (some t) with hf | hf
    · have hnext : ∀ u ∈ next, s.windows.Live u := fun u hu =>
        (hw.live_iff u).mpr (List.mem_of_find?_eq_some hu)
      rw [show moved = zenXdgFocusToplevel s next from if_pos hf]
      refine ⟨h.focus hnext, fun hnt => ?_⟩
      rw [zenXdgFocusToplevel_windows, Windows.focus_focusedToplevel] at hnt
      simpa using List.find?_some hnt
    · rw [show moved = s from if_neg hf]
      exact ⟨h, hf⟩
  have hwindows : (handle s (.destroy t)).windows = moved.windows.free t := by
    rw [handle_windows]
    simp only [moved, apply_ite ZenCompositor.windows, zenXdgFocusToplevel_windows]
    rfl
  have hseat : (handle s (.destroy t)).seat = moved.seat := by
    change (if moved.windows.grabbedToplevel = some t then _ else moved : ZenCompositor).seat = _
    split <;> rfl
  refine hmoved.1.of_same ?_ (fun u hu => ?_) (by rw [hseat]; exact id)
    (congrArg Seat.keyboardFocus hseat)
  · rw [hwindows, Windows.free_focusedToplevel]
  · rw [hwindows]
    exact Windows.free_surfaceOf _ _ _ fun hut => hmoved.2 (hut ▸ hu)

end Events

section Step

variable {s : ZenCompositor} {e : Event} (h : Synced s)

include h

theorem Synced.attach {s' : ZenCompositor} {k : KeyboardId} (hwindows : s'.windows = s.windows)
    (hseat : s'.seat = { s.seat with keyboard := some k })
    (hattach : s.seat.keyboard = none → ∀ t ∈ s.windows.focusedToplevel,
      s.seat.keyboardFocus = s.windows.surfaceOf t) : Synced s' := by
  have hagrees : FocusAgrees s := by
    rcases hk : s.seat.keyboard with _ | k'
    · exact h.focusAgrees_iff.mpr (hattach hk)
    · exact h.agrees (by simp [hk])
  constructor
  · intro _
    rw [FocusAgrees, ZenCompositor.focusedSurface, hwindows, hseat]
    exact hagrees
  · intro hf
    rw [hwindows] at hf
    rw [hseat]
    exact h.cleared hf

theorem handle_synced (hw : s.windows.WellFormed) (he : SurfaceOrder s e)
    (hattach : AttachesInTime s e) : Synced (handle s e) := by
  have live : ∀ t ∈ s.windows.toplevels, s.windows.Live t := fun t => (hw.live_iff t).mpr
  obtain ⟨hadm, houtlives⟩ := he
  rcases eq_or_ne e.owner .desktop with ho | ho
  · cases e with
    | newToplevel t surface ok =>
        cases ok with
        | false => exact h
        | true =>
            refine h.of_same rfl (fun u hu => ?_) id rfl
            have hut : u ≠ t := fun hut =>
              hadm (live t (hut ▸ hw.focused_mem u hu))
            change (Function.update s.windows.heap t _ u).map _ = _
            rw [Function.update_of_ne hut]
            rfl
    | commit t maximized fullscreen =>
        exact h.of_same rfl (fun u _ => Windows.modify_surfaceOf _ _ (fun _ => by rfl) u) id rfl
    | map t =>
        have hshown : Synced { s with windows := s.windows.reveal t } :=
          h.of_same rfl (fun u _ => s.windows.reveal_surfaceOf t u) id rfl
        refine hshown.focus fun u hu => ?_
        cases hu
        exact (Windows.modify_live ..).mpr ((Windows.modify_live ..).mpr hadm)
    | unmap t => exact unmap_synced h live t
    | destroy t => exact destroy_synced h hw t
    | requestMove t =>
        simp only [handle, handleToplevelRequestMove]
        split
        · exact h
        · exact h.of_same rfl (fun _ _ => rfl) id rfl
    | requestMaximize t =>
        have hseat := handleToplevelRequestMaximize_seat s t
        refine apply_position_synced h ?_ (handle_windows s _) (congrArg Seat.keyboard hseat)
          (congrArg Seat.keyboardFocus hseat)
        simp only [windowAction]
        repeat' split
        all_goals first | exact .inl rfl | exact .inr ⟨_, _, _, rfl⟩
    | requestFullscreen t requested =>
        have hseat := handleToplevelRequestFullscreen_seat s t requested
        refine apply_position_synced h ?_ (handle_windows s _) (congrArg Seat.keyboard hseat)
          (congrArg Seat.keyboardFocus hseat)
        simp only [windowAction]
        repeat' split
        all_goals first | exact .inl rfl | exact .inr ⟨_, _, _, rfl⟩
    | focus target => exact h.focus hadm
    | newKeyboard k ok =>
        cases ok with
        | false => exact h.of_eq rfl rfl
        | true =>
            exact h.attach (wlrSeatSetKeyboard_windows (wlrKeyboardInit s k) k)
              (wlrSeatSetKeyboard_seat (wlrKeyboardInit s k) k) hattach
    | modifiers k state =>
        let updated := wlrKeyboardUpdateModifiers s k state
        exact h.attach (wlrSeatSetKeyboard_windows updated k)
          (wlrSeatSetKeyboard_seat updated k) hattach
    | keyboardDestroy k => exact keyboardDestroy_synced h k
    | cursorMotion x y hit =>
        obtain ⟨hkeyboard, hfocus⟩ := handleCursorMotion_keyboard s x y hit
        refine apply_position_synced h ?_ (handle_windows s _) hkeyboard hfocus
        simp only [windowAction]
        split
        · exact .inr ⟨_, _, _, rfl⟩
        · exact .inl rfl
    | cursorButton pressed hit => exact cursorButton_synced h pressed hadm
    | surfaceDestroy surface =>
        exact surfaceDestroy_synced h fun t hf => houtlives t (hw.focused_mem t hf)
    | requestResize => exact h
    | _ => cases ho
  · have hframed := (handle_writes s e).framed
    exact h.of_eq (hframed.windows ho) (hframed.seat ho)

theorem step_synced (hw : s.windows.WellFormed) (he : SurfaceOrder s e)
    (hattach : AttachesInTime s e) : Synced (step s e) := by
  have hclear : Synced { s with calls := [] } := h.of_eq rfl rfl
  refine handle_synced hclear hw ?_ ?_
  · cases e <;> exact he
  · cases e with
    | newKeyboard k ok => cases ok <;> exact hattach
    | _ => exact hattach

theorem keepsAgreement_iff (hw : s.windows.WellFormed) (he : SurfaceOrder s e) :
    KeepsAgreement s e ↔ AttachesInTime s e := by
  refine ⟨fun hkeeps => ?_, fun hattach hk => ?_⟩
  · have attach : ∀ {k}, (step s e).windows = s.windows →
        (step s e).seat = { s.seat with keyboard := some k } →
        ∀ t ∈ s.windows.focusedToplevel, s.seat.keyboardFocus = s.windows.surfaceOf t := by
      intro k hwindows hseat
      have hagrees : FocusAgrees (step s e) := hkeeps (by rw [hseat]; rfl)
      rw [FocusAgrees, ZenCompositor.focusedSurface, hwindows, hseat] at hagrees
      exact h.focusAgrees_iff.mp hagrees
    cases e with
    | newKeyboard k ok =>
        cases ok with
        | false => trivial
        | true =>
            let init := wlrKeyboardInit { s with calls := [] } k
            exact fun _ => attach (wlrSeatSetKeyboard_windows init k)
              (wlrSeatSetKeyboard_seat init k)
    | modifiers k state =>
        let updated := wlrKeyboardUpdateModifiers { s with calls := [] } k state
        exact fun _ => attach (wlrSeatSetKeyboard_windows updated k)
          (wlrSeatSetKeyboard_seat updated k)
    | _ => trivial
  · exact (step_synced h hw he hattach).agrees (Option.isSome_iff_ne_none.mp hk)

end Step

section Runs

variable (outputs : List Output) (bindings : List ZenKeybinding) (idleTimer : Bool)

theorem created_synced : Synced (created outputs bindings idleTimer) :=
  ⟨fun _ => rfl, fun _ => rfl⟩

/-- In every run the focus agrees whenever the seat has a keyboard, exactly when every
keyboard that the seat gets while it has none comes in time. -/
theorem run_keepsAgreement_iff (events : List Event)
    (h : Along step SurfaceOrder (created outputs bindings idleTimer) events) :
    Along step KeepsAgreement (created outputs bindings idleTimer) events ↔
      Along step AttachesInTime (created outputs bindings idleTimer) events := by
  refine along_iff_along (I := fun s => s.windows.WellFormed ∧ Synced s)
    (fun s e hs he hkeeps => ?_) (fun s e hs he => keepsAgreement_iff hs.2 hs.1 he) h
    ⟨created_windows_wellFormed outputs bindings idleTimer,
      created_synced outputs bindings idleTimer⟩
  have hattach : AttachesInTime s e := (keepsAgreement_iff hs.2 hs.1 he).mp hkeeps
  exact ⟨step_windows_wellFormed hs.1 he.1, step_synced hs.2 hs.1 he hattach⟩

end Runs

/-- A keyboard, a window, and the keyboard is replaced while the window is gone. -/
theorem run_keepsAgreement_iff_replug :
    let events : List Event := [.newKeyboard 1 true] ++ showWindow 1 11 ++
      [.unmap 1, .keyboardDestroy 1, .destroy 1, .surfaceDestroy 11, .newKeyboard 2 true]
    Along step KeepsAgreement (created [] [] true) events ↔
      Along step AttachesInTime (created [] [] true) events :=
  run_keepsAgreement_iff [] [] true _ (by decide)

/-- A window is shown before the first keyboard is attached. -/
theorem late_keyboard_has_no_focus :
    let events : List Event := showWindow 1 11 ++ [.newKeyboard 1 true]
    let s := exec step (created [] [] true) events
    Along step SurfaceOrder (created [] [] true) events ∧ s.seat.keyboard = some 1 ∧
      s.focusedSurface = some 11 ∧ s.seat.keyboardFocus = none ∧
      ¬ Along step KeepsAgreement (created [] [] true) events := by
  decide

end ZenOS.Compositor
