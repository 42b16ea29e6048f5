import ZenOS.Compositor.Calls
import ZenOS.Compositor.WindowMachine
import ZenOS.Library.Runs

/-!
Input confinement.  While the screen is locked no input may reach a client; this
file says exactly which events keep to that.
-/

namespace ZenOS.Compositor

open ZenOS.Library.Runs

/-- The call delivers keyboard or pointer input to a client. -/
def Call.ReachesClient : Call → Prop
  | .keyboardEnter .. | .keyboardModifiers .. | .keyboardKey .. | .pointerEnter _
  | .pointerMotion _ | .pointerButton .. => True
  | _ => False

/-- No input has been delivered since the current event arrived. -/
def Silent (s : ZenCompositor) : Prop :=
  ∀ c ∈ s.calls, ¬ c.ReachesClient

def Event.IsInput : Event → Prop
  | .key .. | .modifiers .. | .cursorMotion .. | .cursorButton .. => True
  | _ => False

def Windows.surfaceOf (w : Windows) (t : ToplevelId) : Option SurfaceId :=
  (w.heap t).map (·.surface)

def Windows.positionOf (w : Windows) (t : ToplevelId) : Option (Int × Int) :=
  (w.heap t).map fun r => (r.nodeX, r.nodeY)

/-- Focus, grab and positions are the same. -/
structure SameDesktop (s s' : ZenCompositor) : Prop where
  focusedToplevel : s'.windows.focusedToplevel = s.windows.focusedToplevel
  keyboardFocus : s'.seat.keyboardFocus = s.seat.keyboardFocus
  pointerFocus : s'.seat.pointerFocus = s.seat.pointerFocus
  grabbedToplevel : s'.windows.grabbedToplevel = s.windows.grabbedToplevel
  positionOf : ∀ t, s'.windows.positionOf t = s.windows.positionOf t

/-- Handling the event delivers no input to a client, and if the event is input, it
leaves the desktop as it is. -/
def Confined (s : ZenCompositor) (e : Event) : Prop :=
  Silent (step s e) ∧ (e.IsInput → SameDesktop s (step s e))

/-- Moving the focus to `target` enters no surface: the focus is there already, or
there is no keyboard, or the target's surface has the keyboard focus. -/
def EntersNothing (s : ZenCompositor) (target : Option ToplevelId) : Prop :=
  ∀ t ∈ target, s.windows.focusedToplevel = some t ∨ s.seat.keyboard = none ∨
    ∀ surface ∈ s.windows.surfaceOf t, s.seat.keyboardFocus = some surface

/-- The pointer moves over nothing while no client has the pointer focus, or it stands
where the client with the pointer focus already knows it. -/
def PointsNowhereNew (s : ZenCompositor) (hit : Option Hit) : Prop :=
  match hit with
  | some { surface := some surface, sx, sy, .. } =>
      s.seat.pointerFocus = some surface ∧ s.seat.pointerX = sx ∧ s.seat.pointerY = sy
  | _ => s.seat.pointerFocus = none

/-- When an event is confined: what input would reach has no focus, and a focus that is
handed on enters no surface. -/
def Quiet (s : ZenCompositor) : Event → Prop
  | .map t => EntersNothing s (some t)
  | .unmap t => s.windows.focusedToplevel = some t →
      EntersNothing s
        (s.windows.toplevels.find? fun u => u ≠ t && s.windows.mapped u)
  | .destroy t => s.windows.focusedToplevel = some t →
      EntersNothing s (s.windows.toplevels.find? fun u => u ≠ t)
  | .focus target => EntersNothing s target
  | .newKeyboard k ok => ok = true →
      s.seat.keyboard = some k ∨ s.seat.keyboardFocus = none
  | .modifiers .. => s.seat.keyboardFocus = none
  | .cursorMotion x y hit =>
      match s.windows.grabbedToplevel with
      | some g => ∀ position ∈ s.windows.positionOf g, position =
          (s.windows.grabNodeX + truncToInt (x - s.windows.grabX),
            s.windows.grabNodeY + truncToInt (y - s.windows.grabY))
      | none => PointsNowhereNew s hit
  | .cursorButton pressed hit =>
      s.seat.pointerFocus = none ∧
        (pressed = true → ∀ t ∈ toplevelAtHit hit, s.windows.focusedToplevel = some t) ∧
        (pressed = false → s.windows.grabbedToplevel = none)
  | _ => True

theorem Windows.modify_surfaceOf (w : Windows) (t : ToplevelId)
    {f : ZenToplevel → ZenToplevel} (hf : ∀ r, (f r).surface = r.surface) (u : ToplevelId) :
    (w.modify t f).surfaceOf u = w.surfaceOf u := by
  rw [Windows.surfaceOf]
  rw [Windows.modify_heap]
  split
  · next hu =>
      rw [hu, Option.map_map]
      congr 1
      exact funext hf
  · rfl

theorem Windows.reveal_surfaceOf (w : Windows) (t u : ToplevelId) :
    (w.reveal t).surfaceOf u = w.surfaceOf u := by
  rw [Windows.reveal]
  rw [Windows.modify_surfaceOf _ _ fun _ => by rfl, Windows.modify_surfaceOf _ _ fun _ => by rfl]

theorem Windows.hide_surfaceOf (w : Windows) (t u : ToplevelId) :
    (w.hide t).surfaceOf u = w.surfaceOf u := by
  rw [Windows.hide]
  rw [Windows.modify_surfaceOf _ _ fun _ => by rfl, Windows.modify_surfaceOf _ _ fun _ => by rfl]

section Silent

variable {s s' : ZenCompositor}

theorem silent_of_calls (h : s'.calls = s.calls) : Silent s' ↔ Silent s := by
  unfold Silent
  rw [h]

theorem silent_of_append {calls : List Call} (h : s'.calls = s.calls ++ calls) :
    Silent s' ↔ Silent s ∧ ∀ c ∈ calls, ¬ c.ReachesClient := by
  rw [Silent]
  rw [h]
  exact List.forall_mem_append

variable (s)

@[simp] theorem wlrXdgToplevelSetActivated_silent (t : ToplevelId) (activated : Bool) :
    Silent (wlrXdgToplevelSetActivated s t activated) ↔ Silent s := by
  rw [silent_of_append rfl]
  simp [Call.ReachesClient]

@[simp] theorem wlrSeatKeyboardNotifyEnter_silent (surface : SurfaceId) (keycodes : List UInt32)
    (modifiers : KeyboardModifiers) :
    Silent (wlrSeatKeyboardNotifyEnter s surface keycodes modifiers) ↔
      Silent s ∧ s.seat.keyboardFocus = some surface := by
  rw [wlrSeatKeyboardNotifyEnter_eq]
  split
  · next h => simp [h]
  · next h =>
      rw [silent_of_append (List.append_assoc ..)]
      refine iff_of_false (fun hc => ?_) fun hc => h hc.2
      exact hc.2 (.keyboardEnter surface keycodes) (by simp) trivial

@[simp] theorem wlrSeatKeyboardNotifyClearFocus_silent :
    Silent (wlrSeatKeyboardNotifyClearFocus s) ↔ Silent s := by
  rw [silent_of_append rfl]
  cases s.seat.keyboardFocus <;> simp [Call.ReachesClient]

@[simp] theorem wlrSeatSetKeyboard_silent (k : KeyboardId) :
    Silent (wlrSeatSetKeyboard s k) ↔
      Silent s ∧ (s.seat.keyboard = some k ∨ s.seat.keyboardFocus = none) := by
  rw [wlrSeatSetKeyboard]
  split
  · next h => simp [h]
  · next h =>
      rw [silent_of_append rfl]
      cases s.seat.keyboardFocus <;> simp [h, Call.ReachesClient]

@[simp] theorem wlrSeatKeyboardNotifyModifiers_silent (modifiers : KeyboardModifiers) :
    Silent (wlrSeatKeyboardNotifyModifiers s modifiers) ↔
      Silent s ∧ s.seat.keyboardFocus = none := by
  rw [silent_of_append rfl]
  cases s.seat.keyboardFocus <;> simp [Call.ReachesClient]

@[simp] theorem wlrSeatPointerNotifyEnter_silent (surface : SurfaceId) (sx sy : ℚ) :
    Silent (wlrSeatPointerNotifyEnter s surface sx sy) ↔
      Silent s ∧ s.seat.pointerFocus = some surface := by
  rw [wlrSeatPointerNotifyEnter_eq]
  split
  · next h => simp [h]
  · next h =>
      rw [silent_of_append (List.append_assoc ..)]
      simp [h, Call.ReachesClient]

@[simp] theorem wlrSeatPointerNotifyMotion_silent (sx sy : ℚ) :
    Silent (wlrSeatPointerNotifyMotion s sx sy) ↔
      Silent s ∧
        (s.seat.pointerFocus ≠ none → s.seat.pointerX = sx ∧ s.seat.pointerY = sy) := by
  rw [wlrSeatPointerNotifyMotion_eq]
  split
  · next h => simp [h]
  · next surface h =>
      split
      · next hpos => simp [h, hpos]
      · next hpos =>
          rw [silent_of_append rfl]
          simpa [h, Call.ReachesClient] using fun _ => hpos

@[simp] theorem wlrSeatPointerNotifyClearFocus_silent :
    Silent (wlrSeatPointerNotifyClearFocus s) ↔ Silent s := by
  rw [silent_of_append rfl]
  cases s.seat.pointerFocus <;> simp [Call.ReachesClient]

@[simp] theorem wlrSeatPointerNotifyButton_silent (pressed : Bool) :
    Silent (wlrSeatPointerNotifyButton s pressed) ↔
      Silent s ∧ s.seat.pointerFocus = none := by
  rw [silent_of_append rfl]
  cases s.seat.pointerFocus <;> simp [Call.ReachesClient]

@[simp] theorem deactivateFocused_silent : Silent (deactivateFocused s) ↔ Silent s := by
  rw [deactivateFocused]
  split <;> simp

theorem enterToplevel_silent (t : ToplevelId) :
    Silent (enterToplevel s t) ↔
      Silent s ∧ (s.seat.keyboard = none ∨
        ∀ surface ∈ s.windows.surfaceOf t, s.seat.keyboardFocus = some surface) := by
  unfold enterToplevel Windows.surfaceOf
  cases s.seat.keyboard with
  | none => simp
  | some k => cases s.windows.heap t <;> simp

theorem activateToplevel_silent (t : ToplevelId) :
    Silent (activateToplevel s t) ↔
      Silent s ∧ (s.seat.keyboard = none ∨
        ∀ surface ∈ s.windows.surfaceOf t, s.seat.keyboardFocus = some surface) := by
  let front : ZenCompositor := { s with windows := { s.windows with
    toplevels := t :: s.windows.toplevels.erase t } }
  have hsurface : (wlrXdgToplevelSetActivated front t true).windows.surfaceOf t =
      s.windows.surfaceOf t := front.windows.modify_surfaceOf t (fun _ => by rfl) t
  calc Silent (activateToplevel s t)
    _ ↔ Silent (enterToplevel (wlrXdgToplevelSetActivated front t true) t) :=
        silent_of_calls rfl
    _ ↔ Silent front ∧ (s.seat.keyboard = none ∨
          ∀ surface ∈ s.windows.surfaceOf t, s.seat.keyboardFocus = some surface) := by
        rw [enterToplevel_silent, wlrXdgToplevelSetActivated_silent, hsurface]
        rfl
    _ ↔ _ := and_congr_left' (silent_of_calls rfl)

theorem deactivateFocused_seat : (deactivateFocused s).seat = s.seat := by
  rw [deactivateFocused]
  split <;> rfl

theorem deactivateFocused_surfaceOf (t : ToplevelId) :
    (deactivateFocused s).windows.surfaceOf t = s.windows.surfaceOf t := by
  rw [deactivateFocused]
  split
  · exact Windows.modify_surfaceOf _ _ (fun _ => by rfl) t
  · rfl

theorem zenXdgFocusToplevel_silent (target : Option ToplevelId) :
    Silent (zenXdgFocusToplevel s target) ↔ Silent s ∧ EntersNothing s target := by
  rw [zenXdgFocusToplevel]
  split
  · next h =>
      refine (and_iff_left fun t ht => ?_).symm
      exact .inl (h.trans ht)
  · next h =>
      let moved : ZenCompositor := { deactivateFocused s with
        windows := { (deactivateFocused s).windows with focusedToplevel := target } }
      have hmoved : Silent moved ↔ Silent s :=
        (silent_of_calls (s := deactivateFocused s) rfl).trans (deactivateFocused_silent s)
      have hseat : moved.seat = s.seat := deactivateFocused_seat s
      have hsurface : ∀ t, moved.windows.surfaceOf t = s.windows.surfaceOf t :=
        deactivateFocused_surfaceOf s
      cases target with
      | none =>
          refine (wlrSeatKeyboardNotifyClearFocus_silent moved).trans ?_
          rw [hmoved]
          exact (and_iff_left fun t ht => by cases ht).symm
      | some t =>
          refine (activateToplevel_silent moved t).trans ?_
          rw [hmoved, hseat, hsurface]
          refine and_congr_right fun _ => ?_
          simp [EntersNothing, h]

end Silent

theorem SameDesktop.of_eq {s s' : ZenCompositor} (hw : s'.windows = s.windows)
    (hs : s'.seat = s.seat) : SameDesktop s s' := by
  constructor <;> simp [hw, hs]

theorem Call.not_reachesClient_of_isSystem {c : Call} (h : c.isSystem) :
    ¬ c.ReachesClient := by
  cases c <;> first | exact id | exact absurd h id

theorem Call.not_reachesClient_of_isConfigure {c : Call} (h : c.isConfigure) :
    ¬ c.ReachesClient := by
  cases c <;> first | exact id | exact absurd h id

theorem Emits.silent {P : Call → Prop} {s s' : ZenCompositor} (h : Emits P s s')
    (hP : ∀ c, P c → ¬ c.ReachesClient) (hs : Silent s) : Silent s' :=
  fun c hc => (h c hc).elim (hs c) (hP c)

theorem entersNothing_congr (s s' : ZenCompositor) (hseat : s'.seat = s.seat)
    (hfocused : s'.windows.focusedToplevel = s.windows.focusedToplevel)
    (hsurface : ∀ t, s'.windows.surfaceOf t = s.windows.surfaceOf t)
    (target : Option ToplevelId) : EntersNothing s' target ↔ EntersNothing s target := by
  unfold EntersNothing
  simp only [hseat, hfocused, hsurface]

theorem zenXdgFocusToplevel_self {s : ZenCompositor} {target : Option ToplevelId}
    (h : s.windows.focusedToplevel = target) : zenXdgFocusToplevel s target = s :=
  if_pos h

theorem zenXdgFocusToplevel_pointerFocus (s : ZenCompositor) (target : Option ToplevelId) :
    (zenXdgFocusToplevel s target).seat.pointerFocus = s.seat.pointerFocus := by
  have enter : ∀ s' t, (enterToplevel s' t).seat.pointerFocus = s'.seat.pointerFocus := by
    intro s' t
    unfold enterToplevel
    simp only [wlrSeatKeyboardNotifyEnter_eq]
    repeat' split
    all_goals rfl
  rw [zenXdgFocusToplevel]
  split
  · rfl
  · cases target with
    | none =>
        change (deactivateFocused s).seat.pointerFocus = _
        rw [deactivateFocused_seat]
    | some t =>
        refine (enter _ t).trans ?_
        change (deactivateFocused s).seat.pointerFocus = _
        rw [deactivateFocused_seat]

section Events

variable {s : ZenCompositor} (hs : Silent s)

include hs

theorem map_silent (t : ToplevelId) :
    Silent (handle s (.map t)) ↔ Quiet s (.map t) := by
  let shown : ZenCompositor := { s with windows := s.windows.reveal t }
  have hsurface : ∀ u, shown.windows.surfaceOf u = s.windows.surfaceOf u :=
    s.windows.reveal_surfaceOf t
  calc Silent (zenXdgFocusToplevel shown (some t))
    _ ↔ Silent shown ∧ EntersNothing shown (some t) := zenXdgFocusToplevel_silent shown _
    _ ↔ EntersNothing shown (some t) := and_iff_right hs
    _ ↔ EntersNothing s (some t) := entersNothing_congr s shown rfl rfl hsurface _

theorem unmap_silent (t : ToplevelId) :
    Silent (handle s (.unmap t)) ↔ Quiet s (.unmap t) := by
  let hidden : ZenCompositor := { s with windows := s.windows.hide t }
  have hsurface : ∀ u, hidden.windows.surfaceOf u = s.windows.surfaceOf u :=
    s.windows.hide_surfaceOf t
  have hhandle : Silent (handle s (.unmap t)) ↔
      Silent (if s.windows.focusedToplevel = some t then
        zenXdgFocusToplevel hidden (s.windows.toplevels.find?
          fun u => decide (u ≠ t) && hidden.windows.mapped u) else hidden) :=
    silent_of_calls rfl
  rw [hhandle, Windows.hide_mapped_other]
  split
  · next hf =>
      rw [zenXdgFocusToplevel_silent, entersNothing_congr s hidden rfl rfl hsurface]
      exact (and_iff_right hs).trans ⟨fun h _ => h, fun h => h hf⟩
  · next hf => exact iff_of_true hs fun h => absurd h hf

theorem destroy_silent (t : ToplevelId) :
    Silent (handle s (.destroy t)) ↔ Quiet s (.destroy t) := by
  have hhandle : Silent (handle s (.destroy t)) ↔
      Silent (if s.windows.focusedToplevel = some t then
        zenXdgFocusToplevel s (s.windows.toplevels.find? fun u => u ≠ t) else s) := by
    refine silent_of_calls ?_
    simp only [handle, handleToplevelDestroy]
    split <;> split <;> rfl
  rw [hhandle]
  split
  · next hf =>
      rw [zenXdgFocusToplevel_silent]
      exact (and_iff_right hs).trans ⟨fun h _ => h, fun h => h hf⟩
  · next hf => exact iff_of_true hs fun h => absurd h hf

theorem newKeyboard_silent (k : KeyboardId) (ok : Bool) :
    Silent (handle s (.newKeyboard k ok)) ↔ Quiet s (.newKeyboard k ok) := by
  cases ok with
  | false => exact iff_of_true hs fun h => absurd h Bool.false_ne_true
  | true =>
      calc Silent (handle s (.newKeyboard k true))
        _ ↔ Silent (wlrSeatSetKeyboard (wlrKeyboardInit s k) k) := silent_of_calls rfl
        _ ↔ s.seat.keyboard = some k ∨ s.seat.keyboardFocus = none := by
            rw [wlrSeatSetKeyboard_silent]
            exact and_iff_right ((silent_of_calls rfl).mpr hs)
        _ ↔ Quiet s (.newKeyboard k true) := ⟨fun h _ => h, fun h => h rfl⟩

theorem key_confined (hl : s.lock.locked = true) (k : KeyboardId) (keycode : UInt32)
    (syms : List UInt32) (pressed : Bool) (modifiers : UInt32) (bufferOk : Bool)
    (pam : Nat → List UInt8 → Bool) :
    Silent (handle s (.key k keycode syms pressed modifiers bufferOk pam)) ∧
      SameDesktop s (handle s (.key k keycode syms pressed modifiers bufferOk pam)) := by
  rw [handle_key_of_locked hl]
  let held := wlrKeyboardUpdate s k keycode pressed
  have hwrites := handleLockedSyms_writes held pressed pam syms
  refine ⟨(handleLockedSyms_emits held pressed pam syms).silent
    (fun _ hc => Call.not_reachesClient_of_isSystem (Call.isSystem_of_isKeyAction hc)) hs,
    .of_eq (hwrites.framed.windows ?_) (hwrites.framed.seat ?_)⟩ <;> exact Owner.noConfusion

theorem modifiers_confined (k : KeyboardId) (state : KeyboardModifiers) :
    (Silent (handle s (.modifiers k state)) ∧ SameDesktop s (handle s (.modifiers k state))) ↔
      Quiet s (.modifiers k state) := by
  let updated := wlrKeyboardUpdateModifiers s k state
  have hseat : (wlrSeatSetKeyboard updated k).seat.keyboardFocus = s.seat.keyboardFocus ∧
      (wlrSeatSetKeyboard updated k).seat.pointerFocus = s.seat.pointerFocus := by
    rw [wlrSeatSetKeyboard]
    split <;> exact ⟨rfl, rfl⟩
  have hwindows := wlrSeatSetKeyboard_windows updated k
  have hsame : SameDesktop s (handle s (.modifiers k state)) := by
    refine ⟨?_, hseat.1, hseat.2, ?_, fun t => ?_⟩
    · exact congrArg Windows.focusedToplevel hwindows
    · exact congrArg Windows.grabbedToplevel hwindows
    · exact congrArg (Windows.positionOf · t) hwindows
  rw [and_iff_left hsame]
  change Silent (wlrSeatKeyboardNotifyModifiers (wlrSeatSetKeyboard updated k) _) ↔ _
  rw [wlrSeatKeyboardNotifyModifiers_silent, wlrSeatSetKeyboard_silent, hseat.1]
  exact ⟨fun h => h.2, fun h => ⟨⟨(silent_of_calls rfl).mpr hs, .inr h⟩, h⟩⟩

theorem drag_confined {g : ToplevelId} (x y : ℚ) (hit : Option Hit)
    (hg : s.windows.grabbedToplevel = some g) :
    (Silent (handle s (.cursorMotion x y hit)) ∧
      SameDesktop s (handle s (.cursorMotion x y hit))) ↔
      Quiet s (.cursorMotion x y hit) := by
  let moved := s.windows.modify g fun r => { r with
    nodeX := s.windows.grabNodeX + truncToInt (x - s.windows.grabX)
    nodeY := s.windows.grabNodeY + truncToInt (y - s.windows.grabY) }
  have hhandle : handle s (.cursorMotion x y hit) =
      { s with cursorX := x, cursorY := y, windows := moved } := by
    simp only [handle, handleCursorMotion, zenInputProcessCursorMotion, hg]
    rfl
  have hquiet : Quiet s (.cursorMotion x y hit) ↔
      ∀ position ∈ s.windows.positionOf g, position =
        (s.windows.grabNodeX + truncToInt (x - s.windows.grabX),
          s.windows.grabNodeY + truncToInt (y - s.windows.grabY)) := by
    simp only [Quiet, hg]
  rw [hhandle, hquiet]
  have hmoved : ∀ t, moved.positionOf t = s.windows.positionOf t ↔
      (t = g → ∀ position ∈ s.windows.positionOf g, position =
        (s.windows.grabNodeX + truncToInt (x - s.windows.grabX),
          s.windows.grabNodeY + truncToInt (y - s.windows.grabY))) := by
    intro t
    unfold Windows.positionOf
    rw [Windows.modify_heap]
    rcases eq_or_ne t g with ht | ht
    · cases hr : s.windows.heap g <;> simp [ht, hr, eq_comm]
    · simp [ht]
  constructor
  · rintro ⟨-, hsame⟩
    exact (hmoved g).mp (hsame.positionOf g) rfl
  · intro h
    exact ⟨hs, rfl, rfl, rfl, rfl, fun t => (hmoved t).mpr fun _ => h⟩

theorem hover_confined (x y : ℚ) (hit : Option Hit)
    (hg : s.windows.grabbedToplevel = none) :
    (Silent (handle s (.cursorMotion x y hit)) ∧
      SameDesktop s (handle s (.cursorMotion x y hit))) ↔
      Quiet s (.cursorMotion x y hit) := by
  let moved : ZenCompositor := { s with cursorX := x, cursorY := y }
  have hquiet : Quiet s (.cursorMotion x y hit) ↔ PointsNowhereNew s hit := by
    simp only [Quiet, hg]
  have clear : (Silent (wlrSeatPointerNotifyClearFocus moved) ∧
      SameDesktop s (wlrSeatPointerNotifyClearFocus moved)) ↔ s.seat.pointerFocus = none := by
    rw [wlrSeatPointerNotifyClearFocus_silent]
    constructor
    · rintro ⟨-, hsame⟩
      exact hsame.pointerFocus.symm
    · intro h
      exact ⟨hs, rfl, rfl, h.symm, rfl, fun _ => rfl⟩
  rw [hquiet]
  simp only [handle, handleCursorMotion, zenInputProcessCursorMotion, hg]
  obtain _ | ⟨nodes, _ | surface, sx, sy⟩ := hit
  · exact clear
  · exact clear
  · change (Silent (wlrSeatPointerNotifyMotion
      (wlrSeatPointerNotifyEnter moved surface sx sy) sx sy) ∧ SameDesktop s
      (wlrSeatPointerNotifyMotion (wlrSeatPointerNotifyEnter moved surface sx sy) sx sy)) ↔
      moved.seat.pointerFocus = some surface ∧ moved.seat.pointerX = sx ∧
        moved.seat.pointerY = sy
    rcases eq_or_ne moved.seat.pointerFocus (some surface) with hf | hf
    · have henter : wlrSeatPointerNotifyEnter moved surface sx sy = moved := if_pos hf
      rw [henter, wlrSeatPointerNotifyMotion_silent]
      constructor
      · rintro ⟨⟨-, hpos⟩, -⟩
        exact ⟨hf, hpos (by simp [hf])⟩
      · rintro ⟨-, hpos⟩
        have hmotion : wlrSeatPointerNotifyMotion moved sx sy = moved := by
          simp [wlrSeatPointerNotifyMotion_eq, hf, hpos]
        rw [hmotion]
        exact ⟨⟨hs, fun _ => hpos⟩, .of_eq rfl rfl⟩
    · rw [wlrSeatPointerNotifyMotion_silent, wlrSeatPointerNotifyEnter_silent]
      exact iff_of_false (fun h => hf h.1.1.2) fun h => hf h.1

theorem cursorMotion_confined (x y : ℚ) (hit : Option Hit) :
    (Silent (handle s (.cursorMotion x y hit)) ∧
      SameDesktop s (handle s (.cursorMotion x y hit))) ↔
      Quiet s (.cursorMotion x y hit) := by
  cases hg : s.windows.grabbedToplevel with
  | none => exact hover_confined hs x y hit hg
  | some g => exact drag_confined hs x y hit hg

theorem press_confined (hit : Option Hit) :
    (Silent (handle s (.cursorButton true hit)) ∧
      SameDesktop s (handle s (.cursorButton true hit))) ↔
      Quiet s (.cursorButton true hit) := by
  have hquiet : Quiet s (.cursorButton true hit) ↔ s.seat.pointerFocus = none ∧
      ∀ t ∈ toplevelAtHit hit, s.windows.focusedToplevel = some t := by
    simp [Quiet]
  rw [hquiet]
  simp only [handle, handleCursorButton, Bool.not_true, Bool.false_and, Bool.false_eq_true,
    ↓reduceIte, wlrSeatPointerNotifyButton_silent]
  cases toplevelAtHit hit with
  | none =>
      constructor
      · rintro ⟨⟨-, hfocus⟩, -⟩
        exact ⟨hfocus, fun t ht => by cases ht⟩
      · rintro ⟨hfocus, -⟩
        exact ⟨⟨hs, hfocus⟩, .of_eq rfl rfl⟩
  | some t =>
      constructor
      · rintro ⟨⟨-, hfocus⟩, hsame⟩
        rw [zenXdgFocusToplevel_pointerFocus] at hfocus
        refine ⟨hfocus, ?_⟩
        rintro u ⟨⟩
        have : (zenXdgFocusToplevel s (some t)).windows.focusedToplevel =
            s.windows.focusedToplevel := hsame.focusedToplevel
        rw [← this, zenXdgFocusToplevel_windows, Windows.focus_focusedToplevel]
      · rintro ⟨hfocus, ht⟩
        dsimp only
        rw [zenXdgFocusToplevel_self (ht t rfl)]
        exact ⟨⟨hs, hfocus⟩, .of_eq rfl rfl⟩

theorem release_confined (hit : Option Hit) :
    (Silent (handle s (.cursorButton false hit)) ∧
      SameDesktop s (handle s (.cursorButton false hit))) ↔
      Quiet s (.cursorButton false hit) := by
  have hquiet : Quiet s (.cursorButton false hit) ↔
      s.seat.pointerFocus = none ∧ s.windows.grabbedToplevel = none := by
    simp [Quiet]
  rw [hquiet]
  simp only [handle, handleCursorButton, Bool.not_false, Bool.true_and, Bool.false_eq_true,
    ↓reduceIte, wlrSeatPointerNotifyButton_silent]
  cases hg : s.windows.grabbedToplevel with
  | none =>
      constructor
      · rintro ⟨⟨-, hfocus⟩, -⟩
        exact ⟨hfocus, rfl⟩
      · rintro ⟨hfocus, -⟩
        exact ⟨⟨hs, hfocus⟩, .of_eq rfl rfl⟩
  | some g =>
      refine iff_of_false (fun h => ?_) fun h => by cases h.2
      have := h.2.grabbedToplevel
      rw [hg] at this
      cases this

theorem handle_confined_iff (hl : s.lock.locked = true) (e : Event) :
    (Silent (handle s e) ∧ (e.IsInput → SameDesktop s (handle s e))) ↔ Quiet s e := by
  have notInput : ¬ e.IsInput → (Silent (handle s e) ↔ Quiet s e) →
      ((Silent (handle s e) ∧ (e.IsInput → SameDesktop s (handle s e))) ↔ Quiet s e) :=
    fun hin h => (and_iff_left fun he => absurd he hin).trans h
  have input : e.IsInput →
      ((Silent (handle s e) ∧ SameDesktop s (handle s e)) ↔ Quiet s e) →
      ((Silent (handle s e) ∧ (e.IsInput → SameDesktop s (handle s e))) ↔ Quiet s e) :=
    fun hin h => (and_congr_right fun _ => forall_prop_of_true hin).trans h
  have unchanged : ∀ {s'}, s'.calls = s.calls → Silent s' := fun h => (silent_of_calls h).mpr hs
  have configure : ∀ {s'}, Emits Call.isConfigure s s' → Silent s' :=
    fun h => h.silent (fun _ => Call.not_reachesClient_of_isConfigure) hs
  cases e with
  | map t => exact notInput id (map_silent hs t)
  | unmap t => exact notInput id (unmap_silent hs t)
  | destroy t => exact notInput id (destroy_silent hs t)
  | focus target =>
      exact notInput id ((zenXdgFocusToplevel_silent s target).trans (and_iff_right hs))
  | newKeyboard k ok => exact notInput id (newKeyboard_silent hs k ok)
  | key k keycode syms pressed modifiers bufferOk pam =>
      exact input trivial (iff_of_true
        (key_confined hs hl k keycode syms pressed modifiers bufferOk pam) trivial)
  | modifiers k state => exact input trivial (modifiers_confined hs k state)
  | cursorMotion x y hit => exact input trivial (cursorMotion_confined hs x y hit)
  | cursorButton pressed hit =>
      refine input trivial ?_
      cases pressed
      · exact release_confined hs hit
      · exact press_confined hs hit
  | newToplevel t surface ok =>
      refine notInput id (iff_of_true (unchanged ?_) trivial)
      cases ok <;> rfl
  | requestMove t =>
      refine notInput id (iff_of_true (unchanged ?_) trivial)
      simp only [handle, handleToplevelRequestMove]
      split <;> rfl
  | requestMaximize t =>
      exact notInput id (iff_of_true (configure (handleToplevelRequestMaximize_emits s t)) trivial)
  | requestFullscreen t requested =>
      exact notInput id (iff_of_true
        (configure (handleToplevelRequestFullscreen_emits s t requested)) trivial)
  | newLayerSurface l output ok =>
      exact notInput id (iff_of_true (configure (handleNewLayerSurface_emits s l output ok))
        trivial)
  | newOutput o place allocs =>
      exact notInput id (iff_of_true
        (unchanged (handleNewOutput_writes s o place allocs).calls) trivial)
  | wallpaperInit stateOk treeOk =>
      exact notInput id (iff_of_true
        (unchanged (zenWallpaperInit_writes s stateOk treeOk).calls) trivial)
  | wallpaperDestroy =>
      exact notInput id (iff_of_true (unchanged (zenWallpaperDestroy_writes s).calls) trivial)
  | idleTimeout bufferOk | lockSignal bufferOk =>
      exact notInput id (iff_of_true (unchanged (zenLockActivate_calls s bufferOk)) trivial)
  | newLock lock =>
      refine notInput id (iff_of_true ((silent_of_append rfl).mpr ⟨hs, ?_⟩) trivial)
      simp [Call.ReachesClient]
  | _ => exact notInput id (iff_of_true (unchanged rfl) trivial)

end Events

theorem confined_iff_quiet {s : ZenCompositor} (hl : s.lock.locked = true) (e : Event) :
    Confined s e ↔ Quiet s e := by
  have hquiet : Quiet { s with calls := [] } e ↔ Quiet s e := by cases e <;> rfl
  refine Iff.trans ?_ ((handle_confined_iff (s := { s with calls := [] })
    (fun c hc => by cases hc) hl e).trans hquiet)
  refine and_congr_right fun _ => forall_congr' fun _ => ?_
  exact ⟨fun h => ⟨h.1, h.2, h.3, h.4, h.5⟩, fun h => ⟨h.1, h.2, h.3, h.4, h.5⟩⟩

/-- The event finds the screen locked, and leaves it locked. -/
def StaysLocked (s : ZenCompositor) (e : Event) : Prop :=
  s.lock.locked = true ∧ (step s e).lock.locked = true

instance (s : ZenCompositor) (e : Event) : Decidable (StaysLocked s e) :=
  inferInstanceAs (Decidable (_ ∧ _))

/-- A run that stays locked delivers no input to a client and moves neither focus nor
grab nor windows by input, exactly when every event of it is quiet. -/
theorem locked_run_confined_iff (s : ZenCompositor) (events : List Event)
    (h : Along step StaysLocked s events) :
    Along step Confined s events ↔ Along step Quiet s events :=
  along_iff_along (I := fun _ => True) (fun _ _ _ _ _ => trivial)
    (fun _ e _ h => confined_iff_quiet h.1 e) h trivial

/-- The idle timeout locks a session with one window, where a key is pressed and the
window is unmapped. -/
theorem locked_run_confined_iff_idle :
    let s := exec step (created [] [] true)
      (.newKeyboard 1 true :: showWindow 1 11 ++ [.idleTimeout true])
    Along step Confined s [.key 1 30 [0x61] true 0 true (fun _ _ => false), .unmap 1] ↔
      Along step Quiet s [.key 1 30 [0x61] true 0 true (fun _ _ => false), .unmap 1] :=
  locked_run_confined_iff _ _ (by decide)

/-- The session is locked while a window has the keyboard focus: a change of the
modifiers reaches its client, and a window that maps is entered. -/
theorem modifiers_reach_client :
    let shift : KeyboardModifiers := { KeyboardModifiers.zero with depressed := 1 }
    let s := exec step (created [] [] true)
      (.newKeyboard 1 true :: showWindow 1 11 ++ [.idleTimeout true])
    Along step Admissible (created [] [] true)
        (.newKeyboard 1 true :: showWindow 1 11 ++ [.idleTimeout true, .modifiers 1 shift]) ∧
      Along step StaysLocked s (.modifiers 1 shift :: showWindow 2 12) ∧
      (step s (.modifiers 1 shift)).calls = [.keyboardModifiers 11 shift] ∧
      .keyboardEnter 12 [] ∈ (exec step s (showWindow 2 12)).calls ∧
      ¬ Along step Confined s (.modifiers 1 shift :: showWindow 2 12) := by
  intro shift
  refine ⟨by decide, by decide, by decide, by decide, fun h => ?_⟩
  exact h.1.1 (.keyboardModifiers 11 shift) (by decide) trivial

end ZenOS.Compositor
