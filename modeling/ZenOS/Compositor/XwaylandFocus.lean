import ZenOS.Compositor.Xwayland

/-!
The keyboard focus between X11 windows and toplevels.  `focused_toplevel` does not know of
the X11 windows, which take the keyboard focus of the seat and clear it.
-/

namespace ZenOS.Compositor.Xwayland

open ZenOS.Library.Runs

/-- What the click handler finds under the cursor. -/
def Bridge.clicked (p : Bridge) : BridgeEvent → Option Record
  | .cursorButton true node => node.bind (toplevelAtSceneNode p.data)
  | _ => none

/-- While the seat has a keyboard, a click on a toplevel gives the keyboard focus to its
surface, and the unmapping of an X11 surface moves the keyboard focus only if that surface
has it; no record is misused. -/
structure FocusCoherent (p : Bridge) (e : BridgeEvent) : Prop where
  sound : (stepBridge p e).corrupted = false
  click : p.compositor.seat.keyboard ≠ none → ∀ t, p.clicked e = some (.toplevel t) →
    (stepBridge p e).compositor.seat.keyboardFocus = p.compositor.windows.surfaceOf t
  unmap : p.compositor.seat.keyboard ≠ none → ∀ x, e = .xwsUnmap x →
    (stepBridge p e).compositor.seat.keyboardFocus ≠ p.compositor.seat.keyboardFocus →
      p.surfaceOf x ≠ none ∧ p.compositor.seat.keyboardFocus = p.surfaceOf x

/-- A click is on a live toplevel, which if it is the focused one has the keyboard focus
already, or on nothing that has a data pointer. -/
def ClicksOutside (p : Bridge) : Option Record → Prop
  | none => True
  | some (.toplevel t) => p.compositor.windows.Live t ∧
      (p.compositor.seat.keyboard ≠ none → p.compositor.windows.focusedToplevel = some t →
        p.compositor.seat.keyboardFocus = p.compositor.windows.surfaceOf t)
  | some (.xwayland _) => False

/-- A click is as `ClicksOutside` says, and an X11 surface is unmapped while no other
surface has the keyboard focus. -/
def KeepsFocusCoherent (p : Bridge) : BridgeEvent → Prop
  | .xwsUnmap x => p.compositor.seat.keyboard ≠ none → p.listens x = true →
      ∀ f ∈ p.compositor.seat.keyboardFocus, p.surfaceOf x = some f
  | e => ClicksOutside p (p.clicked e)

section Steps

theorem click_keyboardFocus {s : ZenCompositor} {t : ToplevelId} (ht : s.windows.Live t)
    (hkeyboard : s.seat.keyboard ≠ none) :
    (step s (.cursorButton true (some (toplevelHit t)))).seat.keyboardFocus =
      if s.windows.focusedToplevel = some t then s.seat.keyboardFocus
      else s.windows.surfaceOf t := by
  let cleared : ZenCompositor := { s with calls := [] }
  change (zenXdgFocusToplevel cleared (some t)).seat.keyboardFocus = _
  split
  · next hfocused =>
    rw [zenXdgFocusToplevel_self (s := cleared) hfocused]
  · next hother =>
    have hseat := zenXdgFocusToplevel_seat (s := cleared) hother <| by
      rintro u ⟨⟩
      exact ht
    rw [hseat, Seat.focusMoved, if_pos (Option.isSome_iff_ne_none.mpr hkeyboard)]

variable {p : Bridge}

theorem modify_listens (x : XwsId) {f : ZenXWaylandSurface → ZenXWaylandSurface}
    (hf : ∀ r, (f r).listening = r.listening) (p : Bridge) :
    (p.modify x f).listens x = p.listens x := by
  simp only [Bridge.listens, Bridge.modify, Function.update_self]
  cases p.xwaylandSurfaces x with
  | none => rfl
  | some r => exact hf r

theorem xwsUnmap_keyboardFocus (p : Bridge) (x : XwsId) :
    (handleBridge p (.xwsUnmap x)).compositor.seat.keyboardFocus =
      if p.listens x then none else p.compositor.seat.keyboardFocus := by
  have hlistens : (p.modify x fun r => { r with mapped := false }).listens x = p.listens x :=
    modify_listens x (fun _ => by rfl) p
  rw [handleBridge, hlistens]
  split
  · rfl
  · rfl

theorem handleBridge_corrupted (p : Bridge) {e : BridgeEvent}
    (he : ∀ pressed node, e ≠ .cursorButton pressed node) :
    (handleBridge p e).corrupted = p.corrupted := by
  cases e with
  | cursorButton pressed node => exact absurd rfl (he pressed node)
  | newXwaylandSurface x ok => cases ok <;> rfl
  | associate x surface ok => cases ok <;> rfl
  | xwsMap x =>
      rw [handleBridge]
      split
      · rw [handleXwsMap]
        split
        · rfl
        · rfl
      · rfl
  | xwsUnmap x =>
      rw [handleBridge]
      split
      · rfl
      · rfl
  | _ => rfl

variable (h : p.corrupted = false)

include h

theorem sound_of_not_click {e : BridgeEvent}
    (he : ∀ pressed node, e ≠ .cursorButton pressed node) :
    (stepBridge p e).corrupted = false := by
  rw [stepBridge_of_sound h, handleBridge_corrupted _ he]
  exact h

omit h in
theorem handleCursorButton_eq (p : Bridge) (pressed : Bool) (node : Option (List GraphNode)) :
    handleCursorButton p pressed node =
      match p.clicked (.cursorButton pressed node) with
      | none => { p with compositor := step p.compositor (.cursorButton pressed none) }
      | some (.toplevel t) =>
          if p.compositor.windows.Live t then
            { p with
              compositor := step p.compositor (.cursorButton pressed (some (toplevelHit t))) }
          else { p with corrupted := true }
      | some (.xwayland _) => { p with corrupted := true } := by
  cases pressed with
  | false => rfl
  | true => rfl

theorem toplevel_focusCoherent_iff {e : BridgeEvent} {t : ToplevelId}
    (hclicked : p.clicked e = some (.toplevel t)) (ht : p.compositor.windows.Live t)
    (hstep : stepBridge p e = { p with
      compositor := step p.compositor (.cursorButton true (some (toplevelHit t))) })
    (hunmap : ∀ x, e ≠ .xwsUnmap x) :
    FocusCoherent p e ↔ ClicksOutside p (some (.toplevel t)) := by
  constructor
  · intro hcoherent
    refine ⟨ht, fun hkeyboard hfocused => ?_⟩
    have hfocus := hcoherent.click hkeyboard t hclicked
    rw [hstep, click_keyboardFocus ht hkeyboard, if_pos hfocused] at hfocus
    exact hfocus
  · rintro ⟨-, hkept⟩
    refine ⟨by rw [hstep]; exact h, fun hkeyboard u hu => ?_, fun _ x hx => absurd hx (hunmap x)⟩
    obtain rfl : t = u := by
      rw [hclicked] at hu
      cases hu
      rfl
    rw [hstep, click_keyboardFocus ht hkeyboard]
    split
    · next hfocused => exact hkept hkeyboard hfocused
    · rfl

theorem cursorButton_focusCoherent_iff (pressed : Bool) (node : Option (List GraphNode)) :
    FocusCoherent p (.cursorButton pressed node) ↔
      ClicksOutside p (p.clicked (.cursorButton pressed node)) := by
  have hstep : stepBridge p (.cursorButton pressed node) = handleCursorButton
      { p with compositor := { p.compositor with calls := [] } } pressed node :=
    stepBridge_of_sound h _
  have hclear : Bridge.clicked { p with compositor := { p.compositor with calls := [] } }
      (.cursorButton pressed node) = p.clicked (.cursorButton pressed node) := by
    cases pressed <;> rfl
  have hunmap : ∀ x, BridgeEvent.cursorButton pressed node ≠ .xwsUnmap x := by
    rintro x ⟨⟩
  rw [handleCursorButton_eq, hclear] at hstep
  cases hfound : p.clicked (.cursorButton pressed node) with
  | none =>
      rw [hfound] at hstep
      refine iff_of_true ⟨by rw [hstep]; exact h, fun _ t ht => ?_,
        fun _ x hx => absurd hx (hunmap x)⟩ trivial
      rw [hfound] at ht
      cases ht
  | some r =>
      obtain rfl : pressed = true := by
        cases pressed with
        | false => cases hfound
        | true => rfl
      rw [hfound] at hstep
      have misused (hcorrupted : (stepBridge p (.cursorButton true node)).corrupted = true)
          {P : Prop} (hP : ¬ P) : FocusCoherent p (.cursorButton true node) ↔ P := by
        refine iff_of_false (fun hcoherent => ?_) hP
        exact absurd (hcorrupted.symm.trans hcoherent.sound) (by simp)
      cases r with
      | xwayland x =>
          refine misused ?_ id
          rw [hstep]
      | toplevel t =>
          by_cases ht : p.compositor.windows.Live t
          · exact toplevel_focusCoherent_iff h hfound ht (hstep.trans (if_pos ht)) hunmap
          · refine misused ?_ fun hclicks => ht hclicks.1
            rw [hstep]
            exact congrArg Bridge.corrupted (if_neg ht)

theorem xwsUnmap_focusCoherent_iff (x : XwsId) :
    FocusCoherent p (.xwsUnmap x) ↔ KeepsFocusCoherent p (.xwsUnmap x) := by
  have hfocus : (stepBridge p (.xwsUnmap x)).compositor.seat.keyboardFocus =
      if p.listens x then none else p.compositor.seat.keyboardFocus := by
    rw [stepBridge_of_sound h]
    exact xwsUnmap_keyboardFocus _ x
  constructor
  · intro hcoherent hkeyboard hlistens f hf
    rw [if_pos hlistens] at hfocus
    have hmoved := hcoherent.unmap hkeyboard x rfl <| by
      rw [hfocus, Option.mem_def.mp hf]
      rintro ⟨⟩
    exact hmoved.2.symm.trans hf
  · intro hkeeps
    refine ⟨sound_of_not_click h (by rintro pressed node ⟨⟩), by rintro - t ⟨⟩, ?_⟩
    rintro hkeyboard _ ⟨⟩ hmoved
    rw [hfocus] at hmoved
    split at hmoved
    · next hlistens =>
      obtain ⟨f, hf⟩ := Option.ne_none_iff_exists'.mp hmoved.symm
      have hx : p.surfaceOf x = some f := hkeeps hkeyboard hlistens f hf
      rw [hx, hf]
      exact ⟨Option.some_ne_none f, rfl⟩
    · exact absurd rfl hmoved

theorem focusCoherent_iff (e : BridgeEvent) : FocusCoherent p e ↔ KeepsFocusCoherent p e := by
  cases e with
  | cursorButton pressed node => exact cursorButton_focusCoherent_iff h pressed node
  | xwsUnmap x => exact xwsUnmap_focusCoherent_iff h x
  | _ =>
      refine iff_of_true ⟨sound_of_not_click h ?_, ?_, ?_⟩ trivial
      · rintro pressed node ⟨⟩
      · rintro - t ⟨⟩
      · rintro - x ⟨⟩

end Steps

/-- In every run of X11 windows and toplevels the focus is coherent, exactly when no click is
on an X11 window or on a focused toplevel without the keyboard focus, and no X11 surface is
unmapped while another surface has the keyboard focus. -/
theorem run_focusCoherent_iff (outputs : List Output) (bindings : List ZenKeybinding)
    (idleTimer : Bool) (events : List BridgeEvent) :
    Along stepBridge FocusCoherent (bridgeCreated (created outputs bindings idleTimer)) events ↔
      Along stepBridge KeepsFocusCoherent
        (bridgeCreated (created outputs bindings idleTimer)) events :=
  along_iff_along (P := fun _ _ => True) (I := fun p : Bridge => p.corrupted = false)
    (fun _ _ _ _ hcoherent => hcoherent.sound) (fun _ e h _ => focusCoherent_iff h e)
    (along_true _ _) rfl

/-- An X11 window is shown over a toplevel, which is then clicked.  And a toplevel is shown
over an X11 window, which is then unmapped. -/
theorem focus_after_x11_window :
    let p := bridgeCreated (created [] [] true)
    let attach : BridgeEvent := .compositor (.newKeyboard 1 true)
    let show11 : List BridgeEvent := (showWindow 1 11).map .compositor
    let show21 : List BridgeEvent := [.newXwaylandSurface 1 true, .associate 1 21 true, .xwsMap 1]
    let click : BridgeEvent := .cursorButton true (some [.scene (.toplevel 1), .scene .root])
    let clicked := attach :: show11 ++ show21 ++ [click]
    let unmapped := attach :: show21 ++ show11 ++ [.xwsUnmap 1]
    Along stepBridge BridgeAdmissible p clicked ∧
      Along stepBridge BridgeAdmissible p unmapped ∧
      (exec stepBridge p clicked).compositor.seat.keyboardFocus = some 21 ∧
      (exec stepBridge p unmapped).compositor.windows.focusedToplevel = some 1 ∧
      (exec stepBridge p unmapped).compositor.seat.keyboardFocus = none ∧
      ¬ Along stepBridge FocusCoherent p clicked ∧
      ¬ Along stepBridge FocusCoherent p unmapped := by
  intro p attach show11 show21 click clicked unmapped
  have hlive : (exec step (created [] [] true)
      [.newKeyboard 1 true, .newToplevel 1 11 true]).windows.Live 1 := by decide
  have hlive' : (exec step (created [] [] true)
      [.newKeyboard 1 true, .newToplevel 1 11 true, .commit 1 false false]).windows.Live 1 := by
    decide
  have hfree : ¬ (step (created [] [] true) (.newKeyboard 1 true)).windows.Live 1 := by decide
  refine ⟨⟨List.not_mem_nil, hfree, hlive, hlive', rfl, ⟨_, rfl, rfl⟩, ⟨_, rfl, rfl, rfl⟩, ?_,
    trivial⟩, ⟨List.not_mem_nil, rfl, ⟨_, rfl, rfl⟩, ⟨_, rfl, rfl, rfl⟩, hfree, hlive, hlive',
    ⟨_, rfl, rfl⟩, trivial⟩, rfl, rfl, rfl, ?_, ?_⟩
  · rintro chain ⟨⟩
    refine .child .root ?_
    exact (by decide : SceneNode.toplevel 1 ∈ (exec step (created [] [] true)
      (.newKeyboard 1 true :: showWindow 1 11)).scene.root)
  · rintro ⟨-, -, -, -, -, -, -, hclick, -⟩
    have hfocus := hclick.click (by decide) 1 rfl
    exact absurd hfocus (by decide)
  · rintro ⟨-, -, -, -, -, -, -, hunmap, -⟩
    have hfocus := hunmap.unmap (by decide) 1 rfl (by decide)
    exact absurd hfocus.2 (by decide)

end ZenOS.Compositor.Xwayland
