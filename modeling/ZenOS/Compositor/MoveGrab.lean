import ZenOS.Compositor.WindowInvariant

/-!
The interactive move grab and the buttons of the pointers.  A run is observed together
with the buttons that are held, and with those of them that were already held when the
grab began.
-/

namespace ZenOS.Compositor

open ZenOS.Library.Runs

/-- A button of one pointer device. -/
structure PointerButton where
  device : Nat
  code : UInt32
  deriving DecidableEq

/-- An event with the button that a `cursorButton` is about. -/
structure Reported where
  event : Event
  button : PointerButton

structure HeldButtons where
  held : List PointerButton
  sinceGrab : List PointerButton

def HeldButtons.record (buttons : HeldButtons) (e : Reported) : HeldButtons :=
  match e.event with
  | .cursorButton true _ => { buttons with held := buttons.held.insert e.button }
  | .cursorButton false _ =>
      { held := buttons.held.erase e.button
        sinceGrab := buttons.sinceGrab.erase e.button }
  | .requestMove _ => { buttons with sinceGrab := buttons.held }
  | _ => buttons

def stepHeld (p : ZenCompositor × HeldButtons) (e : Reported) : ZenCompositor × HeldButtons :=
  (step p.1 e.event, p.2.record e)

/-- A grab exists only on a live and mapped toplevel, during a drag that began before it. -/
def RealDrag (p : ZenCompositor × HeldButtons) : Prop :=
  ∀ t ∈ p.1.windows.grabbedToplevel,
    p.1.windows.Live t ∧ p.1.windows.mapped t = true ∧ p.2.sinceGrab ≠ []

/-- A move is asked for on a mapped toplevel while a button is held, and a toplevel that is
being moved is not unmapped. -/
def DragsOnly (p : ZenCompositor × HeldButtons) (e : Reported) : Prop :=
  match e.event with
  | .requestMove t => p.1.windows.mapped t = true ∧ p.2.held ≠ []
  | .unmap t => p.1.windows.grabbedToplevel ≠ some t
  | _ => True

section Actions

variable {w : Windows}

theorem Windows.ite_focus (P : Prop) [Decidable P] (target : Option ToplevelId) :
    (if P then w.focus target else w).grabbedToplevel = w.grabbedToplevel ∧
      ∀ t, (if P then w.focus target else w).mapped t = w.mapped t := by
  split
  · exact ⟨w.focus_grabbedToplevel target, w.focus_mapped target⟩
  · exact ⟨rfl, fun _ => rfl⟩

/-- Other than by `unmap` and a new grab, a toplevel that stays grabbed stays mapped. -/
theorem WindowAction.keeps_grabbed {a : WindowAction} (ha : a.Admissible w)
    (hunmap : ∀ t, a ≠ .unmap t) (hgrab : ∀ t x y nodeX nodeY, a ≠ .grab t x y nodeX nodeY)
    {t : ToplevelId} (ht : t ∈ (w.apply a).grabbedToplevel) :
    t ∈ w.grabbedToplevel ∧ (w.mapped t = true → (w.apply a).mapped t = true) := by
  cases a with
  | idle => exact ⟨ht, id⟩
  | create u surface =>
      refine ⟨ht, fun hmapped => ?_⟩
      have hne : t ≠ u := by
        rintro rfl
        exact ha (w.live_of_mapped t hmapped)
      rw [Windows.mapped, Windows.apply]
      dsimp only
      rw [Function.update_of_ne hne]
      exact hmapped
  | commit u maximized fullscreen =>
      refine ⟨ht, fun hmapped => ?_⟩
      rw [Windows.apply, Windows.modify_mapped _ _ fun _ => by rfl]
      exact hmapped
  | map u =>
      rw [Windows.apply, Windows.focus_grabbedToplevel] at ht
      refine ⟨ht, fun hmapped => ?_⟩
      rw [Windows.apply, Windows.focus_mapped]
      rcases eq_or_ne t u with rfl | hne
      · exact w.reveal_mapped_self t (w.live_of_mapped t hmapped)
      · rw [Windows.reveal, Windows.modify_mapped _ _ fun _ => by rfl, Windows.mapped,
          Windows.modify_heap, if_neg hne]
        exact hmapped
  | unmap u => exact absurd rfl (hunmap u)
  | destroy u =>
      obtain ⟨hgrabbed, hmaps⟩ := w.ite_focus (w.focusedToplevel = some u)
        (w.toplevels.find? fun v => v ≠ u)
      rw [Windows.apply, Windows.free_grabbedToplevel, hgrabbed] at ht
      rw [Windows.apply, Windows.free_mapped, hmaps]
      split at ht
      · cases ht
      · next hother =>
        have hne : t ≠ u := by
          rintro rfl
          exact hother ht
        exact ⟨ht, fun hmapped => by simp [hne, hmapped]⟩
  | focus target =>
      rw [Windows.apply, Windows.focus_grabbedToplevel] at ht
      refine ⟨ht, fun hmapped => ?_⟩
      rw [Windows.apply, Windows.focus_mapped]
      exact hmapped
  | grab u x y nodeX nodeY => exact absurd rfl (hgrab u x y nodeX nodeY)
  | release => cases ht
  | position u x y =>
      refine ⟨ht, fun hmapped => ?_⟩
      rw [Windows.apply, Windows.modify_mapped _ _ fun _ => by rfl]
      exact hmapped

end Actions

section Runs

variable {p : ZenCompositor × HeldButtons} {e : Reported}

theorem windowAction_ne_unmap {s : ZenCompositor} {event : Event}
    (h : ∀ t, event ≠ .unmap t) (t : ToplevelId) : windowAction s event ≠ .unmap t := by
  intro haction
  cases performs_of_eq haction
  exact h t rfl

theorem windowAction_ne_grab {s : ZenCompositor} {event : Event}
    (h : ∀ t, event ≠ .requestMove t) (t : ToplevelId) (x y : ℚ) (nodeX nodeY : Int) :
    windowAction s event ≠ .grab t x y nodeX nodeY := by
  intro haction
  cases performs_of_eq haction
  exact h t rfl

theorem RealDrag.keeps (hp : RealDrag p) (he : Admissible p.1 e.event)
    (hunmap : ∀ t, e.event ≠ .unmap t) (hmove : ∀ t, e.event ≠ .requestMove t)
    (hsince : (p.2.record e).sinceGrab = p.2.sinceGrab) : RealDrag (stepHeld p e) := by
  intro t ht
  change t ∈ (step p.1 e.event).windows.grabbedToplevel at ht
  change (step p.1 e.event).windows.Live t ∧ (step p.1 e.event).windows.mapped t = true ∧
    (p.2.record e).sinceGrab ≠ []
  rw [step_windows] at ht ⊢
  obtain ⟨hgrabbed, hkeeps⟩ := WindowAction.keeps_grabbed (windowAction_admissible he)
    (windowAction_ne_unmap hunmap) (windowAction_ne_grab hmove) ht
  obtain ⟨-, hmapped, hheld⟩ := hp t hgrabbed
  have hstays := hkeeps hmapped
  refine ⟨Windows.live_of_mapped _ t hstays, hstays, ?_⟩
  rw [hsince]
  exact hheld

theorem realDrag_release {hit : Option Hit} {button : PointerButton} :
    RealDrag (stepHeld p ⟨.cursorButton false hit, button⟩) := by
  intro t ht
  change t ∈ (step p.1 (.cursorButton false hit)).windows.grabbedToplevel at ht
  rw [step_windows, windowAction, if_neg Bool.false_ne_true] at ht
  split at ht
  · cases ht
  · next hnone =>
    rw [Windows.apply] at ht
    exact absurd (Option.isSome_of_mem ht) hnone

theorem realDrag_requestMove {t : ToplevelId} {button : PointerButton}
    (ht : p.1.windows.Live t) :
    RealDrag (stepHeld p ⟨.requestMove t, button⟩) ↔
      p.1.windows.mapped t = true ∧ p.2.held ≠ [] := by
  have hstep : (step p.1 (.requestMove t)).windows.grabbedToplevel = some t ∧
      (step p.1 (.requestMove t)).windows.heap = p.1.windows.heap := by
    obtain ⟨r, hr⟩ := Option.isSome_iff_exists.mp ht
    rw [step_windows, windowAction, hr]
    exact ⟨rfl, rfl⟩
  have hmapped : (step p.1 (.requestMove t)).windows.mapped t = p.1.windows.mapped t := by
    rw [Windows.mapped, hstep.2]
    rfl
  constructor
  · intro h
    obtain ⟨-, hmap, hheld⟩ := h t hstep.1
    exact ⟨hmapped.symm.trans hmap, hheld⟩
  · rintro ⟨hmap, hheld⟩ u hu
    obtain rfl : t = u := Option.some.inj (hstep.1.symm.trans hu)
    have hstays := hmapped.trans hmap
    exact ⟨Windows.live_of_mapped _ t hstays, hstays, hheld⟩

theorem realDrag_unmap {t : ToplevelId} {button : PointerButton} (hp : RealDrag p) :
    RealDrag (stepHeld p ⟨.unmap t, button⟩) ↔ p.1.windows.grabbedToplevel ≠ some t := by
  obtain ⟨hgrabbed, hmaps⟩ := (p.1.windows.hide t).ite_focus
    ((p.1.windows.hide t).focusedToplevel = some t)
    ((p.1.windows.hide t).toplevels.find? fun u => u ≠ t && (p.1.windows.hide t).mapped u)
  have hgrab : (step p.1 (.unmap t)).windows.grabbedToplevel =
      p.1.windows.grabbedToplevel := by
    rw [step_windows, windowAction, Windows.apply]
    exact hgrabbed
  have hmap : ∀ u, (step p.1 (.unmap t)).windows.mapped u =
      (u ≠ t && p.1.windows.mapped u) := by
    intro u
    rw [step_windows, windowAction, Windows.apply]
    rw [Windows.modify_mapped _ _ fun _ => by rfl, hmaps, Windows.hide_mapped]
  constructor
  · intro h ht
    obtain ⟨-, hmapped, -⟩ := h t (hgrab.trans ht)
    change (step p.1 (.unmap t)).windows.mapped t = true at hmapped
    rw [hmap] at hmapped
    simp at hmapped
  · intro hne u hu
    have hu' : u ∈ p.1.windows.grabbedToplevel := hgrab.symm.trans hu
    have hut : u ≠ t := by
      rintro rfl
      exact hne hu'
    obtain ⟨-, hmapped, hheld⟩ := hp u hu'
    have hstays : (step p.1 (.unmap t)).windows.mapped u = true := by
      rw [hmap]
      simp [hut, hmapped]
    exact ⟨Windows.live_of_mapped _ u hstays, hstays, hheld⟩

theorem realDrag_iff (hp : RealDrag p) (he : Admissible p.1 e.event) :
    RealDrag (stepHeld p e) ↔ DragsOnly p e := by
  obtain ⟨event, button⟩ := e
  cases event with
  | requestMove t => exact realDrag_requestMove he
  | unmap t => exact realDrag_unmap hp
  | cursorButton pressed hit =>
      refine iff_of_true ?_ trivial
      cases pressed with
      | false => exact realDrag_release
      | true =>
          apply hp.keeps he
          · rintro t ⟨⟩
          · rintro t ⟨⟩
          · rfl
  | _ =>
      refine iff_of_true ?_ trivial
      apply hp.keeps he
      · rintro t ⟨⟩
      · rintro t ⟨⟩
      · rfl

/-- Every state of a run has only grabs that are drags, exactly when every step of the run
is as `DragsOnly` says. -/
theorem run_realDrag_iff (outputs : List Output) (bindings : List ZenKeybinding)
    (idleTimer : Bool) (events : List Reported)
    (h : Along stepHeld (fun p e => Admissible p.1 e.event)
      (created outputs bindings idleTimer, ⟨[], []⟩) events) :
    Along stepHeld (fun p e => RealDrag (stepHeld p e))
        (created outputs bindings idleTimer, ⟨[], []⟩) events ↔
      Along stepHeld DragsOnly (created outputs bindings idleTimer, ⟨[], []⟩) events := by
  refine along_iff_along (I := RealDrag) (fun _ _ _ _ hreal => hreal)
    (fun _ _ hp he => realDrag_iff hp he) h ?_
  rintro t ⟨⟩

def leftButton : PointerButton :=
  { device := 0, code := 0x110 }

def reportAll (events : List Event) : List Reported :=
  events.map fun event => ⟨event, leftButton⟩

/-- A window is dragged to its place. -/
theorem run_realDrag_drag :
    let p := (created [] [] true, (⟨[], []⟩ : HeldButtons))
    let events := reportAll (showWindow 1 11 ++
      [.cursorButton true none, .requestMove 1, .cursorMotion 5 5 none,
        .cursorButton false none, .unmap 1])
    Along stepHeld (fun p e => RealDrag (stepHeld p e)) p events ↔
      Along stepHeld DragsOnly p events :=
  run_realDrag_iff [] [] true _ (by decide +kernel)

/-- The request to move arrives after the button was released, and a window is unmapped
while it is dragged. -/
theorem grab_without_drag :
    let start := (created [] [] true, (⟨[], []⟩ : HeldButtons))
    let late := reportAll (showWindow 1 11 ++
      [.cursorButton true none, .cursorButton false none, .requestMove 1])
    let unmapped := reportAll (showWindow 1 11 ++
      [.cursorButton true none, .requestMove 1, .unmap 1])
    (Along stepHeld (fun p e => Admissible p.1 e.event) start late ∧
        ¬ RealDrag (exec stepHeld start late)) ∧
      Along stepHeld (fun p e => Admissible p.1 e.event) start unmapped ∧
        ¬ RealDrag (exec stepHeld start unmapped) := by
  intro start late unmapped
  refine ⟨⟨by decide +kernel, fun h => ?_⟩, by decide +kernel, fun h => ?_⟩
  · have hgrabbed : (exec stepHeld start late).1.windows.grabbedToplevel = some 1 := by
      decide +kernel
    have hheld : (exec stepHeld start late).2.sinceGrab = [] := by decide +kernel
    exact (h 1 hgrabbed).2.2 hheld
  · have hgrabbed : (exec stepHeld start unmapped).1.windows.grabbedToplevel = some 1 := by
      decide +kernel
    have hmapped : (exec stepHeld start unmapped).1.windows.mapped 1 = false := by
      decide +kernel
    have hstays := (h 1 hgrabbed).2.1
    rw [hmapped] at hstays
    cases hstays

end Runs

end ZenOS.Compositor
