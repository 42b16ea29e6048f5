import ZenOS.Compositor.Frame

/-!
The window list on its own.  The toplevel records, the MRU list, the focus and the
grab evolve as a machine of ten actions; `step_windows` says which action an event
of the compositor performs.  Invariants of the window list are proved on this
machine and carried over by that theorem.
-/

namespace ZenOS.Compositor

/-- Move the focus: deactivate the old toplevel, put the new one in front of the
list and activate it. -/
def Windows.focus (w : Windows) (target : Option ToplevelId) : Windows :=
  if w.focusedToplevel = target then w
  else
    let w := match w.focusedToplevel with
      | some p => w.modify p fun r => { r with activated := false }
      | none => w
    match target with
    | none => { w with focusedToplevel := none }
    | some t =>
        { w with
          focusedToplevel := some t
          toplevels := t :: w.toplevels.erase t }.modify t
            fun r => { r with activated := true }

def Windows.reveal (w : Windows) (t : ToplevelId) : Windows :=
  (w.modify t fun r => { r with mapped := true }).modify t
    fun r => { r with nodeEnabled := true }

def Windows.hide (w : Windows) (t : ToplevelId) : Windows :=
  (w.modify t fun r => { r with mapped := false }).modify t
    fun r => { r with nodeEnabled := false }

def Windows.release (w : Windows) : Windows :=
  { w with
    grabbedToplevel := none, grabX := 0, grabY := 0, grabNodeX := 0, grabNodeY := 0 }

/-- Unlink and free a toplevel; a grab on it is cancelled. -/
def Windows.free (w : Windows) (t : ToplevelId) : Windows :=
  let w := if w.grabbedToplevel = some t then w.release else w
  { w with
    toplevels := w.toplevels.erase t
    heap := Function.update w.heap t none }

inductive WindowAction where
  | idle
  | create (t : ToplevelId) (surface : SurfaceId)
  | commit (t : ToplevelId) (maximized fullscreen : Bool)
  | map (t : ToplevelId)
  | unmap (t : ToplevelId)
  | destroy (t : ToplevelId)
  | focus (target : Option ToplevelId)
  | grab (t : ToplevelId) (x y : ℚ) (nodeX nodeY : Int)
  | release
  | position (t : ToplevelId) (x y : Int)

def Windows.apply (w : Windows) : WindowAction → Windows
  | .idle => w
  | .create t surface =>
      { w with
        heap := Function.update w.heap t (some
          { surface, initialized := false, mapped := false, activated := false
            maximized := false, fullscreen := false
            nodeX := 0, nodeY := 0, nodeEnabled := true })
        toplevels := t :: w.toplevels }
  | .commit t maximized fullscreen =>
      w.modify t fun r => { r with initialized := true, maximized, fullscreen }
  | .map t => (w.reveal t).focus (some t)
  | .unmap t =>
      let w := w.hide t
      let w :=
        if w.focusedToplevel = some t then
          w.focus (w.toplevels.find? fun u => u ≠ t && w.mapped u)
        else w
      w.modify t fun r => { r with initialized := false }
  | .destroy t =>
      let w :=
        if w.focusedToplevel = some t then w.focus (w.toplevels.find? fun u => u ≠ t)
        else w
      w.free t
  | .focus target => w.focus target
  | .grab t x y nodeX nodeY =>
      { w with
        grabbedToplevel := some t, grabX := x, grabY := y
        grabNodeX := nodeX, grabNodeY := nodeY }
  | .release => w.release
  | .position t x y => w.modify t fun r => { r with nodeX := x, nodeY := y }

/-- The action on the window list that an event performs. -/
def windowAction (s : ZenCompositor) : Event → WindowAction
  | .newToplevel t surface ok => if ok then .create t surface else .idle
  | .commit t maximized fullscreen => .commit t maximized fullscreen
  | .map t => .map t
  | .unmap t => .unmap t
  | .destroy t => .destroy t
  | .requestMove t =>
      match s.windows.heap t with
      | some r => .grab t s.cursorX s.cursorY r.nodeX r.nodeY
      | none => .idle
  | .requestMaximize t =>
      match s.windows.heap t with
      | none => .idle
      | some r =>
          if r.maximized then .idle
          else
            match outputOfToplevel s r with
            | none => .idle
            | some o =>
                let box := wlrOutputLayoutGetBox s.outputLayout o
                .position t box.x box.y
  | .requestFullscreen t requested =>
      match s.windows.heap t with
      | none => .idle
      | some r =>
          if r.fullscreen then .idle
          else
            match requested.or (outputOfToplevel s r) with
            | none => .idle
            | some o =>
                let box := wlrOutputLayoutGetBox s.outputLayout o
                .position t box.x box.y
  | .focus target => .focus target
  | .cursorMotion x y _ =>
      match s.windows.grabbedToplevel with
      | some g =>
          .position g (s.windows.grabNodeX + truncToInt (x - s.windows.grabX))
            (s.windows.grabNodeY + truncToInt (y - s.windows.grabY))
      | none => .idle
  | .cursorButton pressed hit =>
      if pressed then
        match toplevelAtHit hit with
        | some t => .focus (some t)
        | none => .idle
      else if s.windows.grabbedToplevel.isSome then .release
      else .idle
  | _ => .idle

/-- Everything that an event can do to the window list.  Any event may leave it alone,
position a toplevel or end a drag. -/
inductive Performs (s : ZenCompositor) : Event → WindowAction → Prop
  | idle {e : Event} : Performs s e .idle
  | position {e : Event} {t : ToplevelId} {x y : Int} : Performs s e (.position t x y)
  | release {e : Event} : Performs s e .release
  | create {t : ToplevelId} {surface : SurfaceId} :
      Performs s (.newToplevel t surface true) (.create t surface)
  | commit {t : ToplevelId} {maximized fullscreen : Bool} :
      Performs s (.commit t maximized fullscreen) (.commit t maximized fullscreen)
  | map {t : ToplevelId} : Performs s (.map t) (.map t)
  | unmap {t : ToplevelId} : Performs s (.unmap t) (.unmap t)
  | destroy {t : ToplevelId} : Performs s (.destroy t) (.destroy t)
  | focus {target : Option ToplevelId} : Performs s (.focus target) (.focus target)
  | click {t : ToplevelId} {hit : Option Hit} (ht : toplevelAtHit hit = some t) :
      Performs s (.cursorButton true hit) (.focus (some t))
  | grab {t : ToplevelId} {x y : ℚ} {nodeX nodeY : Int} :
      Performs s (.requestMove t) (.grab t x y nodeX nodeY)

theorem windowAction_performs (s : ZenCompositor) (e : Event) :
    Performs s e (windowAction s e) := by
  cases e with
  | newToplevel t surface ok => cases ok <;> [exact .idle; exact .create]
  | commit => exact .commit
  | map => exact .map
  | unmap => exact .unmap
  | destroy => exact .destroy
  | focus => exact .focus
  | requestMove t =>
      simp only [windowAction]
      split <;> [exact .grab; exact .idle]
  | requestMaximize t =>
      simp only [windowAction]
      repeat' split
      all_goals first | exact .idle | exact .position
  | requestFullscreen t requested =>
      simp only [windowAction]
      repeat' split
      all_goals first | exact .idle | exact .position
  | cursorMotion x y hit =>
      simp only [windowAction]
      split <;> [exact .position; exact .idle]
  | cursorButton pressed hit =>
      cases pressed with
      | true =>
          simp only [windowAction, if_true]
          split
          · next t ht => exact .click ht
          · exact .idle
      | false =>
          simp only [windowAction, Bool.false_eq_true, if_false]
          split <;> [exact .release; exact .idle]
  | _ => exact .idle

theorem performs_of_eq {s : ZenCompositor} {e : Event} {a : WindowAction}
    (h : windowAction s e = a) : Performs s e a := by
  rw [← h]
  exact windowAction_performs s e

section Fields

variable (w : Windows) (t : ToplevelId) (f : ZenToplevel → ZenToplevel)

@[simp] theorem Windows.modify_toplevels : (w.modify t f).toplevels = w.toplevels :=
  rfl

@[simp] theorem Windows.modify_focusedToplevel :
    (w.modify t f).focusedToplevel = w.focusedToplevel :=
  rfl

@[simp] theorem Windows.modify_grabbedToplevel :
    (w.modify t f).grabbedToplevel = w.grabbedToplevel :=
  rfl

theorem Windows.modify_heap (u : ToplevelId) :
    (w.modify t f).heap u = if u = t then (w.heap t).map f else w.heap u :=
  Function.update_apply ..

@[simp] theorem Windows.modify_live (u : ToplevelId) :
    (w.modify t f).Live u ↔ w.Live u := by
  unfold Windows.Live
  rw [Windows.modify_heap]
  split
  · next h => rw [h, Option.isSome_map]
  · rfl

theorem Windows.modify_any (g : ZenToplevel → Bool) (hg : ∀ r, g (f r) = g r)
    (u : ToplevelId) : ((w.modify t f).heap u).any g = (w.heap u).any g := by
  rw [Windows.modify_heap]
  split
  · next h => cases hr : w.heap t <;> simp [h, hr, hg]
  · rfl

@[simp] theorem Windows.focus_focusedToplevel (target : Option ToplevelId) :
    (w.focus target).focusedToplevel = target := by
  rw [Windows.focus]
  split
  · assumption
  · cases target <;> rfl

theorem Windows.focus_toplevels (target : Option ToplevelId) :
    (w.focus target).toplevels =
      if w.focusedToplevel = target then w.toplevels
      else match target with
        | none => w.toplevels
        | some t => t :: w.toplevels.erase t := by
  rw [Windows.focus]
  split
  · rfl
  · cases w.focusedToplevel <;> cases target <;> rfl

@[simp] theorem Windows.focus_grabbedToplevel (target : Option ToplevelId) :
    (w.focus target).grabbedToplevel = w.grabbedToplevel := by
  rw [Windows.focus]
  split
  · rfl
  · cases w.focusedToplevel <;> cases target <;> rfl

/-- The focus changes only what `wlr_xdg_toplevel_set_activated` was last given. -/
theorem Windows.focus_heap (target : Option ToplevelId) (u : ToplevelId) :
    (w.focus target).heap u = (w.heap u).map fun r =>
      { r with activated :=
          if w.focusedToplevel = target then r.activated
          else if target = some u then true
          else if w.focusedToplevel = some u then false
          else r.activated } := by
  rw [Windows.focus]
  rcases eq_or_ne w.focusedToplevel target with h | h
  · simp [h]
  · simp only [h, if_false]
    have swap : ∀ v : ToplevelId, v = u ↔ u = v := fun v => eq_comm
    cases hp : w.focusedToplevel with
    | none =>
        cases target with
        | none => exact absurd hp h
        | some t =>
            simp only [Windows.modify_heap, Option.some.injEq, swap]
            rcases eq_or_ne u t with hu | hu <;> simp [hu]
    | some p =>
        cases target with
        | none =>
            simp only [Windows.modify_heap, Option.some.injEq, swap]
            rcases eq_or_ne u p with hu | hu <;> simp [hu]
        | some t =>
            have htp : t ≠ p := fun htp => h (by rw [hp, htp])
            simp only [Windows.modify_heap, Option.some.injEq, swap]
            rcases eq_or_ne u t with hu | hu
            · simp [hu, htp]
            · rcases eq_or_ne u p with hup | hup
              · simp [hup, htp.symm]
              · simp [hu, hup]

@[simp] theorem Windows.focus_live (target : Option ToplevelId) (u : ToplevelId) :
    (w.focus target).Live u ↔ w.Live u := by
  unfold Windows.Live
  rw [Windows.focus_heap, Option.isSome_map]

theorem Windows.focus_any (g : ZenToplevel → Bool)
    (hg : ∀ r activated, g { r with activated } = g r) (target : Option ToplevelId)
    (u : ToplevelId) : ((w.focus target).heap u).any g = (w.heap u).any g := by
  rw [Windows.focus_heap]
  cases w.heap u <;> simp [hg]

@[simp] theorem Windows.focus_mapped (target : Option ToplevelId) (u : ToplevelId) :
    (w.focus target).mapped u = w.mapped u :=
  Windows.focus_any w _ (fun _ _ => rfl) target u

@[simp] theorem Windows.free_focusedToplevel :
    (w.free t).focusedToplevel = w.focusedToplevel := by
  rw [Windows.free]
  split <;> rfl

theorem Windows.free_toplevels : (w.free t).toplevels = w.toplevels.erase t := by
  rw [Windows.free]
  split <;> rfl

theorem Windows.free_grabbedToplevel :
    (w.free t).grabbedToplevel =
      if w.grabbedToplevel = some t then none else w.grabbedToplevel := by
  rw [Windows.free]
  split <;> rfl

theorem Windows.free_heap (u : ToplevelId) :
    (w.free t).heap u = if u = t then none else w.heap u := by
  rw [Windows.free]
  split <;> exact Function.update_apply ..

theorem Windows.free_live (u : ToplevelId) : (w.free t).Live u ↔ u ≠ t ∧ w.Live u := by
  unfold Windows.Live
  rw [Windows.free_heap]
  rcases eq_or_ne u t with hu | hu <;> simp [hu]

theorem Windows.free_mapped (u : ToplevelId) :
    (w.free t).mapped u = (u ≠ t && w.mapped u) := by
  unfold Windows.mapped
  rw [Windows.free_heap]
  rcases eq_or_ne u t with hu | hu <;> simp [hu]

/-! What is mapped and what is initialised. -/

theorem Windows.modify_mapped {f : ZenToplevel → ZenToplevel}
    (hf : ∀ r, (f r).mapped = r.mapped) (u : ToplevelId) :
    (w.modify t f).mapped u = w.mapped u :=
  Windows.modify_any w t f _ hf u

theorem Windows.reveal_mapped (u : ToplevelId) (h : (w.reveal t).mapped u = true) :
    u = t ∨ w.mapped u = true := by
  rw [Windows.reveal] at h
  rw [Windows.modify_mapped _ _ fun _ => by rfl] at h
  unfold Windows.mapped at h ⊢
  rw [Windows.modify_heap] at h
  split at h
  · next hu => exact .inl hu
  · exact .inr h

theorem Windows.reveal_mapped_self (h : w.Live t) : (w.reveal t).mapped t = true := by
  rw [Windows.reveal]
  rw [Windows.modify_mapped _ _ fun _ => by rfl]
  rw [Windows.mapped]
  rw [Windows.modify_heap, if_pos rfl]
  rw [Windows.Live] at h
  cases hr : w.heap t <;> simp_all

theorem Windows.hide_mapped (u : ToplevelId) :
    (w.hide t).mapped u = (u ≠ t && w.mapped u) := by
  rw [Windows.hide]
  rw [Windows.modify_mapped _ _ fun _ => by rfl]
  unfold Windows.mapped
  rw [Windows.modify_heap]
  rcases eq_or_ne u t with hu | hu
  · cases w.heap t <;> simp [hu]
  · simp [hu]

/-- The handlers of `unmap` look for a mapped toplevel other than the one they hide. -/
theorem Windows.hide_mapped_other :
    (fun u => decide (u ≠ t) && (w.hide t).mapped u) =
      fun u => decide (u ≠ t) && w.mapped u := by
  funext u
  rw [Windows.hide_mapped, ← Bool.and_assoc, Bool.and_self]

theorem Windows.initialized_of_heap {r : ZenToplevel} (h : w.heap t = some r) :
    w.initialized t = r.initialized := by
  simp [Windows.initialized, h]

theorem Windows.live_of_initialized (h : w.initialized t = true) : w.Live t := by
  rw [Windows.initialized] at h
  rw [Windows.Live]
  cases hr : w.heap t <;> simp_all

theorem Windows.live_of_mapped (h : w.mapped t = true) : w.Live t := by
  rw [Windows.mapped] at h
  rw [Windows.Live]
  cases hr : w.heap t <;> simp_all

theorem Windows.modify_initialized {f : ZenToplevel → ZenToplevel}
    (hf : ∀ r, (f r).initialized = r.initialized) (u : ToplevelId) :
    (w.modify t f).initialized u = w.initialized u :=
  w.modify_any t f _ hf u

@[simp] theorem Windows.focus_initialized (target : Option ToplevelId) (u : ToplevelId) :
    (w.focus target).initialized u = w.initialized u :=
  w.focus_any _ (fun _ _ => rfl) target u

@[simp] theorem Windows.reveal_initialized (u : ToplevelId) :
    (w.reveal t).initialized u = w.initialized u := by
  rw [Windows.reveal]
  rw [Windows.modify_initialized _ _ fun _ => by rfl,
    Windows.modify_initialized _ _ fun _ => by rfl]

@[simp] theorem Windows.hide_initialized (u : ToplevelId) :
    (w.hide t).initialized u = w.initialized u := by
  rw [Windows.hide]
  rw [Windows.modify_initialized _ _ fun _ => by rfl,
    Windows.modify_initialized _ _ fun _ => by rfl]

theorem Windows.free_initialized (u : ToplevelId) :
    (w.free t).initialized u = (u ≠ t && w.initialized u) := by
  unfold Windows.initialized
  rw [Windows.free_heap]
  rcases eq_or_ne u t with hu | hu <;> simp [hu]

end Fields

@[simp] theorem wlrSeatKeyboardNotifyEnter_windows (s : ZenCompositor) (surface : SurfaceId)
    (keycodes : List UInt32) (modifiers : KeyboardModifiers) :
    (wlrSeatKeyboardNotifyEnter s surface keycodes modifiers).windows = s.windows := by
  rw [wlrSeatKeyboardNotifyEnter_eq]
  split <;> rfl

@[simp] theorem wlrSeatSetKeyboard_windows (s : ZenCompositor) (k : KeyboardId) :
    (wlrSeatSetKeyboard s k).windows = s.windows := by
  rw [wlrSeatSetKeyboard]
  split <;> rfl

@[simp] theorem wlrSeatPointerNotifyEnter_windows (s : ZenCompositor)
    (surface : SurfaceId) (sx sy : ℚ) :
    (wlrSeatPointerNotifyEnter s surface sx sy).windows = s.windows := by
  rw [wlrSeatPointerNotifyEnter_eq]
  split <;> rfl

@[simp] theorem wlrSeatPointerNotifyMotion_windows (s : ZenCompositor) (sx sy : ℚ) :
    (wlrSeatPointerNotifyMotion s sx sy).windows = s.windows := by
  rw [wlrSeatPointerNotifyMotion_eq]
  repeat' split
  all_goals rfl

theorem enterToplevel_windows (s : ZenCompositor) (t : ToplevelId) :
    (enterToplevel s t).windows = s.windows := by
  rw [enterToplevel]
  split
  · exact wlrSeatKeyboardNotifyEnter_windows s _ _ _
  · rfl

theorem activateToplevel_windows (s : ZenCompositor) (t : ToplevelId) :
    (activateToplevel s t).windows =
      { s.windows with toplevels := t :: s.windows.toplevels.erase t }.modify t
        fun r => { r with activated := true } := by
  rw [activateToplevel]
  dsimp only
  rw [enterToplevel_windows]
  rfl

@[simp] theorem zenXdgFocusToplevel_windows (s : ZenCompositor)
    (target : Option ToplevelId) :
    (zenXdgFocusToplevel s target).windows = s.windows.focus target := by
  unfold zenXdgFocusToplevel Windows.focus deactivateFocused
  split
  · rfl
  · cases s.windows.focusedToplevel <;> cases target <;> dsimp only
    all_goals first | rfl | exact activateToplevel_windows _ _

theorem handleToplevelRequestMaximize_windows (s : ZenCompositor) (t : ToplevelId) :
    (handleToplevelRequestMaximize s t).windows =
      s.windows.apply (windowAction s (.requestMaximize t)) := by
  rw [handleToplevelRequestMaximize]
  simp only [windowAction]
  cases s.windows.heap t with
  | none => rfl
  | some r =>
      cases hm : r.maximized <;> simp only [hm, Bool.not_true, Bool.not_false,
        Bool.false_eq_true, ↓reduceIte]
      · cases outputOfToplevel s r <;> rfl
      · rfl

theorem handleToplevelRequestFullscreen_windows (s : ZenCompositor) (t : ToplevelId)
    (requested : Option OutputId) :
    (handleToplevelRequestFullscreen s t requested).windows =
      s.windows.apply (windowAction s (.requestFullscreen t requested)) := by
  rw [handleToplevelRequestFullscreen]
  simp only [windowAction]
  cases s.windows.heap t with
  | none => rfl
  | some r =>
      cases hf : r.fullscreen <;> simp only [hf, Bool.not_true, Bool.not_false,
        Bool.false_eq_true, ↓reduceIte]
      · cases requested
        · simp only [Option.none_or]
          cases outputOfToplevel s r <;> rfl
        · rfl
      · rfl

theorem handleCursorMotion_windows (s : ZenCompositor) (x y : ℚ) (hit : Option Hit) :
    (handleCursorMotion s x y hit).windows =
      s.windows.apply (windowAction s (.cursorMotion x y hit)) := by
  simp only [handleCursorMotion, zenInputProcessCursorMotion, windowAction]
  cases s.windows.grabbedToplevel with
  | some g => rfl
  | none =>
      dsimp only
      split
      · simp [Windows.apply]
      · rfl

theorem handleCursorButton_windows (s : ZenCompositor) (pressed : Bool)
    (hit : Option Hit) :
    (handleCursorButton s pressed hit).windows =
      s.windows.apply (windowAction s (.cursorButton pressed hit)) := by
  simp only [handleCursorButton, wlrSeatPointerNotifyButton_eq, windowAction]
  cases pressed
  · simp only [Bool.not_false, Bool.true_and, Bool.false_eq_true, ↓reduceIte]
    split <;> rfl
  · simp only [Bool.not_true, Bool.false_and, Bool.false_eq_true, ↓reduceIte]
    cases toplevelAtHit hit <;> simp [Windows.apply]

/-- The handlers change the window list as its own machine does. -/
theorem handle_windows (s : ZenCompositor) (e : Event) :
    (handle s e).windows = s.windows.apply (windowAction s e) := by
  rcases eq_or_ne e.owner .desktop with ho | ho
  · cases e with
    | newToplevel t surface ok => cases ok <;> rfl
    | commit | requestResize | surfaceDestroy | keyboardDestroy => rfl
    | map t => exact zenXdgFocusToplevel_windows _ _
    | unmap t =>
        simp only [handle, handleToplevelUnmap, windowAction, Windows.apply,
          apply_ite ZenCompositor.windows, zenXdgFocusToplevel_windows]
        rfl
    | destroy t =>
        simp only [handle, handleToplevelDestroy, windowAction, Windows.apply,
          apply_ite ZenCompositor.windows, zenXdgFocusToplevel_windows]
        rfl
    | requestMove t =>
        simp only [handle, handleToplevelRequestMove, windowAction]
        cases s.windows.heap t <;> rfl
    | requestMaximize t => exact handleToplevelRequestMaximize_windows s t
    | requestFullscreen t requested =>
        exact handleToplevelRequestFullscreen_windows s t requested
    | focus target => exact zenXdgFocusToplevel_windows _ _
    | newKeyboard k ok =>
        cases ok with
        | false => rfl
        | true => exact wlrSeatSetKeyboard_windows (wlrKeyboardInit s k) k
    | modifiers k state =>
        exact wlrSeatSetKeyboard_windows (wlrKeyboardUpdateModifiers s k state) k
    | cursorMotion x y hit => exact handleCursorMotion_windows s x y hit
    | cursorButton pressed hit => exact handleCursorButton_windows s pressed hit
    | _ => cases ho
  · rw [(handle_writes s e).framed.windows ho]
    cases e with
    | newLayerSurface | layerCommit | layerMap | layerUnmap | layerDestroy => rfl
    | newOutput | outputRequestState | outputDestroy | wallpaperInit | wallpaperDestroy => rfl
    | key | idleTimeout | lockSignal | newLock => rfl
    | _ => exact absurd rfl ho

theorem step_windows (s : ZenCompositor) (e : Event) :
    (step s e).windows = s.windows.apply (windowAction s e) :=
  handle_windows { s with calls := [] } e

end ZenOS.Compositor
