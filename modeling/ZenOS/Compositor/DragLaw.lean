import ZenOS.Compositor.WindowInvariant

/-!
Where a window is while it is dragged.
-/

namespace ZenOS.Compositor

open ZenOS.Library.Runs

/-- Where the cursor and the node of the window were when the grab began. -/
structure Grab where
  x : ℚ
  y : ℚ
  nodeX : Int
  nodeY : Int

/-- `handle_toplevel_request_move` on a toplevel with this record -/
def grabOf (s : ZenCompositor) (r : ZenToplevel) : Grab where
  x := s.cursorX
  y := s.cursorY
  nodeX := r.nodeX
  nodeY := r.nodeY

/-- The grab on a toplevel is held. -/
structure Windows.Grabs (w : Windows) (t : ToplevelId) (g : Grab) : Prop where
  grabbed : w.grabbedToplevel = some t
  live : w.Live t
  origin : ({ x := w.grabX, y := w.grabY, nodeX := w.grabNodeX, nodeY := w.grabNodeY } : Grab) = g

/-- The window has been moved by as much as the cursor, rounded toward zero. -/
def FollowsCursor (s : ZenCompositor) (t : ToplevelId) (g : Grab) : Prop :=
  ∃ r, s.windows.heap t = some r ∧
    r.nodeX = g.nodeX + truncToInt (s.cursorX - g.x) ∧
    r.nodeY = g.nodeY + truncToInt (s.cursorY - g.y)

/-- What happens while a grab is held: no button is released, no other grab begins, and the
toplevel stays. -/
def KeepsGrab (t : ToplevelId) : Event → Prop
  | .cursorButton pressed _ => pressed = true
  | .requestMove _ => False
  | .destroy u => u ≠ t
  | _ => True

instance (t : ToplevelId) : ∀ e, Decidable (KeepsGrab t e)
  | .cursorButton .. => inferInstanceAs (Decidable (_ = _))
  | .requestMove _ => inferInstanceAs (Decidable False)
  | .destroy _ => inferInstanceAs (Decidable (_ ≠ _))
  | .newToplevel .. | .commit .. | .map _ | .unmap _ | .requestResize _ | .requestMaximize _
  | .requestFullscreen .. | .focus _ | .surfaceDestroy _ | .newLayerSurface ..
  | .layerCommit _ | .layerMap _ | .layerUnmap _ | .layerDestroy _ | .newKeyboard ..
  | .keyboardDestroy _ | .key .. | .modifiers .. | .cursorMotion .. | .newOutput ..
  | .outputRequestState .. | .outputDestroy .. | .wallpaperInit .. | .wallpaperDestroy
  | .idleTimeout _ | .lockSignal _ | .newLock _ => inferInstanceAs (Decidable True)

structure Motion where
  x : ℚ
  y : ℚ
  hit : Option Hit

def stepMotion (s : ZenCompositor) (m : Motion) : ZenCompositor :=
  step s (.cursorMotion m.x m.y m.hit)

section Keeping

variable {w : Windows} {t : ToplevelId} {g : Grab}

theorem Windows.focus_origin (w : Windows) (target : Option ToplevelId) :
    (w.focus target).grabX = w.grabX ∧ (w.focus target).grabY = w.grabY ∧
      (w.focus target).grabNodeX = w.grabNodeX ∧ (w.focus target).grabNodeY = w.grabNodeY := by
  rw [Windows.focus]
  split
  · exact ⟨rfl, rfl, rfl, rfl⟩
  · cases w.focusedToplevel <;> cases target <;> exact ⟨rfl, rfl, rfl, rfl⟩

theorem Windows.Grabs.focus (h : w.Grabs t g) (target : Option ToplevelId) :
    (w.focus target).Grabs t g := by
  obtain ⟨hx, hy, hnodeX, hnodeY⟩ := w.focus_origin target
  refine ⟨(w.focus_grabbedToplevel target).trans h.grabbed,
    (w.focus_live target t).mpr h.live, ?_⟩
  rw [hx, hy, hnodeX, hnodeY]
  exact h.origin

theorem Windows.Grabs.modify (h : w.Grabs t g) (u : ToplevelId)
    (f : ZenToplevel → ZenToplevel) : (w.modify u f).Grabs t g :=
  ⟨h.grabbed, (w.modify_live u f t).mpr h.live, h.origin⟩

theorem Windows.Grabs.free (h : w.Grabs t g) {u : ToplevelId} (hu : u ≠ t) :
    (w.free u).Grabs t g := by
  have hother : w.grabbedToplevel ≠ some u := by
    rw [h.grabbed]
    rintro ⟨⟩
    exact hu rfl
  have hlive := (w.free_live u t).mpr ⟨hu.symm, h.live⟩
  rw [Windows.free, if_neg hother] at hlive ⊢
  exact ⟨h.grabbed, hlive, h.origin⟩

theorem Windows.Grabs.apply (h : w.Grabs t g) {a : WindowAction} (ha : a.Admissible w)
    (hrelease : a ≠ .release) (hgrab : ∀ u x y nodeX nodeY, a ≠ .grab u x y nodeX nodeY)
    (hdestroy : a ≠ .destroy t) : (w.apply a).Grabs t g := by
  cases a with
  | idle => exact h
  | create u surface =>
      have hne : t ≠ u := by
        rintro rfl
        exact ha h.live
      refine ⟨h.grabbed, ?_, h.origin⟩
      rw [Windows.apply, Windows.Live]
      dsimp only
      rw [Function.update_of_ne hne]
      exact h.live
  | commit u maximized fullscreen => exact h.modify u _
  | map u => exact ((h.modify u _).modify u _).focus _
  | unmap u =>
      refine Windows.Grabs.modify ?_ u _
      have hhide : (w.hide u).Grabs t g := (h.modify u _).modify u _
      split
      · exact hhide.focus _
      · exact hhide
  | destroy u =>
      have hne : u ≠ t := by
        rintro rfl
        exact hdestroy rfl
      refine Windows.Grabs.free ?_ hne
      split
      · exact h.focus _
      · exact h
  | focus target => exact h.focus target
  | grab u x y nodeX nodeY => exact absurd rfl (hgrab u x y nodeX nodeY)
  | release => exact absurd rfl hrelease
  | position u x y => exact h.modify u _

theorem grabs_step {s : ZenCompositor} {e : Event} (h : s.windows.Grabs t g)
    (ha : Admissible s e) (he : KeepsGrab t e) : (step s e).windows.Grabs t g := by
  rw [step_windows]
  refine h.apply (windowAction_admissible ha) ?_ ?_ ?_
  · intro haction
    cases e with
    | cursorButton pressed hit =>
        rw [show pressed = true from he, windowAction, if_pos rfl] at haction
        split at haction <;> cases haction
    | newToplevel u surface ok => cases ok <;> cases haction
    | requestMaximize u =>
        simp only [windowAction] at haction
        repeat' split at haction
        all_goals cases haction
    | requestFullscreen u requested =>
        simp only [windowAction] at haction
        repeat' split at haction
        all_goals cases haction
    | cursorMotion x y hit =>
        simp only [windowAction] at haction
        split at haction <;> cases haction
    | requestMove u => exact he
    | _ => cases haction
  · intro u x y nodeX nodeY haction
    cases performs_of_eq haction
    exact he
  · intro haction
    cases performs_of_eq haction
    exact he rfl

theorem grabs_requestMove {s : ZenCompositor} {r : ZenToplevel}
    (hr : s.windows.heap t = some r) :
    (step s (.requestMove t)).windows.Grabs t (grabOf s r) ∧
      (step s (.requestMove t)).windows.heap = s.windows.heap := by
  have haction : windowAction s (.requestMove t) =
      .grab t s.cursorX s.cursorY r.nodeX r.nodeY := by
    simp only [windowAction, hr]
  rw [step_windows, haction]
  exact ⟨⟨rfl, Option.isSome_of_mem hr, rfl⟩, rfl⟩

end Keeping

section Motions

variable {s : ZenCompositor} {t : ToplevelId} {g : Grab}

theorem stepMotion_eq (h : s.windows.Grabs t g) (m : Motion) :
    stepMotion s m =
      { s with
        cursorX := m.x
        cursorY := m.y
        windows := s.windows.modify t fun r =>
          { r with
            nodeX := g.nodeX + truncToInt (m.x - g.x)
            nodeY := g.nodeY + truncToInt (m.y - g.y) }
        calls := [] } := by
  obtain ⟨hgrabbed, -, rfl⟩ := h
  simp only [stepMotion, step, handle, handleCursorMotion, zenInputProcessCursorMotion,
    hgrabbed]
  rfl

theorem grabs_stepMotion (h : s.windows.Grabs t g) (m : Motion) :
    (stepMotion s m).windows.Grabs t g :=
  grabs_step h trivial trivial

theorem stepMotion_absorbs (m m' : Motion) (h : s.windows.Grabs t g) :
    stepMotion (stepMotion s m) m' = stepMotion s m' := by
  rw [stepMotion_eq (grabs_stepMotion h m), stepMotion_eq h m, stepMotion_eq h m']
  simp only [Windows.modify, Function.update_self, Function.update_idem, Option.map_map]
  rfl

theorem followsCursor_stepMotion (h : s.windows.Grabs t g) (m : Motion) :
    FollowsCursor (stepMotion s m) t g := by
  obtain ⟨r, hr⟩ := Option.isSome_iff_exists.mp h.live
  rw [stepMotion_eq h m]
  refine ⟨{ r with
    nodeX := g.nodeX + truncToInt (m.x - g.x)
    nodeY := g.nodeY + truncToInt (m.y - g.y) }, ?_, rfl, rfl⟩
  dsimp only
  rw [Windows.modify_heap, if_pos rfl, hr, Option.map_some]

theorem exec_motions_concat (h : s.windows.Grabs t g) (motions : List Motion) (m : Motion) :
    exec stepMotion s (motions ++ [m]) = stepMotion s m :=
  exec_concat_of_absorbing (fun _ m hs => grabs_stepMotion hs m)
    (fun _ m m' hs => stepMotion_absorbs m m' hs) h motions m

end Motions

/-- What a sequence of motions does to the toplevel that is grabbed. -/
structure DragLaw (s : ZenCompositor) (t : ToplevelId) (g : Grab) (motions : List Motion) :
    Prop where
  /-- the position depends on the last position of the cursor alone -/
  follows : motions ≠ [] ∨ FollowsCursor s t g → FollowsCursor (exec stepMotion s motions) t g
  cursor : ∀ m ∈ motions.getLast?, (exec stepMotion s motions).cursorX = m.x ∧
    (exec stepMotion s motions).cursorY = m.y
  /-- other motions to the same place lead to the same windows -/
  pathIndependent : ∀ m ∈ motions.getLast?, ∀ motions' : List Motion, ∀ m' ∈ motions'.getLast?,
    m.x = m'.x → m.y = m'.y →
    (exec stepMotion s motions).windows = (exec stepMotion s motions').windows
  composes : ∀ m m', exec stepMotion s (motions ++ [m, m']) = exec stepMotion s (motions ++ [m'])
  returns : ∀ m ∈ motions.getLast?, m.x = g.x → m.y = g.y →
    ∃ r, (exec stepMotion s motions).windows.heap t = some r ∧
      r.nodeX = g.nodeX ∧ r.nodeY = g.nodeY
  others : ∀ u, u ≠ t → (exec stepMotion s motions).windows.heap u = s.windows.heap u

section Law

variable {s : ZenCompositor} {t : ToplevelId} {g : Grab}

theorem truncToInt_zero : truncToInt 0 = 0 :=
  rfl

theorem dragLaw_of_grabs (h : s.windows.Grabs t g) (motions : List Motion) :
    DragLaw s t g motions := by
  have hlast : ∀ {motions : List Motion}, ∀ m ∈ motions.getLast?,
      exec stepMotion s motions = stepMotion s m := by
    intro motions m hm
    obtain ⟨front, rfl⟩ := List.getLast?_eq_some_iff.mp hm
    exact exec_motions_concat h front m
  have hcursor : ∀ m, (stepMotion s m).cursorX = m.x ∧ (stepMotion s m).cursorY = m.y := by
    intro m
    rw [stepMotion_eq h m]
    exact ⟨rfl, rfl⟩
  refine ⟨?_, ?_, ?_, ?_, ?_, ?_⟩
  · intro hfollows
    rcases List.eq_nil_or_concat motions with rfl | ⟨front, m, rfl⟩
    · exact hfollows.resolve_left fun hne => hne rfl
    · rw [List.concat_eq_append, exec_motions_concat h]
      exact followsCursor_stepMotion h m
  · intro m hm
    rw [hlast m hm]
    exact hcursor m
  · intro m hm motions' m' hm' hx hy
    rw [hlast m hm, hlast m' hm', stepMotion_eq h m, stepMotion_eq h m', hx, hy]
  · intro m m'
    have happend : motions ++ [m, m'] = motions ++ [m] ++ [m'] := by simp
    rw [happend, exec_motions_concat h, exec_motions_concat h]
  · intro m hm hx hy
    obtain ⟨r, hr, hnodeX, hnodeY⟩ := followsCursor_stepMotion h m
    rw [(hcursor m).1, hx, sub_self, truncToInt_zero, Int.add_zero] at hnodeX
    rw [(hcursor m).2, hy, sub_self, truncToInt_zero, Int.add_zero] at hnodeY
    exact ⟨r, by rw [hlast m hm, hr], hnodeX, hnodeY⟩
  · intro u hu
    rcases List.eq_nil_or_concat motions with rfl | ⟨front, m, rfl⟩
    · rfl
    · rw [List.concat_eq_append, exec_motions_concat h, stepMotion_eq h m]
      dsimp only
      rw [Windows.modify_heap, if_neg hu]

/-- From the beginning of a grab, and whatever happens while it is held, motions move the
window by the way from where the grab began to where the cursor is now. -/
theorem drag_law {r : ZenToplevel} (hr : s.windows.heap t = some r) :
    FollowsCursor (step s (.requestMove t)) t (grabOf s r) ∧
      ∀ during : List Event,
        Along step (fun s e => Admissible s e ∧ KeepsGrab t e) (step s (.requestMove t)) during →
        ∀ motions, DragLaw (exec step (step s (.requestMove t)) during) t (grabOf s r)
          motions := by
  obtain ⟨hgrabs, hheap⟩ := grabs_requestMove hr
  constructor
  · have hcursor : (step s (.requestMove t)).cursorX = s.cursorX ∧
        (step s (.requestMove t)).cursorY = s.cursorY := by
      change (handleToplevelRequestMove { s with calls := [] } t).cursorX = _ ∧
        (handleToplevelRequestMove { s with calls := [] } t).cursorY = _
      rw [handleToplevelRequestMove]
      simp only [hr]
      exact ⟨trivial, trivial⟩
    refine ⟨r, by rw [hheap, hr], ?_, ?_⟩
    · rw [hcursor.1]
      change r.nodeX = r.nodeX + truncToInt (s.cursorX - s.cursorX)
      rw [sub_self, truncToInt_zero, Int.add_zero]
    · rw [hcursor.2]
      change r.nodeY = r.nodeY + truncToInt (s.cursorY - s.cursorY)
      rw [sub_self, truncToInt_zero, Int.add_zero]
  · intro during hduring motions
    have hheld := hduring.invariant (I := fun s' => s'.windows.Grabs t (grabOf s r))
      (fun _ _ h he => grabs_step h he.1 he.2) hgrabs
    exact dragLaw_of_grabs hheld motions

/-- A window is dragged along two steps and back, while another one is opened. -/
theorem drag_law_back :
    let s := exec step (created [] [] true) (showWindow 1 11 ++
      [.cursorMotion (1 / 2) (1 / 2) none, .cursorButton true none])
    let s' := exec step (step s (.requestMove 1)) (.newToplevel 2 12 true :: showWindow 3 13)
    ∃ r, s.windows.heap 1 = some r ∧
      DragLaw s' 1 (grabOf s r) [⟨-1, 5, none⟩, ⟨4 / 3, 1, none⟩, ⟨1 / 2, 1 / 2, none⟩] := by
  intro s s'
  obtain ⟨r, hr⟩ : ∃ r, s.windows.heap 1 = some r :=
    Option.isSome_iff_exists.mp (by decide +kernel)
  exact ⟨r, hr, (drag_law hr).2 _ (by decide +kernel) _⟩

end Law

end ZenOS.Compositor
