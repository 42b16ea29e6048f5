import Mathlib.Data.List.Induction
import ZenOS.Compositor.KeyPairing
import ZenOS.Compositor.KeyboardFocus

/-!
The keyboard of the seat when a key is forwarded.  Attaching a keyboard and its modifiers
events select it, and a key event selects nothing.
-/

namespace ZenOS.Compositor

open ZenOS.Library.Runs

/-- The keyboard that an event makes the seat's. -/
def Event.chooses : Event → Option KeyboardId
  | .newKeyboard k true | .modifiers k _ => some k
  | _ => none

def Event.detaches : Event → Option KeyboardId
  | .keyboardDestroy k => some k
  | _ => none

/-- The keyboard of a key event. -/
def Event.keyOf : Event → Option KeyboardId
  | .key k _ _ _ _ _ _ => some k
  | _ => none

/-- Since a keyboard was attached or last sent its modifiers, no other keyboard was
attached or sent its modifiers, and it was not detached. -/
def Selected (k : KeyboardId) (history : List Event) : Prop :=
  ∃ earlier e later, history = earlier ++ e :: later ∧ e.chooses = some k ∧
    ∀ e' ∈ later, (∀ k' ∈ e'.chooses, k' = k) ∧ e'.detaches ≠ some k

/-- A key event that is forwarded ends in a call of `wlr_seat_keyboard_notify_key` while its
own keyboard is the seat's. -/
def UnderOwnKeyboard (s : ZenCompositor) (e : Event) : Prop :=
  ∀ k ∈ e.keyOf, ∀ keycode pressed, e.edge = some (keycode, pressed) → forwards s e = true →
    ∃ s', step s e = wlrSeatKeyboardNotifyKey s' keycode pressed ∧ s'.seat.keyboard = some k

section Steps

variable {s : ZenCompositor}

theorem enterToplevel_keyboard (s : ZenCompositor) (t : ToplevelId) :
    (enterToplevel s t).seat.keyboard = s.seat.keyboard := by
  rw [enterToplevel]
  split
  · rw [wlrSeatKeyboardNotifyEnter_seat]
  · rfl

theorem zenXdgFocusToplevel_keyboard (s : ZenCompositor) (target : Option ToplevelId) :
    (zenXdgFocusToplevel s target).seat.keyboard = s.seat.keyboard := by
  have hseat := congrArg Seat.keyboard (deactivateFocused_seat s)
  rw [zenXdgFocusToplevel]
  split
  · rfl
  · cases target with
    | none => exact hseat
    | some t =>
        refine Eq.trans ?_ hseat
        exact enterToplevel_keyboard _ t

theorem step_keyboard (s : ZenCompositor) (e : Event) :
    (step s e).seat.keyboard =
      if e.chooses.isSome then e.chooses
      else if s.seat.keyboard = e.detaches then none
      else s.seat.keyboard := by
  have hunset : (if s.seat.keyboard = none then none else s.seat.keyboard) =
      s.seat.keyboard := by
    split
    · next h => exact h.symm
    · rfl
  rcases eq_or_ne e.owner .desktop with ho | ho
  · cases e with
    | newToplevel t surface ok => cases ok <;> exact hunset.symm
    | commit | requestResize | surfaceDestroy => exact hunset.symm
    | map t => exact (zenXdgFocusToplevel_keyboard _ _).trans hunset.symm
    | focus target => exact (zenXdgFocusToplevel_keyboard _ _).trans hunset.symm
    | unmap t =>
        refine Eq.trans ?_ hunset.symm
        change (handleToplevelUnmap _ t).seat.keyboard = _
        rw [handleToplevelUnmap]
        dsimp only
        split
        · exact zenXdgFocusToplevel_keyboard _ _
        · rfl
    | destroy t =>
        refine Eq.trans ?_ hunset.symm
        change (handleToplevelDestroy _ t).seat.keyboard = _
        rw [handleToplevelDestroy]
        dsimp only
        split <;> split
        all_goals first | exact zenXdgFocusToplevel_keyboard _ _ | rfl
    | requestMove t =>
        refine Eq.trans ?_ hunset.symm
        change (handleToplevelRequestMove _ t).seat.keyboard = _
        rw [handleToplevelRequestMove]
        split <;> rfl
    | requestMaximize t =>
        exact (congrArg Seat.keyboard (handleToplevelRequestMaximize_seat _ t)).trans
          hunset.symm
    | requestFullscreen t requested =>
        exact (congrArg Seat.keyboard (handleToplevelRequestFullscreen_seat _ t
          requested)).trans hunset.symm
    | newKeyboard k ok =>
        cases ok with
        | false => exact hunset.symm
        | true =>
            exact congrArg Seat.keyboard
              (wlrSeatSetKeyboard_seat (wlrKeyboardInit { s with calls := [] } k) k)
    | modifiers k state =>
        exact congrArg Seat.keyboard (wlrSeatSetKeyboard_seat
          (wlrKeyboardUpdateModifiers { s with calls := [] } k state) k)
    | keyboardDestroy k =>
        change (if s.seat.keyboard = some k then { s.seat with keyboard := none }
          else s.seat).keyboard = if s.seat.keyboard = some k then none else s.seat.keyboard
        split <;> rfl
    | cursorMotion x y hit => exact (handleCursorMotion_keyboard _ x y hit).1.trans hunset.symm
    | cursorButton pressed hit =>
        refine Eq.trans ?_ hunset.symm
        change (handleCursorButton _ pressed hit).seat.keyboard = _
        rw [handleCursorButton]
        dsimp only [wlrSeatPointerNotifyButton_eq]
        split
        · split
          · refine (zenXdgFocusToplevel_keyboard _ _).trans ?_
            split <;> rfl
          · split <;> rfl
        · split <;> rfl
    | _ => cases ho
  · have hseat : (step s e).seat = s.seat :=
      ((handle_writes { s with calls := [] } e).framed.seat ho)
    rw [hseat]
    cases e with
    | newKeyboard | modifiers | keyboardDestroy => exact absurd rfl ho
    | _ => exact hunset.symm

theorem underOwnKeyboard_iff (s : ZenCompositor) (e : Event) :
    UnderOwnKeyboard s e ↔ ∀ k ∈ e.keyOf, forwards s e = true → s.seat.keyboard = some k := by
  cases e with
  | key k keycode syms pressed modifiers bufferOk pam =>
      constructor
      · rintro h k' ⟨⟩ hforwards
        obtain ⟨s', hcall, hown⟩ := h k rfl keycode pressed rfl hforwards
        have hseat : (step s (.key k keycode syms pressed modifiers bufferOk pam)).seat.keyboard =
            s.seat.keyboard := by
          rw [step_keyboard]
          cases s.seat.keyboard <;> rfl
        rw [← hseat, hcall]
        exact hown
      · rintro h k' ⟨⟩ _ _ ⟨⟩ hforwards
        exact ⟨wlrKeyboardUpdate { s with calls := [] } k keycode pressed,
          handleKeyboardKey_of_forwards (k := k) _ keycode syms pressed modifiers bufferOk pam
            hforwards,
          h k rfl hforwards⟩
  | _ => exact iff_of_true (fun k hk => by cases hk) fun k hk => by cases hk

end Steps

section Runs

variable {k : KeyboardId} {s : ZenCompositor}

theorem selected_append_singleton (history : List Event) (e : Event) :
    Selected k (history ++ [e]) ↔
      e.chooses = some k ∨
        (e.chooses = none ∧ e.detaches ≠ some k ∧ Selected k history) := by
  constructor
  · rintro ⟨earlier, chosen, later, hsplit, hchosen, hlater⟩
    rcases List.eq_nil_or_concat later with rfl | ⟨later, last, rfl⟩
    · obtain ⟨-, hlast⟩ := List.append_inj' hsplit rfl
      obtain rfl : e = chosen := List.head_eq_of_cons_eq hlast
      exact .inl hchosen
    · rw [List.concat_eq_append] at hlater hsplit
      rw [← List.cons_append, ← List.append_assoc] at hsplit
      obtain ⟨hhistory, hlast⟩ := List.append_inj' hsplit rfl
      obtain rfl : e = last := List.head_eq_of_cons_eq hlast
      obtain ⟨hchooses, hdetaches⟩ := hlater e (by simp)
      cases hother : e.chooses with
      | some k' => exact .inl (congrArg some (hchooses k' hother))
      | none =>
          refine .inr ⟨rfl, hdetaches, earlier, chosen, later, hhistory, hchosen, ?_⟩
          exact fun e' he' => hlater e' (List.mem_append_left _ he')
  · rintro (hchooses | ⟨hnone, hdetaches, earlier, chosen, later, rfl, hchosen, hlater⟩)
    · refine ⟨history, e, [], rfl, hchooses, ?_⟩
      rintro e' ⟨⟩
    · refine ⟨earlier, chosen, later ++ [e], by simp, hchosen, fun e' he' => ?_⟩
      rcases List.mem_append.mp he' with he' | he'
      · exact hlater e' he'
      · obtain rfl : e' = e := List.mem_singleton.mp he'
        refine ⟨?_, hdetaches⟩
        rw [hnone]
        rintro k' ⟨⟩

theorem keyboard_eq_some_iff (hs : s.seat.keyboard = none) (events : List Event) :
    (exec step s events).seat.keyboard = some k ↔ Selected k events := by
  induction events using List.reverseRecOn with
  | nil =>
      rw [exec_nil, hs]
      refine iff_of_false (by rintro ⟨⟩) ?_
      rintro ⟨earlier, e, later, hsplit, -⟩
      simp at hsplit
  | append_singleton events e ih =>
      rw [exec_append, exec_cons, exec_nil, step_keyboard, selected_append_singleton, ← ih]
      cases hchooses : e.chooses with
      | some k' => simp
      | none =>
          simp only [Option.isSome_none, Bool.false_eq_true, if_false, reduceCtorEq, false_or,
            true_and]
          split
          · next hdetached =>
            refine iff_of_false (by rintro ⟨⟩) ?_
            rintro ⟨hother, hkeyboard⟩
            exact hother (hdetached.symm.trans hkeyboard)
          · next hkept =>
            refine ⟨fun hkeyboard => ⟨fun hdetaches => ?_, hkeyboard⟩, fun h => h.2⟩
            exact hkept (hkeyboard.trans hdetaches.symm)

/-- Every key that a run forwards is forwarded under its own keyboard, exactly when no other
keyboard was attached or sent its modifiers since the last time that this one did. -/
theorem run_underOwnKeyboard_iff (outputs : List Output) (bindings : List ZenKeybinding)
    (idleTimer : Bool) (events : List Event) :
    Along step UnderOwnKeyboard (created outputs bindings idleTimer) events ↔
      ∀ before e after, events = before ++ e :: after → ∀ k ∈ e.keyOf,
        forwards (exec step (created outputs bindings idleTimer) before) e = true →
          Selected k before := by
  rw [along_iff_split]
  refine forall₃_congr fun before e after => ?_
  rw [underOwnKeyboard_iff]
  refine imp_congr_right fun _ => forall₂_congr fun k _ => imp_congr_right fun _ => ?_
  exact keyboard_eq_some_iff rfl before

/-- Two keyboards are attached, and the first one types. -/
theorem key_under_other_keyboard :
    let events : List Event := [.newKeyboard 1 true, .newKeyboard 2 true]
    let key : Event := .key 1 30 [0x61] true 0 true fun _ _ => false
    let s := exec step (created [] [] true) events
    Along step Admissible (created [] [] true) (events ++ [key]) ∧ forwards s key = true ∧
      s.seat.keyboard = some 2 ∧
      ¬ Along step UnderOwnKeyboard (created [] [] true) (events ++ [key]) := by
  intro events key s
  have hforwards : forwards s key = true := by decide +kernel
  have hkeyboard : s.seat.keyboard = some 2 := by decide +kernel
  refine ⟨by decide +kernel, hforwards, hkeyboard, fun h => ?_⟩
  obtain ⟨-, -, hown, -⟩ := h
  have hsame := hkeyboard.symm.trans ((underOwnKeyboard_iff s key).mp hown 1 rfl hforwards)
  cases hsame

end Runs

end ZenOS.Compositor
