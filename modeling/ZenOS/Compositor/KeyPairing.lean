import ZenOS.Compositor.Calls
import ZenOS.Library.Runs

/-!
Presses and releases of a key as clients see them.  A run is observed together with the
latest press of every key.
-/

namespace ZenOS.Compositor

open ZenOS.Library.Runs

def bindsSyms (s : ZenCompositor) (modifiers : UInt32) (syms : List UInt32) : Bool :=
  syms.any fun keysym => (matchingBinding s modifiers keysym).isSome

/-- The event is passed to `wlr_seat_keyboard_notify_key`. -/
def forwards (s : ZenCompositor) : Event → Bool
  | .key _ _ syms pressed modifiers _ _ =>
      !s.lock.locked && !(pressed && bindsSyms s modifiers syms)
  | _ => false

/-- A key press: whether it found the screen locked, whether a binding consumed it, and
whether it was forwarded. -/
structure Press where
  locked : Bool
  bound : Bool
  forwarded : Bool
  deriving DecidableEq

/-- The latest press of every key of every keyboard. -/
abbrev Presses := KeyboardId → UInt32 → Option Press

def recordPress (s : ZenCompositor) (presses : Presses) (e : Event) : Presses :=
  match e with
  | .key k keycode syms true modifiers _ _ =>
      Function.update presses k (Function.update (presses k) keycode (some
        { locked := s.lock.locked
          bound := !s.lock.locked && bindsSyms s modifiers syms
          forwarded := forwards s e }))
  | .keyboardDestroy k => Function.update presses k fun _ => none
  | _ => presses

def stepObserved (p : ZenCompositor × Presses) (e : Event) : ZenCompositor × Presses :=
  (step p.1 e, recordPress p.1 p.2 e)

theorem exec_stepObserved_fst (p : ZenCompositor × Presses) (events : List Event) :
    (exec stepObserved p events).1 = exec step p.1 events :=
  exec_fst (fun _ _ => rfl) p events

/-- The latest press of the key that the event releases. -/
def pressOf (presses : Presses) : Event → Option Press
  | .key k keycode _ false _ _ _ => presses k keycode
  | _ => none

/-- A release is forwarded exactly when the press before it was. -/
def Paired (p : ZenCompositor × Presses) (e : Event) : Prop :=
  ∀ press ∈ pressOf p.2 e, forwards p.1 e = press.forwarded

instance (p : ZenCompositor × Presses) (e : Event) : Decidable (Paired p e) :=
  inferInstanceAs (Decidable (∀ press ∈ pressOf p.2 e, forwards p.1 e = press.forwarded))

/-- A press or a release of a key. -/
def Event.edge : Event → Option (UInt32 × Bool)
  | .key _ keycode _ pressed _ _ _ => some (keycode, pressed)
  | _ => none

/-- The client with the keyboard focus is told of what is forwarded, and no client of any
other key.  Nothing is forwarded while the screen is locked.  A release is paired with the
press before it, unless a binding consumed that press or the screen has been locked or
unlocked since. -/
structure PairedWhileSame (p : ZenCompositor × Presses) (e : Event) : Prop where
  told : ∀ surface keycode pressed,
    .keyboardKey surface keycode pressed ∈ (step p.1 e).calls ↔
      forwards p.1 e = true ∧ e.edge = some (keycode, pressed) ∧
        p.1.seat.keyboardFocus = some surface
  confined : p.1.lock.locked = true → forwards p.1 e = false
  paired : ∀ press ∈ pressOf p.2 e, press.bound = false →
    press.locked = p.1.lock.locked → forwards p.1 e = press.forwarded

section Handler

variable (s : ZenCompositor) (keycode : UInt32) (syms : List UInt32) (pressed : Bool)
  (modifiers : UInt32) (bufferOk : Bool) (pam : Nat → List UInt8 → Bool)

theorem handleKeybindingSyms_snd :
    (handleKeybindingSyms s modifiers bufferOk syms).2 = bindsSyms s modifiers syms := by
  induction syms with
  | nil => rfl
  | cons keysym syms ih =>
      unfold handleKeybindingSyms zenKeybindsHandleKey
      rw [bindsSyms, List.any_cons]
      cases matchingBinding s modifiers keysym with
      | none => exact ih
      | some b => rfl

theorem handleKeybindingSyms_of_not_binds (h : bindsSyms s modifiers syms = false) :
    handleKeybindingSyms s modifiers bufferOk syms = (s, false) := by
  induction syms with
  | nil => rfl
  | cons keysym syms ih =>
      rw [bindsSyms, List.any_cons, Bool.or_eq_false_iff, Option.isSome_eq_false_iff,
        Option.isNone_iff_eq_none] at h
      rw [handleKeybindingSyms, zenKeybindsHandleKey, h.1]
      exact ih h.2

theorem handleKeyboardKey_of_forwards {k : KeyboardId}
    (h : forwards s (.key k keycode syms pressed modifiers bufferOk pam) = true) :
    handleKeyboardKey s keycode syms pressed modifiers bufferOk pam =
      wlrSeatKeyboardNotifyKey s keycode pressed := by
  simp only [forwards, Bool.and_eq_true, Bool.not_eq_true'] at h
  obtain ⟨hlocked, hbinds⟩ := h
  rw [handleKeyboardKey, if_neg (by simp [hlocked])]
  cases pressed with
  | false => rfl
  | true =>
      rw [if_pos rfl, handleKeybindingSyms_of_not_binds s syms modifiers bufferOk hbinds]
      rfl

theorem handleKeyboardKey_of_not_forwards {k : KeyboardId}
    (h : forwards s (.key k keycode syms pressed modifiers bufferOk pam) = false) :
    Emits Call.isKeyAction s
      (handleKeyboardKey s keycode syms pressed modifiers bufferOk pam) := by
  rw [handleKeyboardKey]
  split
  · exact handleLockedSyms_emits s pressed pam syms
  · next hlocked =>
    simp only [forwards, Bool.not_eq_true] at h hlocked
    cases pressed with
    | false => simp [hlocked] at h
    | true =>
        have hbinds : bindsSyms s modifiers syms = true := by simpa [hlocked] using h
        have hconsumed := handleKeybindingSyms_snd s syms modifiers bufferOk
        have hemits := handleKeybindingSyms_emits s modifiers bufferOk syms
        rw [if_pos rfl]
        rw [hbinds] at hconsumed
        generalize handleKeybindingSyms s modifiers bufferOk syms = result at hconsumed hemits ⊢
        obtain ⟨s', consumed⟩ := result
        obtain rfl : consumed = true := hconsumed
        exact hemits

end Handler

/-- A client is told of a key exactly if the event is forwarded and the client has the
keyboard focus. -/
theorem mem_step_keyboardKey_iff (s : ZenCompositor) (e : Event) (surface : SurfaceId)
    (keycode : UInt32) (pressed : Bool) :
    .keyboardKey surface keycode pressed ∈ (step s e).calls ↔
      forwards s e = true ∧ e.edge = some (keycode, pressed) ∧
        s.seat.keyboardFocus = some surface := by
  have hother : ∀ {P : Call → Prop}, ¬ P (.keyboardKey surface keycode pressed) →
      Emits P { s with calls := [] } (step s e) →
        .keyboardKey surface keycode pressed ∉ (step s e).calls := by
    intro P hP hemits hmem
    exact (hemits _ hmem).elim List.not_mem_nil hP
  by_cases ho : e.owner = .lock
  · cases e with
    | key k keycode' syms pressed' modifiers bufferOk pam =>
        cases hf : forwards s (.key k keycode' syms pressed' modifiers bufferOk pam) with
        | false =>
            refine iff_of_false (hother (P := Call.isKeyAction) id ?_) (by simp)
            exact handleKeyboardKey_of_not_forwards (k := k)
              (wlrKeyboardUpdate { s with calls := [] } k keycode' pressed') keycode' syms
              pressed' modifiers bufferOk pam hf
        | true =>
            have htold := handleKeyboardKey_of_forwards (k := k)
              (wlrKeyboardUpdate { s with calls := [] } k keycode' pressed') keycode' syms
              pressed' modifiers bufferOk pam hf
            change _ ∈ (handleKeyboardKey _ _ _ _ _ _ _).calls ↔ _
            rw [htold]
            simp only [wlrSeatKeyboardNotifyKey_eq, wlrKeyboardUpdate, List.nil_append,
              Option.mem_toList, Option.map_eq_some_iff, Call.keyboardKey.injEq, Event.edge,
              Option.some.injEq, Prod.mk.injEq, true_and]
            constructor
            · rintro ⟨_, hfocus, rfl, rfl, rfl⟩
              exact ⟨⟨rfl, rfl⟩, hfocus⟩
            · rintro ⟨⟨rfl, rfl⟩, hfocus⟩
              exact ⟨surface, hfocus, rfl, rfl, rfl⟩
    | idleTimeout bufferOk | lockSignal bufferOk =>
        refine iff_of_false (hother (P := fun _ => False) id ?_) (by simp [forwards])
        exact .of_eq (zenLockActivate_calls _ _)
    | newLock lock => simp [step, handle, handleNewLock, forwards]
    | _ => cases ho
  · refine iff_of_false (hother (P := Call.isDesktop) ?_ (handle_emits_desktop _ ho)) ?_
    · rintro (h | h) <;> exact h
    · cases e with
      | key => exact absurd rfl ho
      | _ => simp [forwards]

/-- What is known of a press decides whether it was forwarded. -/
def Presses.Explained (presses : Presses) : Prop :=
  ∀ k keycode, ∀ press ∈ presses k keycode,
    press.forwarded = (!press.locked && !press.bound)

section Runs

variable {p : ZenCompositor × Presses}

theorem Presses.Explained.update (h : p.2.Explained) (k : KeyboardId)
    {presses : UInt32 → Option Press}
    (hk : ∀ keycode, ∀ press ∈ presses keycode,
      press.forwarded = (!press.locked && !press.bound)) :
    Presses.Explained (Function.update p.2 k presses) := by
  intro k' keycode press hpress
  by_cases hkeyboard : k' = k
  · subst hkeyboard
    rw [Function.update_self] at hpress
    exact hk keycode press hpress
  · rw [Function.update_of_ne hkeyboard] at hpress
    exact h k' keycode press hpress

theorem stepObserved_explained (h : p.2.Explained) (e : Event) :
    (stepObserved p e).2.Explained := by
  unfold stepObserved recordPress
  split
  · next k keycode syms modifiers _ _ =>
      refine h.update k fun keycode' press hpress => ?_
      by_cases hkey : keycode' = keycode
      · subst hkey
        rw [Function.update_self] at hpress
        cases hpress
        rw [forwards]
        cases p.1.lock.locked <;> rfl
      · rw [Function.update_of_ne hkey] at hpress
        exact h k keycode' press hpress
  · next k => exact h.update k fun _ _ hpress => by cases hpress
  · exact h

theorem forwards_of_pressOf {e : Event} {press : Press} (h : press ∈ pressOf p.2 e) :
    forwards p.1 e = !p.1.lock.locked := by
  unfold pressOf at h
  split at h
  · rw [forwards, Bool.false_and, Bool.not_false, Bool.and_true]
  · cases h

theorem forwards_of_locked (s : ZenCompositor) (e : Event) (h : s.lock.locked = true) :
    forwards s e = false := by
  unfold forwards
  split
  · rw [h]
    rfl
  · rfl

theorem pairedWhileSame (h : p.2.Explained) (e : Event) : PairedWhileSame p e where
  told := mem_step_keyboardKey_iff p.1 e
  confined := forwards_of_locked p.1 e
  paired := by
    intro press hpress hbound hsame
    have hexplained : press.forwarded = (!press.locked && !press.bound) := by
      unfold pressOf at hpress
      split at hpress
      · exact h _ _ press hpress
      · cases hpress
    rw [forwards_of_pressOf hpress, hexplained, hbound, hsame, Bool.not_false, Bool.and_true]

/-- In every run, from any state and with any registry, the client with the focus is told of
what is forwarded, nothing is forwarded while the screen is locked, and a key's release
follows its latest press unless a binding consumed that press or the screen has been locked
or unlocked since. -/
theorem run_pairedWhileSame (s : ZenCompositor) (events : List Event) :
    Along stepObserved PairedWhileSame (s, fun _ _ => none) events := by
  have halong : Along stepObserved (fun _ _ => True) (s, fun _ _ => none) events :=
    along_true _ _
  have hstart : Presses.Explained fun _ _ => none := by
    rintro k keycode press ⟨⟩
  exact (along_iff_along (I := fun p => p.2.Explained) (C := fun _ _ => True)
    (fun p e h _ _ => stepObserved_explained h e)
    (fun p e h _ => iff_true_intro (pairedWhileSame h e)) halong hstart).mpr halong

/-- The press of Super+Q is consumed and its release forwarded, and the screen gets locked
over a pressed key. -/
theorem release_without_press :
    let s := created [] [] true
    let press (keycode keysym modifiers : UInt32) (pressed : Bool) : Event :=
      .key 1 keycode [keysym] pressed modifiers true fun _ _ => false
    ¬ Along stepObserved Paired (s, fun _ _ => none)
        [press 16 0x71 wlrModifierLogo true, press 16 0x71 wlrModifierLogo false] ∧
      ¬ Along stepObserved Paired (s, fun _ _ => none)
        [press 30 0x61 0 true, .idleTimeout true, press 30 0x61 0 false] := by
  decide

end Runs

end ZenOS.Compositor
