import ZenOS.Compositor.Calls
import ZenOS.Compositor.KeybindsDispatch
import ZenOS.Library.Runs

/-!
The programs that the compositor starts and the windows that it asks to close.  A fork may
fail, and the child executes the first of its programs that can be executed.
-/

namespace ZenOS.Compositor

open ZenOS.Library.Runs

/-- What the system says to the calls that start a program. -/
structure Launching where
  forks : Bool
  executes : List String → Bool

inductive Effect where
  | starts (argv : List String)
  | asksToClose (t : ToplevelId)
  deriving DecidableEq

/-- The child calls `execvp` for one program after the other; the call returns only when it
fails, and after the last one the child exits with 127. -/
def Launching.child (system : Launching) (programs : List (List String)) :
    Option (List String) :=
  programs.find? system.executes

def Call.effect (system : Launching) : Call → Option Effect
  | .fork programs =>
      if system.forks then (system.child programs).map .starts else none
  | .sendClose t => some (.asksToClose t)
  | _ => none

/-- The call forks, or asks a client to close its window. -/
def Call.isCommand : Call → Bool
  | .fork _ | .sendClose _ => true
  | _ => false

/-- What a binding calls. -/
def bindingCommands (focused : Option ToplevelId) (b : ZenKeybinding) : List Call :=
  match b.action with
  | .launchTerminal => [.fork [["foot"], ["xterm"]]]
  | .closeWindow => (focused.map Call.sendClose).toList
  | .custom =>
      ((b.customCmd.filter (· ≠ "")).map fun cmd => Call.fork [["sh", "-c", cmd]]).toList
  | .toggleLauncher | .lockScreen | .switchWindow => []

/-- What a binding starts or closes: a terminal is `foot`, or `xterm` where `foot` cannot be
executed. -/
def bindingEffects (system : Launching) (focused : Option ToplevelId) (b : ZenKeybinding) :
    List Effect :=
  match b.action with
  | .launchTerminal =>
      if !system.forks then []
      else if system.executes ["foot"] then [.starts ["foot"]]
      else if system.executes ["xterm"] then [.starts ["xterm"]]
      else []
  | .closeWindow => (focused.map Effect.asksToClose).toList
  | .custom =>
      match b.customCmd with
      | none => []
      | some cmd =>
          if cmd ≠ "" ∧ system.forks = true ∧ system.executes ["sh", "-c", cmd] = true then
            [.starts ["sh", "-c", cmd]]
          else []
  | .toggleLauncher | .lockScreen | .switchWindow => []

/-- The binding that a key press selects: for the first of its keysyms that is bound, the
first of the registry. -/
def selectedBinding (keybindings : List ZenKeybinding) (modifiers : UInt32)
    (syms : List UInt32) : Option ZenKeybinding :=
  syms.findSome? fun keysym =>
    keybindings.find? fun b => b.modifiers == modifiers && b.keysym == keysym

/-- The bindings that an event runs: only the press of a key does, and only while the screen is
not locked. -/
def bindingsRun (keybindings : List ZenKeybinding) (s : ZenCompositor) :
    Event → List ZenKeybinding
  | .key _ _ syms true modifiers _ _ =>
      if s.lock.locked then [] else (selectedBinding keybindings modifiers syms).toList
  | _ => []

def commands (keybindings : List ZenKeybinding) (s : ZenCompositor) (e : Event) : List Call :=
  (bindingsRun keybindings s e).flatMap (bindingCommands s.windows.focusedToplevel)

/-- What an event starts or closes. -/
def effects (system : Launching) (keybindings : List ZenKeybinding) (s : ZenCompositor)
    (e : Event) : List Effect :=
  (bindingsRun keybindings s e).flatMap (bindingEffects system s.windows.focusedToplevel)

theorem Call.isCommand_of_effect {system : Launching} {c : Call}
    (h : (c.effect system).isSome = true) : c.isCommand = true := by
  cases c <;> first | rfl | cases h

theorem filterMap_effect_filter (system : Launching) (calls : List Call) :
    (calls.filter Call.isCommand).filterMap (Call.effect system) =
      calls.filterMap (Call.effect system) := by
  rw [List.filterMap_filter]
  refine List.filterMap_congr fun c _ => ?_
  rcases hc : c.isCommand with _ | _
  · rcases he : c.effect system with _ | effect
    · rfl
    · have hcommand : c.isCommand = true :=
        Call.isCommand_of_effect (show (c.effect system).isSome = true by simp [he])
      rw [hcommand] at hc
      cases hc
  · rfl

theorem bindingCommands_effects (system : Launching) (focused : Option ToplevelId)
    (b : ZenKeybinding) :
    (bindingCommands focused b).filterMap (Call.effect system) =
      bindingEffects system focused b := by
  rcases b with ⟨modifiers, keysym, action, customCmd⟩
  rcases hf : system.forks with _ | _
  · cases action with
    | custom =>
        rcases customCmd with _ | cmd
        · rfl
        · rcases eq_or_ne cmd "" with rfl | hcmd <;>
            simp [bindingCommands, bindingEffects, Call.effect, Option.filter, *]
    | closeWindow => cases focused <;> simp [bindingCommands, bindingEffects, Call.effect]
    | _ => simp [bindingCommands, bindingEffects, Call.effect, hf]
  · cases action with
    | launchTerminal =>
        rcases hfoot : system.executes ["foot"] with _ | _ <;>
          rcases hxterm : system.executes ["xterm"] with _ | _ <;>
          simp [bindingCommands, bindingEffects, Call.effect, Launching.child, *]
    | custom =>
        rcases customCmd with _ | cmd
        · rfl
        · rcases eq_or_ne cmd "" with rfl | hcmd
          · simp [bindingCommands, bindingEffects, Option.filter]
          · rcases hsh : system.executes ["sh", "-c", cmd] with _ | _ <;>
              simp [bindingCommands, bindingEffects, Call.effect, Launching.child,
                Option.filter, *]
    | closeWindow => cases focused <;> simp [bindingCommands, bindingEffects, Call.effect]
    | _ => simp [bindingCommands, bindingEffects]

theorem commands_effects (system : Launching) (keybindings : List ZenKeybinding)
    (s : ZenCompositor) (e : Event) :
    (commands keybindings s e).filterMap (Call.effect system) =
      effects system keybindings s e := by
  rw [commands, effects, List.filterMap_flatMap]
  exact congrArg (List.flatMap · _) (funext fun b => bindingCommands_effects system _ b)

theorem filter_isCommand_of_emits {P : Call → Prop} {s s' : ZenCompositor}
    (h : Emits P s s') (hs : s.calls = []) (hP : ∀ c, P c → c.isCommand = false) :
    s'.calls.filter Call.isCommand = [] := by
  rw [List.filter_eq_nil_iff]
  intro c hc
  rcases h c hc with hc | hc
  · rw [hs] at hc
    cases hc
  · simp [hP c hc]

theorem Call.isCommand_of_isDesktop {c : Call} (h : c.isDesktop) : c.isCommand = false := by
  cases c with
  | fork | sendClose => rcases h with h | h <;> exact absurd h id
  | _ => rfl

/-- What the lock screen itself calls: PAM, its timer, and the end of a session lock. -/
def Call.isUnlocking : Call → Prop
  | .sessionLockDestroy _ | .pamAuthenticate .. | .timerUpdate _ => True
  | _ => False

theorem Call.isCommand_of_isUnlocking {c : Call} (h : c.isUnlocking) : c.isCommand = false := by
  cases c with
  | fork | sendClose => exact absurd h id
  | _ => rfl

theorem zenLockDeactivate_emits_unlocking (s : ZenCompositor) :
    Emits Call.isUnlocking s (zenLockDeactivate s) := by
  cases h : s.lock.locked with
  | false => exact .of_eq (by simp [zenLockDeactivate, h])
  | true =>
      refine .of_append (zenLockDeactivate_calls h) fun c hc => ?_
      rcases List.mem_append.mp hc with hc | hc
      · obtain ⟨lock, -, rfl⟩ := Option.map_eq_some_iff.mp (Option.mem_toList.mp hc)
        trivial
      · split at hc
        · rw [List.mem_singleton.mp hc]
          trivial
        · cases hc

theorem zenLockHandleKey_emits_unlocking (s : ZenCompositor) (keysym : UInt32)
    (pressed : Bool) (pam : Nat → List UInt8 → Bool) :
    Emits Call.isUnlocking s (zenLockHandleKey s keysym pressed pam).1 := by
  rw [zenLockHandleKey]
  split
  · exact .refl s
  split
  · split <;> exact .of_eq rfl
  split
  · have ask : Emits Call.isUnlocking s (pamAuthenticatePassword s pam).1 :=
      .of_append rfl (by simp [Call.isUnlocking])
    generalize pamAuthenticatePassword s pam = answer at ask ⊢
    obtain ⟨s', success⟩ := answer
    cases success with
    | false => exact ask.trans (.of_eq rfl)
    | true => exact ask.trans (zenLockDeactivate_emits_unlocking s')
  split
  · exact .of_eq rfl
  split
  · split <;> exact .of_eq rfl
  · exact .refl s

theorem handleLockedSyms_emits_unlocking (s : ZenCompositor) (pressed : Bool)
    (pam : Nat → List UInt8 → Bool) (syms : List UInt32) :
    Emits Call.isUnlocking s (handleLockedSyms s pressed pam syms) := by
  induction syms generalizing s with
  | nil => exact .refl s
  | cons keysym syms ih =>
      exact (zenLockHandleKey_emits_unlocking s keysym pressed pam).trans (ih _)

theorem executeAction_commands (s : ZenCompositor) (b : ZenKeybinding) (bufferOk : Bool) :
    (executeAction s b.action b.customCmd bufferOk).calls.filter Call.isCommand =
      s.calls.filter Call.isCommand ++ bindingCommands s.windows.focusedToplevel b := by
  rw [bindingCommands]
  rcases b with ⟨modifiers, keysym, action, customCmd⟩
  cases action with
  | launchTerminal => exact List.filter_append ..
  | lockScreen =>
      rw [executeAction, zenLockActivate_calls, List.append_nil]
  | closeWindow =>
      rw [executeAction]
      rcases hf : s.windows.focusedToplevel with _ | t
      · exact (List.append_nil _).symm
      · exact List.filter_append ..
  | custom =>
      rcases customCmd with _ | cmd
      · exact (List.append_nil _).symm
      · simp only [executeAction]
        split
        · next hempty => simp [hempty]
        · next hcmd => simp [Option.filter, hcmd, Call.isCommand]
  | toggleLauncher | switchWindow => exact (List.append_nil _).symm

theorem firstBinding_eq_selectedBinding (s : ZenCompositor) (modifiers : UInt32)
    (syms : List UInt32) :
    firstBinding s modifiers syms = selectedBinding s.keybindings modifiers syms :=
  rfl

theorem handleKeyboardKey_commands (s : ZenCompositor) (hs : s.calls = [])
    (k : KeyboardId) (keycode : UInt32) (syms : List UInt32) (pressed : Bool)
    (modifiers : UInt32) (bufferOk : Bool) (pam : Nat → List UInt8 → Bool) :
    (handleKeyboardKey s keycode syms pressed modifiers bufferOk pam).calls.filter
        Call.isCommand =
      commands s.keybindings s (.key k keycode syms pressed modifiers bufferOk pam) := by
  have notifyKey : (wlrSeatKeyboardNotifyKey s keycode pressed).calls.filter
      Call.isCommand = [] := by
    refine filter_isCommand_of_emits (P := fun c => c.isCommand = false) ?_ hs fun _ => id
    exact .of_append rfl (mem_focus_call fun _ => rfl)
  rw [handleKeyboardKey]
  split
  · next hl =>
      have hnone : commands s.keybindings s
          (.key k keycode syms pressed modifiers bufferOk pam) = [] := by
        cases pressed <;> simp [commands, bindingsRun, hl]
      rw [hnone]
      exact filter_isCommand_of_emits (handleLockedSyms_emits_unlocking s pressed pam syms) hs
        fun _ => Call.isCommand_of_isUnlocking
  · next hl =>
      cases pressed with
      | false => exact notifyKey
      | true =>
          simp only [if_true, handleKeybindingSyms_eq, commands, bindingsRun, hl,
            Bool.false_eq_true, if_false, ← firstBinding_eq_selectedBinding]
          rcases firstBinding s modifiers syms with _ | b
          · exact notifyKey
          · simp [executeAction_commands, hs]

theorem step_commands (s : ZenCompositor) (e : Event) :
    (step s e).calls.filter Call.isCommand = commands s.keybindings s e := by
  by_cases ho : e.owner = .lock
  · cases e with
    | key k keycode syms pressed modifiers bufferOk pam =>
        exact handleKeyboardKey_commands (wlrKeyboardUpdate { s with calls := [] } k keycode
          pressed) rfl k keycode syms pressed modifiers bufferOk pam
    | idleTimeout bufferOk | lockSignal bufferOk =>
        exact congrArg (List.filter Call.isCommand)
          (zenLockActivate_calls { s with calls := [] } bufferOk)
    | newLock lock => rfl
    | _ => cases ho
  · have hnone : commands s.keybindings s e = [] := by
      cases e with
      | key => exact absurd rfl ho
      | _ => rfl
    rw [hnone]
    exact filter_isCommand_of_emits (handle_emits_desktop { s with calls := [] } ho) rfl
      fun _ => Call.isCommand_of_isDesktop

theorem step_effects (system : Launching) (s : ZenCompositor) (e : Event) :
    (step s e).calls.filterMap (Call.effect system) = effects system s.keybindings s e := by
  rw [← filterMap_effect_filter, step_commands, commands_effects]

/-- In every run and at every event, whichever forks fail and whichever programs can be
executed, the programs started and the windows asked to close are exactly what the selected
binding of a key pressed on an unlocked screen says, for the registry as it was loaded at the
start. -/
theorem run_effects (outputs : List Output) (bindings : List ZenKeybinding)
    (idleTimer : Bool) (events : List (Event × Launching)) :
    Along (fun s e => step s e.1) (fun s e => (step s e.1).calls.filterMap (Call.effect e.2) =
        effects e.2 (defaultBindings ++ bindings) s e.1)
      (created outputs bindings idleTimer) events := by
  refine Along.of_invariant (P := fun _ _ => True)
    (I := fun s => s.keybindings = defaultBindings ++ bindings)
    (fun s e hs _ => ?_) (fun s e hs _ => ?_) (along_true _ _) rfl
  · exact ((handle_writes { s with calls := [] } e.1).keybindings).trans hs
  · rw [← hs]
    exact step_effects e.2 s e.1

end ZenOS.Compositor
