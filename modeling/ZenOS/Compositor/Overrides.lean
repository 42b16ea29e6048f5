import ZenOS.Compositor.KeybindsConfig
import ZenOS.Compositor.Step

/-!
Several bindings of one key combination: which of them `zen_keybinds_handle_key` runs.
-/

namespace ZenOS.Compositor

/-- `register_binding`: insertion before the head of the list is insertion at its end. -/
def registerBinding (keybindings : List ZenKeybinding) (b : ZenKeybinding) :
    List ZenKeybinding :=
  keybindings ++ [b]

def registered (registrations : List ZenKeybinding) : List ZenKeybinding :=
  registrations.foldl registerBinding []

/-- What was registered for a combination, oldest first. -/
def bound (registrations : List ZenKeybinding) (modifiers keysym : UInt32) :
    List ZenKeybinding :=
  registrations.filter fun b => b.modifiers = modifiers ∧ b.keysym = keysym

/-- The command that a custom binding executes: an empty one is none. -/
def ZenKeybinding.command (b : ZenKeybinding) : Option String :=
  b.customCmd.filter (· ≠ "")

/-- What `execute_action` runs for a binding; the command of a binding that is not custom has
no part in it. -/
def ZenKeybinding.run (b : ZenKeybinding) : ZenKeybindAction × Option String :=
  (b.action, if b.action = .custom then b.command else none)

/-- What `zen_keybinds_handle_key` runs. -/
def executed (s : ZenCompositor) (modifiers keysym : UInt32) :
    Option (ZenKeybindAction × Option String) :=
  (matchingBinding s modifiers keysym).map ZenKeybinding.run

/-- The most recent registration of a combination decides what it does. -/
structure Overrides (s : ZenCompositor) (registrations : List ZenKeybinding)
    (modifiers keysym : UInt32) : Prop where
  runs : executed s modifiers keysym =
    (bound registrations modifiers keysym).getLast?.map ZenKeybinding.run
  returns : ∀ bufferOk, (zenKeybindsHandleKey s modifiers keysym bufferOk).2 = false ↔
    ∀ b ∈ registrations, ¬ (b.modifiers = modifiers ∧ b.keysym = keysym)

section

variable {registrations : List ZenKeybinding} {modifiers keysym : UInt32}

theorem registered_eq (registrations : List ZenKeybinding) :
    registered registrations = registrations := by
  have happend : ∀ keybindings, registrations.foldl registerBinding keybindings =
      keybindings ++ registrations := by
    induction registrations with
    | nil => simp
    | cons b registrations ih =>
        intro keybindings
        rw [List.foldl_cons, ih, registerBinding, List.append_assoc, List.singleton_append]
  exact happend []

theorem matchingBinding_registered (s : ZenCompositor) :
    matchingBinding { s with keybindings := registered registrations } modifiers keysym =
      (bound registrations modifiers keysym).head? := by
  rw [registered_eq, bound, List.head?_filter, matchingBinding]
  congr
  funext b
  rw [Bool.decide_and]
  rfl

theorem executeAction_run (s : ZenCompositor) (b : ZenKeybinding) (bufferOk : Bool) :
    executeAction s b.action b.customCmd bufferOk =
      executeAction s b.run.1 b.run.2 bufferOk := by
  obtain ⟨modifiers, keysym, action, customCmd⟩ := b
  cases action with
  | custom =>
      rcases customCmd with _ | cmd
      · rfl
      · rcases eq_or_ne cmd "" with rfl | hcmd
        · rfl
        · simp [ZenKeybinding.run, ZenKeybinding.command, Option.filter, hcmd]
  | _ => rfl

theorem run_eq_iff {first last : ZenKeybinding} :
    first.run = last.run ↔ first.action = last.action ∧
      (first.action = .custom → first.command = last.command) := by
  rw [ZenKeybinding.run, ZenKeybinding.run, Prod.mk.injEq]
  refine and_congr_right fun haction => ?_
  rw [← haction]
  by_cases hcustom : first.action = .custom
  · rw [if_pos hcustom, if_pos hcustom]
    exact ⟨fun h _ => h, fun h => h hcustom⟩
  · rw [if_neg hcustom, if_neg hcustom]
    exact ⟨fun _ h => absurd h hcustom, fun _ => rfl⟩

theorem zenKeybindsHandleKey_executed (s : ZenCompositor) (bufferOk : Bool) :
    zenKeybindsHandleKey s modifiers keysym bufferOk =
      match executed s modifiers keysym with
      | some (action, customCmd) => (executeAction s action customCmd bufferOk, true)
      | none => (s, false) := by
  rw [zenKeybindsHandleKey, executed]
  rcases matchingBinding s modifiers keysym with _ | b
  · rfl
  · exact congrArg (·, true) (executeAction_run s b bufferOk)

theorem prefix_bindingsLoop (xkbKeysymFromName : String → UInt32) (fuel : Nat)
    (p : List Char) (keybindings : List ZenKeybinding) :
    keybindings <+: (bindingsLoop xkbKeysymFromName fuel p keybindings).2 := by
  induction fuel generalizing p keybindings with
  | zero => exact List.prefix_rfl
  | succ fuel ih =>
      rw [bindingsLoop]
      split
      · exact List.prefix_rfl
      · split
        · exact List.prefix_rfl
        · split
          · exact List.prefix_rfl
          · dsimp only
            split
            · exact List.prefix_rfl
            · exact (List.prefix_append ..).trans (ih ..)

/-- The registry of `zen_keybinds_init` comes about by registrations, those of the
defaults first. -/
theorem zenKeybindsInit_registered (xkbKeysymFromName : String → UInt32)
    (file : Option (List Char)) :
    ∃ loaded, zenKeybindsInit xkbKeysymFromName file = registered (defaultBindings ++ loaded) := by
  have hpre : defaultBindings <+: zenKeybindsInit xkbKeysymFromName file := by
    cases file with
    | none => exact List.prefix_rfl
    | some content =>
        rw [zenKeybindsInit, zenKeybindsLoadConfig]
        split
        · exact List.prefix_rfl
        · dsimp only
          split
          · exact List.prefix_rfl
          · split
            · exact List.prefix_rfl
            · exact prefix_bindingsLoop ..
  obtain ⟨loaded, hloaded⟩ := hpre
  exact ⟨loaded, by rw [registered_eq, hloaded]⟩

theorem bound_eq_nil_iff :
    bound registrations modifiers keysym = [] ↔
      ∀ b ∈ registrations, ¬ (b.modifiers = modifiers ∧ b.keysym = keysym) := by
  rw [bound, List.filter_eq_nil_iff]
  simp only [decide_eq_true_eq]

theorem executed_registered (s : ZenCompositor) :
    executed { s with keybindings := registered registrations } modifiers keysym =
      (bound registrations modifiers keysym).head?.map ZenKeybinding.run := by
  rw [executed, matchingBinding_registered]

/-- `zen_keybinds_handle_key` refuses exactly the combinations that nobody registered. -/
theorem zenKeybindsHandleKey_refuses (s : ZenCompositor) (bufferOk : Bool) :
    (zenKeybindsHandleKey { s with keybindings := registered registrations } modifiers keysym
        bufferOk).2 = false ↔ bound registrations modifiers keysym = [] := by
  rw [zenKeybindsHandleKey_executed, executed_registered]
  cases bound registrations modifiers keysym with
  | nil => exact iff_of_true rfl rfl
  | cons b _ => exact iff_of_false (by simp) (by simp)

theorem overrides_registered_iff (s : ZenCompositor) (registrations : List ZenKeybinding)
    (modifiers keysym : UInt32) :
    Overrides { s with keybindings := registered registrations } registrations modifiers
        keysym ↔
      ∀ first ∈ (bound registrations modifiers keysym).head?,
        ∀ last ∈ (bound registrations modifiers keysym).getLast?, first.run = last.run := by
  constructor
  · rintro ⟨hruns, -⟩ first hfirst last hlast
    rw [executed_registered, hfirst, hlast, Option.map_some, Option.map_some,
      Option.some.injEq] at hruns
    exact hruns
  · intro hagree
    refine ⟨?_, fun bufferOk => (zenKeybindsHandleKey_refuses s bufferOk).trans bound_eq_nil_iff⟩
    rw [executed_registered]
    rcases hbound : bound registrations modifiers keysym with _ | ⟨first, later⟩
    · rfl
    · have hlast : (first :: later).getLast? = some ((first :: later).getLast (by simp)) :=
        List.getLast?_eq_some_getLast _
      rw [hbound] at hagree
      rw [hlast, List.head?_cons, Option.map_some, Option.map_some, hagree first rfl _ hlast]

/-- A combination follows its most recent registration exactly when the first one runs the
same: the same action and, when that is custom, the same command.  The registry that
`zen_keybinds_init` leaves comes from registrations that begin with the defaults. -/
theorem overrides_iff (s : ZenCompositor) (modifiers keysym : UInt32) :
    (∀ registrations : List ZenKeybinding,
      Overrides { s with keybindings := registered registrations } registrations modifiers
          keysym ↔
        ∀ first ∈ (bound registrations modifiers keysym).head?,
          ∀ last ∈ (bound registrations modifiers keysym).getLast?,
            first.action = last.action ∧
              (first.action = .custom → first.command = last.command)) ∧
    ∀ (xkbKeysymFromName : String → UInt32) (file : Option (List Char)),
      ∃ loaded, zenKeybindsInit xkbKeysymFromName file = registered (defaultBindings ++ loaded) ∧
        (Overrides { s with keybindings := zenKeybindsInit xkbKeysymFromName file }
            (defaultBindings ++ loaded) modifiers keysym ↔
          ∀ first ∈ (bound (defaultBindings ++ loaded) modifiers keysym).head?,
            ∀ last ∈ (bound (defaultBindings ++ loaded) modifiers keysym).getLast?,
              first.action = last.action ∧
                (first.action = .custom → first.command = last.command)) := by
  simp only [← run_eq_iff]
  refine ⟨fun registrations => overrides_registered_iff s registrations modifiers keysym,
    fun xkbKeysymFromName file => ?_⟩
  obtain ⟨loaded, hloaded⟩ := zenKeybindsInit_registered xkbKeysymFromName file
  refine ⟨loaded, hloaded, ?_⟩
  rw [hloaded]
  exact overrides_registered_iff s (defaultBindings ++ loaded) modifiers keysym

/-- A file that gives Super+Q to a command leaves it to close windows. -/
theorem default_not_overridden :
    let keysymOf := fun name => if name = "q" then 0x71 else xkbKeyNoSymbol
    let custom : ZenKeybinding :=
      { modifiers := wlrModifierLogo, keysym := 0x71, action := .custom
        customCmd := some "foot" }
    let file := "\x7b\"bindings\": [\x7b\"modifiers\": [\"super\"], \"key\": \"q\", " ++
      "\"action\": \"custom\", \"command\": \"foot\"\x7d]\x7d"
    zenKeybindsInit keysymOf (some file.toList) = registered (defaultBindings ++ [custom]) ∧
      ¬ Overrides { created [] [] true with
          keybindings := registered (defaultBindings ++ [custom]) }
        (defaultBindings ++ [custom]) wlrModifierLogo 0x71 := by
  intro keysymOf custom file
  refine ⟨by decide +kernel, fun h => ?_⟩
  have hruns : some (ZenKeybindAction.closeWindow, none) = some (.custom, some "foot") := h.runs
  cases hruns

end

end ZenOS.Compositor
