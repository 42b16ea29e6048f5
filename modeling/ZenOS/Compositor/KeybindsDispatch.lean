import ZenOS.Compositor.LockScreen
import ZenOS.Compositor.KeybindsConfig
import ZenOS.Library.Runs

/-!
A key press and the binding that it fires.  `handle_keyboard_key` takes the keysyms and the
modifiers from xkb, and `zen_keybinds_handle_key` compares both exactly.
-/

namespace ZenOS.Compositor

open ZenOS.Library.Runs

def wlrModifierCaps : UInt32 := 2

def wlrModifierMod2 : UInt32 := 16

/-- `wlr_keyboard_get_modifiers`: the modifiers that are held, and the locks that are on. -/
def wlrKeyboardGetModifiers (held : UInt32) (capsLock numLock : Bool) : UInt32 :=
  held &&& ~~~(wlrModifierCaps ||| wlrModifierMod2) |||
    ((if capsLock then wlrModifierCaps else 0) ||| if numLock then wlrModifierMod2 else 0)

/-- The modifiers that `parse_modifier_token` knows. -/
def nameableModifiers : UInt32 :=
  wlrModifierShift ||| wlrModifierCtrl ||| wlrModifierAlt ||| wlrModifierLogo

def Nameable (modifiers : UInt32) : Prop :=
  modifiers ||| nameableModifiers = nameableModifiers

instance (modifiers : UInt32) : Decidable (Nameable modifiers) :=
  inferInstanceAs (Decidable (_ = _))

/-- A letter, as its keysyms in lower and in upper case. -/
structure Letter where
  lower : UInt32
  upper : UInt32
  ne : lower ≠ upper

section

variable (xkbStateKeyGetSyms : UInt32 → UInt32 → List UInt32)

/-- The key of a letter gives its upper case under Shift and under the Caps lock. -/
structure IsLetterKey (keycode : UInt32) (letter : Letter) : Prop where
  plain : ∀ modifiers, Nameable modifiers → modifiers &&& wlrModifierShift = 0 →
    xkbStateKeyGetSyms (keycode + 8) modifiers = [letter.lower]
  shift : ∀ modifiers, Nameable modifiers → modifiers &&& wlrModifierShift ≠ 0 →
    xkbStateKeyGetSyms (keycode + 8) modifiers = [letter.upper]
  capsLock : ∀ modifiers, Nameable modifiers → modifiers &&& wlrModifierShift = 0 →
    xkbStateKeyGetSyms (keycode + 8) (modifiers ||| wlrModifierCaps) = [letter.upper]

/-- The binding that the press of a key fires under these modifiers. -/
def pressedBinding (s : ZenCompositor) (keycode modifiers : UInt32) : Option ZenKeybinding :=
  firstBinding s modifiers (xkbStateKeyGetSyms (keycode + 8) modifiers)

/-- Which binding a press fires is the same whether or not the locks are on. -/
def IgnoresLocks (s : ZenCompositor) (keycode held : UInt32) : Prop :=
  ∀ capsLock numLock,
    pressedBinding xkbStateKeyGetSyms s keycode
        (wlrKeyboardGetModifiers held capsLock numLock) =
      pressedBinding xkbStateKeyGetSyms s keycode (wlrKeyboardGetModifiers held false false)

/-- What is registered for these modifiers, Shift among them, and the letter of the key
fires. -/
def FiresShifted (s : ZenCompositor) (keycode held : UInt32) : Prop :=
  ∀ letter, IsLetterKey xkbStateKeyGetSyms keycode letter → ∀ b ∈ s.keybindings,
    b.modifiers = wlrKeyboardGetModifiers held false false →
    b.modifiers &&& wlrModifierShift ≠ 0 → b.keysym = letter.lower ∨ b.keysym = letter.upper →
    pressedBinding xkbStateKeyGetSyms s keycode b.modifiers =
      matchingBinding s b.modifiers b.keysym

/-- After every run that leaves the screen unlocked, a press of the key does what its binding
of the registry at the start says, or goes to the client if there is none. -/
def DispatchesPresses (s : ZenCompositor) (keycode : UInt32) : Prop :=
  ∀ events k modifiers bufferOk pam, (exec step s events).lock.locked = false →
    let pressed := wlrKeyboardUpdate { exec step s events with calls := [] } k keycode true
    step (exec step s events) (.key k keycode (xkbStateKeyGetSyms (keycode + 8) modifiers) true
        modifiers bufferOk pam) =
      match pressedBinding xkbStateKeyGetSyms s keycode modifiers with
      | some b => executeAction pressed b.action b.customCmd bufferOk
      | none => wlrSeatKeyboardNotifyKey pressed keycode true

end

theorem Nameable.or {m n : UInt32} (hm : Nameable m) (hn : Nameable n) : Nameable (m ||| n) := by
  rw [Nameable, UInt32.or_assoc, hn, hm]

theorem Nameable.without {m : UInt32} (hm : Nameable m) (bit : UInt32)
    (hbit : nameableModifiers ||| bit ≠ nameableModifiers) : m ||| bit ≠ m := by
  intro hin
  have hor : nameableModifiers ||| bit = nameableModifiers :=
    calc nameableModifiers ||| bit = m ||| nameableModifiers ||| bit := by rw [hm]
      _ = m ||| bit ||| nameableModifiers := by
          rw [UInt32.or_assoc, UInt32.or_comm nameableModifiers, ← UInt32.or_assoc]
      _ = nameableModifiers := by rw [hin, hm]
  exact hbit hor

theorem Nameable.and_caps {m : UInt32} (hm : Nameable m) : m &&& wlrModifierCaps = 0 := by
  have hself : m &&& nameableModifiers = m := by
    rw [← hm, ← UInt32.toBitVec_inj, UInt32.toBitVec_and, UInt32.toBitVec_or]
    ext i
    simp +contextual
  rw [← hself, UInt32.and_assoc,
    show nameableModifiers &&& wlrModifierCaps = 0 by decide, UInt32.and_zero]

theorem or_and_bit (m n bit : UInt32) : (m ||| n) &&& bit = m &&& bit ||| n &&& bit := by
  rw [← UInt32.toBitVec_inj]
  exact BitVec.and_or_distrib_right

theorem not_nameable_of_locked (held : UInt32) {capsLock numLock : Bool}
    (hlock : capsLock = true ∨ numLock = true) :
    ¬ Nameable (wlrKeyboardGetModifiers held capsLock numLock) := by
  intro hm
  rcases hlock with rfl | rfl
  · refine hm.without wlrModifierCaps (by decide) ?_
    cases numLock <;>
      simp only [wlrKeyboardGetModifiers, if_true, UInt32.or_assoc] <;> congr 1
  · refine hm.without wlrModifierMod2 (by decide) ?_
    cases capsLock <;>
      simp only [wlrKeyboardGetModifiers, if_true, UInt32.or_assoc] <;> congr 1

theorem nameable_parseModifierToken (tok : List Char) : Nameable (parseModifierToken tok) := by
  unfold parseModifierToken
  repeat' split
  all_goals decide

theorem nameable_modifiersLoop (fuel : Nat) (p : List Char) {mods : UInt32}
    (hmods : Nameable mods) : Nameable (modifiersLoop fuel p mods) := by
  induction fuel generalizing p mods with
  | zero => exact hmods
  | succ fuel ih =>
      rw [modifiersLoop]
      split
      · exact hmods
      · split
        · exact hmods
        · split
          · exact hmods
          · split
            · exact ih _ hmods
            · exact ih _ (hmods.or (nameable_parseModifierToken _))

theorem nameable_extractModifiersField (obj rest : List Char) :
    Nameable (extractModifiersField obj rest) := by
  have hzero : Nameable 0 := by decide
  have harray : ∀ p, Nameable (parseModifiersArray p) := by
    intro p
    rw [parseModifiersArray]
    split
    · exact hzero
    · exact nameable_modifiersLoop _ _ hzero
  rw [extractModifiersField]
  generalize obj.length + 1 = fuel
  induction fuel generalizing obj with
  | zero => exact hzero
  | succ fuel ih =>
      rw [modifiersFieldLoop]
      split
      · exact hzero
      · split
        · exact hzero
        · split
          · exact ih _
          · exact harray _

section

variable {xkbKeysymFromName : String → UInt32}

theorem nameable_parseBinding {obj rest : List Char} {b : ZenKeybinding}
    (h : parseBinding xkbKeysymFromName obj rest = some b) : Nameable b.modifiers := by
  simp only [parseBinding, Option.bind_eq_bind, Option.bind_eq_some_iff] at h
  obtain ⟨key, -, action, -, h⟩ := h
  split at h
  · cases h
  · obtain ⟨action, -, h⟩ := Option.bind_eq_some_iff.mp h
    cases h
    exact nameable_extractModifiersField obj rest

theorem nameable_bindingsLoop (fuel : Nat) (p : List Char) {keybindings : List ZenKeybinding}
    (hkeybindings : ∀ b ∈ keybindings, Nameable b.modifiers) :
    ∀ b ∈ (bindingsLoop xkbKeysymFromName fuel p keybindings).2, Nameable b.modifiers := by
  induction fuel generalizing p keybindings with
  | zero => exact hkeybindings
  | succ fuel ih =>
      rw [bindingsLoop]
      split
      · exact hkeybindings
      · split
        · exact hkeybindings
        · split
          · exact hkeybindings
          · dsimp only
            split
            · exact hkeybindings
            · next hparse =>
                refine ih _ fun b hb => ?_
                rcases List.mem_append.mp hb with hb | hb
                · exact hkeybindings b hb
                · rw [List.mem_singleton.mp hb]
                  exact nameable_parseBinding hparse

theorem nameable_zenKeybindsInit (file : Option (List Char)) :
    ∀ b ∈ zenKeybindsInit xkbKeysymFromName file, Nameable b.modifiers := by
  have hdefault : ∀ b ∈ defaultBindings, Nameable b.modifiers := by decide
  rw [zenKeybindsInit]
  cases file with
  | none => exact hdefault
  | some content =>
      simp only [zenKeybindsLoadConfig]
      split
      · exact hdefault
      · split
        · exact hdefault
        · split
          · exact hdefault
          · exact nameable_bindingsLoop _ _ hdefault

end

theorem Writes.keybindings {o : Owner} {s s' : ZenCompositor} (h : Writes o s s') :
    s'.keybindings = s.keybindings := by
  cases o with
  | desktop =>
      obtain ⟨_, _, _, _, _, _, _, _, _, rfl⟩ := h
      rfl
  | layers =>
      obtain ⟨_, _, _, rfl⟩ := h
      rfl
  | outputs =>
      obtain ⟨_, _, _, _, _, rfl⟩ := h
      rfl
  | lock =>
      obtain ⟨_, _, _, _, rfl⟩ := h
      rfl

theorem run_keybindings (s : ZenCompositor) (events : List Event) :
    (exec step s events).keybindings = s.keybindings := by
  induction events generalizing s with
  | nil => rfl
  | cons e events ih =>
      rw [exec_cons, ih]
      exact (handle_writes { s with calls := [] } e).keybindings

section

variable {s : ZenCompositor} {modifiers keysym : UInt32} {syms : List UInt32} {b : ZenKeybinding}

theorem matchingBinding_eq_none_iff :
    matchingBinding s modifiers keysym = none ↔
      ∀ b ∈ s.keybindings, b.modifiers = modifiers → b.keysym ≠ keysym := by
  simp [matchingBinding, List.find?_eq_none]

theorem firstBinding_eq_none_iff :
    firstBinding s modifiers syms = none ↔
      ∀ b ∈ s.keybindings, b.modifiers = modifiers → b.keysym ∉ syms := by
  simp only [firstBinding, List.findSome?_eq_none_iff, matchingBinding_eq_none_iff]
  constructor
  · intro h b hb hmodifiers hkeysym
    exact h _ hkeysym b hb hmodifiers rfl
  · rintro h keysym hkeysym b hb hmodifiers rfl
    exact h b hb hmodifiers hkeysym

theorem matchingBinding_matches (h : matchingBinding s modifiers keysym = some b) :
    b.modifiers = modifiers ∧ b.keysym = keysym := by
  simpa using List.find?_some h

variable {xkbStateKeyGetSyms : UInt32 → UInt32 → List UInt32} {keycode : UInt32}

theorem handleKeyboardKey_press (hl : s.lock.locked = false) (bufferOk : Bool)
    (pam : Nat → List UInt8 → Bool) :
    handleKeyboardKey s keycode (xkbStateKeyGetSyms (keycode + 8) modifiers) true modifiers
        bufferOk pam =
      match pressedBinding xkbStateKeyGetSyms s keycode modifiers with
      | some b => executeAction s b.action b.customCmd bufferOk
      | none => wlrSeatKeyboardNotifyKey s keycode true := by
  rw [handleKeyboardKey, if_neg (by simp [hl]), pressedBinding]
  simp only [if_true, handleKeybindingSyms_eq]
  rcases firstBinding s modifiers (xkbStateKeyGetSyms (keycode + 8) modifiers) with _ | b
  · rfl
  · rfl

theorem dispatchesPresses (xkbStateKeyGetSyms : UInt32 → UInt32 → List UInt32)
    (s : ZenCompositor) (keycode : UInt32) : DispatchesPresses xkbStateKeyGetSyms s keycode := by
  intro events k modifiers bufferOk pam hl
  have hregistry : pressedBinding xkbStateKeyGetSyms (exec step s events) keycode modifiers =
      pressedBinding xkbStateKeyGetSyms s keycode modifiers := by
    unfold pressedBinding firstBinding matchingBinding
    rw [run_keybindings]
  rw [← hregistry]
  exact handleKeyboardKey_press
    (s := wlrKeyboardUpdate { exec step s events with calls := [] } k keycode true) hl bufferOk
    pam

theorem IsLetterKey.pressedBinding_shift {letter : Letter}
    (hkey : IsLetterKey xkbStateKeyGetSyms keycode letter) (hm : Nameable modifiers)
    (hshift : modifiers &&& wlrModifierShift ≠ 0) :
    pressedBinding xkbStateKeyGetSyms s keycode modifiers =
      matchingBinding s modifiers letter.upper := by
  rw [pressedBinding, hkey.shift modifiers hm hshift, firstBinding, List.findSome?_cons]
  rcases matchingBinding s modifiers letter.upper with _ | b <;> rfl

theorem pressedBinding_locked (hs : ∀ b ∈ s.keybindings, Nameable b.modifiers) (held : UInt32)
    {capsLock numLock : Bool} (hlock : capsLock = true ∨ numLock = true) :
    pressedBinding xkbStateKeyGetSyms s keycode
      (wlrKeyboardGetModifiers held capsLock numLock) = none := by
  rw [pressedBinding, firstBinding_eq_none_iff]
  intro b hb hmodifiers
  exact absurd (hmodifiers ▸ hs b hb) (not_nameable_of_locked held hlock)

variable {xkbKeysymFromName : String → UInt32} {file : Option (List Char)}

theorem ignoresLocks_iff (hs : ∀ b ∈ s.keybindings, Nameable b.modifiers) (held : UInt32) :
    IgnoresLocks xkbStateKeyGetSyms s keycode held ↔
      ∀ b ∈ s.keybindings, b.modifiers = wlrKeyboardGetModifiers held false false →
        b.keysym ∉ xkbStateKeyGetSyms (keycode + 8) (wlrKeyboardGetModifiers held false false) := by
  rw [← firstBinding_eq_none_iff]
  change _ ↔ pressedBinding xkbStateKeyGetSyms s keycode _ = none
  constructor
  · intro h
    rw [← h true false]
    exact pressedBinding_locked hs held (.inl rfl)
  · intro hnone capsLock numLock
    by_cases hlock : capsLock = true ∨ numLock = true
    · rw [pressedBinding_locked hs held hlock, hnone]
    · obtain ⟨rfl, rfl⟩ : capsLock = false ∧ numLock = false := by simpa using hlock
      rfl

theorem firesShifted_iff (hs : ∀ b ∈ s.keybindings, Nameable b.modifiers) (held : UInt32) :
    FiresShifted xkbStateKeyGetSyms s keycode held ↔
      ∀ letter, IsLetterKey xkbStateKeyGetSyms keycode letter → ∀ b ∈ s.keybindings,
        b.modifiers = wlrKeyboardGetModifiers held false false →
        b.modifiers &&& wlrModifierShift ≠ 0 → b.keysym ≠ letter.lower := by
  constructor
  · intro h letter hkey b hb hmodifiers hshift hlower
    have hfires := h letter hkey b hb hmodifiers hshift (.inl hlower)
    rw [hkey.pressedBinding_shift (hs b hb) hshift] at hfires
    rcases hfound : matchingBinding s b.modifiers b.keysym with _ | b'
    · exact matchingBinding_eq_none_iff.mp hfound b hb rfl rfl
    · have hupper := (matchingBinding_matches (hfires.trans hfound)).2
      have hsame := (matchingBinding_matches hfound).2
      exact letter.ne (hlower.symm.trans (hsame.symm.trans hupper))
  · intro h letter hkey b hb hmodifiers hshift hcase
    rcases hcase with hlower | hupper
    · exact absurd hlower (h letter hkey b hb hmodifiers hshift)
    · rw [hkey.pressedBinding_shift (hs b hb) hshift, hupper]

variable {xkbKeysymFromName : String → UInt32} {file : Option (List Char)}

/-- What the presses of a key do in every run, when the locks do not matter for them, and when
the shifted letters fire. -/
theorem dispatch_iff (hs : s.keybindings = zenKeybindsInit xkbKeysymFromName file)
    (keycode held : UInt32) :
    DispatchesPresses xkbStateKeyGetSyms s keycode ∧
    (IgnoresLocks xkbStateKeyGetSyms s keycode held ↔
      ∀ b ∈ s.keybindings, b.modifiers = wlrKeyboardGetModifiers held false false →
        b.keysym ∉
          xkbStateKeyGetSyms (keycode + 8) (wlrKeyboardGetModifiers held false false)) ∧
    (FiresShifted xkbStateKeyGetSyms s keycode held ↔
      ∀ letter, IsLetterKey xkbStateKeyGetSyms keycode letter → ∀ b ∈ s.keybindings,
        b.modifiers = wlrKeyboardGetModifiers held false false →
        b.modifiers &&& wlrModifierShift ≠ 0 → b.keysym ≠ letter.lower) := by
  have hnameable : ∀ b ∈ s.keybindings, Nameable b.modifiers :=
    hs ▸ nameable_zenKeybindsInit file
  exact ⟨dispatchesPresses xkbStateKeyGetSyms s keycode, ignoresLocks_iff hnameable held,
    firesShifted_iff hnameable held⟩

end

/-- The key T of a keyboard: upper case under Shift or under the Caps lock, not under both. -/
def keyTSyms (_ modifiers : UInt32) : List UInt32 :=
  if (modifiers &&& wlrModifierShift = 0) = (modifiers &&& wlrModifierCaps = 0) then [0x74]
  else [0x54]

def letterT : Letter :=
  ⟨0x74, 0x54, by decide⟩

theorem isLetterKey_keyT (keycode : UInt32) : IsLetterKey keyTSyms keycode letterT := by
  have hshift : wlrModifierCaps &&& wlrModifierShift = 0 := by decide
  have hcaps : wlrModifierCaps ≠ 0 := by decide
  refine ⟨fun m hm h => ?_, fun m hm h => ?_, fun m hm h => ?_⟩
  · simp [keyTSyms, h, hm.and_caps, letterT]
  · simp [keyTSyms, h, hm.and_caps, letterT]
  · simp [keyTSyms, or_and_bit, h, hshift, hm.and_caps, hcaps, letterT]

/-- The press of Shift+Super+T, for which there is no default. -/
theorem dispatch_shiftSuperT :
    IgnoresLocks keyTSyms (created [] [] true) 20 (wlrModifierShift ||| wlrModifierLogo) ∧
      FiresShifted keyTSyms (created [] [] true) 20 (wlrModifierShift ||| wlrModifierLogo) := by
  have hdefault : ∀ b ∈ (created [] [] true).keybindings, b.modifiers ≠
      wlrKeyboardGetModifiers (wlrModifierShift ||| wlrModifierLogo) false false := by
    decide
  have hregistry : (created [] [] true).keybindings =
      zenKeybindsInit (fun _ => xkbKeyNoSymbol) none := by
    rfl
  exact ⟨(dispatch_iff hregistry 20 _).2.1.mpr fun b hb h => absurd h (hdefault b hb),
    (dispatch_iff hregistry 20 _).2.2.mpr fun _ _ b hb h => absurd h (hdefault b hb)⟩

/-- Ctrl+Alt+T opens no terminal while Num Lock is on, and a command bound to Shift+Super+T
never runs. -/
theorem dispatch_needs_unlocked_lower_case :
    let keysymOf := fun name => if name = "T" then 0x74 else xkbKeyNoSymbol
    let file := "\x7b\"bindings\": [\x7b\"modifiers\": [\"shift\", \"super\"], \"key\": \"T\", " ++
      "\"action\": \"custom\", \"command\": \"top\"\x7d]\x7d"
    ¬ IgnoresLocks keyTSyms (created [] [] true) 20 (wlrModifierCtrl ||| wlrModifierAlt) ∧
      ¬ FiresShifted keyTSyms
        { created [] [] true with keybindings := zenKeybindsInit keysymOf (some file.toList) } 20
        (wlrModifierShift ||| wlrModifierLogo) := by
  intro keysymOf file
  have hregistry : zenKeybindsInit keysymOf (some file.toList) = defaultBindings ++
      [{ modifiers := wlrModifierShift ||| wlrModifierLogo, keysym := 0x74, action := .custom
         customCmd := some "top" }] := by
    decide +kernel
  constructor
  · intro h
    have hsame := h false true
    revert hsame
    decide
  · intro h
    rw [hregistry] at h
    have hfires := h letterT (isLetterKey_keyT 20) _ (List.mem_append_right _ (.head _))
      (by decide) (by decide) (.inl rfl)
    revert hfires
    decide

end ZenOS.Compositor
