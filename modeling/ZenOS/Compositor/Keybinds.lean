import ZenOS.Compositor.Lock

/-!
`keybinds.c`: the registry of key combinations and their actions.
-/

namespace ZenOS.Compositor

def executeAction (s : ZenCompositor) (action : ZenKeybindAction)
    (customCmd : Option String) (bufferOk : Bool) : ZenCompositor :=
  match action with
  | .launchTerminal => { s with calls := s.calls ++ [.fork [["foot"], ["xterm"]]] }
  | .lockScreen => zenLockActivate s bufferOk
  | .closeWindow =>
      match s.windows.focusedToplevel with
      | some t => { s with calls := s.calls ++ [.sendClose t] }
      | none => s
  | .custom =>
      match customCmd with
      | some cmd =>
          if cmd = "" then s
          else { s with calls := s.calls ++ [.fork [["sh", "-c", cmd]]] }
      | none => s
  | .toggleLauncher | .switchWindow => s

/-- The binding a modifier mask and a keysym select: the first of the registry. -/
def matchingBinding (s : ZenCompositor) (modifiers keysym : UInt32) :
    Option ZenKeybinding :=
  s.keybindings.find? fun b => b.modifiers == modifiers && b.keysym == keysym

/-- `zen_keybinds_handle_key`; the Boolean says whether the key is consumed. -/
def zenKeybindsHandleKey (s : ZenCompositor) (modifiers keysym : UInt32)
    (bufferOk : Bool) : ZenCompositor × Bool :=
  match matchingBinding s modifiers keysym with
  | some b => (executeAction s b.action b.customCmd bufferOk, true)
  | none => (s, false)

def wlrModifierCtrl : UInt32 := 4

def wlrModifierAlt : UInt32 := 8

def wlrModifierLogo : UInt32 := 64

/-- The table `defaults` of `zen_keybinds_init`. -/
def defaultBindings : List ZenKeybinding :=
  [ { modifiers := wlrModifierCtrl ||| wlrModifierAlt, keysym := 0x74
      action := .launchTerminal, customCmd := none },
    { modifiers := 0, keysym := 0xffeb, action := .toggleLauncher, customCmd := none },
    { modifiers := wlrModifierLogo, keysym := 0x6c
      action := .lockScreen, customCmd := none },
    { modifiers := wlrModifierAlt, keysym := 0xff09
      action := .switchWindow, customCmd := none },
    { modifiers := wlrModifierLogo, keysym := 0x71
      action := .closeWindow, customCmd := none } ]

end ZenOS.Compositor
