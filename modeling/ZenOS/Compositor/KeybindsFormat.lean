import ZenOS.Compositor.KeybindsConfig

/-!
Files that `keybinds.json` may be: binding objects with their members in any order, and with
any whitespace between their tokens.
-/

namespace ZenOS.Compositor

open ZenOS.Library.QuotedText

inductive Modifier where
  | ctrl
  | alt
  | super
  | shift
  deriving DecidableEq

def Modifier.name : Modifier → String
  | .ctrl => "ctrl"
  | .alt => "alt"
  | .super => "super"
  | .shift => "shift"

def Modifier.bit : Modifier → UInt32
  | .ctrl => wlrModifierCtrl
  | .alt => wlrModifierAlt
  | .super => wlrModifierLogo
  | .shift => wlrModifierShift

/-- A modifier in upper or lower case. -/
structure SpelledModifier where
  modifier : Modifier
  spelling : List Char
  spelled : spelling.map Char.toLower = modifier.name.toList

/-- `action_name` -/
def actionName : ZenKeybindAction → String
  | .launchTerminal => "launch_terminal"
  | .toggleLauncher => "toggle_launcher"
  | .lockScreen => "lock_screen"
  | .switchWindow => "switch_window"
  | .closeWindow => "close_window"
  | .custom => "custom"

/-- The characters that end a string, an object or the text. -/
def reserved : List Char :=
  ['"', '\\', '{', '}', '\x00']

/-- No double quote, backslash, brace or control character. -/
def Plain (c : Char) : Prop :=
  c ∉ ['"', '\\', '{', '}'] ∧ 0x20 ≤ c.toNat

section

variable (xkbKeysymFromName : String → UInt32)

/-- A binding as a user writes it down. -/
structure Entry where
  modifiers : List SpelledModifier
  key : String
  action : ZenKeybindAction
  command : Option String
  resolves : xkbKeysymFromName key ≠ xkbKeyNoSymbol
  plain : ∀ cmd ∈ command, ∀ c ∈ cmd.toList, Plain c

end

inductive Field where
  | modifiers
  | key
  | action
  | command
  deriving DecidableEq

def Field.name : Field → String
  | .modifiers => "modifiers"
  | .key => "key"
  | .action => "action"
  | .command => "command"

abbrev Token := Piece Char

/-- The comma in front of further items. -/
def comma (items : List (List Token)) : List Token :=
  if items = [] then [] else [.mark ',']

/-- Items with commas between them. -/
def separated : List (List Token) → List Token
  | [] => []
  | item :: items => item ++ (comma items ++ separated items)

namespace Entry

variable {xkbKeysymFromName : String → UInt32} (e : Entry xkbKeysymFromName)

def mask : UInt32 :=
  e.modifiers.foldl (fun mods m => mods ||| m.modifier.bit) 0

/-- The binding that is meant. -/
def binding : ZenKeybinding :=
  { modifiers := e.mask, keysym := xkbKeysymFromName e.key, action := e.action
    customCmd := e.command }

def fields : List Field :=
  [.modifiers, .key, .action] ++ if e.command.isSome then [.command] else []

def valueTokens : Field → List Token
  | .modifiers =>
      .mark '[' :: (separated (e.modifiers.map fun m => [.word m.spelling]) ++ [.mark ']'])
  | .key => [.word e.key.toList]
  | .action => [.word (actionName e.action).toList]
  | .command => e.command.toList.map fun cmd => .word cmd.toList

def memberTokens (f : Field) : List Token :=
  .word f.name.toList :: .mark ':' :: e.valueTokens f

end Entry

section

variable (xkbKeysymFromName : String → UInt32)

/-- An entry with an order of its members. -/
structure PrintedEntry extends Entry xkbKeysymFromName where
  order : List Field
  perm : order.Perm toEntry.fields

end

variable {xkbKeysymFromName : String → UInt32}

def PrintedEntry.tokens (e : PrintedEntry xkbKeysymFromName) : List Token :=
  .mark '{' :: (separated (e.order.map e.memberTokens) ++ [.mark '}'])

def documentTokens (entries : List (PrintedEntry xkbKeysymFromName)) : List Token :=
  [.mark '{', .word "bindings".toList, .mark ':', .mark '['] ++
    (separated (entries.map PrintedEntry.tokens) ++ [.mark ']', .mark '}'])

def isSpacePiece : Token → Bool
  | .mark c => isSpace c
  | .word _ => false

/-- The tokens of a text. -/
def strip (pieces : List Token) : List Token :=
  pieces.filter fun piece => !isSpacePiece piece

/-- A text that is the document of these entries but for the whitespace between tokens. -/
def Prints (entries : List (PrintedEntry xkbKeysymFromName)) (text : List Char) : Prop :=
  ∃ pieces, render '"' pieces = text ∧ strip pieces = documentTokens entries

theorem SpelledModifier.parse (m : SpelledModifier) :
    parseModifierToken m.spelling = m.modifier.bit := by
  have hlength : m.spelling.length = m.modifier.name.toList.length := by
    rw [← m.spelled, List.length_map]
  simp only [parseModifierToken, equalsIgnoringCase, m.spelled, hlength]
  cases m.modifier <;> decide

theorem SpelledModifier.notMem_reserved (m : SpelledModifier) {c : Char}
    (hc : c ∈ m.spelling) : c ∉ reserved := by
  have hlower : c.toLower ∈ m.modifier.name.toList := by
    rw [← m.spelled]
    exact List.mem_map_of_mem hc
  intro hbad
  have hname : ∀ d ∈ reserved, ∀ mod : Modifier,
      d.toLower ∉ mod.name.toList := by
    intro d hd mod
    simp only [reserved, List.mem_cons, List.not_mem_nil, or_false] at hd
    rcases hd with rfl | rfl | rfl | rfl | rfl <;> cases mod <;> decide
  exact hname c hbad _ hlower

theorem parseActionString_actionName (action : ZenKeybindAction) :
    parseActionString (actionName action).toList = some action := by
  cases action <;> decide

theorem Field.name_injective {f g : Field} (h : f.name.toList = g.name.toList) : f = g := by
  cases f <;> cases g <;> first | rfl | exact absurd h (by decide)

end ZenOS.Compositor
