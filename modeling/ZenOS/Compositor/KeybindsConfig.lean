import ZenOS.Compositor.Keybinds
import ZenOS.Library.QuotedText

/-!
`keybinds.c`: the reader of `keybinds.json`.  A `char` of the source is a `Char`, and a text
ends where its list ends.  Memory is taken to suffice.
-/

namespace ZenOS.Compositor

open ZenOS.Library.QuotedText

def wlrModifierShift : UInt32 := 1

def xkbKeyNoSymbol : UInt32 := 0

/-- JSON whitespace -/
def isSpace (c : Char) : Bool :=
  c = ' ' || c = '\t' || c = '\n' || c = '\r'

def skipSpace (pos : List Char) : List Char :=
  pos.dropWhile isSpace

def skipSpaceAndCommas (pos : List Char) : List Char :=
  pos.dropWhile fun c => isSpace c || c = ','

/-- `strncasecmp(tok, name, len) == 0` for a token of the length of the name. -/
def equalsIgnoringCase (tok : List Char) (name : String) : Bool :=
  tok.length = name.length && tok.map Char.toLower = name.toList

def parseModifierToken (tok : List Char) : UInt32 :=
  if equalsIgnoringCase tok "ctrl" then wlrModifierCtrl
  else if equalsIgnoringCase tok "alt" then wlrModifierAlt
  else if equalsIgnoringCase tok "super" then wlrModifierLogo
  else if equalsIgnoringCase tok "shift" then wlrModifierShift
  else 0

/-- The loop of `parse_modifiers_array`, for at most `fuel` elements. -/
def modifiersLoop : (fuel : Nat) → List Char → UInt32 → UInt32
  | 0, _, mods => mods
  | fuel + 1, p, mods =>
      if p = [] ∨ p.head? = some ']' then mods
      else
        match skipSpaceAndCommas p with
        -- the source steps over the terminator here
        | [] => mods
        | c :: p =>
            if c = ']' then mods
            else if c ≠ '"' then modifiersLoop fuel p mods
            else
              let tok := p.takeWhile (· ≠ '"')
              modifiersLoop fuel (p.drop (tok.length + 1)) (mods ||| parseModifierToken tok)

def parseModifiersArray (p : List Char) : UInt32 :=
  match p.dropWhile (· ≠ '[') with
  | [] => 0
  | _ :: p => modifiersLoop (p.length + 1) p 0

/-- The table of `parse_action_string`. -/
def actionTable : List (String × ZenKeybindAction) :=
  [ ("launch_terminal", .launchTerminal),
    ("toggle_launcher", .toggleLauncher),
    ("lock_screen", .lockScreen),
    ("switch_window", .switchWindow),
    ("close_window", .closeWindow),
    ("custom", .custom) ]

def parseActionString (s : List Char) : Option ZenKeybindAction :=
  (actionTable.find? fun entry => entry.1.toList = s).map (·.2)

/-- A string up to its closing quote; a backslash protects the character behind it. -/
def readString : List Char → Option (List Char)
  | [] => none
  | c :: pos =>
      if c = '"' then some []
      else if c = '\\' then
        match pos with
        | [] => none
        | d :: pos => (readString pos).map fun s => c :: d :: s
      else (readString pos).map (c :: ·)

/-- The loop of `extract_string_field`, for at most `fuel` occurrences of the key. -/
def stringFieldLoop (pattern : List Char) : (fuel : Nat) → List Char → Option (List Char)
  | 0, _ => none
  | fuel + 1, pos =>
      match after pattern pos with
      | none => none
      | some pos =>
          match skipSpace pos with
          | [] => none
          | c :: pos' =>
              if c ≠ ':' then stringFieldLoop pattern fuel (c :: pos')
              else
                match skipSpace pos' with
                | [] => none
                | d :: start =>
                    if d ≠ '"' then stringFieldLoop pattern fuel (d :: start)
                    else readString start

/-- `extract_string_field` in the text of a binding object. -/
def extractStringField (obj : List Char) (key : String) : Option (List Char) :=
  stringFieldLoop (quote '"' key.toList) (obj.length + 1) obj

/-- The loop of `extract_modifiers_field`.  Its array is not looked for in the object only,
but in everything that follows. -/
def modifiersFieldLoop (pattern rest : List Char) : (fuel : Nat) → List Char → UInt32
  | 0, _ => 0
  | fuel + 1, pos =>
      match after pattern pos with
      | none => 0
      | some pos =>
          match skipSpace pos with
          | [] => 0
          | c :: pos' =>
              if c ≠ ':' then modifiersFieldLoop pattern rest fuel (c :: pos')
              else parseModifiersArray (pos' ++ rest)

def extractModifiersField (obj rest : List Char) : UInt32 :=
  modifiersFieldLoop (quote '"' "modifiers".toList) rest (obj.length + 1) obj

/-- The text up to the brace that closes the first one, and the text behind it. -/
def splitObject : (depth : Nat) → List Char → List Char × List Char
  | _, [] => ([], [])
  | depth, c :: q =>
      if c = '}' ∧ depth = 1 then ([c], q)
      else
        let depth := if c = '{' then depth + 1 else if c = '}' then depth - 1 else depth
        let (obj, rest) := splitObject depth q
        (c :: obj, rest)

section

variable (xkbKeysymFromName : String → UInt32)

/-- The binding of an object, unless a field is missing or has no meaning. -/
def parseBinding (obj rest : List Char) : Option ZenKeybinding := do
  let modifiers := extractModifiersField obj rest
  let key ← extractStringField obj "key"
  let action ← extractStringField obj "action"
  let customCmd := extractStringField obj "command"
  let keysym := xkbKeysymFromName (.ofList key)
  if keysym = xkbKeyNoSymbol then none
  let action ← parseActionString action
  some { modifiers, keysym, action, customCmd := customCmd.map .ofList }

/-- The loop over the binding objects, for at most `fuel` of them.  What has been
registered before an error stays. -/
def bindingsLoop : (fuel : Nat) → List Char → List ZenKeybinding → Int × List ZenKeybinding
  | 0, _, keybindings => (0, keybindings)
  | fuel + 1, p, keybindings =>
      match skipSpaceAndCommas p with
      | [] => (0, keybindings)
      | c :: p =>
          if c = ']' then (0, keybindings)
          else if c ≠ '{' then (-1, keybindings)
          else
            let (obj, rest) := splitObject 0 (c :: p)
            match parseBinding xkbKeysymFromName obj rest with
            | none => (-1, keybindings)
            | some binding => bindingsLoop fuel rest (keybindings ++ [binding])

/-- `zen_keybinds_load_config` on a file, which may be missing: its return value, and the
registry that it leaves. -/
def zenKeybindsLoadConfig (keybindings : List ZenKeybinding) (file : Option (List Char)) :
    Int × List ZenKeybinding :=
  match file with
  | none => (0, keybindings)
  | some content =>
      let fsize := (String.ofList content).utf8ByteSize
      if fsize = 0 ∨ 65536 < fsize then (-1, keybindings)
      else
        let buf := content.takeWhile (· ≠ '\x00')
        match after (quote '"' "bindings".toList) buf with
        | none => (-1, keybindings)
        | some pos =>
            match pos.dropWhile (· ≠ '[') with
            | [] => (-1, keybindings)
            | _ :: p => bindingsLoop xkbKeysymFromName (p.length + 1) p keybindings

/-- `zen_keybinds_init`: the registry with the defaults and the file, which is not looked
for without a home directory. -/
def zenKeybindsInit (file : Option (List Char)) : List ZenKeybinding :=
  (zenKeybindsLoadConfig xkbKeysymFromName defaultBindings file).2

end

end ZenOS.Compositor
