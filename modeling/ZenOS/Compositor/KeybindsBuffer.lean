import ZenOS.Compositor.KeybindsConfig

/-!
`zen_keybinds_load_config` on its buffer of bytes, with reads past the end of the buffer and
with memory that may run out.
-/

namespace ZenOS.Compositor.KeybindsBuffer

open ZenOS.Library.QuotedText

/-- A pointer is what lies between it and the end of the buffer.  Where nothing is left, a
read is past the end, and the functions below have no result. -/
abbrev Pointer := List Char

def nul : Char := '\x00'

/-- `strstr`, with a pointer behind the occurrence that it finds. -/
def strstr (pattern : List Char) : Pointer → Option (Option Pointer)
  | [] => none
  | c :: p =>
      if c = nul then some none
      else if pattern.isPrefixOf (c :: p) then some (some ((c :: p).drop pattern.length))
      else strstr pattern p

/-- `while (*p && *p != stop) p++` -/
def skipTo (stop : Char) : Pointer → Option Pointer
  | [] => none
  | c :: p => if c = nul ∨ c = stop then some (c :: p) else skipTo stop p

/-- Skip whitespace and commas. -/
def skipSeparators : Pointer → Option Pointer
  | [] => none
  | c :: p => if isSpace c || c = ',' then skipSeparators p else some (c :: p)

/-- The loop that looks for the matching brace. -/
def matchBrace (depth : Int) : Pointer → Option Pointer
  | [] => none
  | c :: q =>
      if c = nul then some (c :: q)
      else if c = '{' then matchBrace (depth + 1) q
      else if c = '}' then
        if depth - 1 = 0 then some q else matchBrace (depth - 1) q
      else matchBrace depth q

/-- The loop of `parse_modifiers_array`, for at most `fuel` rounds. -/
def modifiersLoop : (fuel : Nat) → Pointer → UInt32 → Option UInt32
  | 0, _, _ => none
  | fuel + 1, p, mods => do
      let c ← p.head?
      if c = nul ∨ c = ']' then some mods
      else
        let p ← skipSeparators p
        let c ← p.head?
        if c = ']' then some mods
        else if c ≠ '"' then modifiersLoop fuel p.tail mods
        else
          let start := p.tail
          let p ← skipTo '"' start
          let tok := start.take (start.length - p.length)
          let c ← p.head?
          modifiersLoop fuel (if c = '"' then p.tail else p) (mods ||| parseModifierToken tok)

def parseModifiersArray (p : Pointer) : Option UInt32 := do
  let p ← skipTo '[' p
  let c ← p.head?
  if c ≠ '[' then some 0
  else modifiersLoop (p.length + 1) p.tail 0

/-!
What lies in an object is read below `obj_end` only; the text up to there is the list. -/

/-- The loop of `extract_modifiers_field`, for at most `fuel` occurrences of the key: where
its value is looked for. -/
def modifiersFieldLoop (pattern : List Char) : (fuel : Nat) → List Char → Option (List Char)
  | 0, _ => none
  | fuel + 1, pos =>
      match after pattern pos with
      | none => none
      | some pos =>
          match skipSpace pos with
          | [] => none
          | c :: pos' =>
              if c ≠ ':' then modifiersFieldLoop pattern fuel (c :: pos') else some pos'

def modifiersField (obj : List Char) : Option (List Char) :=
  modifiersFieldLoop (quote '"' "modifiers".toList) (obj.length + 1) obj

/-- `extract_modifiers_field`; the array is scanned without regard to `obj_end`. -/
def extractModifiersField (obj : List Char) (objEnd : Pointer) : Option UInt32 :=
  match modifiersField obj with
  | none => some 0
  | some pos => parseModifiersArray (pos ++ objEnd)

/-- Which allocations succeed while one object is read: the strings of its fields, the
binding, and the copy of its command. -/
structure ObjectAllocs where
  key : Bool
  action : Bool
  command : Bool
  binding : Bool
  customCmd : Bool
  deriving DecidableEq

def ObjectAllocs.enough : ObjectAllocs :=
  { key := true, action := true, command := true, binding := true, customCmd := true }

/-- `extract_string_field`, when its allocation succeeds or not. -/
def allocStringField (ok : Bool) (obj : List Char) (key : String) : Option (List Char) :=
  if ok then extractStringField obj key else none

/-- What the outside decides during one load. -/
structure Env where
  xkbKeysymFromName : String → UInt32
  fseek : Bool
  ftell : Bool
  malloc : Bool
  fread : Bool
  objects : Nat → ObjectAllocs

/-- The file can be read, and memory suffices. -/
def Env.enough (xkbKeysymFromName : String → UInt32) : Env :=
  { xkbKeysymFromName, fseek := true, ftell := true, malloc := true, fread := true
    objects := fun _ => .enough }

/-- `register_binding`: the new record. -/
def registerBinding (allocs : ObjectAllocs) (modifiers keysym : UInt32)
    (action : ZenKeybindAction) (customCmd : Option (List Char)) : Option ZenKeybinding :=
  if !allocs.binding then none
  else if customCmd.isSome && !allocs.customCmd then none
  else some { modifiers, keysym, action, customCmd := customCmd.map .ofList }

/-- The record of an object, unless it is refused. -/
def readObject (env : Env) (allocs : ObjectAllocs) (modifiers : UInt32) (obj : List Char) :
    Option ZenKeybinding := do
  let key ← allocStringField allocs.key obj "key"
  let action ← allocStringField allocs.action obj "action"
  let cmd := allocStringField allocs.command obj "command"
  let keysym := env.xkbKeysymFromName (.ofList key)
  if keysym = xkbKeyNoSymbol then none
  else
    let action ← parseActionString action
    registerBinding allocs modifiers keysym action cmd

/-- The loop over the binding objects, for at most `fuel` rounds, with the number of the
next object. -/
def bindingsLoop (env : Env) :
    (fuel i : Nat) → Pointer → List ZenKeybinding → Option (Int × List ZenKeybinding)
  | 0, _, _, _ => none
  | fuel + 1, i, p, keybindings => do
      let c ← p.head?
      if c = nul then some (0, keybindings)
      else
        let p ← skipSeparators p
        let c ← p.head?
        if c = ']' ∨ c = nul then some (0, keybindings)
        else if c ≠ '{' then some (-1, keybindings)
        else
          let objEnd ← matchBrace 0 p
          let obj := p.take (p.length - objEnd.length)
          let modifiers ← extractModifiersField obj objEnd
          match readObject env (env.objects i) modifiers obj with
          | none => some (-1, keybindings)
          | some binding => bindingsLoop env fuel (i + 1) objEnd (keybindings ++ [binding])

/-- `zen_keybinds_load_config` from the call of `strstr` on. -/
def loadBuffer (env : Env) (keybindings : List ZenKeybinding) (buf : Pointer) :
    Option (Int × List ZenKeybinding) := do
  match ← strstr (quote '"' "bindings".toList) buf with
  | none => some (-1, keybindings)
  | some p =>
      let p ← skipTo '[' p
      let c ← p.head?
      if c = nul then some (-1, keybindings)
      else bindingsLoop env (p.length + 1) 0 p.tail keybindings

/-- `zen_keybinds_load_config` on a file, which may be missing.  The characters of its
content are bytes. -/
def zenKeybindsLoadConfig (env : Env) (keybindings : List ZenKeybinding)
    (file : Option (List Char)) : Option (Int × List ZenKeybinding) :=
  match file with
  | none => some (0, keybindings)
  | some content =>
      if !env.fseek then some (-1, keybindings)
      else
        let fsize : Int := if env.ftell then content.length else -1
        if fsize ≤ 0 ∨ 65536 < fsize then some (-1, keybindings)
        else if !env.malloc || !env.fread then some (-1, keybindings)
        else loadBuffer env keybindings (content ++ [nul])

end ZenOS.Compositor.KeybindsBuffer
