import Mathlib.Data.List.Nodup
import ZenOS.Compositor.KeybindsObjects
import ZenOS.Compositor.KeybindsRoundTrip
import ZenOS.Compositor.KeybindsStrings
import ZenOS.Compositor.Overrides
import ZenOS.Compositor.ThemeFile

/-!
Bindings whose command is the literal of any string: what `zen_keybinds_load_config` makes
of the escapes and of the braces in it.
-/

namespace ZenOS.Compositor

open ZenOS.Library.QuotedText ZenOS.Library.Json ZenOS.Library.Nesting
open KeybindsBuffer (braceWeight)

section

variable (xkbKeysymFromName : String → UInt32)

/-- An entry whose command stands in the file as a literal, `raw` without its quotes. -/
structure LiteralEntry extends Entry xkbKeysymFromName where
  bare : command = none
  raw : List Char
  order : List Field
  perm : order.Perm (.command :: toEntry.fields)

end

namespace LiteralEntry

variable {xkbKeysymFromName : String → UInt32} (e : LiteralEntry xkbKeysymFromName)

def valueTokens (f : Field) : List Token :=
  if f = .command then [.word e.raw] else e.toEntry.valueTokens f

def memberTokens (f : Field) : List Token :=
  .word f.name.toList :: .mark ':' :: e.valueTokens f

/-- The object up to its closing brace. -/
def openTokens : List Token :=
  .mark '{' :: separated (e.order.map e.memberTokens)

/-- The object up to the value of a field, behind the members `before`. -/
def frontTokens (before : List Field) (f : Field) : List Token :=
  .mark '{' :: (before.flatMap (fun g => e.memberTokens g ++ [.mark ',']) ++
    [.word f.name.toList, .mark ':'])

/-- The rest of the object behind a value, with the members `behind`. -/
def behindTokens (behind : List Field) : List Token :=
  comma (behind.map e.memberTokens) ++ separated (behind.map e.memberTokens)

end LiteralEntry

section

variable {xkbKeysymFromName : String → UInt32}

/-- The document up to the object of an entry that comes behind others. -/
def arrayFront (before : List (PrintedEntry xkbKeysymFromName)) : List Token :=
  before.flatMap fun b => b.tokens ++ [.mark ',']

/-- A text that is the document up to the end of the entry, but for the whitespace between
tokens, and anything behind it. -/
def PrintsLiteral (before : List (PrintedEntry xkbKeysymFromName))
    (e : LiteralEntry xkbKeysymFromName) (text : List Char) : Prop :=
  ∃ pieces behind, render '"' pieces ++ behind = text ∧
    strip pieces = [.mark '{', .word "bindings".toList, .mark ':', .mark '['] ++
      (arrayFront before ++ (e.openTokens ++ [.mark '}']))

variable (xkbKeysymFromName) in
/-- The binding that the entry at an index of the file leaves in the registry has this
command. -/
def RegistersCommand (keybindings : List ZenKeybinding) (text : List Char) (i : Nat)
    (cmd : String) : Prop :=
  ((zenKeybindsLoadConfig xkbKeysymFromName keybindings (some text)).2[keybindings.length + i]?
    ).bind (·.customCmd) = some cmd

end

section Braces

variable {s : List Char} {d : Nat}

theorem splitObject_cons {c : Char} (hclose : ¬ (c = '}' ∧ d = 1)) (text : List Char) :
    splitObject d (c :: text) =
      (splitObject (if c = '{' then d + 1 else if c = '}' then d - 1 else d) text).map
        (c :: ·) id := by
  rw [splitObject, if_neg hclose]
  rfl

theorem depth_step {c : Char} (hd : 0 < d) (hclose : ¬ (c = '}' ∧ d = 1)) :
    0 < (if c = '{' then d + 1 else if c = '}' then d - 1 else d) ∧
      ((if c = '{' then d + 1 else if c = '}' then d - 1 else d : Nat) : ℤ) =
        d + braceWeight c := by
  unfold braceWeight
  split
  · omega
  split
  next hbrace =>
    have hone : d ≠ 1 := fun h => hclose ⟨hbrace, h⟩
    omega
  · omega

theorem splitObject_staysInside (h : StaysInside braceWeight d s) (text : List Char) :
    ∃ d' : Nat, (d' : ℤ) = d + depth braceWeight s ∧
      splitObject d (s ++ text) = (splitObject d' text).map (s ++ ·) id := by
  induction s generalizing d with
  | nil => exact ⟨d, by simp, rfl⟩
  | cons c s ih =>
      obtain ⟨hd, hs⟩ := staysInside_cons.mp h
      have hclose : ¬ (c = '}' ∧ d = 1) := by
        rintro ⟨rfl, rfl⟩
        exact absurd (hs [] List.nil_prefix) (by decide)
      obtain ⟨-, hstep⟩ := depth_step (by omega) hclose
      rw [← hstep] at hs
      obtain ⟨d', hd', hsplit⟩ := ih hs
      refine ⟨d', by rw [hd', hstep, depth_cons, add_assoc], ?_⟩
      rw [List.cons_append, splitObject_cons hclose, hsplit]
      rfl

theorem splitObject_cut (hd : 0 < d) (h : ¬ StaysInside braceWeight d s) (text : List Char) :
    (splitObject d (s ++ text)).1 <+: s := by
  induction s generalizing d with
  | nil => exact absurd (staysInside_nil.mpr (by omega)) h
  | cons c s ih =>
      by_cases hclose : c = '}' ∧ d = 1
      · rw [List.cons_append, splitObject, if_pos hclose]
        exact ⟨s, rfl⟩
      · obtain ⟨hpos, hstep⟩ := depth_step hd hclose
        have hs : ¬ StaysInside braceWeight
            (if c = '{' then d + 1 else if c = '}' then d - 1 else d : Nat) s := by
          rw [hstep]
          exact fun hs => h (staysInside_cons.mpr ⟨by omega, hs⟩)
        rw [List.cons_append, splitObject_cons hclose]
        exact List.cons_prefix_cons.mpr ⟨rfl, ih hpos hs⟩

theorem splitObject_around {front behind : List Char} (hfront : ∀ c ∈ front, braceWeight c = 0)
    (hbehind : ∀ c ∈ behind, braceWeight c = 0) (raw text : List Char) :
    (StaysInside braceWeight 1 raw → ∃ tail,
      (splitObject 0 ('{' :: (front ++ (raw ++ (behind ++ text))))).1 =
        '{' :: (front ++ (raw ++ (behind ++ tail)))) ∧
    (¬ StaysInside braceWeight 1 raw → ∃ cut, cut <+: raw ∧
      (splitObject 0 ('{' :: (front ++ (raw ++ (behind ++ text))))).1 =
        '{' :: (front ++ cut)) := by
  have hone : StaysInside braceWeight (1 : Nat) front :=
    staysInside_of_weightless (by decide) hfront
  obtain ⟨d, hd, hsplit⟩ := splitObject_staysInside hone (raw ++ (behind ++ text))
  obtain rfl : d = 1 := by
    rw [depth_of_weightless hfront] at hd
    omega
  rw [splitObject_cons (by decide)]
  simp only [if_pos, Nat.zero_add, Prod.map_fst, hsplit]
  constructor
  · intro hraw
    have hend := hraw raw List.prefix_rfl
    have hinside : StaysInside braceWeight (1 : Nat) (raw ++ behind) :=
      staysInside_append.mpr ⟨hraw, staysInside_of_weightless hend hbehind⟩
    obtain ⟨d', -, hsplit'⟩ := splitObject_staysInside hinside text
    rw [← List.append_assoc raw, hsplit']
    exact ⟨(splitObject d' text).1, by simp⟩
  · intro hraw
    exact ⟨_, splitObject_cut (by decide) hraw _, rfl⟩

end Braces

theorem separated_split {item : List Token} {items' : List (List Token)}
    (items : List (List Token)) :
    separated (items ++ item :: items') =
      items.flatMap (fun i => i ++ [.mark ',']) ++ (item ++ (comma items' ++ separated items')) := by
  induction items with
  | nil => rfl
  | cons first items ih =>
      rw [List.cons_append, separated_cons, ih, comma, if_neg (by simp), List.flatMap_cons,
        List.append_assoc, List.append_assoc]

/-- A piece in which no quote is left open. -/
def QuotedPiece : Token → Prop
  | .mark c => JsonPiece (.mark c)
  | .word s => '"' ∉ s

theorem QuotedPiece.proper {piece : Token} (h : QuotedPiece piece) : piece.Proper '"' := by
  cases piece with
  | mark c => exact JsonPiece.proper h
  | word s => exact h

theorem JsonPiece.quoted {piece : Token} (h : JsonPiece piece) : QuotedPiece piece := by
  cases piece with
  | mark c => exact h
  | word s => exact h.proper

namespace LiteralEntry

variable {xkbKeysymFromName : String → UInt32} {e : LiteralEntry xkbKeysymFromName} {f : Field}
  {before behind : List Field} {pieces : List Token}

theorem nodup_order : e.order.Nodup := by
  refine e.perm.nodup_iff.mpr ?_
  rw [Entry.fields, e.bare]
  decide

theorem mem_order (f : Field) : f ∈ e.order := by
  refine e.perm.mem_iff.mpr ?_
  rw [Entry.fields, e.bare]
  cases f <;> decide

theorem openTokens_split (horder : e.order = before ++ f :: behind) :
    e.openTokens = e.frontTokens before f ++ (e.valueTokens f ++ e.behindTokens behind) := by
  rw [openTokens, horder, List.map_append, List.map_cons, separated_split, List.flatMap_map,
    frontTokens, memberTokens, behindTokens]
  simp

theorem valueAt_valueTokens {key : List Char} (g : Field) {c : Char} {tokens : List Token}
    (hspace : isSpace c = false) (hc : c ≠ ':') :
    valueAt key (e.valueTokens g ++ .mark c :: tokens) = valueAt key tokens := by
  rw [valueTokens]
  split
  · exact valueAt_word_mark e.raw hspace hc
  · exact e.toEntry.valueAt_valueTokens g hspace hc

theorem valueAt_frontTokens (hf : f ∉ before) :
    valueAt f.name.toList (e.frontTokens before f) = some [] := by
  rw [frontTokens, valueAt_mark]
  induction before with
  | nil =>
      rw [List.flatMap_nil, List.nil_append, valueAt_key,
        afterColon_eq_some (List.dropWhile_cons_of_neg (by decide)), Option.some_or]
  | cons g before ih =>
      simp only [List.mem_cons, not_or] at hf
      have hname : g.name.toList ≠ f.name.toList := fun heq =>
        hf.1 (Field.name_injective heq).symm
      rw [List.flatMap_cons, List.append_assoc, List.append_assoc, memberTokens, List.cons_append,
        List.cons_append, List.singleton_append, valueAt_word_of_ne hname, valueAt_mark,
        e.valueAt_valueTokens g (by decide) (by decide), ih hf.2]

theorem bodyPiece_memberTokens
    (hxkb : ∀ name, xkbKeysymFromName name ≠ xkbKeyNoSymbol → ∀ c ∈ name.toList, c ∉ reserved)
    (g : Field) : ∀ piece ∈ e.memberTokens g,
      BodyPiece piece ∨ g = .command ∧ piece = .word e.raw := by
  have hname : BodyPiece (.word g.name.toList) := by cases g <;> decide
  rw [memberTokens, List.forall_mem_cons, List.forall_mem_cons]
  refine ⟨.inl hname, .inl (by decide), fun piece hpiece => ?_⟩
  rw [valueTokens] at hpiece
  split at hpiece
  next hcommand => exact .inr ⟨hcommand, List.mem_singleton.mp hpiece⟩
  · exact .inl (e.toEntry.bodyPiece_valueTokens hxkb g piece hpiece)

theorem bodyPiece_frontTokens
    (hxkb : ∀ name, xkbKeysymFromName name ≠ xkbKeyNoSymbol → ∀ c ∈ name.toList, c ∉ reserved) :
    ∀ piece ∈ (e.frontTokens before f).tail,
      BodyPiece piece ∨ .command ∈ before ∧ piece = .word e.raw := by
  have hname : BodyPiece (.word f.name.toList) := by cases f <;> decide
  rw [frontTokens, List.tail_cons, List.forall_mem_append, List.forall_mem_cons,
    List.forall_mem_singleton]
  refine ⟨fun piece hpiece => ?_, .inl hname, .inl (by decide)⟩
  obtain ⟨g, hg, hmem⟩ := List.mem_flatMap.mp hpiece
  rcases List.mem_append.mp hmem with hmem | hmem
  · refine (e.bodyPiece_memberTokens hxkb g piece hmem).imp_right ?_
    rintro ⟨rfl, rfl⟩
    exact ⟨hg, rfl⟩
  · rw [List.mem_singleton.mp hmem]
    exact .inl (by decide)

theorem bodyPiece_behindTokens
    (hxkb : ∀ name, xkbKeysymFromName name ≠ xkbKeyNoSymbol → ∀ c ∈ name.toList, c ∉ reserved)
    (hbehind : .command ∉ behind) : ∀ piece ∈ e.behindTokens behind, BodyPiece piece := by
  rw [behindTokens, List.forall_mem_append]
  refine ⟨fun piece hpiece => ?_, forall_mem_separated (by decide) ?_⟩
  · rw [eq_mark_of_mem_comma hpiece]
    decide
  · simp only [List.mem_map, forall_exists_index, and_imp]
    rintro _ g hg rfl piece hpiece
    rcases e.bodyPiece_memberTokens hxkb g piece hpiece with hbody | ⟨rfl, -⟩
    · exact hbody
    · exact absurd hg hbehind

theorem quoted_frontTokens
    (hxkb : ∀ name, xkbKeysymFromName name ≠ xkbKeyNoSymbol → ∀ c ∈ name.toList, c ∉ reserved)
    (hraw : .command ∈ before → '"' ∉ e.raw) :
    ∀ piece ∈ e.frontTokens before f, QuotedPiece piece := by
  have hhead : e.frontTokens before f = .mark '{' :: (e.frontTokens before f).tail := rfl
  rw [hhead, List.forall_mem_cons]
  refine ⟨.inr (by decide), fun piece hpiece => ?_⟩
  rcases e.bodyPiece_frontTokens hxkb piece hpiece with hbody | ⟨hcommand, rfl⟩
  · exact hbody.json.quoted
  · exact hraw hcommand

theorem extractStringField_front
    (hxkb : ∀ name, xkbKeysymFromName name ≠ xkbKeyNoSymbol → ∀ c ∈ name.toList, c ∉ reserved)
    (hraw : .command ∈ before → '"' ∉ e.raw) (hf : f ∉ before)
    (hstrip : strip pieces = e.frontTokens before f) (text : List Char) :
    extractStringField (render '"' pieces ++ '"' :: text) f.name = readString text := by
  have hquoted : ∀ piece ∈ pieces, QuotedPiece piece := by
    refine forall_of_strip (fun c hc => Or.inl hc) ?_
    rw [hstrip]
    exact quoted_frontTokens hxkb hraw
  have hvalue : (valueAt f.name.toList pieces).map strip = some [] := by
    rw [valueAt_strip, hstrip, valueAt_frontTokens hf]
  obtain ⟨rest, hsome, hrest⟩ := Option.map_eq_some_iff.mp hvalue
  obtain ⟨c, k, hname, hc, hkey⟩ := f.name_letters
  rw [hname] at hsome
  have hlength : pieces.length ≤ (render '"' pieces).length := length_le_render
  rw [extractStringField, hname]
  refine stringFieldLoop_open hkey (fun piece hpiece => (hquoted piece hpiece).proper)
    (fun hmem => hc (hquoted _ hmem)) hsome hrest ?_ text
  rw [List.length_append]
  omega

theorem extractStringField_open
    (hxkb : ∀ name, xkbKeysymFromName name ≠ xkbKeyNoSymbol → ∀ c ∈ name.toList, c ∉ reserved)
    (hraw : .command ≠ f → '"' ∉ e.raw) {s : List Char} (hvalue : e.valueTokens f = [.word s])
    (hs : Enclosed s) (hstrip : strip pieces = e.openTokens) (tail : List Char) :
    extractStringField (render '"' pieces ++ tail) f.name = some s := by
  obtain ⟨before, behind, horder⟩ := List.append_of_mem (e.mem_order f)
  have hnodup := e.nodup_order
  rw [horder, List.nodup_middle, List.nodup_cons, List.mem_append, not_or] at hnodup
  rw [e.openTokens_split horder, hvalue, List.singleton_append] at hstrip
  obtain ⟨front, rest, rfl, hfront, -⟩ := strip_split _ hstrip
  have hread := e.extractStringField_front hxkb
    (fun hmem => hraw (by rintro rfl; exact hnodup.1.1 hmem)) hnodup.1.1 hfront
    (s ++ '"' :: (render '"' rest ++ tail))
  rw [readString_enclosed hs] at hread
  rw [← hread]
  simp

end LiteralEntry

section Object

variable {xkbKeysymFromName : String → UInt32} {obj rest : List Char}

theorem parseBinding_customCmd {b : ZenKeybinding}
    (h : parseBinding xkbKeysymFromName obj rest = some b) :
    b.customCmd = (extractStringField obj "command").map .ofList := by
  simp only [parseBinding, Option.bind_eq_bind, Option.bind_eq_some_iff] at h
  obtain ⟨key, -, action, -, h⟩ := h
  split at h
  · cases h
  · obtain ⟨action, -, h⟩ := Option.bind_eq_some_iff.mp h
    cases h
    rfl

theorem parseBinding_of_fields {key actionStr : List Char} {action : ZenKeybindAction}
    (hkey : extractStringField obj "key" = some key)
    (hresolves : xkbKeysymFromName (.ofList key) ≠ xkbKeyNoSymbol)
    (hstr : extractStringField obj "action" = some actionStr)
    (haction : parseActionString actionStr = some action) :
    parseBinding xkbKeysymFromName obj rest =
      some { modifiers := extractModifiersField obj rest
             keysym := xkbKeysymFromName (.ofList key), action
             customCmd := (extractStringField obj "command").map .ofList } := by
  simp [parseBinding, hkey, hstr, haction, hresolves]

theorem braceWeight_render {pieces : List Token} (h : ∀ piece ∈ strip pieces, BodyPiece piece) :
    ∀ c ∈ render '"' pieces, braceWeight c = 0 := by
  have hbody : ∀ piece ∈ pieces, BodyPiece piece := forall_of_strip (fun c hc => Or.inl hc) h
  refine forall_mem_render (by decide) fun piece hpiece => ?_
  have hbrace := (hbody piece hpiece).no_brace
  cases piece with
  | mark c => simp [Piece.All, braceWeight, hbrace.1, hbrace.2]
  | word s =>
      intro c hc
      simp [braceWeight, hbrace c hc]

theorem LiteralEntry.parseBinding_open
    (hxkb : ∀ name, xkbKeysymFromName name ≠ xkbKeyNoSymbol → ∀ c ∈ name.toList, c ∉ reserved)
    (e : LiteralEntry xkbKeysymFromName) {s : List Char} (hliteral : IsLiteral e.raw s)
    (hescape : '\\' ∉ e.raw) {pieces : List Token} (hstrip : strip pieces = e.openTokens)
    (tail rest : List Char) :
    ∃ b, parseBinding xkbKeysymFromName (render '"' pieces ++ tail) rest = some b ∧
      b.customCmd = some (.ofList e.raw) := by
  have hquote := hliteral.no_quote hescape
  have henclosed : ∀ s : List Char, (∀ c ∈ s, c ∉ reserved) → Enclosed s := fun s hs =>
    .of_no_quote (fun h => hs _ h (by decide)) fun h => hs _ h (by decide)
  have hkey := e.extractStringField_open hxkb (fun _ => hquote) (f := .key) rfl
    (henclosed _ (hxkb _ e.resolves)) hstrip tail
  have haction := e.extractStringField_open hxkb (fun _ => hquote) (f := .action) rfl
    (henclosed _ (e.toEntry.bodyPiece_valueTokens hxkb .action _ List.mem_cons_self)) hstrip tail
  have hcommand := e.extractStringField_open hxkb (fun _ => hquote) (f := .command) rfl
    hliteral.enclosed hstrip tail
  refine ⟨_, parseBinding_of_fields hkey ?_ haction (parseActionString_actionName e.action), ?_⟩
  · rw [String.ofList_toList]
    exact e.resolves
  · exact congrArg (Option.map String.ofList) hcommand

theorem LiteralEntry.parseBinding_command_iff
    (hxkb : ∀ name, xkbKeysymFromName name ≠ xkbKeyNoSymbol → ∀ c ∈ name.toList, c ∉ reserved)
    (e : LiteralEntry xkbKeysymFromName) {cmd : String} (hliteral : IsLiteral e.raw cmd.toList)
    {pieces : List Token} (hstrip : .mark '{' :: strip pieces = e.openTokens ++ [.mark '}'])
    {text : List Char}
    (hobj : (splitObject 0 ('{' :: (render '"' pieces ++ text))).1 = obj) :
    (parseBinding xkbKeysymFromName obj rest).bind (·.customCmd) = some cmd ↔
      '\\' ∉ e.raw ∧ StaysInside braceWeight 1 e.raw := by
  obtain ⟨before, behind, horder⟩ := List.append_of_mem (e.mem_order .command)
  have hnodup := e.nodup_order
  rw [horder, List.nodup_middle, List.nodup_cons, List.mem_append, not_or] at hnodup
  have htokens : strip pieces = (e.frontTokens before .command).tail ++
      .word e.raw :: (e.behindTokens behind ++ [.mark '}']) := by
    rw [e.openTokens_split horder, LiteralEntry.valueTokens, if_pos rfl] at hstrip
    simpa [LiteralEntry.frontTokens] using hstrip
  obtain ⟨front, others, rfl, hfront, hothers⟩ := strip_split _ htokens
  obtain ⟨inner, space, rfl, hinner, hspace⟩ := strip_split _ hothers
  have hfrontWeight : ∀ c ∈ render '"' front ++ ['"'], braceWeight c = 0 := by
    rw [List.forall_mem_append, List.forall_mem_singleton]
    refine ⟨braceWeight_render fun piece hpiece => ?_, by decide⟩
    rw [hfront] at hpiece
    exact (e.bodyPiece_frontTokens hxkb piece hpiece).resolve_right fun h => hnodup.1.1 h.1
  have hinnerWeight : ∀ c ∈ '"' :: render '"' inner, braceWeight c = 0 := by
    rw [List.forall_mem_cons]
    refine ⟨by decide, braceWeight_render ?_⟩
    rw [hinner]
    exact e.bodyPiece_behindTokens hxkb hnodup.1.2
  have htext : render '"' (front ++ .word e.raw :: (inner ++ .mark '}' :: space)) ++ text =
      (render '"' front ++ ['"']) ++ (e.raw ++ ('"' :: render '"' inner ++
        '}' :: (render '"' space ++ text))) := by
    simp
  obtain ⟨hinside, hcut⟩ := splitObject_around hfrontWeight hinnerWeight e.raw
    ('}' :: (render '"' space ++ text))
  rw [htext] at hobj
  rw [hobj] at hinside hcut
  have hhead : strip (.mark '{' :: front) = e.frontTokens before .command := by
    rw [strip, List.filter_cons_of_pos (by decide), ← strip, hfront]
    rfl
  have hread : ∀ string, extractStringField ('{' :: (render '"' front ++ ['"'] ++ string))
      "command" = readString string := by
    intro string
    rw [← e.extractStringField_front hxkb (fun h => absurd h hnodup.1.1) hnodup.1.1 hhead string]
    simp [Field.name]
  constructor
  · intro h
    obtain ⟨b, hb, hcmd⟩ := Option.bind_eq_some_iff.mp h
    rw [parseBinding_customCmd hb] at hcmd
    obtain ⟨s, hs, rfl⟩ := Option.map_eq_some_iff.mp hcmd
    by_cases hraw : StaysInside braceWeight 1 e.raw
    · obtain ⟨tail, rfl⟩ := hinside hraw
      rw [hread, List.cons_append, readString_enclosed hliteral.enclosed, Option.some.injEq] at hs
      exact ⟨hliteral.eq_iff.mp (by simp [hs]), hraw⟩
    · obtain ⟨cut, hprefix, rfl⟩ := hcut hraw
      rw [hread, readString_prefix hliteral.enclosed hprefix] at hs
      cases hs
  · rintro ⟨hescape, hraw⟩
    obtain ⟨tail, rfl⟩ := hinside hraw
    have hopen : strip (.mark '{' :: (front ++ .word e.raw :: inner)) = e.openTokens := by
      rw [← List.cons_append, strip_append, hhead, strip, List.filter_cons_of_pos (by rfl),
        ← strip, hinner, e.openTokens_split horder, LiteralEntry.valueTokens, if_pos rfl]
      rfl
    obtain ⟨b, hb, hcmd⟩ := e.parseBinding_open hxkb hliteral hescape hopen tail rest
    have hobj' : render '"' (.mark '{' :: (front ++ .word e.raw :: inner)) ++ tail =
        '{' :: (render '"' front ++ ['"'] ++ (e.raw ++ ('"' :: render '"' inner ++ tail))) := by
      simp
    rw [← hobj', hb, Option.bind_some, hcmd, hliteral.eq_iff.mpr hescape, String.ofList_toList]

end Object

section File

variable {xkbKeysymFromName : String → UInt32}

theorem bindingsLoop_getElem? {p p' obj rest : List Char} (fuel : Nat)
    (keybindings : List ZenKeybinding) (hskip : skipSpaceAndCommas p = '{' :: p')
    (hobj : splitObject 0 ('{' :: p') = (obj, rest)) :
    (bindingsLoop xkbKeysymFromName (fuel + 1) p keybindings).2[keybindings.length]? =
      parseBinding xkbKeysymFromName obj rest := by
  rcases hbinding : parseBinding xkbKeysymFromName obj rest with _ | b
  · rw [bindingsLoop, hskip]
    simp [hobj, hbinding]
  · rw [bindingsLoop_object hskip hobj hbinding]
    obtain ⟨later, hlater⟩ := prefix_bindingsLoop xkbKeysymFromName fuel rest (keybindings ++ [b])
    rw [← hlater]
    simp

theorem bindingsLoop_front
    (hxkb : ∀ name, xkbKeysymFromName name ≠ xkbKeyNoSymbol → ∀ c ∈ name.toList, c ∉ reserved)
    (before : List (PrintedEntry xkbKeysymFromName)) {pieces : List Token} (lead : List Token)
    {tokens : List Token} (hlead : ∀ piece ∈ lead, piece = .mark ',')
    (hstrip : strip pieces = lead ++ (arrayFront before ++ tokens)) (fuel : Nat)
    (keybindings : List ZenKeybinding) (rest : List Char) :
    ∃ pieces' lead', bindingsLoop xkbKeysymFromName (fuel + before.length)
        (render '"' pieces ++ rest) keybindings =
      bindingsLoop xkbKeysymFromName fuel (render '"' pieces' ++ rest)
        (keybindings ++ before.map fun b => b.binding) ∧
      (∀ piece ∈ lead', piece = .mark ',') ∧ strip pieces' = lead' ++ tokens := by
  induction before generalizing pieces lead keybindings with
  | nil => exact ⟨pieces, lead, by simp, hlead, hstrip⟩
  | cons b before ih =>
      rw [arrayFront, List.flatMap_cons, ← arrayFront, List.append_assoc, List.append_assoc] at hstrip
      obtain ⟨behind, hloop, hbehind⟩ :=
        bindingsLoop_entry hxkb b lead hlead hstrip (fuel + before.length) keybindings rest
      obtain ⟨pieces', lead', hfront, hcommas, hpieces'⟩ :=
        ih [.mark ','] (by simp) hbehind (keybindings ++ [b.binding])
      refine ⟨pieces', lead', ?_, hcommas, hpieces'⟩
      rw [List.length_cons, ← Nat.add_assoc, hloop, hfront]
      simp

theorem length_arrayFront_le (before : List (PrintedEntry xkbKeysymFromName)) :
    before.length ≤ (arrayFront before).length := by
  induction before with
  | nil => exact Nat.zero_le _
  | cons b before ih =>
      rw [arrayFront, List.flatMap_cons, ← arrayFront, List.length_append, List.length_append,
        List.length_cons, List.length_singleton]
      omega

theorem bindingsLoop_literal
    (hxkb : ∀ name, xkbKeysymFromName name ≠ xkbKeyNoSymbol → ∀ c ∈ name.toList, c ∉ reserved)
    (before : List (PrintedEntry xkbKeysymFromName)) (e : LiteralEntry xkbKeysymFromName)
    {cmd : String} (hliteral : IsLiteral e.raw cmd.toList) {pieces : List Token}
    (hstrip : strip pieces = arrayFront before ++ (e.openTokens ++ [.mark '}']))
    (keybindings : List ZenKeybinding) (rest : List Char) {fuel : Nat}
    (hfuel : before.length < fuel) :
    ((bindingsLoop xkbKeysymFromName fuel (render '"' pieces ++ rest)
        keybindings).2[keybindings.length + before.length]?).bind (·.customCmd) = some cmd ↔
      '\\' ∉ e.raw ∧ StaysInside braceWeight 1 e.raw := by
  obtain ⟨n, rfl⟩ : ∃ n, fuel = n + 1 + before.length := ⟨fuel - before.length - 1, by omega⟩
  obtain ⟨pieces', lead, hloop, hlead, hpieces'⟩ :=
    bindingsLoop_front hxkb before [] (by simp) hstrip (n + 1) keybindings rest
  rw [LiteralEntry.openTokens, List.cons_append] at hpieces'
  obtain ⟨inside, hskip, hinside, -⟩ :=
    dropWhile_render isSpace_or_comma lead (commas_skipped hlead) rfl hpieces' rest
  rw [render_mark, List.cons_append] at hskip
  have hlength : keybindings.length + before.length =
      (keybindings ++ before.map fun b => b.binding).length := by
    simp
  rw [hloop, hlength, bindingsLoop_getElem? n _ hskip rfl]
  exact e.parseBinding_command_iff hxkb hliteral (congrArg _ hinside) rfl

theorem no_nul_literalTokens
    (hxkb : ∀ name, xkbKeysymFromName name ≠ xkbKeyNoSymbol → ∀ c ∈ name.toList, c ∉ reserved)
    (before : List (PrintedEntry xkbKeysymFromName)) (e : LiteralEntry xkbKeysymFromName)
    {s : List Char} (hliteral : IsLiteral e.raw s) :
    ∀ piece ∈ arrayFront before ++ (e.openTokens ++ [.mark '}']), piece.All (· ≠ '\x00') := by
  have hbody : ∀ piece : Token, BodyPiece piece → piece.All (· ≠ '\x00') := fun piece h =>
    h.json.no_nul
  have hraw : Piece.All (· ≠ '\x00') (.word e.raw) := by
    intro c hc hnul
    have hcontrol := hliteral.no_control c hc
    rw [hnul] at hcontrol
    exact absurd hcontrol (by decide)
  rw [LiteralEntry.openTokens]
  simp only [List.cons_append, List.forall_mem_append, List.forall_mem_cons]
  refine ⟨fun piece hpiece => ?_, (by decide : '{' ≠ '\x00'), forall_mem_separated
    (by decide : ',' ≠ '\x00') ?_, (by decide : '}' ≠ '\x00'), by simp⟩
  · obtain ⟨b, -, hmem⟩ := List.mem_flatMap.mp hpiece
    rcases List.mem_append.mp hmem with hmem | hmem
    · exact (b.jsonPiece_tokens hxkb piece hmem).no_nul
    · rw [List.mem_singleton.mp hmem]
      exact (by decide : ',' ≠ '\x00')
  · simp only [List.mem_map, forall_exists_index, and_imp]
    rintro _ g - rfl piece hpiece
    rcases e.bodyPiece_memberTokens hxkb g piece hpiece with h | ⟨-, rfl⟩
    · exact hbody piece h
    · exact hraw

theorem exists_array {pieces : List Token} {tokens : List Token}
    (hstrip : strip pieces =
      [.mark '{', .word "bindings".toList, .mark ':', .mark '['] ++ tokens) (rest : List Char) :
    ∃ pos array, after (quote '"' "bindings".toList) (render '"' pieces ++ rest) = some pos ∧
      pos.dropWhile (· ≠ '[') = '[' :: (render '"' array ++ rest) ∧ strip array = tokens := by
  obtain ⟨front, value, rfl, hfront, hvalue⟩ := strip_split [.mark '{'] hstrip
  have hname : strip (front ++ [.word "bindings".toList]) =
      .mark '{' :: [.word "bindings".toList] := by
    rw [strip_append, hfront]
    rfl
  have hjson : ∀ piece ∈ front ++ [.word "bindings".toList], JsonPiece piece := by
    refine forall_of_strip (fun c hc => Or.inl hc) ?_
    rw [hname]
    decide
  obtain ⟨space, hafter, hspace⟩ := after_bindings hjson hname
  have hcolon : strip (space ++ value) = [.mark ':'] ++ .mark '[' :: tokens := by
    rw [strip_append, hspace, hvalue]
    rfl
  obtain ⟨array, hdrop, harray, -⟩ := dropWhile_render (p := (· ≠ '['))
    (fun c hc => by simpa using isSpace_bracket hc) [.mark ':'] (by simp) rfl hcolon rest
  refine ⟨render '"' (space ++ value) ++ rest, array, ?_, hdrop, harray⟩
  have hlong := after_append hafter (render '"' value ++ rest)
  rw [← List.append_assoc, ← render_append, ← List.append_assoc, ← render_append,
    List.append_assoc, List.singleton_append] at hlong
  exact hlong

theorem registersCommand_iff
    (hxkb : ∀ name, xkbKeysymFromName name ≠ xkbKeyNoSymbol → ∀ c ∈ name.toList, c ∉ reserved)
    (before : List (PrintedEntry xkbKeysymFromName)) (e : LiteralEntry xkbKeysymFromName)
    {cmd : String} (hliteral : IsLiteral e.raw cmd.toList) {text : List Char}
    (hprints : PrintsLiteral before e text) (hsize : (String.ofList text).utf8ByteSize ≤ 65536)
    (keybindings : List ZenKeybinding) :
    RegistersCommand xkbKeysymFromName keybindings text before.length cmd ↔
      '\\' ∉ e.raw ∧ StaysInside braceWeight 1 e.raw := by
  obtain ⟨pieces, behind, rfl, hstrip⟩ := hprints
  have hnul : ∀ c ∈ render '"' pieces, c ≠ '\x00' := by
    refine forall_mem_render (by decide) (forall_of_strip ?_ ?_)
    · rintro c hc rfl
      cases hc
    · rw [hstrip, List.forall_mem_append]
      refine ⟨?_, no_nul_literalTokens hxkb before e hliteral⟩
      have hjson : ∀ piece ∈ [.mark '{', .word "bindings".toList, .mark ':', .mark '['],
          JsonPiece piece := by
        decide
      exact fun piece hpiece => (hjson piece hpiece).no_nul
  have hbuf : (render '"' pieces ++ behind).takeWhile (· ≠ '\x00') =
      render '"' pieces ++ behind.takeWhile (· ≠ '\x00') :=
    List.takeWhile_append_of_pos fun c hc => by simpa using hnul c hc
  have hempty : (String.ofList (render '"' pieces ++ behind)).utf8ByteSize ≠ 0 := by
    have hpieces : pieces ≠ [] := by
      rintro rfl
      cases hstrip
    have hlength := (List.length_pos_iff.mpr hpieces).trans_le (length_le_render (q := '"'))
    rw [Ne, String.utf8ByteSize_eq_zero_iff, String.ofList_eq_empty_iff, List.append_eq_nil_iff]
    exact fun h => List.length_pos_iff.mp hlength h.1
  obtain ⟨pos, array, hafter, hdrop, harray⟩ :=
    exists_array hstrip (behind.takeWhile (· ≠ '\x00'))
  have hfuel : before.length < (render '"' array ++ behind.takeWhile (· ≠ '\x00')).length + 1 := by
    have hfront := length_arrayFront_le before
    have hpieces : (strip array).length ≤ array.length := List.length_filter_le _ _
    have hrender : array.length ≤ (render '"' array).length := length_le_render
    rw [harray, List.length_append] at hpieces
    rw [List.length_append]
    omega
  rw [← bindingsLoop_literal hxkb before e hliteral harray keybindings _ hfuel, RegistersCommand]
  simp only [zenKeybindsLoadConfig, hbuf, hafter, hdrop]
  rw [if_neg (by omega)]

/-- The commands and the wallpaper paths that are read back as they were written. -/
theorem literals_decoded_iff
    (hxkb : ∀ name, xkbKeysymFromName name ≠ xkbKeyNoSymbol → ∀ c ∈ name.toList, c ∉ reserved)
    (before : List (PrintedEntry xkbKeysymFromName)) (e : LiteralEntry xkbKeysymFromName)
    {text : List Char} (hprints : PrintsLiteral before e text)
    (hsize : (String.ofList text).utf8ByteSize ≤ 65536) (keybindings : List ZenKeybinding)
    {raw : List Char} (t : ThemeFile raw) (htheme : (String.ofList t.text).utf8ByteSize ≤ 65536)
    {s : String} (hcommand : IsLiteral e.raw s.toList) (hpath : IsLiteral raw s.toList) :
    (RegistersCommand xkbKeysymFromName keybindings text before.length s ↔
      '\\' ∉ e.raw ∧ StaysInside braceWeight 1 e.raw) ∧
    (parseWallpaperPathFromTheme (some t.text) = some s.toList ↔
      t.NamedFirst ∧ '\\' ∉ raw ∨ ¬ t.NamedFirst ∧ FirstMemberReads t.text s.toList) :=
  ⟨registersCommand_iff hxkb before e hcommand hprints hsize keybindings,
    t.parse_iff hpath htheme⟩

end File

/-- Return with a command for every literal, the members in an order of their own. -/
def returnCommand (raw : List Char) : LiteralEntry returnKeysym where
  modifiers := [⟨.ctrl, "ctrl".toList, by decide⟩]
  key := "Return"
  action := .custom
  command := none
  resolves := returnEntry.resolves
  plain := by simp
  bare := rfl
  raw := raw
  order := [.key, .command, .action, .modifiers]
  perm := by decide

/-- A theme file with the literal of the path as its only member. -/
def pathOnly (raw : List Char) : ThemeFile raw where
  front := ['{']
  space := []
  space' := [' ']
  behind := ['}']
  spaces := by simp [isSpace]
  no_nul := by simp

def commandFile (raw : List Char) : List Char :=
  render '"' ([.mark '{', .word "bindings".toList, .mark ':', .mark '['] ++
    (arrayFront [returnEntry] ++ ((returnCommand raw).openTokens ++ [.mark '}']))) ++ [']', '}']

theorem printsLiteral_commandFile (raw : List Char) :
    PrintsLiteral [returnEntry] (returnCommand raw) (commandFile raw) :=
  ⟨_, _, rfl, rfl⟩

/-- Braces that pair up do no harm. -/
theorem literals_decoded_braces :
    let s := "\x7bls\x7d"
    RegistersCommand returnKeysym [] (commandFile s.toList) 1 s ∧
      parseWallpaperPathFromTheme (some (pathOnly s.toList).text) = some s.toList := by
  intro s
  have hliteral : IsLiteral s.toList s.toList := by decide
  have hiff := literals_decoded_iff returnKeysym_names [returnEntry] (returnCommand s.toList)
    (printsLiteral_commandFile _) (by decide +kernel) [] (pathOnly s.toList) (by decide +kernel)
    hliteral hliteral
  exact ⟨hiff.1.mpr ⟨by decide, by decide⟩, hiff.2.mpr (.inl ⟨by decide +kernel, by decide⟩)⟩

/-- A command with quotes and a path with quotes keep the backslashes of their literals. -/
theorem quoted_literals_misread :
    let raw := "say \\\"hi\\\"".toList
    let s := "say \"hi\""
    IsLiteral raw s.toList ∧ PrintsLiteral [returnEntry] (returnCommand raw) (commandFile raw) ∧
      (∀ b ∈ (zenKeybindsLoadConfig returnKeysym [] (some (commandFile raw))).2,
        b.customCmd ≠ some s) ∧
      parseWallpaperPathFromTheme (some (pathOnly raw).text) ≠ some s.toList := by
  intro raw s
  refine ⟨by decide, printsLiteral_commandFile raw, ?_, by decide +kernel⟩
  decide +kernel

end ZenOS.Compositor
