import ZenOS.Compositor.KeybindsFields
import Mathlib.Data.List.TakeWhile

/-!
What `zen_keybinds_load_config` reads from a file that prints a list of bindings.
-/

namespace ZenOS.Compositor

open ZenOS.Library.QuotedText

/-- A piece that may stand between the braces of an object. -/
def BodyPiece : Token → Prop
  | .mark c => isSpace c ∨ c ∈ [',', ':', '[', ']']
  | .word s => ∀ c ∈ s, c ∉ reserved

instance : DecidablePred BodyPiece
  | .mark c => inferInstanceAs (Decidable (isSpace c ∨ c ∈ [',', ':', '[', ']']))
  | .word s => List.decidableBAll (· ∉ reserved) s

section Pieces

variable {piece : Token} {xkbKeysymFromName : String → UInt32}

theorem BodyPiece.json (h : BodyPiece piece) : JsonPiece piece := by
  cases piece with
  | mark c =>
      refine h.imp_right fun hc => ?_
      simp only [List.mem_cons, List.not_mem_nil, or_false] at hc ⊢
      tauto
  | word s => exact h

theorem BodyPiece.no_brace (h : BodyPiece piece) :
    piece.All fun c => c ≠ '{' ∧ c ≠ '}' := by
  cases piece with
  | mark c => constructor <;> rintro rfl <;> revert h <;> decide
  | word s =>
      intro c hc
      have hreserved := h c hc
      simp only [reserved, List.mem_cons, not_or] at hreserved
      exact ⟨hreserved.2.2.1, hreserved.2.2.2.1⟩

theorem JsonPiece.no_nul (h : JsonPiece piece) : piece.All (· ≠ '\x00') := by
  cases piece with
  | mark c =>
      rintro rfl
      revert h
      decide
  | word s =>
      intro c hc hnul
      exact h c hc (by simp [hnul, reserved])

theorem forall_of_strip {P : Token → Prop} {pieces : List Token}
    (hspace : ∀ c, isSpace c = true → P (.mark c)) (h : ∀ piece ∈ strip pieces, P piece) :
    ∀ piece ∈ pieces, P piece := by
  intro piece hpiece
  rcases hp : isSpacePiece piece with _ | _
  · exact h piece (List.mem_filter.mpr ⟨hpiece, by simp [hp]⟩)
  · cases piece with
    | mark c => exact hspace c hp
    | word s => cases hp

theorem forall_mem_separated {P : Token → Prop} {items : List (List Token)}
    (hcomma : P (.mark ',')) (h : ∀ item ∈ items, ∀ piece ∈ item, P piece) :
    ∀ piece ∈ separated items, P piece := by
  induction items with
  | nil => simp [separated]
  | cons item items ih =>
      rw [separated_cons]
      simp only [List.forall_mem_append]
      refine ⟨h item List.mem_cons_self, ?_, ih fun i hi => h i (List.mem_cons_of_mem _ hi)⟩
      intro piece hpiece
      rwa [eq_mark_of_mem_comma hpiece]

theorem Plain.notMem_reserved {c : Char} (h : Plain c) : c ∉ reserved := by
  obtain ⟨hc, hcontrol⟩ := h
  intro hreserved
  rcases List.mem_append.mp (show c ∈ ['"', '\\', '{', '}'] ++ ['\x00'] from hreserved) with
    hquote | hnul
  · exact hc hquote
  · rw [List.mem_singleton.mp hnul] at hcontrol
    exact absurd hcontrol (by decide)

theorem Entry.bodyPiece_valueTokens
    (hxkb : ∀ name, xkbKeysymFromName name ≠ xkbKeyNoSymbol → ∀ c ∈ name.toList, c ∉ reserved)
    (e : Entry xkbKeysymFromName) (f : Field) : ∀ piece ∈ e.valueTokens f, BodyPiece piece := by
  cases f with
  | modifiers =>
      simp only [Entry.valueTokens, List.forall_mem_cons, List.forall_mem_append]
      refine ⟨by decide, forall_mem_separated (by decide) ?_, by decide, by simp⟩
      simp only [List.mem_map, forall_exists_index, and_imp]
      rintro _ m - rfl piece hpiece
      rw [List.mem_singleton.mp hpiece]
      exact fun c hc => m.notMem_reserved hc
  | key =>
      intro piece hpiece
      rw [List.mem_singleton.mp hpiece]
      exact hxkb e.key e.resolves
  | action =>
      rw [Entry.valueTokens]
      cases e.action <;> decide
  | command =>
      rw [Entry.valueTokens]
      rcases hcmd : e.command with _ | cmd
      · simp
      · intro piece hpiece
        rw [List.mem_singleton.mp hpiece]
        exact fun c hc => (e.plain cmd (by simp [hcmd]) c hc).notMem_reserved

theorem Entry.bodyPiece_members
    (hxkb : ∀ name, xkbKeysymFromName name ≠ xkbKeyNoSymbol → ∀ c ∈ name.toList, c ∉ reserved)
    (e : Entry xkbKeysymFromName) (order : List Field) :
    ∀ piece ∈ separated (order.map e.memberTokens), BodyPiece piece := by
  refine forall_mem_separated (by decide) ?_
  simp only [List.mem_map, forall_exists_index, and_imp]
  rintro _ f - rfl
  rw [Entry.memberTokens, List.forall_mem_cons, List.forall_mem_cons]
  refine ⟨?_, by decide, e.bodyPiece_valueTokens hxkb f⟩
  cases f <;> decide

theorem PrintedEntry.jsonPiece_tokens
    (hxkb : ∀ name, xkbKeysymFromName name ≠ xkbKeyNoSymbol → ∀ c ∈ name.toList, c ∉ reserved)
    (e : PrintedEntry xkbKeysymFromName) : ∀ piece ∈ e.tokens, JsonPiece piece := by
  rw [PrintedEntry.tokens, List.forall_mem_cons, List.forall_mem_append]
  exact ⟨by decide, fun piece hpiece => (e.bodyPiece_members hxkb e.order piece hpiece).json,
    by decide⟩

theorem jsonPiece_documentTokens
    (hxkb : ∀ name, xkbKeysymFromName name ≠ xkbKeyNoSymbol → ∀ c ∈ name.toList, c ∉ reserved)
    (entries : List (PrintedEntry xkbKeysymFromName)) :
    ∀ piece ∈ documentTokens entries, JsonPiece piece := by
  simp only [documentTokens, List.forall_mem_append]
  refine ⟨by decide, forall_mem_separated (by decide) ?_, by decide⟩
  simp only [List.mem_map, forall_exists_index, and_imp]
  rintro _ e - rfl
  exact e.jsonPiece_tokens hxkb

end Pieces

section Objects

variable {s rest : List Char}

theorem splitObject_body (h : ∀ c ∈ s, c ≠ '{' ∧ c ≠ '}') :
    splitObject 1 (s ++ '}' :: rest) = (s ++ ['}'], rest) := by
  induction s with
  | nil => simp [splitObject]
  | cons c s ih =>
      obtain ⟨hopen, hclose⟩ := h c List.mem_cons_self
      rw [List.cons_append, splitObject, if_neg (by simp [hclose])]
      simp only [if_neg hopen, if_neg hclose]
      rw [ih fun d hd => h d (List.mem_cons_of_mem _ hd)]
      rfl

theorem splitObject_object (h : ∀ c ∈ s, c ≠ '{' ∧ c ≠ '}') :
    splitObject 0 ('{' :: (s ++ '}' :: rest)) = ('{' :: (s ++ ['}']), rest) := by
  rw [splitObject, if_neg (by decide)]
  simp only [if_pos, Nat.zero_add]
  rw [splitObject_body h]

theorem strip_split (tokens : List Token) {pieces tokens' : List Token} {token : Token}
    (h : strip pieces = tokens ++ token :: tokens') :
    ∃ before behind, pieces = before ++ token :: behind ∧ strip before = tokens ∧
      strip behind = tokens' := by
  obtain ⟨before, others, rfl, hbefore, hothers⟩ := List.filter_eq_append_iff.mp h
  obtain ⟨space, behind, rfl, hspace, -, hbehind⟩ := List.filter_eq_cons_iff.mp hothers
  refine ⟨before ++ space, behind, by simp, ?_, hbehind⟩
  rw [strip_append, strip, strip, hbefore, List.filter_eq_nil_iff.mpr hspace, List.append_nil]

end Objects

section File

variable {xkbKeysymFromName : String → UInt32} {pieces : List Token}

theorem bindingsLoop_end {p p' : List Char} {fuel : Nat} {keybindings : List ZenKeybinding}
    (hskip : skipSpaceAndCommas p = ']' :: p') :
    bindingsLoop xkbKeysymFromName fuel p keybindings = (0, keybindings) := by
  cases fuel with
  | zero => rfl
  | succ fuel =>
      rw [bindingsLoop, hskip]
      rfl

theorem bindingsLoop_object {p p' obj rest : List Char} {fuel : Nat}
    {keybindings : List ZenKeybinding} {binding : ZenKeybinding}
    (hskip : skipSpaceAndCommas p = '{' :: p') (hobj : splitObject 0 ('{' :: p') = (obj, rest))
    (hbinding : parseBinding xkbKeysymFromName obj rest = some binding) :
    bindingsLoop xkbKeysymFromName (fuel + 1) p keybindings =
      bindingsLoop xkbKeysymFromName fuel rest (keybindings ++ [binding]) := by
  rw [bindingsLoop, hskip]
  simp [hobj, hbinding]

theorem PrintedEntry.splitObject_render
    (hxkb : ∀ name, xkbKeysymFromName name ≠ xkbKeyNoSymbol → ∀ c ∈ name.toList, c ∉ reserved)
    (e : PrintedEntry xkbKeysymFromName) (pieces : List Token) {tokens : List Token}
    (hstrip : .mark '{' :: strip pieces = e.tokens ++ tokens) (rest : List Char) :
    ∃ obj behind, splitObject 0 ('{' :: (render '"' pieces ++ rest)) =
        (render '"' obj, render '"' behind ++ rest) ∧
      strip obj = e.tokens ∧ strip behind = tokens ∧ ∀ piece ∈ obj, JsonPiece piece := by
  rw [PrintedEntry.tokens, List.cons_append, List.cons.injEq, List.append_assoc,
    List.singleton_append] at hstrip
  obtain ⟨body, behind, rfl, hbody, hbehind⟩ := strip_split _ hstrip.2
  have hpieces : ∀ piece ∈ body, BodyPiece piece := by
    refine forall_of_strip (fun c hc => Or.inl hc) ?_
    rw [hbody]
    exact e.bodyPiece_members hxkb e.order
  have hbraces : ∀ c ∈ render '"' body, c ≠ '{' ∧ c ≠ '}' :=
    forall_mem_render (by decide) fun piece hpiece => (hpieces piece hpiece).no_brace
  refine ⟨.mark '{' :: (body ++ [.mark '}']), behind, ?_, ?_, hbehind, ?_⟩
  · rw [render_append, render_mark, List.append_assoc, List.cons_append,
      splitObject_object hbraces, render_mark, render_append, render_mark, render_nil]
  · rw [PrintedEntry.tokens, ← hbody, strip, List.filter_cons_of_pos (by decide), ← strip,
      strip_append]
    rfl
  · rw [List.forall_mem_cons, List.forall_mem_append]
    exact ⟨by decide, fun piece hpiece => (hpieces piece hpiece).json, by decide⟩

theorem bindingsLoop_entry
    (hxkb : ∀ name, xkbKeysymFromName name ≠ xkbKeyNoSymbol → ∀ c ∈ name.toList, c ∉ reserved)
    (e : PrintedEntry xkbKeysymFromName) (lead : List Token) {tokens : List Token}
    (hlead : ∀ piece ∈ lead, piece = .mark ',')
    (hstrip : strip pieces = lead ++ (e.tokens ++ tokens)) (fuel : Nat)
    (keybindings : List ZenKeybinding) (rest : List Char) :
    ∃ behind, bindingsLoop xkbKeysymFromName (fuel + 1) (render '"' pieces ++ rest) keybindings =
        bindingsLoop xkbKeysymFromName fuel (render '"' behind ++ rest)
          (keybindings ++ [e.binding]) ∧
      strip behind = tokens := by
  rw [PrintedEntry.tokens, List.cons_append] at hstrip
  obtain ⟨pieces', hskip, hpieces', -⟩ :=
    dropWhile_render isSpace_or_comma lead (commas_skipped hlead) rfl hstrip rest
  rw [render_mark, List.cons_append] at hskip
  obtain ⟨obj, behind, hobj, htokens, hbehind, hjson⟩ :=
    e.splitObject_render hxkb pieces' (congrArg _ hpieces') rest
  exact ⟨behind, bindingsLoop_object hskip hobj (e.parseBinding_render hjson htokens _), hbehind⟩

theorem bindingsLoop_render
    (hxkb : ∀ name, xkbKeysymFromName name ≠ xkbKeyNoSymbol → ∀ c ∈ name.toList, c ∉ reserved)
    (entries : List (PrintedEntry xkbKeysymFromName)) (lead : List Token) {tail : List Token}
    (hlead : ∀ piece ∈ lead, piece = .mark ',')
    (hstrip : strip pieces =
      lead ++ (separated (entries.map PrintedEntry.tokens) ++ .mark ']' :: tail))
    {fuel : Nat} (hfuel : entries.length < fuel) (keybindings : List ZenKeybinding) :
    bindingsLoop xkbKeysymFromName fuel (render '"' pieces) keybindings =
      (0, keybindings ++ entries.map fun e => e.binding) := by
  induction entries generalizing pieces lead fuel keybindings with
  | nil =>
      obtain ⟨pieces', hskip, -, -⟩ :=
        dropWhile_render isSpace_or_comma lead (commas_skipped hlead) (by decide) hstrip []
      rw [List.append_nil] at hskip
      rw [List.map_nil, List.append_nil]
      exact bindingsLoop_end hskip
  | cons e entries ih =>
      obtain ⟨fuel, rfl⟩ : ∃ n, fuel = n + 1 := ⟨fuel - 1, by omega⟩
      rw [List.map_cons, separated_cons, List.append_assoc] at hstrip
      obtain ⟨behind, hloop, hbehind⟩ := bindingsLoop_entry hxkb e lead hlead hstrip fuel keybindings []
      rw [List.append_nil, List.append_nil] at hloop
      rw [List.append_assoc] at hbehind
      rw [hloop, ih _ (fun piece hpiece => eq_mark_of_mem_comma hpiece) hbehind
        (by simpa using hfuel)]
      simp

theorem after_bindings {tokens : List Token} (hjson : ∀ piece ∈ pieces, JsonPiece piece)
    (hstrip : strip pieces = .mark '{' :: .word "bindings".toList :: tokens) :
    ∃ behind, after (quote '"' "bindings".toList) (render '"' pieces) =
        some (render '"' behind) ∧ strip behind = tokens := by
  obtain ⟨before, behind, rfl, hbefore, hbehind⟩ :=
    strip_split [.mark '{'] hstrip
  refine ⟨behind, ?_, hbehind⟩
  have hname : "bindings".toList = 'b' :: "indings".toList := rfl
  have hmark : Piece.mark 'b' ∉ before ++ .word "bindings".toList :: behind := fun hmem =>
    absurd (hjson _ hmem) (by decide)
  have hother : ∀ piece ∈ before, ∃ c, piece = .mark c := by
    refine forall_of_strip (fun c _ => ⟨c, rfl⟩) ?_
    rw [hbefore, List.forall_mem_singleton]
    exact ⟨'{', rfl⟩
  rw [hname] at hjson hmark ⊢
  refine after_render_append (by decide) (fun piece hpiece => (hjson piece hpiece).proper) hmark ?_
  intro hmem
  obtain ⟨c, hc⟩ := hother _ hmem
  cases hc

/-- Reading a file that prints a list of bindings adds exactly these bindings. -/
theorem zenKeybindsLoadConfig_prints
    (hxkb : ∀ name, xkbKeysymFromName name ≠ xkbKeyNoSymbol → ∀ c ∈ name.toList, c ∉ reserved)
    (entries : List (PrintedEntry xkbKeysymFromName)) (text : List Char)
    (hprints : Prints entries text) (hsize : (String.ofList text).utf8ByteSize ≤ 65536)
    (keybindings : List ZenKeybinding) :
    zenKeybindsLoadConfig xkbKeysymFromName keybindings (some text) =
      (0, keybindings ++ entries.map fun e => e.binding) := by
  obtain ⟨pieces, rfl, hstrip⟩ := hprints
  have hjson : ∀ piece ∈ pieces, JsonPiece piece := by
    refine forall_of_strip (fun c hc => Or.inl hc) ?_
    rw [hstrip]
    exact jsonPiece_documentTokens hxkb entries
  have hnul : ∀ c ∈ render '"' pieces, c ≠ '\x00' :=
    forall_mem_render (by decide) fun piece hpiece => (hjson piece hpiece).no_nul
  have hbuf : (render '"' pieces).takeWhile (· ≠ '\x00') = render '"' pieces :=
    List.takeWhile_eq_self_iff.mpr (by simpa using hnul)
  have hempty : (String.ofList (render '"' pieces)).utf8ByteSize ≠ 0 := by
    have hpieces : pieces ≠ [] := by
      rintro rfl
      cases hstrip
    have hlength := (List.length_pos_iff.mpr hpieces).trans_le (length_le_render (q := '"'))
    rw [Ne, String.utf8ByteSize_eq_zero_iff, String.ofList_eq_empty_iff]
    exact List.length_pos_iff.mp hlength
  obtain ⟨behind, hafter, hbehind⟩ := after_bindings hjson hstrip
  obtain ⟨array, hdrop, harray, -⟩ := dropWhile_render (p := (· ≠ '['))
    (fun c hc => by simpa using isSpace_bracket hc) [.mark ':'] (by simp) rfl hbehind []
  rw [List.append_nil, List.append_nil, render_mark] at hdrop
  have hlength := length_le_of_strip (by simp [PrintedEntry.tokens]) harray
  rw [List.length_map] at hlength
  have hloop := bindingsLoop_render hxkb entries [] (by simp) harray
    (Nat.lt_succ_of_le hlength) keybindings
  simp only [zenKeybindsLoadConfig, hbuf, hafter, hdrop]
  rw [if_neg (by omega)]
  exact hloop

/-- A keymap with a single name. -/
def returnKeysym (name : String) : UInt32 :=
  if name = "Return" then 0xff0d else xkbKeyNoSymbol

theorem returnKeysym_names (name : String) (hname : returnKeysym name ≠ xkbKeyNoSymbol) :
    ∀ c ∈ name.toList, c ∉ reserved := by
  have hreturn : name = "Return" := by
    by_contra hne
    exact hname (if_neg hne)
  subst hreturn
  simp [reserved]

/-- A command that looks like the name of a field. -/
def returnEntry : PrintedEntry returnKeysym where
  modifiers := [⟨.ctrl, ['C', 't', 'R', 'L'], by decide⟩, ⟨.shift, "shift".toList, by decide⟩]
  key := "Return"
  action := .custom
  command := some "key"
  resolves := by decide
  plain := by simp [Plain]
  order := [.command, .modifiers, .key, .action]
  perm := by decide

theorem zenKeybindsLoadConfig_prints_return :
    zenKeybindsLoadConfig returnKeysym defaultBindings
        (some (render '"' (.mark '\n' :: documentTokens [returnEntry]))) =
      (0, defaultBindings ++ [{ modifiers := 5, keysym := 0xff0d, action := .custom
                                customCmd := some "key" }]) := by
  exact zenKeybindsLoadConfig_prints returnKeysym_names [returnEntry] _ ⟨_, rfl, by decide⟩
    (by decide) _

end File

end ZenOS.Compositor
