import ZenOS.Compositor.KeybindsAcceptance
import ZenOS.Compositor.KeybindsBounds

/-!
What a binding depends on: the text of its object, or more than that.
-/

namespace ZenOS.Compositor.KeybindsBuffer

open ZenOS.Library.Ingest ZenOS.Library.Nesting ZenOS.Library.QuotedText

def allModifiers : UInt32 :=
  wlrModifierCtrl ||| wlrModifierAlt ||| wlrModifierLogo ||| wlrModifierShift

def ScanState.mods : ScanState → UInt32
  | .running _ mods | .stopped mods => mods

/-- A text that can be cut out as an object, up to its closing brace. -/
structure ClosedObject (obj : List Char) : Prop where
  balanced : BalancedObject obj
  no_nul : nul ∉ obj

def ObjectAt (text : List Char) (i : Nat) (obj : List Char) : Prop :=
  ∃ behind, (items text).1[i]? = some (.object obj behind)

/-- The load of a text of any length, with a file that can be read and with enough memory. -/
def loadText (xkbKeysymFromName : String → UInt32) (keybindings : List ZenKeybinding)
    (text : List Char) : Option (Int × List ZenKeybinding) :=
  loadBuffer (.enough xkbKeysymFromName) keybindings (text ++ [nul])

def loadFile (xkbKeysymFromName : String → UInt32) (keybindings : List ZenKeybinding)
    (content : List Char) : Option (Int × List ZenKeybinding) :=
  zenKeybindsLoadConfig (.enough xkbKeysymFromName) keybindings (some content)

/-- What is registered from the object is the same in all texts that are loaded. -/
def DependsOnObjectOnly
    (load : List ZenKeybinding → List Char → Option (Int × List ZenKeybinding))
    (obj : List Char) : Prop :=
  ∀ text text' i i' keybindings keybindings' registry registry',
    ObjectAt text i obj → ObjectAt text' i' obj →
    load keybindings text = some (0, registry) → load keybindings' text' = some (0, registry') →
    registry[keybindings.length + i]? = registry'[keybindings'.length + i']?

/-- The object has the fields of a binding. -/
def Registrable (xkbKeysymFromName : String → UInt32) (obj : List Char) : Prop :=
  (readObject (.enough xkbKeysymFromName) .enough 0 obj).isSome

/-- No modifiers are looked for behind the object: there is no such field, a bracket ends its
array in the object, or all of them have been read before the object ends. -/
def OwnModifiers (obj : List Char) : Prop :=
  ∀ pos ∈ modifiersField obj, ∃ before array, pos = before ++ '[' :: array ∧ '[' ∉ before ∧
    (¬ Unended array ∨ ((ScanState.running .head 0).run array).mods = allModifiers)

section Modifiers

variable {s : ScanState} {mods : UInt32} {tok text : List Char}

theorem parseModifierToken_cases (tok : List Char) :
    parseModifierToken tok ∈ [wlrModifierCtrl, wlrModifierAlt, wlrModifierLogo,
      wlrModifierShift, 0] := by
  unfold parseModifierToken
  split
  · simp
  split
  · simp
  split
  · simp
  split <;> simp

theorem parseModifierToken_or_all (tok : List Char) :
    parseModifierToken tok ||| allModifiers = allModifiers := by
  have hcases := parseModifierToken_cases tok
  simp only [List.mem_cons, List.not_mem_nil, or_false] at hcases
  rcases hcases with h | h | h | h | h <;> rw [h] <;> decide

theorem parseModifierToken_bracket (h : ']' ∈ tok) : parseModifierToken tok = 0 := by
  have hname : ∀ name : String, ']' ∉ name.toList → equalsIgnoringCase tok name = false := by
    intro name hname
    rw [equalsIgnoringCase, Bool.and_eq_false_iff]
    right
    rw [decide_eq_false_iff_not]
    intro htok
    refine hname ?_
    rw [← htok]
    exact List.mem_map.mpr ⟨']', h, by decide⟩
  simp only [parseModifierToken, hname "ctrl" (by decide), hname "alt" (by decide),
    hname "super" (by decide), hname "shift" (by decide), Bool.false_eq_true, if_false]

theorem step_mods (s : ScanState) (c : Char) :
    (s.step c).mods = s.mods ∨ ∃ tok, (s.step c).mods = s.mods ||| parseModifierToken tok := by
  have outside : ∀ mode mods, mode = .head ∨ mode = .skipped →
      ((ScanState.running mode mods).step c).mods = mods := by
    intro mode mods hmode
    rw [step_outside mods hmode]
    split
    · rfl
    split
    · rfl
    split <;> rfl
  rcases s with ⟨_ | _ | tok, mods⟩ | mods
  · exact .inl (outside _ _ (.inl rfl))
  · exact .inl (outside _ _ (.inr rfl))
  · rw [ScanState.step]
    split
    · exact .inr ⟨tok, rfl⟩
    split
    · exact .inr ⟨tok, rfl⟩
    · exact .inl rfl
  · exact .inl rfl

theorem run_mods_or_all (h : s.mods ||| allModifiers = allModifiers) (text : List Char) :
    (s.run text).mods ||| allModifiers = allModifiers := by
  induction text generalizing s with
  | nil => exact h
  | cons c text ih =>
      refine ih ?_
      rcases step_mods s c with hstep | ⟨tok, hstep⟩ <;> rw [hstep]
      · exact h
      · rw [UInt32.or_assoc, parseModifierToken_or_all, h]

theorem run_mods_all (h : s.mods = allModifiers) (text : List Char) :
    (s.run text).mods = allModifiers := by
  induction text generalizing s with
  | nil => exact h
  | cons c text ih =>
      refine ih ?_
      rcases step_mods s c with hstep | ⟨tok, hstep⟩ <;> rw [hstep, h]
      rw [UInt32.or_comm, parseModifierToken_or_all]

theorem finish_all (h : s.mods = allModifiers) (hnone : s.finish ≠ none) :
    s.finish = some allModifiers := by
  rcases s with ⟨_ | _ | tok, mods⟩ | mods
  · exact congrArg some h
  · exact absurd rfl hnone
  · change some (mods ||| parseModifierToken tok) = _
    rw [show mods = allModifiers from h, UInt32.or_comm, parseModifierToken_or_all]
  · exact congrArg some h

/-- The four modifiers, as the elements of an array. -/
def fourTokens : List Char :=
  "\"ctrl\",\"alt\",\"super\",\"shift\",".toList

theorem run_fourTokens (h : mods ||| allModifiers = allModifiers) :
    ((ScanState.running .head mods).run fourTokens).mods = allModifiers := by
  have hrun : (ScanState.running .head mods).run fourTokens =
      .running .skipped (mods ||| wlrModifierCtrl ||| wlrModifierAlt ||| wlrModifierLogo |||
        wlrModifierShift) := rfl
  rw [hrun, ← h]
  simp only [ScanState.mods, allModifiers, UInt32.or_assoc]

end Modifiers

section Field

variable {obj pos behind behind' : List Char}

theorem scanFrom_append {before array : List Char} (hbefore : '[' ∉ before)
    (hnul : nul ∉ before) (behind : List Char) :
    scanFrom (before ++ '[' :: array ++ behind) =
      ((ScanState.running .head 0).run array).run behind := by
  rw [List.append_assoc, List.cons_append, scanFrom, dropWhile_bracket hbefore hnul]
  exact ScanState.run_append ..

theorem OwnModifiers.unique {modifiers modifiers' : UInt32} (hown : OwnModifiers obj)
    (hnul : nul ∉ obj) (h : extractModifiersField obj (behind ++ [nul]) = some modifiers)
    (h' : extractModifiersField obj (behind' ++ [nul]) = some modifiers') :
    modifiers = modifiers' := by
  rw [extractModifiersField_terminated] at h h'
  rcases hfield : modifiersField obj with _ | pos
  · rw [hfield] at h h'
    exact Option.some.inj (h.symm.trans h')
  · rw [hfield] at h h'
    obtain ⟨before, array, rfl, hbefore, hend⟩ := hown pos hfield
    have hbeforenul : nul ∉ before := fun hmem =>
      hnul ((modifiersFieldLoop_suffix hfield).subset (by simp [hmem]))
    simp only [scanFrom_append hbefore hbeforenul] at h h'
    rcases hend with hended | hall
    · have hdescribes := run_describes 0 array
      generalize (ScanState.running .head 0).run array = s at h h' hdescribes
      rcases s with ⟨_ | _ | tok, mods⟩ | mods
      · exact absurd hdescribes.1 hended
      · exact absurd hdescribes.1 hended
      · exact absurd hdescribes.1 hended
      · rw [ScanState.run_stopped] at h h'
        exact Option.some.inj (h.symm.trans h')
    · rw [finish_all (run_mods_all hall behind) (by simp [h])] at h
      rw [finish_all (run_mods_all hall behind') (by simp [h'])] at h'
      exact Option.some.inj (h.symm.trans h')

end Field

section Sufficient

variable {xkbKeysymFromName : String → UInt32} {obj text : List Char} {i : Nat}
  {keybindings registry : List ZenKeybinding}

theorem registered_of_objectAt (h : loadText xkbKeysymFromName keybindings text = some (0, registry))
    (hobj : ObjectAt text i obj) :
    ∃ behind modifiers binding, registry[keybindings.length + i]? = some binding ∧
      extractModifiersField obj (behind ++ [nul]) = some modifiers ∧
      readObject (.enough xkbKeysymFromName) .enough modifiers obj = some binding := by
  obtain ⟨-, bindings, hbindings, rfl⟩ := loadBuffer_eq_zero_iff.mp h
  obtain ⟨behind, hitem⟩ := hobj
  have hx : (items text).1.zipIdx[i]? = some (.object obj behind, i) := by
    simp [List.getElem?_zipIdx, hitem]
  obtain ⟨binding, hbinding, hread⟩ := takes_getElem? hbindings hx
  rw [readItem] at hread
  rcases hfield : extractModifiersField obj (behind ++ [nul]) with _ | modifiers
  · simp [hfield] at hread
  · rcases hrecord : readObject (.enough xkbKeysymFromName)
        ((Env.enough xkbKeysymFromName).objects i) modifiers obj with _ | binding'
    · simp [hfield, hrecord] at hread
    · obtain rfl : binding' = binding := by simpa [hfield, hrecord] using hread
      refine ⟨behind, modifiers, binding', ?_, hfield, hrecord⟩
      rw [List.getElem?_append_right (Nat.le_add_right ..), Nat.add_sub_cancel_left, hbinding]

theorem registrable_of_readObject {modifiers : UInt32} {binding : ZenKeybinding}
    (h : readObject (.enough xkbKeysymFromName) .enough modifiers obj = some binding) :
    Registrable xkbKeysymFromName obj := by
  rw [readObject_modifiers] at h
  obtain ⟨record, hrecord, -⟩ := Option.map_eq_some_iff.mp h
  rw [Registrable, hrecord]
  rfl

theorem dependsOnObjectOnly_of_ownModifiers (hnul : nul ∉ obj)
    (h : Registrable xkbKeysymFromName obj → OwnModifiers obj) :
    DependsOnObjectOnly (loadText xkbKeysymFromName) obj := by
  intro text text' i i' keybindings keybindings' registry registry' hobj hobj' hload hload'
  obtain ⟨behind, modifiers, binding, hentry, hfield, hrecord⟩ := registered_of_objectAt hload hobj
  obtain ⟨behind', modifiers', binding', hentry', hfield', hrecord'⟩ :=
    registered_of_objectAt hload' hobj'
  have hown := h (registrable_of_readObject hrecord)
  rw [hown.unique hnul hfield hfield'] at hrecord
  rw [hentry, hentry', ← hrecord, ← hrecord']

theorem loadText_of_loadFile
    (h : loadFile xkbKeysymFromName keybindings text = some (0, registry)) :
    loadText xkbKeysymFromName keybindings text = some (0, registry) := by
  obtain ⟨hscanned, bindings, hbindings, hregistry⟩ := load_eq_zero_iff.mp h
  exact loadBuffer_eq_zero_iff.mpr ⟨hscanned.array, bindings, hbindings, hregistry⟩

theorem DependsOnObjectOnly.loadFile (h : DependsOnObjectOnly (loadText xkbKeysymFromName) obj) :
    DependsOnObjectOnly (loadFile xkbKeysymFromName) obj := by
  intro text text' i i' keybindings keybindings' registry registry' hobj hobj' hload hload'
  exact h text text' i i' keybindings keybindings' registry registry' hobj hobj'
    (loadText_of_loadFile hload) (loadText_of_loadFile hload')

end Sufficient

/-- The object with further text behind its opening brace, which closes a string or opens an
array and then names all modifiers. -/
def widen (lead obj : List Char) : List Char :=
  '{' :: (lead ++ fourTokens ++ obj.tail)

def leads : List (List Char) :=
  [[], ['"'], ['[']]

def textOf (array : List Char) : List Char :=
  quote '"' "bindings".toList ++ '[' :: array

section Texts

variable {xkbKeysymFromName : String → UInt32} {obj obj' lead array : List Char}

theorem ClosedObject.length_pos (h : ClosedObject obj) : 0 < obj.length := by
  obtain ⟨⟨body, rfl, -⟩, -⟩ := h
  simp

theorem ClosedObject.no_nul_append (h : ClosedObject obj) (harray : nul ∉ array) :
    nul ∉ obj ++ array := by
  rw [List.mem_append]
  exact fun hmem => hmem.elim h.no_nul harray

theorem ClosedObject.no_nul_bracket (h : ClosedObject obj) : nul ∉ obj ++ [']'] :=
  h.no_nul_append (by decide)

theorem ClosedObject.widen (h : ClosedObject obj) (hlead : lead ∈ leads) :
    ClosedObject (widen lead obj) := by
  obtain ⟨⟨body, rfl, hbody⟩, hnul⟩ := h
  have hall : ((lead ++ fourTokens).all fun c => braceWeight c = 0 ∧ c ≠ nul) = true := by
    simp only [leads, List.mem_cons, List.not_mem_nil, or_false] at hlead
    rcases hlead with rfl | rfl | rfl <;> decide
  have hplain : ∀ c ∈ lead ++ fourTokens, braceWeight c = 0 ∧ c ≠ nul := by
    intro c hc
    simpa using List.all_eq_true.mp hall c hc
  refine ⟨⟨lead ++ fourTokens ++ body, rfl, ?_⟩, ?_⟩
  · rw [closes_append (staysInside_of_weightless (by decide) fun c hc => (hplain c hc).1),
      depth_of_weightless fun c hc => (hplain c hc).1, add_zero]
    exact hbody
  · intro hmem
    rcases List.mem_cons.mp hmem with h | h
    · revert h
      decide
    rcases List.mem_append.mp h with h | h
    · exact (hplain _ h).2 rfl
    · exact hnul (List.mem_cons_of_mem _ h)

theorem arrayText_textOf (hnul : nul ∉ array) : arrayText (textOf array) = some array := by
  have hplain : ∀ c ∈ textOf array, decide (c ≠ nul) = true := by
    intro c hc
    rw [decide_eq_true_eq]
    rintro rfl
    rcases List.mem_append.mp hc with h | h
    · revert h
      decide
    · rcases List.mem_cons.mp h with h | h
      · revert h
        decide
      · exact hnul h
  have hvalue : valueText (textOf array) = some ('[' :: array) := by
    rw [valueText, List.takeWhile_eq_self_iff.mpr hplain]
    rfl
  have hrest : (textOf array).dropWhile (· ≠ nul) = [] := List.dropWhile_eq_nil_iff.mpr hplain
  rw [arrayText, hvalue, Option.bind_eq_bind, Option.bind_some,
    List.dropWhile_cons_of_neg (by decide), hrest]
  exact congrArg some (List.append_nil array)

theorem items_textOf (hnul : nul ∉ array) :
    items (textOf array) = scanArray (array.length + 1) array := by
  rw [items, arrayText_textOf hnul]

theorem loadText_textOf (hnul : nul ∉ array) {bindings : List ZenKeybinding}
    (h : Takes (readItem (.enough xkbKeysymFromName)) (items (textOf array)).1.zipIdx bindings) :
    loadText xkbKeysymFromName [] (textOf array) = some (0, bindings) := by
  refine loadBuffer_eq_zero_iff.mpr ⟨?_, bindings, h, rfl⟩
  rw [arrayText_textOf hnul]
  rfl

theorem items_one (h : ClosedObject obj) :
    items (textOf (obj ++ [']'])) = ([.object obj [']']], true) := by
  rw [items_textOf h.no_nul_bracket, scanArray_object h.balanced h.no_nul, List.length_append,
    List.length_singleton]
  rfl

theorem items_two (h : ClosedObject obj) (h' : ClosedObject obj') :
    items (textOf (obj ++ (obj' ++ [']']))) =
      ([.object obj (obj' ++ [']']), .object obj' [']']], true) := by
  have hpos := h.length_pos
  rw [items_textOf (h.no_nul_append h'.no_nul_bracket), scanArray_object h.balanced h.no_nul]
  obtain ⟨fuel, hfuel⟩ : ∃ fuel, (obj ++ (obj' ++ [']'])).length = fuel + 2 :=
    ⟨obj.length + obj'.length - 1, by simp; omega⟩
  rw [hfuel, scanArray_object h'.balanced h'.no_nul]
  rfl

/-! The fields of the widened object are those of the object. -/

theorem after_length_lt {pattern text rest : List Char} (hpattern : pattern ≠ [])
    (h : after pattern text = some rest) : rest.length < text.length := by
  have hpos := List.length_pos_iff.mpr hpattern
  induction text with
  | nil =>
      rw [after, if_neg hpattern] at h
      cases h
  | cons c text ih =>
      rw [after] at h
      split at h
      · cases h
        rw [List.length_drop, List.length_cons]
        omega
      · exact (ih h).trans (Nat.lt_succ_self _)

theorem stringFieldLoop_congr {pattern pos pos' : List Char} {fuel fuel' : Nat}
    (hpattern : pattern ≠ []) (hafter : after pattern pos = after pattern pos')
    (hfuel : pos.length < fuel) (hfuel' : pos'.length < fuel') :
    stringFieldLoop pattern fuel pos = stringFieldLoop pattern fuel' pos' := by
  induction fuel generalizing pos pos' fuel' with
  | zero => omega
  | succ fuel ih =>
      obtain ⟨fuel', rfl⟩ : ∃ n, fuel' = n + 1 := ⟨fuel' - 1, by omega⟩
      rw [stringFieldLoop, stringFieldLoop, hafter]
      rcases hrest : after pattern pos' with _ | rest
      · rfl
      have hlength := after_length_lt hpattern (hafter.trans hrest)
      have hlength' := after_length_lt hpattern hrest
      have hskip := (List.dropWhile_suffix (l := rest) isSpace).length_le
      rw [← skipSpace] at hskip
      simp only
      rcases hnext : skipSpace rest with _ | ⟨c, text⟩
      · rfl
      rw [hnext] at hskip
      simp only
      split
      · exact ih rfl (by omega) (by omega)
      rcases hvalue : skipSpace text with _ | ⟨d, start⟩
      · rfl
      have hskip' := (List.dropWhile_suffix (l := text) isSpace).length_le
      rw [← skipSpace, hvalue] at hskip'
      rw [List.length_cons] at hskip
      simp only
      split
      · exact ih rfl (by omega) (by omega)
      · rfl

theorem extractStringField_widen (h : ClosedObject obj) (hlead : lead ∈ leads) (key : String)
    (hkey : key ∈ ["key", "action", "command"]) :
    extractStringField (widen lead obj) key = extractStringField obj key := by
  obtain ⟨body, rfl, -⟩ := h.balanced
  refine stringFieldLoop_congr (by simp [quote]) ?_ (Nat.lt_succ_self _) (Nat.lt_succ_self _)
  simp only [leads, List.mem_cons, List.not_mem_nil, or_false] at hlead hkey
  rcases hlead with rfl | rfl | rfl <;> rcases hkey with rfl | rfl | rfl <;> rfl

theorem Registrable.widen (hreg : Registrable xkbKeysymFromName obj) (h : ClosedObject obj)
    (hlead : lead ∈ leads) : Registrable xkbKeysymFromName (widen lead obj) := by
  have hkey := extractStringField_widen h hlead "key" (by simp)
  have haction := extractStringField_widen h hlead "action" (by simp)
  have hcommand := extractStringField_widen h hlead "command" (by simp)
  simpa only [Registrable, readObject, allocStringField, hkey, haction, hcommand] using hreg

/-! A text that ends in a bracket is scanned to an end. -/

theorem not_overruns_bracket (text : List Char) : ¬ Overruns (text ++ [']']) := by
  rintro ⟨before, array, hsplit, -, -, hruns⟩
  obtain ⟨c, hc, hsep⟩ := hruns.separator
  obtain ⟨init, rfl⟩ := List.getLast?_eq_some_iff.mp hc
  rw [← List.cons_append, ← List.append_assoc] at hsplit
  obtain rfl : ']' = c := by simpa using (List.append_inj' hsplit rfl).2
  revert hsep
  decide

theorem exists_modifiers (obj text : List Char) :
    ∃ modifiers, extractModifiersField obj (text ++ [']'] ++ [nul]) = some modifiers := by
  rw [← Option.ne_none_iff_exists']
  intro hnone
  obtain ⟨pos, -, hoverruns⟩ := (extractModifiersField_eq_none_iff _ _).mp hnone
  rw [← List.append_assoc] at hoverruns
  exact not_overruns_bracket _ hoverruns

theorem readItem_of_registrable (hreg : Registrable xkbKeysymFromName obj) {behind : List Char}
    {modifiers : UInt32} (hfield : extractModifiersField obj (behind ++ [nul]) = some modifiers) :
    ∃ binding : ZenKeybinding, binding.modifiers = modifiers ∧ ∀ i,
      readItem (.enough xkbKeysymFromName) (.object obj behind, i) = .accepted binding := by
  obtain ⟨record, hrecord⟩ := Option.isSome_iff_exists.mp hreg
  refine ⟨{ record with modifiers }, rfl, fun i => ?_⟩
  have hobj := readObject_modifiers (.enough xkbKeysymFromName) .enough modifiers obj
  rw [hrecord, Option.map_some] at hobj
  have hallocs : (Env.enough xkbKeysymFromName).objects i = .enough := rfl
  simp [readItem, hfield, hallocs, hobj]

end Texts

section Necessary

variable {xkbKeysymFromName : String → UInt32} {obj pos array before : List Char}

theorem run_bracket {mods : UInt32} (h : ((ScanState.running .head 0).run array).mods = mods)
    (hun : Unended array) :
    (((ScanState.running .head 0).run array).run [']']).finish = some mods := by
  have hdescribes := run_describes 0 array
  generalize (ScanState.running .head 0).run array = s at h hdescribes ⊢
  subst h
  rcases s with ⟨_ | _ | tok, mods⟩ | mods
  · rfl
  · rfl
  · change some (mods ||| parseModifierToken (tok ++ [']'])) = some mods
    rw [parseModifierToken_bracket (by simp), UInt32.or_zero]
  · exact absurd hun hdescribes

theorem run_widen (hun : Unended array) :
    ∃ lead ∈ leads, ∀ rest, (((ScanState.running .head 0).run array).run
      ('{' :: (lead ++ fourTokens ++ rest))).mods = allModifiers := by
  have hor := run_mods_or_all (s := .running .head 0) (by decide) array
  have hdescribes := run_describes 0 array
  generalize (ScanState.running .head 0).run array = s at hor hdescribes ⊢
  have four : ∀ (mods : UInt32) (rest : List Char), mods ||| allModifiers = allModifiers →
      ((ScanState.running .head mods).run (fourTokens ++ rest)).mods = allModifiers := by
    intro mods rest hmods
    rw [ScanState.run_append]
    exact run_mods_all (run_fourTokens hmods) rest
  rcases s with ⟨_ | _ | tok, mods⟩ | mods
  · exact ⟨[], by simp [leads], fun rest => four mods rest hor⟩
  · exact ⟨[], by simp [leads], fun rest => four mods rest hor⟩
  · refine ⟨['"'], by simp [leads], fun rest => four (mods ||| _) rest ?_⟩
    rw [UInt32.or_assoc, parseModifierToken_or_all]
    exact hor
  · exact absurd hun hdescribes

theorem differing_modifiers (hobj : ClosedObject obj) (hown : ¬ OwnModifiers obj) :
    (∀ modifiers, extractModifiersField obj ([']'] ++ [nul]) = some modifiers →
        modifiers ≠ allModifiers) ∧
      ∃ lead ∈ leads, ∀ rest modifiers,
        extractModifiersField obj ('{' :: (lead ++ fourTokens ++ rest) ++ [nul]) = some modifiers →
          modifiers = allModifiers := by
  simp only [OwnModifiers, not_forall] at hown
  obtain ⟨pos, hpos, hnone⟩ := hown
  have hnul : nul ∉ pos := fun hmem => hobj.no_nul ((modifiersFieldLoop_suffix hpos).subset hmem)
  simp only [extractModifiersField_terminated, Option.mem_def.mp hpos]
  by_cases hopen : '[' ∈ pos
  · obtain ⟨before, array, rfl, hbefore⟩ := List.eq_append_cons_of_mem hopen
    have hbeforenul : nul ∉ before := fun hmem => hnul (by simp [hmem])
    have hun : Unended array := by
      by_contra hended
      exact hnone ⟨before, array, rfl, hbefore, .inl hended⟩
    have hmods : ((ScanState.running .head 0).run array).mods ≠ allModifiers := fun hall =>
      hnone ⟨before, array, rfl, hbefore, .inr hall⟩
    simp only [scanFrom_append hbefore hbeforenul]
    refine ⟨fun modifiers h => ?_, ?_⟩
    · rw [run_bracket rfl hun] at h
      rwa [← Option.some.inj h]
    · obtain ⟨lead, hlead, hrun⟩ := run_widen hun
      refine ⟨lead, hlead, fun rest modifiers h => ?_⟩
      rw [finish_all (hrun rest) (by rw [h]; exact Option.some_ne_none _)] at h
      exact (Option.some.inj h).symm
  · -- the next array is taken for the one of the object
    have hskip : ∀ c ∈ pos ++ [']'], decide (c ≠ nul ∧ c ≠ '[') = true := by
      intro c hc
      rw [decide_eq_true_eq]
      rcases List.mem_append.mp hc with hc | hc
      · exact ⟨fun h => hnul (h ▸ hc), fun h => hopen (h ▸ hc)⟩
      · rw [List.mem_singleton.mp hc]
        decide
    refine ⟨fun modifiers h => ?_, ['['], by simp [leads], fun rest modifiers h => ?_⟩
    · rw [scanFrom, List.dropWhile_eq_nil_iff.mpr hskip] at h
      rw [← Option.some.inj h]
      decide
    · have hsplit : pos ++ '{' :: (['['] ++ fourTokens ++ rest) =
          (pos ++ ['{']) ++ '[' :: [] ++ (fourTokens ++ rest) := by simp
      have hopen' : '[' ∉ pos ++ ['{'] := by simp [hopen]
      have hnul' : nul ∉ pos ++ ['{'] := by simpa [hnul] using (by decide : nul ≠ '{')
      have hmods : (((ScanState.running .head 0).run []).run (fourTokens ++ rest)).mods =
          allModifiers := by
        rw [ScanState.run_append]
        exact run_mods_all (run_fourTokens (by decide)) rest
      simp only [hsplit, scanFrom_append hopen' hnul'] at h
      rw [finish_all hmods (by rw [h]; exact Option.some_ne_none _)] at h
      exact (Option.some.inj h).symm

theorem ownModifiers_of_dependsOnObjectOnly (hobj : ClosedObject obj)
    (hreg : Registrable xkbKeysymFromName obj)
    (h : DependsOnObjectOnly (loadText xkbKeysymFromName) obj) : OwnModifiers obj := by
  by_contra hown
  obtain ⟨hincomplete, lead, hlead, hcomplete⟩ := differing_modifiers hobj hown
  have hwiden := hobj.widen hlead
  obtain ⟨modifiers, hfield⟩ := exists_modifiers obj []
  obtain ⟨binding, hbinding, hread⟩ := readItem_of_registrable hreg hfield
  have hload : loadText xkbKeysymFromName [] (textOf (obj ++ [']'])) = some (0, [binding]) := by
    refine loadText_textOf hobj.no_nul_bracket ?_
    rw [items_one hobj]
    exact .cons (hread 0) .nil
  obtain ⟨modifiers', hfield'⟩ := exists_modifiers obj (widen lead obj)
  obtain ⟨binding', hbinding', hread'⟩ := readItem_of_registrable hreg hfield'
  obtain ⟨modifiers'', hfield''⟩ := exists_modifiers (widen lead obj) []
  obtain ⟨binding'', -, hread''⟩ := readItem_of_registrable (hreg.widen hobj hlead) hfield''
  have hload' : loadText xkbKeysymFromName [] (textOf (obj ++ (widen lead obj ++ [']']))) =
      some (0, [binding', binding'']) := by
    refine loadText_textOf (hobj.no_nul_append hwiden.no_nul_bracket) ?_
    rw [items_two hobj hwiden]
    exact .cons (hread' 0) (.cons (hread'' 1) .nil)
  have hsame := h _ _ 0 0 [] [] _ _ ⟨_, by rw [items_one hobj]; rfl⟩
    ⟨_, by rw [items_two hobj hwiden]; rfl⟩ hload hload'
  obtain rfl : binding = binding' := by simpa using hsame
  have hall : modifiers' = allModifiers := by
    refine hcomplete (obj.tail ++ [']']) modifiers' ?_
    rw [← hfield']
    simp [widen]
  exact hincomplete modifiers hfield (hbinding.symm.trans (hbinding'.trans hall))

/-- The binding of an object is a function of the object's text exactly when its modifiers are
its own; then this is so for files too. -/
theorem dependsOnObjectOnly_iff (xkbKeysymFromName : String → UInt32) (obj : List Char)
    (hobj : ClosedObject obj) :
    (DependsOnObjectOnly (loadText xkbKeysymFromName) obj ↔
        (Registrable xkbKeysymFromName obj → OwnModifiers obj)) ∧
      ((Registrable xkbKeysymFromName obj → OwnModifiers obj) →
        DependsOnObjectOnly (loadFile xkbKeysymFromName) obj) := by
  have henough : (Registrable xkbKeysymFromName obj → OwnModifiers obj) → _ :=
    dependsOnObjectOnly_of_ownModifiers hobj.no_nul
  exact ⟨⟨fun h hreg => ownModifiers_of_dependsOnObjectOnly hobj hreg h, henough⟩,
    fun h => (henough h).loadFile⟩

def ctrlReturn : List Char :=
  "\x7b\"modifiers\":[\"ctrl\"],\"key\":\"Return\",\"action\":\"lock_screen\"\x7d".toList

theorem dependsOnObjectOnly_ctrlReturn :
    DependsOnObjectOnly (loadText smallKeymap) ctrlReturn ∧
      DependsOnObjectOnly (loadFile smallKeymap) ctrlReturn := by
  have hclosed : ClosedObject ctrlReturn := ⟨⟨_, rfl, by decide +kernel⟩, by decide⟩
  have hown : OwnModifiers ctrlReturn := by
    intro pos hpos
    have hfield : modifiersField ctrlReturn = some ('[' :: ctrlReturn.drop 14) := by
      decide +kernel
    obtain rfl := Option.some.inj (hfield.symm.trans hpos)
    refine ⟨[], ctrlReturn.drop 14, rfl, by decide, .inl fun hun => ?_⟩
    exact hun.bracket "\"ctrl\"".toList (ctrlReturn.drop 21) (by decide +kernel)
      (by unfold Outside; decide)
  have hiff := dependsOnObjectOnly_iff smallKeymap ctrlReturn hclosed
  exact ⟨hiff.1.mpr fun _ => hown, hiff.2 fun _ => hown⟩

/-- The same entry without the bracket of its array. -/
def openReturn : List Char :=
  "\x7b\"key\":\"Return\",\"action\":\"lock_screen\",\"modifiers\":[\"ctrl\"\x7d".toList

def fileOf (entries : List Char) : List Char :=
  "\x7b\"bindings\":[".toList ++ entries ++ "]\x7d".toList

def altEntry : List Char :=
  ",\x7b\"key\":\"a\",\"action\":\"close_window\",\"modifiers\":[\"alt\"]\x7d".toList

/-- The entry takes over the modifiers of the next one. -/
theorem openReturn_depends_on_next :
    loadFile smallKeymap [] (fileOf openReturn) =
        some (0, [{ modifiers := 4, keysym := 0xff0d, action := .lockScreen
                    customCmd := none }]) ∧
      loadFile smallKeymap [] (fileOf (openReturn ++ altEntry)) =
        some (0, [{ modifiers := 12, keysym := 0xff0d, action := .lockScreen
                    customCmd := none },
                  { modifiers := 8, keysym := 0x61, action := .closeWindow
                    customCmd := none }]) ∧
      ¬ DependsOnObjectOnly (loadFile smallKeymap) openReturn := by
  have hload : loadFile smallKeymap [] (fileOf openReturn) =
      some (0, [{ modifiers := 4, keysym := 0xff0d, action := .lockScreen
                  customCmd := none }]) := by
    decide +kernel
  have hload' : loadFile smallKeymap [] (fileOf (openReturn ++ altEntry)) =
      some (0, [{ modifiers := 12, keysym := 0xff0d, action := .lockScreen
                  customCmd := none },
                { modifiers := 8, keysym := 0x61, action := .closeWindow
                  customCmd := none }]) := by
    decide +kernel
  refine ⟨hload, hload', fun h => ?_⟩
  have hsame := h _ _ 0 0 [] [] _ _ ⟨"]\x7d".toList, by decide +kernel⟩
    ⟨altEntry ++ "]\x7d".toList, by decide +kernel⟩ hload hload'
  revert hsame
  decide

end Necessary

end ZenOS.Compositor.KeybindsBuffer
