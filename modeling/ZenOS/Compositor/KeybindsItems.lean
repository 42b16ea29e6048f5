import ZenOS.Compositor.KeybindsBuffer
import ZenOS.Library.Ingest
import Mathlib.Data.List.TakeWhile

/-!
The bindings of a text as a list of items, which `zen_keybinds_load_config` takes in one
after another.
-/

namespace ZenOS.Compositor.KeybindsBuffer

open ZenOS.Library.QuotedText ZenOS.Library.Ingest

/-- An object of the array with the text behind it, or something else. -/
inductive Item where
  | object (obj behind : List Char)
  | stray
  deriving DecidableEq

/-- Whitespace or a comma. -/
def isSeparator (c : Char) : Bool :=
  isSpace c || c = ','

/-- An object, which ends at its closing brace or with the text, and what follows. -/
def cutObject (depth : Int) : List Char → List Char × List Char
  | [] => ([], [])
  | c :: text =>
      if c = nul then ([], c :: text)
      else if c = '{' then (cutObject (depth + 1) text).map (c :: ·) id
      else if c = '}' then
        if depth - 1 = 0 then ([c], text) else (cutObject (depth - 1) text).map (c :: ·) id
      else (cutObject depth text).map (c :: ·) id

/-- The items of an array, and whether it ends at a bracket. -/
def scanArray : (fuel : Nat) → List Char → List Item × Bool
  | 0, _ => ([], false)
  | fuel + 1, text =>
      match skipSpaceAndCommas text with
      | [] => ([], false)
      | c :: text =>
          if c = nul then ([], false)
          else if c = ']' then ([], true)
          else if c ≠ '{' then ([.stray], false)
          else
            let (obj, behind) := cutObject 0 (c :: text)
            (scanArray fuel behind).map (.object obj behind :: ·) id

/-- What stands behind the key, up to the first NUL. -/
def valueText (content : List Char) : Option (List Char) :=
  after (quote '"' "bindings".toList) (content.takeWhile (· ≠ nul))

/-- The text behind the bracket that opens the array. -/
def arrayText (content : List Char) : Option (List Char) := do
  let value ← valueText content
  match value.dropWhile (· ≠ '[') with
  | [] => none
  | _ :: text => some (text ++ content.dropWhile (· ≠ nul))

def items (content : List Char) : List Item × Bool :=
  match arrayText content with
  | none => ([], false)
  | some text => scanArray (text.length + 1) text

/-- What becomes of an item, which comes with its number. -/
def readItem (env : Env) : Item × Nat → Outcome ZenKeybinding
  | (.stray, _) => .refused
  | (.object obj behind, i) =>
      match extractModifiersField obj (behind ++ [nul]) with
      | none => .fault
      | some modifiers =>
          match readObject env (env.objects i) modifiers obj with
          | none => .refused
          | some binding => .accepted binding

/-- The file is read into the buffer. -/
structure Readable (env : Env) (content : List Char) : Prop where
  fseek : env.fseek = true
  ftell : env.ftell = true
  malloc : env.malloc = true
  fread : env.fread = true
  nonempty : 0 < content.length
  size : content.length ≤ 65536

/-- The file is read, and there is an array in it. -/
structure Scanned (env : Env) (content : List Char) : Prop extends Readable env content where
  array : (arrayText content).isSome

section Terminated

variable {text : List Char}

theorem skipSpaceAndCommas_cons (c : Char) (text : List Char) :
    skipSpaceAndCommas (c :: text) =
      if isSpace c || c = ',' then skipSpaceAndCommas text else c :: text :=
  List.dropWhile_cons

theorem skipSeparators_terminated (text : List Char) :
    skipSeparators (text ++ [nul]) = some (skipSpaceAndCommas text ++ [nul]) := by
  induction text with
  | nil => rfl
  | cons c text ih =>
      rw [List.cons_append, skipSeparators, skipSpaceAndCommas_cons]
      split
      · exact ih
      · rfl

theorem skipTo_terminated (stop : Char) (text : List Char) :
    skipTo stop (text ++ [nul]) =
      some (text.dropWhile (fun c => c ≠ nul ∧ c ≠ stop) ++ [nul]) := by
  induction text with
  | nil => rfl
  | cons c text ih =>
      rw [List.cons_append, skipTo]
      by_cases hc : c = nul ∨ c = stop
      · have hstop : decide (c ≠ nul ∧ c ≠ stop) = false := by
          simp only [decide_eq_false_iff_not]
          tauto
        rw [if_pos hc, List.dropWhile_cons_of_neg (by simp [hstop])]
        rfl
      · rw [if_neg hc, ih, List.dropWhile_cons_of_pos (by simpa using hc)]

theorem cutObject_append (depth : Int) (text : List Char) :
    (cutObject depth text).1 ++ (cutObject depth text).2 = text := by
  induction text generalizing depth with
  | nil => rfl
  | cons c text ih =>
      rw [cutObject]
      split
      · rfl
      split
      · simp [ih]
      split
      · split
        · rfl
        · simp [ih]
      · simp [ih]

theorem matchBrace_terminated (depth : Int) (text : List Char) :
    matchBrace depth (text ++ [nul]) = some ((cutObject depth text).2 ++ [nul]) := by
  induction text generalizing depth with
  | nil => rfl
  | cons c text ih =>
      rw [List.cons_append, matchBrace, cutObject]
      split
      · rfl
      split
      · exact ih _
      split
      · split
        · rfl
        · exact ih _
      · exact ih _

theorem take_between (between p : Pointer) :
    (between ++ p).take ((between ++ p).length - p.length) = between := by
  rw [List.length_append, Nat.add_sub_cancel, List.take_left]

theorem take_cutObject (depth : Int) (text : List Char) :
    (text ++ [nul]).take
        ((text ++ [nul]).length - ((cutObject depth text).2 ++ [nul]).length) =
      (cutObject depth text).1 := by
  have hsplit := cutObject_append depth text
  generalize cutObject depth text = cut at hsplit ⊢
  subst hsplit
  rw [List.append_assoc]
  exact take_between ..

theorem cutObject_behind_le {c : Char} (hc : c ≠ nul) (depth : Int) (text : List Char) :
    (cutObject depth (c :: text)).2.length ≤ text.length := by
  have htail : ∀ d, (cutObject d text).2.length ≤ text.length := by
    intro d
    conv_rhs => rw [← cutObject_append d text]
    simp
  rw [cutObject, if_neg hc]
  split
  · exact htail _
  split
  · split
    · exact le_rfl
    · exact htail _
  · exact htail _

theorem takeWhile_append_dropWhile_nul (text : List Char) :
    ∃ rest, text ++ [nul] = text.takeWhile (· ≠ nul) ++ nul :: rest ∧
      text.dropWhile (· ≠ nul) ++ [nul] = nul :: rest := by
  have hsplit := List.takeWhile_append_dropWhile (p := (· ≠ nul)) (l := text)
  rcases hdrop : text.dropWhile (· ≠ nul) with _ | ⟨c, rest⟩
  · refine ⟨[], ?_, rfl⟩
    rw [hdrop, List.append_nil] at hsplit
    rw [hsplit]
  · have hc : c = nul := by
      have hhead := List.head?_dropWhile_not (· ≠ nul) text
      rw [hdrop] at hhead
      simpa using hhead
    subst hc
    refine ⟨rest ++ [nul], ?_, rfl⟩
    conv_lhs => rw [← hsplit, hdrop]
    simp

theorem prefix_append_nul {pattern : List Char} (hnul : nul ∉ pattern) (s rest : List Char) :
    pattern <+: s ++ nul :: rest ↔ pattern <+: s := by
  induction s generalizing pattern with
  | nil =>
      cases pattern with
      | nil => simp
      | cons a pattern =>
          rw [List.nil_append, List.cons_prefix_cons]
          have ha : a ≠ nul := fun h => hnul (by simp [h])
          simp [ha]
  | cons c s ih =>
      cases pattern with
      | nil => simp
      | cons a pattern =>
          rw [List.cons_append, List.cons_prefix_cons, List.cons_prefix_cons,
            ih fun h => hnul (List.mem_cons_of_mem _ h)]

/-- `strstr` does not see what stands behind the first NUL. -/
theorem strstr_append_nul {a : Char} {k s rest : List Char} (hnul : nul ∉ a :: k)
    (hs : nul ∉ s) :
    strstr (a :: k) (s ++ nul :: rest) = some ((after (a :: k) s).map (· ++ nul :: rest)) := by
  induction s with
  | nil => rfl
  | cons c s ih =>
      have hc : c ≠ nul := fun h => hs (by simp [h])
      have hprefix := prefix_append_nul hnul (c :: s) rest
      rw [List.cons_append] at hprefix
      rw [List.cons_append, strstr, if_neg hc, after]
      simp only [List.isPrefixOf_iff_prefix, hprefix]
      split
      next h =>
        rw [← List.cons_append, List.drop_append_of_le_length h.length_le]
        rfl
      · exact ih fun h => hs (List.mem_cons_of_mem _ h)

theorem strstr_terminated {a : Char} {k : List Char} (hnul : nul ∉ a :: k) (text : List Char) :
    strstr (a :: k) (text ++ [nul]) =
      some ((after (a :: k) (text.takeWhile (· ≠ nul))).map
        (· ++ (text.dropWhile (· ≠ nul) ++ [nul]))) := by
  obtain ⟨rest, htext, hrest⟩ := takeWhile_append_dropWhile_nul text
  rw [htext, hrest]
  refine strstr_append_nul hnul fun h => ?_
  simpa using List.mem_takeWhile_imp h

end Terminated

section Load

variable {env : Env}

/-- The return value of the function, and the registry. -/
def loadResult : Option (Bool × List ZenKeybinding) → Option (Int × List ZenKeybinding) :=
  Option.map fun r => (if r.1 then 0 else -1, r.2)

theorem bindingsLoop_succ (fuel i : Nat) (text : List Char) (keybindings : List ZenKeybinding) :
    bindingsLoop env (fuel + 1) i (text ++ [nul]) keybindings =
      match skipSpaceAndCommas text with
      | [] => some (0, keybindings)
      | c :: p =>
          if c = ']' ∨ c = nul then some (0, keybindings)
          else if c ≠ '{' then some (-1, keybindings)
          else
            let cut := cutObject 0 (c :: p)
            (extractModifiersField cut.1 (cut.2 ++ [nul])).bind fun modifiers =>
              match readObject env (env.objects i) modifiers cut.1 with
              | none => some (-1, keybindings)
              | some binding =>
                  bindingsLoop env fuel (i + 1) (cut.2 ++ [nul]) (keybindings ++ [binding]) := by
  have hobject : ∀ c p, (c :: (p ++ [nul])).take
      ((c :: (p ++ [nul])).length - ((cutObject 0 (c :: p)).2 ++ [nul]).length) =
        (cutObject 0 (c :: p)).1 := fun c p => take_cutObject 0 (c :: p)
  have hbrace : ∀ c p, matchBrace 0 (c :: (p ++ [nul])) = some ((cutObject 0 (c :: p)).2 ++ [nul]) :=
    fun c p => matchBrace_terminated 0 (c :: p)
  rw [bindingsLoop]
  rcases text with _ | ⟨a, text⟩
  · rfl
  · rw [List.cons_append, List.head?_cons, Option.bind_eq_bind, Option.bind_some]
    by_cases ha : a = nul
    · subst ha
      rfl
    · rw [if_neg ha, ← List.cons_append, skipSeparators_terminated]
      rcases skipSpaceAndCommas (a :: text) with _ | ⟨c, p⟩
      · rfl
      · refine ite_congr rfl (fun _ => rfl) fun _ => ite_congr rfl (fun _ => rfl) fun _ => ?_
        change (matchBrace 0 (c :: (p ++ [nul]))).bind _ = _
        rw [hbrace, Option.bind_some]
        have hcut := hobject c p
        rw [← List.cons_append] at hcut
        generalize List.take _ _ = obj at hcut ⊢
        subst hcut
        rfl

theorem bindingsLoop_terminated {text : List Char} {fuel fuel' i : Nat}
    (hfuel : text.length < fuel) (hfuel' : text.length < fuel')
    (keybindings : List ZenKeybinding) :
    bindingsLoop env fuel i (text ++ [nul]) keybindings =
      loadResult (ingest (readItem env) ((scanArray fuel' text).1.zipIdx i) keybindings) := by
  induction fuel generalizing text fuel' i keybindings with
  | zero => omega
  | succ fuel ih =>
      obtain ⟨fuel', rfl⟩ : ∃ n, fuel' = n + 1 := ⟨fuel' - 1, by omega⟩
      rw [bindingsLoop_succ, scanArray]
      rcases hskip : skipSpaceAndCommas text with _ | ⟨c, p⟩
      · rfl
      simp only
      by_cases hnul : c = nul
      · rw [if_pos (.inr hnul), if_pos hnul]
        rfl
      by_cases hend : c = ']'
      · rw [if_pos (.inl hend), if_neg hnul, if_pos hend]
        rfl
      rw [if_neg (by tauto), if_neg hnul, if_neg hend]
      split
      · rfl
      · have hbehind := cutObject_behind_le hnul 0 p
        have hp : (c :: p).length ≤ text.length := by
          rw [← hskip]
          exact (List.dropWhile_suffix _).length_le
        rw [List.length_cons] at hp
        generalize cutObject 0 (c :: p) = cut at hbehind ⊢
        rw [Prod.map_fst, List.zipIdx_cons, ingest, readItem]
        rcases extractModifiersField cut.1 (cut.2 ++ [nul]) with _ | modifiers
        · rfl
        simp only [Option.bind_some]
        rcases readObject env (env.objects i) modifiers cut.1 with _ | binding
        · rfl
        · exact ih (by omega) (by omega) _

theorem arrayText_eq_none {content : List Char} (h : valueText content = none) :
    arrayText content = none := by
  rw [arrayText, h]
  rfl

theorem skipTo_bracket {value rest : List Char} (hvalue : nul ∉ value) :
    skipTo '[' (value ++ nul :: rest) =
      some (value.dropWhile (· ≠ '[') ++ nul :: rest) := by
  induction value with
  | nil => rfl
  | cons c value ih =>
      have hc : c ≠ nul := fun h => hvalue (by simp [h])
      rw [List.cons_append, skipTo]
      by_cases hopen : c = '['
      · rw [if_pos (.inr hopen), List.dropWhile_cons_of_neg (by simp [hopen])]
        rfl
      · rw [if_neg (by tauto), List.dropWhile_cons_of_pos (by simp [hopen])]
        exact ih fun h => hvalue (List.mem_cons_of_mem _ h)

theorem loadBuffer_terminated (content : List Char) (keybindings : List ZenKeybinding) :
    loadBuffer env keybindings (content ++ [nul]) =
      if (arrayText content).isSome then
        loadResult (ingest (readItem env) (items content).1.zipIdx keybindings)
      else some (-1, keybindings) := by
  have hkey : quote '"' "bindings".toList = '"' :: "bindings\"".toList := rfl
  have hstrstr := strstr_terminated (a := '"') (k := "bindings\"".toList) (by decide) content
  obtain ⟨rest, -, hrest⟩ := takeWhile_append_dropWhile_nul content
  rw [loadBuffer, hkey, hstrstr, hrest, Option.bind_eq_bind, Option.bind_some]
  rcases hvalue : valueText content with _ | value
  · rw [arrayText_eq_none hvalue]
    rw [valueText, hkey] at hvalue
    rw [hvalue]
    rfl
  · have hnul : nul ∉ value := by
      intro h
      simpa using List.mem_takeWhile_imp ((after_suffix hvalue).subset h)
    have harray : arrayText content = match value.dropWhile (· ≠ '[') with
        | [] => none
        | _ :: text => some (text ++ content.dropWhile (· ≠ nul)) := by
      rw [arrayText, hvalue]
      rfl
    rw [valueText, hkey] at hvalue
    rw [hvalue, Option.map_some]
    simp only [skipTo_bracket hnul, Option.bind_eq_bind, Option.bind_some]
    rcases hdrop : value.dropWhile (· ≠ '[') with _ | ⟨c, p⟩
    · rw [harray, hdrop]
      rfl
    · have hc : c = '[' := by
        have hhead := List.head?_dropWhile_not (· ≠ '[') value
        rw [hdrop] at hhead
        simpa using hhead
      subst hc
      rw [hdrop] at harray
      have hitems : items content = scanArray ((p ++ content.dropWhile (· ≠ nul)).length + 1)
          (p ++ content.dropWhile (· ≠ nul)) := by
        rw [items, harray]
      rw [harray, Option.isSome_some, if_pos rfl, hitems, List.cons_append,
        List.head?_cons, Option.bind_some, if_neg (by decide), List.tail_cons, ← hrest,
        ← List.append_assoc]
      refine bindingsLoop_terminated ?_ (Nat.lt_succ_self _) _
      simp only [List.length_cons, List.length_append]
      omega

theorem zenKeybindsLoadConfig_of_readable {content : List Char} (h : Readable env content)
    (keybindings : List ZenKeybinding) :
    zenKeybindsLoadConfig env keybindings (some content) =
      loadBuffer env keybindings (content ++ [nul]) := by
  have hsize : ¬ ((content.length : Int) ≤ 0 ∨ 65536 < (content.length : Int)) := by
    have hpos := h.nonempty
    have hle := h.size
    omega
  simp only [zenKeybindsLoadConfig, h.fseek, h.ftell, h.malloc, h.fread, Bool.not_true,
    Bool.false_eq_true, if_false, if_true, if_neg hsize, Bool.or_self]

theorem zenKeybindsLoadConfig_of_not_readable {content : List Char}
    (h : ¬ Readable env content) (keybindings : List ZenKeybinding) :
    zenKeybindsLoadConfig env keybindings (some content) = some (-1, keybindings) := by
  rw [zenKeybindsLoadConfig]
  rcases hfseek : env.fseek with _ | _
  · rfl
  rcases hftell : env.ftell with _ | _
  · rfl
  by_cases hsize : (content.length : Int) ≤ 0 ∨ 65536 < (content.length : Int)
  · simp only [Bool.not_true, Bool.false_eq_true, if_false, if_true, if_pos hsize]
  rcases hmalloc : env.malloc with _ | _
  · simp
  rcases hfread : env.fread with _ | _
  · simp
  exact absurd ⟨hfseek, hftell, hmalloc, hfread, by omega, by omega⟩ h

theorem zenKeybindsLoadConfig_of_scanned {content : List Char} (h : Scanned env content)
    (keybindings : List ZenKeybinding) :
    zenKeybindsLoadConfig env keybindings (some content) =
      loadResult (ingest (readItem env) (items content).1.zipIdx keybindings) := by
  rw [zenKeybindsLoadConfig_of_readable h.toReadable, loadBuffer_terminated, if_pos h.array]

theorem zenKeybindsLoadConfig_of_not_scanned {content : List Char} (h : ¬ Scanned env content)
    (keybindings : List ZenKeybinding) :
    zenKeybindsLoadConfig env keybindings (some content) = some (-1, keybindings) := by
  by_cases hread : Readable env content
  · rw [zenKeybindsLoadConfig_of_readable hread, loadBuffer_terminated,
      if_neg fun harray => h ⟨hread, harray⟩]
  · exact zenKeybindsLoadConfig_of_not_readable hread keybindings

end Load

section Registers

variable {env : Env}

/-- The object has the fields of a binding, and memory suffices for it. -/
def Registers (env : Env) : Item × Nat → Prop
  | (.stray, _) => False
  | (.object obj _, i) => (readObject env (env.objects i) 0 obj).isSome

instance : DecidablePred (Registers env)
  | (.stray, _) => inferInstanceAs (Decidable False)
  | (.object obj _, i) =>
      inferInstanceAs (Decidable ((readObject env (env.objects i) 0 obj).isSome = true))

theorem registerBinding_modifiers (allocs : ObjectAllocs) (modifiers keysym : UInt32)
    (action : ZenKeybindAction) (customCmd : Option (List Char)) :
    registerBinding allocs modifiers keysym action customCmd =
      (registerBinding allocs 0 keysym action customCmd).map ({ · with modifiers }) := by
  simp only [registerBinding]
  split
  · rfl
  split <;> rfl

theorem readObject_modifiers (env : Env) (allocs : ObjectAllocs) (modifiers : UInt32) (obj : List Char) :
    readObject env allocs modifiers obj =
      (readObject env allocs 0 obj).map ({ · with modifiers }) := by
  rw [readObject, readObject]
  rcases allocStringField allocs.key obj "key" with _ | key
  · rfl
  rcases allocStringField allocs.action obj "action" with _ | action
  · rfl
  simp only [Option.bind_eq_bind, Option.bind_some]
  split
  · rfl
  rcases parseActionString action with _ | action
  · rfl
  exact registerBinding_modifiers ..

theorem readItem_cases (env : Env) (x : Item × Nat) :
    (Registers env x ∧ ∃ binding, readItem env x = .accepted binding) ∨
      (¬ Registers env x ∧ readItem env x = .refused) ∨
      ∃ obj behind, x.1 = .object obj behind ∧ extractModifiersField obj (behind ++ [nul]) = none ∧
        readItem env x = .fault := by
  obtain ⟨item, i⟩ := x
  cases item with
  | stray => exact .inr (.inl ⟨id, rfl⟩)
  | object obj behind =>
      rcases hfield : extractModifiersField obj (behind ++ [nul]) with _ | modifiers
      · exact .inr (.inr ⟨obj, behind, rfl, hfield, by simp [readItem, hfield]⟩)
      · have hobj := readObject_modifiers env (env.objects i) modifiers obj
        rcases hrecord : readObject env (env.objects i) 0 obj with _ | binding
        · rw [hrecord] at hobj
          exact .inr (.inl ⟨by simp [Registers, hrecord], by simp [readItem, hfield, hobj]⟩)
        · rw [hrecord] at hobj
          exact .inl ⟨by simp [Registers, hrecord], _, by simp [readItem, hfield, hobj]; rfl⟩

theorem not_registers_of_refused {x : Item × Nat} (h : readItem env x = .refused) :
    ¬ Registers env x := by
  rcases readItem_cases env x with ⟨-, binding, hx⟩ | ⟨hx, -⟩ | ⟨obj, behind, -, -, hx⟩
  · simp [hx] at h
  · exact hx
  · simp [hx] at h

theorem registers_of_takes {xs : List (Item × Nat)} {bindings : List ZenKeybinding}
    (h : Takes (readItem env) xs bindings) : ∀ x ∈ xs, Registers env x := by
  induction h with
  | nil => simp
  | @cons x binding xs bindings hx _ ih =>
      rw [List.forall_mem_cons]
      refine ⟨?_, ih⟩
      rcases readItem_cases env x with ⟨hreg, -⟩ | ⟨-, href⟩ | ⟨obj, behind, -, -, hfault⟩
      · exact hreg
      · simp [href] at hx
      · simp [hfault] at hx

end Registers

end ZenOS.Compositor.KeybindsBuffer
