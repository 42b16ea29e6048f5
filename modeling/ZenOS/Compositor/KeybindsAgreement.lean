import ZenOS.Compositor.KeybindsModifiers

/-!
The reader of texts does what the reader of the buffer does, wherever that stays inside its
buffer.
-/

namespace ZenOS.Compositor.KeybindsBuffer

open ZenOS.Library.QuotedText

section Modifiers

variable {text p obj behind : List Char} {mods modifiers : UInt32}

theorem takeWhile_no_nul (stop : Char) (hnul : nul ∉ text) :
    text.takeWhile (fun c => c ≠ nul ∧ c ≠ stop) = text.takeWhile (· ≠ stop) := by
  induction text with
  | nil => rfl
  | cons c text ih =>
      simp only [List.mem_cons, not_or] at hnul
      have hc : decide (c ≠ nul ∧ c ≠ stop) = decide (c ≠ stop) := by
        simp [Ne.symm hnul.1]
      rw [List.takeWhile_cons, List.takeWhile_cons, hc, ih hnul.2]

theorem dropWhile_no_nul (stop : Char) (hnul : nul ∉ text) :
    text.dropWhile (fun c => c ≠ nul ∧ c ≠ stop) = text.dropWhile (· ≠ stop) := by
  have hsplit := List.takeWhile_append_dropWhile (p := (· ≠ stop)) (l := text)
  have hsplit' := List.takeWhile_append_dropWhile (p := fun c => c ≠ nul ∧ c ≠ stop) (l := text)
  rw [takeWhile_no_nul stop hnul] at hsplit'
  exact List.append_cancel_left (hsplit'.trans hsplit.symm)

theorem drop_length_takeWhile (stop : Char) (text : List Char) :
    text.drop ((text.takeWhile (· ≠ stop)).length + 1) = (text.dropWhile (· ≠ stop)).tail := by
  have hsplit := List.takeWhile_append_dropWhile (p := (· ≠ stop)) (l := text)
  calc text.drop ((text.takeWhile (· ≠ stop)).length + 1)
      = (text.takeWhile (· ≠ stop) ++ text.dropWhile (· ≠ stop)).drop
          ((text.takeWhile (· ≠ stop)).length + 1) := by rw [hsplit]
    _ = (text.dropWhile (· ≠ stop)).drop 1 := List.drop_length_add_append ..
    _ = (text.dropWhile (· ≠ stop)).tail := List.drop_one

theorem dropWhile_cases (stop : Char) (hnul : nul ∉ text) :
    text.dropWhile (· ≠ stop) = [] ∨
      ∃ q, text.dropWhile (· ≠ stop) = stop :: q ∧ nul ∉ q ∧ q.length < text.length := by
  have hrest := List.dropWhile_suffix (l := text) (· ≠ stop)
  have hc := List.head?_dropWhile_not (· ≠ stop) text
  rcases hdrop : text.dropWhile (· ≠ stop) with _ | ⟨c, q⟩
  · exact .inl rfl
  · rw [hdrop] at hc hrest
    obtain rfl : c = stop := by simpa using hc
    exact .inr ⟨q, rfl, fun h => hnul (hrest.subset (List.mem_cons_of_mem _ h)), hrest.length_le⟩

theorem behind_separators {c : Char} (hskip : skipSpaceAndCommas text = c :: p)
    (hnul : nul ∉ text) : c ≠ nul ∧ nul ∉ p ∧ p.length < text.length := by
  have hrest : skipSpaceAndCommas text <:+ text := List.dropWhile_suffix _
  rw [hskip] at hrest
  refine ⟨?_, fun h => hnul (hrest.subset (List.mem_cons_of_mem _ h)), hrest.length_le⟩
  rintro rfl
  exact hnul (hrest.subset List.mem_cons_self)

theorem modifiersLoop_agrees {fuel fuel' : Nat}
    (h : modifiersLoop fuel (text ++ [nul]) mods = some modifiers) (hnul : nul ∉ text)
    (hfuel' : text.length < fuel') : Compositor.modifiersLoop fuel' text mods = modifiers := by
  induction fuel generalizing text fuel' mods with
  | zero => cases h
  | succ fuel ih =>
      obtain ⟨fuel', rfl⟩ : ∃ n, fuel' = n + 1 := ⟨fuel' - 1, by omega⟩
      rcases text with _ | ⟨a, text⟩
      · rw [Compositor.modifiersLoop, if_pos (.inl rfl)]
        exact Option.some.inj h
      have ha : a ≠ nul := fun ha => hnul (by simp [ha])
      by_cases hend : a = ']'
      · subst hend
        rw [Compositor.modifiersLoop, if_pos (.inr rfl)]
        exact Option.some.inj h
      rw [modifiersLoop_succ (by tauto)] at h
      rw [Compositor.modifiersLoop, if_neg (by simpa using hend)]
      rcases hskip : skipSpaceAndCommas (a :: text) with _ | ⟨c, p⟩
      · simp [hskip] at h
      rw [hskip] at h
      obtain ⟨-, hp, hlength⟩ := behind_separators hskip hnul
      simp only at h ⊢
      by_cases hbracket : c = ']'
      · rw [if_pos hbracket] at h ⊢
        exact Option.some.inj h
      rw [if_neg hbracket] at h ⊢
      by_cases hquote : c = '"'
      · rw [if_neg (not_not.mpr hquote)] at h ⊢
        rw [takeWhile_no_nul _ hp, dropWhile_no_nul _ hp] at h
        rw [drop_length_takeWhile]
        rcases dropWhile_cases '"' hp with hdrop | ⟨q, hdrop, hq, hrest⟩
        · rw [hdrop] at h ⊢
          exact ih h (by simp) (by rw [List.tail_nil, List.length_nil]; omega)
        · rw [hdrop] at h ⊢
          exact ih h hq (by rw [List.tail_cons]; omega)
      · rw [if_pos hquote] at h ⊢
        exact ih h hp (by omega)

theorem parseModifiersArray_agrees
    (h : parseModifiersArray (text ++ [nul]) = some modifiers) (hnul : nul ∉ text) :
    Compositor.parseModifiersArray text = modifiers := by
  rw [parseModifiersArray, skipTo_terminated, dropWhile_no_nul _ hnul, Option.bind_eq_bind,
    Option.bind_some] at h
  rw [Compositor.parseModifiersArray]
  rcases dropWhile_cases '[' hnul with hdrop | ⟨p, hdrop, hp, -⟩
  · rw [hdrop] at h ⊢
    exact Option.some.inj h
  · rw [hdrop] at h ⊢
    exact modifiersLoop_agrees h hp (Nat.lt_succ_self _)

theorem modifiersFieldLoop_agrees (pattern rest : List Char) (fuel : Nat) (pos : List Char) :
    Compositor.modifiersFieldLoop pattern rest fuel pos =
      match modifiersFieldLoop pattern fuel pos with
      | none => 0
      | some pos => Compositor.parseModifiersArray (pos ++ rest) := by
  induction fuel generalizing pos with
  | zero => rfl
  | succ fuel ih =>
      rw [Compositor.modifiersFieldLoop, modifiersFieldLoop]
      rcases after pattern pos with _ | pos
      · rfl
      simp only
      rcases skipSpace pos with _ | ⟨c, pos⟩
      · rfl
      simp only
      split
      · exact ih _
      · rfl

theorem extractModifiersField_agrees
    (h : extractModifiersField obj (behind ++ [nul]) = some modifiers) (hobj : nul ∉ obj)
    (hbehind : nul ∉ behind) : Compositor.extractModifiersField obj behind = modifiers := by
  rw [Compositor.extractModifiersField, modifiersFieldLoop_agrees, ← modifiersField]
  rw [extractModifiersField] at h
  rcases hfield : modifiersField obj with _ | pos
  · rw [hfield] at h
    exact Option.some.inj h
  · rw [hfield] at h
    rw [modifiersField] at hfield
    have hpos : nul ∉ pos := fun hc => hobj ((modifiersFieldLoop_suffix hfield).subset hc)
    simp only [← List.append_assoc] at h ⊢
    exact parseModifiersArray_agrees h (by simp [hpos, hbehind])

end Modifiers

section Objects

variable {xkbKeysymFromName : String → UInt32} {text obj behind content : List Char}
  {keybindings : List ZenKeybinding} {modifiers : UInt32} {result : Int × List ZenKeybinding}

theorem splitObject_eq_cutObject {depth : Nat} (hdepth : 0 < depth) (hnul : nul ∉ text) :
    splitObject depth text = cutObject depth text := by
  induction text generalizing depth with
  | nil => rfl
  | cons c text ih =>
      simp only [List.mem_cons, not_or] at hnul
      rw [splitObject, cutObject, if_neg (Ne.symm hnul.1)]
      by_cases hopen : c = '{'
      · subst hopen
        rw [if_neg (by rintro ⟨hc, -⟩; cases hc), if_pos rfl]
        simp only [if_true]
        rw [ih (Nat.succ_pos _) hnul.2]
        rfl
      rw [if_neg hopen]
      by_cases hclose : c = '}'
      · subst hclose
        by_cases hone : depth = 1
        · subst hone
          rfl
        · have hlast : ¬ ((depth : Int) - 1 = 0) := by omega
          have hpred : (depth : Int) - 1 = ((depth - 1 : Nat) : Int) := by omega
          rw [if_neg (by tauto), if_pos rfl, if_neg hlast, hpred]
          simp only [hopen, if_false, if_true]
          rw [ih (by omega) hnul.2]
          rfl
      · rw [if_neg (by tauto), if_neg hclose]
        simp only [hopen, hclose, if_false]
        rw [ih hdepth hnul.2]
        rfl

theorem splitObject_open (hnul : nul ∉ text) :
    splitObject 0 ('{' :: text) = cutObject 0 ('{' :: text) := by
  have hsplit : splitObject 1 text = cutObject 1 text :=
    splitObject_eq_cutObject (by decide) hnul
  rw [splitObject, if_neg (by decide), if_pos rfl, cutObject, if_neg (by decide), if_pos rfl]
  simp only [Nat.zero_add, hsplit]
  rfl

theorem readObject_eq_parseBinding
    (h : Compositor.extractModifiersField obj behind = modifiers) :
    readObject (.enough xkbKeysymFromName) .enough modifiers obj =
      parseBinding xkbKeysymFromName obj behind := by
  rw [readObject, parseBinding, h]
  simp only [allocStringField, ObjectAllocs.enough, if_true, Env.enough]
  rcases extractStringField obj "key" with _ | key
  · rfl
  rcases extractStringField obj "action" with _ | action
  · rfl
  simp only [Option.bind_eq_bind, Option.bind_some]
  split
  · rfl
  · rcases parseActionString action with _ | action
    · rfl
    · rcases extractStringField obj "command" with _ | command <;> rfl

theorem bindingsLoop_agrees {fuel fuel' i : Nat}
    (h : bindingsLoop (.enough xkbKeysymFromName) fuel i (text ++ [nul]) keybindings = some result)
    (hnul : nul ∉ text) (hfuel' : text.length < fuel') :
    Compositor.bindingsLoop xkbKeysymFromName fuel' text keybindings = result := by
  induction fuel generalizing text fuel' i keybindings with
  | zero => cases h
  | succ fuel ih =>
      obtain ⟨fuel', rfl⟩ : ∃ n, fuel' = n + 1 := ⟨fuel' - 1, by omega⟩
      rw [bindingsLoop_succ] at h
      rw [Compositor.bindingsLoop]
      rcases hskip : skipSpaceAndCommas text with _ | ⟨c, p⟩
      · rw [hskip] at h
        exact Option.some.inj h
      rw [hskip] at h
      obtain ⟨hc, hp, hlength⟩ := behind_separators hskip hnul
      simp only at h ⊢
      by_cases hend : c = ']'
      · rw [if_pos (.inl hend)] at h
        rw [if_pos hend]
        exact Option.some.inj h
      rw [if_neg (by tauto)] at h
      rw [if_neg hend]
      by_cases hopen : c = '{'
      · subst hopen
        have hbehind := cutObject_behind_le (c := '{') (by decide) 0 p
        have hcut := cutObject_append 0 ('{' :: p)
        have hrest : nul ∉ '{' :: p := by simp [hp, Ne.symm hc]
        rw [splitObject_open hp]
        rw [if_neg (by simp)] at h ⊢
        generalize cutObject 0 ('{' :: p) = cut at h hbehind hcut ⊢
        obtain ⟨obj, behind⟩ := cut
        simp only at h hbehind hcut ⊢
        rw [← hcut, List.mem_append, not_or] at hrest
        obtain ⟨modifiers, hmodifiers, h⟩ := Option.bind_eq_some_iff.mp h
        have hfield := extractModifiersField_agrees hmodifiers hrest.1 hrest.2
        have hobject : readObject (.enough xkbKeysymFromName)
            ((Env.enough xkbKeysymFromName).objects i) modifiers obj =
              parseBinding xkbKeysymFromName obj behind := readObject_eq_parseBinding hfield
        rw [← hobject]
        rcases hread : readObject (.enough xkbKeysymFromName)
          ((Env.enough xkbKeysymFromName).objects i) modifiers obj with _ | binding
        · rw [hread] at h
          exact Option.some.inj h
        · rw [hread] at h
          exact ih h hrest.2 (by omega)
      · rw [if_pos hopen] at h ⊢
        exact Option.some.inj h

/-- On a file without NULs whose characters are bytes, the reader of texts returns what the
reader of the buffer does, if that stays inside its buffer. -/
theorem zenKeybindsLoadConfig_agrees
    (h : zenKeybindsLoadConfig (.enough xkbKeysymFromName) keybindings (some content) = some result)
    (hnul : nul ∉ content) (hbytes : (String.ofList content).utf8ByteSize = content.length) :
    Compositor.zenKeybindsLoadConfig xkbKeysymFromName keybindings (some content) = result := by
  have hplain : ∀ c ∈ content, decide (c ≠ nul) = true := by
    intro c hc
    rw [decide_eq_true_eq]
    rintro rfl
    exact hnul hc
  have hall : content.takeWhile (· ≠ nul) = content := List.takeWhile_eq_self_iff.mpr hplain
  have hnone : content.dropWhile (· ≠ nul) = [] := List.dropWhile_eq_nil_iff.mpr hplain
  rw [Compositor.zenKeybindsLoadConfig, hbytes]
  simp only
  by_cases hread : Readable (.enough xkbKeysymFromName) content
  · have hsize : ¬ (content.length = 0 ∨ 65536 < content.length) := by
      have hpos := hread.nonempty
      have hle := hread.size
      omega
    have hkey : quote '"' "bindings".toList = '"' :: "bindings\"".toList := rfl
    have hstrstr := strstr_terminated (a := '"') (k := "bindings\"".toList) (by decide) content
    rw [zenKeybindsLoadConfig_of_readable hread, loadBuffer, hkey, hstrstr, hall, hnone] at h
    rw [if_neg hsize, show content.takeWhile (· ≠ '\x00') = content from hall, hkey]
    rcases hafter : after ('"' :: "bindings\"".toList) content with _ | value
    · rw [hafter] at h
      exact Option.some.inj h
    rw [hafter] at h
    simp only [Option.map_some, List.nil_append, Option.bind_eq_bind, Option.bind_some] at h ⊢
    have hvalue : nul ∉ value := fun hc => hnul ((after_suffix hafter).subset hc)
    rw [skipTo_terminated, dropWhile_no_nul _ hvalue, Option.bind_some] at h
    rcases dropWhile_cases '[' hvalue with hdrop | ⟨p, hdrop, hp, -⟩
    · rw [hdrop] at h ⊢
      exact Option.some.inj h
    · rw [hdrop] at h ⊢
      exact bindingsLoop_agrees h hp (Nat.lt_succ_self _)
  · have hsize : content.length = 0 ∨ 65536 < content.length := by
      by_contra hsize
      exact hread ⟨rfl, rfl, rfl, rfl, by omega, by omega⟩
    rw [zenKeybindsLoadConfig_of_not_readable hread] at h
    rw [if_pos hsize]
    exact Option.some.inj h

end Objects

end ZenOS.Compositor.KeybindsBuffer
