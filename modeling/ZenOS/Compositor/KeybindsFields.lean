import ZenOS.Compositor.KeybindsFormat

/-!
How the scanner of `keybinds.c` finds the fields of an entry in the text of its object,
though a value may look like the name of a field.
-/

namespace ZenOS.Compositor

open ZenOS.Library.QuotedText

section Space

variable {pieces : List Token}

@[simp] theorem strip_append (pieces pieces' : List Token) :
    strip (pieces ++ pieces') = strip pieces ++ strip pieces' :=
  List.filter_append ..

theorem dropWhile_eq_cons_of_strip {token : Token} {tokens : List Token}
    (h : strip pieces = token :: tokens) :
    ∃ rest, pieces.dropWhile isSpacePiece = token :: rest ∧ strip rest = tokens := by
  induction pieces with
  | nil => cases h
  | cons piece pieces ih =>
      rcases hspace : isSpacePiece piece with _ | _
      · rw [strip, List.filter_cons_of_pos (by simp [hspace]), List.cons.injEq] at h
        obtain ⟨rfl, htokens⟩ := h
        exact ⟨pieces, List.dropWhile_cons_of_neg (by simp [hspace]), htokens⟩
      · rw [strip, List.filter_cons_of_neg (by simp [hspace])] at h
        obtain ⟨rest, hrest, htokens⟩ := ih h
        exact ⟨rest, by rw [List.dropWhile_cons_of_pos hspace, hrest], htokens⟩

theorem dropWhile_eq_nil_of_strip (h : strip pieces = []) :
    pieces.dropWhile isSpacePiece = [] := by
  induction pieces with
  | nil => rfl
  | cons piece pieces ih =>
      rcases hspace : isSpacePiece piece with _ | _
      · rw [strip, List.filter_cons_of_pos (by simp [hspace])] at h
        cases h
      · rw [strip, List.filter_cons_of_neg (by simp [hspace])] at h
        rw [List.dropWhile_cons_of_pos hspace, ih h]

theorem dropWhile_render {p : Char → Bool} (hspace : ∀ c, isSpace c = true → p c = true)
    (lead : List Token) {tokens : List Token} {token : Token}
    (hlead : ∀ piece ∈ lead, ∃ c, piece = .mark c ∧ p c = true)
    (htoken : p (token.first '"') = false) (hstrip : strip pieces = lead ++ token :: tokens)
    (rest : List Char) :
    ∃ pieces', (render '"' pieces ++ rest).dropWhile p =
        render '"' (token :: pieces') ++ rest ∧
      strip pieces' = tokens ∧ token :: pieces' <:+ pieces := by
  induction pieces generalizing lead with
  | nil => simp [strip] at hstrip
  | cons piece pieces ih =>
      rcases hpiece : isSpacePiece piece with _ | _
      · rw [strip, List.filter_cons_of_pos (by simp [hpiece])] at hstrip
        cases lead with
        | nil =>
            obtain ⟨rfl, htokens⟩ := List.cons.inj hstrip
            refine ⟨pieces, ?_, htokens, List.suffix_rfl⟩
            rw [render_cons_first, List.cons_append, List.dropWhile_cons_of_neg (by simp [htoken])]
        | cons skipped lead =>
            obtain ⟨rfl, htokens⟩ := List.cons.inj hstrip
            obtain ⟨⟨c, rfl, hc⟩, hothers⟩ := List.forall_mem_cons.mp hlead
            obtain ⟨pieces', hdrop, hrest, hsuffix⟩ := ih _ hothers htokens
            refine ⟨pieces', ?_, hrest, hsuffix.trans (List.suffix_cons ..)⟩
            rw [render_mark, List.cons_append, List.dropWhile_cons_of_pos hc, hdrop]
      · rw [strip, List.filter_cons_of_neg (by simp [hpiece])] at hstrip
        obtain ⟨pieces', hdrop, hrest, hsuffix⟩ := ih lead hlead hstrip
        refine ⟨pieces', ?_, hrest, hsuffix.trans (List.suffix_cons ..)⟩
        cases piece with
        | mark c =>
            rw [render_mark, List.cons_append, List.dropWhile_cons_of_pos (hspace c hpiece), hdrop]
        | word s => cases hpiece

theorem skipSpace_render :
    skipSpace (render '"' pieces) = render '"' (pieces.dropWhile isSpacePiece) := by
  induction pieces with
  | nil => rfl
  | cons piece pieces ih =>
      cases piece with
      | mark c =>
          rcases hspace : isSpace c with _ | _
          · rw [List.dropWhile_cons_of_neg (by simp [isSpacePiece, hspace]), render_mark,
              skipSpace, List.dropWhile_cons_of_neg (by simp [hspace])]
          · rw [List.dropWhile_cons_of_pos (by simp [isSpacePiece, hspace]), render_mark,
              skipSpace, List.dropWhile_cons_of_pos hspace, ← ih, skipSpace]
      | word s =>
          rw [List.dropWhile_cons_of_neg (by simp [isSpacePiece]), render_word, skipSpace,
            List.dropWhile_cons_of_neg (by decide)]

end Space

def afterColon (pieces : List Token) : Option (List Token) :=
  match pieces.dropWhile isSpacePiece with
  | .mark c :: rest => if c = ':' then some rest else none
  | _ => none

/-- What stands behind the first occurrence of a key that a colon follows. -/
def valueAt (key : List Char) : List Token → Option (List Token)
  | [] => none
  | piece :: pieces =>
      if piece = .word key then (afterColon pieces).or (valueAt key pieces)
      else valueAt key pieces

section ValueAt

variable {key : List Char} {pieces : List Token}

theorem afterColon_eq_some {rest : List Token}
    (h : pieces.dropWhile isSpacePiece = .mark ':' :: rest) : afterColon pieces = some rest := by
  simp [afterColon, h]

theorem afterColon_eq_none
    (h : ∀ rest, pieces.dropWhile isSpacePiece ≠ .mark ':' :: rest) :
    afterColon pieces = none := by
  unfold afterColon
  split
  · next c rest hrest =>
      rw [if_neg]
      rintro rfl
      exact h rest hrest
  · rfl

theorem afterColon_strip : (afterColon pieces).map strip = afterColon (strip pieces) := by
  rcases hstrip : strip pieces with _ | ⟨token, tokens⟩
  · rw [afterColon_eq_none (by simp [dropWhile_eq_nil_of_strip hstrip]),
      afterColon_eq_none (by simp)]
    rfl
  · obtain ⟨rest, hrest, rfl⟩ := dropWhile_eq_cons_of_strip hstrip
    have hspace : isSpacePiece token = false := by
      have hmem : token ∈ strip pieces := by simp [hstrip]
      simpa using (List.mem_filter.mp hmem).2
    by_cases htoken : token = .mark ':'
    · subst htoken
      rw [afterColon_eq_some hrest,
        afterColon_eq_some (List.dropWhile_cons_of_neg (by simp [hspace]))]
      rfl
    · rw [afterColon_eq_none (by simp [hrest, htoken]),
        afterColon_eq_none (by simp [hspace, htoken])]
      rfl

@[simp] theorem valueAt_mark (c : Char) :
    valueAt key (.mark c :: pieces) = valueAt key pieces := by
  rw [valueAt, if_neg (by simp)]

@[simp] theorem valueAt_key :
    valueAt key (.word key :: pieces) = (afterColon pieces).or (valueAt key pieces) := by
  rw [valueAt, if_pos rfl]

theorem valueAt_word_of_ne {s : List Char} (h : s ≠ key) :
    valueAt key (.word s :: pieces) = valueAt key pieces := by
  rw [valueAt, if_neg (by simpa using h)]

theorem valueAt_dropWhile :
    valueAt key (pieces.dropWhile (· ≠ .word key)) = valueAt key pieces := by
  induction pieces with
  | nil => rfl
  | cons piece pieces ih =>
      by_cases hpiece : piece = .word key
      · rw [List.dropWhile_cons_of_neg (by simp [hpiece])]
      · rw [List.dropWhile_cons_of_pos (by simp [hpiece]), ih, valueAt, if_neg hpiece]

theorem valueAt_dropWhile_space :
    valueAt key (pieces.dropWhile isSpacePiece) = valueAt key pieces := by
  induction pieces with
  | nil => rfl
  | cons piece pieces ih =>
      cases piece with
      | mark c =>
          rcases hspace : isSpacePiece (.mark c) with _ | _
          · rw [List.dropWhile_cons_of_neg (by simp [hspace])]
          · rw [List.dropWhile_cons_of_pos hspace, ih, valueAt_mark]
      | word s => rw [List.dropWhile_cons_of_neg (by simp [isSpacePiece])]

theorem valueAt_strip : (valueAt key pieces).map strip = valueAt key (strip pieces) := by
  induction pieces with
  | nil => rfl
  | cons piece pieces ih =>
      cases piece with
      | mark c =>
          rw [valueAt_mark, ih]
          rcases hspace : isSpacePiece (.mark c) with _ | _
          · rw [strip, strip, List.filter_cons_of_pos (by simp [hspace]), valueAt_mark]
          · rw [strip, strip, List.filter_cons_of_neg (by simp [hspace])]
      | word s =>
          have hstrip : strip (.word s :: pieces) = .word s :: strip pieces :=
            List.filter_cons_of_pos (by simp [isSpacePiece])
          rw [hstrip]
          by_cases hs : s = key
          · subst hs
            rw [valueAt_key, valueAt_key, Option.map_or, afterColon_strip, ih]
          · rw [valueAt_word_of_ne hs, valueAt_word_of_ne hs, ih]

end ValueAt

/-- A piece of a JSON text without escapes, numbers and constants. -/
def JsonPiece : Token → Prop
  | .mark c => isSpace c ∨ c ∈ [',', ':', '[', ']', '{', '}']
  | .word s => ∀ c ∈ s, c ∉ reserved

instance : DecidablePred JsonPiece
  | .mark c => inferInstanceAs (Decidable (isSpace c ∨ c ∈ [',', ':', '[', ']', '{', '}']))
  | .word s => List.decidableBAll (· ∉ reserved) s

/-- What one search finds: nothing, the value of the key, or the key as something else. -/
inductive Scan (key : List Char) (pieces : List Token) : Prop where
  | absent (hvalue : valueAt key pieces = none)
      (hnone : ∀ pos ∈ after (quote '"' key) (render '"' pieces), skipSpace pos = [])
  | value (pos : List Char) (rest : List Token)
      (hvalue : valueAt key pieces = some rest)
      (hafter : after (quote '"' key) (render '"' pieces) = some pos)
      (hskip : skipSpace pos = ':' :: render '"' rest)
      (hrest : rest ⊆ pieces)
  | other (pos : List Char) (c : Char) (text : List Char) (pieces' : List Token)
      (hvalue : valueAt key pieces = valueAt key pieces')
      (hafter : after (quote '"' key) (render '"' pieces) = some pos)
      (hskip : skipSpace pos = c :: text)
      (hc : c ≠ ':')
      (hrender : render '"' pieces' = c :: text)
      (hrest : pieces' ⊆ pieces)
      (hlength : pieces'.length < pieces.length)

section Search

variable {key : List Char} {pieces : List Token}

theorem JsonPiece.proper {piece : Token} (h : JsonPiece piece) : piece.Proper '"' := by
  cases piece with
  | mark c =>
      rintro rfl
      simp [JsonPiece, isSpace] at h
  | word s => exact fun hquote => h _ hquote (by decide)

theorem scan_behind {rest : List Token}
    (hvalue : valueAt key pieces = (afterColon rest).or (valueAt key rest))
    (hafter : after (quote '"' key) (render '"' pieces) = some (render '"' rest))
    (hrest : rest ⊆ pieces) (hlength : rest.length < pieces.length) : Scan key pieces := by
  have hskip : skipSpace (render '"' rest) = _ := skipSpace_render
  have hspace : _ = valueAt key rest := valueAt_dropWhile_space
  have hsuffix := List.dropWhile_suffix (l := rest) isSpacePiece
  have hsub : rest.dropWhile isSpacePiece ⊆ pieces := List.Subset.trans hsuffix.subset hrest
  have hshort := hsuffix.length_le.trans_lt hlength
  rcases hnext : rest.dropWhile isSpacePiece with _ | ⟨next, rest'⟩
  · rw [hnext] at hskip hspace
    rw [afterColon_eq_none (by simp [hnext]), ← hspace] at hvalue
    refine .absent hvalue ?_
    rw [hafter]
    rintro _ ⟨⟩
    exact hskip
  · rw [hnext] at hskip hspace hsub hshort
    by_cases hcolon : next = .mark ':'
    · subst hcolon
      rw [afterColon_eq_some hnext] at hvalue
      exact .value _ rest' hvalue hafter hskip (List.Subset.trans (List.subset_cons_self _ _) hsub)
    · rw [afterColon_eq_none (by simp [hnext, hcolon]), ← hspace] at hvalue
      cases next with
      | mark c =>
          exact .other _ c _ _ hvalue hafter hskip (by simpa using hcolon) rfl hsub hshort
      | word s =>
          rw [render_word] at hskip
          exact .other _ '"' _ _ hvalue hafter hskip (by decide) (render_word s) hsub hshort

theorem scan {c : Char} {k : List Char} (hc : ¬ JsonPiece (.mark c)) (hkey : '"' ∉ c :: k)
    (hjson : ∀ piece ∈ pieces, JsonPiece piece) : Scan (c :: k) pieces := by
  have hafter := after_render hkey (fun piece hpiece => (hjson piece hpiece).proper)
    (fun hmem => hc (hjson _ hmem))
  have hvalue : _ = valueAt (c :: k) pieces := valueAt_dropWhile
  rcases hdrop : pieces.dropWhile (· ≠ .word (c :: k)) with _ | ⟨piece, rest⟩
  · rw [hdrop] at hafter hvalue
    exact .absent hvalue.symm (by simp [hafter])
  · have hpiece : piece = .word (c :: k) := by
      have hhead := List.head?_dropWhile_not (· ≠ .word (c :: k)) pieces
      rw [hdrop] at hhead
      simpa using hhead
    subst hpiece
    have hsuffix : .word (c :: k) :: rest <:+ pieces := by
      rw [← hdrop]
      exact List.dropWhile_suffix _
    rw [hdrop] at hafter hvalue
    exact scan_behind (by rw [← hvalue, valueAt_key]) hafter
      (List.Subset.trans (List.subset_cons_self _ _) hsuffix.subset) hsuffix.length_le

def firstWord (pieces : List Token) : Option (List Char) :=
  match pieces.dropWhile isSpacePiece with
  | .word s :: _ => some s
  | _ => none

theorem readString_word {s text : List Char} (h : JsonPiece (.word s)) :
    readString (s ++ '"' :: text) = some s := by
  induction s with
  | nil =>
      rw [List.nil_append, readString.eq_def]
      rfl
  | cons c s ih =>
      have hc : c ∉ reserved := h c List.mem_cons_self
      simp only [reserved, List.mem_cons, not_or] at hc
      have hrest := ih fun d hd => h d (List.mem_cons_of_mem _ hd)
      rw [List.cons_append, readString.eq_def]
      simp [hc.1, hc.2.1, hrest]

theorem stringFieldLoop_render {c : Char} {k : List Char} (hc : ¬ JsonPiece (.mark c))
    (hkey : '"' ∉ c :: k) (hjson : ∀ piece ∈ pieces, JsonPiece piece)
    (hvalue : ∀ rest ∈ valueAt (c :: k) pieces, ∃ s tail, strip rest = .word s :: tail)
    {fuel : Nat} (hfuel : pieces.length < fuel) :
    stringFieldLoop (quote '"' (c :: k)) fuel (render '"' pieces) =
      (valueAt (c :: k) pieces).bind firstWord := by
  induction fuel generalizing pieces with
  | zero => omega
  | succ fuel ih =>
      cases scan hc hkey hjson with
      | absent hnothing hnone =>
          rw [hnothing, stringFieldLoop]
          split
          · rfl
          · next pos hpos => simp [hnone pos hpos]
      | value pos rest hsome hafter hskip hrest =>
          obtain ⟨s, tail, hstrip⟩ := hvalue rest hsome
          obtain ⟨behind, hbehind, -⟩ := dropWhile_eq_cons_of_strip hstrip
          have hword : JsonPiece (.word s) := by
            refine hjson _ (hrest ((List.dropWhile_suffix isSpacePiece).subset ?_))
            exact hbehind ▸ List.mem_cons_self
          rw [hsome, Option.bind_some, firstWord, hbehind]
          simp [stringFieldLoop, hafter, hskip, skipSpace_render, hbehind,
            readString_word hword]
      | other pos d text pieces' hsame hafter hskip hd hrender hrest hlength =>
          rw [hsame] at hvalue ⊢
          rw [← ih (fun piece hpiece => hjson piece (hrest hpiece)) hvalue (by omega), hrender]
          simp [stringFieldLoop, hafter, hskip, hd]

theorem modifiersFieldLoop_render {c : Char} {k rest : List Char}
    (hc : ¬ JsonPiece (.mark c)) (hkey : '"' ∉ c :: k)
    (hjson : ∀ piece ∈ pieces, JsonPiece piece) {fuel : Nat} (hfuel : pieces.length < fuel) :
    modifiersFieldLoop (quote '"' (c :: k)) rest fuel (render '"' pieces) =
      (valueAt (c :: k) pieces).elim 0 fun value =>
        parseModifiersArray (render '"' value ++ rest) := by
  induction fuel generalizing pieces with
  | zero => omega
  | succ fuel ih =>
      cases scan hc hkey hjson with
      | absent hnothing hnone =>
          rw [hnothing, modifiersFieldLoop]
          split
          · rfl
          · next pos hpos => simp [hnone pos hpos]
      | value pos value hsome hafter hskip hrest =>
          rw [hsome]
          simp [modifiersFieldLoop, hafter, hskip]
      | other pos d text pieces' hsame hafter hskip hd hrender hrest hlength =>
          rw [hsame, ← ih (fun piece hpiece => hjson piece (hrest hpiece)) (by omega), hrender]
          simp [modifiersFieldLoop, hafter, hskip, hd]

end Search

section Members

variable {key : List Char} {xkbKeysymFromName : String → UInt32}

theorem separated_cons (item : List Token) (items : List (List Token)) :
    separated (item :: items) = item ++ (comma items ++ separated items) :=
  rfl

theorem eq_mark_of_mem_comma {items : List (List Token)} {piece : Token}
    (h : piece ∈ comma items) : piece = .mark ',' := by
  unfold comma at h
  split at h
  · cases h
  · simpa using h

theorem valueAt_word_mark (s : List Char) {c : Char} {tokens : List Token}
    (hspace : isSpace c = false) (hc : c ≠ ':') :
    valueAt key (.word s :: .mark c :: tokens) = valueAt key tokens := by
  by_cases hs : s = key
  · subst hs
    rw [valueAt_key, afterColon_eq_none (by simp [isSpacePiece, hspace, hc]), Option.none_or,
      valueAt_mark]
  · rw [valueAt_word_of_ne hs, valueAt_mark]

theorem valueAt_words (words : List (List Char)) {c : Char} {tokens : List Token}
    (hspace : isSpace c = false) (hc : c ≠ ':') :
    valueAt key (separated (words.map fun s => [.word s]) ++ .mark c :: tokens) =
      valueAt key tokens := by
  induction words with
  | nil => exact valueAt_mark c
  | cons s words ih =>
      rw [List.map_cons, separated_cons]
      cases words with
      | nil => exact valueAt_word_mark s hspace hc
      | cons t words =>
          rw [← ih]
          exact valueAt_word_mark s (by decide) (by decide)

theorem Entry.valueAt_valueTokens (e : Entry xkbKeysymFromName) (f : Field) {c : Char}
    {tokens : List Token} (hspace : isSpace c = false) (hc : c ≠ ':') :
    valueAt key (e.valueTokens f ++ .mark c :: tokens) = valueAt key tokens := by
  cases f with
  | modifiers =>
      have hwords : _ = valueAt key (.mark c :: tokens) :=
        valueAt_words (e.modifiers.map (·.spelling)) (c := ']') (by decide) (by decide)
      rw [List.map_map, valueAt_mark] at hwords
      rw [Entry.valueTokens, List.cons_append, List.append_assoc, valueAt_mark]
      exact hwords
  | key => exact valueAt_word_mark _ hspace hc
  | action => exact valueAt_word_mark _ hspace hc
  | command =>
      rw [Entry.valueTokens]
      cases e.command with
      | none => exact valueAt_mark c
      | some cmd => exact valueAt_word_mark _ hspace hc

theorem Entry.valueAt_memberTokens_of_ne (e : Entry xkbKeysymFromName) {f g : Field} (h : g ≠ f)
    {c : Char} {tokens : List Token} (hspace : isSpace c = false) (hc : c ≠ ':') :
    valueAt f.name.toList (e.memberTokens g ++ .mark c :: tokens) =
      valueAt f.name.toList tokens := by
  have hname : g.name.toList ≠ f.name.toList := fun heq => h (Field.name_injective heq)
  rw [Entry.memberTokens, List.cons_append, List.cons_append, valueAt_word_of_ne hname,
    valueAt_mark, e.valueAt_valueTokens g hspace hc]

theorem Entry.valueAt_memberTokens (e : Entry xkbKeysymFromName) (f : Field)
    (tokens : List Token) :
    valueAt f.name.toList (e.memberTokens f ++ tokens) = some (e.valueTokens f ++ tokens) := by
  rw [Entry.memberTokens, List.cons_append, List.cons_append, valueAt_key,
    afterColon_eq_some (List.dropWhile_cons_of_neg (by decide)), Option.some_or]

theorem Entry.valueAt_cons_of_ne (e : Entry xkbKeysymFromName) {f g : Field} (h : g ≠ f)
    (order : List Field) (tokens : List Token) :
    valueAt f.name.toList (separated ((g :: order).map e.memberTokens) ++ .mark '}' :: tokens) =
      valueAt f.name.toList (separated (order.map e.memberTokens) ++ .mark '}' :: tokens) := by
  rw [List.map_cons, separated_cons]
  cases order with
  | nil =>
      simp only [List.map_nil, comma, if_pos, separated, List.append_nil, List.nil_append]
      rw [e.valueAt_memberTokens_of_ne h (by decide) (by decide), valueAt_mark]
  | cons g' order =>
      rw [comma, if_neg (by simp), List.append_assoc]
      exact e.valueAt_memberTokens_of_ne h (by decide) (by decide)

theorem Entry.valueAt_of_mem (e : Entry xkbKeysymFromName) {f : Field} {order : List Field}
    (h : f ∈ order) (tokens : List Token) :
    ∃ tail, valueAt f.name.toList
        (separated (order.map e.memberTokens) ++ .mark '}' :: tokens) =
      some (e.valueTokens f ++ tail) := by
  induction order with
  | nil => cases h
  | cons g order ih =>
      rcases eq_or_ne g f with rfl | hne
      · rw [List.map_cons, separated_cons, List.append_assoc]
        exact ⟨_, e.valueAt_memberTokens g _⟩
      · rw [e.valueAt_cons_of_ne hne]
        exact ih ((List.mem_cons.mp h).resolve_left hne.symm)

theorem Entry.valueAt_of_notMem (e : Entry xkbKeysymFromName) {f : Field} {order : List Field}
    (h : f ∉ order) (tokens : List Token) :
    valueAt f.name.toList (separated (order.map e.memberTokens) ++ .mark '}' :: tokens) =
      valueAt f.name.toList tokens := by
  induction order with
  | nil => exact valueAt_mark _
  | cons g order ih =>
      simp only [List.mem_cons, not_or] at h
      rw [e.valueAt_cons_of_ne (Ne.symm h.1), ih h.2]

end Members

section Arrays

variable {pieces : List Token}

theorem isSpace_bracket {c : Char} (h : isSpace c = true) : c ≠ '[' := by
  rintro rfl
  cases h

theorem modifiersLoop_word {p p' s : List Char} {fuel : Nat} {mods : UInt32}
    (hskip : skipSpaceAndCommas p = '"' :: (s ++ '"' :: p')) (hs : '"' ∉ s) :
    modifiersLoop (fuel + 1) p mods = modifiersLoop fuel p' (mods ||| parseModifierToken s) := by
  have hopen : ¬ (p = [] ∨ p.head? = some ']') := by
    rintro (rfl | hhead)
    · simp [skipSpaceAndCommas] at hskip
    · obtain ⟨tail, rfl⟩ := List.head?_eq_some_iff.mp hhead
      simp [skipSpaceAndCommas, isSpace] at hskip
  have htake : (s ++ '"' :: p').takeWhile (· ≠ '"') = s := by
    have hletters : ∀ c ∈ s, decide (c ≠ '"') = true := by
      intro c hc
      rw [decide_eq_true_eq]
      rintro rfl
      exact hs hc
    rw [List.takeWhile_append_of_pos hletters]
    simp
  rw [modifiersLoop, if_neg hopen, hskip]
  simp only [htake]
  simp

theorem modifiersLoop_end {p p' : List Char} {fuel : Nat} {mods : UInt32}
    (hskip : skipSpaceAndCommas p = ']' :: p') : modifiersLoop fuel p mods = mods := by
  cases fuel with
  | zero => rfl
  | succ fuel =>
      rw [modifiersLoop, hskip]
      simp

theorem commas_skipped {lead : List Token} (hlead : ∀ piece ∈ lead, piece = .mark ',') :
    ∀ piece ∈ lead, ∃ c, piece = .mark c ∧ (isSpace c || c = ',') = true :=
  fun piece hpiece => ⟨',', hlead piece hpiece, by decide⟩

theorem isSpace_or_comma (c : Char) (hc : isSpace c = true) :
    (isSpace c || decide (c = ',')) = true := by
  simp [hc]

theorem modifiersLoop_render (modifiers : List SpelledModifier) (lead : List Token)
    {tail : List Token} (hlead : ∀ piece ∈ lead, piece = .mark ',')
    (hstrip : strip pieces =
      lead ++ (separated (modifiers.map fun m => [.word m.spelling]) ++ .mark ']' :: tail))
    (rest : List Char) {fuel : Nat} (hfuel : modifiers.length < fuel) (mods : UInt32) :
    modifiersLoop fuel (render '"' pieces ++ rest) mods =
      modifiers.foldl (fun mods m => mods ||| m.modifier.bit) mods := by
  have hskipped := commas_skipped hlead
  induction modifiers generalizing pieces lead fuel mods with
  | nil =>
      obtain ⟨pieces', hskip, -, -⟩ := dropWhile_render isSpace_or_comma lead hskipped (by decide) hstrip rest
      exact modifiersLoop_end hskip
  | cons m modifiers ih =>
      obtain ⟨fuel, rfl⟩ : ∃ n, fuel = n + 1 := ⟨fuel - 1, by omega⟩
      rw [List.map_cons, separated_cons, List.append_assoc, List.singleton_append] at hstrip
      obtain ⟨pieces', hskip, hrest, -⟩ := dropWhile_render isSpace_or_comma lead hskipped rfl hstrip rest
      rw [render_word, List.cons_append, List.append_assoc, List.cons_append] at hskip
      have hquote : '"' ∉ m.spelling := fun h => m.notMem_reserved h (by decide)
      rw [modifiersLoop_word hskip hquote, m.parse, List.foldl_cons]
      rw [List.append_assoc] at hrest
      refine ih _ (fun piece hpiece => eq_mark_of_mem_comma hpiece) hrest
        (by simpa using hfuel) _ ?_
      exact fun piece hpiece => ⟨',', eq_mark_of_mem_comma hpiece, by decide⟩

theorem length_le_separated {items : List (List Token)} (h : ∀ item ∈ items, item ≠ []) :
    items.length ≤ (separated items).length := by
  induction items with
  | nil => exact Nat.zero_le _
  | cons item items ih =>
      have hitem := List.length_pos_iff.mpr (h item List.mem_cons_self)
      have hrest := ih fun item' hitem' => h item' (List.mem_cons_of_mem _ hitem')
      rw [separated_cons, List.length_append, List.length_append, List.length_cons]
      omega

theorem length_le_of_strip {items : List (List Token)} (h : ∀ item ∈ items, item ≠ [])
    {tail : List Token} (hstrip : strip pieces = separated items ++ tail) :
    items.length ≤ (render '"' pieces).length := by
  have hitems := length_le_separated h
  have hpieces : (strip pieces).length ≤ pieces.length := List.length_filter_le _ _
  have hrender : pieces.length ≤ (render '"' pieces).length := length_le_render
  rw [hstrip, List.length_append] at hpieces
  omega

theorem Entry.parseModifiersArray_render {xkbKeysymFromName : String → UInt32}
    (e : Entry xkbKeysymFromName) {tail : List Token}
    (hstrip : strip pieces = e.valueTokens .modifiers ++ tail) (rest : List Char) :
    parseModifiersArray (render '"' pieces ++ rest) = e.mask := by
  rw [Entry.valueTokens, List.cons_append, List.append_assoc, List.singleton_append] at hstrip
  have hspace : ∀ c, isSpace c = true → decide (c ≠ '[') = true := by
    intro c hc
    simpa using isSpace_bracket hc
  obtain ⟨pieces', hdrop, hrest, -⟩ :=
    dropWhile_render hspace [] (by simp) rfl hstrip rest
  have hlength := length_le_of_strip (by simp) hrest
  rw [List.length_map] at hlength
  rw [parseModifiersArray, hdrop, render_mark, List.cons_append]
  refine modifiersLoop_render e.modifiers [] (by simp) hrest rest ?_ 0
  rw [List.length_append]
  omega

end Arrays

section Fields

variable {xkbKeysymFromName : String → UInt32} {e : PrintedEntry xkbKeysymFromName}
  {pieces : List Token}

theorem Field.name_letters (f : Field) :
    ∃ c k, f.name.toList = c :: k ∧ ¬ JsonPiece (.mark c) ∧ '"' ∉ c :: k := by
  cases f <;> exact ⟨_, _, rfl, by decide, by decide⟩

theorem PrintedEntry.valueAt_pieces (hstrip : strip pieces = e.tokens) {f : Field}
    (hf : f ∈ e.order) :
    ∃ value tail, valueAt f.name.toList pieces = some value ∧
      strip value = e.valueTokens f ++ tail := by
  obtain ⟨tail, htail⟩ := e.valueAt_of_mem hf []
  have hvalue : (valueAt f.name.toList pieces).map strip = some (e.valueTokens f ++ tail) := by
    rw [valueAt_strip, hstrip, PrintedEntry.tokens, valueAt_mark, htail]
  obtain ⟨value, hsome, hrest⟩ := Option.map_eq_some_iff.mp hvalue
  exact ⟨value, tail, hsome, hrest⟩

theorem PrintedEntry.valueAt_pieces_none (hstrip : strip pieces = e.tokens) {f : Field}
    (hf : f ∉ e.order) : valueAt f.name.toList pieces = none := by
  rw [← Option.map_eq_none_iff (f := strip), valueAt_strip, hstrip, PrintedEntry.tokens,
    valueAt_mark, e.valueAt_of_notMem hf]
  rfl

theorem firstWord_of_strip {s : List Char} {tail : List Token}
    (hstrip : strip pieces = .word s :: tail) : firstWord pieces = some s := by
  obtain ⟨rest, hrest, -⟩ := dropWhile_eq_cons_of_strip hstrip
  rw [firstWord, hrest]

theorem PrintedEntry.extractStringField_render (hjson : ∀ piece ∈ pieces, JsonPiece piece)
    (hstrip : strip pieces = e.tokens) {f : Field} (hf : f ∈ e.order) {s : List Char}
    (hs : e.valueTokens f = [.word s]) :
    extractStringField (render '"' pieces) f.name = some s := by
  obtain ⟨value, tail, hvalue, hrest⟩ := e.valueAt_pieces hstrip hf
  rw [hs, List.singleton_append] at hrest
  have hlength : pieces.length ≤ (render '"' pieces).length := length_le_render
  obtain ⟨c, k, hname, hc, hkey⟩ := f.name_letters
  rw [hname] at hvalue
  rw [extractStringField, hname, stringFieldLoop_render hc hkey hjson ?_ (by omega), hvalue]
  · exact firstWord_of_strip hrest
  · rw [hvalue]
    rintro _ ⟨⟩
    exact ⟨s, tail, hrest⟩

theorem PrintedEntry.extractStringField_render_none
    (hjson : ∀ piece ∈ pieces, JsonPiece piece) (hstrip : strip pieces = e.tokens) {f : Field}
    (hf : f ∉ e.order) : extractStringField (render '"' pieces) f.name = none := by
  have hvalue := e.valueAt_pieces_none hstrip hf
  have hlength : pieces.length ≤ (render '"' pieces).length := length_le_render
  obtain ⟨c, k, hname, hc, hkey⟩ := f.name_letters
  rw [hname] at hvalue
  rw [extractStringField, hname, stringFieldLoop_render hc hkey hjson (by simp [hvalue]) (by omega),
    hvalue]
  rfl

theorem PrintedEntry.extractModifiersField_render (hjson : ∀ piece ∈ pieces, JsonPiece piece)
    (hstrip : strip pieces = e.tokens) (hf : .modifiers ∈ e.order) (rest : List Char) :
    extractModifiersField (render '"' pieces) rest = e.mask := by
  obtain ⟨value, tail, hvalue, hrest⟩ := e.valueAt_pieces hstrip hf
  have hlength : pieces.length ≤ (render '"' pieces).length := length_le_render
  obtain ⟨c, k, hname, hc, hkey⟩ := Field.modifiers.name_letters
  rw [hname] at hvalue
  change modifiersFieldLoop (quote '"' Field.modifiers.name.toList) rest _ _ = e.mask
  rw [hname, modifiersFieldLoop_render hc hkey hjson (by omega), hvalue]
  exact e.parseModifiersArray_render hrest rest

theorem PrintedEntry.parseBinding_render (hjson : ∀ piece ∈ pieces, JsonPiece piece)
    (hstrip : strip pieces = e.tokens) (rest : List Char) :
    parseBinding xkbKeysymFromName (render '"' pieces) rest = some e.binding := by
  have hmem : ∀ f, f ∈ e.order ↔ f ∈ e.fields := fun f => e.perm.mem_iff
  have hmodifiers := e.extractModifiersField_render hjson hstrip
    ((hmem _).mpr (by simp [Entry.fields])) rest
  have hkey : extractStringField (render '"' pieces) "key" = some e.key.toList :=
    e.extractStringField_render hjson hstrip ((hmem .key).mpr (by simp [Entry.fields])) rfl
  have haction : extractStringField (render '"' pieces) "action" =
      some (actionName e.action).toList :=
    e.extractStringField_render hjson hstrip ((hmem .action).mpr (by simp [Entry.fields])) rfl
  have hcommand : extractStringField (render '"' pieces) "command" =
      e.command.map String.toList := by
    rcases hcmd : e.command with _ | cmd
    · exact e.extractStringField_render_none hjson hstrip (f := .command)
        (by simp [hmem, Entry.fields, hcmd])
    · exact e.extractStringField_render hjson hstrip
        ((hmem .command).mpr (by simp [Entry.fields, hcmd])) (by simp [Entry.valueTokens, hcmd])
  rw [parseBinding, hmodifiers, hkey, haction, hcommand]
  simp [e.resolves, parseActionString_actionName, Entry.binding, Function.comp_def]

end Fields

end ZenOS.Compositor
