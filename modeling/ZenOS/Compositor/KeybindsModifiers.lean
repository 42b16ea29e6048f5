import ZenOS.Compositor.KeybindsItems
import Mathlib.Algebra.Group.Even
import Mathlib.Algebra.Group.Nat.Even

/-!
The loop of `parse_modifiers_array` as an automaton that takes one character after another.
-/

namespace ZenOS.Compositor.KeybindsBuffer

open ZenOS.Library.QuotedText

/-- Where the loop is: at its head, behind whitespace or commas, or in a string. -/
inductive Mode where
  | head
  | skipped
  | token (tok : List Char)
  deriving DecidableEq

inductive ScanState where
  | running (mode : Mode) (mods : UInt32)
  | stopped (mods : UInt32)
  deriving DecidableEq

def ScanState.step : ScanState → Char → ScanState
  | .stopped mods, _ => .stopped mods
  | .running (.token tok) mods, c =>
      if c = nul then .stopped (mods ||| parseModifierToken tok)
      else if c = '"' then .running .head (mods ||| parseModifierToken tok)
      else .running (.token (tok ++ [c])) mods
  | .running mode mods, c =>
      if c = ']' ∨ c = nul ∧ mode = .head then .stopped mods
      else if isSpace c || c = ',' then .running .skipped mods
      else if c = '"' then .running (.token []) mods
      else .running .head mods

/-- What the loop returns when it comes to the terminator. -/
def ScanState.finish : ScanState → Option UInt32
  | .stopped mods | .running .head mods => some mods
  | .running .skipped _ => none
  | .running (.token tok) mods => some (mods ||| parseModifierToken tok)

def ScanState.run (s : ScanState) (text : List Char) : ScanState :=
  text.foldl ScanState.step s

section Run

variable (s : ScanState) (mods : UInt32)

@[simp] theorem ScanState.run_nil : s.run [] = s :=
  rfl

@[simp] theorem ScanState.run_cons (c : Char) (text : List Char) :
    s.run (c :: text) = (s.step c).run text :=
  rfl

theorem ScanState.run_append (text text' : List Char) :
    s.run (text ++ text') = (s.run text).run text' :=
  List.foldl_append

@[simp] theorem ScanState.run_stopped (text : List Char) :
    (ScanState.stopped mods).run text = .stopped mods := by
  induction text with
  | nil => rfl
  | cons c text ih => exact ih

/-- A step outside of strings. -/
theorem step_outside {mode : Mode} (hmode : mode = .head ∨ mode = .skipped) (c : Char) :
    (ScanState.running mode mods).step c =
      if c = ']' ∨ c = nul ∧ mode = .head then .stopped mods
      else if isSpace c || c = ',' then .running .skipped mods
      else if c = '"' then .running (.token []) mods
      else .running .head mods := by
  rcases hmode with rfl | rfl <;> rfl

theorem step_separator {mode : Mode} {c : Char} (hmode : mode = .head ∨ mode = .skipped)
    (hc : (isSpace c || decide (c = ',')) = true) :
    (ScanState.running mode mods).step c = .running .skipped mods := by
  have hstop : ¬ (c = ']' ∨ c = nul ∧ mode = .head) := by
    rintro (rfl | ⟨rfl, -⟩) <;> revert hc <;> decide
  rw [step_outside mods hmode, if_neg hstop, if_pos hc]

theorem run_skipped (text : List Char) :
    (ScanState.running .skipped mods).run text =
      (ScanState.running .skipped mods).run (skipSpaceAndCommas text) := by
  induction text with
  | nil => rfl
  | cons c text ih =>
      rw [skipSpaceAndCommas_cons]
      split
      next hc => rw [ScanState.run_cons, step_separator mods (.inr rfl) hc, ih]
      · rfl

theorem run_head (text : List Char) :
    ∃ mode, (mode = .head ∧ skipSpaceAndCommas text = text ∨
        mode = .skipped ∧ skipSpaceAndCommas text ≠ text) ∧
      (ScanState.running .head mods).run text =
        (ScanState.running mode mods).run (skipSpaceAndCommas text) := by
  cases text with
  | nil => exact ⟨.head, .inl ⟨rfl, rfl⟩, rfl⟩
  | cons c text =>
      have hlength := (List.dropWhile_suffix (l := text)
        fun c => isSpace c || decide (c = ',')).length_le
      rw [skipSpaceAndCommas_cons]
      split
      next hc =>
        refine ⟨.skipped, .inr ⟨rfl, fun h => ?_⟩, ?_⟩
        · have hcons := congrArg List.length h
          rw [List.length_cons, skipSpaceAndCommas] at hcons
          omega
        · rw [ScanState.run_cons, step_separator mods (.inl rfl) hc, run_skipped]
      · exact ⟨.head, .inl ⟨rfl, rfl⟩, rfl⟩

theorem run_token (tok text : List Char) :
    (ScanState.running (.token tok) mods).run text =
      (ScanState.running (.token (tok ++ text.takeWhile fun c => c ≠ nul ∧ c ≠ '"')) mods).run
        (text.dropWhile fun c => c ≠ nul ∧ c ≠ '"') := by
  induction text generalizing tok with
  | nil => simp
  | cons c text ih =>
      by_cases hc : c ≠ nul ∧ c ≠ '"'
      · rw [List.takeWhile_cons_of_pos (by simpa using hc),
          List.dropWhile_cons_of_pos (by simpa using hc), ScanState.run_cons, ScanState.step,
          if_neg hc.1, if_neg hc.2, ih, List.append_assoc, List.singleton_append]
      · rw [List.takeWhile_cons_of_neg (by simpa using hc),
          List.dropWhile_cons_of_neg (by simpa using hc), List.append_nil]

end Run

theorem modifiersLoop_past_end (fuel : Nat) (mods : UInt32) : modifiersLoop fuel [] mods = none := by
  cases fuel <;> rfl

theorem modifiersLoop_at_nul {fuel : Nat} (hfuel : 0 < fuel) (p : Pointer) (mods : UInt32) :
    modifiersLoop fuel (nul :: p) mods = some mods := by
  obtain ⟨fuel, rfl⟩ : ∃ n, fuel = n + 1 := ⟨fuel - 1, by omega⟩
  rfl

theorem skipSpaceAndCommas_head {text p : List Char} {c : Char}
    (h : skipSpaceAndCommas text = c :: p) : (isSpace c || decide (c = ',')) = false := by
  have hhead := List.head?_dropWhile_not (fun c => isSpace c || decide (c = ',')) text
  rw [show text.dropWhile _ = c :: p from h] at hhead
  simpa using hhead

theorem modifiersLoop_succ {fuel : Nat} {a : Char} {text : List Char} {mods : UInt32}
    (ha : ¬ (a = nul ∨ a = ']')) :
    modifiersLoop (fuel + 1) (a :: text ++ [nul]) mods =
      match skipSpaceAndCommas (a :: text) with
      | [] => none
      | c :: p =>
          if c = ']' then some mods
          else if c ≠ '"' then modifiersLoop fuel (p ++ [nul]) mods
          else
            let tok := p.takeWhile fun c => c ≠ nul ∧ c ≠ '"'
            let mods := mods ||| parseModifierToken tok
            match p.dropWhile fun c => c ≠ nul ∧ c ≠ '"' with
            | [] => modifiersLoop fuel [nul] mods
            | d :: q => modifiersLoop fuel (if d = '"' then q ++ [nul] else d :: q ++ [nul]) mods := by
  have hstring : ∀ p, (p ++ [nul]).take
      ((p ++ [nul]).length - ((p.dropWhile fun c => c ≠ nul ∧ c ≠ '"') ++ [nul]).length) =
        p.takeWhile fun c => c ≠ nul ∧ c ≠ '"' := by
    intro p
    have hsplit : p ++ [nul] = (p.takeWhile fun c => c ≠ nul ∧ c ≠ '"') ++
        ((p.dropWhile fun c => c ≠ nul ∧ c ≠ '"') ++ [nul]) := by
      rw [← List.append_assoc, List.takeWhile_append_dropWhile]
    rw [hsplit]
    exact take_between ..
  rw [modifiersLoop, List.cons_append, List.head?_cons, Option.bind_eq_bind, Option.bind_some,
    if_neg ha, ← List.cons_append, skipSeparators_terminated]
  rcases skipSpaceAndCommas (a :: text) with _ | ⟨c, p⟩
  · simp [nul, modifiersLoop_past_end]
  · simp only [List.cons_append, List.head?_cons, Option.bind_eq_bind, Option.bind_some,
      List.tail_cons, skipTo_terminated, hstring]
    rcases hdrop : p.dropWhile fun c => c ≠ nul ∧ c ≠ '"' with _ | ⟨d, q⟩
    · rfl
    · simp only [List.cons_append, List.head?_cons, Option.bind_some, List.tail_cons]

theorem modifiersLoop_terminated {text : List Char} {fuel : Nat} (hfuel : text.length < fuel)
    (mods : UInt32) :
    modifiersLoop fuel (text ++ [nul]) mods =
      ((ScanState.running .head mods).run text).finish := by
  induction fuel generalizing text mods with
  | zero => omega
  | succ fuel ih =>
      rcases text with _ | ⟨a, text⟩
      · rfl
      by_cases ha : a = nul ∨ a = ']'
      · have hstep : (ScanState.running .head mods).step a = .stopped mods := if_pos (by tauto)
        rw [ScanState.run_cons, hstep, ScanState.run_stopped, modifiersLoop]
        exact if_pos ha
      obtain ⟨mode, hmode, hrun⟩ := run_head mods (a :: text)
      have hlength := (List.dropWhile_suffix (l := a :: text)
        fun c => isSpace c || decide (c = ',')).length_le
      rw [modifiersLoop_succ ha, hrun]
      rcases hskip : skipSpaceAndCommas (a :: text) with _ | ⟨c, p⟩
      · obtain ⟨-, hskip'⟩ | ⟨rfl, -⟩ := hmode
        · simp [hskip] at hskip'
        · rfl
      rw [← skipSpaceAndCommas, hskip, List.length_cons] at hlength
      have hc := skipSpaceAndCommas_head hskip
      -- a NUL does not end the loop behind whitespace or commas
      have hnul : ¬ (c = nul ∧ mode = .head) := by
        rintro ⟨rfl, rfl⟩
        obtain ⟨-, hskip'⟩ | ⟨hmode, -⟩ := hmode
        · rw [hskip', List.cons.injEq] at hskip
          exact ha (.inl hskip.1)
        · cases hmode
      have hstep : (ScanState.running mode mods).step c =
          if c = ']' then .stopped mods
          else if c = '"' then .running (.token []) mods
          else .running .head mods := by
        rw [step_outside mods (hmode.imp And.left And.left)]
        simp only [hc, hnul, or_false, Bool.false_eq_true, if_false]
      rw [ScanState.run_cons, hstep]
      simp only
      by_cases hend : c = ']'
      · rw [if_pos hend, if_pos hend, ScanState.run_stopped]
        rfl
      rw [if_neg hend, if_neg hend]
      by_cases hquote : c = '"'
      · rw [if_neg (by simpa using hquote), if_pos hquote, run_token, List.nil_append]
        have hrest := (List.dropWhile_suffix (l := p) fun c => c ≠ nul ∧ c ≠ '"').length_le
        rcases hdrop : p.dropWhile fun c => c ≠ nul ∧ c ≠ '"' with _ | ⟨d, q⟩
        · exact modifiersLoop_at_nul (by omega) [] _
        · have hd := List.head?_dropWhile_not (fun c => c ≠ nul ∧ c ≠ '"') p
          rw [hdrop] at hd hrest
          have hd' : d = nul ∨ d = '"' := by
            simp only [List.head?_cons] at hd
            by_contra hne
            simp_all
          rw [List.length_cons] at hrest
          rcases hd' with rfl | rfl
          · rw [ScanState.run_cons, ScanState.step, if_pos rfl, ScanState.run_stopped]
            exact modifiersLoop_at_nul (by omega) _ _
          · rw [ScanState.run_cons, ScanState.step, if_neg (by decide), if_pos rfl]
            exact ih (by omega) _
      · rw [if_pos hquote, if_neg hquote]
        exact ih (by omega) mods

/-- The array is scanned from its bracket on, if there is one in front of the first NUL. -/
def scanFrom (text : List Char) : ScanState :=
  match text.dropWhile fun c => c ≠ nul ∧ c ≠ '[' with
  | '[' :: text => (ScanState.running .head 0).run text
  | _ => .stopped 0

theorem parseModifiersArray_terminated (text : List Char) :
    parseModifiersArray (text ++ [nul]) = (scanFrom text).finish := by
  rw [parseModifiersArray, skipTo_terminated, Option.bind_eq_bind, Option.bind_some, scanFrom]
  rcases text.dropWhile fun c => c ≠ nul ∧ c ≠ '[' with _ | ⟨c, p⟩
  · rfl
  · simp only [List.cons_append, List.head?_cons, Option.bind_eq_bind, Option.bind_some]
    by_cases hc : c = '['
    · subst hc
      rw [if_neg (by decide)]
      have hfuel : p.length < ('[' :: (p ++ [nul])).length + 1 := by
        rw [List.length_cons, List.length_append]
        omega
      exact modifiersLoop_terminated hfuel 0
    · rw [if_pos hc]
      split
      · simp_all
      · rfl

theorem modifiersFieldLoop_suffix {pattern obj pos : List Char} {fuel : Nat}
    (h : modifiersFieldLoop pattern fuel obj = some pos) : pos <:+ obj := by
  induction fuel generalizing obj with
  | zero => cases h
  | succ fuel ih =>
      rw [modifiersFieldLoop] at h
      split at h
      · cases h
      next rest hafter =>
      have hskip : skipSpace rest <:+ obj :=
        (List.dropWhile_suffix _).trans (after_suffix hafter)
      split at h
      · cases h
      next c rest' hrest =>
      rw [hrest] at hskip
      split at h
      · exact (ih h).trans hskip
      · cases h
        exact (List.suffix_cons ..).trans hskip

theorem extractModifiersField_terminated (obj behind : List Char) :
    extractModifiersField obj (behind ++ [nul]) =
      match modifiersField obj with
      | none => some 0
      | some pos => (scanFrom (pos ++ behind)).finish := by
  rw [extractModifiersField]
  rcases modifiersField obj with _ | pos
  · rfl
  · simp only
    rw [← List.append_assoc, parseModifiersArray_terminated]

end ZenOS.Compositor.KeybindsBuffer
