import ZenOS.Compositor.KeybindsModifiers

/-!
When `zen_keybinds_load_config` stays inside its buffer.
-/

namespace ZenOS.Compositor.KeybindsBuffer

open ZenOS.Library.Ingest

/-- The text ends outside of strings. -/
def Outside (text : List Char) : Prop :=
  Even (text.count '"')

def EndsInSeparator (text : List Char) : Prop :=
  ∃ c ∈ text.getLast?, isSeparator c

/-- Nothing in the text ends the array: brackets stand in strings, NULs only directly behind
whitespace or a comma. -/
structure Unended (text : List Char) : Prop where
  bracket : ∀ before behind, text = before ++ ']' :: behind → ¬ Outside before
  terminator : ∀ before behind, text = before ++ nul :: behind →
    Outside before ∧ EndsInSeparator before

/-- The array is not ended, and its text breaks off in whitespace or commas. -/
structure RunsOut (text : List Char) : Prop where
  unended : Unended text
  outside : Outside text
  separator : EndsInSeparator text

section Append

variable (text : List Char) (c : Char)

@[simp] theorem outside_append : Outside (text ++ [c]) ↔ (Outside text ↔ c ≠ '"') := by
  rw [Outside, List.count_append, List.count_singleton, Outside]
  by_cases hc : c = '"'
  · simp [hc, Nat.even_add_one]
  · simp [hc]

@[simp] theorem endsInSeparator_append : EndsInSeparator (text ++ [c]) ↔ isSeparator c = true := by
  simp [EndsInSeparator]

omit text in
theorem append_singleton_split {text before behind : List Char} {c a : Char}
    (h : text ++ [c] = before ++ a :: behind) :
    text = before ∧ c = a ∨ ∃ rest, text = before ++ a :: rest := by
  rcases List.eq_nil_or_concat behind with rfl | ⟨rest, d, rfl⟩
  · exact .inl (by simpa using h)
  · rw [List.concat_eq_append, ← List.cons_append, ← List.append_assoc] at h
    exact .inr ⟨rest, (List.append_inj' h rfl).1⟩

theorem unended_append : Unended (text ++ [c]) ↔ Unended text ∧ (c = ']' → ¬ Outside text) ∧
      (c = nul → Outside text ∧ EndsInSeparator text) := by
  constructor
  · rintro ⟨hbracket, hnul⟩
    refine ⟨⟨?_, ?_⟩, ?_, ?_⟩
    · rintro before behind rfl
      exact hbracket before (behind ++ [c]) (by simp)
    · rintro before behind rfl
      exact hnul before (behind ++ [c]) (by simp)
    · rintro rfl
      exact hbracket text [] rfl
    · rintro rfl
      exact hnul text [] rfl
  · rintro ⟨h, hbracket, hnul⟩
    constructor <;> intro before behind hsplit
    · rcases append_singleton_split hsplit with ⟨rfl, rfl⟩ | ⟨rest, hrest⟩
      · exact hbracket rfl
      · exact h.bracket before rest hrest
    · rcases append_singleton_split hsplit with ⟨rfl, rfl⟩ | ⟨rest, hrest⟩
      · exact hnul rfl
      · exact h.terminator before rest hrest

theorem unended_nil : Unended [] where
  bracket := by simp
  terminator := by simp

end Append

/-- What a state of the scan says of the text that has led to it. -/
def ScanState.Describes : ScanState → List Char → Prop
  | .stopped _, text => ¬ Unended text
  | .running (.token _) _, text => Unended text ∧ ¬ Outside text
  | .running mode _, text => Unended text ∧ Outside text ∧ (mode = .skipped ↔ EndsInSeparator text)

theorem describes_outside {mode : Mode} (hmode : mode = .head ∨ mode = .skipped) (mods : UInt32)
    (text : List Char) :
    (ScanState.running mode mods).Describes text ↔
      Unended text ∧ Outside text ∧ (mode = .skipped ↔ EndsInSeparator text) := by
  rcases hmode with rfl | rfl <;> rfl

theorem describes_step_outside {mode : Mode} (hmode : mode = .head ∨ mode = .skipped)
    {mods : UInt32} {text : List Char} (h : (ScanState.running mode mods).Describes text)
    (c : Char) : ((ScanState.running mode mods).step c).Describes (text ++ [c]) := by
  obtain ⟨hun, hout, hsep⟩ := (describes_outside hmode mods text).mp h
  have hun' := unended_append text c
  rw [step_outside mods hmode]
  split
  next hstop =>
    intro hunended
    obtain ⟨-, hbracket, hnul⟩ := hun'.mp hunended
    rcases hstop with rfl | ⟨rfl, rfl⟩
    · exact hbracket rfl hout
    · exact absurd (hsep.mpr (hnul rfl).2) (by decide)
  next hstop =>
  have hopen : Unended (text ++ [c]) := by
    refine hun'.mpr ⟨hun, fun hc => absurd (.inl hc) hstop, fun hc => ⟨hout, hsep.mp ?_⟩⟩
    rcases hmode with rfl | rfl
    · exact absurd (.inr ⟨hc, rfl⟩) hstop
    · rfl
  have houtside := outside_append text c
  split
  next hc =>
    have hquote : c ≠ '"' := by
      rintro rfl
      revert hc
      decide
    exact ⟨hopen, houtside.mpr (by simp [hout, hquote]), by simp [isSeparator, hc]⟩
  next hc =>
  split
  next hquote => exact ⟨hopen, fun h => (houtside.mp h).mp hout hquote⟩
  next hquote =>
    exact ⟨hopen, houtside.mpr (by simp [hout, hquote]), by simpa [isSeparator] using hc⟩

theorem ScanState.Describes.step {s : ScanState} {text : List Char} (h : s.Describes text)
    (c : Char) : (s.step c).Describes (text ++ [c]) := by
  rcases s with ⟨_ | _ | tok, mods⟩ | mods
  · exact describes_step_outside (.inl rfl) h c
  · exact describes_step_outside (.inr rfl) h c
  · obtain ⟨hun, hout⟩ := h
    have hun' := unended_append text c
    have houtside := outside_append text c
    rw [ScanState.step]
    split
    next hc => exact fun hunended => hout ((hun'.mp hunended).2.2 hc).1
    next hc =>
    have hopen : Unended (text ++ [c]) :=
      hun'.mpr ⟨hun, fun _ => hout, fun hnul => absurd hnul hc⟩
    split
    next hquote =>
      subst hquote
      exact ⟨hopen, houtside.mpr (by simp [hout]), by simp; decide⟩
    next hquote => exact ⟨hopen, fun h => hout ((houtside.mp h).mpr hquote)⟩
  · exact fun hunended => h ((unended_append text c).mp hunended).1

theorem run_describes (mods : UInt32) (text : List Char) :
    ((ScanState.running .head mods).run text).Describes text := by
  induction text using List.reverseRecOn with
  | nil => exact ⟨unended_nil, by simp [Outside], by simp [EndsInSeparator]⟩
  | append_singleton text c ih =>
      rw [ScanState.run_append]
      exact ih.step c

theorem finish_eq_none_iff (mods : UInt32) (text : List Char) :
    ((ScanState.running .head mods).run text).finish = none ↔ RunsOut text := by
  have hdescribes := run_describes mods text
  generalize (ScanState.running .head mods).run text = s at hdescribes ⊢
  rcases s with ⟨_ | _ | tok, mods⟩ | mods
  · obtain ⟨-, -, hsep⟩ := hdescribes
    exact iff_of_false nofun fun h => absurd (hsep.mpr h.separator) (by decide)
  · obtain ⟨hun, hout, hsep⟩ := hdescribes
    exact iff_of_true rfl ⟨hun, hout, hsep.mp rfl⟩
  · exact iff_of_false nofun fun h => hdescribes.2 h.outside
  · exact iff_of_false nofun fun h => hdescribes h.unended

/-- The array that is opened next runs out. -/
def Overruns (text : List Char) : Prop :=
  ∃ before array, text = before ++ '[' :: array ∧ '[' ∉ before ∧ nul ∉ before ∧ RunsOut array

theorem dropWhile_bracket {before array : List Char} (hbefore : '[' ∉ before)
    (hnul : nul ∉ before) :
    (before ++ '[' :: array).dropWhile (fun c => c ≠ nul ∧ c ≠ '[') = '[' :: array := by
  rw [List.dropWhile_append_of_pos, List.dropWhile_cons_of_neg (by simp)]
  intro c hc
  rw [decide_eq_true_eq]
  constructor <;> rintro rfl
  · exact hnul hc
  · exact hbefore hc

theorem scanFrom_finish_eq_none_iff (text : List Char) :
    (scanFrom text).finish = none ↔ Overruns text := by
  constructor
  · intro h
    rw [scanFrom] at h
    have hsplit := List.takeWhile_append_dropWhile (p := fun c => c ≠ nul ∧ c ≠ '[') (l := text)
    split at h
    next array hdrop =>
      refine ⟨_, array, by rw [← hsplit, hdrop], ?_, ?_, (finish_eq_none_iff 0 array).mp h⟩ <;>
        exact fun hmem => by simpa using List.mem_takeWhile_imp hmem
    · cases h
  · rintro ⟨before, array, rfl, hbefore, hnul, hruns⟩
    rw [scanFrom, dropWhile_bracket hbefore hnul]
    exact (finish_eq_none_iff 0 array).mpr hruns

/-- No object that the loader comes to lets the scan of its modifiers run out of the file. -/
def StaysInFile (env : Env) (content : List Char) : Prop :=
  ∀ before obj behind i later,
    (items content).1.zipIdx = before ++ (.object obj behind, i) :: later →
    (∀ x ∈ before, Registers env x) → ∀ pos ∈ modifiersField obj, ¬ Overruns (pos ++ behind)

section Bounds

variable {env : Env}

theorem extractModifiersField_eq_none_iff (obj behind : List Char) :
    extractModifiersField obj (behind ++ [nul]) = none ↔
      ∃ pos ∈ modifiersField obj, Overruns (pos ++ behind) := by
  rw [extractModifiersField_terminated]
  rcases modifiersField obj with _ | pos
  · simp
  · simp [scanFrom_finish_eq_none_iff]

theorem ingest_eq_none_of_registers {xs later : List (Item × Nat)} {x : Item × Nat}
    {taken : List ZenKeybinding} (hxs : ∀ x ∈ xs, Registers env x)
    (hx : readItem env x = .fault) : ingest (readItem env) (xs ++ x :: later) taken = none := by
  rcases takes_or_first (readItem env) xs with
    ⟨bs, hbs⟩ | ⟨before, y, behind, bs, rfl, hbs, hy | hy⟩
  · exact ingest_of_fault hbs hx
  · exact absurd (hxs y (by simp)) (not_registers_of_refused hy)
  · rw [List.append_assoc, List.cons_append]
    exact ingest_of_fault hbs hy

/-- The loader reads nothing past the end of its buffer, exactly when no array of modifiers
runs out of the file. -/
theorem zenKeybindsLoadConfig_in_bounds_iff (env : Env) (keybindings : List ZenKeybinding)
    (content : List Char) :
    zenKeybindsLoadConfig env keybindings (some content) ≠ none ↔
      (Scanned env content → StaysInFile env content) := by
  constructor
  · intro h hscanned before obj behind i later hitems hbefore pos hpos hoverruns
    rw [zenKeybindsLoadConfig_of_scanned hscanned, hitems] at h
    have hfield := (extractModifiersField_eq_none_iff obj behind).mpr ⟨pos, hpos, hoverruns⟩
    have hx : readItem env (.object obj behind, i) = .fault := by
      rw [readItem, hfield]
    rw [ingest_eq_none_of_registers hbefore hx] at h
    exact h rfl
  · intro h hnone
    by_cases hscanned : Scanned env content
    · rw [zenKeybindsLoadConfig_of_scanned hscanned, loadResult, Option.map_eq_none_iff,
        ingest_eq_none_iff] at hnone
      obtain ⟨before, x, later, bs, hitems, hbs, hx⟩ := hnone
      rcases readItem_cases env x with ⟨-, binding, hread⟩ | ⟨-, hread⟩ |
        ⟨obj, behind, hobj, hfield, -⟩
      · simp [hread] at hx
      · simp [hread] at hx
      · obtain ⟨pos, hpos, hoverruns⟩ := (extractModifiersField_eq_none_iff obj behind).mp hfield
        obtain ⟨item, i⟩ := x
        subst hobj
        exact h hscanned before obj behind i later hitems (registers_of_takes hbs) pos hpos
          hoverruns
    · rw [zenKeybindsLoadConfig_of_not_scanned hscanned] at hnone
      cases hnone

/-- A file that has been cut off behind a blank. -/
theorem cut_off_array_past_end :
    zenKeybindsLoadConfig (.enough fun _ => xkbKeyNoSymbol) []
      (some "\x7b\"bindings\":[\x7b\"modifiers\":[ ".toList) = none := by
  decide +kernel

end Bounds

end ZenOS.Compositor.KeybindsBuffer
