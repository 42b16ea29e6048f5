import ZenOS.Compositor.KeybindsAgreement
import ZenOS.Compositor.KeybindsObjects

/-!
Which files `zen_keybinds_load_config` accepts, and what a refused file leaves behind.
-/

namespace ZenOS.Compositor.KeybindsBuffer

open ZenOS.Library.Ingest ZenOS.Library.QuotedText

/-- The item is registered. -/
def Accepts (env : Env) (x : Item × Nat) : Prop :=
  ∃ binding, readItem env x = .accepted binding

/-- The item makes the loader give up. -/
def Refuses (env : Env) (x : Item × Nat) : Prop :=
  readItem env x = .refused

theorem exists_takes_iff {env : Env} {xs : List (Item × Nat)} :
    (∃ bindings, Takes (readItem env) xs bindings) ↔ ∀ x ∈ xs, Accepts env x := by
  induction xs with
  | nil => exact iff_of_true ⟨[], .nil⟩ (by simp)
  | cons x xs ih =>
      rw [List.forall_mem_cons, ← ih]
      constructor
      · rintro ⟨_, _ | ⟨hx, hxs⟩⟩
        exact ⟨⟨_, hx⟩, _, hxs⟩
      · rintro ⟨⟨binding, hx⟩, bindings, hxs⟩
        exact ⟨binding :: bindings, .cons hx hxs⟩

section Results

variable {env : Env} {content : List Char} {keybindings keybindings' : List ZenKeybinding}

theorem loadBuffer_eq_zero_iff :
    loadBuffer env keybindings (content ++ [nul]) = some (0, keybindings') ↔
      (arrayText content).isSome = true ∧
        ∃ bindings, Takes (readItem env) (items content).1.zipIdx bindings ∧
          keybindings' = keybindings ++ bindings := by
  rw [loadBuffer_terminated, ← ingest_eq_done_iff, loadResult]
  split
  next harray =>
    rcases ingest (readItem env) (items content).1.zipIdx keybindings with _ | ⟨_ | _, bs⟩ <;>
      simp [harray]
  next harray => simp [harray]

theorem load_eq_zero_iff :
    zenKeybindsLoadConfig env keybindings (some content) = some (0, keybindings') ↔
      Scanned env content ∧ ∃ bindings, Takes (readItem env) (items content).1.zipIdx bindings ∧
        keybindings' = keybindings ++ bindings := by
  by_cases hread : Readable env content
  · rw [zenKeybindsLoadConfig_of_readable hread, loadBuffer_eq_zero_iff]
    exact and_congr_left fun _ => ⟨fun harray => ⟨hread, harray⟩, Scanned.array⟩
  · rw [zenKeybindsLoadConfig_of_not_readable hread]
    simp only [Option.some.injEq, Prod.mk.injEq]
    exact iff_of_false (by simp) fun h => hread h.1.toReadable

theorem load_eq_neg_one_iff :
    zenKeybindsLoadConfig env keybindings (some content) = some (-1, keybindings') ↔
      (¬ Scanned env content ∧ keybindings' = keybindings) ∨
        Scanned env content ∧ ∃ before x later bindings,
          (items content).1.zipIdx = before ++ x :: later ∧
            Takes (readItem env) before bindings ∧ Refuses env x ∧
            keybindings' = keybindings ++ bindings := by
  by_cases hscanned : Scanned env content
  · have hrefused : ingest (readItem env) (items content).1.zipIdx keybindings =
        some (false, keybindings') ↔ _ := ingest_eq_refused_iff
    simp only [hscanned, not_true_eq_false, false_and, false_or, true_and]
    rw [zenKeybindsLoadConfig_of_scanned hscanned]
    refine Iff.trans ?_ hrefused
    rw [loadResult]
    rcases ingest (readItem env) (items content).1.zipIdx keybindings with _ | ⟨_ | _, bs⟩ <;>
      simp
  · simp [zenKeybindsLoadConfig_of_not_scanned hscanned, hscanned, eq_comm]

end Results

/-- A failed load leaves the registry as it was. -/
def LoadAtomic (env : Env) (keybindings : List ZenKeybinding) (content : List Char) : Prop :=
  ∀ keybindings', zenKeybindsLoadConfig env keybindings (some content) =
    some (-1, keybindings') → keybindings' = keybindings

/-- The first item to be refused, if there is one, is the first item. -/
def RefusesFirst (env : Env) (content : List Char) : Prop :=
  Scanned env content → ∀ before x later, (items content).1.zipIdx = before ++ x :: later →
    (∀ y ∈ before, Accepts env y) → Refuses env x → before = []

theorem loadAtomic_iff_refusesFirst (env : Env) (keybindings : List ZenKeybinding)
    (content : List Char) : LoadAtomic env keybindings content ↔ RefusesFirst env content := by
  constructor
  · intro hatomic hscanned before x later hitems hbefore hx
    obtain ⟨bindings, hbindings⟩ := exists_takes_iff.mpr hbefore
    have hsame := hatomic (keybindings ++ bindings)
      (load_eq_neg_one_iff.mpr (.inr ⟨hscanned, before, x, later, bindings, hitems, hbindings,
        hx, rfl⟩))
    obtain rfl : bindings = [] := by simpa using hsame
    exact List.forall₂_nil_right_iff.mp hbindings
  · intro h keybindings' hload
    rcases load_eq_neg_one_iff.mp hload with
      ⟨-, hsame⟩ | ⟨hscanned, before, x, later, bindings, hitems, hbindings, hx, rfl⟩
    · exact hsame
    · have hbefore := h hscanned before x later hitems
        (exists_takes_iff.mp ⟨bindings, hbindings⟩) hx
      subst hbefore
      rw [List.forall₂_nil_left_iff.mp hbindings, List.append_nil]

/-- A failed load by the reader of texts leaves the registry as it was. -/
def TextLoadAtomic (xkbKeysymFromName : String → UInt32) (keybindings : List ZenKeybinding)
    (content : List Char) : Prop :=
  ∀ keybindings', Compositor.zenKeybindsLoadConfig xkbKeysymFromName keybindings (some content) =
    (-1, keybindings') → keybindings' = keybindings

theorem textLoadAtomic_iff {xkbKeysymFromName : String → UInt32}
    {keybindings : List ZenKeybinding} {content : List Char} (hnul : nul ∉ content)
    (hbytes : (String.ofList content).utf8ByteSize = content.length)
    (hbounds : zenKeybindsLoadConfig (.enough xkbKeysymFromName) keybindings (some content) ≠
      none) :
    TextLoadAtomic xkbKeysymFromName keybindings content ↔
      LoadAtomic (.enough xkbKeysymFromName) keybindings content := by
  obtain ⟨result, hresult⟩ := Option.ne_none_iff_exists'.mp hbounds
  have htext := zenKeybindsLoadConfig_agrees hresult hnul hbytes
  refine forall_congr' fun keybindings' => imp_congr_left ?_
  rw [htext, hresult, Option.some.injEq]

/-- A load is atomic exactly when no item behind the first one is the first to be refused.
This holds of the reader of texts as well, for a file of bytes without NULs on which the loader
stays inside its buffer. -/
theorem loadAtomic_iff (env : Env) (keybindings : List ZenKeybinding) (content : List Char) :
    (LoadAtomic env keybindings content ↔ RefusesFirst env content) ∧
      ∀ xkbKeysymFromName, env = .enough xkbKeysymFromName → nul ∉ content →
        (String.ofList content).utf8ByteSize = content.length →
        zenKeybindsLoadConfig env keybindings (some content) ≠ none →
        (TextLoadAtomic xkbKeysymFromName keybindings content ↔ RefusesFirst env content) := by
  have hiff := loadAtomic_iff_refusesFirst env keybindings content
  refine ⟨hiff, ?_⟩
  rintro xkbKeysymFromName rfl hnul hbytes hbounds
  exact (textLoadAtomic_iff hnul hbytes hbounds).trans hiff

/-- A keymap with two names. -/
def smallKeymap (name : String) : UInt32 :=
  if name = "Return" then 0xff0d else if name = "a" then 0x61 else xkbKeyNoSymbol

/-- The second entry has no action. -/
def halfGoodFile : List Char :=
  "\x7b\"bindings\":[\x7b\"key\":\"Return\",\"action\":\"lock_screen\"\x7d,\x7b\"key\":\"a\"\x7d]\x7d".toList

theorem halfGoodFile_stays_registered :
    zenKeybindsLoadConfig (.enough smallKeymap) [] (some halfGoodFile) =
        some (-1, [{ modifiers := 0, keysym := 0xff0d, action := .lockScreen
                     customCmd := none }]) ∧
      ¬ LoadAtomic (.enough smallKeymap) [] halfGoodFile := by
  have hload : zenKeybindsLoadConfig (.enough smallKeymap) [] (some halfGoodFile) =
      some (-1, [{ modifiers := 0, keysym := 0xff0d, action := .lockScreen
                   customCmd := none }]) := by
    decide +kernel
  exact ⟨hload, fun hatomic => absurd (hatomic _ hload) (by decide)⟩

/-- The array stands directly behind the key and its colon. -/
def OpensDirectly (content : List Char) : Prop :=
  ∃ value ∈ valueText content, ∃ space space' array,
    value = space ++ ':' :: (space' ++ '[' :: array) ∧
      (∀ c ∈ space, isSpace c = true) ∧ ∀ c ∈ space', isSpace c = true

/-- The value of the key is a complete array of objects. -/
def CompleteArray (content : List Char) : Prop :=
  ∃ value ∈ valueText content, ∃ space space' array,
    value = space ++ ':' :: (space' ++ '[' :: array) ∧
      (∀ c ∈ space, isSpace c = true) ∧ (∀ c ∈ space', isSpace c = true) ∧ ObjectSequence array

theorem valueText_no_nul {content value : List Char} (h : valueText content = some value) :
    nul ∉ value := by
  intro hmem
  simpa using List.mem_takeWhile_imp ((after_suffix h).subset hmem)

theorem items_of_opensDirectly {content value space space' array : List Char}
    (hvalue : valueText content = some value)
    (hsplit : value = space ++ ':' :: (space' ++ '[' :: array))
    (hspace : ∀ c ∈ space, isSpace c = true) (hspace' : ∀ c ∈ space', isSpace c = true) :
    items content = scanArray ((array ++ content.dropWhile (· ≠ nul)).length + 1)
      (array ++ content.dropWhile (· ≠ nul)) := by
  have hbracket : ∀ c, isSpace c = true → decide (c ≠ '[') = true := by
    intro c hc
    rw [decide_eq_true_eq]
    rintro rfl
    cases hc
  have hdrop : value.dropWhile (· ≠ '[') = '[' :: array := by
    rw [hsplit, List.dropWhile_append_of_pos fun c hc => hbracket c (hspace c hc),
      List.dropWhile_cons_of_pos (by decide),
      List.dropWhile_append_of_pos fun c hc => hbracket c (hspace' c hc),
      List.dropWhile_cons_of_neg (by decide)]
  have harray : arrayText content = some (array ++ content.dropWhile (· ≠ nul)) := by
    rw [arrayText, hvalue, Option.bind_eq_bind, Option.bind_some, hdrop]
  rw [items, harray]

theorem takeWhile_array {array : List Char} (hnul : nul ∉ array) (content : List Char) :
    (array ++ content.dropWhile (· ≠ nul)).takeWhile (· ≠ nul) = array := by
  have hplain : ∀ c ∈ array, decide (c ≠ nul) = true := by
    intro c hc
    rw [decide_eq_true_eq]
    rintro rfl
    exact hnul hc
  have hhead := head?_dropWhile_nul content
  rw [List.takeWhile_append_of_pos hplain]
  generalize content.dropWhile (· ≠ nul) = behind at hhead ⊢
  rcases behind with _ | ⟨c, rest⟩
  · exact List.append_nil _
  · rw [hhead c rfl, List.takeWhile_cons_of_neg (by simp), List.append_nil]

theorem completeArray_iff {content : List Char} :
    CompleteArray content ↔ OpensDirectly content ∧ (items content).2 = true := by
  constructor
  · rintro ⟨value, hvalue, space, space', array, hsplit, hspace, hspace', harray⟩
    refine ⟨⟨value, hvalue, space, space', array, hsplit, hspace, hspace'⟩, ?_⟩
    have hnul : nul ∉ array := fun h => valueText_no_nul hvalue (by simp [hsplit, h])
    rw [items_of_opensDirectly hvalue hsplit hspace hspace']
    exact scanArray_of_objectSequence harray hnul (by
      rw [List.length_append]
      omega)
  · rintro ⟨⟨value, hvalue, space, space', array, hsplit, hspace, hspace'⟩, hitems⟩
    refine ⟨value, hvalue, space, space', array, hsplit, hspace, hspace', ?_⟩
    have hnul : nul ∉ array := fun h => valueText_no_nul hvalue (by simp [hsplit, h])
    rw [items_of_opensDirectly hvalue hsplit hspace hspace'] at hitems
    have harray := objectSequence_of_scanArray hitems
    rwa [takeWhile_array hnul] at harray

/-- Only complete arrays are accepted, exactly when a file whose items are all registered has
its array directly behind the key and closed by a bracket. -/
theorem accepts_complete_iff (env : Env) (keybindings : List ZenKeybinding)
    (content : List Char) :
    (∀ keybindings', zenKeybindsLoadConfig env keybindings (some content) =
        some (0, keybindings') → CompleteArray content) ↔
      (Scanned env content → (∀ x ∈ (items content).1.zipIdx, Accepts env x) →
        OpensDirectly content ∧ (items content).2 = true) := by
  simp only [load_eq_zero_iff, ← completeArray_iff]
  constructor
  · intro h hscanned hitems
    obtain ⟨bindings, hbindings⟩ := exists_takes_iff.mpr hitems
    exact h _ ⟨hscanned, bindings, hbindings, rfl⟩
  · rintro h keybindings' ⟨hscanned, bindings, hbindings, -⟩
    exact h hscanned (exists_takes_iff.mp ⟨bindings, hbindings⟩)

/-- A file that is cut off in its only object. -/
def cutOffFile : List Char :=
  "\x7b\"bindings\":[\x7b\"key\":\"Return\",\"action\":\"lock_screen\"".toList

theorem cutOffFile_accepted :
    zenKeybindsLoadConfig (.enough smallKeymap) [] (some cutOffFile) =
        some (0, [{ modifiers := 0, keysym := 0xff0d, action := .lockScreen
                    customCmd := none }]) ∧
      ¬ CompleteArray cutOffFile := by
  have hopen : (items cutOffFile).2 = false := by decide +kernel
  refine ⟨by decide +kernel, fun hcomplete => ?_⟩
  rw [completeArray_iff, hopen] at hcomplete
  exact Bool.false_ne_true hcomplete.2

end ZenOS.Compositor.KeybindsBuffer
