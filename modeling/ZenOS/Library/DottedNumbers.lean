import Mathlib.Data.Char
import Mathlib.Data.List.Lex
import Mathlib.Data.Nat.Basic
import Mathlib.Data.Prod.Lex
import ZenOS.Library.ShellText

/-!
Texts such as `1.10`, as lists of numbers, and how the order of the texts compares with the
order of the numbers.
-/

namespace ZenOS.Library.DottedNumbers

open ZenOS.Library.ShellText

section Splitting

variable {α : Type*} [LinearOrder α] {sep : α}

theorem splitOn_lt_splitOn_iff {l m : List α} (hl : ∀ c ∈ l, sep ≤ c) (hm : ∀ c ∈ m, sep ≤ c) :
    l.splitOn sep < m.splitOn sep ↔ l < m := by
  induction l generalizing m with
  | nil =>
      rcases m with _ | ⟨d, m⟩
      · simp
      · obtain ⟨piece, pieces, hpieces⟩ := List.exists_cons_of_ne_nil (List.splitOn_ne_nil sep m)
        rw [List.splitOn_cons_eq_if_modifyHead, hpieces]
        split <;> simp [List.cons_lt_cons_iff]
  | cons c l ih =>
      obtain ⟨piece, pieces, hpieces⟩ := List.exists_cons_of_ne_nil (List.splitOn_ne_nil sep l)
      rcases m with _ | ⟨d, m⟩
      · rw [List.splitOn_cons_eq_if_modifyHead, hpieces]
        split <;> simp [List.cons_lt_cons_iff]
      · obtain ⟨piece', pieces', hpieces'⟩ :=
          List.exists_cons_of_ne_nil (List.splitOn_ne_nil sep m)
        have hrest := ih (m := m) (fun c hc => hl c (.tail _ hc)) (fun c hc => hm c (.tail _ hc))
        have hc := hl c (.head _)
        have hd := hm d (.head _)
        rw [hpieces, hpieces'] at hrest
        simp only [List.cons_lt_cons_iff] at hrest
        rw [List.splitOn_cons_eq_if_modifyHead, List.splitOn_cons_eq_if_modifyHead, hpieces,
          hpieces']
        rcases eq_or_ne c sep with rfl | hcsep
        · rcases eq_or_ne d c with rfl | hdc
          · simp [List.cons_lt_cons_iff, hrest]
          · simp [List.cons_lt_cons_iff, hdc, hdc.symm, lt_of_le_of_ne hd hdc.symm]
        · rcases eq_or_ne d sep with rfl | hdsep
          · simp [List.cons_lt_cons_iff, hcsep, hc]
          · simp only [beq_eq_false_iff_ne.mpr hcsep, beq_eq_false_iff_ne.mpr hdsep,
              Bool.false_eq_true, if_false, List.modifyHead_cons, List.cons_lt_cons_iff,
              List.cons.injEq, ← hrest]
            grind

/-- Lists of one length in front: what follows them decides only where they are equal. -/
theorem append_lt_append_iff {l m l' m' : List α} (h : l.length = m.length) :
    l ++ l' < m ++ m' ↔ toLex (l, l') < toLex (m, m') := by
  rw [Prod.Lex.toLex_lt_toLex]
  induction l generalizing m with
  | nil =>
      rw [List.eq_nil_of_length_eq_zero h.symm]
      simp
  | cons c l ih =>
      obtain ⟨d, m, rfl⟩ := List.exists_cons_of_length_eq_add_one h.symm
      simp only [List.cons_append, List.cons_lt_cons_iff, ih (Nat.succ_injective h),
        List.cons.injEq]
      grind

end Splitting

section Digits

def value (digits : List Char) : Nat :=
  Nat.ofDigitChars 10 digits 0

theorem value_cons (c : Char) (digits : List Char) :
    value (c :: digits) = 10 ^ digits.length * (c.toNat - 48) + value digits := by
  rw [value, Nat.ofDigitChars_cons, Nat.ofDigitChars_eq_ofDigitChars_zero]
  simp [value]

theorem value_lt {digits : List Char} (h : ∀ c ∈ digits, c.isDigit = true) :
    value digits < 10 ^ digits.length := by
  induction digits with
  | nil => simp [value]
  | cons c digits ih =>
      have hrest := ih fun d hd => h d (.tail _ hd)
      obtain ⟨-, hupper⟩ := toNat_of_isDigit (h c (.head _))
      have hdigit : 10 ^ digits.length * (c.toNat - 48) ≤ 10 ^ digits.length * 9 :=
        Nat.mul_le_mul_left _ (by omega)
      rw [value_cons, List.length_cons, Nat.pow_succ]
      omega

theorem value_cons_lt {c d : Char} {x y : List Char} (hx : ∀ c ∈ x, c.isDigit = true)
    (hc : c.isDigit = true) (hlength : x.length = y.length) (h : c < d) :
    value (c :: x) < value (d :: y) := by
  have hlt : c.toNat < d.toNat := h
  obtain ⟨hlower, -⟩ := toNat_of_isDigit hc
  calc value (c :: x)
      = 10 ^ x.length * (c.toNat - 48) + value x := value_cons c x
    _ < 10 ^ x.length * (c.toNat - 48) + 10 ^ x.length := Nat.add_lt_add_left (value_lt hx) _
    _ = 10 ^ x.length * (c.toNat - 48 + 1) := (Nat.mul_succ _ _).symm
    _ ≤ 10 ^ y.length * (d.toNat - 48) := by
        rw [hlength]
        exact Nat.mul_le_mul_left _ (by omega)
    _ ≤ value (d :: y) := by
        rw [value_cons]
        exact Nat.le_add_right _ _

theorem value_lt_value_iff {x y : List Char} (hx : ∀ c ∈ x, c.isDigit = true)
    (hy : ∀ c ∈ y, c.isDigit = true) (hlength : x.length = y.length) :
    value x < value y ↔ x < y := by
  induction x generalizing y with
  | nil =>
      rw [List.eq_nil_of_length_eq_zero hlength.symm]
      simp
  | cons c x ih =>
      obtain ⟨d, y, rfl⟩ := List.exists_cons_of_length_eq_add_one hlength.symm
      obtain ⟨hc, hxs⟩ := List.forall_mem_cons.mp hx
      obtain ⟨hd, hys⟩ := List.forall_mem_cons.mp hy
      have hrest : x.length = y.length := Nat.succ_injective hlength
      rw [List.cons_lt_cons_iff]
      rcases lt_trichotomy c d with h | rfl | h
      · exact iff_of_true (value_cons_lt hxs hc hrest h) (.inl h)
      · rw [value_cons, value_cons, hrest, Nat.add_lt_add_iff_left, ih hxs hys hrest]
        simp
      · have hlt := value_cons_lt hys hd hrest.symm h
        exact iff_of_false hlt.not_gt fun hor => hor.elim h.not_gt fun heq => h.ne heq.1.symm

end Digits

section Numbers

def pieces (text : List Char) : List (List Char) :=
  text.splitOn '.'

/-- Numbers with dots between them. -/
def IsDotted (text : List Char) : Prop :=
  ∀ digits ∈ pieces text, digits ≠ [] ∧ ∀ c ∈ digits, c.isDigit = true

instance : DecidablePred IsDotted := fun text =>
  decidable_of_iff
    ((pieces text).all (fun digits => !digits.isEmpty && digits.all Char.isDigit) = true)
    (by simp [IsDotted])

def numbers (text : List Char) : List Nat :=
  (pieces text).map value

variable {x y : List Char}

theorem pieces_append_dot (x y : List Char) :
    pieces (x ++ '.' :: y) = pieces x ++ pieces y :=
  List.splitOn_append_cons_self x y

theorem mem_pieces {c : Char} (h : c ∈ x) :
    c = '.' ∨ ∃ digits ∈ pieces x, c ∈ digits := by
  induction x with
  | nil => cases h
  | cons d x ih =>
      rw [pieces, List.splitOn_cons_eq_if_modifyHead]
      obtain ⟨digits, rest, hpieces⟩ := List.exists_cons_of_ne_nil (List.splitOn_ne_nil '.' x)
      rw [pieces, hpieces] at ih
      rw [hpieces]
      simp only [List.mem_cons, exists_eq_or_imp] at h ih
      rcases eq_or_ne d '.' with rfl | hd
      · simp only [beq_self_eq_true, if_true, List.mem_cons, exists_eq_or_imp]
        tauto
      · simp only [beq_eq_false_iff_ne.mpr hd, Bool.false_eq_true, if_false,
          List.modifyHead_cons, List.mem_cons, exists_eq_or_imp]
        tauto

theorem IsDotted.dot_le (h : IsDotted x) : ∀ c ∈ x, '.' ≤ c := by
  intro c hc
  rcases mem_pieces hc with rfl | ⟨digits, hdigits, hc⟩
  · exact le_rfl
  · exact (by decide : '.' ≤ '0').trans (toNat_of_isDigit ((h digits hdigits).2 c hc)).1

theorem IsDotted.append_dot (hx : IsDotted x) (hy : IsDotted y) : IsDotted (x ++ '.' :: y) := by
  intro digits h
  rw [pieces_append_dot] at h
  exact (List.mem_append.mp h).elim (hx digits) (hy digits)

theorem pieces_lt_pieces_iff (hx : IsDotted x) (hy : IsDotted y) :
    pieces x < pieces y ↔ x < y :=
  splitOn_lt_splitOn_iff hx.dot_le hy.dot_le

theorem map_value_lt_map_value_iff {xs ys : List (List Char)}
    (hxs : ∀ digits ∈ xs, ∀ c ∈ digits, c.isDigit = true)
    (hys : ∀ digits ∈ ys, ∀ c ∈ digits, c.isDigit = true)
    (hlengths : xs.map List.length = ys.map List.length) :
    xs.map value < ys.map value ↔ xs < ys := by
  induction xs generalizing ys with
  | nil =>
      rw [List.map_nil, eq_comm, List.map_eq_nil_iff] at hlengths
      simp [hlengths]
  | cons x xs ih =>
      rcases ys with _ | ⟨y, ys⟩
      · cases hlengths
      · obtain ⟨hx, hxs⟩ := List.forall_mem_cons.mp hxs
        obtain ⟨hy, hys⟩ := List.forall_mem_cons.mp hys
        obtain ⟨hlength, hlengths⟩ := List.cons_eq_cons.mp hlengths
        have hvalue := value_lt_value_iff hx hy hlength
        have hvalue' := value_lt_value_iff hy hx hlength.symm
        have heq : value x = value y ↔ x = y := by
          rw [← not_iff_not, ← ne_eq, ← ne_eq, ne_iff_lt_or_gt, ne_iff_lt_or_gt, hvalue, hvalue']
        rw [List.map_cons, List.map_cons, List.cons_lt_cons_iff, List.cons_lt_cons_iff, hvalue, heq,
          ih hxs hys hlengths]

end Numbers

end ZenOS.Library.DottedNumbers
