import Mathlib.Algebra.Group.Int.Defs
import Mathlib.Algebra.Group.Nat.Defs
import Mathlib.Data.List.DropRight
import Mathlib.Order.Basic

/-!
Text in a shell: what a command substitution keeps of an output, and the numbers that
`printf` reads from its arguments.
-/

namespace ZenOS.Library.ShellText

/-- `$(…)`: without NUL, and without the line breaks at the end. -/
def substituted (output : List Char) : List Char :=
  (output.filter (·.toNat != 0)).rdropWhile (· == '\n')

theorem substituted_append_newline (output : List Char) :
    substituted (output ++ ['\n']) = substituted output := by
  rw [substituted, List.filter_append, List.filter_cons_of_pos (by decide), List.filter_nil,
    List.rdropWhile_concat_pos _ _ _ (by decide)]
  rfl

/-- The test for NUL that evaluation decides. -/
theorem toNat_ne_zero_of_all {text : List Char} (h : text.all (·.toNat != 0) = true) :
    ∀ c ∈ text, c.toNat ≠ 0 :=
  fun c hc => bne_iff_ne.mp (List.all_eq_true.mp h c hc)

theorem substituted_of_line {line : List Char} (hnul : ∀ c ∈ line, c.toNat ≠ 0)
    (hnewline : '\n' ∉ line) : substituted line = line := by
  have hfilter : line.filter (·.toNat != 0) = line :=
    List.filter_eq_self.mpr fun c hc => bne_iff_ne.mpr (hnul c hc)
  rw [substituted, hfilter, List.rdropWhile_eq_self_iff]
  intro hne hlast
  exact hnewline (eq_of_beq hlast ▸ List.getLast_mem hne)

section Printf

def isSpace (c : Char) : Bool :=
  c == ' ' || (9 ≤ c.toNat && c.toNat ≤ 13)

/-- The value of a digit in the bases up to 16. -/
def digitValue (c : Char) : Option Nat :=
  if c.isDigit then some (c.toNat - '0'.toNat)
  else if 'a' ≤ c ∧ c ≤ 'f' then some (c.toNat - 'a'.toNat + 10)
  else if 'A' ≤ c ∧ c ≤ 'F' then some (c.toNat - 'A'.toNat + 10)
  else none

def isDigitIn (base : Nat) (c : Char) : Bool :=
  (digitValue c).any (· < base)

/-- The base of a numeral, as a constant of C, and where its digits begin. -/
def radix : List Char → Nat × List Char
  | '0' :: x :: c :: rest =>
      if (x == 'x' || x == 'X') && isDigitIn 16 c then (16, c :: rest)
      else (8, '0' :: x :: c :: rest)
  | '0' :: rest => (8, '0' :: rest)
  | text => (10, text)

def numeralValue (base : Nat) (digits : List Char) : Nat :=
  digits.foldl (fun n c => base * n + (digitValue c).getD 0) 0

/-- The argument of a `%d`: the number that is printed, and whether `printf` takes the
whole argument for a number.  A number out of range is printed as the nearest one. -/
def printfD (arg : List Char) : Int × Bool :=
  if arg = [] then (0, true)
  else if arg.head?.any fun c => c == '\'' || c == '"' then (arg.tail.head?.elim 0 (·.toNat), true)
  else
    let text := arg.dropWhile isSpace
    let signed := text.head?.any fun c => c == '-' || c == '+'
    let (base, numeral) := radix (if signed then text.tail else text)
    let digits := numeral.takeWhile (isDigitIn base)
    let value : Int := numeralValue base digits
    (if text.head? = some '-' then max (-2 ^ 63) (-value) else min (2 ^ 63 - 1) value,
      digits ≠ [] && (numeral.dropWhile (isDigitIn base)).isEmpty)

theorem digitValue_of_isDigit {c : Char} (h : c.isDigit = true) :
    digitValue c = some (c.toNat - '0'.toNat) :=
  if_pos h

theorem isDigit_of_mem_toDigits {n : Nat} {c : Char} (h : c ∈ Nat.toDigits 10 n) :
    c.isDigit = true :=
  Nat.isDigit_of_mem_toDigits (by decide) (by decide) h

theorem toNat_of_isDigit {c : Char} (h : c.isDigit = true) : 48 ≤ c.toNat ∧ c.toNat ≤ 57 := by
  simp only [Char.isDigit, Bool.and_eq_true, decide_eq_true_eq] at h
  exact h

theorem numeralValue_toDigits (n : Nat) : numeralValue 10 (Nat.toDigits 10 n) = n := by
  calc numeralValue 10 (Nat.toDigits 10 n)
      = Nat.ofDigitChars 10 (Nat.toDigits 10 n) 0 := by
        rw [numeralValue, Nat.ofDigitChars_eq_foldl]
        refine List.foldl_ext _ _ _ fun n c hc => ?_
        rw [digitValue_of_isDigit (isDigit_of_mem_toDigits hc), Option.getD_some]
    _ = n := Nat.ofDigitChars_ten_toDigits

theorem head?_toDigits {n : Nat} (hn : 0 < n) : (Nat.toDigits 10 n).head? ≠ some '0' := by
  induction n using Nat.strongRecOn with
  | _ n ih =>
      by_cases h : n < 10
      · rw [Nat.toDigits_of_lt_base h]
        intro hzero
        have hchar : n.digitChar = '0' := Option.some.inj hzero
        have hvalue := Nat.toNat_digitChar_sub_48_of_lt_ten h
        rw [hchar] at hvalue
        exact Nat.ne_of_gt hn hvalue.symm
      · have hle : 10 ≤ n := Nat.le_of_not_lt h
        have hne : Nat.toDigits 10 (n / 10) ≠ [] := Nat.toDigits_ne_nil
        obtain ⟨c, digits, hcons⟩ := List.exists_cons_of_ne_nil hne
        have hc := ih (n / 10) (by omega) (by omega)
        rw [Nat.toDigits_of_base_le (by decide) hle, hcons]
        rw [hcons] at hc
        exact hc

theorem radix_toDigits (n : Nat) (hn : 0 < n) :
    radix (Nat.toDigits 10 n) = (10, Nat.toDigits 10 n) := by
  have hhead := head?_toDigits hn
  rw [radix.eq_def]
  split
  · next hcons => exact absurd (by rw [hcons]; rfl) hhead
  · next hcons => exact absurd (by rw [hcons]; rfl) hhead
  · rfl

theorem isDigitIn_ten {c : Char} (h : c.isDigit = true) : isDigitIn 10 c = true := by
  have hle : c.toNat ≤ '9'.toNat := by
    simp only [Char.isDigit, Bool.and_eq_true, decide_eq_true_eq] at h
    exact h.2
  rw [isDigitIn, digitValue_of_isDigit h, Option.any_some, decide_eq_true_eq]
  change c.toNat ≤ 57 at hle
  change c.toNat - 48 < 10
  omega

theorem printfD_of_isDigit {text : List Char} (hne : text ≠ [])
    (hdigits : ∀ c ∈ text, c.isDigit = true) (hradix : radix text = (10, text)) :
    printfD text = (min (2 ^ 63 - 1) (numeralValue 10 text : Int), true) := by
  obtain ⟨c, rest, rfl⟩ := List.exists_cons_of_ne_nil hne
  have hc : c.isDigit = true := hdigits c List.mem_cons_self
  have hother : ∀ {d : Char}, d.isDigit = false → (c == d) = false := by
    intro d hd
    rw [beq_eq_false_iff_ne]
    rintro rfl
    exact Bool.false_ne_true (hd.symm.trans hc)
  have hspace : isSpace c = false := by
    have hge : '0'.toNat ≤ c.toNat := by
      simp only [Char.isDigit, Bool.and_eq_true, decide_eq_true_eq] at hc
      exact hc.1
    change 48 ≤ c.toNat at hge
    rw [isSpace, hother rfl, Bool.false_or, Bool.and_eq_false_imp]
    intro _
    rw [decide_eq_false_iff_not]
    omega
  have htext : (c :: rest).dropWhile isSpace = c :: rest :=
    List.dropWhile_cons_of_neg (by simp [hspace])
  have hquote : ((c :: rest).head?.any fun c => c == '\'' || c == '"') = false := by
    simp [hother (d := '\'') rfl, hother (d := '"') rfl]
  have hsigned : ((c :: rest).head?.any fun c => c == '-' || c == '+') = false := by
    simp [hother (d := '-') rfl, hother (d := '+') rfl]
  have hminus : ¬ (c :: rest).head? = some '-' := by
    simpa using hother (d := '-') rfl
  have htake : (c :: rest).takeWhile (isDigitIn 10) = c :: rest :=
    List.takeWhile_eq_self_iff.mpr fun d hd => isDigitIn_ten (hdigits d hd)
  have hdrop : (c :: rest).dropWhile (isDigitIn 10) = [] :=
    List.dropWhile_eq_nil_iff.mpr fun d hd => isDigitIn_ten (hdigits d hd)
  simp only [printfD, if_neg hne, hquote, Bool.false_eq_true, if_false, htext, hsigned, hradix,
    htake, hdrop, if_neg hminus]
  simp

/-- A decimal numeral is printed as it stands, unless it is too large. -/
theorem printfD_toDigits (n : Nat) :
    printfD (Nat.toDigits 10 n) = (min (2 ^ 63 - 1) (n : Int), true) := by
  rcases Nat.eq_zero_or_pos n with rfl | hn
  · decide
  · rw [printfD_of_isDigit Nat.toDigits_ne_nil (fun _ => isDigit_of_mem_toDigits)
      (radix_toDigits n hn), numeralValue_toDigits]

end Printf

end ZenOS.Library.ShellText
