import Mathlib.Data.Nat.Find
import Mathlib.Logic.Function.Iterate
import ZenOS.Library.Stdio

/-!
`zen_session_init` of `session.c`, built with PAM.  Stdin is the bytes still to come; the
terminal, the prompts and the error texts are left out.
-/

namespace ZenOS.Session

open ZenOS.Library.Stdio

abbrev newline : UInt8 := 10

/-- What a buffer filled by `fgets` holds as a string, without a trailing newline. -/
def stripped (buf : List UInt8) : List UInt8 :=
  let string := buf.takeWhile (· ≠ 0)
  if string.getLast? = some newline then string.dropLast else string

/-- `pam_conv_fn` on a single prompt: the response and what it leaves of stdin. -/
def pamConvFn (stdin : List UInt8) : List UInt8 × List UInt8 :=
  match fgets newline 512 stdin with
  | (some buf, rest) => (stripped buf, rest)
  | (none, rest) => ([], rest)

/-- Whether a PAM stack accepts a user with a response, at each of the attempts. -/
abbrev Pam := Nat → List UInt8 → List UInt8 → Bool

/-- `pam_authenticate` of a stack that asks one echo-off prompt. -/
def pamAuthenticate (pam : Pam) (attempt : Nat) (username stdin : List UInt8) :
    Bool × List UInt8 :=
  let (resp, rest) := pamConvFn stdin
  (pam attempt username resp, rest)

/-- One round of the loop: whether it sets `authenticated`, and the rest of stdin.  The
password that it reads goes nowhere. -/
def attemptOnce (pam : Pam) (attempt : Nat) (stdin : List UInt8) : Bool × List UInt8 :=
  match fgets newline 256 stdin with
  | (none, rest) => (false, rest)
  | (some username, rest) =>
      let (_password, rest) := fgets newline 512 rest
      pamAuthenticate pam attempt (stripped username) rest

/-- The loop, with the rounds that are left. -/
def attempts (pam : Pam) : Nat → Nat → List UInt8 → Bool
  | 0, _, _ => false
  | left + 1, attempt, stdin =>
      let (authenticated, rest) := attemptOnce pam attempt stdin
      if authenticated then true else attempts pam left (attempt + 1) rest

def zenSessionInit (pam : Pam) (stdin : List UInt8) : Int :=
  if attempts pam 3 0 stdin then 0 else -1

/-- The next two lines: a username and the password typed for it. -/
def typed (stdin : List UInt8) : Option (List UInt8 × List UInt8) :=
  match nextLine newline stdin, nextLine newline (dropLine newline stdin) with
  | some username, some password => some (username, password)
  | _, _ => none

def behindPair (stdin : List UInt8) : List UInt8 :=
  dropLine newline (dropLine newline stdin)

/-- PAM accepts the pair of lines at the beginning of stdin. -/
def Accepts (pam : Pam) (attempt : Nat) (stdin : List UInt8) : Prop :=
  ∃ username password, typed stdin = some (username, password) ∧
    pam attempt username password = true

/-- Stdin at the beginning of an attempt. -/
def stdinAt (pam : Pam) (stdin : List UInt8) : Nat → List UInt8
  | 0 => stdin
  | attempt + 1 => (attemptOnce pam attempt (stdinAt pam stdin attempt)).2

/-- The attempts are made with the pairs of lines: the result is that of the first pair
which PAM accepts, and each attempt consumes its two lines. -/
structure Paired (pam : Pam) (stdin : List UInt8) : Prop where
  result : zenSessionInit pam stdin = 0 ↔
    ∃ k < 3, Accepts pam k (behindPair^[k] stdin) ∧
      ∀ j < k, ¬ Accepts pam j (behindPair^[j] stdin)
  consumed : ∀ k < 3,
    (∀ j < k, (attemptOnce pam j (stdinAt pam stdin j)).1 = false) →
      stdinAt pam stdin (k + 1) = behindPair (stdinAt pam stdin k)

/-- A line of text, as it can be typed. -/
def IsLine (u : List UInt8) : Prop :=
  newline ∉ u ∧ 0 ∉ u

/-- The three reads of an attempt fall on a username and a password: nothing is left to
read, or the password is empty and the last line, or the username fills its buffer so
that the read of the password finds the newline behind it. -/
inductive Readable : List UInt8 → Prop
  | none : Readable []
  | last {username} : IsLine username → username.length ≤ 254 →
      Readable (username ++ [newline, newline])
  | full {username password} (rest) : IsLine username → username.length = 255 →
      IsLine password → password.length ≤ 510 →
      Readable (username ++ newline :: (password ++ newline :: rest))
  | fullLast {username password} : IsLine username → username.length = 255 →
      IsLine password → password ≠ [] → password.length ≤ 511 →
      Readable (username ++ newline :: password)

/-- The username and the response that an attempt gives to PAM. -/
def asked (stdin : List UInt8) : Option (List UInt8 × List UInt8) :=
  if stdin = [] then none
  else
    let behind := (piece newline 511 (piece newline 255 stdin).2).2
    some (stripped (piece newline 255 stdin).1, stripped (piece newline 511 behind).1)

def behindAttempt (stdin : List UInt8) : List UInt8 :=
  (piece newline 511 (piece newline 511 (piece newline 255 stdin).2).2).2

theorem pamConvFn_eq (stdin : List UInt8) :
    pamConvFn stdin = (stripped (piece newline 511 stdin).1, (piece newline 511 stdin).2) := by
  rw [pamConvFn]
  rcases eq_or_ne stdin [] with rfl | hne
  · rfl
  · rw [fgets_of_ne_nil 512 hne]

theorem attemptOnce_eq (pam : Pam) (attempt : Nat) (stdin : List UInt8) :
    attemptOnce pam attempt stdin =
      ((asked stdin).any fun q => pam attempt q.1 q.2, behindAttempt stdin) := by
  rw [attemptOnce]
  rcases eq_or_ne stdin [] with rfl | hne
  · rfl
  · rw [fgets_of_ne_nil 256 hne]
    dsimp only
    rw [pamAuthenticate, pamConvFn_eq, fgets_snd, asked, if_neg hne, behindAttempt]
    rfl

theorem stdinAt_eq (pam : Pam) (stdin : List UInt8) (k : Nat) :
    stdinAt pam stdin k = behindAttempt^[k] stdin := by
  induction k with
  | zero => rfl
  | succ k ih => rw [stdinAt, ih, attemptOnce_eq, Function.iterate_succ_apply']

theorem attempts_iff (pam : Pam) (left attempt : Nat) (stdin : List UInt8) :
    attempts pam left attempt stdin = true ↔
      ∃ j < left, ∃ q ∈ asked (behindAttempt^[j] stdin), pam (attempt + j) q.1 q.2 = true := by
  induction left generalizing attempt stdin with
  | zero => simp [attempts]
  | succ left ih =>
      rw [attempts, attemptOnce_eq]
      dsimp only
      constructor
      · intro h
        split at h
        · next hnow =>
            obtain ⟨q, hq, hpam⟩ := Option.any_eq_true _ _ |>.mp hnow
            exact ⟨0, Nat.succ_pos left, q, hq, hpam⟩
        · obtain ⟨j, hj, q, hq, hpam⟩ := (ih _ _).mp h
          refine ⟨j + 1, Nat.succ_lt_succ hj, q, hq, ?_⟩
          rwa [← Nat.add_right_comm] at hpam
      · rintro ⟨j, hj, q, hq, hpam⟩
        split
        · rfl
        · next hnow =>
            cases j with
            | zero => exact absurd (Option.any_eq_true _ _ |>.mpr ⟨q, hq, hpam⟩) hnow
            | succ j =>
                refine (ih _ _).mpr ⟨j, Nat.lt_of_succ_lt_succ hj, q, hq, ?_⟩
                rwa [Nat.add_right_comm]

theorem zenSessionInit_iff (pam : Pam) (stdin : List UInt8) :
    zenSessionInit pam stdin = 0 ↔
      ∃ k < 3, ∃ q ∈ asked (behindAttempt^[k] stdin), pam k q.1 q.2 = true := by
  have hiff := attempts_iff pam 3 0 stdin
  simp only [Nat.zero_add] at hiff
  rw [← hiff, zenSessionInit]
  split <;> simp_all

theorem takeWhile_text_eq_self {u : List UInt8} : u.takeWhile (· ≠ 0) = u ↔ 0 ∉ u := by
  rw [List.takeWhile_eq_self_iff]
  constructor
  · intro h hmem
    exact absurd rfl (of_decide_eq_true (h 0 hmem))
  · exact ne_newline

theorem stripped_of_notMem {u : List UInt8} (hu : newline ∉ u) :
    stripped u = u.takeWhile (· ≠ 0) := by
  rw [stripped]
  refine if_neg fun hlast => hu ?_
  exact List.takeWhile_subset _ (List.mem_of_getLast? hlast)

theorem stripped_line {u : List UInt8} (hu : newline ∉ u) :
    stripped (u ++ [newline]) = u.takeWhile (· ≠ 0) := by
  by_cases hzero : 0 ∈ u
  · obtain ⟨a, b, rfl, ha⟩ := List.eq_append_cons_of_mem hzero
    have htake : (a ++ 0 :: b ++ [newline]).takeWhile (· ≠ 0) = a := by
      rw [List.append_assoc, List.cons_append, takeWhile_line ha]
    rw [stripped, htake, takeWhile_line ha]
    refine if_neg fun hlast => hu ?_
    exact List.mem_append_left _ (List.mem_of_getLast? hlast)
  · have htext : (u ++ [newline]).takeWhile (· ≠ 0) = u ++ [newline] := by
      rw [takeWhile_text_eq_self, List.mem_append, not_or]
      exact ⟨hzero, by decide⟩
    rw [stripped, htext, takeWhile_text_eq_self.mpr hzero]
    simp

theorem stripped_piece (n : Nat) (stdin : List UInt8) :
    stripped (piece newline n stdin).1 =
      ((stdin.takeWhile (· ≠ newline)).take n).takeWhile (· ≠ 0) := by
  have hcut : ∀ {u : List UInt8}, newline ∉ u → newline ∉ u.take n :=
    fun hu h => hu (List.mem_of_mem_take h)
  rcases line_cases newline stdin with hs | ⟨u, rest, hu, rfl⟩
  · rw [piece_of_notMem hs, stripped_of_notMem (hcut hs), takeWhile_last hs]
  · rw [takeWhile_line hu]
    rcases Nat.lt_or_ge u.length n with hlt | hge
    · rw [piece_line hu rest hlt, stripped_line hu, List.take_of_length_le hlt.le]
    · rw [piece_long hu rest hge, stripped_of_notMem (hcut hu)]

theorem stripped_piece_length_le (n : Nat) (stdin : List UInt8) :
    (stripped (piece newline n stdin).1).length ≤
      min n (stdin.takeWhile (· ≠ newline)).length := by
  rw [stripped_piece]
  refine (List.takeWhile_sublist _).length_le.trans ?_
  exact (List.length_take ..).le

theorem stripped_piece_of_isLine {n : Nat} {stdin u : List UInt8} (hu : IsLine u)
    (hline : stdin.takeWhile (· ≠ newline) = u) (hlen : u.length ≤ n) :
    stripped (piece newline n stdin).1 = u := by
  rw [stripped_piece, hline, List.take_of_length_le hlen, takeWhile_text_eq_self]
  exact hu.2

theorem isLine_of_stripped_piece {n : Nat} {stdin u : List UInt8} (hu : newline ∉ u)
    (hline : stdin.takeWhile (· ≠ newline) = u)
    (hread : stripped (piece newline n stdin).1 = u) : IsLine u ∧ u.length ≤ n := by
  have hlen : u.length ≤ n := by
    have hle := stripped_piece_length_le n stdin
    rw [hread] at hle
    exact hle.trans (Nat.min_le_left _ _)
  rw [stripped_piece, hline, List.take_of_length_le hlen, takeWhile_text_eq_self] at hread
  exact ⟨⟨hu, hread⟩, hlen⟩

theorem typed_line {u s : List UInt8} (hu : newline ∉ u) (hs : s ≠ []) :
    typed (u ++ newline :: s) = some (u, s.takeWhile (· ≠ newline)) := by
  rw [typed, dropLine_line hu, nextLine, nextLine, if_neg (by simp), if_neg hs, takeWhile_line hu]

theorem reads_full {u : List UInt8} (hu : IsLine u) (hfull : u.length = 255) (s : List UInt8) :
    asked (u ++ newline :: s) = some (u, stripped (piece newline 511 s).1) ∧
      behindAttempt (u ++ newline :: s) = (piece newline 511 s).2 := by
  have hfirst : piece newline 255 (u ++ newline :: s) = (u, newline :: s) := by
    rw [piece_long hu.1 s hfull.ge, List.take_of_length_le hfull.le,
      List.drop_of_length_le hfull.le, List.nil_append]
  have hsecond : piece newline 511 (newline :: s) = ([newline], s) := rfl
  have hname : stripped u = u := by
    rw [stripped_of_notMem hu.1, takeWhile_text_eq_self]
    exact hu.2
  rw [asked, if_neg (by simp), behindAttempt, hfirst, hsecond, hname]
  exact ⟨rfl, rfl⟩

theorem reads_short {u : List UInt8} (hu : newline ∉ u) (hlen : u.length ≤ 254)
    (s : List UInt8) :
    asked (u ++ newline :: s) = some (u.takeWhile (· ≠ 0),
        stripped (piece newline 511 (piece newline 511 s).2).1) ∧
      behindAttempt (u ++ newline :: s) =
        (piece newline 511 (piece newline 511 s).2).2 := by
  rw [asked, if_neg (by simp), behindAttempt, piece_line hu s (Nat.lt_succ_of_le hlen),
    stripped_line hu]
  exact ⟨rfl, rfl⟩

theorem Readable.reads {stdin : List UInt8} (h : Readable stdin) :
    asked stdin = typed stdin ∧ behindAttempt stdin = behindPair stdin := by
  cases h with
  | none => exact ⟨rfl, rfl⟩
  | @last u hu hlen =>
      obtain ⟨hasked, hbehind⟩ := reads_short hu.1 hlen [newline]
      rw [hasked, hbehind, typed_line hu.1 (by simp), behindPair, dropLine_line hu.1,
        takeWhile_text_eq_self.mpr hu.2]
      exact ⟨rfl, rfl⟩
  | @full u p rest hu hfull hp hlen =>
      obtain ⟨hasked, hbehind⟩ := reads_full hu hfull (p ++ newline :: rest)
      have hline := takeWhile_line hp.1 rest
      rw [hasked, hbehind, typed_line hu.1 (by simp), behindPair, dropLine_line hu.1,
        dropLine_line hp.1, hline, stripped_piece_of_isLine hp hline (by omega),
        piece_line hp.1 rest (by omega)]
      exact ⟨rfl, rfl⟩
  | @fullLast u p hu hfull hp hne hlen =>
      obtain ⟨hasked, hbehind⟩ := reads_full hu hfull p
      have hline := takeWhile_last hp.1
      rw [hasked, hbehind, typed_line hu.1 hne, behindPair, dropLine_line hu.1,
        dropLine_last hp.1, hline, stripped_piece_of_isLine hp hline hlen,
        piece_last hp.1 hlen]
      exact ⟨rfl, rfl⟩

theorem eq_newline_of_reads {s : List UInt8} (hne : s ≠ [])
    (hresp : stripped (piece newline 511 (piece newline 511 s).2).1 =
      s.takeWhile (· ≠ newline))
    (hrest : (piece newline 511 (piece newline 511 s).2).2 = dropLine newline s) :
    s = [newline] := by
  have hshort : ∀ {p : List UInt8} (t : List UInt8), newline ∉ p → p ≠ [] →
      s.takeWhile (· ≠ newline) = p → (piece newline 511 s).2 = p.drop 511 ++ t →
      (p.drop 511 ++ t).takeWhile (· ≠ newline) = p.drop 511 → False := by
    intro p t hp hpne hline hsecond hrestline
    have hlen := stripped_piece_length_le 511 (p.drop 511 ++ t)
    rw [hsecond, hline] at hresp
    rw [hresp, hrestline, List.length_drop] at hlen
    have hpos := List.length_pos_iff.mpr hpne
    omega
  rcases line_cases newline s with hs | ⟨p, rest, hp, rfl⟩
  · have hdrop : newline ∉ s.drop 511 := fun h => hs (List.mem_of_mem_drop h)
    refine (hshort [] hs hne (takeWhile_last hs) ?_ ?_).elim
    · rw [piece_of_notMem hs, List.append_nil]
    · rw [List.append_nil, takeWhile_last hdrop]
  · rw [takeWhile_line hp] at hresp
    rw [dropLine_line hp] at hrest
    rcases Nat.lt_or_ge p.length 511 with hlt | hge
    · rw [piece_line hp rest hlt] at hresp hrest
      obtain rfl := eq_nil_of_piece_snd (by decide) hrest
      rw [show p = [] from hresp.symm]
      rfl
    · have hdrop : newline ∉ p.drop 511 := fun h => hp (List.mem_of_mem_drop h)
      have hpne : p ≠ [] := by
        rintro rfl
        exact absurd hge (by decide)
      refine (hshort (newline :: rest) hp hpne (takeWhile_line hp rest) ?_ ?_).elim
      · rw [piece_long hp rest hge]
      · exact takeWhile_line hdrop rest

theorem readable_of_reads {stdin : List UInt8} {q : List UInt8 × List UInt8}
    (hasked : asked stdin = some q) (htyped : typed stdin = some q)
    (hbehind : behindAttempt stdin = behindPair stdin) : Readable stdin := by
  obtain ⟨u, s, hu, rfl, hs⟩ :
      ∃ u s, newline ∉ u ∧ stdin = u ++ newline :: s ∧ s ≠ [] := by
    rcases line_cases newline stdin with hlast | ⟨u, s, hu, rfl⟩
    · rw [typed, dropLine_last hlast, nextLine_nil] at htyped
      split at htyped <;> simp_all
    · refine ⟨u, s, hu, rfl, ?_⟩
      rintro rfl
      rw [typed, dropLine_line hu, nextLine_nil] at htyped
      split at htyped <;> simp_all
  rw [typed_line hu hs] at htyped
  rw [behindPair, dropLine_line hu] at hbehind
  have hpair : asked (u ++ newline :: s) = some (u, s.takeWhile (· ≠ newline)) :=
    hasked.trans htyped.symm
  have huser : stripped (piece newline 255 (u ++ newline :: s)).1 = u := by
    rw [asked, if_neg (by simp)] at hpair
    exact congrArg Prod.fst (Option.some.inj hpair)
  obtain ⟨hline, hlen⟩ := isLine_of_stripped_piece hu (takeWhile_line hu s) huser
  rcases Nat.lt_or_eq_of_le hlen with hlt | hfull
  · obtain ⟨hasked, hrest⟩ := reads_short hu (Nat.le_of_lt_succ hlt) s
    have hresp := congrArg Prod.snd (Option.some.inj (hasked.symm.trans hpair))
    obtain rfl := eq_newline_of_reads hs hresp (hrest.symm.trans hbehind)
    exact .last hline (Nat.le_of_lt_succ hlt)
  · obtain ⟨hasked, hrest⟩ := reads_full hline hfull s
    have hresp := congrArg Prod.snd (Option.some.inj (hasked.symm.trans hpair))
    have hrest := hrest.symm.trans hbehind
    rcases line_cases newline s with hp | ⟨p, rest, hp, rfl⟩
    · rw [takeWhile_last hp] at hresp
      obtain ⟨hpass, hfits⟩ := isLine_of_stripped_piece hp (takeWhile_last hp) hresp
      exact .fullLast hline hfull hpass hs hfits
    · rw [takeWhile_line hp] at hresp
      obtain ⟨hpass, hfits⟩ := isLine_of_stripped_piece hp (takeWhile_line hp rest) hresp
      refine .full rest hline hfull hpass ?_
      by_contra hlong
      -- a password of 511 bytes leaves its newline behind
      rw [piece_long hp rest (by omega), dropLine_line hp] at hrest
      have hcount := congrArg List.length hrest
      rw [List.length_append, List.length_cons] at hcount
      omega

theorem iterate_behindPair {stdin : List UInt8} {n : Nat}
    (h : ∀ k < n, behindAttempt (behindPair^[k] stdin) = behindPair (behindPair^[k] stdin))
    {k : Nat} (hk : k ≤ n) : behindAttempt^[k] stdin = behindPair^[k] stdin := by
  induction k with
  | zero => rfl
  | succ k ih =>
      rw [Function.iterate_succ_apply', Function.iterate_succ_apply', ih (by omega)]
      exact h k hk

/-- Attempts and pairs of lines agree, whatever PAM answers, exactly when the reads of
each attempt fall on its two lines.  The conversation function reads a line of its own,
behind the password that the loop has read. -/
theorem paired_iff (stdin : List UInt8) :
    (∀ pam, Paired pam stdin) ↔ ∀ k < 3, Readable (behindPair^[k] stdin) := by
  constructor
  · intro hpaired
    have hbehind : ∀ k ≤ 3, behindAttempt^[k] stdin = behindPair^[k] stdin := by
      intro k hk
      induction k with
      | zero => rfl
      | succ k ih =>
          have hconsumed := (hpaired fun _ _ _ => false).consumed k hk
          simp only [attemptOnce_eq, stdinAt_eq, Option.any_false, implies_true,
            forall_const] at hconsumed
          rw [hconsumed, ih (Nat.le_of_succ_le hk), Function.iterate_succ_apply']
    intro k hk
    rcases hasked : asked (behindPair^[k] stdin) with _ | q
    · rw [asked] at hasked
      split at hasked
      · next hnil =>
          rw [hnil]
          exact .none
      · cases hasked
    · let pam : Pam := fun j username password => decide (j = k ∧ (username, password) = q)
      have hzero : zenSessionInit pam stdin = 0 := by
        refine (zenSessionInit_iff pam stdin).mpr ⟨k, hk, q, ?_, ?_⟩
        · rw [hbehind k hk.le]
          exact hasked
        · exact decide_eq_true ⟨rfl, rfl⟩
      obtain ⟨j, -, ⟨username, password, htyped, hpam⟩, -⟩ := (hpaired pam).result.mp hzero
      obtain ⟨rfl, rfl⟩ := of_decide_eq_true hpam
      refine readable_of_reads hasked htyped ?_
      have hnext := hbehind (j + 1) hk
      rwa [Function.iterate_succ_apply', Function.iterate_succ_apply', hbehind j hk.le] at hnext
  · intro hreadable pam
    have hbehind : ∀ k ≤ 3, behindAttempt^[k] stdin = behindPair^[k] stdin := fun k hk =>
      iterate_behindPair (fun k hk => (hreadable k hk).reads.2) hk
    have hasked : ∀ k < 3, asked (behindAttempt^[k] stdin) = typed (behindPair^[k] stdin) := by
      intro k hk
      rw [hbehind k hk.le]
      exact (hreadable k hk).reads.1
    constructor
    · have haccepts : ∀ k < 3, (∃ q ∈ asked (behindAttempt^[k] stdin),
          pam k q.1 q.2 = true) ↔ Accepts pam k (behindPair^[k] stdin) := by
        intro k hk
        rw [hasked k hk, Accepts]
        simp [Prod.exists]
      rw [zenSessionInit_iff]
      constructor
      · rintro ⟨k, hk, hasks⟩
        classical
        have hfirst : ∃ k, Accepts pam k (behindPair^[k] stdin) :=
          ⟨k, (haccepts k hk).mp hasks⟩
        refine ⟨Nat.find hfirst, ?_, Nat.find_spec hfirst, fun j hj => Nat.find_min hfirst hj⟩
        exact (Nat.find_min' hfirst ((haccepts k hk).mp hasks)).trans_lt hk
      · rintro ⟨k, hk, hacc, -⟩
        exact ⟨k, hk, (haccepts k hk).mpr hacc⟩
    · intro k hk _
      rw [stdinAt_eq, stdinAt_eq, hbehind (k + 1) hk, hbehind k hk.le,
        Function.iterate_succ_apply']

/-- A user with the right password is turned away: PAM is given the line behind it. -/
theorem right_password_rejected :
    let alice : List UInt8 := [97, 108, 105, 99, 101]
    let secret : List UInt8 := [115, 101, 99, 114, 101, 116]
    let pam : Pam := fun _ username password => username = alice && password = secret
    let stdin := alice ++ newline :: secret ++ [newline]
    Accepts pam 0 stdin ∧ zenSessionInit pam stdin = -1 ∧ ¬ Paired pam stdin := by
  intro alice secret pam stdin
  have haccepts : Accepts pam 0 stdin := ⟨alice, secret, by decide, by decide⟩
  have hrejected : zenSessionInit pam stdin = -1 := by decide +kernel
  refine ⟨haccepts, hrejected, fun hpaired => ?_⟩
  have hzero := hpaired.result.mpr ⟨0, by decide, haccepts, fun j hj => absurd hj j.not_lt_zero⟩
  rw [hrejected] at hzero
  cases hzero

end ZenOS.Session
