import Mathlib.Data.List.Infix
import Mathlib.Data.Nat.Find
import Mathlib.Order.Monotone.Basic

/-!
`serial/tail.rs` and the reads of the serial log in `serial/scan.rs`.  The log is a file
that the virtual machine appends to while it is polled.
-/

namespace ZenOS.ZenTest

abbrev Bytes := List UInt8

/-- The bytes of a `str`. -/
def utf8 (s : String) : Bytes :=
  s.toUTF8.data.toList

/-- `read_to_string`, which fails on a missing file and on one that is not UTF-8. -/
def readToString (file : Option Bytes) : Option Bytes :=
  file.filter fun bytes => bytes.toByteArray.validateUTF8

/-- `str::contains` -/
def contains (content : Bytes) (pattern : String) : Bool :=
  utf8 pattern <:+: content

def logContains (file : Option Bytes) (pattern : String) : Bool :=
  (readToString file).any fun content => contains content pattern

def logAbsent (file : Option Bytes) (pattern : String) : Bool :=
  !logContains file pattern

/-- The serial log at every moment: there is no file at first, and then it grows. -/
structure SerialLog where
  content : Nat → Option Bytes
  grows : ∀ {t u : Nat} {bytes : Bytes}, t ≤ u → content t = some bytes →
    ∃ more, content u = some more ∧ bytes <+: more

theorem contains_mono {content more : Bytes} {pattern : String} (h : content <+: more)
    (hcontains : contains content pattern = true) : contains more pattern = true := by
  simp only [contains, decide_eq_true_eq] at hcontains ⊢
  exact hcontains.trans h.isInfix

theorem readToString_eq_some {file : Option Bytes} {content : Bytes}
    (h : readToString file = some content) : file = some content :=
  (Option.filter_eq_some_iff.mp h).1

structure ErrorPattern where
  pattern : String
  tag : String

def errorPatterns : List ErrorPattern :=
  [ ⟨"ERROR: AddressSanitizer", "asan"⟩,
    ⟨"ERROR: LeakSanitizer", "lsan"⟩,
    ⟨"ERROR: UndefinedBehaviorSanitizer", "ubsan"⟩,
    ⟨"Kernel panic", "kernel_panic"⟩,
    ⟨"BUG:", "kernel_bug"⟩,
    ⟨"Oops:", "kernel_oops"⟩,
    ⟨"segfault", "segfault"⟩,
    ⟨"SIGABRT", "sigabrt"⟩,
    ⟨"Assertion", "assertion"⟩ ]

inductive WaitResult where
  | patternFound (pattern : String)
  | errorFound (pattern : String)
  | timeout
  deriving DecidableEq

/-- When the iterations of the loop test the deadline and read the log, counted from
its start.  After a read that decides nothing the loop sleeps. -/
structure Polls (pollInterval : Nat) where
  check : Nat → Nat
  read : Nat → Nat
  check_le_read : ∀ n, check n ≤ read n
  sleep : ∀ n, read n + pollInterval ≤ check (n + 1)
  -- the clock does not stand still
  progress : ∀ t, ∃ n, t ≤ check n

section Wait

variable (successPatterns : List String) (errors : List ErrorPattern) (deadline : Nat)
  (log : SerialLog) {pollInterval : Nat} (polls : Polls pollInterval)

/-- The loop of `wait_for_pattern` from its `n`-th iteration on, for at most `fuel`
iterations. -/
def waitLoop : (fuel n lastOffset : Nat) → Option WaitResult
  | 0, _, _ => none
  | fuel + 1, n, lastOffset =>
      if deadline ≤ polls.check n then some .timeout
      else
        match readToString (log.content (polls.read n)) with
        | none => waitLoop fuel (n + 1) lastOffset
        | some content =>
            -- only a log that has grown is searched, but then all of it
            if content.length ≤ lastOffset then waitLoop fuel (n + 1) content.length
            else
              match successPatterns.find? fun pattern => contains content pattern with
              | some pattern => some (.patternFound pattern)
              | none =>
                  match errors.find? fun ep => contains content ep.pattern with
                  | some ep => some (.errorFound ep.pattern)
                  | none => waitLoop fuel (n + 1) content.length

def WaitForPattern (result : WaitResult) : Prop :=
  ∃ fuel, waitLoop successPatterns errors deadline log polls fuel 0 0 = some result

/-- The verdict on what has been read so far. -/
def verdict (content : Bytes) : Option WaitResult :=
  if content = [] then none
  else
    match successPatterns.find? fun pattern => contains content pattern with
    | some pattern => some (.patternFound pattern)
    | none => (errors.find? fun ep => contains content ep.pattern).map (.errorFound ·.pattern)

/-- The verdict of the `n`-th iteration on its own. -/
def verdictAt (n : Nat) : Option WaitResult :=
  (readToString (log.content (polls.read n))).bind (verdict successPatterns errors)

end Wait

section Loop

variable {successPatterns : List String} {errors : List ErrorPattern} {deadline : Nat}
  {log : SerialLog} {pollInterval : Nat} {polls : Polls pollInterval}

theorem Polls.check_mono (polls : Polls pollInterval) : Monotone polls.check := by
  refine monotone_nat_of_le_succ fun n => ?_
  have hread := polls.check_le_read n
  have hsleep := polls.sleep n
  omega

theorem Polls.read_mono (polls : Polls pollInterval) : Monotone polls.read := by
  refine monotone_nat_of_le_succ fun n => ?_
  have hsleep := polls.sleep n
  have hread := polls.check_le_read (n + 1)
  omega

/-- What has been read before the `n`-th iteration has decided nothing, and it is where
every later read starts. -/
def Undecided (successPatterns : List String) (errors : List ErrorPattern) (log : SerialLog)
    (polls : Polls pollInterval) (n lastOffset : Nat) : Prop :=
  ∃ seen : Bytes, seen.length = lastOffset ∧ verdict successPatterns errors seen = none ∧
    ∀ m, n ≤ m → ∀ content, log.content (polls.read m) = some content → seen <+: content

theorem undecided_zero : Undecided successPatterns errors log polls 0 0 :=
  ⟨[], rfl, rfl, fun _ _ _ _ => List.nil_prefix⟩

theorem Undecided.succ {n lastOffset : Nat}
    (h : Undecided successPatterns errors log polls n lastOffset) :
    Undecided successPatterns errors log polls (n + 1) lastOffset := by
  obtain ⟨seen, hlen, hnone, hpre⟩ := h
  exact ⟨seen, hlen, hnone, fun m hm => hpre m (Nat.le_of_succ_le hm)⟩

theorem Undecided.of_read {n : Nat} {content : Bytes}
    (hread : log.content (polls.read n) = some content)
    (hnone : verdict successPatterns errors content = none) :
    Undecided successPatterns errors log polls (n + 1) content.length := by
  refine ⟨content, rfl, hnone, fun m hm later hlater => ?_⟩
  obtain ⟨more, hmore, hpre⟩ := log.grows (polls.read_mono (Nat.le_of_succ_le hm)) hread
  rw [hmore] at hlater
  rwa [← Option.some.inj hlater]

theorem waitLoop_step {n lastOffset : Nat}
    (h : Undecided successPatterns errors log polls n lastOffset)
    (hcheck : polls.check n < deadline) :
    (∃ result, verdictAt successPatterns errors log polls n = some result ∧ ∀ fuel,
        waitLoop successPatterns errors deadline log polls (fuel + 1) n lastOffset =
          some result) ∨
      (verdictAt successPatterns errors log polls n = none ∧ ∃ lastOffset',
        Undecided successPatterns errors log polls (n + 1) lastOffset' ∧ ∀ fuel,
          waitLoop successPatterns errors deadline log polls (fuel + 1) n lastOffset =
            waitLoop successPatterns errors deadline log polls fuel (n + 1) lastOffset') := by
  have hbefore : ¬ deadline ≤ polls.check n := Nat.not_le.mpr hcheck
  rcases hread : readToString (log.content (polls.read n)) with _ | content
  · refine .inr ⟨by rw [verdictAt, hread]; rfl, lastOffset, h.succ, fun fuel => ?_⟩
    simp only [waitLoop, if_neg hbefore, hread]
  have hcontent := readToString_eq_some hread
  have hverdict : verdictAt successPatterns errors log polls n =
      verdict successPatterns errors content := by
    rw [verdictAt, hread]
    rfl
  rw [hverdict]
  obtain ⟨seen, rfl, hseen, hpre⟩ := h
  have hgrown := hpre n le_rfl content hcontent
  by_cases hlen : content.length ≤ seen.length
  · obtain rfl : seen = content := hgrown.eq_of_length (le_antisymm hgrown.length_le hlen)
    refine .inr ⟨hseen, _, .of_read hcontent hseen, fun fuel => ?_⟩
    simp only [waitLoop, if_neg hbefore, hread, if_pos hlen]
  · have hne : content ≠ [] := by
      rintro rfl
      exact hlen (Nat.zero_le _)
    rcases hsuccess : successPatterns.find? fun pattern => contains content pattern with _ | p
    · rcases herror : errors.find? fun ep => contains content ep.pattern with _ | ep
      · have hnone : verdict successPatterns errors content = none := by
          simp only [verdict, if_neg hne, hsuccess, herror, Option.map_none]
        refine .inr ⟨hnone, _, .of_read hcontent hnone, fun fuel => ?_⟩
        simp only [waitLoop, if_neg hbefore, hread, if_neg hlen, hsuccess, herror]
      · refine .inl ⟨.errorFound ep.pattern, ?_, fun fuel => ?_⟩
        · simp only [verdict, if_neg hne, hsuccess, herror, Option.map_some]
        · simp only [waitLoop, if_neg hbefore, hread, if_neg hlen, hsuccess, herror]
    · refine .inl ⟨.patternFound p, ?_, fun fuel => ?_⟩
      · simp only [verdict, if_neg hne, hsuccess]
      · simp only [waitLoop, if_neg hbefore, hread, if_neg hlen, hsuccess]

theorem waitLoop_undecided (n : Nat)
    (h : ∀ m < n, polls.check m < deadline ∧
      verdictAt successPatterns errors log polls m = none) :
    ∃ lastOffset, Undecided successPatterns errors log polls n lastOffset ∧ ∀ fuel,
      waitLoop successPatterns errors deadline log polls (fuel + n) 0 0 =
        waitLoop successPatterns errors deadline log polls fuel n lastOffset := by
  induction n with
  | zero => exact ⟨0, undecided_zero, fun _ => rfl⟩
  | succ n ih =>
      obtain ⟨lastOffset, hundecided, hloop⟩ := ih fun m hm => h m (Nat.lt_succ_of_lt hm)
      obtain ⟨hcheck, hnone⟩ := h n (Nat.lt_succ_self n)
      rcases waitLoop_step hundecided hcheck with ⟨result, hsome, -⟩ | ⟨-, lastOffset', h', hnext⟩
      · rw [hnone] at hsome
        cases hsome
      · refine ⟨lastOffset', h', fun fuel => ?_⟩
        rw [← hnext fuel, ← hloop (fuel + 1)]
        congr 1
        omega

theorem waitLoop_succ_fuel {fuel n lastOffset : Nat} {result : WaitResult}
    (h : waitLoop successPatterns errors deadline log polls fuel n lastOffset = some result) :
    waitLoop successPatterns errors deadline log polls (fuel + 1) n lastOffset =
      some result := by
  induction fuel generalizing n lastOffset with
  | zero => cases h
  | succ fuel ih =>
      rw [waitLoop] at h ⊢
      split
      · next hcheck => rwa [if_pos hcheck] at h
      · next hcheck =>
          rw [if_neg hcheck] at h
          split
          · next hread =>
              simp only [hread] at h
              exact ih h
          · next content hread =>
              simp only [hread] at h
              split
              · next hlen =>
                  rw [if_pos hlen] at h
                  exact ih h
              · next hlen =>
                  rw [if_neg hlen] at h
                  split
                  · next hfind => simpa only [hfind] using h
                  · next hfind =>
                      simp only [hfind] at h
                      split
                      · next herror => simpa only [herror] using h
                      · next herror =>
                          simp only [herror] at h
                          exact ih h

theorem WaitForPattern.unique {result result' : WaitResult}
    (h : WaitForPattern successPatterns errors deadline log polls result)
    (h' : WaitForPattern successPatterns errors deadline log polls result') :
    result = result' := by
  obtain ⟨fuel, hfuel⟩ := h
  obtain ⟨fuel', hfuel'⟩ := h'
  have hmore : ∀ {k : Nat} {r : WaitResult},
      waitLoop successPatterns errors deadline log polls k 0 0 = some r → ∀ d,
        waitLoop successPatterns errors deadline log polls (k + d) 0 0 = some r := by
    intro k r hk d
    induction d with
    | zero => exact hk
    | succ d ih => exact waitLoop_succ_fuel ih
  have hboth := (hmore hfuel fuel').symm.trans
    ((congrArg (waitLoop _ _ _ _ _ · 0 0) (Nat.add_comm ..)).trans (hmore hfuel' fuel))
  exact Option.some.inj hboth

theorem waitForPattern_of_verdict {n : Nat} {result : WaitResult}
    (hcheck : polls.check n < deadline)
    (hresult : verdictAt successPatterns errors log polls n = some result)
    (hfirst : ∀ m < n, verdictAt successPatterns errors log polls m = none) :
    WaitForPattern successPatterns errors deadline log polls result := by
  have hbefore : ∀ m < n, polls.check m < deadline ∧
      verdictAt successPatterns errors log polls m = none :=
    fun m hm => ⟨(polls.check_mono hm.le).trans_lt hcheck, hfirst m hm⟩
  obtain ⟨lastOffset, hundecided, hloop⟩ := waitLoop_undecided n hbefore
  rcases waitLoop_step hundecided hcheck with ⟨result', hsome, hreturn⟩ | ⟨hnone, -⟩
  · rw [hresult] at hsome
    exact ⟨1 + n, by rw [hloop, hreturn 0, ← hsome]⟩
  · rw [hresult] at hnone
    cases hnone

theorem waitForPattern_timeout
    (h : ∀ n, polls.check n < deadline →
      verdictAt successPatterns errors log polls n = none) :
    WaitForPattern successPatterns errors deadline log polls .timeout := by
  have hlate := polls.progress deadline
  have hbefore : ∀ m < Nat.find hlate, polls.check m < deadline ∧
      verdictAt successPatterns errors log polls m = none := by
    intro m hm
    have hcheck := Nat.not_le.mp (Nat.find_min hlate hm)
    exact ⟨hcheck, h m hcheck⟩
  obtain ⟨lastOffset, -, hloop⟩ := waitLoop_undecided (Nat.find hlate) hbefore
  refine ⟨1 + Nat.find hlate, ?_⟩
  rw [hloop, waitLoop, if_pos (Nat.find_spec hlate)]

/-- `wait_for_pattern` returns the first verdict that a read before the deadline gives, and
`Timeout` when there is none. -/
theorem waitForPattern_iff (result : WaitResult) :
    WaitForPattern successPatterns errors deadline log polls result ↔
      (∃ n, polls.check n < deadline ∧
          verdictAt successPatterns errors log polls n = some result ∧
          ∀ m < n, verdictAt successPatterns errors log polls m = none) ∨
        (result = .timeout ∧ ∀ n, polls.check n < deadline →
          verdictAt successPatterns errors log polls n = none) := by
  constructor
  · intro h
    by_cases hdecided : ∃ n, verdictAt successPatterns errors log polls n ≠ none ∧
        polls.check n < deadline
    · obtain ⟨hsome, hcheck⟩ := Nat.find_spec hdecided
      obtain ⟨result', hresult⟩ := Option.ne_none_iff_exists'.mp hsome
      have hfirst : ∀ m < Nat.find hdecided,
          verdictAt successPatterns errors log polls m = none := by
        intro m hm
        by_contra hne
        exact Nat.find_min hdecided hm ⟨hne, (polls.check_mono hm.le).trans_lt hcheck⟩
      rw [h.unique (waitForPattern_of_verdict hcheck hresult hfirst)]
      exact .inl ⟨_, hcheck, hresult, hfirst⟩
    · have hnone : ∀ n, polls.check n < deadline →
          verdictAt successPatterns errors log polls n = none := by
        intro n hcheck
        by_contra hne
        exact hdecided ⟨n, hne, hcheck⟩
      exact .inr ⟨h.unique (waitForPattern_timeout hnone), hnone⟩
  · rintro (⟨n, hcheck, hresult, hfirst⟩ | ⟨rfl, hnone⟩)
    · exact waitForPattern_of_verdict hcheck hresult hfirst
    · exact waitForPattern_timeout hnone

end Loop

end ZenOS.ZenTest
