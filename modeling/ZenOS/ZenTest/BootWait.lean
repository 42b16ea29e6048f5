import ZenOS.ZenTest.Tail

/-!
The wait for the boot signal in `vm_boot`: which signals it misses, and how its verdict
depends on the moments at which the log is read.
-/

namespace ZenOS.ZenTest

section Verdict

variable (successPatterns : List String) (errors : List ErrorPattern)

def Signalled (content : Bytes) : Prop :=
  ∃ pattern ∈ successPatterns, contains content pattern = true

def Failed (content : Bytes) : Prop :=
  ∃ ep ∈ errors, contains content ep.pattern = true

variable {successPatterns errors} {content more : Bytes}

theorem Signalled.mono (h : Signalled successPatterns content) (hpre : content <+: more) :
    Signalled successPatterns more := by
  obtain ⟨pattern, hmem, hcontains⟩ := h
  exact ⟨pattern, hmem, contains_mono hpre hcontains⟩

theorem signalled_iff :
    Signalled successPatterns content ↔
      (successPatterns.find? fun pattern => contains content pattern).isSome = true := by
  simp [Signalled, List.find?_isSome]

theorem failed_iff :
    Failed errors content ↔
      (errors.find? fun ep => contains content ep.pattern).isSome = true := by
  simp [Failed, List.find?_isSome]

theorem verdict_patternFound_iff :
    (∃ pattern, verdict successPatterns errors content = some (.patternFound pattern)) ↔
      content ≠ [] ∧ Signalled successPatterns content := by
  rw [signalled_iff, verdict]
  split
  · next hnil => simp [hnil]
  · next hne =>
      split
      · next p hsuccess => simp [hne, hsuccess]
      · next hsuccess => simp [hsuccess]

theorem verdict_errorFound_iff :
    (∃ pattern, verdict successPatterns errors content = some (.errorFound pattern)) ↔
      content ≠ [] ∧ Failed errors content ∧ ¬ Signalled successPatterns content := by
  rw [signalled_iff, failed_iff, verdict]
  split
  · next hnil => simp [hnil]
  · next hne =>
      split
      · next p hsuccess => simp [hsuccess]
      · next hsuccess =>
          rcases herror : errors.find? fun ep => contains content ep.pattern with _ | ep
          · simp [herror]
          · simp [hne, hsuccess, herror]

theorem verdict_ne_timeout :
    verdict successPatterns errors content ≠ some .timeout := by
  rw [verdict]
  split
  · simp
  · split <;> simp

end Verdict

section Reads

variable (successPatterns : List String) (errors : List ErrorPattern) (deadline : Nat)
  (log : SerialLog) {pollInterval : Nat} (polls : Polls pollInterval)

/-- An iteration that starts before the deadline can read the log and finds `P` there. -/
def ReadsInTime (P : Bytes → Prop) : Prop :=
  ∃ n, polls.check n < deadline ∧
    ∃ content, readToString (log.content (polls.read n)) = some content ∧ content ≠ [] ∧
      P content

def SignalledBefore : Prop :=
  ∃ t < deadline, ∃ content, log.content t = some content ∧ Signalled successPatterns content

def NeverFails : Prop :=
  ∀ t content, log.content t = some content → ¬ Failed errors content

/-- The first error pattern is complete before any success pattern is. -/
def FailsFirst : Prop :=
  ∃ t written rest, log.content t = some (written ++ rest) ∧ Failed errors written ∧
    ¬ Signalled successPatterns written

def FindsPattern : Prop :=
  ∃ pattern, WaitForPattern successPatterns errors deadline log polls (.patternFound pattern)

def FindsError : Prop :=
  ∃ pattern, WaitForPattern successPatterns errors deadline log polls (.errorFound pattern)

/-- A signal in time is not missed, as long as there is no error. -/
def MissesNoSignal : Prop :=
  SignalledBefore successPatterns deadline log → NeverFails errors log →
    FindsPattern successPatterns errors deadline log polls

variable {successPatterns errors deadline log polls}

theorem WaitForPattern.verdict {result : WaitResult} (hne : result ≠ .timeout)
    (h : WaitForPattern successPatterns errors deadline log polls result) :
    ∃ n, polls.check n < deadline ∧
      ∃ content, readToString (log.content (polls.read n)) = some content ∧
        verdict successPatterns errors content = some result := by
  rcases (waitForPattern_iff result).mp h with ⟨n, hcheck, hresult, -⟩ | ⟨htimeout, -⟩
  · exact ⟨n, hcheck, Option.bind_eq_some_iff.mp hresult⟩
  · exact absurd htimeout hne

theorem exists_first_verdict {n : Nat} {content : Bytes} {result : WaitResult}
    (hcheck : polls.check n < deadline)
    (hread : readToString (log.content (polls.read n)) = some content)
    (hverdict : verdict successPatterns errors content = some result) :
    ∃ m ≤ n, ∃ earlier first, readToString (log.content (polls.read m)) = some earlier ∧
      verdict successPatterns errors earlier = some first ∧
        WaitForPattern successPatterns errors deadline log polls first := by
  have hsome : verdictAt successPatterns errors log polls n ≠ none := by
    rw [verdictAt, hread, Option.bind_some, hverdict]
    exact Option.some_ne_none result
  have hexists : ∃ m, verdictAt successPatterns errors log polls m ≠ none := ⟨n, hsome⟩
  have hle : Nat.find hexists ≤ n := Nat.find_min' hexists hsome
  obtain ⟨first, hfirst⟩ := Option.ne_none_iff_exists'.mp (Nat.find_spec hexists)
  obtain ⟨earlier, hearlier, hresult⟩ := Option.bind_eq_some_iff.mp hfirst
  refine ⟨Nat.find hexists, hle, earlier, first, hearlier, hresult, ?_⟩
  refine waitForPattern_of_verdict ((polls.check_mono hle).trans_lt hcheck) hfirst ?_
  intro m hm
  by_contra hne
  exact Nat.find_min hexists hm hne

theorem findsPattern_iff (hclean : NeverFails errors log) :
    FindsPattern successPatterns errors deadline log polls ↔
      ReadsInTime deadline log polls (Signalled successPatterns) := by
  constructor
  · rintro ⟨pattern, hwait⟩
    obtain ⟨n, hcheck, content, hread, hverdict⟩ := hwait.verdict (by simp)
    exact ⟨n, hcheck, content, hread, verdict_patternFound_iff.mp ⟨pattern, hverdict⟩⟩
  · rintro ⟨n, hcheck, content, hread, hsignalled⟩
    obtain ⟨pattern, hverdict⟩ := verdict_patternFound_iff.mpr hsignalled
    obtain ⟨m, -, earlier, first, hearlier, hfirst, hwait⟩ :=
      exists_first_verdict hcheck hread hverdict
    cases first with
    | patternFound p => exact ⟨p, hwait⟩
    | errorFound p =>
        obtain ⟨-, hfailed, -⟩ := verdict_errorFound_iff.mp ⟨p, hfirst⟩
        exact absurd hfailed (hclean _ _ (readToString_eq_some hearlier))
    | timeout => exact absurd hfirst verdict_ne_timeout

theorem findsError_iff :
    FindsError successPatterns errors deadline log polls ↔
      ReadsInTime deadline log polls fun content =>
        Failed errors content ∧ ¬ Signalled successPatterns content := by
  constructor
  · rintro ⟨pattern, hwait⟩
    obtain ⟨n, hcheck, content, hread, hverdict⟩ := hwait.verdict (by simp)
    exact ⟨n, hcheck, content, hread, verdict_errorFound_iff.mp ⟨pattern, hverdict⟩⟩
  · rintro ⟨n, hcheck, content, hread, hfailed⟩
    obtain ⟨pattern, hverdict⟩ := verdict_errorFound_iff.mpr hfailed
    obtain ⟨m, hle, earlier, first, hearlier, hfirst, hwait⟩ :=
      exists_first_verdict hcheck hread hverdict
    cases first with
    | patternFound p =>
        obtain ⟨-, hsignalled⟩ := verdict_patternFound_iff.mp ⟨p, hfirst⟩
        obtain ⟨more, hmore, hpre⟩ :=
          log.grows (polls.read_mono hle) (readToString_eq_some hearlier)
        rw [readToString_eq_some hread] at hmore
        rw [← Option.some.inj hmore] at hpre
        exact absurd (hsignalled.mono hpre) hfailed.2.2
    | errorFound p => exact ⟨p, hwait⟩
    | timeout => exact absurd hfirst verdict_ne_timeout

/-- No signal is missed exactly when, in a log without errors, a signal before the deadline
is also read in time: by an iteration that starts before the deadline, while the log is
UTF-8 as far as it is written. -/
theorem missesNoSignal_iff :
    MissesNoSignal successPatterns errors deadline log polls ↔
      (SignalledBefore successPatterns deadline log → NeverFails errors log →
        ReadsInTime deadline log polls (Signalled successPatterns)) :=
  forall_congr' fun _ => forall_congr' fun hclean => findsPattern_iff hclean

end Reads

section Schedules

variable (successPatterns : List String) (errors : List ErrorPattern) (deadline : Nat)
  (log : SerialLog) {pollInterval pollInterval' : Nat} (polls : Polls pollInterval)
  (polls' : Polls pollInterval')

/-- An error that is written before any success pattern is reported under both schedules,
when both read the log after both patterns are there. -/
def ReportsErrorUnderBoth : Prop :=
  let both := fun content => Signalled successPatterns content ∧ Failed errors content
  FailsFirst successPatterns errors log →
    ReadsInTime deadline log polls both → ReadsInTime deadline log polls' both →
      FindsError successPatterns errors deadline log polls ∧
        FindsError successPatterns errors deadline log polls'

/-- The error is reported under both schedules exactly when both also read the log at a
moment when the error is there and no success pattern is. -/
theorem reportsErrorUnderBoth_iff :
    ReportsErrorUnderBoth successPatterns errors deadline log polls polls' ↔
      (let both := fun content => Signalled successPatterns content ∧ Failed errors content
       let between := fun content => Failed errors content ∧ ¬ Signalled successPatterns content
       FailsFirst successPatterns errors log →
        ReadsInTime deadline log polls both → ReadsInTime deadline log polls' both →
          ReadsInTime deadline log polls between ∧ ReadsInTime deadline log polls' between) := by
  refine forall_congr' fun _ => forall_congr' fun _ => forall_congr' fun _ => ?_
  exact and_congr findsError_iff findsError_iff

end Schedules

/-- A schedule that reads the log every `k + 1` units of time. -/
def everyPoll (k : Nat) : Polls (k + 1) where
  check n := n * (k + 1)
  read n := n * (k + 1)
  check_le_read _ := le_rfl
  sleep n := by rw [Nat.succ_mul]
  progress t := ⟨t, Nat.le_mul_of_pos_right t (Nat.succ_pos k)⟩

theorem takeWhile_prefix_takeWhile {α : Type*} {p q : α → Bool} (h : ∀ a, p a = true → q a = true)
    (l : List α) : l.takeWhile p <+: l.takeWhile q := by
  induction l with
  | nil => exact List.nil_prefix
  | cons a l ih =>
      by_cases ha : p a = true
      · rw [List.takeWhile_cons_of_pos ha, List.takeWhile_cons_of_pos (h a ha)]
        exact List.cons_prefix_cons.mpr ⟨rfl, ih⟩
      · rw [List.takeWhile_cons_of_neg ha]
        exact List.nil_prefix

/-- A log of writes, earliest first. -/
def logOf (writes : List (Nat × Bytes)) : SerialLog where
  content t := some ((writes.takeWhile (·.1 ≤ t)).flatMap (·.2))
  grows := by
    rintro t u bytes htu ⟨⟩
    refine ⟨_, rfl, List.IsPrefix.flatMap ?_ _⟩
    refine takeWhile_prefix_takeWhile (fun write hwrite => ?_) writes
    rw [decide_eq_true_eq] at hwrite ⊢
    exact hwrite.trans htu

theorem neverFails_logOf {errors : List ErrorPattern} {writes : List (Nat × Bytes)}
    (h : ∀ ep ∈ errors, contains (writes.flatMap (·.2)) ep.pattern = false) :
    NeverFails errors (logOf writes) := by
  rintro t content ⟨⟩ ⟨ep, hmem, hcontains⟩
  have hpre : (writes.takeWhile (·.1 ≤ t)).flatMap (·.2) <+: writes.flatMap (·.2) :=
    (List.takeWhile_prefix _).flatMap _
  have habsent := h ep hmem
  rw [contains_mono hpre hcontains] at habsent
  cases habsent

/-- A byte that is no UTF-8 hides every later signal, and a signal that is written after
the last read is not looked for again, although the deadline has not passed. -/
theorem boot_signal_missed :
    let success := ["ZEN_BOOT_OK", "login:"]
    ¬ MissesNoSignal success errorPatterns 10
        (logOf [(0, [0xff]), (1, utf8 "ZEN_BOOT_OK")]) (everyPoll 0) ∧
      ¬ MissesNoSignal success errorPatterns 10 (logOf [(9, utf8 "ZEN_BOOT_OK")])
        (everyPoll 1) := by
  intro success
  constructor
  · intro hmisses
    have hsignal : SignalledBefore success 10
        (logOf [(0, [0xff]), (1, utf8 "ZEN_BOOT_OK")]) :=
      ⟨1, by decide, _, rfl, "ZEN_BOOT_OK", by decide, by decide⟩
    obtain ⟨pattern, hfound⟩ := hmisses hsignal (neverFails_logOf (by decide +kernel))
    have htimeout : WaitForPattern success errorPatterns 10
        (logOf [(0, [0xff]), (1, utf8 "ZEN_BOOT_OK")]) (everyPoll 0) .timeout :=
      ⟨11, by decide +kernel⟩
    cases hfound.unique htimeout
  · intro hmisses
    have hsignal : SignalledBefore success 10 (logOf [(9, utf8 "ZEN_BOOT_OK")]) :=
      ⟨9, by decide, _, rfl, "ZEN_BOOT_OK", by decide, by decide⟩
    obtain ⟨pattern, hfound⟩ := hmisses hsignal (neverFails_logOf (by decide +kernel))
    have htimeout : WaitForPattern success errorPatterns 10 (logOf [(9, utf8 "ZEN_BOOT_OK")])
        (everyPoll 1) .timeout :=
      ⟨6, by decide +kernel⟩
    cases hfound.unique htimeout

/-- A crash that is followed by a login prompt between two reads passes for a boot. -/
theorem crash_before_login_missed :
    ¬ ReportsErrorUnderBoth ["ZEN_BOOT_OK", "login:"] errorPatterns 10
      (logOf [(1, utf8 "Kernel panic\n"), (2, utf8 "login:")]) (everyPoll 0) (everyPoll 1) := by
  intro hboth
  have hcrash : ErrorPattern.mk "Kernel panic" "kernel_panic" ∈ errorPatterns := by
    simp [errorPatterns]
  have hfirst : FailsFirst ["ZEN_BOOT_OK", "login:"] errorPatterns
      (logOf [(1, utf8 "Kernel panic\n"), (2, utf8 "login:")]) := by
    refine ⟨2, utf8 "Kernel panic\n", utf8 "login:", by decide +kernel, ?_, ?_⟩
    · exact ⟨_, hcrash, by decide +kernel⟩
    · rw [Signalled]
      decide +kernel
  have hread : ∀ k n, (everyPoll k).check n = 2 → ReadsInTime 10
      (logOf [(1, utf8 "Kernel panic\n"), (2, utf8 "login:")]) (everyPoll k)
      fun content => Signalled ["ZEN_BOOT_OK", "login:"] content ∧
        Failed errorPatterns content := by
    intro k n hn
    refine ⟨n, by rw [hn]; decide, utf8 "Kernel panic\n" ++ utf8 "login:", ?_, by decide,
      ⟨"login:", by decide, by decide +kernel⟩, _, hcrash, by decide +kernel⟩
    rw [show (everyPoll k).read n = 2 from hn]
    decide +kernel
  obtain ⟨-, pattern, herror⟩ := hboth hfirst (hread 0 2 rfl) (hread 1 1 rfl)
  have hlogin : WaitForPattern ["ZEN_BOOT_OK", "login:"] errorPatterns 10
      (logOf [(1, utf8 "Kernel panic\n"), (2, utf8 "login:")]) (everyPoll 1)
      (.patternFound "login:") :=
    ⟨2, by decide +kernel⟩
  cases herror.unique hlogin

end ZenOS.ZenTest
