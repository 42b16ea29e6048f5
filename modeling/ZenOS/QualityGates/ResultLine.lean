import ZenOS.Library.Json
import ZenOS.Library.Stdio
import ZenOS.QualityGates.Script

/-!
The line of text that `record_result` appends for a gate, and what a reader of JSON makes
of it.
-/

namespace ZenOS.QualityGates

open ZenOS.Library.Json ZenOS.Library.ShellText

/-- The arguments of `record_result`.  Variables of the shell have no NUL. -/
structure ResultCall where
  gate : List Char
  status : GateStatus
  command : List Char
  exitCode : Option Nat
  logSnippet : List Char
  elapsedMs : Int
  noNul : ∀ c ∈ command ++ logSnippet, c.toNat ≠ 0

def statusText : GateStatus → List Char
  | .pass => "pass".toList
  | .fail => "fail".toList
  | .skip => "skip".toList

def exitCodeText : Option Nat → List Char
  | some n => Nat.toDigits 10 n
  | none => "null".toList

def intText : Int → List Char
  | .ofNat n => Nat.toDigits 10 n
  | .negSucc n => '-' :: Nat.toDigits 10 (n + 1)

/-- The lines that `sed` sees: a line break at the end begins no further one. -/
def sedLines (text : List Char) : List (List Char) :=
  let lines := text.splitOn '\n'
  if lines.getLast? = some [] then lines.dropLast else lines

/-- `sed` puts `\n` at the end of every line, and `tr` joins them. -/
def escapedLog (logSnippet : List Char) : List Char :=
  substituted ((sedLines logSnippet).flatMap fun line => escape line ++ ['\\', 'n'])

def escapedCmd (command : List Char) : List Char :=
  substituted (escape command)

/-- The line from the quote that closes the id of the gate. -/
def lineTail (r : ResultCall) : List Char :=
  '"' :: (",\"status\":\"".toList ++ (statusText r.status ++
    '"' :: (",\"command\":\"".toList ++ (escapedCmd r.command ++
      '"' :: (",\"exit_code\":".toList ++ (exitCodeText r.exitCode ++
        ',' :: ("\"log_snippet\":\"".toList ++ (escapedLog r.logSnippet ++
          '"' :: (",\"elapsed_ms\":".toList ++ (intText r.elapsedMs ++ ['\x7d']))))))))))

/-- The `printf` of `record_result`. -/
def resultLine (r : ResultCall) : List Char :=
  "\x7b\"gate\":\"".toList ++ (r.gate ++ lineTail r)

def key (name : String) : List Nat :=
  codes name.toList

def exitCodeValue : Option Nat → Value
  | some n => .int n
  | none => .null

/-- The line is an object with the values that were recorded. -/
structure Decodes (r : ResultCall) (members : List (List Nat × Value)) : Prop where
  parsed : parse (resultLine r) = some (.obj members)
  gate : lookup members (key "gate") = some (.str (codes r.gate))
  status : lookup members (key "status") = some (.str (codes (statusText r.status)))
  command : lookup members (key "command") = some (.str (codes r.command))
  exitCode : lookup members (key "exit_code") = some (exitCodeValue r.exitCode)
  logSnippet : lookup members (key "log_snippet") = some (.str (codes r.logSnippet))

/-- The id of the gate has neither quotes, backslashes nor control characters, the command
no control characters, and the log only line breaks, of which one is at its end. -/
structure Legible (r : ResultCall) : Prop where
  gate : ∀ c ∈ r.gate, isPlain c = true
  command : ∀ c ∈ r.command, isControl c = false
  logSnippet : ∀ c ∈ r.logSnippet, c = '\n' ∨ isControl c = false
  closed : ∀ c ∈ r.logSnippet.getLast?, c = '\n'

section SedLines

theorem sedLines_line {line : List Char} (hline : '\n' ∉ line) (rest : List Char) :
    sedLines (line ++ '\n' :: rest) = line :: sedLines rest := by
  have hne : rest.splitOn '\n' ≠ [] := List.splitOn_ne_nil '\n' rest
  have hsplit : (line ++ '\n' :: rest).splitOn '\n' = line :: rest.splitOn '\n' := by
    rw [List.splitOn_append_cons_self, List.splitOn_eq_singleton hline, List.singleton_append]
  rw [sedLines, sedLines, hsplit]
  simp only [List.getLast?_cons_of_ne_nil hne]
  split
  · exact List.dropLast_cons_of_ne_nil hne
  · rfl

theorem sedLines_last {line : List Char} (hline : '\n' ∉ line) :
    sedLines line = if line = [] then [] else [line] := by
  rw [sedLines, List.splitOn_eq_singleton hline]
  by_cases hnil : line = []
  · simp [hnil]
  · simp [hnil]

theorem sedLines_induction {P : List Char → Prop} (hlast : ∀ line, '\n' ∉ line → P line)
    (hline : ∀ line rest, '\n' ∉ line → P rest → P (line ++ '\n' :: rest)) (text : List Char) :
    P text := by
  induction h : text.length using Nat.strongRecOn generalizing text with
  | _ n ih =>
      rcases Library.Stdio.line_cases '\n' text with hnone | ⟨line, rest, hnone, rfl⟩
      · exact hlast text hnone
      · refine hline line rest hnone (ih rest.length ?_ rest rfl)
        simp only [List.length_append, List.length_cons] at h
        omega

theorem of_mem_sedLines (text : List Char) :
    ∀ line ∈ sedLines text, '\n' ∉ line ∧ line ⊆ text := by
  induction text using sedLines_induction with
  | hlast line hnone =>
      intro line' hline'
      rw [sedLines_last hnone] at hline'
      split at hline'
      · cases hline'
      · cases List.mem_singleton.mp hline'
        exact ⟨hnone, List.Subset.refl _⟩
  | hline line rest hnone ih =>
      intro line' hline'
      rw [sedLines_line hnone] at hline'
      rcases List.mem_cons.mp hline' with rfl | hline'
      · exact ⟨hnone, List.subset_append_left _ _⟩
      · obtain ⟨hnone', hsub⟩ := ih line' hline'
        exact ⟨hnone', fun c hc => List.mem_append_right _ (List.mem_cons_of_mem _ (hsub hc))⟩

end SedLines

section Fields

theorem of_mem_escape {text : List Char} {c : Char} (h : c ∈ escape text) :
    c = '\\' ∨ c ∈ text := by
  obtain ⟨d, hd, hc⟩ := List.mem_flatMap.mp h
  split at hc
  · rcases List.mem_pair.mp hc with rfl | rfl
    · exact .inl rfl
    · exact .inr hd
  · cases List.mem_singleton.mp hc
    exact .inr hd

/-- The characters of a log that `sed` has been over, in lines. -/
theorem of_mem_escapedLines {logSnippet : List Char} {c : Char}
    (h : c ∈ (sedLines logSnippet).flatMap fun line => escape line ++ ['\\', 'n']) :
    c ≠ '\n' ∧ (c = '\\' ∨ c = 'n' ∨ c ∈ logSnippet) := by
  obtain ⟨line, hline, hc⟩ := List.mem_flatMap.mp h
  obtain ⟨hnone, hsub⟩ := of_mem_sedLines logSnippet line hline
  rcases List.mem_append.mp hc with hc | hc
  · rcases of_mem_escape hc with rfl | hc
    · exact ⟨by decide, .inl rfl⟩
    · exact ⟨fun h => hnone (h ▸ hc), .inr (.inr (hsub hc))⟩
  · rcases List.mem_pair.mp hc with rfl | rfl
    · exact ⟨by decide, .inl rfl⟩
    · exact ⟨by decide, .inr (.inl rfl)⟩

theorem escapedLog_eq {logSnippet : List Char} (hnul : ∀ c ∈ logSnippet, c.toNat ≠ 0) :
    escapedLog logSnippet =
      (sedLines logSnippet).flatMap fun line => escape line ++ ['\\', 'n'] := by
  refine substituted_of_line ?_ fun h => (of_mem_escapedLines h).1 rfl
  intro c hc
  rcases (of_mem_escapedLines hc).2 with rfl | rfl | hc
  · decide
  · decide
  · exact hnul c hc

/-- A log with a line break at its end. -/
def closedLog (logSnippet : List Char) : List Char :=
  if logSnippet.getLast?.all (· == '\n') then logSnippet else logSnippet ++ ['\n']

def isForeign (c : Char) : Bool :=
  c != '\n' && isControl c

theorem any_isForeign {line : List Char} (hnone : '\n' ∉ line) :
    line.any isForeign = line.any isControl := by
  rw [Bool.eq_iff_iff, List.any_eq_true, List.any_eq_true]
  refine exists_congr fun c => and_congr_right fun hc => ?_
  have hne : (c != '\n') = true := bne_iff_ne.mpr fun h => hnone (h ▸ hc)
  rw [isForeign, hne, Bool.true_and]

theorem scan_line {line : List Char} (hnone : '\n' ∉ line) (s : List Nat) :
    scan (.str s) (escape line ++ ['\\', 'n']) =
      if line.any isForeign then none else some (.str (s ++ codes (line ++ ['\n'])), []) := by
  rw [scan_append, scan_str_escape, any_isForeign hnone]
  split
  · rfl
  · rw [Option.bind_some]
    have hstep : ∀ u, scan (.str u) ['\\', 'n'] = some (.str (u ++ [10]), []) := fun _ => rfl
    rw [hstep]
    simp [codes]

theorem scan_log (logSnippet : List Char) (s : List Nat) :
    scan (.str s) ((sedLines logSnippet).flatMap fun line => escape line ++ ['\\', 'n']) =
      if logSnippet.any isForeign then none
      else some (.str (s ++ codes (closedLog logSnippet)), []) := by
  induction logSnippet using sedLines_induction generalizing s with
  | hlast line hnone =>
      rw [sedLines_last hnone]
      by_cases hnil : line = []
      · simp [hnil, scan, closedLog, codes]
      · have hclosed : closedLog line = line ++ ['\n'] := by
          refine if_neg fun h => ?_
          rw [List.getLast?_eq_some_getLast hnil, Option.all_some, beq_iff_eq] at h
          exact hnone (h ▸ List.getLast_mem hnil)
        rw [if_neg hnil, List.flatMap_singleton, scan_line hnone, hclosed]
  | hline line rest hnone ih =>
      have hclosed : closedLog (line ++ '\n' :: rest) = line ++ ['\n'] ++ closedLog rest := by
        rcases eq_or_ne rest [] with rfl | hrest
        · simp [closedLog]
        · have hlast : (line ++ '\n' :: rest).getLast? = rest.getLast? := by
            rw [List.getLast?_append_of_ne_nil _ (List.cons_ne_nil _ _),
              List.getLast?_cons_of_ne_nil hrest]
          rw [closedLog, closedLog, hlast]
          split <;> simp
      have hany : (line ++ '\n' :: rest).any isForeign =
          (line.any isForeign || rest.any isForeign) := by
        rw [List.any_append, List.any_cons]
        rfl
      rw [sedLines_line hnone, List.flatMap_cons, scan_append, scan_line hnone, hany, hclosed]
      rcases line.any isForeign with _ | _
      · rw [if_neg Bool.false_ne_true, Option.bind_some, ih, Bool.false_or]
        split <;> simp [codes]
      · rfl

theorem escapedCmd_eq {command : List Char} (hnul : ∀ c ∈ command, c.toNat ≠ 0) :
    escapedCmd command = escape (command.rdropWhile (· == '\n')) := by
  have hfilter : (escape command).filter (·.toNat != 0) = escape command := by
    refine List.filter_eq_self.mpr fun c hc => ?_
    rcases of_mem_escape hc with rfl | hc
    · decide
    · exact bne_iff_ne.mpr (hnul c hc)
  rw [escapedCmd, substituted, hfilter]
  clear hfilter hnul
  induction command using List.reverseRecOn with
  | nil => rfl
  | append_singleton command c ih =>
      have hescape : escape (command ++ [c]) =
          escape command ++ if c = '\\' ∨ c = '"' then ['\\', c] else [c] := by
        simp [escape]
      by_cases hc : c = '\n'
      · subst hc
        rw [hescape, List.rdropWhile_concat_pos _ _ _ (by decide), if_neg (by decide),
          List.rdropWhile_concat_pos _ _ _ (by decide), ih]
      · have hkeep : ¬ (c == '\n') = true := by simpa using hc
        rw [List.rdropWhile_concat_neg (· == '\n') _ c hkeep, hescape]
        split
        · rw [← List.singleton_append, ← List.append_assoc,
            List.rdropWhile_concat_neg (· == '\n') _ c hkeep]
        · exact List.rdropWhile_concat_neg (· == '\n') _ c hkeep

end Fields

section Words

theorem scan_exitCodeText (exitCode : Option Nat) :
    scan .out (exitCodeText exitCode) = some (.word (exitCodeText exitCode), []) := by
  cases exitCode with
  | none => decide
  | some n => exact scan_word Nat.toDigits_ne_nil fun c hc => inWord_of_mem_toDigits hc

theorem word?_exitCodeText (exitCode : Option Nat) :
    word? (exitCodeText exitCode) = some (exitCodeValue exitCode) := by
  cases exitCode with
  | none => rfl
  | some n => exact word?_toDigits n

theorem scan_intText (n : Int) : scan .out (intText n) = some (.word (intText n), []) := by
  cases n with
  | ofNat n => exact scan_word Nat.toDigits_ne_nil fun c hc => inWord_of_mem_toDigits hc
  | negSucc n =>
      refine scan_word (List.cons_ne_nil _ _) fun c hc => ?_
      rcases List.mem_cons.mp hc with rfl | hc
      · decide
      · exact inWord_of_mem_toDigits hc

theorem word?_intText (n : Int) : word? (intText n) = some (.int n) := by
  cases n with
  | ofNat n => exact word?_toDigits n
  | negSucc n => exact word?_neg_toDigits (n + 1)

theorem isPlain_statusText (status : GateStatus) :
    ∀ c ∈ statusText status, isPlain c = true := by
  apply List.all_eq_true.mp
  cases status <;> decide

end Words

section Tail

variable (r : ResultCall)

/-- The command as it is recorded. -/
def recordedCommand : List Char :=
  r.command.rdropWhile (· == '\n')

/-- The members of the line behind the gate. -/
def tailTokens : List Token :=
  memberTokens (key "status") (.str (codes (statusText r.status))) ++
    (memberTokens (key "command") (.str (codes (recordedCommand r))) ++
      (memberTokens (key "exit_code") (.word (exitCodeText r.exitCode)) ++
        (memberTokens (key "log_snippet") (.str (codes (closedLog r.logSnippet))) ++
          (memberTokens (key "elapsed_ms") (.word (intText r.elapsedMs)) ++ [.punct '\x7d']))))

theorem scan_lineTail (acc : List Nat) :
    scan (.str acc) (lineTail r) =
      if (recordedCommand r).any isControl || r.logSnippet.any isForeign then none
      else some (.out, .str (combine acc) :: tailTokens r) := by
  have hcommand : ∀ c ∈ r.command, c.toNat ≠ 0 :=
    fun c hc => r.noNul c (List.mem_append_left _ hc)
  have hlog : ∀ c ∈ r.logSnippet, c.toNat ≠ 0 :=
    fun c hc => r.noNul c (List.mem_append_right _ hc)
  have hstatus : scan .out ",\"status\":\"".toList =
      some (.str [], [.punct ',', .str (key "status"), .punct ':']) := by decide
  have hcmd : scan .out ",\"command\":\"".toList =
      some (.str [], [.punct ',', .str (key "command"), .punct ':']) := by decide
  have hexit : scan .out ",\"exit_code\":".toList =
      some (.out, [.punct ',', .str (key "exit_code"), .punct ':']) := by decide
  have hsnippet : scan .out "\"log_snippet\":\"".toList =
      some (.str [], [.str (key "log_snippet"), .punct ':']) := by decide
  have helapsed : scan .out ",\"elapsed_ms\":".toList =
      some (.out, [.punct ',', .str (key "elapsed_ms"), .punct ':']) := by decide
  have hcommandScan := scan_str_escape (recordedCommand r) []
  have hlogScan := scan_log r.logSnippet []
  have hstatusScan := scan_str_plain (isPlain_statusText r.status) []
  have hcomma : isPunct ',' = true := by decide
  have hbrace : isPunct '\x7d' = true := by decide
  rw [lineTail, escapedCmd_eq hcommand, escapedLog_eq hlog, ← recordedCommand]
  rcases hcontrol : (recordedCommand r).any isControl with _ | _
  · rcases hforeign : r.logSnippet.any isForeign with _ | _
    · rw [hcontrol, if_neg Bool.false_ne_true] at hcommandScan
      rw [hforeign, if_neg Bool.false_ne_true] at hlogScan
      simp only [scan_append, hstatus, hcmd, hexit, hsnippet, helapsed, scan_closing,
        scan_word_punct hcomma, scan_word_punct hbrace, Option.bind_some, hstatusScan,
        hcommandScan, hlogScan, scan_exitCodeText, scan_intText, List.nil_append, combine_codes]
      simp [tailTokens, memberTokens, scan]
    · rw [hcontrol, if_neg Bool.false_ne_true] at hcommandScan
      rw [hforeign, if_pos rfl] at hlogScan
      simp only [scan_append, hstatus, hcmd, hexit, hsnippet, scan_closing,
        scan_word_punct hcomma, Option.bind_some, hstatusScan, hcommandScan, hlogScan,
        scan_exitCodeText, Option.bind_none, Option.map_none]
      rfl
  · rw [hcontrol, if_pos rfl] at hcommandScan
    simp only [scan_append, hstatus, hcmd, scan_closing, Option.bind_some, hstatusScan,
      hcommandScan, Option.bind_none, Option.map_none]
    rfl

def tailMembers : List (List Nat × Value) :=
  [(key "status", .str (codes (statusText r.status))),
    (key "command", .str (codes (recordedCommand r))),
    (key "exit_code", exitCodeValue r.exitCode),
    (key "log_snippet", .str (codes (closedLog r.logSnippet))),
    (key "elapsed_ms", .int r.elapsedMs)]

theorem run_tailTokens (members : List (List Nat × Value)) (k : List Nat) (v : Value)
    (stack : List Frame) :
    Parser.run ⟨.obj members k :: stack, .more v⟩ (tailTokens r) =
      some ⟨stack, .more (.obj (members ++ (k, v) :: tailMembers r))⟩ := by
  have hclose : ∀ members k v, Parser.run ⟨.obj members k :: stack, .more v⟩ [.punct '\x7d'] =
      some ⟨stack, .more (.obj (members ++ [(k, v)]))⟩ := fun _ _ _ => rfl
  have hexit := (scalar?_word _).trans (word?_exitCodeText r.exitCode)
  have helapsed := (scalar?_word _).trans (word?_intText r.elapsedMs)
  rw [tailTokens, run_member (scalar?_str _), run_member (scalar?_str _), run_member hexit,
    run_member (scalar?_str _), run_member helapsed, hclose]
  simp [tailMembers]

theorem resultLine_eq :
    resultLine r = "\x7b\"gate\":\"".toList ++ (r.gate ++ lineTail r) :=
  rfl

theorem scan_lineHead : scan .out "\x7b\"gate\":\"".toList =
    some (.str [], [.punct '\x7b', .str (key "gate"), .punct ':']) := by
  decide

theorem parse_resultLine (hgate : ∀ c ∈ r.gate, isPlain c = true)
    (hcommand : (recordedCommand r).any isControl = false)
    (hlog : r.logSnippet.any isForeign = false) :
    parse (resultLine r) =
      some (.obj ((key "gate", .str (codes r.gate)) :: tailMembers r)) := by
  have hscan : scan .out (resultLine r) = some (.out,
      .punct '\x7b' :: .str (key "gate") :: .punct ':' :: .str (codes r.gate) ::
        tailTokens r) := by
    have hgateScan := scan_str_plain hgate []
    have htail := scan_lineTail r ([] ++ codes r.gate)
    rw [hcommand, hlog, Bool.or_false, if_neg Bool.false_ne_true] at htail
    rw [resultLine_eq, scan_append, scan_lineHead, Option.bind_some, scan_append, hgateScan,
      Option.bind_some, htail, List.nil_append, combine_codes]
    simp only [Option.map_some, List.nil_append, List.cons_append]
  have hrun : Parser.start.run (.punct '\x7b' :: .str (key "gate") :: .punct ':' ::
      .str (codes r.gate) :: tailTokens r) =
        some ⟨[], .more (.obj ((key "gate", .str (codes r.gate)) :: tailMembers r))⟩ := by
    rw [run_first_member (scalar?_str _), run_tailTokens, List.nil_append]
  rw [parse, tokens, hscan, Option.bind_some]
  simp only [Mode.finish, Option.map_some, List.append_nil, Option.bind_some, hrun]
  rfl

theorem scan_lineTail_str_word {m m' : Mode} {ts : List Token} (hm : ∀ s, m ≠ .str s)
    (h : scan m (lineTail r) = some (m', ts)) :
    ∃ before u w rest, ts = before ++ .str u :: .word w :: rest := by
  have hstatus : ",\"status\":\"".toList = ',' :: '"' :: ("status\"".toList ++ ":\"".toList) := by
    decide
  have hword : scan .out "status\"".toList = some (.str [], [.word "status".toList]) := by decide
  have hcomma : scan (.str []) (',' :: '"' :: "status\"".toList) =
      some (.str [], [.str [44], .word "status".toList]) := by decide
  have hsplit : ∀ rest, '"' :: (",\"status\":\"".toList ++ rest) =
      ('"' :: ',' :: '"' :: "status\"".toList) ++ (":\"".toList ++ rest) := by
    intro rest
    rw [hstatus, List.cons_append, List.cons_append, List.append_assoc, List.cons_append,
      List.cons_append, List.cons_append]
  rw [lineTail, hsplit] at h
  obtain ⟨m₁, ts₁, ts₂, hfirst, -, rfl⟩ := scan_append_eq_some h
  cases m with
  | out =>
      have hout : scan .out ('"' :: ',' :: '"' :: "status\"".toList) =
          some (.str [], [.str [44], .word "status".toList]) := by decide
      rw [hout] at hfirst
      obtain ⟨rfl, rfl⟩ := Prod.mk.inj (Option.some.inj hfirst)
      exact ⟨[], _, _, ts₂, rfl⟩
  | word w =>
      rw [scan_word_quote, hcomma] at hfirst
      obtain ⟨rfl, rfl⟩ := Prod.mk.inj (Option.some.inj hfirst)
      exact ⟨[.word w], _, _, ts₂, rfl⟩
  | str s => exact absurd rfl (hm s)
  | escape s =>
      have hquote : scan (.escape s) ['"', ','] = some (.str (s ++ [34, 44]), []) := by
        simp [scan, step, escaped?, isControl]
      rw [← List.singleton_append, ← List.singleton_append (x := ','), ← List.append_assoc,
        List.singleton_append, scan_append, hquote, Option.bind_some, scan_closing, hword]
        at hfirst
      obtain ⟨rfl, rfl⟩ := Prod.mk.inj (Option.some.inj hfirst)
      exact ⟨[], _, _, ts₂, rfl⟩
  | unicode s k n =>
      have hnone : Library.ShellText.digitValue '"' = none := by decide
      rw [scan, step, hnone] at hfirst
      cases hfirst

theorem ne_gate_of_mem_tailMembers : ∀ p ∈ tailMembers r, p.1 ≠ key "gate" := by
  have hkeys : (tailMembers r).map Prod.fst =
      ["status", "command", "exit_code", "log_snippet", "elapsed_ms"].map key := rfl
  have hne : ∀ k ∈ ["status", "command", "exit_code", "log_snippet", "elapsed_ms"].map key,
      k ≠ key "gate" := by decide
  intro p hp
  exact hne _ (hkeys ▸ List.mem_map_of_mem hp)

theorem plain_of_parse {members : List (List Nat × Value)}
    (hparse : parse (resultLine r) = some (.obj members))
    (hgate : lookup members (key "gate") = some (.str (codes r.gate))) :
    ∀ c ∈ r.gate, isPlain c = true := by
  obtain ⟨ts, htokens, hvalue⟩ := Option.bind_eq_some_iff.mp hparse
  obtain ⟨p, hrun, hresult⟩ := Option.bind_eq_some_iff.mp hvalue
  obtain ⟨⟨m', ts'⟩, hscan, hfinish⟩ := Option.bind_eq_some_iff.mp htokens
  obtain ⟨last, hlast, rfl⟩ := Option.map_eq_some_iff.mp hfinish
  rw [resultLine_eq] at hscan
  obtain ⟨m₀, ts₀, ts₁, hhead, hscan₁, rfl⟩ := scan_append_eq_some hscan
  rw [scan_lineHead] at hhead
  obtain ⟨rfl, rfl⟩ := Prod.mk.inj (Option.some.inj hhead)
  obtain ⟨m, tsGate, tsTail, hscanGate, hscanTail, rfl⟩ := scan_append_eq_some hscan₁
  by_cases hm : ∀ s, m ≠ .str s
  · obtain ⟨before, u, w, rest, rfl⟩ := scan_lineTail_str_word r hm hscanTail
    have hnone := Parser.run_append_str_word .start
      ([.punct '\x7b', .str (key "gate"), .punct ':'] ++ tsGate ++ before) (rest ++ last) u w
    simp only [List.append_assoc, List.cons_append, List.nil_append] at hnone hrun
    rw [hnone] at hrun
    cases hrun
  · push Not at hm
    obtain ⟨acc, rfl⟩ := hm
    rw [scan_lineTail] at hscanTail
    split at hscanTail
    · cases hscanTail
    obtain ⟨rfl, rfl⟩ := Prod.mk.inj (Option.some.inj hscanTail)
    cases hlast
    -- the reader in front of the tail has an open object with the id of the gate
    have hsplit : [.punct '\x7b', .str (key "gate"), .punct ':'] ++
        (tsGate ++ .str (combine acc) :: tailTokens r) ++ [] =
          ([.punct '\x7b', .str (key "gate"), .punct ':'] ++ tsGate ++ [.str (combine acc)]) ++
            tailTokens r := by
      simp
    rw [hsplit, Parser.run_append] at hrun
    obtain ⟨q, hq, hrest⟩ := Option.bind_eq_some_iff.mp hrun
    have hrest' := hrest
    rw [tailTokens] at hrest'
    obtain ⟨before, k, v, stack, rfl⟩ := of_run_member hrest'
    rw [run_tailTokens, Option.some.injEq] at hrest
    have hdrawn := Parser.start_drawn.run hq
    have hbefore : MembersDrawn _ (before ++ [(k, v)]) :=
      MembersDrawn.concat (hdrawn.stack _ List.mem_cons_self) hdrawn.expect
    have hmembers : members = (before ++ [(k, v)]) ++ tailMembers r := by
      rw [← hrest] at hresult
      rcases stack with _ | ⟨f, stack⟩
      · cases hresult
        simp
      · cases hresult
    rw [hmembers, lookup_append_of_ne (ne_gate_of_mem_tailMembers r)] at hgate
    have htoken := hbefore _ _ (mem_of_lookup hgate)
    simp only [List.nil_append, List.mem_append, List.mem_cons, List.not_mem_nil, or_false]
      at htoken
    have hheld := scan_held hscanGate
    rcases htoken with ((htoken | htoken | htoken) | htoken) | htoken
    · cases htoken
    · have hname : r.gate = "gate".toList := codes_injective (Token.str.inj htoken)
      rw [hname]
      exact List.all_eq_true.mp (by decide)
    · cases htoken
    · have hshort := hheld.2 _ htoken
      simp [Mode.held, codes] at hshort
    · have hacc : codes r.gate = combine acc := Token.str.inj htoken
      have hlength := length_combine_le acc
      rw [← hacc, codes, List.length_map] at hlength
      exact plain_of_scan_str hscanGate (by simpa using hlength)

theorem controls_of_parse {v : Value} (hparse : parse (resultLine r) = some v)
    (hgate : ∀ c ∈ r.gate, isPlain c = true) :
    (recordedCommand r).any isControl = false ∧ r.logSnippet.any isForeign = false := by
  obtain ⟨ts, htokens, -⟩ := Option.bind_eq_some_iff.mp hparse
  obtain ⟨⟨m, ts⟩, hscan, -⟩ := Option.bind_eq_some_iff.mp htokens
  rw [resultLine_eq] at hscan
  obtain ⟨m₀, ts₀, ts₁, hhead, hscan₁, -⟩ := scan_append_eq_some hscan
  rw [scan_lineHead] at hhead
  obtain ⟨rfl, rfl⟩ := Prod.mk.inj (Option.some.inj hhead)
  rw [scan_append, scan_str_plain hgate, Option.bind_some, scan_lineTail] at hscan₁
  split at hscan₁
  · cases hscan₁
  · next hnone => simpa using hnone

theorem recordedCommand_eq_iff :
    ((recordedCommand r).any isControl = false ∧ recordedCommand r = r.command) ↔
      ∀ c ∈ r.command, isControl c = false := by
  constructor
  · rintro ⟨hnone, heq⟩
    rw [heq] at hnone
    simpa using hnone
  · intro hnone
    have heq : recordedCommand r = r.command := by
      rw [recordedCommand, List.rdropWhile_eq_self_iff]
      intro hne hlast
      have hcontrol := hnone _ (List.getLast_mem hne)
      rw [eq_of_beq hlast] at hcontrol
      cases hcontrol
    refine ⟨?_, heq⟩
    rw [heq]
    simpa using hnone

theorem closedLog_eq_iff (logSnippet : List Char) :
    closedLog logSnippet = logSnippet ↔ ∀ c ∈ logSnippet.getLast?, c = '\n' := by
  have hall : logSnippet.getLast?.all (· == '\n') = true ↔
      ∀ c ∈ logSnippet.getLast?, c = '\n' := by
    rw [Option.all_eq_true]
    exact forall_congr' fun c => imp_congr_right fun _ => beq_iff_eq
  rw [closedLog]
  split
  · next hclosed => exact iff_of_true rfl (hall.mp hclosed)
  · next hopen =>
      refine iff_of_false ?_ fun h => hopen (hall.mpr h)
      intro heq
      have hlength := congrArg List.length heq
      simp at hlength

theorem decodes_iff : (∃ members, Decodes r members) ↔ Legible r := by
  constructor
  · rintro ⟨members, h⟩
    have hgate := plain_of_parse r h.parsed h.gate
    obtain ⟨hcontrol, hforeign⟩ := controls_of_parse r h.parsed hgate
    have hparse := (parse_resultLine r hgate hcontrol hforeign).symm.trans h.parsed
    rw [Option.some.injEq, Value.obj.injEq] at hparse
    have hcommand := h.command
    have hlog := h.logSnippet
    rw [← hparse] at hcommand hlog
    have hcommandEq : recordedCommand r = r.command :=
      codes_injective (Value.str.inj (Option.some.inj hcommand))
    have hlogEq : closedLog r.logSnippet = r.logSnippet :=
      codes_injective (Value.str.inj (Option.some.inj hlog))
    refine ⟨hgate, (recordedCommand_eq_iff r).mp ⟨hcontrol, hcommandEq⟩, ?_,
      (closedLog_eq_iff r.logSnippet).mp hlogEq⟩
    intro c hc
    have hc := List.any_eq_false.mp hforeign c hc
    by_cases hne : c = '\n'
    · exact .inl hne
    · exact .inr (by simpa [isForeign, hne] using hc)
  · intro h
    obtain ⟨hcontrol, hcommandEq⟩ := (recordedCommand_eq_iff r).mpr h.command
    have hlogEq := (closedLog_eq_iff r.logSnippet).mpr h.closed
    have hforeign : r.logSnippet.any isForeign = false := by
      rw [List.any_eq_false]
      intro c hc
      rcases h.logSnippet c hc with rfl | hnone
      · decide
      · simp [isForeign, hnone]
    have hcommand : Value.str (codes (recordedCommand r)) = .str (codes r.command) := by
      rw [hcommandEq]
    have hlog : Value.str (codes (closedLog r.logSnippet)) = .str (codes r.logSnippet) := by
      rw [hlogEq]
    exact ⟨_, parse_resultLine r h.gate hcontrol hforeign, rfl, rfl, congrArg some hcommand, rfl,
      congrArg some hlog⟩

end Tail

end ZenOS.QualityGates
