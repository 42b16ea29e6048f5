import ZenOS.Library.JsonLiterals
import ZenOS.Library.Utf8
import ZenOS.QualityGates.ResultLine
import ZenOS.ZenTest.AgentLoop
import Mathlib.Tactic.IntervalCases

/-!
The way of a command's output to the host: from the output file through the shell, `jq` and
`printf` into a line of the port, and from the line through `serde_json` into the result.
-/

namespace ZenOS.ZenTest.AgentOutput

open String (utf8EncodeChar)
open ZenOS.Library.Json ZenOS.Library.ShellText ZenOS.Library.Utf8
open ZenOS.QualityGates (intText key scan_intText word?_intText)

/-- A text that a command has written: valid UTF-8 without NUL, and not truncated. -/
structure Output where
  text : String
  noNul : ∀ c ∈ text.toList, c.toNat ≠ 0
  fits : text.toUTF8.size ≤ 65536

def Output.bytes (output : Output) : List UInt8 :=
  output.text.toUTF8.data.toList

def Output.EndsInNewline (output : Output) : Prop :=
  output.text.toList.getLast? = some '\n'

section Guest

variable (jqRs : List UInt8 → List Char)

/-- `$(printf '%s' "$stdout" | jq -Rs .)`, with `stdout` from the output file. -/
def outputJson (file : List UInt8) : List Char :=
  substituted (jqRs (kept file))

def okObject (id ec stdoutJson stderrJson : List Char) : List Char :=
  "\x7b\"id\":".toList ++ (intText (printfD id).1 ++
    (",\"status\":\"ok\",\"exit_code\":".toList ++ (intText (printfD ec).1 ++
      (",\"stdout\":".toList ++ (stdoutJson ++ (",\"stderr\":".toList ++ (stderrJson ++
        ['\x7d'])))))))

/-- What the agent writes to the port at the end of a command. -/
def agentReply (id : List Char) (ec : UInt8) (outFile errFile : List UInt8) : List Char :=
  okObject id (Nat.toDigits 10 ec.toNat) (outputJson jqRs outFile) (outputJson jqRs errFile) ++
    ['\n']

end Guest

section Host

-- `serde_json::from_str`
variable (fromStr : String → Except String AgentResponse)

/-- `read_line` -/
def readLine (port : List Char) : List Char :=
  port.takeWhile (· ≠ '\n') ++ (port.dropWhile (· ≠ '\n')).take 1

/-- `guest_exec_inner` behind its request. -/
def guestExecInner (port : List Char) : Except String AgentExecResult :=
  let line := trim (.ofList (readLine port))
  match fromStr line with
  | .error e => .error ("Invalid agent response: " ++ e ++ ": " ++ line)
  | .ok resp => guestExecResult resp

end Host

section RoundTrip

variable (jqRs : List UInt8 → List Char) (fromStr : String → Except String AgentResponse)

/-- The line of a response, token by token. -/
def responseTokens (id : Nat) (exitCode : Int) (stdout stderr : List Char) : List Token :=
  .punct '\x7b' :: .str (key "id") :: .punct ':' :: .word (intText id) ::
    (memberTokens (key "status") (.str (key "ok")) ++
      (memberTokens (key "exit_code") (.word (intText exitCode)) ++
        (memberTokens (key "stdout") (.str (codes stdout)) ++
          (memberTokens (key "stderr") (.str (codes stderr)) ++ [.punct '\x7d']))))

/-- `jq` prints a text as a literal with a line break, and `serde_json` reads the object with
the members of a response. -/
structure Reads : Prop where
  jqRs : ∀ {text : List Char}, (∀ c ∈ text, c.toNat ≠ 0) →
    ∃ raw, IsLiteral raw text ∧
      jqRs (text.flatMap utf8EncodeChar) = '"' :: (raw ++ ['"']) ++ ['\n']
  fromStr : ∀ {line : String} {id : Nat} {exitCode : Int} {stdout stderr : List Char},
    id < 2 ^ 64 → -2 ^ 31 ≤ exitCode → exitCode < 2 ^ 31 →
    tokens line.toList = some (responseTokens id exitCode stdout stderr) →
    fromStr line = .ok { id, status := "ok", exitCode, stdout := .ofList stdout
                         stderr := .ofList stderr, message := "" }

/-- The result of a call has the outputs of its command, whatever else comes on the port. -/
def RoundTrips (id : UInt64) (ec : UInt8) (stdout stderr : Output) : Prop :=
  ∀ behind, ∃ result,
    guestExecInner fromStr
        (agentReply jqRs (Nat.toDigits 10 id.toNat) ec stdout.bytes stderr.bytes ++ behind) =
      .ok result ∧
    result.stdout = stdout.text ∧ result.stderr = stderr.text

variable {jqRs} {fromStr}
variable (output stdout stderr : Output)

theorem kept_bytes :
    kept output.bytes = (substituted output.text.toList).flatMap utf8EncodeChar := by
  have htake : output.bytes.take 65536 = output.bytes :=
    List.take_of_length_le output.fits
  have hnul : output.bytes.filter (· != 0) = output.bytes := by
    refine List.filter_eq_self.mpr fun b hb => bne_iff_ne.mpr ?_
    rintro rfl
    rw [Output.bytes, toUTF8_data_toList] at hb
    have hmem := (mem_flatMap_utf8EncodeChar_iff (d := Char.ofNat 0) (by decide)).mp hb
    exact output.noNul _ hmem rfl
  have hfilter : output.text.toList.filter (·.toNat != 0) = output.text.toList :=
    List.filter_eq_self.mpr fun c hc => bne_iff_ne.mpr (output.noNul c hc)
  rw [kept, htake, hnul, Output.bytes, toUTF8_data_toList, substituted, hfilter]
  exact rdropWhile_flatMap_utf8EncodeChar (d := '\n') (by decide) _

theorem mem_of_mem_substituted {text : List Char} {c : Char} (h : c ∈ substituted text) :
    c ∈ text :=
  List.mem_of_mem_filter ((List.rdropWhile_prefix _ _).subset h)

theorem outputJson_bytes (hreads : Reads jqRs fromStr) :
    ∃ raw, IsLiteral raw (substituted output.text.toList) ∧
      outputJson jqRs output.bytes = '"' :: (raw ++ ['"']) := by
  obtain ⟨raw, hraw, hjq⟩ := hreads.jqRs fun c hc => output.noNul c (mem_of_mem_substituted hc)
  refine ⟨raw, hraw, ?_⟩
  have hcontrol : ∀ c ∈ '"' :: (raw ++ ['"']), isControl c = false := by
    intro c hc
    simp only [List.mem_cons, List.mem_append, List.not_mem_nil, or_false] at hc
    rcases hc with rfl | hc | rfl
    · decide
    · exact hraw.no_control c hc
    · decide
  rw [outputJson, kept_bytes, hjq, substituted_append_newline]
  refine substituted_of_line (fun c hc hnul => ?_) fun hnewline => ?_
  · have hc := hcontrol c hc
    rw [isControl, hnul] at hc
    cases hc
  · cases hcontrol _ hnewline

theorem scan_intText_comma (n : Int) (rest : List Char) :
    scan .out (intText n ++ ',' :: rest) =
      (scan .out rest).map fun q => (q.1, .word (intText n) :: .punct ',' :: q.2) := by
  rw [scan_append, scan_intText, Option.bind_some, scan_word_punct (by decide), Option.map_map]
  rfl

theorem printfD_number (n : Nat) :
    (printfD (Nat.toDigits 10 n)).1 = ((min (2 ^ 63 - 1) n : Nat) : Int) := by
  rw [printfD_toDigits]
  change min (2 ^ 63 - 1) (n : Int) = _
  omega

theorem tokens_okObject {id : Nat} {exitCode : Nat} {rawOut rawErr out err : List Char}
    (hout : IsLiteral rawOut out) (herr : IsLiteral rawErr err) :
    tokens (okObject (Nat.toDigits 10 id) (Nat.toDigits 10 exitCode) ('"' :: (rawOut ++ ['"']))
        ('"' :: (rawErr ++ ['"']))) =
      some (responseTokens (min (2 ^ 63 - 1) id) (min (2 ^ 63 - 1) exitCode : Nat) out err) := by
  have hid : scan .out "\x7b\"id\":".toList =
      some (.out, [.punct '\x7b', .str (key "id"), .punct ':']) := by decide
  have hstatus : scan .out "\"status\":\"ok\",\"exit_code\":".toList =
      some (.out, [.str (key "status"), .punct ':', .str (key "ok"), .punct ',',
        .str (key "exit_code"), .punct ':']) := by decide
  have hstdout : scan .out "\"stdout\":".toList =
      some (.out, [.str (key "stdout"), .punct ':']) := by decide
  have hstderr : scan .out ",\"stderr\":".toList =
      some (.out, [.punct ',', .str (key "stderr"), .punct ':']) := by decide
  have hend : scan .out ['\x7d'] = some (.out, [.punct '\x7d']) := by decide
  have hstatus' : ",\"status\":\"ok\",\"exit_code\":".toList =
      ',' :: "\"status\":\"ok\",\"exit_code\":".toList := rfl
  have hstdout' : ",\"stdout\":".toList = ',' :: "\"stdout\":".toList := rfl
  delta okObject
  rw [tokens, printfD_number, printfD_number, scan_append, hid, Option.bind_some,
    hstatus', List.cons_append, scan_intText_comma, scan_append, hstatus, Option.bind_some,
    hstdout', List.cons_append, scan_intText_comma, scan_append, hstdout, Option.bind_some,
    hout.scan_quoted, scan_append, hstderr, Option.bind_some, herr.scan_quoted, hend]
  rfl

/-- `trim` takes the line break off. -/
theorem trim_line {c d : Char} (hc : isWhitespace c = false) (hd : isWhitespace d = false)
    {text : List Char} (hhead : text.head? = some c) (hlast : text.getLast? = some d) :
    trim (.ofList (text ++ ['\n'])) = .ofList text := by
  have hnewline : isWhitespace '\n' = true := by decide
  obtain ⟨front, rfl⟩ := List.getLast?_eq_some_iff.mp hlast
  obtain ⟨rest, hrest⟩ := List.head?_eq_some_iff.mp hhead
  have hdrop : (front ++ [d] ++ ['\n']).dropWhile isWhitespace = front ++ [d] ++ ['\n'] := by
    rw [hrest, List.cons_append, List.dropWhile_cons_of_neg (by simp [hc])]
  rw [trim, String.toList_ofList, hdrop]
  simp [hnewline, hd]

theorem readLine_append {body : List Char} (h : '\n' ∉ body) (behind : List Char) :
    readLine (body ++ ['\n'] ++ behind) = body ++ ['\n'] := by
  rw [readLine, List.append_assoc, List.singleton_append, Library.Stdio.takeWhile_line h,
    List.dropWhile_append_of_pos (Library.Stdio.ne_newline h)]
  rfl

theorem guestExecInner_line {body : List Char} {resp : AgentResponse} (hnewline : '\n' ∉ body)
    (hhead : body.head? = some '\x7b') (hlast : body.getLast? = some '\x7d')
    (hresp : fromStr (.ofList body) = .ok resp) (behind : List Char) :
    guestExecInner fromStr (body ++ ['\n'] ++ behind) = guestExecResult resp := by
  have htrim : trim (.ofList (body ++ ['\n'])) = .ofList body :=
    trim_line (by decide) (by decide) hhead hlast
  rw [guestExecInner, readLine_append hnewline, htrim, hresp]

theorem getLast?_okObject {id ec stdoutJson stderrJson : List Char} :
    (okObject id ec stdoutJson stderrJson).getLast? = some '\x7d' := by
  delta okObject
  simp only [← List.append_assoc]
  exact List.getLast?_concat

theorem newline_notMem_okObject {id ec stdoutJson stderrJson : List Char}
    (hout : '\n' ∉ stdoutJson) (herr : '\n' ∉ stderrJson) :
    '\n' ∉ okObject id ec stdoutJson stderrJson := by
  have hnumber : ∀ n : Int, '\n' ∉ intText n := by
    intro n hn
    cases n with
    | ofNat n => cases isDigit_of_mem_toDigits hn
    | negSucc n =>
        rcases List.mem_cons.mp hn with hn | hn
        · cases hn
        · cases isDigit_of_mem_toDigits hn
  delta okObject
  simp [hout, herr, hnumber]

theorem guestExecInner_agentReply (hreads : Reads jqRs fromStr) (id : UInt64) (ec : UInt8)
    (behind : List Char) :
    guestExecInner fromStr
        (agentReply jqRs (Nat.toDigits 10 id.toNat) ec stdout.bytes stderr.bytes ++ behind) =
      .ok { exitCode := ec.toNat
            stdout := .ofList (substituted stdout.text.toList)
            stderr := .ofList (substituted stderr.text.toList) } := by
  obtain ⟨rawOut, hout, hstdout⟩ := outputJson_bytes stdout hreads
  obtain ⟨rawErr, herr, hstderr⟩ := outputJson_bytes stderr hreads
  have hline : ∀ {raw text : List Char}, IsLiteral raw text → '\n' ∉ '"' :: (raw ++ ['"']) := by
    intro raw text hraw hmem
    simp only [List.mem_cons, List.mem_append, List.not_mem_nil, or_false] at hmem
    rcases hmem with hmem | hmem | hmem
    · cases hmem
    · cases hraw.no_control _ hmem
    · cases hmem
  have hec : min (2 ^ 63 - 1) ec.toNat = ec.toNat := by
    have := ec.toNat_lt
    omega
  have hsmall := ec.toNat_lt
  have htokens : tokens (okObject (Nat.toDigits 10 id.toNat) (Nat.toDigits 10 ec.toNat)
      ('"' :: (rawOut ++ ['"'])) ('"' :: (rawErr ++ ['"']))) = some (responseTokens
        (min (2 ^ 63 - 1) id.toNat) ec.toNat (substituted stdout.text.toList)
        (substituted stderr.text.toList)) := by
    rw [tokens_okObject hout herr, hec]
  have hresponse := hreads.fromStr (by omega) (by omega) (by omega)
    (htokens.symm ▸ congrArg tokens String.toList_ofList)
  rw [agentReply, hstdout, hstderr, guestExecInner_line
    (newline_notMem_okObject (hline hout) (hline herr)) rfl getLast?_okObject hresponse]
  rfl

theorem guestExecInner_eq_answer (hreads : Reads jqRs fromStr) {decode : List UInt8 → String}
    (hdecode : ∀ text : List Char, decode (text.flatMap utf8EncodeChar) = .ofList text)
    {request : AgentRequest} (hcommand : request.command ≠ "") (id : UInt64) (ec : UInt8)
    (behind : List Char) :
    guestExecInner fromStr
        (agentReply jqRs (Nat.toDigits 10 id.toNat) ec stdout.bytes stderr.bytes ++ behind) =
      guestExecResult (agentAnswer request (Execution.outcome decode
        { exitCode := ec.toNat, stdout := stdout.bytes, stderr := stderr.bytes
          steps := .all })) := by
  rw [guestExecInner_agentReply stdout stderr hreads, Execution.outcome, kept_bytes, kept_bytes,
    hdecode, hdecode, agentAnswer, if_neg hcommand]
  rfl

theorem ofList_substituted_eq_iff :
    String.ofList (substituted output.text.toList) = output.text ↔ ¬ output.EndsInNewline := by
  have hfilter : output.text.toList.filter (·.toNat != 0) = output.text.toList :=
    List.filter_eq_self.mpr fun c hc => bne_iff_ne.mpr (output.noNul c hc)
  rw [← String.toList_inj, String.toList_ofList, substituted, hfilter,
    List.rdropWhile_eq_self_iff, Output.EndsInNewline]
  constructor
  · intro h hlast
    have hne : output.text.toList ≠ [] := by
      intro hnil
      rw [hnil] at hlast
      cases hlast
    rw [List.getLast?_eq_some_getLast hne, Option.some.injEq] at hlast
    exact h hne (beq_iff_eq.mpr hlast)
  · intro h hne hnewline
    exact h (List.getLast?_eq_some_getLast hne ▸ congrArg some (beq_iff_eq.mp hnewline))

/-- Exactly outputs that do not end in a line break come back as they were written. -/
theorem roundTrips_iff (hreads : Reads jqRs fromStr) (id : UInt64) (ec : UInt8)
    (stdout stderr : Output) :
    RoundTrips jqRs fromStr id ec stdout stderr ↔
      ¬ stdout.EndsInNewline ∧ ¬ stderr.EndsInNewline := by
  rw [← ofList_substituted_eq_iff, ← ofList_substituted_eq_iff]
  constructor
  · intro h
    obtain ⟨result, hresult, hout, herr⟩ := h []
    rw [guestExecInner_agentReply stdout stderr hreads] at hresult
    cases hresult
    exact ⟨hout, herr⟩
  · rintro ⟨hout, herr⟩ behind
    exact ⟨_, guestExecInner_agentReply stdout stderr hreads id ec behind, hout, herr⟩

end RoundTrip

section Examples

/-- A character in a string that `jq` prints. -/
def jqChar (c : Char) : List Char :=
  if c = '"' ∨ c = '\\' then ['\\', c]
  else if isControl c = false then [c]
  else if c = '\n' then ['\\', 'n']
  else if c = '\t' then ['\\', 't']
  else if c = '\r' then ['\\', 'r']
  else if c.toNat = 8 then ['\\', 'b']
  else if c.toNat = 12 then ['\\', 'f']
  else ['\\', 'u', '0', '0', (c.toNat / 16).digitChar, (c.toNat % 16).digitChar]

theorem scan_jqChar (c : Char) (u : List Nat) :
    scan (.str u) (jqChar c) = some (.str (u ++ [c.toNat]), []) := by
  by_cases hescape : c = '"' ∨ c = '\\'
  · rcases hescape with rfl | rfl <;> rfl
  rcases hcontrol : isControl c with _ | _
  · have hplain : ∀ d ∈ [c], isPlain d = true := by
      intro d hd
      rw [List.mem_singleton.mp hd, isPlain, hcontrol]
      simpa using hescape
    rw [jqChar, if_neg hescape, if_pos hcontrol, scan_str_plain hplain]
    rfl
  · have hlt : c.toNat < 32 := of_decide_eq_true hcontrol
    rw [← Char.ofNat_toNat c]
    generalize c.toNat = n at hlt
    interval_cases n <;> rfl

def exampleJqRs (file : List UInt8) : List Char :=
  '"' :: ((((String.fromUTF8? ⟨file.toArray⟩).getD "").toList.flatMap jqChar) ++ ['"']) ++ ['\n']

theorem fromUTF8?_flatMap (text : List Char) :
    String.fromUTF8? ⟨(text.flatMap utf8EncodeChar).toArray⟩ = some (.ofList text) := by
  have hbytes : (⟨(text.flatMap utf8EncodeChar).toArray⟩ : ByteArray) =
      (String.ofList text).toByteArray := by
    rw [String.toByteArray_ofList, List.utf8Encode]
    exact ByteArray.ext (by simp)
  rw [hbytes, String.fromUTF8?, dif_pos (String.ofList text).isValidUTF8]
  rfl

/-- A member of a response that is a string, or what stands for it where it is missing. -/
def stringMember (members : List (List Nat × Value)) (name : String) (absent : Option String) :
    Except String String :=
  match lookup members (key name) with
  | some (.str s) => .ok (.ofList (s.map Char.ofNat))
  | some _ => .error ("invalid type: expected a string for " ++ name)
  | none => absent.elim (.error ("missing field " ++ name)) .ok

def intMember (members : List (List Nat × Value)) (name : String) (absent : Option Int)
    (least bound : Int) : Except String Int :=
  match lookup members (key name) with
  | some (.int n) =>
      if least ≤ n ∧ n < bound then .ok n else .error ("invalid value for " ++ name)
  | some _ => .error ("invalid type: expected an integer for " ++ name)
  | none => absent.elim (.error ("missing field " ++ name)) .ok

section Members

variable {members : List (List Nat × Value)} {name : String}

theorem stringMember_of_lookup {text : List Char} (absent : Option String)
    (h : lookup members (key name) = some (.str (codes text))) :
    stringMember members name absent = .ok (.ofList text) := by
  have hcodes : (codes text).map Char.ofNat = text := by simp [codes, Function.comp_def]
  simp only [stringMember, h, hcodes]

theorem intMember_of_lookup {n least bound : Int} (absent : Option Int)
    (h : lookup members (key name) = some (.int n)) (hleast : least ≤ n) (hbound : n < bound) :
    intMember members name absent least bound = .ok n := by
  simp only [intMember, h]
  exact if_pos ⟨hleast, hbound⟩

end Members

def responseOf (members : List (List Nat × Value)) : Except String AgentResponse := do
  let id ← intMember members "id" none 0 (2 ^ 64)
  let status ← stringMember members "status" none
  let exitCode ← intMember members "exit_code" (some 0) (-2 ^ 31) (2 ^ 31)
  let stdout ← stringMember members "stdout" (some "")
  let stderr ← stringMember members "stderr" (some "")
  let message ← stringMember members "message" (some "")
  return { id := id.toNat, status, exitCode, stdout, stderr, message }

def exampleFromStr (line : String) : Except String AgentResponse :=
  match parse line.toList with
  | some (.obj members) => responseOf members
  | _ => .error "expected value"

/-- The members of a response as the parser has them. -/
def responseMembers (id : Nat) (exitCode : Int) (stdout stderr : List Char) :
    List (List Nat × Value) :=
  [(key "id", .int id), (key "status", .str (key "ok")), (key "exit_code", .int exitCode),
    (key "stdout", .str (codes stdout)), (key "stderr", .str (codes stderr))]

theorem responseOf_responseMembers {id : Nat} {exitCode : Int} (stdout stderr : List Char)
    (hid : (id : Int) < 2 ^ 64) (hleast : -2 ^ 31 ≤ exitCode) (hbound : exitCode < 2 ^ 31) :
    responseOf (responseMembers id exitCode stdout stderr) =
      .ok { id, status := "ok", exitCode, stdout := .ofList stdout, stderr := .ofList stderr
            message := "" } := by
  have hidMember : intMember (responseMembers id exitCode stdout stderr) "id" none 0 (2 ^ 64) =
      .ok (id : Int) := intMember_of_lookup none rfl (Int.natCast_nonneg id) hid
  have hstatus : stringMember (responseMembers id exitCode stdout stderr) "status" none =
      .ok "ok" := rfl
  have hexit : intMember (responseMembers id exitCode stdout stderr) "exit_code" (some 0)
      (-2 ^ 31) (2 ^ 31) = .ok exitCode := intMember_of_lookup (some 0) rfl hleast hbound
  have hstdout : stringMember (responseMembers id exitCode stdout stderr) "stdout" (some "") =
      .ok (.ofList stdout) := stringMember_of_lookup (some "") rfl
  have hstderr : stringMember (responseMembers id exitCode stdout stderr) "stderr" (some "") =
      .ok (.ofList stderr) := stringMember_of_lookup (some "") rfl
  have hmessage : stringMember (responseMembers id exitCode stdout stderr) "message" (some "") =
      .ok "" := rfl
  rw [responseOf, hidMember, hstatus, hexit, hstdout, hstderr, hmessage]
  rfl

theorem run_responseTokens (id : Nat) (exitCode : Int) (stdout stderr : List Char) :
    Parser.start.run (responseTokens id exitCode stdout stderr) =
      some ⟨[], .more (.obj (responseMembers id exitCode stdout stderr))⟩ := by
  have hid := (scalar?_word _).trans (word?_intText id)
  have hexit := (scalar?_word _).trans (word?_intText exitCode)
  rw [responseTokens, run_first_member hid, run_member (scalar?_str _), run_member hexit,
    run_member (scalar?_str _), run_member (scalar?_str _)]
  rfl

theorem exampleReads : Reads exampleJqRs exampleFromStr := by
  constructor
  · intro text _
    refine ⟨text.flatMap jqChar, isLiteral_flatMap scan_jqChar text, ?_⟩
    rw [exampleJqRs, fromUTF8?_flatMap, Option.getD_some, String.toList_ofList]
  · intro line id exitCode stdout stderr hid hleast hbound htokens
    have hparse : parse line.toList =
        some (.obj (responseMembers id exitCode stdout stderr)) := by
      rw [parse, htokens, Option.bind_some, run_responseTokens]
      rfl
    rw [exampleFromStr, hparse]
    exact responseOf_responseMembers stdout stderr (by omega) hleast hbound

def active : Output where
  text := "active"
  noNul := toNat_ne_zero_of_all (by decide)
  fits := by decide

/-- What `echo active` writes. -/
def activeLine : Output where
  text := "active\n"
  noNul := toNat_ne_zero_of_all (by decide)
  fits := by decide

def noOutput : Output where
  text := ""
  noNul := toNat_ne_zero_of_all (by decide)
  fits := by decide

/-- The line break that ends the output of `echo` does not reach the host. -/
theorem echo_loses_newline : ¬ RoundTrips exampleJqRs exampleFromStr 1 0 activeLine noOutput := by
  intro h
  obtain ⟨result, hresult, hout, -⟩ := h []
  rw [guestExecInner_agentReply activeLine noOutput exampleReads] at hresult
  cases hresult
  exact absurd hout (by decide)

theorem roundTrips_iff_active :
    RoundTrips exampleJqRs exampleFromStr 1 0 active noOutput ↔
      ¬ active.EndsInNewline ∧ ¬ noOutput.EndsInNewline :=
  roundTrips_iff exampleReads 1 0 active noOutput

end Examples

end ZenOS.ZenTest.AgentOutput
