import ZenOS.ZenTest.Tail

/-!
`wait_for_pattern` with the slice that it takes of what it reads.  The loop remembers how
much of the log it has seen; here it is compared with a loop that remembers nothing.
-/

namespace ZenOS.ZenTest

/-- `str::is_char_boundary`: the byte there is no continuation byte. -/
def isCharBoundary (content : Bytes) (index : Nat) : Bool :=
  match content[index]? with
  | some b => index = 0 || b &&& 0xc0 != 0x80
  | none => index = content.length

/-- A slice that starts in the middle of a character or behind the end. -/
structure Panic where
  content : Bytes
  index : Nat
  deriving DecidableEq

/-- `&content[offset..]` -/
def sliceFrom (content : Bytes) (offset : Nat) : Except Panic Bytes :=
  if isCharBoundary content offset then .ok (content.drop offset)
  else .error { content, index := offset }

theorem not_continuation_of_first {b : UInt8} (h : b.IsUTF8FirstByte) :
    (b &&& 0xc0 != 0x80) = true := by
  have hall : ∀ n : Fin 256, (UInt8.ofNat n).IsUTF8FirstByte →
      (UInt8.ofNat n &&& 0xc0 != 0x80) = true := by
    decide +kernel
  have hbyte := hall ⟨b.toNat, b.toNat_lt⟩
  simp only [UInt8.ofNat_toNat] at hbyte
  exact hbyte h

theorem isUTF8FirstByte_of_append {seen rest : Bytes} {b : UInt8}
    (hseen : seen.toByteArray.IsValidUTF8)
    (hcontent : (seen ++ b :: rest).toByteArray.IsValidUTF8) : b.IsUTF8FirstByte := by
  let whole : String := .ofByteArray _ hcontent
  let p : String.Pos.Raw := ⟨seen.length⟩
  have hextract : whole.toByteArray.extract 0 seen.length = seen.toByteArray := by
    change (seen ++ b :: rest).toByteArray.extract 0 seen.length = _
    rw [List.toByteArray_append]
    exact ByteArray.extract_append_eq_left List.size_toByteArray.symm
  have hlt : p < whole.rawEndPos := by
    simp [String.Pos.Raw.lt_iff, p, whole, ← String.size_toByteArray]
  have hvalid : p.IsValid whole := by
    refine String.Pos.Raw.isValid_iff_isValidUTF8_extract_zero.mpr ⟨?_, ?_⟩
    · exact String.Pos.Raw.le_of_lt hlt
    · rw [hextract]
      exact hseen
  rcases String.Pos.Raw.isValid_iff_isUTF8FirstByte.mp hvalid with hend | ⟨hp, hfirst⟩
  · rw [hend] at hlt
    simp [String.Pos.Raw.lt_iff] at hlt
  · have hlength : seen.length < (seen ++ b :: rest).length := by simp
    have hget : whole.getUTF8Byte p hp = (seen ++ b :: rest)[seen.length] :=
      List.getElem_toByteArray
    rw [hget] at hfirst
    simpa using hfirst

theorem isCharBoundary_length {seen content : Bytes}
    (hseen : seen.toByteArray.validateUTF8 = true)
    (hcontent : content.toByteArray.validateUTF8 = true) (hpre : seen <+: content) :
    isCharBoundary content seen.length = true := by
  obtain ⟨rest, rfl⟩ := hpre
  rw [ByteArray.validateUTF8_eq_true_iff] at hseen hcontent
  cases rest with
  | nil => simp [isCharBoundary]
  | cons b rest =>
      have hfirst := not_continuation_of_first (isUTF8FirstByte_of_append hseen hcontent)
      simp [isCharBoundary, hfirst]

/-- What the polls of a growing log read; some reads may fail. -/
structure LogReads where
  read : Nat → Option Bytes
  utf8 : ∀ {n : Nat} {content : Bytes}, read n = some content →
    content.toByteArray.validateUTF8 = true
  grows : ∀ {m n : Nat} {content more : Bytes}, m ≤ n → read m = some content →
    read n = some more → content <+: more

section Tail

variable (successPatterns : List String) (errors : List ErrorPattern)

/-- The two searches through the entire content. -/
def search (content : Bytes) : Option WaitResult :=
  match successPatterns.find? fun pattern => contains content pattern with
  | some pattern => some (.patternFound pattern)
  | none => (errors.find? fun ep => contains content ep.pattern).map (.errorFound ·.pattern)

/-- The new part of a content. -/
def newContent (content : Bytes) (lastOffset : Nat) : Except Panic Bytes :=
  if lastOffset < content.length then sliceFrom content lastOffset else .ok []

variable (reads : LogReads) (expired : Nat → Bool)

/-- The loop of `wait_for_pattern` from its `n`-th iteration on, for at most `fuel`
iterations; `expired n` says that the deadline has passed when the iteration starts. -/
def tailLoop : (fuel n lastOffset : Nat) → Option (Except Panic WaitResult)
  | 0, _, _ => none
  | fuel + 1, n, lastOffset =>
      if expired n then some (.ok .timeout)
      else
        match reads.read n with
        | none => tailLoop fuel (n + 1) lastOffset
        | some content =>
            match newContent content lastOffset with
            | .error panic => some (.error panic)
            | .ok new =>
                if new.isEmpty then tailLoop fuel (n + 1) content.length
                else
                  match search successPatterns errors content with
                  | some result => some (.ok result)
                  | none => tailLoop fuel (n + 1) content.length

/-- What the content of the `n`-th poll decides on its own. -/
def searchAt (n : Nat) : Option WaitResult :=
  (reads.read n).bind (search successPatterns errors)

/-- The same loop without a memory: it scans the full content afresh at each poll. -/
def scanLoop : (fuel n : Nat) → Option WaitResult
  | 0, _ => none
  | fuel + 1, n =>
      if expired n then some .timeout
      else
        match searchAt successPatterns errors reads n with
        | some result => some result
        | none => scanLoop fuel (n + 1)

end Tail

section Polls

variable {successPatterns : List String} {errors : List ErrorPattern} {reads : LogReads}
  {expired : Nat → Bool}

/-- The loop has seen a text that decides nothing and that all later polls extend. -/
def Seen (successPatterns : List String) (errors : List ErrorPattern) (reads : LogReads)
    (n lastOffset : Nat) : Prop :=
  ∃ seen : Bytes, seen.length = lastOffset ∧ seen.toByteArray.validateUTF8 = true ∧
    search successPatterns errors seen = none ∧
    ∀ m, n ≤ m → ∀ content, reads.read m = some content → seen <+: content

theorem search_nil (hsuccess : ∀ p ∈ successPatterns, p ≠ "")
    (herrors : ∀ ep ∈ errors, ep.pattern ≠ "") : search successPatterns errors [] = none := by
  have hcontains : ∀ p : String, p ≠ "" → contains [] p = false := by
    intro p hp
    rw [contains, decide_eq_false_iff_not, List.infix_nil]
    intro hnil
    have hsize : p.utf8ByteSize = 0 := congrArg List.length hnil
    exact hp (String.utf8ByteSize_eq_zero_iff.mp hsize)
  have hfind : successPatterns.find? (fun pattern => contains [] pattern) = none := by
    rw [List.find?_eq_none]
    intro p hp
    simp [hcontains p (hsuccess p hp)]
  have hfinderror : errors.find? (fun ep => contains [] ep.pattern) = none := by
    rw [List.find?_eq_none]
    intro ep hep
    simp [hcontains ep.pattern (herrors ep hep)]
  rw [search, hfind, hfinderror]
  rfl

theorem seen_zero (hsuccess : ∀ p ∈ successPatterns, p ≠ "")
    (herrors : ∀ ep ∈ errors, ep.pattern ≠ "") : Seen successPatterns errors reads 0 0 :=
  ⟨[], rfl, by decide, search_nil hsuccess herrors, fun _ _ _ _ => List.nil_prefix⟩

theorem Seen.succ {n lastOffset : Nat} (h : Seen successPatterns errors reads n lastOffset) :
    Seen successPatterns errors reads (n + 1) lastOffset := by
  obtain ⟨seen, hlen, hvalid, hnone, hpre⟩ := h
  exact ⟨seen, hlen, hvalid, hnone, fun m hm => hpre m (Nat.le_of_succ_le hm)⟩

theorem Seen.of_read {n : Nat} {content : Bytes} (hread : reads.read n = some content)
    (hnone : search successPatterns errors content = none) :
    Seen successPatterns errors reads (n + 1) content.length :=
  ⟨content, rfl, reads.utf8 hread, hnone,
    fun _ hm _ hlater => reads.grows (Nat.le_of_succ_le hm) hread hlater⟩

theorem Seen.newContent_eq {n lastOffset : Nat} {content : Bytes}
    (h : Seen successPatterns errors reads n lastOffset)
    (hread : reads.read n = some content) :
    newContent content lastOffset = .ok (content.drop lastOffset) := by
  obtain ⟨seen, rfl, hvalid, -, hpre⟩ := h
  rw [newContent]
  split
  · have hboundary :=
      isCharBoundary_length hvalid (reads.utf8 hread) (hpre n le_rfl content hread)
    rw [sliceFrom, if_pos hboundary]
  · next hlen => rw [List.drop_of_length_le (Nat.not_lt.mp hlen)]

theorem tailLoop_step {n lastOffset : Nat}
    (h : Seen successPatterns errors reads n lastOffset) (hexpired : expired n = false) :
    (∃ result, searchAt successPatterns errors reads n = some result ∧ ∀ fuel,
        tailLoop successPatterns errors reads expired (fuel + 1) n lastOffset =
          some (.ok result)) ∨
      (searchAt successPatterns errors reads n = none ∧ ∃ lastOffset',
        Seen successPatterns errors reads (n + 1) lastOffset' ∧ ∀ fuel,
          tailLoop successPatterns errors reads expired (fuel + 1) n lastOffset =
            tailLoop successPatterns errors reads expired fuel (n + 1) lastOffset') := by
  have hrunning : ¬ expired n = true := by simp [hexpired]
  rcases hread : reads.read n with _ | content
  · refine .inr ⟨by rw [searchAt, hread]; rfl, lastOffset, h.succ, fun fuel => ?_⟩
    simp only [tailLoop, if_neg hrunning, hread]
  have hsearch : searchAt successPatterns errors reads n =
      search successPatterns errors content := by
    rw [searchAt, hread]
    rfl
  have hnew := h.newContent_eq hread
  rw [hsearch]
  obtain ⟨seen, rfl, -, hseen, hpre⟩ := h
  have hgrown := hpre n le_rfl content hread
  by_cases hlen : content.length ≤ seen.length
  · obtain rfl : seen = content := hgrown.eq_of_length (le_antisymm hgrown.length_le hlen)
    refine .inr ⟨hseen, _, .of_read hread hseen, fun fuel => ?_⟩
    simp [tailLoop, hrunning, hread, hnew]
  · have hempty : (content.drop seen.length).isEmpty = false := by
      simpa [List.drop_eq_nil_iff] using hlen
    rcases hfound : search successPatterns errors content with _ | result
    · refine .inr ⟨rfl, _, .of_read hread hfound, fun fuel => ?_⟩
      simp [tailLoop, hrunning, hread, hnew, hempty, hfound]
    · refine .inl ⟨result, rfl, fun fuel => ?_⟩
      simp [tailLoop, hrunning, hread, hnew, hempty, hfound]

theorem tailLoop_eq_scanLoop {fuel n lastOffset : Nat}
    (h : Seen successPatterns errors reads n lastOffset) :
    tailLoop successPatterns errors reads expired fuel n lastOffset =
      (scanLoop successPatterns errors reads expired fuel n).map .ok := by
  induction fuel generalizing n lastOffset with
  | zero => rfl
  | succ fuel ih =>
      rcases hexpired : expired n with _ | _
      · rcases tailLoop_step h hexpired with
          ⟨result, hsome, hreturn⟩ | ⟨hnone, lastOffset', hseen, hnext⟩
        · rw [hreturn]
          simp [scanLoop, hexpired, hsome]
        · rw [hnext, ih hseen]
          simp [scanLoop, hexpired, hnone]
      · simp [tailLoop, scanLoop, hexpired]

theorem scanLoop_first {n k : Nat} {result : WaitResult}
    (hexpired : ∀ m, k ≤ m → m ≤ n → expired m = false)
    (hfirst : ∀ m, k ≤ m → m < n → searchAt successPatterns errors reads m = none)
    (hresult : searchAt successPatterns errors reads n = some result) (hk : k ≤ n)
    {fuel : Nat} (hfuel : n < fuel + k) :
    scanLoop successPatterns errors reads expired fuel k = some result := by
  induction fuel generalizing k with
  | zero => omega
  | succ fuel ih =>
      rw [scanLoop, if_neg (by simp [hexpired k le_rfl hk])]
      rcases hk.eq_or_lt with rfl | hlt
      · rw [hresult]
      · rw [hfirst k le_rfl hlt]
        exact ih (fun m hm => hexpired m (by omega)) (fun m hm => hfirst m (by omega)) hlt
          (by omega)

/-- The content contains a success or error pattern. -/
def Decides (successPatterns : List String) (errors : List ErrorPattern) (content : Bytes) :
    Prop :=
  (∃ p ∈ successPatterns, contains content p = true) ∨
    ∃ ep ∈ errors, contains content ep.pattern = true

theorem search_ne_none_iff {content : Bytes} :
    search successPatterns errors content ≠ none ↔
      Decides successPatterns errors content := by
  rw [search, Decides]
  rcases hsuccess : successPatterns.find? fun pattern => contains content pattern with _ | p
  · have hno : ¬ ∃ p ∈ successPatterns, contains content p = true := by
      simpa using List.find?_eq_none.mp hsuccess
    simp only [hno, false_or, Ne, Option.map_eq_none_iff, List.find?_eq_none]
    push Not
    rfl
  · have hfound : ∃ p ∈ successPatterns, contains content p = true :=
      ⟨p, List.mem_of_find?_eq_some hsuccess, List.find?_some hsuccess⟩
    simp [hfound]

/-- The polls of a growing file. -/
def Polls.logReads {pollInterval : Nat} (polls : Polls pollInterval) (log : SerialLog) :
    LogReads where
  read n := readToString (log.content (polls.read n))
  utf8 h := (Option.filter_eq_some_iff.mp h).2
  grows := by
    intro m n content more hle hcontent hmore
    obtain ⟨later, hlater, hpre⟩ :=
      log.grows (polls.read_mono hle) (readToString_eq_some hcontent)
    rw [readToString_eq_some hmore] at hlater
    rwa [Option.some.inj hlater]

theorem tailLoop_eq_waitLoop {deadline pollInterval : Nat} {log : SerialLog}
    {polls : Polls pollInterval} {fuel n lastOffset : Nat}
    (h : Seen successPatterns errors (polls.logReads log) n lastOffset) :
    tailLoop successPatterns errors (polls.logReads log) (fun n => deadline ≤ polls.check n)
        fuel n lastOffset =
      (waitLoop successPatterns errors deadline log polls fuel n lastOffset).map .ok := by
  induction fuel generalizing n lastOffset with
  | zero => rfl
  | succ fuel ih =>
      rw [tailLoop, waitLoop]
      simp only [decide_eq_true_eq]
      split
      · rfl
      rcases hread : readToString (log.content (polls.read n)) with _ | content
      · have hnone : (polls.logReads log).read n = none := hread
        simp only [hnone]
        exact ih h.succ
      have hsome : (polls.logReads log).read n = some content := hread
      simp only [hsome, h.newContent_eq hsome, List.isEmpty_iff, List.drop_eq_nil_iff]
      obtain ⟨seen, rfl, -, hseen, hpre⟩ := h
      split
      · next hlen =>
          have hgrown := hpre n le_rfl content hsome
          obtain rfl := hgrown.eq_of_length (le_antisymm hgrown.length_le hlen)
          exact ih (.of_read hsome hseen)
      · rcases hsuccess : successPatterns.find? fun pattern => contains content pattern with _ | p
        · rcases herror : errors.find? fun ep => contains content ep.pattern with _ | ep
          · have hnone : search successPatterns errors content = none := by
              rw [search, hsuccess, herror]
              rfl
            simp only [hnone, herror]
            exact ih (.of_read hsome hnone)
          · simp [search, hsuccess, herror]
        · simp [search, hsuccess]

end Polls

/-- For non-empty patterns `wait_for_pattern` agrees, poll by poll, with a loop that scans
the full content afresh, and so returns at the first poll before the deadline whose content
contains a pattern.  Every slice starts at a character boundary: the loop would panic
else. -/
theorem waitForPattern_incremental (successPatterns : List String)
    (errors : List ErrorPattern) (hsuccess : ∀ p ∈ successPatterns, p ≠ "")
    (herrors : ∀ ep ∈ errors, ep.pattern ≠ "") (reads : LogReads) (expired : Nat → Bool) :
    (∀ fuel, tailLoop successPatterns errors reads expired fuel 0 0 =
      (scanLoop successPatterns errors reads expired fuel 0).map .ok) ∧
    ∀ n content, (∀ m ≤ n, expired m = false) →
      (∀ m < n, ∀ earlier, reads.read m = some earlier →
        ¬ Decides successPatterns errors earlier) →
      reads.read n = some content → Decides successPatterns errors content →
      ∃ result, search successPatterns errors content = some result ∧
        ∀ fuel, n < fuel → tailLoop successPatterns errors reads expired fuel 0 0 =
          some (.ok result) := by
  have heq : ∀ fuel, tailLoop successPatterns errors reads expired fuel 0 0 =
      (scanLoop successPatterns errors reads expired fuel 0).map .ok :=
    fun fuel => tailLoop_eq_scanLoop (seen_zero hsuccess herrors)
  refine ⟨heq, fun n content hexpired hfirst hread hdecides => ?_⟩
  obtain ⟨result, hresult⟩ :=
    Option.ne_none_iff_exists'.mp (search_ne_none_iff.mpr hdecides)
  have hnone : ∀ m < n, searchAt successPatterns errors reads m = none := by
    intro m hm
    rw [searchAt, Option.bind_eq_none_iff]
    intro earlier hearlier
    by_contra hne
    exact hfirst m hm earlier hearlier (search_ne_none_iff.mp hne)
  have hat : searchAt successPatterns errors reads n = some result := by
    rw [searchAt, hread, Option.bind_some, hresult]
  refine ⟨result, hresult, fun fuel hfuel => ?_⟩
  rw [heq, scanLoop_first (fun m _ => hexpired m) (fun m _ => hnone m) hat (Nat.zero_le n)
    hfuel]
  rfl

/-- A signal that is written in two parts. -/
def splitSignal : LogReads where
  read n := some (utf8 (if n = 0 then "ZEN_" else "ZEN_BOOT_OK"))
  utf8 := by
    rintro n content ⟨⟩
    split <;> decide +kernel
  grows := by
    rintro m n content more hle ⟨⟩ ⟨⟩
    rcases Nat.eq_zero_or_pos m with rfl | hm
    · rw [if_pos rfl]
      split <;> decide +kernel
    · rw [if_neg (by omega), if_neg (by omega)]

theorem waitForPattern_incremental_split :
    tailLoop ["ZEN_BOOT_OK"] errorPatterns splitSignal (fun _ => false) 2 0 0 =
      some (.ok (.patternFound "ZEN_BOOT_OK")) := by
  obtain ⟨-, hfirst⟩ := waitForPattern_incremental ["ZEN_BOOT_OK"] errorPatterns (by decide)
    (by decide) splitSignal (fun _ => false)
  obtain ⟨result, hresult, hloop⟩ := hfirst 1 (utf8 "ZEN_BOOT_OK") (fun _ _ => rfl) (by
      rintro m hm earlier ⟨⟩
      obtain rfl : m = 0 := by omega
      rw [Decides]
      decide +kernel) rfl (.inl ⟨_, List.mem_singleton.mpr rfl, by decide +kernel⟩)
  have hsignal : search ["ZEN_BOOT_OK"] errorPatterns (utf8 "ZEN_BOOT_OK") =
      some (.patternFound "ZEN_BOOT_OK") := by
    decide +kernel
  obtain rfl := Option.some.inj (hresult.symm.trans hsignal)
  exact hloop 2 (by decide)

end ZenOS.ZenTest
