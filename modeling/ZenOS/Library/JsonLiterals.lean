import ZenOS.Library.Json

/-!
String literals of JSON: which texts stand for a string, and what a scanner sees of them
that only looks for the closing quote.
-/

namespace ZenOS.Library.Json

open ShellText (digitValue)

/-- A literal, without its quotes, for a string. -/
def IsLiteral (raw s : List Char) : Prop :=
  scan (.str []) (raw ++ ['"']) = some (.out, [.str (codes s)])

instance (raw s : List Char) : Decidable (IsLiteral raw s) :=
  inferInstanceAs (Decidable (_ = _))

section Literals

variable {raw s : List Char} {m m' : Mode} {c : Char} {ts : List Token} {u v : List Nat}

theorem str_of_step_quote (h : step m '"' = some (.out, ts)) :
    ∃ u, m = .str u ∧ ts = [.str (combine u)] := by
  cases m with
  | str u =>
      rw [step, if_pos rfl] at h
      cases h
      exact ⟨u, rfl, rfl⟩
  | out => cases h
  | word w => cases h
  | escape u => cases h
  | unicode u k n => cases h

theorem isLiteral_iff :
    IsLiteral raw s ↔ ∃ u, scan (.str []) raw = some (.str u, []) ∧ combine u = codes s := by
  constructor
  · intro h
    obtain ⟨m, ts, ts', hraw, hquote, hts⟩ := scan_append_eq_some h
    obtain ⟨m', ts₁, ts₂, hstep, hend, rfl⟩ := scan_cons_eq_some hquote
    cases hend
    obtain ⟨u, rfl, rfl⟩ := str_of_step_quote hstep
    cases ts with
    | nil => exact ⟨u, hraw, by simpa using hts.symm⟩
    | cons t ts => simp at hts
  · rintro ⟨u, hraw, hu⟩
    rw [IsLiteral, scan_append, hraw, Option.bind_some, scan_closing, hu]
    rfl

theorem scan_cons_silent (h : scan m (c :: raw) = some (m', [])) :
    ∃ m₁, step m c = some (m₁, []) ∧ scan m₁ raw = some (m', []) := by
  obtain ⟨m₁, ts₁, ts₂, hstep, hscan, hts⟩ := scan_cons_eq_some h
  obtain ⟨rfl, rfl⟩ := List.append_eq_nil_iff.mp hts.symm
  exact ⟨m₁, hstep, hscan⟩

theorem step_str_silent (h : step (.str u) c = some (m', [])) :
    c ≠ '"' ∧ (c = '\\' ∧ m' = .escape u ∨ isPlain c = true ∧ m' = .str (u ++ [c.toNat])) := by
  rw [step] at h
  split at h
  · cases h
  next hquote =>
    refine ⟨hquote, ?_⟩
    split at h
    next hescape =>
      cases h
      exact .inl ⟨hescape, rfl⟩
    next hescape =>
      split at h
      · cases h
      next hcontrol =>
        cases h
        exact .inr ⟨by simp [isPlain, hquote, hescape, hcontrol], rfl⟩

theorem plain_of_no_escape (hraw : '\\' ∉ raw) (h : scan (.str u) raw = some (.str v, [])) :
    ∀ c ∈ raw, isPlain c = true := by
  induction raw generalizing u with
  | nil => simp
  | cons c raw ih =>
      simp only [List.mem_cons, not_or] at hraw
      obtain ⟨m₁, hstep, hscan⟩ := scan_cons_silent h
      rcases (step_str_silent hstep).2 with ⟨hescape, -⟩ | ⟨hplain, rfl⟩
      · exact absurd hescape.symm hraw.1
      · exact List.forall_mem_cons.mpr ⟨hplain, ih hraw.2 hscan⟩

theorem IsLiteral.eq_iff (h : IsLiteral raw s) : raw = s ↔ '\\' ∉ raw := by
  obtain ⟨u, hscan, hu⟩ := isLiteral_iff.mp h
  constructor
  · rintro rfl hmem
    have hlength : raw.length ≤ u.length := by
      calc raw.length = (combine u).length := by rw [hu, codes, List.length_map]
        _ ≤ u.length := length_combine_le u
    have hplain := plain_of_scan_str hscan (by simpa using hlength) _ hmem
    exact absurd hplain (by decide)
  · intro hraw
    have hplain := scan_str_plain (plain_of_no_escape hraw hscan) []
    rw [hscan, List.nil_append] at hplain
    cases hplain
    exact codes_injective ((combine_codes raw).symm.trans hu)

theorem isPlain_of_digitValue {d : Nat} (h : digitValue c = some d) : isPlain c = true := by
  have hcontrol : ¬ c.toNat < 0x20 := by
    intro hc
    have hdigit : c.isDigit = false := by
      rcases hdigit : c.isDigit with _ | _
      · rfl
      · simp only [Char.isDigit, Bool.and_eq_true, decide_eq_true_eq, ge_iff_le,
          UInt32.le_iff_toNat_le] at hdigit
        change 48 ≤ c.toNat ∧ c.toNat ≤ 57 at hdigit
        omega
    have hlower : ¬ ('a' ≤ c ∧ c ≤ 'f') := fun hle => by
      have : 'a'.toNat ≤ c.toNat := hle.1
      have : 'a'.toNat = 97 := rfl
      omega
    have hupper : ¬ ('A' ≤ c ∧ c ≤ 'F') := fun hle => by
      have : 'A'.toNat ≤ c.toNat := hle.1
      have : 'A'.toNat = 65 := rfl
      omega
    simp [digitValue, hdigit, hlower, hupper] at h
  have hquote : c ≠ '"' := by
    rintro rfl
    rw [show digitValue '"' = none by decide] at h
    cases h
  have hescape : c ≠ '\\' := by
    rintro rfl
    rw [show digitValue '\\' = none by decide] at h
    cases h
  simp [isPlain, hquote, hescape, isControl, hcontrol]

theorem step_unicode {k n : Nat} (h : step (.unicode u k n) c = some (m', ts)) :
    isPlain c = true ∧ ((∃ u, m' = .str u) ∨ ∃ u k n, m' = .unicode u k n) := by
  obtain ⟨d, hd, hm⟩ := Option.map_eq_some_iff.mp h
  refine ⟨isPlain_of_digitValue hd, ?_⟩
  split at hm
  · cases hm
    exact .inl ⟨_, rfl⟩
  · cases hm
    exact .inr ⟨_, _, _, rfl⟩

theorem step_escape (h : step (.escape u) c = some (m', ts)) :
    isControl c = false ∧ ((∃ u, m' = .str u) ∨ ∃ u k n, m' = .unicode u k n) := by
  rw [step] at h
  split at h
  next hc =>
    subst hc
    cases h
    exact ⟨by decide, .inr ⟨_, _, _, rfl⟩⟩
  · obtain ⟨n, hn, hm⟩ := Option.map_eq_some_iff.mp h
    cases hm
    refine ⟨?_, .inl ⟨_, rfl⟩⟩
    unfold escaped? at hn
    split at hn
    next hc => rcases hc with rfl | rfl | rfl <;> decide
    iterate 5
      split at hn
      next hc =>
        subst hc
        decide
    cases hn

/-- A text without a quote, but for those that a backslash protects. -/
inductive Enclosed : List Char → Prop where
  | nil : Enclosed []
  | cons {c : Char} {raw : List Char} (hquote : c ≠ '"') (hescape : c ≠ '\\')
      (rest : Enclosed raw) : Enclosed (c :: raw)
  | escape {c : Char} {raw : List Char} (rest : Enclosed raw) : Enclosed ('\\' :: c :: raw)

theorem Enclosed.plain (hc : isPlain c = true) (rest : Enclosed raw) : Enclosed (c :: raw) := by
  simp only [isPlain, Bool.and_eq_true, bne_iff_ne] at hc
  exact rest.cons hc.1.1 hc.1.2

theorem Enclosed.of_no_quote (hquote : '"' ∉ raw) (hescape : '\\' ∉ raw) : Enclosed raw := by
  induction raw with
  | nil => exact .nil
  | cons c raw ih =>
      simp only [List.mem_cons, not_or] at hquote hescape
      exact (ih hquote.2 hescape.2).cons (Ne.symm hquote.1) (Ne.symm hescape.1)

theorem Enclosed.of_quote {s : List Char} (h : Enclosed (s ++ '"' :: raw)) (hs : '"' ∉ s) :
    (∃ front, s = front ++ ['\\']) ∧ Enclosed raw := by
  generalize htext : s ++ '"' :: raw = text at h
  induction h generalizing s with
  | nil => simp at htext
  | cons hquote hescape rest ih =>
      cases s with
      | nil => exact absurd (List.cons.inj htext).1.symm hquote
      | cons d s =>
          obtain ⟨rfl, htail⟩ := List.cons.inj htext
          obtain ⟨⟨front, rfl⟩, hrest⟩ := ih (fun h => hs (List.mem_cons_of_mem _ h)) htail
          exact ⟨⟨d :: front, rfl⟩, hrest⟩
  | escape rest ih =>
      rcases s with _ | ⟨d, _ | ⟨e, s⟩⟩
      · cases htext
      · obtain ⟨rfl, htail⟩ := List.cons.inj htext
        cases (List.cons.inj htail).2
        exact ⟨⟨[], rfl⟩, rest⟩
      · simp only [List.cons_append, List.cons.injEq] at htext
        obtain ⟨rfl, rfl, htail⟩ := htext
        have hs' : '"' ∉ s :=
          fun h => hs (List.mem_cons_of_mem _ (List.mem_cons_of_mem _ h))
        obtain ⟨⟨front, rfl⟩, hrest⟩ := ih hs' htail
        exact ⟨⟨'\\' :: e :: front, rfl⟩, hrest⟩

theorem enclosed_of_scan (h : scan m raw = some (.str v, [])) :
    (((∃ u, m = .str u) ∨ ∃ u k n, m = .unicode u k n) →
      Enclosed raw ∧ ∀ c ∈ raw, isControl c = false) ∧
    (∀ u, m = .escape u → Enclosed ('\\' :: raw) ∧ ∀ c ∈ raw, isControl c = false) := by
  induction raw generalizing m with
  | nil =>
      refine ⟨fun _ => ⟨.nil, by simp⟩, ?_⟩
      rintro u rfl
      cases h
  | cons c raw ih =>
      obtain ⟨m₁, hstep, hscan⟩ := scan_cons_silent h
      obtain ⟨hstring, hescape⟩ := ih hscan
      have hplain : isPlain c = true → isControl c = false := fun hc => by
        simp only [isPlain, Bool.and_eq_true, Bool.not_eq_true'] at hc
        exact hc.2
      refine ⟨?_, ?_⟩
      · rintro (⟨u, rfl⟩ | ⟨u, k, n, rfl⟩)
        · rcases (step_str_silent hstep).2 with ⟨rfl, rfl⟩ | ⟨hc, rfl⟩
          · obtain ⟨henclosed, hcontrol⟩ := hescape u rfl
            exact ⟨henclosed, List.forall_mem_cons.mpr ⟨by decide, hcontrol⟩⟩
          · obtain ⟨henclosed, hcontrol⟩ := hstring (.inl ⟨_, rfl⟩)
            exact ⟨henclosed.plain hc, List.forall_mem_cons.mpr ⟨hplain hc, hcontrol⟩⟩
        · obtain ⟨hc, hm⟩ := step_unicode hstep
          obtain ⟨henclosed, hcontrol⟩ := hstring hm
          exact ⟨henclosed.plain hc, List.forall_mem_cons.mpr ⟨hplain hc, hcontrol⟩⟩
      · rintro u rfl
        obtain ⟨hc, hm⟩ := step_escape hstep
        obtain ⟨henclosed, hcontrol⟩ := hstring hm
        exact ⟨henclosed.escape, List.forall_mem_cons.mpr ⟨hc, hcontrol⟩⟩

/-- A literal in its quotes is one token. -/
theorem IsLiteral.scan_quoted (h : IsLiteral raw s) (rest : List Char) :
    scan .out ('"' :: (raw ++ ['"']) ++ rest) =
      (scan .out rest).map fun q => (q.1, .str (codes s) :: q.2) := by
  have hopen : scan .out ('"' :: (raw ++ ['"'])) = some (.out, [.str (codes s)]) := by
    have hstep : step .out '"' = some (.str [], []) := rfl
    rw [scan, hstep, Option.bind_some, h]
    rfl
  rw [scan_append, hopen]
  rfl

theorem isLiteral_of_plain (h : ∀ c ∈ s, isPlain c = true) : IsLiteral s s :=
  isLiteral_iff.mpr ⟨codes s, scan_str_plain h [], combine_codes s⟩

theorem IsLiteral.enclosed (h : IsLiteral raw s) : Enclosed raw := by
  obtain ⟨u, hscan, -⟩ := isLiteral_iff.mp h
  exact ((enclosed_of_scan hscan).1 (.inl ⟨_, rfl⟩)).1

theorem IsLiteral.no_control (h : IsLiteral raw s) : ∀ c ∈ raw, isControl c = false := by
  obtain ⟨u, hscan, -⟩ := isLiteral_iff.mp h
  exact ((enclosed_of_scan hscan).1 (.inl ⟨_, rfl⟩)).2

theorem IsLiteral.no_quote (h : IsLiteral raw s) (hraw : '\\' ∉ raw) : '"' ∉ raw := by
  obtain ⟨u, hscan, -⟩ := isLiteral_iff.mp h
  intro hmem
  exact absurd (plain_of_no_escape hraw hscan _ hmem) (by decide)

/-- A text is written as a literal by writing its characters one after another. -/
theorem isLiteral_flatMap {write : Char → List Char}
    (h : ∀ c u, scan (.str u) (write c) = some (.str (u ++ [c.toNat]), [])) (text : List Char) :
    IsLiteral (text.flatMap write) text := by
  have hscan : ∀ u, scan (.str u) (text.flatMap write) = some (.str (u ++ codes text), []) := by
    induction text with
    | nil => simp [scan, codes]
    | cons c text ih =>
        intro u
        rw [List.flatMap_cons, scan_append, h, Option.bind_some, ih]
        simp [codes]
  exact isLiteral_iff.mpr ⟨codes text, hscan [], combine_codes text⟩

end Literals

end ZenOS.Library.Json
