import ZenOS.ZenTest.Gate
import ZenOS.ZenTest.Tail

/-!
What `log_absent` answers for.
-/

namespace ZenOS.ZenTest

/-- `log_absent` vouches only for bytes that have been read, and no assertion passes on a log
that could not be decoded. -/
structure AbsentSoundly (file : Option Bytes) (sa : SerialAbsentAssert) : Prop where
  absent : logAbsent file sa.pattern = true →
    ∃ bytes, file = some bytes ∧ contains bytes sa.pattern = false
  decoded : ∀ (guest : Guest) (i : Nat),
    guest.logAbsent i sa.pattern = logAbsent file sa.pattern →
      (serialAbsentAssertion guest sa i).passed = true → readToString file ≠ none

theorem logAbsent_of_unread {file : Option Bytes} (h : readToString file = none)
    (pattern : String) : logAbsent file pattern = true := by
  rw [logAbsent, logContains, h]
  rfl

theorem logAbsent_of_read {file : Option Bytes} {content : Bytes}
    (h : readToString file = some content) (pattern : String) :
    logAbsent file pattern = !contains content pattern := by
  rw [logAbsent, logContains, h]
  rfl

/-- A guest of which only the serial log matters. -/
def Guest.ofLog (file : Option Bytes) : Guest where
  timedOut := false
  failure := none
  logContains _ pattern := ZenTest.logContains file pattern
  logAbsent _ pattern := ZenTest.logAbsent file pattern
  exec _ := .ok { exitCode := 0, stdout := "" }
  capture _ := .ok { sizeBytes := 0, isBlank := true }

/-- `log_absent` is sound exactly on a log that can be read and is UTF-8. -/
theorem absentSoundly_iff (file : Option Bytes) (sa : SerialAbsentAssert) :
    AbsentSoundly file sa ↔ readToString file ≠ none := by
  constructor
  · intro h hunread
    have hpassed : (serialAbsentAssertion (.ofLog file) sa 0).passed = true :=
      logAbsent_of_unread hunread sa.pattern
    exact h.decoded (.ofLog file) 0 rfl hpassed hunread
  · intro hread
    obtain ⟨content, hcontent⟩ := Option.ne_none_iff_exists'.mp hread
    refine ⟨fun habsent => ⟨content, readToString_eq_some hcontent, ?_⟩, fun _ _ _ _ => hread⟩
    rw [logAbsent_of_read hcontent] at habsent
    simpa using habsent

/-- A byte of a dying kernel hides its last words, and a log that is not there hides
everything. -/
theorem panic_called_absent :
    let sa : SerialAbsentAssert := { pattern := "Kernel panic", description := none }
    ¬ AbsentSoundly (some (0xff :: utf8 "Kernel panic")) sa ∧ ¬ AbsentSoundly none sa := by
  intro sa
  constructor
  · intro h
    obtain ⟨bytes, hfile, habsent⟩ := h.absent (by decide +kernel)
    obtain rfl := Option.some.inj hfile
    exact absurd habsent (by decide +kernel)
  · intro h
    obtain ⟨bytes, hfile, -⟩ := h.absent rfl
    cases hfile

end ZenOS.ZenTest
