import Mathlib.Logic.Function.Basic
import Mathlib.Tactic.TypeStar

/-!
Scripts that stop at the first command that fails, and the mount points that a clean-up takes
away afterwards.
-/

namespace ZenOS.Library.Cleanup

section Scripts

variable {κ σ : Type*} (act : κ → Bool → σ → σ × Bool) (ok : Nat → Bool)

/-- The state in which a script ends, and whether it has come to its last command.  A command
is told whether what it does goes well, and tells whether the script goes on. -/
def script (i : Nat) : List κ → σ → σ × Bool
  | [], s => (s, true)
  | c :: cs, s =>
      let p := act c (ok i) s
      if p.2 then script (i + 1) cs p.1 else (p.1, false)

variable {act}

/-- What every command keeps holds wherever the script ends. -/
theorem script_invariant {I : σ → Prop} {cs : List κ}
    (h : ∀ c ∈ cs, ∀ ok s, I s → I (act c ok s).1) {s : σ} (hs : I s) (i : Nat) :
    I (script act ok i cs s).1 := by
  induction cs generalizing i s with
  | nil => exact hs
  | cons c cs ih =>
      obtain ⟨hc, hcs⟩ := List.forall_mem_cons.mp h
      rw [script]
      split
      · exact ih hcs (hc (ok i) s hs) (i + 1)
      · exact hc (ok i) s hs

theorem script_append (first second : List κ) (i : Nat) (s : σ) :
    script act ok i (first ++ second) s =
      let p := script act ok i first s
      if p.2 then script act ok (i + first.length) second p.1 else p := by
  induction first generalizing i s with
  | nil => rfl
  | cons c first ih =>
      rw [List.cons_append, script, script]
      dsimp only
      split
      · rw [ih, List.length_cons, Nat.add_right_comm, Nat.add_assoc]
      · rfl

theorem script_concat (cs : List κ) (c : κ) (i : Nat) (s : σ) :
    script act ok i (cs ++ [c]) s =
      let p := script act ok i cs s
      if p.2 then act c (ok (i + cs.length)) p.1 else p := by
  rw [script_append]
  dsimp only
  split
  · rw [script]
    split
    next h => rw [script, ← h]
    next h => rw [← Bool.eq_false_iff.mpr h]
  · rfl

end Scripts

section Mounts

variable {μ : Type*} [DecidableEq μ]
-- the mount points there are, which of them lie below others, and which are in use
variable (points : List μ) (below : μ → μ → Bool) (busy : μ → Bool)

/-- The mount table behind an attempt to unmount, and whether it has succeeded. -/
def umount (m : μ) (mounted : μ → Bool) : (μ → Bool) × Bool :=
  if mounted m && !busy m && points.all fun a => !(below a m && mounted a) then
    (Function.update mounted m false, true)
  else (mounted, false)

def umountAll (order : List μ) (mounted : μ → Bool) : μ → Bool :=
  order.foldl (fun mounted m => (umount points below busy m mounted).1) mounted

variable {points below busy} {mounted : μ → Bool} {m a : μ}

theorem of_umount (h : (umount points below busy m mounted).1 a = true) : mounted a = true := by
  rw [umount] at h
  split at h
  · rcases eq_or_ne a m with rfl | ha
    · simp at h
    · simpa [ha] using h
  · exact h

theorem umount_of_ne (ha : a ≠ m) : (umount points below busy m mounted).1 a = mounted a := by
  rw [umount]
  split
  · exact Function.update_of_ne ha _ _
  · rfl

theorem umount_self (hpoints : ∀ a, a ∈ points) :
    (umount points below busy m mounted).1 m = true ↔
      mounted m = true ∧ (busy m = true ∨ ∃ a, below a m = true ∧ mounted a = true) := by
  rw [umount]
  split
  next h =>
    simp only [Bool.and_eq_true, Bool.not_eq_true', List.all_eq_true, Bool.and_eq_false_iff] at h
    obtain ⟨⟨-, hbusy⟩, hbelow⟩ := h
    refine iff_of_false (by simp) ?_
    rintro ⟨-, hm | ⟨a, ha, hmounted⟩⟩
    · rw [hbusy] at hm
      cases hm
    · rcases hbelow a (hpoints a) with h | h
      · rw [ha] at h
        cases h
      · rw [hmounted] at h
        cases h
  next h =>
    refine ⟨fun hm => ⟨hm, ?_⟩, fun hm => hm.1⟩
    by_contra hstays
    have hbusy : busy m = false := Bool.eq_false_iff.mpr fun h => hstays (.inl h)
    have hall : (points.all fun a => !(below a m && mounted a)) = true := by
      refine List.all_eq_true.mpr fun a _ => ?_
      rcases ha : below a m && mounted a with _ | _
      · rfl
      · exact absurd (.inr ⟨a, (Bool.and_eq_true _ _).mp ha⟩) hstays
    refine h ?_
    rw [hall, hbusy, show mounted m = true from hm]
    rfl

variable (below busy mounted) in
/-- A mount point that cannot be taken away: it is in use, or something below it is. -/
def Stuck (a : μ) : Prop :=
  busy a = true ∨ ∃ b, below b a = true ∧ mounted b = true ∧ busy b = true

theorem stuck_umount (hpoints : ∀ a, a ∈ points) :
    Stuck below busy (umount points below busy m mounted).1 a ↔ Stuck below busy mounted a := by
  have hsame : ∀ b, busy b = true →
      ((umount points below busy m mounted).1 b = true ↔ mounted b = true) := by
    intro b hb
    rcases eq_or_ne b m with rfl | hne
    · rw [umount_self hpoints]
      simp [hb]
    · rw [umount_of_ne hne]
  constructor
  · rintro (h | ⟨b, hbelow, hmounted, hbusy⟩)
    · exact .inl h
    · exact .inr ⟨b, hbelow, (hsame b hbusy).mp hmounted, hbusy⟩
  · rintro (h | ⟨b, hbelow, hmounted, hbusy⟩)
    · exact .inl h
    · exact .inr ⟨b, hbelow, (hsame b hbusy).mpr hmounted, hbusy⟩

theorem umountAll_eq_true_iff {order : List μ} (hpoints : ∀ a, a ∈ points)
    (hself : ∀ m, below m m = false)
    (htrans : ∀ a b c, below a b = true → below b c = true → below a c = true)
    (horder : order.Pairwise fun m a => below a m = false)
    (hcover : ∀ a, mounted a = true → a ∈ order ∨ Stuck below busy mounted a) (a : μ) :
    umountAll points below busy order mounted a = true ↔
      mounted a = true ∧ Stuck below busy mounted a := by
  induction order generalizing mounted with
  | nil =>
      refine ⟨fun h => ⟨h, ?_⟩, fun h => h.1⟩
      rcases hcover a h with h | h
      · cases h
      · exact h
  | cons m order ih =>
      obtain ⟨hm, horder⟩ := List.pairwise_cons.mp horder
      have hstays : (umount points below busy m mounted).1 m = true →
          Stuck below busy mounted m := by
        intro h
        rcases ((umount_self hpoints).mp h).2 with h | ⟨b, hbelow, hmounted⟩
        · exact .inl h
        · rcases hcover b hmounted with hmem | hbusy | ⟨c, hc, hmounted, hbusy⟩
          · rcases List.mem_cons.mp hmem with rfl | hmem
            · rw [hself] at hbelow
              cases hbelow
            · rw [hm b hmem] at hbelow
              cases hbelow
          · exact .inr ⟨b, hbelow, hmounted, hbusy⟩
          · exact .inr ⟨c, htrans c b m hc hbelow, hmounted, hbusy⟩
      have hrest : ∀ b, (umount points below busy m mounted).1 b = true →
          b ∈ order ∨ Stuck below busy (umount points below busy m mounted).1 b := by
        intro b hb
        rw [stuck_umount hpoints]
        rcases hcover b (of_umount hb) with hmem | h
        · rcases List.mem_cons.mp hmem with rfl | hmem
          · exact .inr (hstays hb)
          · exact .inl hmem
        · exact .inr h
      rw [umountAll, List.foldl_cons, ← umountAll, ih horder hrest, stuck_umount hpoints]
      refine ⟨fun h => ⟨of_umount h.1, h.2⟩, fun ⟨hmounted, h⟩ => ⟨?_, h⟩⟩
      rcases eq_or_ne a m with rfl | hne
      · refine (umount_self hpoints).mpr ⟨hmounted, ?_⟩
        rcases h with h | ⟨b, hbelow, hmounted, -⟩
        · exact .inl h
        · exact .inr ⟨b, hbelow, hmounted⟩
      · rwa [umount_of_ne hne]

end Mounts

end ZenOS.Library.Cleanup
