import Mathlib.Data.List.Basic
import Mathlib.Data.List.Find
import Mathlib.Data.List.Nodup

/-!
Lists kept in order of most recent use.  A log records the uses, latest first; a
list follows the log when those of its members that occur in the log stand in the
order of their latest use.  Members that were never used may stand anywhere.
-/

namespace ZenOS.Library.Recency

variable {α : Type*} [DecidableEq α]

theorem eraseDups_filter (p : α → Bool) (l : List α) :
    (l.filter p).eraseDups = l.eraseDups.filter p := by
  induction hn : l.length using Nat.strongRecOn generalizing l with
  | ind n ih =>
      cases l with
      | nil => simp
      | cons a as =>
          have hlen : (as.filter fun b => !b == a).length < n := by
            have := List.length_filter_le (fun b => !b == a) as
            simp only [List.length_cons] at hn
            omega
          rw [List.eraseDups_cons]
          by_cases ha : p a
          · rw [List.filter_cons_of_pos ha, List.filter_cons_of_pos ha, List.eraseDups_cons,
              List.filter_comm, ih _ hlen _ rfl]
          · rw [List.filter_cons_of_neg ha, List.filter_cons_of_neg ha, ← ih _ hlen _ rfl,
              List.filter_filter]
            congr 1
            refine (List.filter_congr fun b _ => ?_).symm
            rcases eq_or_ne b a with hb | hb
            · simp [hb, ha]
            · simp [hb]

theorem eraseDups_cons_eq (a : α) (log : List α) :
    (a :: log).eraseDups = a :: log.eraseDups.filter (· ≠ a) := by
  rw [List.eraseDups_cons, eraseDups_filter]
  congr 1
  exact List.filter_congr fun b _ => by rcases eq_or_ne b a with hb | hb <;> simp [hb]

theorem find?_eraseDups (p : α → Bool) (log : List α) :
    log.eraseDups.find? p = log.find? p := by
  induction log with
  | nil => rfl
  | cons a log ih =>
      rw [eraseDups_cons_eq, List.find?_cons, List.find?_cons]
      cases ha : p a with
      | true => rfl
      | false =>
          dsimp only
          rw [List.find?_filter, ← ih]
          refine List.find?_congr fun b _ => ?_
          rcases eq_or_ne b a with hb | hb
          · simp [hb, ha]
          · simp [hb]

omit [DecidableEq α] in
theorem head?_eq_find?_iff (p : α → Bool) (l : List α) :
    l.head? = l.find? p ↔ ∀ a ∈ l.head?, p a = true := by
  cases l with
  | nil => simp
  | cons a l =>
      simp only [List.head?_cons, Option.mem_some_iff, forall_eq']
      refine ⟨fun h => ?_, fun ha => (List.find?_cons_of_pos ha).symm⟩
      exact List.find?_some h.symm

/-- The used members of `l` stand in the order of their latest use in `log`. -/
def Follows (l log : List α) : Prop :=
  l.filter (· ∈ log) = log.eraseDups

section Follows

variable {l log : List α} {a : α}

theorem Follows.empty (l : List α) : Follows l [] := by
  simp [Follows]

theorem Follows.mem (h : Follows l log) (ha : a ∈ log) : a ∈ l := by
  have : a ∈ l.filter (· ∈ log) := by
    rw [h]
    exact List.mem_eraseDups.mpr ha
  exact List.mem_of_mem_filter this

theorem Follows.use (h : Follows l log) (hl : l.Nodup) (a : α) :
    Follows (a :: l.erase a) (a :: log) := by
  have hrest : (l.erase a).filter (· ∈ a :: log) = (l.filter (· ∈ log)).filter (· ≠ a) := by
    rw [hl.erase_eq_filter, List.filter_filter, List.filter_filter]
    refine List.filter_congr fun b _ => ?_
    rcases eq_or_ne b a with hb | hb <;> simp [hb]
  rw [Follows]
  rw [List.filter_cons_of_pos (by simp), hrest, h, eraseDups_cons_eq]

/-- A member that has not been used may be inserted anywhere, so at the front. -/
theorem Follows.insert (h : Follows l log) (ha : a ∉ log) : Follows (a :: l) log := by
  rw [Follows]
  rw [List.filter_cons_of_neg (by simpa using ha)]
  exact h

theorem Follows.filter (h : Follows l log) (p : α → Bool) :
    Follows (l.filter p) (log.filter p) := by
  rw [Follows]
  rw [eraseDups_filter, ← h, List.filter_filter, List.filter_filter]
  refine List.filter_congr fun b _ => ?_
  by_cases hb : b ∈ log <;> cases hp : p b <;> simp [hb, hp]

theorem Follows.find? (h : Follows l log) {p : α → Bool}
    (hp : ∀ b ∈ l, p b = true → b ∈ log) : l.find? p = log.find? p := by
  calc l.find? p
    _ = (l.filter (· ∈ log)).find? p := by
        rw [List.find?_filter]
        refine List.find?_congr fun b hb => ?_
        cases hpb : p b with
        | true => simp [hp b hb hpb]
        | false => simp
    _ = log.eraseDups.find? p := by rw [h]
    _ = log.find? p := find?_eraseDups p log

/-- The most recently used member stands before every other used one. -/
theorem Follows.sublist (h : Follows l log) {b : α} (ha : log.head? = some a)
    (hb : b ∈ log) (hab : b ≠ a) : [a, b].Sublist l := by
  obtain ⟨log, rfl⟩ : ∃ rest, log = a :: rest := List.head?_eq_some_iff.mp ha
  have hb' : b ∈ log.eraseDups.filter (· ≠ a) := by
    have : b ∈ log := (List.mem_cons.mp hb).resolve_left hab
    simpa [hab] using List.mem_eraseDups.mpr this
  calc [a, b].Sublist (a :: log.eraseDups.filter (· ≠ a)) :=
        (List.singleton_sublist.mpr hb').cons_cons a
    _ = (a :: log).eraseDups := (eraseDups_cons_eq a log).symm
    _ = l.filter (· ∈ a :: log) := h.symm
    List.Sublist _ l := List.filter_sublist

end Follows

end ZenOS.Library.Recency
