import Mathlib.Data.List.Basic

/-!
Histories of resources.  A trace records what is acquired and what is released; the
accounts of a trace are in order when the resources that are held have been acquired
once, and all others never, or once and released again.
-/

namespace ZenOS.Library.Ownership

variable {ρ : Type*}

inductive Op (ρ : Type*) where
  | acquire (r : ρ)
  | release (r : ρ)
  deriving DecidableEq

def Op.resource : Op ρ → ρ
  | .acquire r | .release r => r

variable [DecidableEq ρ]

/-- What has happened to one resource, latest first. -/
def history (trace : List (Op ρ)) (r : ρ) : List (Op ρ) :=
  trace.filter fun op => op.resource = r

/-- Never acquired and never released, or acquired once and then released once. -/
def ReleasedOnce (trace : List (Op ρ)) (r : ρ) : Prop :=
  history trace r = [] ∨ history trace r = [.release r, .acquire r]

/-- The resources of which `held` is true are exactly those still to be released. -/
structure Accounts (trace : List (Op ρ)) (held : ρ → Prop) : Prop where
  acquired : ∀ r, held r → history trace r = [.acquire r]
  settled : ∀ r, ¬ held r → ReleasedOnce trace r

section History

variable (trace : List (Op ρ)) (op : Op ρ) {r : ρ}

theorem history_cons_self (h : op.resource = r) :
    history (op :: trace) r = op :: history trace r := by
  simp [history, h]

theorem history_cons_of_ne (h : op.resource ≠ r) :
    history (op :: trace) r = history trace r := by
  simp [history, h]

end History

namespace Accounts

variable {trace : List (Op ρ)} {held held' : ρ → Prop}

theorem nil (h : ∀ r, ¬ held r) : Accounts [] held :=
  ⟨fun r hr => absurd hr (h r), fun _ _ => .inl rfl⟩

theorem congr (h : Accounts trace held) (hiff : ∀ r, held' r ↔ held r) :
    Accounts trace held' :=
  ⟨fun r hr => h.acquired r ((hiff r).mp hr), fun r hr => h.settled r (mt (hiff r).mpr hr)⟩

theorem acquire (h : Accounts trace held) {r : ρ} (hfresh : history trace r = [])
    (hiff : ∀ r', held' r' ↔ r' = r ∨ held r') : Accounts (.acquire r :: trace) held' := by
  constructor
  · intro r' hr'
    rcases eq_or_ne r' r with rfl | hne
    · rw [history_cons_self _ _ (by rfl), hfresh]
    · rw [history_cons_of_ne _ _ (Ne.symm hne)]
      exact h.acquired r' (((hiff r').mp hr').resolve_left hne)
  · intro r' hr'
    have hne : r' ≠ r := fun heq => hr' ((hiff r').mpr (.inl heq))
    rw [ReleasedOnce, history_cons_of_ne _ _ (Ne.symm hne)]
    exact h.settled r' fun hheld => hr' ((hiff r').mpr (.inr hheld))

theorem release (h : Accounts trace held) {r : ρ} (hr : held r)
    (hiff : ∀ r', held' r' ↔ r' ≠ r ∧ held r') : Accounts (.release r :: trace) held' := by
  constructor
  · intro r' hr'
    obtain ⟨hne, hheld⟩ := (hiff r').mp hr'
    rw [history_cons_of_ne _ _ (Ne.symm hne)]
    exact h.acquired r' hheld
  · intro r' hr'
    rw [ReleasedOnce]
    rcases eq_or_ne r' r with rfl | hne
    · rw [history_cons_self _ _ (by rfl), h.acquired r' hr]
      exact .inr rfl
    · rw [history_cons_of_ne _ _ (Ne.symm hne)]
      exact h.settled r' fun hheld => hr' ((hiff r').mpr ⟨hne, hheld⟩)

end Accounts

end ZenOS.Library.Ownership
