import Mathlib.Algebra.BigOperators.Group.List.Basic
import Mathlib.Algebra.Order.Ring.Int

/-!
Texts with opening and closing items.  An item has a weight, positive if it opens and
negative if it closes, and the depth of a text is the sum of the weights.
-/

namespace ZenOS.Library.Nesting

variable {α : Type*} (w : α → ℤ)

def depth (s : List α) : ℤ :=
  (s.map w).sum

@[simp] theorem depth_nil : depth w [] = 0 :=
  rfl

@[simp] theorem depth_cons (a : α) (s : List α) : depth w (a :: s) = w a + depth w s := by
  simp [depth]

@[simp] theorem depth_append (s t : List α) : depth w (s ++ t) = depth w s + depth w t := by
  simp [depth]

/-- The text comes down to zero with its last item, and not before. -/
structure Closes (d : ℤ) (s : List α) : Prop where
  closed : d + depth w s = 0
  inside : ∀ before a behind, s = before ++ a :: behind → 0 < d + depth w before

/-- Inside the text the depth does not come down to zero. -/
def StaysInside (d : ℤ) (s : List α) : Prop :=
  ∀ before, before <+: s → 0 < d + depth w before

variable {w} {d : ℤ} {a : α} {s t : List α}

theorem closes_nil : Closes w d [] ↔ d = 0 := by
  constructor
  · intro h
    simpa using h.closed
  · rintro rfl
    exact ⟨by simp, by simp⟩

theorem closes_cons : Closes w d (a :: s) ↔ 0 < d ∧ Closes w (d + w a) s := by
  constructor
  · intro h
    refine ⟨by simpa using h.inside [] a s rfl, ?_, ?_⟩
    · have hclosed := h.closed
      rw [depth_cons] at hclosed
      omega
    · rintro before b behind rfl
      have hinside := h.inside (a :: before) b behind rfl
      rw [depth_cons] at hinside
      omega
  · rintro ⟨hd, h⟩
    constructor
    · have hclosed := h.closed
      rw [depth_cons]
      omega
    · intro before b behind hsplit
      rcases before with _ | ⟨c, before⟩
      · simpa using hd
      · obtain ⟨rfl, hs⟩ := List.cons.inj hsplit
        have hinside := h.inside before b behind hs
        rw [depth_cons]
        omega

instance decidableCloses : (d : ℤ) → (s : List α) → Decidable (Closes w d s)
  | _, [] => decidable_of_iff _ closes_nil.symm
  | d, a :: s =>
      have := decidableCloses (d + w a) s
      decidable_of_iff _ closes_cons.symm

theorem staysInside_nil : StaysInside w d [] ↔ 0 < d := by
  constructor
  · intro h
    simpa using h [] List.prefix_rfl
  · rintro hd before hbefore
    simpa [List.prefix_nil.mp hbefore] using hd

theorem staysInside_cons : StaysInside w d (a :: s) ↔ 0 < d ∧ StaysInside w (d + w a) s := by
  constructor
  · intro h
    refine ⟨by simpa using h [] List.nil_prefix, fun before hbefore => ?_⟩
    have hinside := h (a :: before) (List.cons_prefix_cons.mpr ⟨rfl, hbefore⟩)
    rw [depth_cons] at hinside
    omega
  · rintro ⟨hd, h⟩ before hbefore
    rcases before with _ | ⟨b, before⟩
    · simpa using hd
    · obtain ⟨rfl, hs⟩ := List.cons_prefix_cons.mp hbefore
      have hinside := h before hs
      rw [depth_cons]
      omega

instance decidableStaysInside : (d : ℤ) → (s : List α) → Decidable (StaysInside w d s)
  | _, [] => decidable_of_iff _ staysInside_nil.symm
  | d, a :: s =>
      have := decidableStaysInside (d + w a) s
      decidable_of_iff _ staysInside_cons.symm

theorem staysInside_append :
    StaysInside w d (s ++ t) ↔ StaysInside w d s ∧ StaysInside w (d + depth w s) t := by
  induction s generalizing d with
  | nil =>
      rw [List.nil_append, depth_nil, add_zero, staysInside_nil]
      exact ⟨fun h => ⟨by simpa using h [] List.nil_prefix, h⟩, And.right⟩
  | cons a s ih =>
      rw [List.cons_append, staysInside_cons, staysInside_cons, ih, depth_cons, add_assoc, and_assoc]

/-- What has been inside stays so in front of the rest. -/
theorem closes_append (h : StaysInside w d s) :
    Closes w d (s ++ t) ↔ Closes w (d + depth w s) t := by
  induction s generalizing d with
  | nil => simp
  | cons a s ih =>
      obtain ⟨hd, hs⟩ := staysInside_cons.mp h
      rw [List.cons_append, closes_cons, ih hs, depth_cons, add_assoc]
      exact and_iff_right hd

theorem depth_of_weightless (h : ∀ a ∈ s, w a = 0) : depth w s = 0 := by
  induction s with
  | nil => rfl
  | cons a s ih =>
      rw [depth_cons, h a List.mem_cons_self, ih fun b hb => h b (List.mem_cons_of_mem _ hb),
        add_zero]

theorem staysInside_of_weightless (hd : 0 < d) (h : ∀ a ∈ s, w a = 0) : StaysInside w d s := by
  intro before hbefore
  rw [depth_of_weightless fun a ha => h a (hbefore.subset ha), add_zero]
  exact hd

end ZenOS.Library.Nesting
