import Mathlib.Algebra.BigOperators.Ring.List
import Mathlib.Tactic.Ring

/-!
Colours with premultiplied alpha, and what is left when layers are painted over one another
with the operator OVER.
-/

namespace ZenOS.Library.Compositing

/-- A premultiplied colour. -/
@[ext]
structure Rgba (K : Type*) where
  r : K
  g : K
  b : K
  a : K
  deriving DecidableEq

namespace Rgba

variable {K : Type*} [CommRing K]

def transparent : Rgba K :=
  ⟨0, 0, 0, 0⟩

/-- A colour with its alpha, not yet multiplied. -/
def ofStraight (r g b a : K) : Rgba K :=
  ⟨r * a, g * a, b * a, a⟩

/-- The part of a colour that a mask lets through. -/
def masked (coverage : K) (p : Rgba K) : Rgba K :=
  ⟨coverage * p.r, coverage * p.g, coverage * p.b, coverage * p.a⟩

/-- The operator OVER. -/
def blend (src dst : Rgba K) : Rgba K :=
  ⟨src.r + dst.r * (1 - src.a), src.g + dst.g * (1 - src.a), src.b + dst.b * (1 - src.a),
    src.a + dst.a * (1 - src.a)⟩

/-- Layers that are painted one after the other. -/
def paintAll (layers : List (Rgba K)) (dst : Rgba K) : Rgba K :=
  layers.foldl (fun dst src => blend src dst) dst

variable (p q s dst : Rgba K)

@[simp] theorem blend_transparent : blend p transparent = p := by
  ext <;> simp [blend, transparent]

@[simp] theorem transparent_blend : blend transparent p = p := by
  ext <;> simp [blend, transparent]

theorem blend_assoc : blend (blend p q) s = blend p (blend q s) := by
  ext <;> simp only [blend] <;> ring

theorem blend_of_opaque (h : p.a = 1) : blend p q = p := by
  ext <;> simp [blend, h]

theorem one_sub_blend_a : 1 - (blend p q).a = (1 - p.a) * (1 - q.a) := by
  simp only [blend]
  ring

@[simp] theorem masked_one : masked 1 p = p := by
  ext <;> simp [masked]

@[simp] theorem masked_zero : masked 0 p = transparent := by
  ext <;> simp [masked, transparent]

@[simp] theorem paintAll_cons (layers : List (Rgba K)) :
    paintAll (p :: layers) dst = paintAll layers (blend p dst) :=
  rfl

theorem paintAll_eq_over (layers : List (Rgba K)) :
    paintAll layers dst = blend (paintAll layers transparent) dst := by
  induction layers generalizing dst with
  | nil => exact (transparent_blend dst).symm
  | cons p layers ih =>
      rw [paintAll_cons, paintAll_cons, blend_transparent, ih (blend p dst), ih p, blend_assoc]

theorem one_sub_paintAll_a (layers : List (Rgba K)) :
    1 - (paintAll layers dst).a = (layers.map (1 - ·.a)).prod * (1 - dst.a) := by
  induction layers generalizing dst with
  | nil => simp [paintAll]
  | cons p layers ih =>
      rw [paintAll_cons, ih, one_sub_blend_a, List.map_cons, List.prod_cons]
      ring

/-- A picture is opaque when it was so before or one of the layers is. -/
theorem paintAll_opaque_iff [NoZeroDivisors K] [Nontrivial K] (layers : List (Rgba K)) :
    (paintAll layers dst).a = 1 ↔ (∃ p ∈ layers, p.a = 1) ∨ dst.a = 1 := by
  have hzero : ∀ x : K, x = 1 ↔ 1 - x = 0 := fun x => by rw [sub_eq_zero, eq_comm]
  rw [hzero, one_sub_paintAll_a, mul_eq_zero, List.prod_eq_zero_iff, hzero dst.a]
  simp [← hzero]

theorem paintAll_of_opaque [NoZeroDivisors K] [Nontrivial K] {layers : List (Rgba K)}
    (h : ∃ p ∈ layers, p.a = 1) : paintAll layers dst = paintAll layers transparent := by
  rw [paintAll_eq_over]
  exact blend_of_opaque _ _ ((paintAll_opaque_iff _ layers).mpr (.inl h))

end Rgba

end ZenOS.Library.Compositing
