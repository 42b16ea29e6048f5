import Mathlib.Algebra.Order.Group.Pointwise.Interval
import Mathlib.Data.Set.Prod
import Mathlib.Tactic.Ring

/-!
Affine maps of the plane as matrices, in the conventions of Cairo: a transformation that is
added to a matrix is applied before what the matrix did so far.
-/

namespace ZenOS.Library.Transforms

variable {K : Type*}

/-- `(x, y)` goes to `(xx * x + xy * y + x0, yx * x + yy * y + y0)`. -/
@[ext] structure PlaneMap (K : Type*) where
  xx : K
  yx : K
  xy : K
  yy : K
  x0 : K
  y0 : K

namespace PlaneMap

section Ring

variable [CommRing K]

def apply (m : PlaneMap K) (p : K × K) : K × K :=
  (m.xx * p.1 + m.xy * p.2 + m.x0, m.yx * p.1 + m.yy * p.2 + m.y0)

def identity : PlaneMap K :=
  { xx := 1, yx := 0, xy := 0, yy := 1, x0 := 0, y0 := 0 }

/-- First `a`, then `b`. -/
def multiply (a b : PlaneMap K) : PlaneMap K where
  xx := a.xx * b.xx + a.yx * b.xy
  yx := a.xx * b.yx + a.yx * b.yy
  xy := a.xy * b.xx + a.yy * b.xy
  yy := a.xy * b.yx + a.yy * b.yy
  x0 := a.x0 * b.xx + a.y0 * b.xy + b.x0
  y0 := a.x0 * b.yx + a.y0 * b.yy + b.y0

def translate (m : PlaneMap K) (tx ty : K) : PlaneMap K :=
  multiply { identity with x0 := tx, y0 := ty } m

def scale (m : PlaneMap K) (sx sy : K) : PlaneMap K :=
  multiply { identity with xx := sx, yy := sy } m

def det (m : PlaneMap K) : K :=
  m.xx * m.yy - m.yx * m.xy

@[simp] theorem apply_identity (p : K × K) : identity.apply p = p := by
  simp [apply, identity]

theorem apply_multiply (a b : PlaneMap K) (p : K × K) :
    (a.multiply b).apply p = b.apply (a.apply p) := by
  ext <;> simp only [apply, multiply] <;> ring

theorem apply_translate (m : PlaneMap K) (tx ty : K) (p : K × K) :
    (m.translate tx ty).apply p = m.apply (p.1 + tx, p.2 + ty) := by
  rw [translate, apply_multiply]
  simp [apply, identity]

theorem apply_scale (m : PlaneMap K) (sx sy : K) (p : K × K) :
    (m.scale sx sy).apply p = m.apply (sx * p.1, sy * p.2) := by
  rw [scale, apply_multiply]
  simp [apply, identity]

theorem eq_of_apply {m m' : PlaneMap K} (h : ∀ p, m.apply p = m'.apply p) : m = m' := by
  obtain ⟨hx0, hy0⟩ := Prod.ext_iff.mp (h (0, 0))
  obtain ⟨hxx, hyx⟩ := Prod.ext_iff.mp (h (1, 0))
  obtain ⟨hxy, hyy⟩ := Prod.ext_iff.mp (h (0, 1))
  simp only [apply, mul_zero, mul_one, zero_add, add_zero] at hx0 hy0 hxx hyx hxy hyy
  rw [hx0, add_left_inj] at hxx hxy
  rw [hy0, add_left_inj] at hyx hyy
  exact PlaneMap.ext hxx hyx hxy hyy hx0 hy0

end Ring

section Field

variable [Field K]

def inverse (m : PlaneMap K) : PlaneMap K where
  xx := m.yy / m.det
  yx := -m.yx / m.det
  xy := -m.xy / m.det
  yy := m.xx / m.det
  x0 := (m.xy * m.y0 - m.yy * m.x0) / m.det
  y0 := (m.yx * m.x0 - m.xx * m.y0) / m.det

theorem inverse_apply {m : PlaneMap K} (h : m.det ≠ 0) (p : K × K) :
    m.inverse.apply (m.apply p) = p := by
  ext
  · calc (m.inverse.apply (m.apply p)).1
        = m.det * p.1 / m.det := by simp only [apply, inverse, det]; ring
      _ = p.1 := mul_div_cancel_left₀ _ h
  · calc (m.inverse.apply (m.apply p)).2
        = m.det * p.2 / m.det := by simp only [apply, inverse, det]; ring
      _ = p.2 := mul_div_cancel_left₀ _ h

theorem apply_inverse {m : PlaneMap K} (h : m.det ≠ 0) (p : K × K) :
    m.apply (m.inverse.apply p) = p := by
  ext
  · calc (m.apply (m.inverse.apply p)).1
        = m.det * p.1 / m.det + (m.x0 - m.det * m.x0 / m.det) := by
          simp only [apply, inverse, det]; ring
      _ = p.1 := by rw [mul_div_cancel_left₀ _ h, mul_div_cancel_left₀ _ h, sub_self, add_zero]
  · calc (m.apply (m.inverse.apply p)).2
        = m.det * p.2 / m.det + (m.y0 - m.det * m.y0 / m.det) := by
          simp only [apply, inverse, det]; ring
      _ = p.2 := by rw [mul_div_cancel_left₀ _ h, mul_div_cancel_left₀ _ h, sub_self, add_zero]

/-- The inverse of a scaling about the origin with a shift after it. -/
theorem inverse_uniform {c : K} (hc : c ≠ 0) (x y : K) :
    inverse { xx := c, yx := 0, xy := 0, yy := c, x0 := -x, y0 := -y } =
      { xx := 1 / c, yx := 0, xy := 0, yy := 1 / c, x0 := x / c, y0 := y / c } := by
  have hdiv : ∀ a : K, c * a / (c * c) = a / c := fun a => mul_div_mul_left a c hc
  ext <;> simp [inverse, det, hdiv]

end Field

section Order

variable [Field K] [LinearOrder K] [IsStrictOrderedRing K]

theorem image_rectangle {m : PlaneMap K} (hxy : m.xy = 0) (hyx : m.yx = 0) (hxx : 0 < m.xx)
    (hyy : 0 < m.yy) (a b c d : K) :
    m.apply '' (Set.Icc a b ×ˢ Set.Icc c d) =
      Set.Icc (m.xx * a + m.x0) (m.xx * b + m.x0) ×ˢ
        Set.Icc (m.yy * c + m.y0) (m.yy * d + m.y0) := by
  have hmap : m.apply = Prod.map (fun x => m.xx * x + m.x0) fun y => m.yy * y + m.y0 := by
    funext p
    simp [apply, hxy, hyx, Prod.map]
  rw [hmap, Set.prodMap_image_prod, Set.image_affine_Icc' hxx, Set.image_affine_Icc' hyy]

end Order

end PlaneMap

end ZenOS.Library.Transforms
