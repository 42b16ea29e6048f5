import Mathlib.Algebra.Order.Field.Rat
import ZenOS.Library.Transforms

/-!
`wallpaper.c`: how the wallpaper image is fitted to an output, in exact arithmetic.
-/

namespace ZenOS.Compositor

open ZenOS.Library.Transforms

def computeAspectFillScale (imgW imgH outW outH : Int) : ℚ :=
  let scaleX : ℚ := outW / imgW
  let scaleY : ℚ := outH / imgH
  if scaleX > scaleY then scaleX else scaleY

/-- What `render_output_internal` computes for an image, and the matrix of its Cairo context
when it paints. -/
structure AspectFill where
  scale : ℚ
  scaledW : ℚ
  scaledH : ℚ
  offsetX : ℚ
  offsetY : ℚ
  transform : PlaneMap ℚ

def aspectFill (imgW imgH outW outH : Int) : AspectFill :=
  let scale := computeAspectFillScale imgW imgH outW outH
  let scaledW := imgW * scale
  let scaledH := imgH * scale
  let offsetX := (scaledW - outW) / 2
  let offsetY := (scaledH - outH) / 2
  { scale, scaledW, scaledH, offsetX, offsetY
    transform := (PlaneMap.identity.translate (-offsetX) (-offsetY)).scale scale scale }

/-- The guard of `render_output_internal`: an output without an area is not rendered. -/
def renderFill (imgW imgH outW outH : Int) : Option AspectFill :=
  if outW ≤ 0 ∨ outH ≤ 0 then none else some (aspectFill imgW imgH outW outH)

/-- The size of an image or of an output. -/
structure Size where
  width : Int
  height : Int
  width_pos : 0 < width
  height_pos : 0 < height

def Size.rectangle (size : Size) : Set (ℚ × ℚ) :=
  Set.Icc 0 (size.width : ℚ) ×ˢ Set.Icc 0 (size.height : ℚ)

/-- The image covers the output as closely as it can, and is cut off alike on opposite
sides. -/
structure FillsOutputExactly (img out : Size) (fill : AspectFill) : Prop where
  covers : out.width ≤ fill.scaledW ∧ out.height ≤ fill.scaledH
  tight : fill.scaledW = out.width ∨ fill.scaledH = out.height
  least : ∀ scale : ℚ, out.width ≤ img.width * scale → out.height ≤ img.height * scale →
    fill.scale ≤ scale
  ratio : fill.scaledW / fill.scaledH = img.width / img.height
  offsets : 0 ≤ fill.offsetX ∧ 0 ≤ fill.offsetY
  invertible : ∀ p, fill.transform.inverse.apply (fill.transform.apply p) = p ∧
    fill.transform.apply (fill.transform.inverse.apply p) = p
  inside : ∀ p ∈ out.rectangle, fill.transform.inverse.apply p ∈ img.rectangle
  margins : ∃ marginX marginY : ℚ, 0 ≤ marginX ∧ 0 ≤ marginY ∧
    fill.transform.inverse.apply '' out.rectangle =
      Set.Icc marginX (img.width - marginX) ×ˢ Set.Icc marginY (img.height - marginY)

section Scale

variable (img out : Size)

theorem computeAspectFillScale_eq_max (imgW imgH outW outH : Int) :
    computeAspectFillScale imgW imgH outW outH =
      max (outW / imgW : ℚ) (outH / imgH) := by
  rw [computeAspectFillScale]
  split
  · next h => exact (max_eq_left h.le).symm
  · next h => exact (max_eq_right (not_lt.mp h)).symm

theorem Size.cast_pos (size : Size) : (0 : ℚ) < size.width ∧ (0 : ℚ) < size.height :=
  ⟨Int.cast_pos.mpr size.width_pos, Int.cast_pos.mpr size.height_pos⟩

theorem computeAspectFillScale_pos :
    0 < computeAspectFillScale img.width img.height out.width out.height := by
  rw [computeAspectFillScale_eq_max]
  exact lt_max_of_lt_left (div_pos out.cast_pos.1 img.cast_pos.1)

variable {img} {out}

theorem computeAspectFillScale_le_iff (scale : ℚ) :
    computeAspectFillScale img.width img.height out.width out.height ≤ scale ↔
      out.width ≤ img.width * scale ∧ out.height ≤ img.height * scale := by
  obtain ⟨hw, hh⟩ := img.cast_pos
  rw [computeAspectFillScale_eq_max, max_le_iff, div_le_iff₀' hw, div_le_iff₀' hh]

theorem computeAspectFillScale_tight :
    img.width * computeAspectFillScale img.width img.height out.width out.height = out.width ∨
      img.height * computeAspectFillScale img.width img.height out.width out.height =
        out.height := by
  obtain ⟨hw, hh⟩ := img.cast_pos
  rw [computeAspectFillScale_eq_max]
  rcases max_choice (out.width / img.width : ℚ) (out.height / img.height) with h | h
  · rw [h]
    exact .inl (mul_div_cancel₀ _ hw.ne')
  · rw [h]
    exact .inr (mul_div_cancel₀ _ hh.ne')

theorem aspectFill_apply (imgW imgH outW outH : Int) (p : ℚ × ℚ) :
    (aspectFill imgW imgH outW outH).transform.apply p =
      (computeAspectFillScale imgW imgH outW outH * p.1 + -(aspectFill imgW imgH outW outH).offsetX,
        computeAspectFillScale imgW imgH outW outH * p.2 +
          -(aspectFill imgW imgH outW outH).offsetY) := by
  simp only [aspectFill, PlaneMap.apply_scale, PlaneMap.apply_translate, PlaneMap.apply_identity]

theorem aspectFill_transform (imgW imgH outW outH : Int) :
    (aspectFill imgW imgH outW outH).transform =
      { xx := computeAspectFillScale imgW imgH outW outH, yx := 0, xy := 0
        yy := computeAspectFillScale imgW imgH outW outH
        x0 := -(aspectFill imgW imgH outW outH).offsetX
        y0 := -(aspectFill imgW imgH outW outH).offsetY } := by
  apply PlaneMap.eq_of_apply
  intro p
  rw [aspectFill_apply]
  simp [PlaneMap.apply]

end Scale

section Crop

variable (img out : Size)

theorem far_margin {scale length extent : ℚ} (hscale : 0 < scale) :
    1 / scale * extent + (length * scale - extent) / 2 / scale =
      length - (length * scale - extent) / 2 / scale := by
  have hlength : length = length * scale / scale := (mul_div_cancel_right₀ _ hscale.ne').symm
  calc 1 / scale * extent + (length * scale - extent) / 2 / scale
      = length * scale / scale - (length * scale - extent) / 2 / scale := by ring
    _ = length - (length * scale - extent) / 2 / scale := by rw [← hlength]

theorem aspectFill_covers :
    out.width ≤ (aspectFill img.width img.height out.width out.height).scaledW ∧
      out.height ≤ (aspectFill img.width img.height out.width out.height).scaledH :=
  (computeAspectFillScale_le_iff _).mp le_rfl

theorem aspectFill_offsets :
    0 ≤ (aspectFill img.width img.height out.width out.height).offsetX ∧
      0 ≤ (aspectFill img.width img.height out.width out.height).offsetY := by
  obtain ⟨hw, hh⟩ := aspectFill_covers img out
  exact ⟨div_nonneg (sub_nonneg.mpr hw) zero_le_two, div_nonneg (sub_nonneg.mpr hh) zero_le_two⟩

theorem aspectFill_image :
    (aspectFill img.width img.height out.width out.height).transform.inverse.apply ''
        out.rectangle =
      Set.Icc ((aspectFill img.width img.height out.width out.height).offsetX /
          computeAspectFillScale img.width img.height out.width out.height)
        (img.width - (aspectFill img.width img.height out.width out.height).offsetX /
          computeAspectFillScale img.width img.height out.width out.height) ×ˢ
      Set.Icc ((aspectFill img.width img.height out.width out.height).offsetY /
          computeAspectFillScale img.width img.height out.width out.height)
        (img.height - (aspectFill img.width img.height out.width out.height).offsetY /
          computeAspectFillScale img.width img.height out.width out.height) := by
  have hpos := computeAspectFillScale_pos img out
  have hinv : 0 < 1 / computeAspectFillScale img.width img.height out.width out.height :=
    one_div_pos.mpr hpos
  rw [aspectFill_transform, PlaneMap.inverse_uniform hpos.ne', Size.rectangle,
    PlaneMap.image_rectangle rfl rfl hinv hinv, mul_zero, zero_add, zero_add]
  simp only [aspectFill, far_margin hpos]

theorem renderFill_fills :
    ∃ fill, renderFill img.width img.height out.width out.height = some fill ∧
      FillsOutputExactly img out fill := by
  have harea : ¬(out.width ≤ 0 ∨ out.height ≤ 0) := by
    have hw := out.width_pos
    have hh := out.height_pos
    omega
  refine ⟨aspectFill img.width img.height out.width out.height, if_neg harea, ?_⟩
  have hpos := computeAspectFillScale_pos img out
  have hdet : (aspectFill img.width img.height out.width out.height).transform.det ≠ 0 := by
    rw [aspectFill_transform]
    simp [PlaneMap.det, hpos.ne']
  obtain ⟨hx, hy⟩ := aspectFill_offsets img out
  have hmarginX := div_nonneg hx hpos.le
  have hmarginY := div_nonneg hy hpos.le
  have himage := aspectFill_image img out
  exact
    { covers := aspectFill_covers img out
      tight := computeAspectFillScale_tight
      least := fun scale hw hh => (computeAspectFillScale_le_iff scale).mpr ⟨hw, hh⟩
      ratio := mul_div_mul_right _ _ hpos.ne'
      offsets := ⟨hx, hy⟩
      invertible := fun p => ⟨PlaneMap.inverse_apply hdet p, PlaneMap.apply_inverse hdet p⟩
      inside := fun p hp => by
        have hmem := himage ▸ Set.mem_image_of_mem _ hp
        exact Set.prod_mono (Set.Icc_subset_Icc hmarginX (sub_le_self _ hmarginX))
          (Set.Icc_subset_Icc hmarginY (sub_le_self _ hmarginY)) hmem
      margins := ⟨_, _, hmarginX, hmarginY, himage⟩ }

end Crop

end ZenOS.Compositor
