import ZenOS.Library.Chunks
import ZenOS.Library.ShellText
import ZenOS.ZenTest.Gate

/-!
`screenshot.rs`: how a PPM image is found to be blank.
-/

namespace ZenOS.ZenTest.Screenshot

open ZenOS.Library.Chunks
open ZenOS.Library.ShellText

def newline : UInt8 := 10

/-- The loop that looks for the third newline, at the byte `i` and after `newlines` of them. -/
def findPixelStart (i newlines : Nat) : List UInt8 → Nat
  | [] => 0
  | byte :: data =>
      if byte = newline then
        if newlines + 1 = 3 then i + 1 else findPixelStart (i + 1) (newlines + 1) data
      else findPixelStart (i + 1) newlines data

/-- The loop over the chunks, from the color of the first pixel on. -/
def sampledAlike (firstR firstG firstB : UInt8) : List (List UInt8) → Bool
  | [] => true
  | (r :: g :: b :: _) :: chunks =>
      if r ≠ firstR ∨ g ≠ firstG ∨ b ≠ firstB then false
      else sampledAlike firstR firstG firstB chunks
  | _ :: _ => true

/-- `check_blank`, of the bytes of the file if it can be read. -/
def checkBlank : Option (List UInt8) → Bool
  | none => true
  | some data =>
      let pixelStart := findPixelStart 0 0 data
      if data.length ≤ pixelStart ∨ data.length - pixelStart < 12 then true
      else
        let pixels := data.drop pixelStart
        if pixels.length < 6 then true
        else
          let step := max 3000 3
          sampledAlike (pixels.getD 0 0) (pixels.getD 1 0) (pixels.getD 2 0) (chunks step pixels)

structure Pixel where
  r : UInt8
  g : UInt8
  b : UInt8
  deriving DecidableEq

def Pixel.bytes (p : Pixel) : List UInt8 :=
  [p.r, p.g, p.b]

structure PpmImage where
  width : Nat
  height : Nat
  width_pos : 0 < width
  height_pos : 0 < height
  pixels : List Pixel
  length_pixels : pixels.length = width * height

def ascii (text : List Char) : List UInt8 :=
  text.map fun c => c.val.toUInt8

def PpmImage.dimensions (image : PpmImage) : List Char :=
  Nat.toDigits 10 image.width ++ ' ' :: Nat.toDigits 10 image.height

def PpmImage.bytes (image : PpmImage) : List UInt8 :=
  ascii "P6".toList ++ newline :: (ascii image.dimensions ++ newline ::
    (ascii "255".toList ++ newline :: image.pixels.flatMap Pixel.bytes))

section Header

theorem findPixelStart_line (i newlines : Nat) {line : List UInt8} (hline : newline ∉ line)
    (data : List UInt8) :
    findPixelStart i newlines (line ++ newline :: data) =
      if newlines + 1 = 3 then i + line.length + 1
      else findPixelStart (i + line.length + 1) (newlines + 1) data := by
  induction line generalizing i with
  | nil => simp [findPixelStart]
  | cons byte line ih =>
      obtain ⟨hbyte, hline⟩ := not_or.mp (List.mem_cons.not.mp hline)
      rw [List.cons_append, findPixelStart, if_neg (Ne.symm hbyte), ih _ hline, List.length_cons,
        Nat.add_right_comm i 1, Nat.add_assoc i]

theorem newline_notMem_ascii {text : List Char} (h : ∀ c ∈ text, 32 ≤ c.toNat ∧ c.toNat < 128) :
    newline ∉ ascii text := by
  intro hmem
  obtain ⟨c, hc, hbyte⟩ := List.mem_map.mp hmem
  obtain ⟨hlower, hupper⟩ := h c hc
  have htoNat : c.toNat % 256 = 10 :=
    (UInt32.toNat_toUInt8 c.val).symm.trans (congrArg UInt8.toNat hbyte)
  omega

theorem PpmImage.newline_notMem_dimensions (image : PpmImage) :
    newline ∉ ascii image.dimensions := by
  have hdigits : ∀ n c, c ∈ Nat.toDigits 10 n → 32 ≤ c.toNat ∧ c.toNat < 128 := by
    intro n c hc
    obtain ⟨hlower, hupper⟩ := toNat_of_isDigit (isDigit_of_mem_toDigits hc)
    omega
  refine newline_notMem_ascii fun c hc => ?_
  rcases List.mem_append.mp hc with hc | hc
  · exact hdigits _ c hc
  · rcases List.mem_cons.mp hc with rfl | hc
    · decide
    · exact hdigits _ c hc

theorem PpmImage.bytes_eq (image : PpmImage) :
    ∃ header, image.bytes = header ++ image.pixels.flatMap Pixel.bytes ∧
      findPixelStart 0 0 image.bytes = header.length := by
  refine ⟨ascii "P6".toList ++ newline :: (ascii image.dimensions ++ newline ::
    (ascii "255".toList ++ [newline])), by simp [bytes], ?_⟩
  rw [bytes, findPixelStart_line _ _ (by decide), if_neg (by decide),
    findPixelStart_line _ _ image.newline_notMem_dimensions, if_neg (by decide),
    findPixelStart_line _ _ (by decide), if_pos rfl]
  simp only [List.length_append, List.length_cons, List.length_nil]
  omega

end Header

section Sampling

theorem Pixel.length_bytes (p : Pixel) : p.bytes.length = 3 :=
  rfl

theorem sampledAlike_iff (first : Pixel) {pieces : List (List Pixel)}
    (hpieces : ∀ piece ∈ pieces, piece ≠ []) :
    sampledAlike first.r first.g first.b (pieces.map (·.flatMap Pixel.bytes)) = true ↔
      ∀ piece ∈ pieces, piece.head? = some first := by
  induction pieces with
  | nil => simp [sampledAlike]
  | cons piece pieces ih =>
      obtain ⟨hpiece, hrest⟩ := List.forall_mem_cons.mp hpieces
      obtain ⟨p, piece, rfl⟩ := List.exists_cons_of_ne_nil hpiece
      have hsame : ¬(p.r ≠ first.r ∨ p.g ≠ first.g ∨ p.b ≠ first.b) ↔ p = first := by
        rcases p with ⟨r, g, b⟩
        rcases first with ⟨r', g', b'⟩
        simp
      rw [List.map_cons, List.flatMap_cons, List.forall_mem_cons, List.head?_cons,
        Option.some.injEq, ← hsame, ← ih hrest]
      change (if p.r ≠ first.r ∨ p.g ≠ first.g ∨ p.b ≠ first.b then false else _) = true ↔ _
      split
      · next h => simp [h]
      · next h => simp [h]

theorem forall_chunks_iff {pixels : List Pixel} (first : Pixel) :
    (∀ piece ∈ chunks 1000 pixels, piece.head? = some first) ↔
      ∀ k p, pixels[1000 * k]? = some p → p = first := by
  constructor
  · intro h k p hp
    obtain ⟨piece, hpiece, hhead⟩ := (exists_head_chunks_iff (by decide)).mpr ⟨k, hp⟩
    exact Option.some.inj (hhead.symm.trans (h piece hpiece))
  · intro h piece hpiece
    obtain ⟨p, rest, rfl⟩ := List.exists_cons_of_ne_nil (ne_nil_of_mem_chunks (by decide) hpiece)
    obtain ⟨k, hk⟩ := (exists_head_chunks_iff (by decide)).mp ⟨_, hpiece, rfl⟩
    exact congrArg some (h k p hk)

/-- An image counts as blank when it has no four pixels, or when the pixels at the multiples
of 1000 all are like the first. -/
theorem checkBlank_iff (image : PpmImage) :
    checkBlank (some image.bytes) = true ↔
      image.width * image.height < 4 ∨
        ∀ k p, image.pixels[1000 * k]? = some p → image.pixels.head? = some p := by
  obtain ⟨header, hbytes, hstart⟩ := image.bytes_eq
  have hlength : (image.pixels.flatMap Pixel.bytes).length = 3 * (image.width * image.height) := by
    rw [length_flatMap_of_length Pixel.length_bytes, image.length_pixels]
  rw [checkBlank, hstart, hbytes]
  dsimp only
  rw [List.length_append, hlength, List.drop_left, hlength]
  rcases lt_or_ge (image.width * image.height) 4 with hsmall | hlarge
  · rw [if_pos (.inr (by omega))]
    exact iff_of_true rfl (.inl hsmall)
  · rw [if_neg (by omega), if_neg (by omega), or_iff_right hlarge.not_gt]
    obtain ⟨first, rest, hpixels⟩ : ∃ first rest, image.pixels = first :: rest :=
      List.exists_cons_of_length_pos (by rw [image.length_pixels]; omega)
    have hsampled := sampledAlike_iff first
      fun piece => ne_nil_of_mem_chunks (n := 1000) (l := image.pixels) (by decide)
    rw [← chunks_flatMap Pixel.length_bytes (by decide) (by decide), forall_chunks_iff] at hsampled
    rw [hpixels] at hsampled ⊢
    rw [List.head?_cons]
    simp only [Option.some.injEq, eq_comm (a := first)]
    exact hsampled

end Sampling

def gray (level : UInt8) : Pixel :=
  { r := level, g := level, b := level }

/-- Four pixels of which one differs, and two pixels that differ. -/
theorem differing_pixels_blank :
    let square : PpmImage :=
      { width := 2, height := 2, width_pos := by decide, height_pos := by decide
        pixels := [gray 0, gray 255, gray 0, gray 0], length_pixels := rfl }
    let pair : PpmImage :=
      { width := 2, height := 1, width_pos := by decide, height_pos := by decide
        pixels := [gray 0, gray 255], length_pixels := rfl }
    ∀ image ∈ [square, pair],
      checkBlank (some image.bytes) = true ∧ ¬ ∀ p ∈ image.pixels, ∀ q ∈ image.pixels, p = q := by
  decide +kernel

end ZenOS.ZenTest.Screenshot
