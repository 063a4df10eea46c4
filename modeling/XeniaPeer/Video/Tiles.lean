import Mathlib.Tactic.Ring
import XeniaPeer.Foundation.Codes
import XeniaPeer.Foundation.Loops

/-!
# Tiles of a picture

The HDC codec (`hdc.rs`) cuts a picture into tiles of 64 by 64 pixels, row by row, where the tiles
at the right and bottom edges are clipped. A tile travels as three bytes for each pixel, in the
order red, green, blue, and is painted back into a canvas with four bytes for each pixel.
-/

namespace XeniaPeer.Video

open Foundation

/-! ## Pictures -/

inductive PixelFormat where
  | rgba
  | bgra
deriving DecidableEq

def PixelFormat.bpp : PixelFormat → Nat
  | .rgba | .bgra => 4

structure EncodeParams where
  (width height : UInt32)
  pixelFormat : PixelFormat
  targetFps : UInt32

namespace EncodeParams

def stride (p : EncodeParams) : Nat := p.width.toNat * p.pixelFormat.bpp

def frameSize (p : EncodeParams) : Nat := p.stride * p.height.toNat % 2 ^ 64

end EncodeParams

/-- The bytes of a picture with four bytes a pixel, as a release build multiplies. -/
def rgbaLen (width height : UInt32) : Nat := width.toNat * height.toNat * 4 % 2 ^ 64

abbrev Rgb := UInt8 × UInt8 × UInt8

def rgbOf (bgra : Bool) (raw : Bytes) (i : Nat) : Rgb :=
  let c0 := raw.getD (i * 4) 0
  let c1 := raw.getD (i * 4 + 1) 0
  let c2 := raw.getD (i * 4 + 2) 0
  if bgra then (c2, c1, c0) else (c0, c1, c2)

def pixelAt (canvas : Bytes) (i : Nat) : Rgb × UInt8 :=
  ((canvas.getD (i * 4) 0, canvas.getD (i * 4 + 1) 0, canvas.getD (i * 4 + 2) 0),
    canvas.getD (i * 4 + 3) 0)

/-! ## The grid -/

def tileSize : Nat := 64

def tilesAcross (pixels : Nat) : Nat := (pixels + 63) / tileSize

def tileExtent (pixels start : Nat) : Nat := min tileSize (pixels - start)

def tileOf (width i : Nat) : Nat :=
  i / width / tileSize * tilesAcross width + i % width / tileSize

def tilePixels (width height t : Nat) : List Nat :=
  let x := t % tilesAcross width * tileSize
  let y := t / tilesAcross width * tileSize
  (List.range (tileExtent height y)).flatMap fun dy =>
    (List.range (tileExtent width x)).map fun dx => (y + dy) * width + (x + dx)

variable {pixels : Nat}

lemma lt_tileExtent {start d : Nat} :
    d < tileExtent pixels start ↔ d < tileSize ∧ start + d < pixels := by
  unfold tileExtent
  omega

variable {z : Nat}

lemma exists_in_tile {n : Nat} :
    (∃ d, d < tileExtent pixels (n * tileSize) ∧ z = n * tileSize + d) ↔
      z < pixels ∧ z / tileSize = n := by
  simp only [lt_tileExtent, tileSize]
  constructor
  · rintro ⟨d, ⟨hd, hlt⟩, rfl⟩
    omega
  · rintro ⟨hz, rfl⟩
    exact ⟨z % 64, by omega, by omega⟩

lemma div_lt_tilesAcross (hz : z < pixels) : z / tileSize < tilesAcross pixels := by
  unfold tilesAcross tileSize
  omega

variable {width height i : Nat}

lemma mem_tilePixels {t : Nat} :
    i ∈ tilePixels width height t ↔ i < height * width ∧ tileOf width i = t := by
  rcases Nat.eq_zero_or_pos width with rfl | hw
  · simp [tilePixels, tileExtent]
  have hcols : 0 < tilesAcross width := by
    unfold tilesAcross tileSize
    omega
  have h : i ∈ tilePixels width height t ↔ ∃ y x, i = y * width + x ∧
      (y < height ∧ y / tileSize = t / tilesAcross width) ∧
      (x < width ∧ x / tileSize = t % tilesAcross width) := by
    simp only [tilePixels, List.mem_flatMap, List.mem_map, List.mem_range, ← exists_in_tile]
    constructor
    · rintro ⟨dy, hdy, dx, hdx, rfl⟩
      exact ⟨_, _, rfl, ⟨dy, hdy, rfl⟩, dx, hdx, rfl⟩
    · rintro ⟨_, _, rfl, ⟨dy, hdy, rfl⟩, dx, hdx, rfl⟩
      exact ⟨dy, hdy, dx, hdx, rfl⟩
  rw [h]
  constructor
  · rintro ⟨y, x, rfl, ⟨hy, hrow⟩, hx, hcol⟩
    have hdiv : (y * width + x) / width = y := by
      rw [Nat.mul_comm, Nat.mul_add_div hw, Nat.div_eq_of_lt hx, Nat.add_zero]
    have hmod : (y * width + x) % width = x := by
      rw [Nat.mul_comm, Nat.mul_add_mod, Nat.mod_eq_of_lt hx]
    refine ⟨?_, ?_⟩
    · calc y * width + x < (y + 1) * width := by rw [Nat.succ_mul]; omega
        _ ≤ height * width := Nat.mul_le_mul_right _ hy
    · rw [tileOf, hdiv, hmod, hrow, hcol]
      exact Nat.div_add_mod' t (tilesAcross width)
  · rintro ⟨hi, rfl⟩
    have hx : i % width < width := Nat.mod_lt _ hw
    have hcol := div_lt_tilesAcross hx
    refine ⟨i / width, i % width, (Nat.div_add_mod' i width).symm, ⟨?_, ?_⟩, hx, ?_⟩
    · exact (Nat.div_lt_iff_lt_mul hw).mpr hi
    · rw [tileOf, Nat.mul_comm, Nat.mul_add_div hcols, Nat.div_eq_of_lt hcol, Nat.add_zero]
    · rw [tileOf, Nat.mul_comm, Nat.mul_add_mod, Nat.mod_eq_of_lt hcol]

lemma tileOf_lt (hi : i < height * width) :
    tileOf width i < tilesAcross height * tilesAcross width := by
  have hw : 0 < width := Nat.pos_of_ne_zero fun h => by simp [h] at hi
  have hrow : i / width / tileSize < tilesAcross height :=
    div_lt_tilesAcross ((Nat.div_lt_iff_lt_mul hw).mpr hi)
  have hcol : i % width / tileSize < tilesAcross width := div_lt_tilesAcross (Nat.mod_lt _ hw)
  calc tileOf width i < (i / width / tileSize + 1) * tilesAcross width := by
        rw [tileOf, Nat.succ_mul]
        omega
    _ ≤ tilesAcross height * tilesAcross width := Nat.mul_le_mul_right _ hrow

/-! ## Cutting a tile out -/

def pixelBytes (pixels : Bytes) (bgra : Bool) (offset : Nat) : Bytes :=
  if pixels.length ≤ offset + 3 then [0, 0, 0] else
    let c0 := pixels.getD offset 0
    let c1 := pixels.getD (offset + 1) 0
    let c2 := pixels.getD (offset + 2) 0
    if bgra then [c2, c1, c0] else [c0, c1, c2]

def extractTileRgb (pixels : Bytes) (imgWidth imgHeight tileX tileY : Nat) (bgra : Bool) :
    Bytes × UInt16 × UInt16 :=
  let tw := tileExtent imgWidth tileX
  let th := tileExtent imgHeight tileY
  let out := (List.range th).flatMap fun dy => (List.range tw).flatMap fun dx =>
    pixelBytes pixels bgra (((tileY + dy) * imgWidth + (tileX + dx)) * 4)
  (out, UInt16.ofNat tw, UInt16.ofNat th)

def rgbAt (values : Bytes) (k : Nat) : Rgb :=
  (values.getD (k * 3) 0, values.getD (k * 3 + 1) 0, values.getD (k * 3 + 2) 0)

lemma length_pixelBytes (pixels : Bytes) (bgra : Bool) (offset : Nat) :
    (pixelBytes pixels bgra offset).length = 3 := by
  unfold pixelBytes
  split
  · rfl
  · cases bgra <;> rfl

section Extract

variable {pixels : Bytes} {width height tileX tileY : Nat} {bgra : Bool}

lemma length_extractRow (dy : Nat) : ((List.range (tileExtent width tileX)).flatMap fun dx =>
      pixelBytes pixels bgra (((tileY + dy) * width + (tileX + dx)) * 4)).length =
      tileExtent width tileX * 3 := by
  simp [List.length_flatMap, length_pixelBytes]

lemma length_extractTileRgb : (extractTileRgb pixels width height tileX tileY bgra).1.length =
      tileExtent width tileX * tileExtent height tileY * 3 := by
  have hlen : ∀ (l : List Nat) (f : Nat → Bytes) (k : Nat), (∀ a, (f a).length = k) →
      (l.flatMap f).length = l.length * k := by
    intro l f k hf
    simp [List.length_flatMap, hf]
  rw [extractTileRgb, hlen _ _ _ length_extractRow, List.length_range]
  ring

lemma tileExtent_lt_u16 (pixels start : Nat) : tileExtent pixels start < 2 ^ 16 := by
  unfold tileExtent tileSize
  omega

lemma rgbAt_extractTileRgb (hsize : pixels.length = height * width * 4) {dy dx : Nat}
    (hdy : dy < tileExtent height tileY) (hdx : dx < tileExtent width tileX) :
    rgbAt (extractTileRgb pixels width height tileX tileY bgra).1 (dy * tileExtent width tileX + dx) =
      rgbOf bgra pixels ((tileY + dy) * width + (tileX + dx)) := by
  have hy := (lt_tileExtent.mp hdy).2
  have hx := (lt_tileExtent.mp hdx).2
  set i := (tileY + dy) * width + (tileX + dx) with hi
  have hin : ¬ pixels.length ≤ i * 4 + 3 := by
    have : i < height * width := calc
      i < (tileY + dy + 1) * width := by rw [Nat.succ_mul]; omega
      _ ≤ height * width := Nat.mul_le_mul_right _ hy
    omega
  have hbyte : ∀ c < 3, (extractTileRgb pixels width height tileX tileY bgra).1.getD
      ((dy * tileExtent width tileX + dx) * 3 + c) 0 = (pixelBytes pixels bgra (i * 4)).getD c 0 := by
    intro c hc
    have h : (dy * tileExtent width tileX + dx) * 3 + c =
        dy * (tileExtent width tileX * 3) + (dx * 3 + c) := by ring
    rw [List.getD_eq_getElem?_getD, List.getD_eq_getElem?_getD, h, extractTileRgb,
      getElem?_flatMap (fun dy _ => length_extractRow dy) (by omega), List.getElem?_range hdy,
      Option.bind_some, getElem?_flatMap (fun dx _ => length_pixelBytes _ _ _) hc,
      List.getElem?_range hdx, Option.bind_some]
  rw [rgbAt, hbyte 1 (by omega), hbyte 2 (by omega), ← Nat.add_zero (_ * 3), hbyte 0 (by omega)]
  rw [pixelBytes, if_neg hin, rgbOf]
  cases bgra <;> rfl

end Extract

/-! ## Painting a tile -/

def paint (canvas : Bytes) (i : Nat) (rgb : Rgb) : Bytes :=
  if i * 4 + 3 < canvas.length then
    (((canvas.set (i * 4) rgb.1).set (i * 4 + 1) rgb.2.1).set (i * 4 + 2) rgb.2.2).set (i * 4 + 3) 255
  else canvas

def paintTile (canvas values : Bytes) (width tileX tileY tw th : Nat) : Bytes :=
  (List.range th).foldl (fun canvas dy => (List.range tw).foldl (fun canvas dx =>
    paint canvas ((tileY + dy) * width + (tileX + dx)) (rgbAt values (dy * tw + dx))) canvas) canvas

@[simp] lemma length_paint (canvas : Bytes) (i : Nat) (rgb : Rgb) :
    (paint canvas i rgb).length = canvas.length := by
  unfold paint
  split <;> simp

variable {canvas : Bytes}

lemma pixelAt_paint {rgb : Rgb} (hi : i * 4 + 3 < canvas.length) (j : Nat) :
    pixelAt (paint canvas i rgb) j = if j = i then (rgb, 255) else pixelAt canvas j := by
  have hset : ∀ (l : Bytes) (a k : Nat) (v : UInt8), a < l.length →
      (l.set a v).getD k 0 = if k = a then v else l.getD k 0 := by
    intro l a k v ha
    rw [List.getD_eq_getElem?_getD, List.getElem?_set, List.getD_eq_getElem?_getD]
    by_cases hk : k = a
    · simp [hk, ha]
    · rw [if_neg hk, if_neg (Ne.symm hk)]
  have hbyte : ∀ k, (paint canvas i rgb).getD k 0 =
      if k = i * 4 + 3 then 255 else if k = i * 4 + 2 then rgb.2.2
        else if k = i * 4 + 1 then rgb.2.1 else if k = i * 4 then rgb.1 else canvas.getD k 0 := by
    intro k
    rw [paint, if_pos hi, hset _ _ _ _ (by simpa using hi),
      hset _ _ _ _ (by simp only [List.length_set]; omega),
      hset _ _ _ _ (by simp only [List.length_set]; omega), hset _ _ _ _ (by omega)]
  simp only [pixelAt, hbyte]
  by_cases hij : j = i
  · subst hij
    simp
  · rw [if_neg hij]
    simp (disch := omega) only [if_neg]

lemma length_foldl_paint (writes : List (Nat × Rgb)) (canvas : Bytes) :
    (writes.foldl (fun canvas w => paint canvas w.1 w.2) canvas).length = canvas.length := by
  induction writes generalizing canvas with
  | nil => rfl
  | cons w writes ih => rw [List.foldl_cons, ih, length_paint]

lemma pixelAt_foldl_paint_cases (writes : List (Nat × Rgb)) (canvas : Bytes) (j : Nat) :
    (∃ w ∈ writes, w.1 = j ∧ j * 4 + 3 < canvas.length ∧
      pixelAt (writes.foldl (fun canvas w => paint canvas w.1 w.2) canvas) j = (w.2, 255)) ∨
    (∀ w ∈ writes, w.1 = j → ¬ j * 4 + 3 < canvas.length) ∧
      pixelAt (writes.foldl (fun canvas w => paint canvas w.1 w.2) canvas) j = pixelAt canvas j := by
  induction writes generalizing canvas with
  | nil => exact .inr ⟨by simp, rfl⟩
  | cons w writes ih =>
    rw [List.foldl_cons]
    rcases ih (paint canvas w.1 w.2) with ⟨w', hw', hj, hin, hpix⟩ | ⟨hno, hpix⟩
    · rw [length_paint] at hin
      exact .inl ⟨w', List.mem_cons_of_mem _ hw', hj, hin, hpix⟩
    rw [length_paint] at hno
    rw [hpix]
    by_cases hin : w.1 * 4 + 3 < canvas.length
    · rw [pixelAt_paint hin]
      by_cases hj : j = w.1
      · subst hj
        exact .inl ⟨w, List.mem_cons_self, rfl, hin, if_pos rfl⟩
      · exact .inr ⟨List.forall_mem_cons.mpr ⟨fun h => absurd h.symm hj, hno⟩, if_neg hj⟩
    · rw [paint, if_neg hin]
      exact .inr ⟨List.forall_mem_cons.mpr ⟨fun h => h ▸ hin, hno⟩, rfl⟩

lemma pixelAt_foldl_paint {value : Nat → Rgb} {writes : List (Nat × Rgb)}
    (h : ∀ w ∈ writes, w.1 * 4 + 3 < canvas.length ∧ w.2 = value w.1) (j : Nat) :
    pixelAt (writes.foldl (fun canvas w => paint canvas w.1 w.2) canvas) j =
      if j ∈ writes.map Prod.fst then (value j, 255) else pixelAt canvas j := by
  rcases pixelAt_foldl_paint_cases writes canvas j with ⟨w, hw, rfl, -, hpix⟩ | ⟨hno, hpix⟩
  · rw [hpix, (h w hw).2, if_pos (List.mem_map_of_mem hw)]
  · rw [hpix, if_neg]
    rintro hmem
    obtain ⟨w, hw, rfl⟩ := List.mem_map.mp hmem
    exact hno w hw rfl (h w hw).1

lemma paintTile_eq (canvas values : Bytes) (width tileX tileY tw th : Nat) :
    paintTile canvas values width tileX tileY tw th =
      ((List.range th).flatMap fun dy => (List.range tw).map fun dx =>
        ((tileY + dy) * width + (tileX + dx), rgbAt values (dy * tw + dx))).foldl
          (fun canvas w => paint canvas w.1 w.2) canvas := by
  rw [paintTile, List.foldl_flatMap]
  simp only [List.foldl_map]

@[simp] lemma length_paintTile (canvas values : Bytes) (width tileX tileY tw th : Nat) :
    (paintTile canvas values width tileX tileY tw th).length = canvas.length := by
  rw [paintTile_eq, length_foldl_paint]

lemma pixelAt_paintTile {pixels : Bytes} (hcanvas : canvas.length = height * width * 4)
    (hpixels : pixels.length = height * width * 4) (t : Nat) (bgra : Bool) (j : Nat) :
    let x := t % tilesAcross width * tileSize
    let y := t / tilesAcross width * tileSize
    pixelAt (paintTile canvas (extractTileRgb pixels width height x y bgra).1 width x y
        (tileExtent width x) (tileExtent height y)) j =
      if j < height * width ∧ tileOf width j = t then (rgbOf bgra pixels j, 255)
      else pixelAt canvas j := by
  intro x y
  have h : ∀ w ∈ (List.range (tileExtent height y)).flatMap fun dy =>
      (List.range (tileExtent width x)).map fun dx => ((y + dy) * width + (x + dx),
        rgbAt (extractTileRgb pixels width height x y bgra).1 (dy * tileExtent width x + dx)),
      w.1 * 4 + 3 < canvas.length ∧ w.2 = rgbOf bgra pixels w.1 := by
    intro w hw
    simp only [List.mem_flatMap, List.mem_map, List.mem_range] at hw
    obtain ⟨dy, hdy, dx, hdx, rfl⟩ := hw
    have hin : (y + dy) * width + (x + dx) ∈ tilePixels width height t := by
      simp only [tilePixels, List.mem_flatMap, List.mem_map, List.mem_range]
      exact ⟨dy, hdy, dx, hdx, rfl⟩
    have hlt := (mem_tilePixels.mp hin).1
    exact ⟨by simp only; omega, rgbAt_extractTileRgb hpixels hdy hdx⟩
  rw [paintTile_eq, pixelAt_foldl_paint h]
  refine if_congr ?_ rfl rfl
  rw [← mem_tilePixels, List.map_flatMap]
  simp only [List.map_map, tilePixels]
  rfl

end XeniaPeer.Video
