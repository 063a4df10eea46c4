import Mathlib.Logic.Equiv.List
import Mathlib.Tactic.DeriveEncodable
import XeniaPeer.Video.Tiles

/-!
# The HDC codec

The encoder compares each tile of a frame with what it remembers of the tile and sends the tiles
that changed, or all of them in a keyframe; the decoder paints them into a canvas
(`HdcEncoder::encode`, `HdcDecoder::decode` in `hdc.rs`).

Main result: `canvas_shows_latest`.
-/

namespace XeniaPeer.Video

open Foundation

/-! ## Packets -/

inductive TileContentType where
  | static
  | text
  | photo
  | video

abbrev F32Bits := UInt32

structure TilePatch where
  index : UInt16
  surprise : F32Bits
  values : Bytes
  contentType : TileContentType
  (tileW tileH : UInt16)

structure HdcPacket where
  tag : UInt8
  (width height : UInt32)
  (tileCols tileRows : UInt16)
  (frameId ptsMs : UInt64)
  patches : List TilePatch

structure EncodedPacket where
  bytes : Bytes
  ptsMs : UInt64
  isKeyframe : Bool

structure DecodedFrame where
  (width height : UInt32)
  pixelFormat : PixelFormat
  pixels : Bytes
  ptsMs : UInt64

inductive CodecError where
  | inputMismatch (text : String)
  | decodeFailed (text : String)

structure PacketFormat where
  serialize : HdcPacket → Bytes
  deserialize : Bytes → Except String HdcPacket
  deserialize_serialize : ∀ packet, deserialize (serialize packet) = .ok packet

/-! ## The encoder -/

/-- What the encoder computes from the pixels of one frame: the features of the tile that starts
at a pixel, whether a tile with these features, old and new, has changed and by how much, and what
kind of content the tile is. -/
structure Analysis (Φ : Type) where
  features : Nat → Nat → Φ
  changed : Nat → Φ → Φ → Bool
  surprise : Nat → Φ → Φ → F32Bits
  classify : Nat → Nat → TileContentType

structure TileState (Φ : Type) where
  features : Φ
  contentType : TileContentType
  staticCount : UInt32

def maxDeltaPatches : Nat := 512

def defaultKeyframeIntervalMs : UInt64 := 10000

/-- The encoder; the remembered tiles are given by their numbers, and the grid is that of the
parameters. -/
structure HdcEncoder (Φ : Type) where
  params : EncodeParams
  (tileCols tileRows : UInt16)
  prevTiles : Nat → TileState Φ
  frameCount : UInt64
  staticThreshold : UInt32
  (keyframeIntervalMs lastKeyframePtsMs : UInt64)
  cols_eq : tileCols = UInt16.ofNat (tilesAcross params.width.toNat)
  rows_eq : tileRows = UInt16.ofNat (tilesAcross params.height.toNat)

namespace HdcEncoder

variable {Φ : Type}

def new (zero : Φ) (params : EncodeParams) : HdcEncoder Φ where
  params := params
  tileCols := UInt16.ofNat (tilesAcross params.width.toNat)
  tileRows := UInt16.ofNat (tilesAcross params.height.toNat)
  prevTiles := fun _ => ⟨zero, .static, 0⟩
  frameCount := 0
  staticThreshold := max params.targetFps 1
  keyframeIntervalMs := defaultKeyframeIntervalMs
  lastKeyframePtsMs := 0
  cols_eq := rfl
  rows_eq := rfl

def setKeyframeIntervalMs (e : HdcEncoder Φ) (intervalMs : UInt64) : HdcEncoder Φ :=
  { e with keyframeIntervalMs := intervalMs }

def isKeyframe (e : HdcEncoder Φ) (ptsMs : UInt64) : Bool :=
  e.frameCount == 0 || (0 < e.keyframeIntervalMs.toNat &&
    e.keyframeIntervalMs.toNat ≤ ptsMs.toNat - e.lastKeyframePtsMs.toNat)

structure Scan (Φ : Type) where
  prevTiles : Nat → TileState Φ
  patches : List TilePatch

def full (keyframe : Bool) (s : Scan Φ) : Bool := !keyframe && maxDeltaPatches ≤ s.patches.length

section Tiles

variable (e : HdcEncoder Φ) (a : Analysis Φ) (raw : Bytes) (keyframe : Bool)

def advance (idx tileX tileY : Nat) (tile : TileState Φ) : TileState Φ :=
  let features := a.features tileX tileY
  if a.changed idx tile.features features then
    ⟨features, a.classify tileX tileY, 0⟩
  else
    let staticCount := tile.staticCount + 1
    ⟨features, if e.staticThreshold ≤ staticCount then .static else tile.contentType, staticCount⟩

def patch (idx tileX tileY : Nat) (tile : TileState Φ) : TilePatch :=
  let extracted := extractTileRgb raw e.params.width.toNat e.params.height.toNat tileX tileY
    (e.params.pixelFormat == .bgra)
  { index := UInt16.ofNat idx
    surprise := a.surprise idx tile.features (a.features tileX tileY)
    values := extracted.1
    contentType := (e.advance a idx tileX tileY tile).contentType
    tileW := extracted.2.1
    tileH := extracted.2.2 }

def visitTile (idx tileX tileY : Nat) (s : Scan Φ) : Scan Φ × Bool :=
  let tile := s.prevTiles idx
  let prevTiles := Function.update s.prevTiles idx (e.advance a idx tileX tileY tile)
  if keyframe || a.changed idx tile.features (a.features tileX tileY) then
    let s' : Scan Φ := ⟨prevTiles, s.patches ++ [e.patch a raw idx tileX tileY tile]⟩
    (s', full keyframe s')
  else
    (⟨prevTiles, s.patches⟩, false)

def scanRow (row : Nat) : Scan Φ → Scan Φ :=
  forBreak (fun col => e.visitTile a raw keyframe (row * e.tileCols.toNat + col) (col * tileSize)
    (row * tileSize)) (List.range e.tileCols.toNat)

def scanTiles : Scan Φ :=
  forBreak (fun row s => (e.scanRow a raw keyframe row s,
      full keyframe (e.scanRow a raw keyframe row s)))
    (List.range e.tileRows.toNat) ⟨e.prevTiles, []⟩

end Tiles

def debugPixelFormat : PixelFormat → String
  | .rgba => "Rgba"
  | .bgra => "Bgra"

def packet (e : HdcEncoder Φ) (a : Analysis Φ) (raw : Bytes) (ptsMs : UInt64) : HdcPacket where
  tag := if e.isKeyframe ptsMs then 1 else 2
  width := e.params.width
  height := e.params.height
  tileCols := e.tileCols
  tileRows := e.tileRows
  frameId := e.frameCount
  ptsMs := ptsMs
  patches := (e.scanTiles a raw (e.isKeyframe ptsMs)).patches

def next (e : HdcEncoder Φ) (a : Analysis Φ) (raw : Bytes) (ptsMs : UInt64) : HdcEncoder Φ :=
  { e with
    prevTiles := (e.scanTiles a raw (e.isKeyframe ptsMs)).prevTiles
    frameCount := e.frameCount + 1
    lastKeyframePtsMs := if e.isKeyframe ptsMs then ptsMs else e.lastKeyframePtsMs }

def encode (bincode : PacketFormat) (e : HdcEncoder Φ) (a : Analysis Φ) (raw : Bytes)
    (ptsMs : UInt64) : Except CodecError (List EncodedPacket) × HdcEncoder Φ :=
  if raw.length ≠ e.params.frameSize then
    (.error (.inputMismatch ("hdc: expected " ++ toString e.params.frameSize ++ " bytes for " ++
      toString e.params.width ++ "x" ++ toString e.params.height ++ " " ++
      debugPixelFormat e.params.pixelFormat ++ ", got " ++ toString raw.length)), e)
  else
    (.ok [⟨bincode.serialize (e.packet a raw ptsMs), ptsMs, e.isKeyframe ptsMs⟩],
      e.next a raw ptsMs)

end HdcEncoder

open HdcEncoder

/-! ## The decoder -/

structure HdcDecoder where
  canvas : Bytes
  (width height : UInt32)
  (tileCols tileRows : UInt16)
  primed : Bool

namespace HdcDecoder

def new : HdcDecoder := ⟨[], 0, 0, 0, 0, false⟩

def open? (d : HdcDecoder) (p : HdcPacket) : Except CodecError HdcDecoder :=
  if p.tag = 1 then
    .ok ⟨List.replicate (rgbaLen p.width p.height) 0, p.width, p.height, p.tileCols, p.tileRows,
      true⟩
  else if p.tag = 2 then do
    failIf (d.primed = false) (.decodeFailed "hdc: delta received before first keyframe")
    failIf (p.width ≠ d.width ∨ p.height ≠ d.height)
      (.decodeFailed "hdc: delta declared different dimensions than current canvas")
    pure d
  else
    .error (.decodeFailed ("hdc: unknown packet tag 0x" ++
      String.ofList (Nat.toDigits 16 p.tag.toNat)))

def checkPatch (d : HdcDecoder) (patch : TilePatch) : Except CodecError Unit := do
  failIf (d.tileCols.toNat * d.tileRows.toNat ≤ patch.index.toNat)
    (.decodeFailed ("hdc: tile index " ++ toString patch.index ++ " out of range"))
  failIf (patch.values.length ≠ patch.tileW.toNat * patch.tileH.toNat * 3)
    (.decodeFailed ("hdc: tile " ++ toString patch.index ++ " has " ++
      toString patch.values.length ++ " bytes, declared " ++ toString patch.tileW ++ "×" ++
      toString patch.tileH ++ "×3"))

def paintPatch (d : HdcDecoder) (patch : TilePatch) : HdcDecoder :=
  let tileX := patch.index.toNat % d.tileCols.toNat * tileSize
  let tileY := patch.index.toNat / d.tileCols.toNat * tileSize
  { d with
    canvas := paintTile d.canvas patch.values d.width.toNat tileX tileY patch.tileW.toNat
      patch.tileH.toNat }

def applyPatches (d : HdcDecoder) : List TilePatch → Except CodecError Unit × HdcDecoder
  | [] => (.ok (), d)
  | patch :: patches =>
    match d.checkPatch patch with
    | .error err => (.error err, d)
    | .ok () => (d.paintPatch patch).applyPatches patches

def decode (bincode : PacketFormat) (d : HdcDecoder) (packet : EncodedPacket) :
    Except CodecError (List DecodedFrame) × HdcDecoder :=
  match bincode.deserialize packet.bytes with
  | .error err => (.error (.decodeFailed ("hdc decode bincode: " ++ err)), d)
  | .ok p =>
    match d.open? p with
    | .error err => (.error err, d)
    | .ok opened =>
      match opened.applyPatches p.patches with
      | (.error err, d') => (.error err, d')
      | (.ok (), d') => (.ok [⟨d'.width, d'.height, .rgba, d'.canvas, p.ptsMs⟩], d')

end HdcDecoder

/-! ## Which tiles a frame sends -/

def EncodeParams.tiles (p : EncodeParams) : Nat :=
  tilesAcross p.height.toNat * tilesAcross p.width.toNat

/-- The number of each tile has 16 bits. -/
def EncodeParams.Few (p : EncodeParams) : Prop := p.tiles ≤ 65535

namespace HdcEncoder

variable {Φ : Type} (e : HdcEncoder Φ) (a : Analysis Φ) (raw : Bytes) (keyframe : Bool)

def tileX (t : Nat) : Nat := t % tilesAcross e.params.width.toNat * tileSize

def tileY (t : Nat) : Nat := t / tilesAcross e.params.width.toNat * tileSize

def wants (t : Nat) : Bool :=
  keyframe || a.changed t (e.prevTiles t).features (a.features (e.tileX t) (e.tileY t))

def wantedBefore (t : Nat) : Nat := ((List.range t).filter (e.wants a keyframe)).length

def reaches (t : Nat) : Bool := keyframe || e.wantedBefore a keyframe t < maxDeltaPatches

def sentTiles : List Nat :=
  (List.range e.params.tiles).filter fun t => e.wants a keyframe t && e.reaches a keyframe t

def visit (t : Nat) : Scan Φ → Scan Φ × Bool :=
  e.visitTile a raw keyframe t (e.tileX t) (e.tileY t)

def remembered (t : Nat) : TileState Φ := e.advance a t (e.tileX t) (e.tileY t) (e.prevTiles t)

def patchOf (t : Nat) : TilePatch := e.patch a raw t (e.tileX t) (e.tileY t) (e.prevTiles t)

lemma visit_fst {t : Nat} {s : Scan Φ} (hprev : s.prevTiles t = e.prevTiles t) :
    (e.visit a raw keyframe t s).1 = ⟨Function.update s.prevTiles t (e.remembered a t),
      s.patches ++ if e.wants a keyframe t then [e.patchOf a raw t] else []⟩ := by
  simp only [visit, visitTile, hprev]
  rw [← wants]
  cases e.wants a keyframe t with
  | true => rfl
  | false => simp [remembered]

lemma wantedBefore_succ (t : Nat) : e.wantedBefore a keyframe (t + 1) =
    e.wantedBefore a keyframe t + if e.wants a keyframe t then 1 else 0 := by
  unfold wantedBefore
  rw [List.range_succ, List.filter_append, List.length_append, List.filter_singleton]
  cases e.wants a keyframe t <;> rfl

lemma wantedBefore_mono {t u : Nat} (h : t ≤ u) :
    e.wantedBefore a keyframe t ≤ e.wantedBefore a keyframe u := by
  induction h with
  | refl => exact le_refl _
  | step _ ih =>
    rw [wantedBefore_succ]
    omega

variable {e a raw keyframe}

lemma visit_breaks (t : Nat) {s : Scan Φ} (hs : full keyframe s = false) :
    (e.visit a raw keyframe t s).2 = full keyframe (e.visit a raw keyframe t s).1 := by
  simp only [visit, visitTile]
  split
  · rfl
  · exact hs.symm

lemma not_full_iff {s : Scan Φ} :
    full keyframe s = false ↔ keyframe = true ∨ s.patches.length < maxDeltaPatches := by
  cases keyframe <;> simp [full]

lemma reaches_iff {t : Nat} : e.reaches a keyframe t = true ↔
    keyframe = true ∨ e.wantedBefore a keyframe t < maxDeltaPatches := by
  simp [reaches]

lemma forBreak_visit {m t0 : Nat} {s : Scan Φ}
    (hprev : ∀ t, t0 ≤ t → s.prevTiles t = e.prevTiles t)
    (hlen : s.patches.length = e.wantedBefore a keyframe t0) (hroom : full keyframe s = false) :
    (∀ t, (forBreak (e.visit a raw keyframe) (List.range' t0 m) s).prevTiles t =
        if t0 ≤ t ∧ t < t0 + m ∧ e.reaches a keyframe t = true then e.remembered a t
        else s.prevTiles t) ∧
      (forBreak (e.visit a raw keyframe) (List.range' t0 m) s).patches =
        s.patches ++ ((List.range' t0 m).filter fun t =>
          e.wants a keyframe t && e.reaches a keyframe t).map (e.patchOf a raw) ∧
      (keyframe = false → (forBreak (e.visit a raw keyframe) (List.range' t0 m) s).patches.length ≤
        maxDeltaPatches) := by
  induction m generalizing t0 s with
  | zero =>
    refine ⟨fun t => ?_, by simp [forBreak], fun hkey => ?_⟩
    · rw [if_neg (by omega)]
      rfl
    · rcases not_full_iff.mp hroom with h | h
      · rw [hkey] at h
        cases h
      · exact h.le
  | succ m ih =>
    have hrea : e.reaches a keyframe t0 = true := by
      rw [reaches_iff, ← hlen]
      exact not_full_iff.mp hroom
    have hfirst := visit_fst e a raw keyframe (hprev t0 le_rfl)
    set s1 := (e.visit a raw keyframe t0 s).1 with hs1
    have hlen1 : s1.patches.length = e.wantedBefore a keyframe (t0 + 1) := by
      rw [hfirst, wantedBefore_succ, ← hlen, List.length_append]
      cases e.wants a keyframe t0 <;> rfl
    have hprev1 : ∀ t, s1.prevTiles t = if t = t0 then e.remembered a t else s.prevTiles t := by
      intro t
      rw [hfirst]
      by_cases ht : t = t0
      · subst ht
        simp
      · simp [ht]
    rw [List.range'_succ, forBreak, visit_breaks t0 hroom, ← hs1, List.filter_cons, hrea]
    cases hfull : full keyframe s1 with
    | true =>
      -- the loop breaks off, and behind it no tile is reached
      simp only [full, Bool.and_eq_true, Bool.not_eq_true', decide_eq_true_eq] at hfull
      obtain ⟨hkey, hmax⟩ := hfull
      have hbey : ∀ t, t0 + 1 ≤ t → e.reaches a keyframe t = false := by
        intro t ht
        have := wantedBefore_mono e a keyframe ht
        simp only [reaches, hkey, Bool.false_or, decide_eq_false_iff_not, not_lt]
        rw [hkey] at hlen1 this
        omega
      have hnone : ((List.range' (t0 + 1) m).filter fun t =>
          e.wants a keyframe t && e.reaches a keyframe t) = [] := by
        rw [List.filter_eq_nil_iff]
        intro t ht
        simp [hbey t (List.mem_range'_1.mp ht).1]
      refine ⟨fun t => ?_, ?_, fun _ => ?_⟩
      · rw [if_pos rfl, hprev1]
        by_cases ht : t = t0
        · subst ht
          rw [if_pos rfl, if_pos ⟨le_rfl, by omega, hrea⟩]
        · rw [if_neg ht, if_neg]
          rintro ⟨hle, -, hr⟩
          rw [hbey t (by omega)] at hr
          cases hr
      · rw [if_pos rfl, hfirst, hnone, Bool.and_true]
        cases e.wants a keyframe t0 <;> rfl
      · have hsma := (not_full_iff.mp hroom).resolve_left (by simp [hkey])
        rw [if_pos rfl, hfirst, List.length_append]
        split <;> simp only [List.length_singleton, List.length_nil] <;> omega
    | false =>
      obtain ⟨htil, hpat, hmost⟩ := @ih (t0 + 1) s1
        (fun t ht => by rw [hprev1, if_neg (by omega), hprev t (by omega)]) hlen1 hfull
      rw [if_neg (by simp)]
      refine ⟨fun t => ?_, ?_, hmost⟩
      · rw [htil, hprev1]
        by_cases ht : t = t0
        · subst ht
          rw [if_neg (by omega), if_pos rfl, if_pos ⟨le_rfl, by omega, hrea⟩]
        · rw [if_neg ht]
          refine if_congr ⟨?_, ?_⟩ rfl rfl
          · exact fun h => ⟨by omega, by omega, h.2.2⟩
          · exact fun h => ⟨by omega, by omega, h.2.2⟩
      · rw [hpat, hfirst, Bool.and_true]
        cases e.wants a keyframe t0 <;> simp

lemma grid_eq (hfew : e.params.Few) (hpos : 0 < e.params.tiles) :
    e.tileCols.toNat = tilesAcross e.params.width.toNat ∧
      e.tileRows.toNat = tilesAcross e.params.height.toNat := by
  unfold EncodeParams.Few EncodeParams.tiles at hfew
  unfold EncodeParams.tiles at hpos
  have hcols := Nat.le_mul_of_pos_left (tilesAcross e.params.width.toNat)
    (Nat.pos_of_mul_pos_right hpos)
  have hrows := Nat.le_mul_of_pos_right (tilesAcross e.params.height.toNat)
    (Nat.pos_of_mul_pos_left hpos)
  rw [e.cols_eq, e.rows_eq]
  exact ⟨UInt16.toNat_ofNat_of_lt' (show _ < 65536 by omega),
    UInt16.toNat_ofNat_of_lt' (show _ < 65536 by omega)⟩

lemma grid_zero (hzero : e.params.tiles = 0) : e.tileRows.toNat = 0 ∨ e.tileCols.toNat = 0 := by
  rw [e.cols_eq, e.rows_eq]
  rcases Nat.mul_eq_zero.mp hzero with h | h
  · exact .inl (by rw [h]; rfl)
  · exact .inr (by rw [h]; rfl)

lemma scanTiles_eq (hfew : e.params.Few) : e.scanTiles a raw keyframe =
      forBreak (e.visit a raw keyframe) (List.range e.params.tiles) ⟨e.prevTiles, []⟩ := by
  have hstart : full keyframe (⟨e.prevTiles, []⟩ : Scan Φ) = false :=
    not_full_iff.mpr (.inr (Nat.zero_lt_succ _))
  rcases Nat.eq_zero_or_pos e.params.tiles with hzero | hpos
  · have hnone : ∀ row s, e.tileCols.toNat = 0 → e.scanRow a raw keyframe row s = s := by
      intro row s hcols
      simp [scanRow, hcols, forBreak]
    rw [hzero, scanTiles]
    rcases grid_zero hzero with hrows | hcols
    · rw [hrows]
      rfl
    · refine (forBreak_fixed (fun row => ?_) _).trans rfl
      rw [hnone row _ hcols, hstart]
  · obtain ⟨hcols, hrows⟩ := grid_eq hfew hpos
    have hrow : ∀ row, e.scanRow a raw keyframe row = forBreak (e.visit a raw keyframe)
        ((List.range e.tileCols.toNat).map fun col => row * e.tileCols.toNat + col) := by
      intro row
      funext s
      rw [forBreak_map]
      refine forBreak_congr (fun col h => ?_) s
      have hlt : col < tilesAcross e.params.width.toNat := hcols ▸ List.mem_range.mp h
      have hclm : e.tileX (row * e.tileCols.toNat + col) = col * tileSize := by
        rw [tileX, hcols, Nat.mul_comm row, Nat.mul_add_mod, Nat.mod_eq_of_lt hlt]
      have hline : e.tileY (row * e.tileCols.toNat + col) = row * tileSize := by
        rw [tileY, hcols, Nat.mul_comm row, Nat.mul_add_div (by omega), Nat.div_eq_of_lt hlt,
          Nat.add_zero]
      rw [visit, hclm, hline]
    rw [scanTiles]
    simp only [hrow]
    rw [forBreak_flatMap visit_breaks _ _ hstart, flatMap_range_row, hcols, hrows]
    rfl

lemma scanTiles_spec (hfew : e.params.Few) :
    (∀ t < e.params.tiles, (e.scanTiles a raw keyframe).prevTiles t =
        if e.reaches a keyframe t then e.remembered a t else e.prevTiles t) ∧
      (e.scanTiles a raw keyframe).patches = (e.sentTiles a keyframe).map (e.patchOf a raw) ∧
      (keyframe = false → (e.scanTiles a raw keyframe).patches.length ≤ maxDeltaPatches) := by
  rw [scanTiles_eq hfew, List.range_eq_range']
  obtain ⟨htil, hpat, hmost⟩ := @forBreak_visit Φ e a raw keyframe e.params.tiles 0
    ⟨e.prevTiles, []⟩ (fun _ _ => rfl) rfl (not_full_iff.mpr (.inr (Nat.zero_lt_succ _)))
  refine ⟨fun t ht => ?_, ?_, hmost⟩
  · rw [htil]
    exact if_congr ⟨fun h => h.2.2, fun h => ⟨Nat.zero_le t, by omega, h⟩⟩ rfl rfl
  · rw [hpat, List.nil_append, sentTiles, List.range_eq_range']

lemma mem_sentTiles {t : Nat} : t ∈ e.sentTiles a keyframe ↔ t < e.params.tiles ∧
    e.wants a keyframe t = true ∧ e.reaches a keyframe t = true := by
  simp [sentTiles]

lemma mem_sentTiles_keyframe {t : Nat} : t ∈ e.sentTiles a true ↔ t < e.params.tiles := by
  simp [mem_sentTiles, wants, reaches]

lemma area_lt {p : EncodeParams} (hfew : p.Few) : p.height.toNat * p.width.toNat * 4 < 2 ^ 64 := by
  have hup : ∀ n, n ≤ tilesAcross n * 64 := by
    intro n
    unfold tilesAcross tileSize
    omega
  have h := Nat.mul_le_mul (hup p.height.toNat) (hup p.width.toNat)
  rw [Nat.mul_mul_mul_comm] at h
  unfold EncodeParams.Few EncodeParams.tiles at hfew
  omega

lemma rgbaLen_eq {p : EncodeParams} (hfew : p.Few) :
    rgbaLen p.width p.height = p.height.toNat * p.width.toNat * 4 := by
  rw [rgbaLen, Nat.mul_comm p.width.toNat, Nat.mod_eq_of_lt (area_lt hfew)]

lemma frameSize_eq {p : EncodeParams} (hfew : p.Few) :
    p.frameSize = p.height.toNat * p.width.toNat * 4 := by
  have h : p.stride * p.height.toNat = p.height.toNat * p.width.toNat * 4 := by
    unfold EncodeParams.stride
    cases p.pixelFormat <;> simp only [PixelFormat.bpp] <;> ring
  rw [EncodeParams.frameSize, h, Nat.mod_eq_of_lt (area_lt hfew)]

end HdcEncoder

/-! ## What the decoder makes of it -/

section Decode

variable {Φ : Type} {e : HdcEncoder Φ} {a : Analysis Φ} {raw : Bytes} {d : HdcDecoder}

structure HdcDecoder.SetUp (d : HdcDecoder) (p : EncodeParams) : Prop where
  primed : d.primed = true
  width : d.width = p.width
  height : d.height = p.height
  cols : d.tileCols = UInt16.ofNat (tilesAcross p.width.toNat)
  rows : d.tileRows = UInt16.ofNat (tilesAcross p.height.toNat)
  length : d.canvas.length = p.height.toNat * p.width.toNat * 4

def shownPixel (p : EncodeParams) (raw : Bytes) (i : Nat) : Rgb × UInt8 :=
  (rgbOf (p.pixelFormat == .bgra) raw i, 255)

lemma paintPatch_spec (hfew : e.params.Few) (hsize : raw.length = e.params.frameSize)
    (hd : d.SetUp e.params) {t : Nat} (ht : t < e.params.tiles) :
    d.checkPatch (e.patchOf a raw t) = .ok () ∧ (d.paintPatch (e.patchOf a raw t)).SetUp e.params ∧
      ∀ j, pixelAt (d.paintPatch (e.patchOf a raw t)).canvas j =
        if j < e.params.height.toNat * e.params.width.toNat ∧ tileOf e.params.width.toNat j = t
        then shownPixel e.params raw j else pixelAt d.canvas j := by
  obtain ⟨hcols, hrows⟩ := e.grid_eq hfew (by omega)
  have h : (e.patchOf a raw t).index.toNat = t := by
    refine UInt16.toNat_ofNat_of_lt' (show t < 65536 from ?_)
    have : e.params.tiles ≤ 65535 := hfew
    omega
  have hdco : d.tileCols.toNat = tilesAcross e.params.width.toNat := by
    rw [hd.cols, ← e.cols_eq, hcols]
  have hdro : d.tileRows.toNat = tilesAcross e.params.height.toNat := by
    rw [hd.rows, ← e.rows_eq, hrows]
  have hw : (e.patchOf a raw t).tileW.toNat = tileExtent e.params.width.toNat (e.tileX t) :=
    UInt16.toNat_ofNat_of_lt' (tileExtent_lt_u16 _ _)
  have hh : (e.patchOf a raw t).tileH.toNat = tileExtent e.params.height.toNat (e.tileY t) :=
    UInt16.toNat_ofNat_of_lt' (tileExtent_lt_u16 _ _)
  refine ⟨?_, ⟨hd.primed, hd.width, hd.height, hd.cols, hd.rows, ?_⟩, fun j => ?_⟩
  · simp only [HdcDecoder.checkPatch, guard_bind_ok, failIf_ok, h, hdco, hdro, hw, hh,
      ne_eq, not_not, not_le]
    refine ⟨?_, length_extractTileRgb⟩
    rw [Nat.mul_comm]
    exact ht
  · rw [HdcDecoder.paintPatch, length_paintTile, hd.length]
  · have hpai := pixelAt_paintTile hd.length (hsize.trans (frameSize_eq hfew)) t
      (e.params.pixelFormat == .bgra) j
    simp only [HdcDecoder.paintPatch, h, hdco, hw, hh, hd.width]
    exact hpai

lemma applyPatches_spec (hfew : e.params.Few) (hsize : raw.length = e.params.frameSize)
    (hd : d.SetUp e.params) {tiles : List Nat} (htiles : ∀ t ∈ tiles, t < e.params.tiles) :
    ∃ d', d.applyPatches (tiles.map (e.patchOf a raw)) = (.ok (), d') ∧ d'.SetUp e.params ∧
      ∀ j < e.params.height.toNat * e.params.width.toNat, pixelAt d'.canvas j =
        if tileOf e.params.width.toNat j ∈ tiles then shownPixel e.params raw j
        else pixelAt d.canvas j := by
  induction tiles generalizing d with
  | nil => exact ⟨d, rfl, hd, fun j _ => by simp⟩
  | cons t tiles ih =>
    obtain ⟨ht, hrest⟩ := List.forall_mem_cons.mp htiles
    obtain ⟨hchk, hset, hpxl⟩ := paintPatch_spec (a := a) hfew hsize hd ht
    obtain ⟨d', hrun, hd', hpix⟩ := ih hset hrest
    refine ⟨d', ?_, hd', fun j hj => ?_⟩
    · rw [List.map_cons, HdcDecoder.applyPatches, hchk]
      exact hrun
    · rw [hpix j hj, hpxl j]
      by_cases hmem : tileOf e.params.width.toNat j ∈ tiles
      · simp [hmem]
      · simp [hmem, hj]

lemma decode_encode (bincode : PacketFormat) {ptsMs : UInt64} (hfew : e.params.Few)
    (hsize : raw.length = e.params.frameSize) (hd : e.isKeyframe ptsMs = false → d.SetUp e.params) :
    ∃ d', d.decode bincode ⟨bincode.serialize (e.packet a raw ptsMs), ptsMs, e.isKeyframe ptsMs⟩ =
          (.ok [⟨e.params.width, e.params.height, .rgba, d'.canvas, ptsMs⟩], d') ∧
      d'.SetUp e.params ∧ ∀ j < e.params.height.toNat * e.params.width.toNat, pixelAt d'.canvas j =
        if tileOf e.params.width.toNat j ∈ e.sentTiles a (e.isKeyframe ptsMs)
        then shownPixel e.params raw j else pixelAt d.canvas j := by
  have htil : ∀ t ∈ e.sentTiles a (e.isKeyframe ptsMs), t < e.params.tiles :=
    fun t ht => (mem_sentTiles.mp ht).1
  -- the canvas behind the header: blank for a keyframe, and as it was for a delta
  obtain ⟨opened, hopen, hset, hkept⟩ : ∃ opened,
      d.open? (e.packet a raw ptsMs) = .ok opened ∧ opened.SetUp e.params ∧
        (e.isKeyframe ptsMs = false → opened = d) := by
    cases hkey : e.isKeyframe ptsMs with
    | true =>
      refine ⟨_, if_pos (by simp [packet, hkey]), ⟨rfl, rfl, rfl, e.cols_eq, e.rows_eq,
        ?_⟩, by simp⟩
      exact List.length_replicate.trans (rgbaLen_eq hfew)
    | false =>
      have h := hd hkey
      refine ⟨d, ?_, h, fun _ => rfl⟩
      simp [HdcDecoder.open?, packet, hkey, h.primed, h.width, h.height,
        failIf, bind, Except.bind, pure, Except.pure]
  obtain ⟨d', hrun, hd', hpix⟩ := applyPatches_spec (a := a) hfew hsize hset htil
  refine ⟨d', ?_, hd', fun j hj => ?_⟩
  · have hpat : (e.packet a raw ptsMs).patches =
        (e.sentTiles a (e.isKeyframe ptsMs)).map (e.patchOf a raw) := (scanTiles_spec hfew).2.1
    simp only [HdcDecoder.decode, bincode.deserialize_serialize, hopen, hpat, hrun, hd'.width,
      hd'.height]
    rfl
  · rw [hpix j hj]
    cases hkey : e.isKeyframe ptsMs with
    | true =>
      have hall : tileOf e.params.width.toNat j ∈ e.sentTiles a true :=
        mem_sentTiles_keyframe.mpr (tileOf_lt hj)
      rw [if_pos hall, if_pos hall]
    | false => rw [hkept hkey]

end Decode

/-! ## A session -/

/-- What the capture side does: it makes an encoder for pictures of a size, also in the place of
another one, sets its interval, and gives it frames. -/
inductive Input (Φ : Type) where
  | start (params : EncodeParams)
  | interval (intervalMs : UInt64)
  | frame (a : Analysis Φ) (raw : Bytes) (ptsMs : UInt64)

structure Shot where
  params : EncodeParams
  raw : Bytes
  packet : EncodedPacket

def HdcEncoder.shot {Φ : Type} (bincode : PacketFormat) (e : HdcEncoder Φ) (a : Analysis Φ)
    (raw : Bytes) (ptsMs : UInt64) : Shot :=
  ⟨e.params, raw, ⟨bincode.serialize (e.packet a raw ptsMs), ptsMs, e.isKeyframe ptsMs⟩⟩

@[simp] lemma HdcEncoder.shot_params {Φ : Type} (bincode : PacketFormat) (e : HdcEncoder Φ)
    (a : Analysis Φ) (raw : Bytes) (ptsMs : UInt64) :
    (e.shot bincode a raw ptsMs).params = e.params := rfl

structure Sender (Φ : Type) where
  encoder : Option (HdcEncoder Φ)
  shots : List Shot

section Session

variable {Φ : Type} (bincode : PacketFormat) (zero : Φ)

def Sender.step (s : Sender Φ) : Input Φ → Sender Φ
  | .start params => { s with encoder := some (.new zero params) }
  | .interval intervalMs => { s with encoder := s.encoder.map (·.setKeyframeIntervalMs intervalMs) }
  | .frame a raw ptsMs =>
    match s.encoder with
    | none => s
    | some e =>
      match e.encode bincode a raw ptsMs with
      | (.error _, e') => { s with encoder := some e' }
      | (.ok packets, e') => ⟨some e', s.shots ++ packets.map fun p => ⟨e.params, raw, p⟩⟩

lemma Sender.step_frame {e : HdcEncoder Φ} {raw : Bytes} (hsize : raw.length = e.params.frameSize)
    (shots : List Shot) (a : Analysis Φ) (ptsMs : UInt64) :
    Sender.step bincode zero ⟨some e, shots⟩ (.frame a raw ptsMs) =
      ⟨some (e.next a raw ptsMs), shots ++ [e.shot bincode a raw ptsMs]⟩ := by
  simp [Sender.step, encode, shot, hsize]

def shotsOf (inputs : List (Input Φ)) : List Shot :=
  (inputs.foldl (Sender.step bincode zero) ⟨none, []⟩).shots

def decodeAll (d : HdcDecoder) (packets : List EncodedPacket) : Except CodecError HdcDecoder :=
  packets.foldlM (fun d packet =>
    match d.decode bincode packet with
    | (.ok _, d') => .ok d'
    | (.error err, _) => .error err) d

def Shot.has (shot : Shot) (t : Nat) : Bool :=
  match bincode.deserialize shot.packet.bytes with
  | .ok p => p.patches.any fun patch => patch.index.toNat == t
  | .error _ => false

def latest (t : Nat) (shots : List Shot) : Option Shot :=
  (shots.filter fun shot => shot.has bincode t).getLast?

/-- Each pixel is from the last frame whose packet had its tile. -/
def ShowsLatest (d : HdcDecoder) (shots : List Shot) (p : EncodeParams) : Prop :=
  ∀ i < p.height.toNat * p.width.toNat,
    ∃ shot, latest bincode (tileOf p.width.toNat i) shots = some shot ∧
      shot.params.width = p.width ∧ shot.params.height = p.height ∧
      pixelAt d.canvas i = shownPixel shot.params shot.raw i

def Shot.Made (Φ : Type) (shot : Shot) : Prop :=
  ∃ (e : HdcEncoder Φ) (a : Analysis Φ) (raw : Bytes) (ptsMs : UInt64), e.params.Few ∧
    shot = e.shot bincode a raw ptsMs

structure Coupled (s : Sender Φ) (d : HdcDecoder) : Prop where
  few : ∀ e ∈ s.encoder, e.params.Few
  begun : ∀ e ∈ s.encoder, e.frameCount ≠ 0 →
    ∃ last, s.shots.getLast? = some last ∧ last.params = e.params
  setUp : ∀ last, s.shots.getLast? = some last → d.SetUp last.params
  shows : ∀ last, s.shots.getLast? = some last → ShowsLatest bincode d s.shots last.params
  made : ∀ shot ∈ s.shots, shot.Made bincode Φ

variable {bincode zero}

variable (bincode) in
lemma latest_concat (t : Nat) (shots : List Shot) (shot : Shot) :
    latest bincode t (shots ++ [shot]) =
      if shot.has bincode t then some shot else latest bincode t shots := by
  unfold latest
  rw [List.filter_append, List.filter_singleton]
  cases shot.has bincode t <;> simp

lemma has_shot {e : HdcEncoder Φ} (hfew : e.params.Few) (a : Analysis Φ) (raw : Bytes)
    (ptsMs : UInt64) (t : Nat) : (e.shot bincode a raw ptsMs).has bincode t = true ↔
      t ∈ e.sentTiles a (e.isKeyframe ptsMs) := by
  have hpat : (e.packet a raw ptsMs).patches =
      (e.sentTiles a (e.isKeyframe ptsMs)).map (e.patchOf a raw) := (scanTiles_spec hfew).2.1
  have h : ∀ u ∈ e.sentTiles a (e.isKeyframe ptsMs), (e.patchOf a raw u).index.toNat = u := by
    intro u hu
    have hlt := (mem_sentTiles.mp hu).1
    have : e.params.tiles ≤ 65535 := hfew
    exact UInt16.toNat_ofNat_of_lt' (show u < 65536 by omega)
  simp only [Shot.has, shot, bincode.deserialize_serialize, hpat, List.any_map, List.any_eq_true,
    Function.comp_apply, beq_iff_eq]
  constructor
  · rintro ⟨u, hu, rfl⟩
    rwa [h u hu]
  · exact fun ht => ⟨t, ht, h t ht⟩

lemma coupled_frame {e : HdcEncoder Φ} {shots : List Shot} {d : HdcDecoder}
    (h : Coupled bincode ⟨some e, shots⟩ d) (a : Analysis Φ) (ptsMs : UInt64) {raw : Bytes}
    (hsize : raw.length = e.params.frameSize) :
    ∃ frames d', d.decode bincode (e.shot bincode a raw ptsMs).packet = (.ok frames, d') ∧
      Coupled bincode ⟨some (e.next a raw ptsMs), shots ++ [e.shot bincode a raw ptsMs]⟩ d' := by
  have hfew : e.params.Few := h.few e rfl
  -- a delta comes from an encoder whose packet was the last one
  have hlast : e.isKeyframe ptsMs = false →
      ∃ last, shots.getLast? = some last ∧ last.params = e.params := by
    intro hkey
    refine h.begun e rfl fun hzero => ?_
    simp [isKeyframe, hzero] at hkey
  have hrea : e.isKeyframe ptsMs = false → d.SetUp e.params := by
    intro hkey
    obtain ⟨last, hshot, hpar⟩ := hlast hkey
    exact hpar ▸ h.setUp last hshot
  obtain ⟨d', hdec, hset, hpix⟩ := decode_encode (a := a) bincode hfew hsize hrea
  refine ⟨_, d', hdec, fun e' he' => ?_, fun e' he' _ => ?_, fun last hshot => ?_,
    fun last hshot => ?_, fun shot hshot => ?_⟩
  · obtain rfl := Option.some.inj he'
    exact hfew
  · obtain rfl := Option.some.inj he'
    exact ⟨_, List.getLast?_concat, rfl⟩
  · obtain rfl := Option.some.inj ((List.getLast?_concat).symm.trans hshot)
    exact hset
  · obtain rfl := Option.some.inj ((List.getLast?_concat).symm.trans hshot)
    rw [shot_params]
    intro i hi
    have hhas := @has_shot Φ bincode e hfew a raw ptsMs (tileOf e.params.width.toNat i)
    rw [latest_concat]
    by_cases hmem : tileOf e.params.width.toNat i ∈ e.sentTiles a (e.isKeyframe ptsMs)
    · refine ⟨_, if_pos (hhas.mpr hmem), rfl, rfl, ?_⟩
      rw [hpix i hi, if_pos hmem]
      rfl
    · -- the tile is not in the packet, which is then a delta, and the canvas keeps it
      have hkey : e.isKeyframe ptsMs = false := by
        by_contra hkey
        rw [Bool.not_eq_false] at hkey
        rw [hkey] at hmem
        exact hmem (mem_sentTiles_keyframe.mpr (tileOf_lt hi))
      obtain ⟨last, hlast, hpar⟩ := hlast hkey
      obtain ⟨shot, hshot, hw, hhei, hpxl⟩ := h.shows last hlast i (hpar ▸ hi)
      rw [hpar] at hshot hw hhei
      refine ⟨shot, ?_, hw, hhei, ?_⟩
      · rw [if_neg (fun hh => hmem (hhas.mp hh))]
        exact hshot
      · rw [hpix i hi, if_neg hmem, hpxl]
  · rcases List.mem_append.mp hshot with hold | hnew
    · exact h.made shot hold
    · obtain rfl := List.mem_singleton.mp hnew
      exact ⟨e, a, raw, ptsMs, hfew, rfl⟩

variable (zero) in
lemma coupled_step {s : Sender Φ} {d : HdcDecoder} (h : Coupled bincode s d) {input : Input Φ}
    (hfew : ∀ p, input = .start p → p.Few) :
    ∃ sent d', (s.step bincode zero input).shots = s.shots ++ sent ∧
      decodeAll bincode d (sent.map Shot.packet) = .ok d' ∧
      Coupled bincode (s.step bincode zero input) d' := by
  cases input with
  | start params =>
    refine ⟨[], d, by simp [Sender.step], rfl, ?_⟩
    refine ⟨fun e he => ?_, fun e he hcount => ?_, h.setUp, h.shows, h.made⟩
    · obtain rfl := Option.some.inj he
      exact hfew params rfl
    · obtain rfl := Option.some.inj he
      exact absurd rfl hcount
  | interval intervalMs =>
    refine ⟨[], d, by simp [Sender.step], rfl, ?_⟩
    refine ⟨fun e he => ?_, fun e he hcount => ?_, h.setUp, h.shows, h.made⟩
    · obtain ⟨e0, he0, rfl⟩ := Option.map_eq_some_iff.mp he
      exact h.few e0 he0
    · obtain ⟨e0, he0, rfl⟩ := Option.map_eq_some_iff.mp he
      exact h.begun e0 he0 hcount
  | frame a raw ptsMs =>
    obtain ⟨encoder, shots⟩ := s
    cases encoder with
    | none => exact ⟨[], d, by simp [Sender.step], rfl, h⟩
    | some e =>
      by_cases hsize : raw.length = e.params.frameSize
      · obtain ⟨frames, d', hdec, hcou⟩ := coupled_frame h a ptsMs hsize
        rw [Sender.step_frame bincode zero hsize]
        refine ⟨_, d', rfl, ?_, hcou⟩
        simp only [decodeAll, List.map_cons, List.map_nil, List.foldlM_cons, hdec]
        rfl
      · have hstep : Sender.step bincode zero ⟨some e, shots⟩ (.frame a raw ptsMs) =
            ⟨some e, shots⟩ := by
          simp [Sender.step, encode, hsize]
        rw [hstep]
        exact ⟨[], d, by simp, rfl, h⟩

variable (bincode zero) in
lemma coupled_run (d0 : HdcDecoder) {inputs : List (Input Φ)}
    (hfew : ∀ p, .start p ∈ inputs → p.Few) :
    ∃ d, decodeAll bincode d0 ((shotsOf bincode zero inputs).map Shot.packet) = .ok d ∧
      Coupled bincode (inputs.foldl (Sender.step bincode zero) ⟨none, []⟩) d := by
  refine List.foldlRecOn inputs (Sender.step bincode zero)
    (motive := fun s : Sender Φ => ∃ d, decodeAll bincode d0 (s.shots.map Shot.packet) = .ok d ∧
      Coupled bincode s d) ?_ ?_
  · exact ⟨d0, rfl, by simp, by simp, by simp, by simp, by simp⟩
  · rintro s ⟨d, hdec, hcou⟩ input hinp
    obtain ⟨sent, d', hsho, hsent, hcou'⟩ := coupled_step zero hcou (fun p hp => hfew p (hp ▸ hinp))
    refine ⟨d', ?_, hcou'⟩
    rw [hsho, List.map_append, decodeAll, List.foldlM_append]
    rw [decodeAll] at hdec
    rw [hdec]
    exact hsent

lemma has_of_keyframe {shot : Shot} (h : shot.Made bincode Φ) (hkey : shot.packet.isKeyframe = true)
    {t : Nat} (ht : t < shot.params.tiles) : shot.has bincode t = true := by
  obtain ⟨e, a, raw, ptsMs, hfew, rfl⟩ := h
  have hkey' : e.isKeyframe ptsMs = true := hkey
  rw [has_shot hfew, hkey']
  exact mem_sentTiles_keyframe.mpr ht

variable (bincode) in
lemma cut_off_spec {e : HdcEncoder Φ} (hfew : e.params.Few) {a : Analysis Φ} (raw : Bytes)
    {ptsMs : UInt64} {t : Nat} (ht : t < e.params.tiles)
    (hcut : e.reaches a (e.isKeyframe ptsMs) t = false) :
    (e.shot bincode a raw ptsMs).has bincode t = false ∧
      (e.next a raw ptsMs).prevTiles t = e.prevTiles t := by
  constructor
  · rw [Bool.eq_false_iff, ne_eq, has_shot hfew, mem_sentTiles, hcut]
    simp
  · refine ((scanTiles_spec hfew).1 t ht).trans ?_
    rw [hcut]
    rfl

end Session

/-- **The canvas.** For every sequence of inputs, with pictures of any sizes of at most 65535 tiles
and whatever the comparison of tiles says, and from any state of the decoder: it accepts all
packets; then the canvas shows, tile by tile, the most recent frame whose packet had the tile, and
the whole last frame if its packet was a keyframe. A delta has at most 512 patches; a tile that this
cuts off is remembered as it was, and the next frame sends it if it is a keyframe or the tile differs
from that and again fewer than 512 tiles come before it. -/
theorem canvas_shows_latest {Φ : Type} (bincode : PacketFormat) (zero : Φ) (d₀ : HdcDecoder)
    (inputs : List (Input Φ)) (hfew : ∀ p, .start p ∈ inputs → p.Few) :
    (∃ d, decodeAll bincode d₀ ((shotsOf bincode zero inputs).map Shot.packet) = .ok d ∧
      ∀ last, (shotsOf bincode zero inputs).getLast? = some last →
        d.canvas.length = last.params.height.toNat * last.params.width.toNat * 4 ∧
        ShowsLatest bincode d (shotsOf bincode zero inputs) last.params ∧
        (last.packet.isKeyframe = true → ∀ i < last.params.height.toNat * last.params.width.toNat,
            pixelAt d.canvas i = shownPixel last.params last.raw i)) ∧
    (∀ shot ∈ shotsOf bincode zero inputs, shot.packet.isKeyframe = false →
      ∃ p, bincode.deserialize shot.packet.bytes = .ok p ∧ p.patches.length ≤ maxDeltaPatches) ∧
    ∀ (e : HdcEncoder Φ) (a : Analysis Φ) (raw : Bytes) (ptsMs : UInt64) (t : Nat), e.params.Few →
      t < e.params.tiles → e.isKeyframe ptsMs = false →
      maxDeltaPatches ≤ e.wantedBefore a false t →
      (e.shot bincode a raw ptsMs).has bincode t = false ∧
      (e.next a raw ptsMs).prevTiles t = e.prevTiles t ∧
      ∀ (a' : Analysis Φ) (raw' : Bytes) (ptsMs' : UInt64),
        let e' := e.next a raw ptsMs
        (e'.shot bincode a' raw' ptsMs').has bincode t = true ↔
          e'.isKeyframe ptsMs' = true ∨
            (a'.changed t (e.prevTiles t).features (a'.features (e.tileX t) (e.tileY t)) = true ∧
              e'.wantedBefore a' (e'.isKeyframe ptsMs') t < maxDeltaPatches) := by
  obtain ⟨d, hdecoded, hcoupled⟩ := coupled_run bincode zero d₀ hfew
  refine ⟨⟨d, hdecoded, fun last hlast => ?_⟩, fun shot hshot hkey => ?_, ?_⟩
  · have hshows := hcoupled.shows last hlast
    refine ⟨(hcoupled.setUp last hlast).length, hshows, fun hkey i hi => ?_⟩
    -- a keyframe has every tile, so it is the most recent packet of each
    have hhas := has_of_keyframe (hcoupled.made last (List.mem_of_getLast? hlast)) hkey (tileOf_lt hi)
    obtain ⟨shot, hshot, -, -, hpixel⟩ := hshows i hi
    obtain ⟨before, hbefore⟩ := List.getLast?_eq_some_iff.mp hlast
    rw [shotsOf] at hbefore
    have hlatest := latest_concat bincode (tileOf last.params.width.toNat i) before last
    rw [← hbefore, if_pos hhas] at hlatest
    obtain rfl := Option.some.inj (hlatest.symm.trans hshot)
    exact hpixel
  · obtain ⟨e, a, raw, ptsMs, hparams, rfl⟩ := hcoupled.made shot hshot
    have hkey' : e.isKeyframe ptsMs = false := hkey
    refine ⟨_, bincode.deserialize_serialize _, ?_⟩
    exact (scanTiles_spec hparams).2.2 hkey'
  · intro e a raw ptsMs t hparams ht hkey hbefore
    have hcut : e.reaches a (e.isKeyframe ptsMs) t = false := by
      rw [hkey, reaches, Bool.false_or, decide_eq_false_iff_not, Nat.not_lt]
      exact hbefore
    obtain ⟨hnot, hkept⟩ := cut_off_spec bincode hparams raw ht hcut
    refine ⟨hnot, hkept, fun a' raw' ptsMs' => ?_⟩
    have hparams' : (e.next a raw ptsMs).params.Few := hparams
    have ht' : t < (e.next a raw ptsMs).params.tiles := ht
    simp only [has_shot hparams', mem_sentTiles, ht', true_and, wants, hkept,
      reaches_iff, Bool.or_eq_true]
    constructor
    · rintro ⟨hkey' | hchanged, hkey' | hroom⟩
      · exact .inl hkey'
      · exact .inl hkey'
      · exact .inl hkey'
      · exact .inr ⟨hchanged, hroom⟩
    · rintro (hkey' | ⟨hchanged, hroom⟩)
      · exact ⟨.inl hkey', .inl hkey'⟩
      · exact ⟨.inr hchanged, .inr hroom⟩

/-! ## A format and a session -/

instance encodableUInt8 : Encodable UInt8 :=
  .ofLeftInverse UInt8.toNat UInt8.ofNat (fun _ => UInt8.ofNat_toNat)

instance encodableUInt16 : Encodable UInt16 :=
  .ofLeftInverse UInt16.toNat UInt16.ofNat (fun _ => UInt16.ofNat_toNat)

instance encodableUInt32 : Encodable UInt32 :=
  .ofLeftInverse UInt32.toNat UInt32.ofNat (fun _ => UInt32.ofNat_toNat)

instance encodableUInt64 : Encodable UInt64 :=
  .ofLeftInverse UInt64.toNat UInt64.ofNat (fun _ => UInt64.ofNat_toNat)

deriving instance Encodable for TileContentType

deriving instance Encodable for TilePatch

deriving instance Encodable for HdcPacket

def unaryFormat : PacketFormat where
  serialize p := List.replicate (Encodable.encode p) 0
  deserialize b := okOr (Encodable.decode b.length) "no packet"
  deserialize_serialize p := by simp [okOr]

/-- One row of two tiles. -/
def sampleParams : EncodeParams := ⟨65, 1, .bgra, 30⟩

def sampleFrame (pixel : Bytes) : Bytes := (List.replicate 65 pixel).flatten

lemma length_sampleFrame {pixel : Bytes} (h : pixel.length = 4) :
    (sampleFrame pixel).length = sampleParams.frameSize := by
  simp only [sampleFrame, List.length_flatten, List.map_replicate, List.sum_replicate, h]
  rfl

/-- It finds a change in the second tile only. -/
def sampleAnalysis : Analysis Unit :=
  ⟨fun _ _ => (), fun idx _ _ => idx = 1, fun _ _ _ => 0, fun _ _ => .text⟩

/-- A keyframe and a delta. -/
def sampleInputs : List (Input Unit) :=
  [.start sampleParams, .frame sampleAnalysis (sampleFrame [10, 20, 30, 40]) 0,
    .frame sampleAnalysis (sampleFrame [50, 60, 70, 80]) 500]

/-- The first tile shows the keyframe and the second one the delta, with the colours in order. -/
theorem canvas_shows_latest_sample :
    ∃ d, decodeAll unaryFormat .new ((shotsOf unaryFormat () sampleInputs).map Shot.packet) =
        .ok d ∧
      pixelAt d.canvas 0 = ((30, 20, 10), 255) ∧ pixelAt d.canvas 64 = ((70, 60, 50), 255) := by
  have hparams : sampleParams.Few := (by decide : sampleParams.tiles ≤ 65535)
  have hfew : ∀ p, Input.start p ∈ sampleInputs → p.Few := by
    intro p hp
    simp only [sampleInputs, List.mem_cons, Input.start.injEq, reduceCtorEq, List.not_mem_nil,
      or_false] at hp
    exact hp ▸ hparams
  obtain ⟨⟨d, hdecoded, hshown⟩, -⟩ :=
    canvas_shows_latest unaryFormat () HdcDecoder.new sampleInputs hfew
  let first := HdcEncoder.new () sampleParams
  let second := first.next sampleAnalysis (sampleFrame [10, 20, 30, 40]) 0
  let keyframe := first.shot unaryFormat sampleAnalysis (sampleFrame [10, 20, 30, 40]) 0
  let delta := second.shot unaryFormat sampleAnalysis (sampleFrame [50, 60, 70, 80]) 500
  have hshots : shotsOf unaryFormat () sampleInputs = [keyframe] ++ [delta] := by
    have hstart : Sender.step unaryFormat () ⟨none, []⟩ (.start sampleParams) = ⟨some first, []⟩ := rfl
    simp only [shotsOf, sampleInputs, List.foldl_cons, List.foldl_nil, hstart]
    rw [Sender.step_frame unaryFormat () (length_sampleFrame rfl),
      Sender.step_frame unaryFormat () (length_sampleFrame rfl), List.nil_append]
  obtain ⟨-, hlatest, -⟩ := hshown delta (by rw [hshots]; rfl)
  rw [hshots] at hlatest
  have hkeyframe : ∀ t, keyframe.has unaryFormat t = true ↔ t ∈ first.sentTiles sampleAnalysis true :=
    fun t => has_shot (e := first) hparams sampleAnalysis _ 0 t
  have hdelta : ∀ t, delta.has unaryFormat t = true ↔ t ∈ second.sentTiles sampleAnalysis false :=
    fun t => has_shot (e := second) hparams sampleAnalysis _ 500 t
  refine ⟨d, hdecoded, ?_, ?_⟩
  · obtain ⟨shot, hshot, -, -, hpixel⟩ := hlatest 0 (by decide)
    have htile : tileOf delta.params.width.toNat 0 = 0 := by decide +kernel
    have hnot : delta.has unaryFormat 0 = false :=
      Bool.eq_false_iff.mpr fun h => absurd ((hdelta 0).mp h) (by decide +kernel)
    have hhas : keyframe.has unaryFormat 0 = true := (hkeyframe 0).mpr (by decide +kernel)
    rw [htile, latest_concat, hnot] at hshot
    simp only [latest, hhas, List.filter_cons_of_pos, List.filter_nil] at hshot
    obtain rfl := Option.some.inj hshot
    rw [hpixel]
    decide +kernel
  · obtain ⟨shot, hshot, -, -, hpixel⟩ := hlatest 64 (by decide)
    have htile : tileOf delta.params.width.toNat 64 = 1 := by decide +kernel
    rw [htile, latest_concat, if_pos ((hdelta 1).mpr (by decide +kernel))] at hshot
    obtain rfl := Option.some.inj hshot
    rw [hpixel]
    decide +kernel

end XeniaPeer.Video
