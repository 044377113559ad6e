import InkTime.Library.Blocks
import InkTime.Library.WireFormat

/-!
# Bitmaps for the stock firmware

`encode_bmp24` of `stock_protocol.py`: row-major RGB turned into an uncompressed bitmap whose rows run from the
bottom up, in BGR order and padded to words of four bytes.
-/

namespace InkTime.Panel

open WireFormat Blocks

def stockWidth : Nat := 800
def stockHeight : Nat := 480
def stockBmpHeaderBytes : Nat := 54
def stockBmpBytes : Nat := stockBmpHeaderBytes + stockWidth * stockHeight * 3

inductive BmpError where
  /-- `"PHOTOPAINTER-003 RGB length mismatch"` -/
  | lengthMismatch
  /-- Three names for a slice of another length. -/
  | valueError
  /-- A field of `struct.pack` out of range. -/
  | structError
  | assertionError
  deriving DecidableEq

/-- `(raw_row + 3) & ~3` -/
def strideOf (rawRow : Nat) : Nat := rawRow + 3 - (rawRow + 3) % 4

/-- One turn of the loop over a row; the state is `body` and `output`. -/
def writePixel (rgb : Bytes) (row : Nat) (state : Bytes × Nat) (x : Nat) : Except BmpError (Bytes × Nat) :=
  let source := row + x * 3
  match (rgb.drop source).take 3 with
  | [red, green, blue] => .ok (splice state.1 state.2 [blue, green, red], state.2 + 3)
  | _ => .error .valueError

def writeRow (rgb : Bytes) (width rawRow stride : Nat) (state : Bytes × Nat) (y : Nat) : Except BmpError (Bytes × Nat) := do
  let (body, output) ← (List.range width).foldlM (writePixel rgb (y * rawRow)) state
  return (body, output + (stride - rawRow))

/-- The formats `H` and `I` of `struct.pack`. -/
def packUnsigned (size value : Nat) : Except BmpError Bytes :=
  if value < 256 ^ size then .ok (leBytes size value) else .error .structError

/-- The format `i`, of a value that is not negative. -/
def packSigned (value : Nat) : Except BmpError Bytes :=
  if value < 2 ^ 31 then .ok (leBytes 4 value) else .error .structError

/-- `struct.pack("<2sIHHI IiiHHIIiiII", ...)` -/
def bmpHeader (width height pixelBytes : Nat) : Except BmpError Bytes := do
  let fileSize ← packUnsigned 4 (stockBmpHeaderBytes + pixelBytes)
  let reserved ← packUnsigned 2 0
  let offset ← packUnsigned 4 stockBmpHeaderBytes
  let headerSize ← packUnsigned 4 40
  let columns ← packSigned width
  let rows ← packSigned height
  let planes ← packUnsigned 2 1
  let depth ← packUnsigned 2 24
  let compression ← packUnsigned 4 0
  let imageSize ← packUnsigned 4 pixelBytes
  let resolution ← packSigned 2835
  let colors ← packUnsigned 4 0
  return [66, 77] ++ fileSize ++ reserved ++ reserved ++ offset ++ headerSize ++ columns ++ rows ++ planes ++ depth ++
    compression ++ imageSize ++ resolution ++ resolution ++ colors ++ colors

def encodeBmp24 (rgb : Bytes) (width height : ℤ) : Except BmpError Bytes :=
  if width ≤ 0 ∨ height ≤ 0 ∨ (rgb.length : ℤ) ≠ width * height * 3 then .error .lengthMismatch
  else do
    let columns := width.toNat
    let rows := height.toNat
    let rawRow := columns * 3
    let stride := strideOf rawRow
    let pixelBytes := stride * rows
    let (body, _) ← (List.range rows).reverse.foldlM (writeRow rgb columns rawRow stride) (List.replicate pixelBytes 0, 0)
    let header ← bmpHeader columns rows pixelBytes
    if header.length ≠ stockBmpHeaderBytes then .error .assertionError
    else
      let result := header ++ body
      if (columns, rows) = (stockWidth, stockHeight) ∧ result.length ≠ stockBmpBytes then .error .assertionError
      else .ok result

/-! ### The body -/

variable {rgb : Bytes} {width height : Nat}

lemma strideOf_spec (rawRow : Nat) : rawRow ≤ strideOf rawRow ∧ strideOf rawRow < rawRow + 4 ∧ strideOf rawRow % 4 = 0 := by
  unfold strideOf
  omega

/-- A pixel in the order of the bitmap. -/
def bgr (rgb : Bytes) (width y x : Nat) : Bytes := (block 3 (block (width * 3) rgb y) x).reverse

/-- A row of the bitmap with its padding. -/
def bmpRow (rgb : Bytes) (width y : Nat) : Bytes :=
  (List.range width).flatMap (bgr rgb width y) ++ List.replicate (strideOf (width * 3) - width * 3) 0

lemma length_bgr (h : rgb.length = height * (width * 3)) {y x : Nat} (hy : y < height) (hx : x < width) :
    (bgr rgb width y x).length = 3 := by
  rw [bgr, List.length_reverse, length_block (length_block h hy) hx]

lemma length_flatMap_bgr (h : rgb.length = height * (width * 3)) {y : Nat} (hy : y < height) {columns : List Nat}
    (hcolumns : ∀ x ∈ columns, x < width) : (columns.flatMap (bgr rgb width y)).length = columns.length * 3 := by
  rw [List.length_flatMap, List.map_congr_left fun x hx => length_bgr h hy (hcolumns x hx)]
  simp

lemma length_bmpRow (h : rgb.length = height * (width * 3)) {y : Nat} (hy : y < height) :
    (bmpRow rgb width y).length = strideOf (width * 3) := by
  have hspec := strideOf_spec (width * 3)
  rw [bmpRow, List.length_append, List.length_replicate, length_flatMap_bgr h hy fun x hx => List.mem_range.mp hx,
    List.length_range]
  omega

lemma slice_pixel (rgb : Bytes) (y : Nat) {x : Nat} (hx : x < width) :
    (rgb.drop (y * (width * 3) + x * 3)).take 3 = block 3 (block (width * 3) rgb y) x := by
  have hin : (x + 1) * 3 ≤ width * 3 := Nat.mul_le_mul_right 3 hx
  rw [block, block, List.drop_take, List.take_take, List.drop_drop, min_eq_left (by omega)]

lemma writePixel_ok (h : rgb.length = height * (width * 3)) {y x : Nat} (hy : y < height) (hx : x < width) (filled : Bytes)
    (room : Nat) : writePixel rgb (y * (width * 3)) (filled ++ List.replicate room 0, filled.length) x =
      .ok (filled ++ bgr rgb width y x ++ List.replicate (room - 3) 0, filled.length + 3) := by
  have hlength := length_block (length_block h hy) hx
  unfold writePixel bgr
  dsimp only
  rw [slice_pixel rgb y hx]
  obtain ⟨red, green, blue, hpixel⟩ := List.length_eq_three.mp hlength
  rw [hpixel]
  dsimp only
  rw [splice_filled]
  rfl

lemma foldlM_writePixel_ok (h : rgb.length = height * (width * 3)) {y : Nat} (hy : y < height) {columns : List Nat}
    (hcolumns : ∀ x ∈ columns, x < width) (filled : Bytes) (room : Nat) :
    columns.foldlM (writePixel rgb (y * (width * 3))) (filled ++ List.replicate room 0, filled.length) =
      .ok (filled ++ columns.flatMap (bgr rgb width y) ++ List.replicate (room - columns.length * 3) 0,
        filled.length + columns.length * 3) := by
  induction columns generalizing filled room with
  | nil =>
    simp
    rfl
  | cons x columns ih =>
    have hx := hcolumns x List.mem_cons_self
    have hnext := ih (fun z hz => hcolumns z (List.mem_cons_of_mem x hz)) (filled ++ bgr rgb width y x) (room - 3)
    rw [List.length_append, length_bgr h hy hx] at hnext
    rw [List.foldlM_cons, writePixel_ok h hy hx]
    change columns.foldlM _ _ = _
    have hleft : room - 3 - columns.length * 3 = room - (columns.length + 1) * 3 := by omega
    have houtput : filled.length + 3 + columns.length * 3 = filled.length + (columns.length + 1) * 3 := by omega
    rw [hnext, List.flatMap_cons, ← List.append_assoc filled, List.length_cons, hleft, houtput]

lemma writeRow_ok (h : rgb.length = height * (width * 3)) {y : Nat} (hy : y < height) (filled : Bytes) {room : Nat}
    (hroom : strideOf (width * 3) ≤ room) :
    writeRow rgb width (width * 3) (strideOf (width * 3)) (filled ++ List.replicate room 0, filled.length) y =
      .ok (filled ++ bmpRow rgb width y ++ List.replicate (room - strideOf (width * 3)) 0,
        filled.length + strideOf (width * 3)) := by
  have hspec := strideOf_spec (width * 3)
  unfold writeRow
  rw [foldlM_writePixel_ok h hy fun x hx => List.mem_range.mp hx, List.length_range]
  change Except.ok (_, _) = _
  have hpad : List.replicate (room - width * 3) (0 : UInt8) =
      List.replicate (strideOf (width * 3) - width * 3) 0 ++ List.replicate (room - strideOf (width * 3)) 0 := by
    rw [← List.replicate_add]
    congr 1
    omega
  rw [hpad, bmpRow]
  congr 2
  · simp only [List.append_assoc]
  · omega

lemma foldlM_writeRow_ok (h : rgb.length = height * (width * 3)) {rows : List Nat} (hrows : ∀ y ∈ rows, y < height)
    (filled : Bytes) {room : Nat} (hroom : rows.length * strideOf (width * 3) ≤ room) :
    rows.foldlM (writeRow rgb width (width * 3) (strideOf (width * 3))) (filled ++ List.replicate room 0, filled.length) =
      .ok (filled ++ rows.flatMap (bmpRow rgb width) ++ List.replicate (room - rows.length * strideOf (width * 3)) 0,
        filled.length + rows.length * strideOf (width * 3)) := by
  induction rows generalizing filled room with
  | nil =>
    simp
    rfl
  | cons y rows ih =>
    have hy := hrows y List.mem_cons_self
    rw [List.length_cons, add_mul, one_mul] at hroom
    have hnext := ih (fun z hz => hrows z (List.mem_cons_of_mem y hz)) (filled ++ bmpRow rgb width y)
      (show rows.length * strideOf (width * 3) ≤ room - strideOf (width * 3) by omega)
    rw [List.length_append, length_bmpRow h hy] at hnext
    rw [List.foldlM_cons, writeRow_ok h hy filled (by omega)]
    change rows.foldlM _ _ = _
    have hleft : room - strideOf (width * 3) - rows.length * strideOf (width * 3) =
        room - (rows.length * strideOf (width * 3) + strideOf (width * 3)) := by omega
    rw [hnext, List.flatMap_cons, ← List.append_assoc filled, List.length_cons, add_mul, one_mul, hleft, add_assoc,
      add_comm (strideOf (width * 3))]

/-! ### The header -/

def headerBytes (width height pixelBytes : Nat) : Bytes :=
  [66, 77] ++ leBytes 4 (stockBmpHeaderBytes + pixelBytes) ++ leBytes 2 0 ++ leBytes 2 0 ++ leBytes 4 stockBmpHeaderBytes ++
    leBytes 4 40 ++ leBytes 4 width ++ leBytes 4 height ++ leBytes 2 1 ++ leBytes 2 24 ++ leBytes 4 0 ++ leBytes 4 pixelBytes ++
    leBytes 4 2835 ++ leBytes 4 2835 ++ leBytes 4 0 ++ leBytes 4 0

/-- The size of the file, its pixels included, fits the word that states it. -/
def FileSizeFits (width height : Nat) : Prop := stockBmpHeaderBytes + strideOf (width * 3) * height < 2 ^ 32

lemma FileSizeFits.columns (h : FileSizeFits width height) (hheight : 0 < height) : width < 2 ^ 31 := by
  have hspec := strideOf_spec (width * 3)
  have hrow : strideOf (width * 3) * 1 ≤ strideOf (width * 3) * height := Nat.mul_le_mul_left _ hheight
  unfold FileSizeFits stockBmpHeaderBytes at h
  omega

lemma FileSizeFits.rows (h : FileSizeFits width height) (hwidth : 0 < width) : height < 2 ^ 31 := by
  have hspec := strideOf_spec (width * 3)
  have hrow : 4 * height ≤ strideOf (width * 3) * height := Nat.mul_le_mul_right _ (by omega)
  unfold FileSizeFits stockBmpHeaderBytes at h
  omega

lemma bmpHeader_ok (h : FileSizeFits width height) (hwidth : 0 < width) (hheight : 0 < height) :
    bmpHeader width height (strideOf (width * 3) * height) = .ok (headerBytes width height (strideOf (width * 3) * height)) := by
  have hcolumns := h.columns hheight
  have hrows := h.rows hwidth
  have hsize : stockBmpHeaderBytes + strideOf (width * 3) * height < 256 ^ 4 := h
  have hpixels : strideOf (width * 3) * height < 256 ^ 4 := by omega
  unfold bmpHeader packUnsigned packSigned
  rw [if_pos hsize, if_pos (by decide), if_pos (by decide), if_pos (by decide), if_pos hcolumns, if_pos hrows, if_pos (by decide),
    if_pos (by decide), if_pos (by decide), if_pos hpixels, if_pos (by decide)]
  rfl

lemma bmpHeader_error (h : ¬ FileSizeFits width height) :
    bmpHeader width height (strideOf (width * 3) * height) = .error .structError := by
  have hsize : ¬ stockBmpHeaderBytes + strideOf (width * 3) * height < 256 ^ 4 := h
  unfold bmpHeader packUnsigned
  rw [if_neg hsize]
  rfl

structure BmpHeader where
  magic : Bytes
  fileSize : Nat
  pixelOffset : Nat
  headerSize : Nat
  width : Nat
  height : Nat
  planes : Nat
  depth : Nat
  compression : Nat
  imageSize : Nat
  deriving DecidableEq

def readBmpHeader : Reader BmpHeader := do
  let magic ← takeCount 2
  let fileSize ← takeWord 4
  let _ ← takeWord 2
  let _ ← takeWord 2
  let pixelOffset ← takeWord 4
  let headerSize ← takeWord 4
  let width ← takeWord 4
  let height ← takeWord 4
  let planes ← takeWord 2
  let depth ← takeWord 2
  let compression ← takeWord 4
  let imageSize ← takeWord 4
  let _ ← takeWord 4
  let _ ← takeWord 4
  let _ ← takeWord 4
  let _ ← takeWord 4
  pure { magic, fileSize, pixelOffset, headerSize, width, height, planes, depth, compression, imageSize }

/-- The pixels of a bottom-up bitmap of 24 bits, without the padding of its rows. -/
def readPixels (body : Bytes) (width height : Nat) : Bytes :=
  (List.range height).flatMap fun y =>
    let row := block (strideOf (width * 3)) body (height - 1 - y)
    (List.range width).flatMap fun x => (block 3 row x).reverse

def bmpHeaderOf (width height : Nat) : BmpHeader where
  magic := [66, 77]
  fileSize := stockBmpHeaderBytes + strideOf (width * 3) * height
  pixelOffset := stockBmpHeaderBytes
  headerSize := 40
  width := width
  height := height
  planes := 1
  depth := 24
  compression := 0
  imageSize := strideOf (width * 3) * height

lemma readBmpHeader_headerBytes (h : FileSizeFits width height) (hwidth : 0 < width) (hheight : 0 < height) :
    Reads readBmpHeader (headerBytes width height (strideOf (width * 3) * height)) (bmpHeaderOf width height) := by
  have hcolumns := h.columns hheight
  have hrows := h.rows hwidth
  have hsize : stockBmpHeaderBytes + strideOf (width * 3) * height < 256 ^ 4 := h
  unfold headerBytes readBmpHeader
  simp only [List.append_assoc]
  refine Reads.bind (Reads.takeCount [66, 77]) ?_
  refine Reads.bind (Reads.takeWord hsize) ?_
  refine Reads.bind (Reads.takeWord (by decide)) (Reads.bind (Reads.takeWord (by decide)) ?_)
  refine Reads.bind (Reads.takeWord (by decide)) (Reads.bind (Reads.takeWord (by decide)) ?_)
  refine Reads.bind (Reads.takeWord (by omega)) (Reads.bind (Reads.takeWord (by omega)) ?_)
  refine Reads.bind (Reads.takeWord (by decide)) (Reads.bind (Reads.takeWord (by decide)) ?_)
  refine Reads.bind (Reads.takeWord (by decide)) (Reads.bind (Reads.takeWord (by omega)) ?_)
  refine Reads.bind (Reads.takeWord (by decide)) (Reads.bind (Reads.takeWord (by decide)) ?_)
  exact Reads.bind (Reads.takeWord (by decide)) (Reads.bind_last (Reads.takeWord (by decide)) (Reads.pure _))

lemma length_headerBytes (width height pixelBytes : Nat) : (headerBytes width height pixelBytes).length = stockBmpHeaderBytes := by
  simp [headerBytes, stockBmpHeaderBytes]

/-! ### The whole file -/

/-- The rows of the bitmap, the last row of the picture first. -/
def bmpBody (rgb : Bytes) (width height : Nat) : Bytes := (List.range height).reverse.flatMap (bmpRow rgb width)

lemma length_bmpBody (h : rgb.length = height * (width * 3)) : (bmpBody rgb width height).length = strideOf (width * 3) * height := by
  have hrows : ∀ y ∈ (List.range height).reverse, (bmpRow rgb width y).length = strideOf (width * 3) :=
    fun y hy => length_bmpRow h (List.mem_range.mp (List.mem_reverse.mp hy))
  rw [bmpBody, List.length_flatMap, List.map_congr_left hrows]
  simp [mul_comm]

lemma block_bmpBody (h : rgb.length = height * (width * 3)) {y : Nat} (hy : y < height) :
    block (strideOf (width * 3)) (bmpBody rgb width height) (height - 1 - y) = bmpRow rgb width y := by
  have hrows : ∀ y ∈ (List.range height).reverse, (bmpRow rgb width y).length = strideOf (width * 3) :=
    fun y hy => length_bmpRow h (List.mem_range.mp (List.mem_reverse.mp hy))
  have hposition : height - 1 - y < (List.range height).reverse.length := by
    rw [List.length_reverse, List.length_range]
    omega
  rw [bmpBody, block_flatMap hrows hposition]
  congr 1
  rw [List.getElem_reverse, List.getElem_range, List.length_range]
  omega

lemma block_bmpRow (h : rgb.length = height * (width * 3)) {y x : Nat} (hy : y < height) (hx : x < width) :
    block 3 (bmpRow rgb width y) x = bgr rgb width y x := by
  have hpixels : ∀ x ∈ List.range width, (bgr rgb width y x).length = 3 := fun x hx => length_bgr h hy (List.mem_range.mp hx)
  have hposition : x < (List.range width).length := by rwa [List.length_range]
  have hin : x * 3 + 3 ≤ ((List.range width).flatMap (bgr rgb width y)).length := by
    rw [length_flatMap_bgr h hy fun x hx => List.mem_range.mp hx, List.length_range]
    omega
  have hblock : block 3 (bmpRow rgb width y) x = block 3 ((List.range width).flatMap (bgr rgb width y)) x := by
    rw [block, block, bmpRow, List.drop_append_of_le_length (by omega), List.take_append_of_le_length]
    rw [List.length_drop]
    omega
  rw [hblock, block_flatMap hpixels hposition, List.getElem_range]

lemma readPixels_bmpBody (h : rgb.length = height * (width * 3)) : readPixels (bmpBody rgb width height) width height = rgb := by
  have hrow : ∀ y ∈ List.range height, (List.range width).flatMap
      (fun x => (block 3 (block (strideOf (width * 3)) (bmpBody rgb width height) (height - 1 - y)) x).reverse) =
      block (width * 3) rgb y := by
    intro y hy
    rw [List.mem_range] at hy
    rw [block_bmpBody h hy]
    have hpixel : ∀ x ∈ List.range width, (block 3 (bmpRow rgb width y) x).reverse = block 3 (block (width * 3) rgb y) x := by
      intro x hx
      rw [block_bmpRow h hy (List.mem_range.mp hx), bgr, List.reverse_reverse]
    rw [List.flatMap_congr hpixel]
    exact flatMap_block (length_block h hy)
  unfold readPixels
  dsimp only
  rw [List.flatMap_congr hrow]
  exact flatMap_block h

/-- Every picture of the right length comes to its header. -/
lemma encodeBmp24_eq (hwidth : 0 < width) (hheight : 0 < height) (h : rgb.length = width * height * 3) :
    encodeBmp24 rgb width height =
      (bmpHeader width height (strideOf (width * 3) * height)).bind fun header =>
        if header.length ≠ stockBmpHeaderBytes then .error .assertionError
        else if (width, height) = (stockWidth, stockHeight) ∧ (header ++ bmpBody rgb width height).length ≠ stockBmpBytes then
          .error .assertionError
        else .ok (header ++ bmpBody rgb width height) := by
  have hrows : rgb.length = height * (width * 3) := by
    rw [h]
    ring
  have hguard : ¬ ((width : ℤ) ≤ 0 ∨ (height : ℤ) ≤ 0 ∨ (rgb.length : ℤ) ≠ width * height * 3) := by
    rw [h]
    push_cast
    omega
  have hfits : (List.range height).reverse.length * strideOf (width * 3) ≤ strideOf (width * 3) * height := by
    rw [List.length_reverse, List.length_range, mul_comm]
  have hloop := foldlM_writeRow_ok hrows (fun y hy => List.mem_range.mp (List.mem_reverse.mp hy)) [] hfits
  rw [List.nil_append, List.length_nil] at hloop
  have hblank : strideOf (width * 3) * height - (List.range height).reverse.length * strideOf (width * 3) = 0 := by
    rw [List.length_reverse, List.length_range, mul_comm, Nat.sub_self]
  unfold encodeBmp24
  rw [if_neg hguard]
  dsimp only [Int.toNat_natCast]
  rw [hloop, hblank]
  change (bmpHeader width height (strideOf (width * 3) * height)).bind _ = _
  simp only [List.replicate_zero, List.append_nil, List.nil_append]
  rfl

lemma stock_bmp_length : stockBmpHeaderBytes + strideOf (stockWidth * 3) * stockHeight = stockBmpBytes := by
  norm_num [stockBmpHeaderBytes, strideOf, stockWidth, stockHeight, stockBmpBytes]

lemma encodeBmp24_ok (hwidth : 0 < width) (hheight : 0 < height) (h : rgb.length = width * height * 3)
    (hsize : FileSizeFits width height) :
    encodeBmp24 rgb width height = .ok (headerBytes width height (strideOf (width * 3) * height) ++ bmpBody rgb width height) := by
  have hrows : rgb.length = height * (width * 3) := by
    rw [h]
    ring
  have hheader := length_headerBytes width height (strideOf (width * 3) * height)
  generalize hbytes : headerBytes width height (strideOf (width * 3) * height) = header at hheader
  have hstock : ¬ ((width, height) = (stockWidth, stockHeight) ∧ (header ++ bmpBody rgb width height).length ≠ stockBmpBytes) := by
    rintro ⟨hframe, hne⟩
    obtain ⟨hcolumns, hlines⟩ := Prod.mk.inj hframe
    rw [List.length_append, hheader, length_bmpBody hrows, hcolumns, hlines] at hne
    exact hne stock_bmp_length
  rw [encodeBmp24_eq hwidth hheight h, bmpHeader_ok hsize hwidth hheight, hbytes, Except.bind, if_neg fun hne => hne hheader,
    if_neg hstock]

lemma encodeBmp24_refused (hwidth : 0 < width) (hheight : 0 < height) (h : rgb.length = width * height * 3)
    (hsize : ¬ FileSizeFits width height) : encodeBmp24 rgb width height = .error .structError := by
  rw [encodeBmp24_eq hwidth hheight h, bmpHeader_error hsize]
  rfl

/-- A bitmap whose size its header can state is read back; any other is refused. -/
theorem bmp24_round_trip (rgb : Bytes) (width height : Nat) (hwidth : 0 < width) (hheight : 0 < height)
    (h : rgb.length = width * height * 3) :
    (FileSizeFits width height → ∃ header body, encodeBmp24 rgb width height = .ok (header ++ body) ∧
      header.length = 54 ∧ Reads readBmpHeader header (bmpHeaderOf width height) ∧
      body.length = height * strideOf (width * 3) ∧ readPixels body width height = rgb ∧
      ∀ y < height, (block (strideOf (width * 3)) body y).drop (width * 3) =
        List.replicate (strideOf (width * 3) - width * 3) 0) ∧
    (¬ FileSizeFits width height → encodeBmp24 rgb width height = .error .structError) := by
  have hrows : rgb.length = height * (width * 3) := by
    rw [h]
    ring
  constructor
  · intro hsize
    refine ⟨headerBytes width height (strideOf (width * 3) * height), bmpBody rgb width height,
      encodeBmp24_ok hwidth hheight h hsize, length_headerBytes .., readBmpHeader_headerBytes hsize hwidth hheight, ?_,
      readPixels_bmpBody hrows, ?_⟩
    · rw [length_bmpBody hrows, mul_comm]
    · intro y hy
      have hblock := block_bmpBody hrows (show height - 1 - y < height by omega)
      rw [show height - 1 - (height - 1 - y) = y by omega] at hblock
      have hpixels : ((List.range width).flatMap (bgr rgb width (height - 1 - y))).length = width * 3 := by
        rw [length_flatMap_bgr hrows (by omega) fun x hx => List.mem_range.mp hx, List.length_range]
      rw [hblock, bmpRow, ← hpixels, List.drop_left']
      rfl
  · exact encodeBmp24_refused hwidth hheight h

/-- Two rows of one pixel, with a byte of padding each. -/
theorem bmp24_round_trip_column : 0 < 1 ∧ 0 < 2 ∧ ([1, 2, 3, 4, 5, 6] : Bytes).length = 1 * 2 * 3 ∧ FileSizeFits 1 2 ∧
    ∃ header body, encodeBmp24 [1, 2, 3, 4, 5, 6] 1 2 = .ok (header ++ body) ∧
      header.length = 54 ∧ Reads readBmpHeader header (bmpHeaderOf 1 2) ∧
      body.length = 2 * strideOf (1 * 3) ∧ readPixels body 1 2 = [1, 2, 3, 4, 5, 6] ∧
      ∀ y < 2, (block (strideOf (1 * 3)) body y).drop (1 * 3) = List.replicate (strideOf (1 * 3) - 1 * 3) 0 := by
  have hsize : FileSizeFits 1 2 := by
    unfold FileSizeFits
    decide
  exact ⟨by decide, by decide, rfl, hsize, (bmp24_round_trip [1, 2, 3, 4, 5, 6] 1 2 (by decide) (by decide) rfl).1 hsize⟩

/-- A column of 2³⁰ pixels: its padded rows take 2³² bytes. -/
theorem tall_bitmap_refused :
    (List.replicate (1 * 2 ^ 30 * 3) (0 : UInt8)).length = 1 * 2 ^ 30 * 3 ∧
      encodeBmp24 (List.replicate (1 * 2 ^ 30 * 3) 0) (1 : Nat) (2 ^ 30 : Nat) = .error .structError := by
  have hlength : (List.replicate (1 * 2 ^ 30 * 3) (0 : UInt8)).length = 1 * 2 ^ 30 * 3 := List.length_replicate
  have hsize : ¬ FileSizeFits 1 (2 ^ 30) := by
    have hstride : strideOf (1 * 3) = 4 := rfl
    unfold FileSizeFits stockBmpHeaderBytes
    rw [hstride]
    norm_num
  exact ⟨hlength, encodeBmp24_refused Nat.one_pos (Nat.two_pow_pos 30) hlength hsize⟩

end InkTime.Panel
