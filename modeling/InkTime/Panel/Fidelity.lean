import InkTime.Panel.Packing

/-!
# Pixel fidelity

The frame on the panel and the frame of the Stock converter show, at the place where the portrait is turned to, the color that
the palette index names.
-/

namespace InkTime.Panel

open Checked (require orError)

/-! ### The quarter-turn -/

/-- Where a pixel of the portrait lies on the panel. -/
def physicalOf (rotation : DisplayRotation) (pixel : Nat × Nat) : PhysicalCoordinate :=
  match rotation with
  | .rotate0 => ⟨799 - pixel.2, pixel.1⟩
  | .rotate180 => ⟨pixel.2, 479 - pixel.1⟩

/-- The number of a native pixel, row by row. -/
def PhysicalCoordinate.number (physical : PhysicalCoordinate) : Nat := physical.y * 800 + physical.x

lemma mem_framePixels {pixel : Nat × Nat} : pixel ∈ framePixels ↔ pixel.1 < 480 ∧ pixel.2 < 800 := by
  obtain ⟨x, y⟩ := pixel
  simp only [framePixels, payloadWidth, payloadHeight, List.mem_flatMap, List.mem_map, List.mem_range, Prod.mk.injEq]
  constructor
  · rintro ⟨y', hy, x', hx, rfl, rfl⟩
    exact ⟨hx, hy⟩
  · rintro ⟨hx, hy⟩
    exact ⟨y, hy, x, hx, rfl, rfl⟩

lemma framePixels_nodup : framePixels.Nodup := by
  have hproduct : framePixels = (List.range payloadHeight ×ˢ List.range payloadWidth).map Prod.swap := by
    simp only [framePixels, SProd.sprod, List.product, List.map_flatMap, List.map_map]
    rfl
  rw [hproduct]
  exact (List.nodup_range.product List.nodup_range).map Prod.swap_injective

section Turn

variable {rotation : DisplayRotation} {pixel other : Nat × Nat}

lemma physicalOf_inside (rotation : DisplayRotation) (h : pixel ∈ framePixels) :
    (physicalOf rotation pixel).x < 800 ∧ (physicalOf rotation pixel).y < 480 := by
  obtain ⟨hx, hy⟩ := mem_framePixels.mp h
  cases rotation <;> simp only [physicalOf] <;> omega

lemma physicalOf_injOn (h : pixel ∈ framePixels) (hother : other ∈ framePixels)
    (heq : physicalOf rotation pixel = physicalOf rotation other) : pixel = other := by
  obtain ⟨hx, hy⟩ := mem_framePixels.mp h
  obtain ⟨hx', hy'⟩ := mem_framePixels.mp hother
  obtain ⟨x, y⟩ := pixel
  obtain ⟨x', y'⟩ := other
  cases rotation <;> simp only [physicalOf, PhysicalCoordinate.mk.injEq] at heq hx hy hx' hy' ⊢ <;> ext <;> simp only <;> omega

lemma number_injOn {physical physical' : PhysicalCoordinate} (h : physical.x < 800) (h' : physical'.x < 800)
    (heq : physical.number = physical'.number) : physical = physical' := by
  obtain ⟨x, y⟩ := physical
  obtain ⟨x', y'⟩ := physical'
  simp only [PhysicalCoordinate.number, PhysicalCoordinate.mk.injEq] at *
  omega

/-- Every native pixel is the place of a pixel of the portrait. -/
lemma exists_pixel {px py : Nat} (hx : px < 800) (hy : py < 480) (rotation : DisplayRotation) :
    ∃ pixel ∈ framePixels, physicalOf rotation pixel = ⟨px, py⟩ := by
  cases rotation with
  | rotate0 =>
    refine ⟨(py, 799 - px), mem_framePixels.mpr ⟨hy, by omega⟩, ?_⟩
    rw [physicalOf, Nat.sub_sub_self (by omega)]
  | rotate180 =>
    refine ⟨(479 - py, px), mem_framePixels.mpr ⟨by omega, hx⟩, ?_⟩
    rw [physicalOf, Nat.sub_sub_self (by omega)]

lemma portraitToPhysical_eq (h : pixel ∈ framePixels) : portraitToPhysical pixel.1 pixel.2 rotation = some (physicalOf rotation pixel) := by
  obtain ⟨hx, hy⟩ := mem_framePixels.mp h
  unfold portraitToPhysical payloadWidth payloadHeight photoPainterWidth photoPainterHeight
  rw [if_neg (by omega)]
  cases rotation <;> exact if_pos (by constructor <;> dsimp only <;> omega)

lemma portraitToPhysicalStock_eq (h : pixel ∈ framePixels) :
    portraitToPhysicalStock pixel.1 pixel.2 (rotation == .rotate180) = .ok (physicalOf rotation pixel) := by
  obtain ⟨hx, hy⟩ := mem_framePixels.mp h
  unfold portraitToPhysicalStock
  refine Checked.bind_eq_ok.mpr ⟨(), Checked.require_eq_ok.mpr ?_, ?_⟩
  · rw [Bool.and_eq_true, decide_eq_true_eq, decide_eq_true_eq]
    exact ⟨hx, hy⟩
  · obtain ⟨hinsideX, hinsideY⟩ := physicalOf_inside rotation h
    have hturn : (if rotation == .rotate180 then (⟨pixel.2, 479 - pixel.1⟩ : PhysicalCoordinate) else ⟨799 - pixel.2, pixel.1⟩) =
        physicalOf rotation pixel := by cases rotation <;> rfl
    refine Checked.bind_eq_ok.mpr ⟨(), Checked.require_eq_ok.mpr ?_, congrArg Except.ok hturn⟩
    rw [hturn, Bool.and_eq_true, decide_eq_true_eq, decide_eq_true_eq]
    exact ⟨hinsideX, hinsideY⟩

/-- Each native pixel is written once. -/
lemma written_once {px py : Nat} (hx : px < 800) (hy : py < 480) (rotation : DisplayRotation) :
    (framePixels.map fun pixel => portraitToPhysical pixel.1 pixel.2 rotation).count (some ⟨px, py⟩) = 1 := by
  have hmap : (framePixels.map fun pixel => portraitToPhysical pixel.1 pixel.2 rotation) =
      framePixels.map fun pixel => some (physicalOf rotation pixel) :=
    List.map_congr_left fun pixel hpixel => portraitToPhysical_eq hpixel
  rw [hmap]
  apply List.count_eq_one_of_mem
  · exact framePixels_nodup.map_on fun pixel hpixel other hother heq => physicalOf_injOn hpixel hother (Option.some.inj heq)
  · obtain ⟨pixel, hpixel, hphysical⟩ := exists_pixel hx hy rotation
    exact List.mem_map.mpr ⟨pixel, hpixel, congrArg some hphysical⟩

end Turn

/-! ### The native frame -/

lemma packedByte_even {byte x color : Nat} (hx : x % 2 = 0) (hcolor : color ≤ 15) : packedByte byte x color = color * 16 + byte % 16 := by
  have hmask : byte &&& 0x0F = byte % 16 := Nat.and_two_pow_sub_one_eq_mod byte 4
  have hlow : byte % 16 < 2 ^ 4 := Nat.mod_lt _ (by decide)
  have hor := Nat.shiftLeft_add_eq_or_of_lt hlow color
  rw [packedByte, if_pos hx, hmask, Nat.or_comm, ← hor, Nat.shiftLeft_eq, toByte]
  omega

lemma packedByte_odd {byte x color : Nat} (hx : x % 2 = 1) (hbyte : byte < 256) (hcolor : color ≤ 15) :
    packedByte byte x color = byte / 16 * 16 + color := by
  have hmask : ∀ byte < 256, byte &&& 0xF0 = (byte / 16) <<< 4 := by decide +kernel
  have hlow : color < 2 ^ 4 := by omega
  have hor := Nat.shiftLeft_add_eq_or_of_lt hlow (byte / 16)
  rw [packedByte, if_neg (by omega), hmask byte hbyte, ← hor, Nat.shiftLeft_eq, toByte]
  omega

lemma packedByte_lt (byte x color : Nat) : packedByte byte x color < 256 := by
  unfold packedByte toByte
  split <;> exact Nat.mod_lt _ (by decide)

lemma packedByte_congr {byte x x' color : Nat} (h : x % 2 = x' % 2) : packedByte byte x color = packedByte byte x' color := by
  rw [packedByte, packedByte, h]

lemma readPacked4_of_getD {data : List Nat} {i byte : Nat} (hbyte : byte < 256) (h : data.getD (i / 2) 0 = byte) :
    readPacked4 data i = if i % 2 = 0 then byte / 16 else byte % 16 := by
  have hmask : byte &&& 0x0F = byte % 16 := Nat.and_two_pow_sub_one_eq_mod byte 4
  unfold readPacked4 toByte
  dsimp only
  rw [h, hmask, Nat.shiftRight_eq_div_pow]
  split <;> omega

/-- The pixels of the native frame. -/
def nativeCells : Cells (List Nat) Nat Nat where
  inside data i := i / 2 < data.length ∧ AllBytes data
  fits color := color ≤ 15
  combine _ color := color
  read := readPacked4
  write data i color := data.set (i / 2) (packedByte (data.getD (i / 2) 0) i color)
  inside_write h := ⟨by rw [List.length_set]; exact h.1, h.2.set (packedByte_lt _ _ _) _⟩
  read_write_self {data i color} hinside hcolor := by
    have hbyte := hinside.2.getD (i / 2)
    have hset : (data.set (i / 2) (packedByte (data.getD (i / 2) 0) i color)).getD (i / 2) 0 =
        packedByte (data.getD (i / 2) 0) i color := by
      rw [List.getD_eq_getElem?_getD, List.getElem?_set_self hinside.1, Option.getD_some]
    rw [readPacked4_of_getD (packedByte_lt _ _ _) hset]
    obtain heven | hodd := Nat.mod_two_eq_zero_or_one i
    · rw [if_pos heven, packedByte_even heven hcolor]
      omega
    · rw [if_neg (by omega), packedByte_odd hodd hbyte hcolor]
      omega
  read_write_ne {data i j color} hne hi hj hcolor := by
    have hbyte := hi.2.getD (i / 2)
    by_cases hsame : i / 2 = j / 2
    · have hset : (data.set (i / 2) (packedByte (data.getD (i / 2) 0) i color)).getD (j / 2) 0 =
          packedByte (data.getD (i / 2) 0) i color := by
        rw [← hsame, List.getD_eq_getElem?_getD, List.getElem?_set_self hi.1, Option.getD_some]
      have hget : data.getD (j / 2) 0 = data.getD (i / 2) 0 := by rw [hsame]
      rw [readPacked4_of_getD (packedByte_lt _ _ _) hset, readPacked4_of_getD hbyte hget]
      obtain heven | hodd := Nat.mod_two_eq_zero_or_one i
      · rw [if_neg (by omega), if_neg (by omega), packedByte_even heven hcolor]
        omega
      · rw [if_pos (by omega), if_pos (by omega), packedByte_odd hodd hbyte hcolor]
        omega
    · rw [readPacked4, readPacked4, List.getD_eq_getElem?_getD, List.getElem?_set_ne hsame, ← List.getD_eq_getElem?_getD]

lemma writePacked4_eq {data : List Nat} {physical : PhysicalCoordinate} {color : Nat} (hx : physical.x < 800) (hy : physical.y < 480)
    (hlength : data.length = photoPainterFrameBytes) (hcolor : color ≤ 15) :
    writePacked4 data photoPainterWidth physical.x physical.y color = some (nativeCells.write data physical.number color) := by
  have hindex : physical.y * (photoPainterWidth / 2) + physical.x / 2 = physical.number / 2 := by
    simp only [PhysicalCoordinate.number, photoPainterWidth]
    omega
  have hparity : physical.x % 2 = physical.number % 2 := by
    simp only [PhysicalCoordinate.number]
    omega
  have hinside : ¬ (data.length ≤ physical.number / 2 ∨ 0x0F < color) := by
    simp only [PhysicalCoordinate.number, hlength, photoPainterFrameBytes, photoPainterWidth, photoPainterHeight]
    omega
  unfold writePacked4
  rw [hindex, if_neg hinside, packedByte_congr hparity]
  rfl

/-- What a turn of the two loops writes. -/
def nativeEntry (wire : List Nat) (indexed4 : Bool) (rotation : DisplayRotation) (pixel : Nat × Nat) : Nat × Nat :=
  ((physicalOf rotation pixel).number, nativeColor indexed4 (logicalColor wire indexed4 (pixel.2 * payloadWidth + pixel.1)))

/-- The logical color of the pixel is one that the panel shows. -/
def Accepts (wire : List Nat) (indexed4 : Bool) (pixel : Nat × Nat) : Prop :=
  (indexed4 && !validLogicalIndexed4Color (logicalColor wire indexed4 (pixel.2 * payloadWidth + pixel.1))) = false ∧
    nativeColor indexed4 (logicalColor wire indexed4 (pixel.2 * payloadWidth + pixel.1)) ≤ 15

lemma convertPixels_eq {wire frame : List Nat} {indexed4 : Bool} {rotation : DisplayRotation} {pixels : List (Nat × Nat)}
    (hpixels : ∀ pixel ∈ pixels, pixel ∈ framePixels ∧ Accepts wire indexed4 pixel) (hlength : frame.length = photoPainterFrameBytes) :
    convertPixels wire indexed4 rotation pixels frame =
      ⟨true, nativeCells.writeAll frame (pixels.map (nativeEntry wire indexed4 rotation)), false⟩ := by
  induction pixels generalizing frame with
  | nil => rfl
  | cons pixel rest ih =>
    obtain ⟨hframe, hvalid, hcolor⟩ := hpixels pixel List.mem_cons_self
    obtain ⟨hx, hy⟩ := physicalOf_inside rotation hframe
    rw [convertPixels, if_neg (by rw [hvalid]; decide), portraitToPhysical_eq hframe]
    dsimp only
    rw [writePacked4_eq hx hy hlength hcolor]
    exact ih (fun other hother => hpixels other (List.mem_cons_of_mem _ hother)) ((List.length_set ..).trans hlength)

/-- The color of a pixel of the native frame. -/
def nativeNibble (frame : List Nat) (physical : PhysicalCoordinate) : Nat := readPacked4 frame physical.number

lemma nativeNibble_eq (frame : List Nat) (physical : PhysicalCoordinate) :
    nativeNibble frame physical = nativeCells.read frame physical.number := rfl

lemma native_combine (color color' : Nat) : nativeCells.combine color color' = color' := rfl

section Native

variable {wire frame : List Nat} {indexed4 : Bool}

lemma nativeEntries_distinct (wire : List Nat) (indexed4 : Bool) (rotation : DisplayRotation) :
    ((framePixels.map (nativeEntry wire indexed4 rotation)).map Prod.fst).Nodup := by
  rw [List.map_map]
  refine framePixels_nodup.map_on fun pixel hpixel other hother heq => ?_
  exact physicalOf_injOn hpixel hother (number_injOn (physicalOf_inside rotation hpixel).1 (physicalOf_inside rotation hother).1 heq)

lemma nativeEntries_inside (haccepts : ∀ pixel ∈ framePixels, Accepts wire indexed4 pixel) (hlength : frame.length = photoPainterFrameBytes)
    (hbytes : AllBytes frame) {rotation : DisplayRotation} {entry : Nat × Nat}
    (hentry : entry ∈ framePixels.map (nativeEntry wire indexed4 rotation)) :
    nativeCells.inside frame entry.1 ∧ nativeCells.fits entry.2 := by
  obtain ⟨pixel, hpixel, rfl⟩ := List.mem_map.mp hentry
  obtain ⟨hx, hy⟩ := physicalOf_inside rotation hpixel
  refine ⟨⟨?_, hbytes⟩, (haccepts pixel hpixel).2⟩
  rw [hlength]
  simp only [nativeEntry, PhysicalCoordinate.number, photoPainterFrameBytes, photoPainterWidth, photoPainterHeight]
  omega

/-- A frame whose colors are all known is accepted, and every pixel arrives. -/
theorem convertWireFrameToNative_shows (hwire : wire.length = payloadWidth * payloadHeight / (if indexed4 then 2 else 4))
    (haccepts : ∀ pixel ∈ framePixels, Accepts wire indexed4 pixel) (hlength : frame.length = photoPainterFrameBytes)
    (rotation : DisplayRotation) :
    (convertWireFrameToNative wire indexed4 rotation frame).accepted = true ∧
      ∀ pixel ∈ framePixels, nativeNibble (convertWireFrameToNative wire indexed4 rotation frame).nativeFrame (physicalOf rotation pixel) =
        nativeColor indexed4 (logicalColor wire indexed4 (pixel.2 * payloadWidth + pixel.1)) := by
  have hstart : (List.replicate frame.length 0x11).length = photoPainterFrameBytes := List.length_replicate.trans hlength
  have hconvert : convertWireFrameToNative wire indexed4 rotation frame = ⟨true, nativeCells.writeAll (List.replicate frame.length 0x11)
      (framePixels.map (nativeEntry wire indexed4 rotation)), false⟩ := by
    unfold convertWireFrameToNative
    rw [if_neg (by rw [not_or, not_not, not_not]; exact ⟨hwire, hlength⟩)]
    exact convertPixels_eq (fun pixel hpixel => ⟨hpixel, haccepts pixel hpixel⟩) hstart
  have hbytes : AllBytes (List.replicate frame.length 0x11) := allBytes_replicate (by decide) _
  rw [hconvert]
  refine ⟨rfl, fun pixel hpixel => ?_⟩
  have hmem : ((physicalOf rotation pixel).number, nativeColor indexed4 (logicalColor wire indexed4 (pixel.2 * payloadWidth + pixel.1))) ∈
      framePixels.map (nativeEntry wire indexed4 rotation) := List.mem_map.mpr ⟨pixel, hpixel, rfl⟩
  have hread := Cells.read_writeAll (fun entry hentry => nativeEntries_inside haccepts hstart hbytes hentry)
    (nativeEntries_distinct wire indexed4 rotation) hmem
  rw [nativeNibble_eq, hread, native_combine]

end Native

/-! ### The Stock frame -/

/-- The color of a pixel of the Stock frame. -/
def rgbAt (output : List Nat) (i : Nat) : Rgb := (output.getD (i * 3) 0, output.getD (i * 3 + 1) 0, output.getD (i * 3 + 2) 0)

lemma getD_setRgb (output : List Nat) (offset : Nat) (rgb : Rgb) (h : offset + 2 < output.length) (k : Nat) :
    (setRgb output offset rgb).getD k 0 =
      if k = offset then rgb.1 else if k = offset + 1 then rgb.2.1 else if k = offset + 2 then rgb.2.2 else output.getD k 0 := by
  simp only [setRgb, List.getD_eq_getElem?_getD, List.getElem?_set, List.length_set]
  split_ifs <;> first | rfl | omega

/-- The pixels of the Stock frame. -/
def rgbCells : Cells (List Nat) Nat Rgb where
  inside output i := i * 3 + 2 < output.length
  fits _ := True
  combine _ rgb := rgb
  read := rgbAt
  write output i rgb := setRgb output (i * 3) rgb
  inside_write h := by simpa only [setRgb, List.length_set] using h
  read_write_self {output i rgb} hinside _ := by
    simp only [rgbAt, getD_setRgb output (i * 3) rgb hinside]
    split_ifs <;> first | rfl | omega
  read_write_ne {output i j rgb} hne hi hj _ := by
    simp only [rgbAt, getD_setRgb output (i * 3) rgb hi]
    split_ifs <;> first | rfl | omega

/-- What a turn of the two loops writes. -/
def rgbEntry (format : PixelFormat) (payload : List Nat) (rotation : DisplayRotation) (pixel : Nat × Nat) : Nat × Rgb :=
  ((physicalOf rotation pixel).number,
    (stockPalette format (Fields.read format.bits format.perByte payload (pixel.2 * 480 + pixel.1))).getD (0, 0, 0))

/-- The code of the pixel has a color. -/
def Colored (format : PixelFormat) (payload : List Nat) (pixel : Nat × Nat) : Prop :=
  (stockPalette format (Fields.read format.bits format.perByte payload (pixel.2 * 480 + pixel.1))).isSome = true

def stockBytes : Nat := 800 * 480 * 3

lemma rgbPixel_ok {format : PixelFormat} {payload output : List Nat} (hbytes : AllBytes payload)
    (hpayload : payload.length * format.perByte = 480 * 800) (rotation : DisplayRotation) {pixel : Nat × Nat} (hpixel : pixel ∈ framePixels)
    (hcolored : Colored format payload pixel) :
    rgbPixel format payload (rotation == .rotate180) output pixel =
      .ok (rgbCells.write output (rgbEntry format payload rotation pixel).1 (rgbEntry format payload rotation pixel).2) := by
  obtain ⟨hx, hy⟩ := mem_framePixels.mp hpixel
  obtain ⟨rgb, hrgb⟩ := Option.isSome_iff_exists.mp hcolored
  have hinside : (pixel.2 * 480 + pixel.1) / format.perByte < payload.length := by
    rw [Nat.div_lt_iff_lt_mul format.perByte_pos, hpayload]
    omega
  unfold rgbPixel rgbEntry
  refine Checked.bind_eq_ok.mpr ⟨_, readStock_eq hbytes format hinside, ?_⟩
  refine Checked.bind_eq_ok.mpr ⟨rgb, Checked.orError_eq_ok.mpr hrgb, ?_⟩
  refine Checked.bind_eq_ok.mpr ⟨_, portraitToPhysicalStock_eq hpixel, ?_⟩
  rw [hrgb]
  rfl

lemma rgbEntries_distinct (format : PixelFormat) (payload : List Nat) (rotation : DisplayRotation) :
    ((framePixels.map (rgbEntry format payload rotation)).map Prod.fst).Nodup := by
  rw [List.map_map]
  refine framePixels_nodup.map_on fun pixel hpixel other hother heq => ?_
  exact physicalOf_injOn hpixel hother (number_injOn (physicalOf_inside rotation hpixel).1 (physicalOf_inside rotation hother).1 heq)

lemma rgbEntries_inside {format : PixelFormat} {payload output : List Nat} {rotation : DisplayRotation}
    (houtput : output.length = stockBytes)
    {entry : Nat × Rgb} (hentry : entry ∈ framePixels.map (rgbEntry format payload rotation)) :
    rgbCells.inside output entry.1 ∧ rgbCells.fits entry.2 := by
  obtain ⟨pixel, hpixel, rfl⟩ := List.mem_map.mp hentry
  obtain ⟨hx, hy⟩ := physicalOf_inside rotation hpixel
  refine ⟨?_, trivial⟩
  change (physicalOf rotation pixel).number * 3 + 2 < output.length
  rw [houtput]
  simp only [PhysicalCoordinate.number, stockBytes]
  omega

theorem packedToRgb888_shows {format : PixelFormat} {payload : List Nat} (hbytes : AllBytes payload)
    (hpayload : payload.length * format.perByte = 480 * 800) (hcolored : ∀ pixel ∈ framePixels, Colored format payload pixel)
    (rotation : DisplayRotation) :
    ∃ output, packedToRgb888 payload format (rotation == .rotate180) = .ok output ∧ ∀ pixel ∈ framePixels,
      rgbAt output (physicalOf rotation pixel).number = (rgbEntry format payload rotation pixel).2 := by
  have hstep : ∀ output, output.length = stockBytes → ∀ pixel ∈ framePixels,
      rgbPixel format payload (rotation == .rotate180) output pixel =
        .ok (rgbCells.write output (rgbEntry format payload rotation pixel).1 (rgbEntry format payload rotation pixel).2) ∧
      (rgbCells.write output (rgbEntry format payload rotation pixel).1 (rgbEntry format payload rotation pixel).2).length =
        stockBytes := by
    intro output houtput pixel hpixel
    refine ⟨rgbPixel_ok hbytes hpayload rotation hpixel (hcolored pixel hpixel), ?_⟩
    simpa only [rgbCells, setRgb, List.length_set] using houtput
  have hstart : (List.replicate stockBytes 0).length = stockBytes := List.length_replicate
  obtain ⟨hfold, -⟩ := Cells.foldlM_eq_writeAll hstep hstart
  refine ⟨rgbCells.writeAll (List.replicate stockBytes 0) (framePixels.map (rgbEntry format payload rotation)), ?_,
    fun pixel hpixel => ?_⟩
  · unfold packedToRgb888
    refine Checked.bind_eq_ok.mpr ⟨(), Checked.require_eq_ok.mpr ?_, hfold⟩
    cases format with
    | twoBpp =>
      simp only [PixelFormat.perByte, decide_eq_true_eq] at hpayload ⊢
      omega
    | indexed4 =>
      simp only [PixelFormat.perByte, decide_eq_true_eq] at hpayload ⊢
      omega
  · have hmem : ((physicalOf rotation pixel).number, (rgbEntry format payload rotation pixel).2) ∈
        framePixels.map (rgbEntry format payload rotation) := List.mem_map.mpr ⟨pixel, hpixel, rfl⟩
    have hread := Cells.read_writeAll (fun entry hentry => rgbEntries_inside hstart hentry)
      (rgbEntries_distinct format payload rotation) hmem
    have hcombine : ∀ rgb rgb' : Rgb, rgbCells.combine rgb rgb' = rgb' := fun _ _ => rfl
    have hrgbAt : ∀ (output : List Nat) (i : Nat), rgbAt output i = rgbCells.read output i := fun _ _ => rfl
    rw [hrgbAt, hread, hcombine]

/-! ### Agreement -/

/-- The code of a color in the controller of the panel. -/
def nativeCode : ColorName → Nat
  | .black => 0
  | .white => 1
  | .yellow => 2
  | .red => 3
  | .blue => 5
  | .green => 6
  | .orange => 0xFF

/-- The color of a name in the table of a format. -/
def stockRgb : PixelFormat → ColorName → Option Rgb
  | .indexed4 => indexed4Rgb
  | .twoBpp => safe4Rgb

def DisplayProfile.name (profile : DisplayProfile) (paletteIndex : Nat) : Option ColorName :=
  profile.colors[paletteIndex]?.map PaletteColor.name

/-- What the tables of the firmware and of the Stock converter make of a palette index. -/
structure Tabulated (profile : DisplayProfile) (paletteIndex : Nat) (name : ColorName) : Prop where
  named : profile.name paletteIndex = some name
  valid : (profile.pixelFormat == .indexed4 && !validLogicalIndexed4Color (profile.code paletteIndex)) = false
  native : nativeColor (profile.pixelFormat == .indexed4) (profile.code paletteIndex) = nativeCode name
  small : nativeCode name ≤ 15
  stock : (stockPalette profile.pixelFormat (profile.code paletteIndex)).isSome = true ∧
    stockPalette profile.pixelFormat (profile.code paletteIndex) = stockRgb profile.pixelFormat name

lemma safe4c_tabulated {paletteIndex : Nat} (h : paletteIndex < safe4c.colors.length) : ∃ name, Tabulated safe4c paletteIndex name := by
  have h : paletteIndex < 4 := h
  interval_cases paletteIndex
  · exact ⟨.black, by constructor <;> decide⟩
  · exact ⟨.white, by constructor <;> decide⟩
  · exact ⟨.red, by constructor <;> decide⟩
  · exact ⟨.yellow, by constructor <;> decide⟩

lemma gdep073e01_tabulated {paletteIndex : Nat} (h : paletteIndex < gdep073e01.colors.length) :
    ∃ name, Tabulated gdep073e01 paletteIndex name := by
  have h : paletteIndex < 6 := h
  interval_cases paletteIndex
  · exact ⟨.black, by constructor <;> decide⟩
  · exact ⟨.white, by constructor <;> decide⟩
  · exact ⟨.green, by constructor <;> decide⟩
  · exact ⟨.blue, by constructor <;> decide⟩
  · exact ⟨.red, by constructor <;> decide⟩
  · exact ⟨.yellow, by constructor <;> decide⟩

/-- What a payload of palette indexes shows, on the panel and on the Stock frame. -/
structure Shows (profile : DisplayProfile) (indexes payload : List Nat) : Prop where
  size : payload.length = profile.bytesPerImage
  accepted : ∀ rotation buffer, buffer.length = photoPainterFrameBytes →
    (convertWireFrameToNative payload (profile.pixelFormat == .indexed4) rotation buffer).accepted = true
  native : ∀ rotation buffer, buffer.length = photoPainterFrameBytes → ∀ x < 480, ∀ y < 800, ∃ physical name,
    portraitToPhysical x y rotation = some physical ∧ profile.name (indexes.getD (y * 480 + x) 0) = some name ∧
      nativeNibble (convertWireFrameToNative payload (profile.pixelFormat == .indexed4) rotation buffer).nativeFrame physical =
        nativeCode name
  once : ∀ rotation, ∀ px < 800, ∀ py < 480,
    (framePixels.map fun pixel => portraitToPhysical pixel.1 pixel.2 rotation).count (some ⟨px, py⟩) = 1
  turned : ∀ buffer buffer', buffer.length = photoPainterFrameBytes → buffer'.length = photoPainterFrameBytes →
    ∀ px < 800, ∀ py < 480,
      nativeNibble (convertWireFrameToNative payload (profile.pixelFormat == .indexed4) .rotate180 buffer').nativeFrame ⟨px, py⟩ =
        nativeNibble (convertWireFrameToNative payload (profile.pixelFormat == .indexed4) .rotate0 buffer).nativeFrame
          ⟨799 - px, 479 - py⟩
  stock : ∀ rotation, ∃ output, packedToRgb888 payload profile.pixelFormat (rotation == .rotate180) = .ok output ∧
    ∀ x < 480, ∀ y < 800, ∃ physical name, portraitToPhysical x y rotation = some physical ∧
      profile.name (indexes.getD (y * 480 + x) 0) = some name ∧ some (rgbAt output physical.number) = stockRgb profile.pixelFormat name

section Agreement

variable {profile : DisplayProfile} {indexes payload : List Nat}

/-- The palette index of a pixel, and its field in the payload. -/
lemma Holds.pixel (h : Holds profile indexes payload) (hlength : indexes.length = 480 * 800)
    (hindexes : ∀ paletteIndex ∈ indexes, paletteIndex < profile.colors.length) {pixel : Nat × Nat} (hpixel : pixel ∈ framePixels) :
    indexes.getD (pixel.2 * 480 + pixel.1) 0 < profile.colors.length ∧
      Fields.read profile.pixelFormat.bits profile.pixelFormat.perByte payload (pixel.2 * 480 + pixel.1) =
        profile.code (indexes.getD (pixel.2 * 480 + pixel.1) 0) := by
  obtain ⟨hx, hy⟩ := mem_framePixels.mp hpixel
  have hi : pixel.2 * 480 + pixel.1 < indexes.length := by omega
  have hget : indexes.getD (pixel.2 * 480 + pixel.1) 0 = indexes[pixel.2 * 480 + pixel.1] := by
    rw [List.getD_eq_getElem?_getD, List.getElem?_eq_getElem hi, Option.getD_some]
  rw [hget]
  exact ⟨hindexes _ (List.getElem_mem hi), h.code _ hi⟩

theorem Holds.shows (h : Holds profile indexes payload) (hlength : indexes.length = 480 * 800)
    (hindexes : ∀ paletteIndex ∈ indexes, paletteIndex < profile.colors.length)
    (htable : ∀ paletteIndex < profile.colors.length, ∃ name, Tabulated profile paletteIndex name) :
    Shows profile indexes payload := by
  have hsize : payload.length = profile.bytesPerImage := by
    rw [h.length, hlength, PixelFormat.bytesFor, DisplayProfile.bytesPerImage]
    cases profile.pixelFormat <;> rfl
  have hwire : payload.length = payloadWidth * payloadHeight / (if (profile.pixelFormat == .indexed4) = true then 2 else 4) := by
    rw [hsize, DisplayProfile.bytesPerImage]
    cases profile.pixelFormat <;> rfl
  have hfields : payload.length * profile.pixelFormat.perByte = 480 * 800 := by
    rw [hsize, DisplayProfile.bytesPerImage]
    cases profile.pixelFormat <;> rfl
  have hlogical : ∀ pixel ∈ framePixels, logicalColor payload (profile.pixelFormat == .indexed4) (pixel.2 * payloadWidth + pixel.1) =
      profile.code (indexes.getD (pixel.2 * 480 + pixel.1) 0) := fun pixel hpixel =>
    (logicalColor_eq h.bytes profile.pixelFormat _).trans (h.pixel hlength hindexes hpixel).2
  have hname : ∀ pixel ∈ framePixels, ∃ name, Tabulated profile (indexes.getD (pixel.2 * 480 + pixel.1) 0) name := fun pixel hpixel =>
    htable _ (h.pixel hlength hindexes hpixel).1
  have haccepts : ∀ pixel ∈ framePixels, Accepts payload (profile.pixelFormat == .indexed4) pixel := by
    intro pixel hpixel
    obtain ⟨name, htabulated⟩ := hname pixel hpixel
    unfold Accepts
    rw [hlogical pixel hpixel, htabulated.native]
    exact ⟨htabulated.valid, htabulated.small⟩
  have hnative : ∀ rotation buffer, buffer.length = photoPainterFrameBytes → ∀ pixel ∈ framePixels,
      nativeNibble (convertWireFrameToNative payload (profile.pixelFormat == .indexed4) rotation buffer).nativeFrame
        (physicalOf rotation pixel) =
          nativeColor (profile.pixelFormat == .indexed4) (profile.code (indexes.getD (pixel.2 * 480 + pixel.1) 0)) := by
    intro rotation buffer hbuffer pixel hpixel
    rw [(convertWireFrameToNative_shows hwire haccepts hbuffer rotation).2 pixel hpixel, hlogical pixel hpixel]
  constructor
  · exact hsize
  · exact fun rotation buffer hbuffer => (convertWireFrameToNative_shows hwire haccepts hbuffer rotation).1
  · intro rotation buffer hbuffer x hx y hy
    have hpixel : (x, y) ∈ framePixels := mem_framePixels.mpr ⟨hx, hy⟩
    obtain ⟨name, htabulated⟩ := hname (x, y) hpixel
    exact ⟨physicalOf rotation (x, y), name, portraitToPhysical_eq hpixel, htabulated.named,
      (hnative rotation buffer hbuffer (x, y) hpixel).trans htabulated.native⟩
  · exact fun rotation px hx py hy => written_once hx hy rotation
  · intro buffer buffer' hbuffer hbuffer' px hx py hy
    -- both places belong to the same pixel of the portrait
    obtain ⟨pixel, hpixel, hphysical⟩ := exists_pixel hx hy .rotate180
    have hturned : physicalOf .rotate0 pixel = ⟨799 - px, 479 - py⟩ := by
      obtain ⟨hpx, hpy⟩ := mem_framePixels.mp hpixel
      simp only [physicalOf, PhysicalCoordinate.mk.injEq] at hphysical ⊢
      omega
    rw [← hphysical, ← hturned, hnative .rotate180 buffer' hbuffer' pixel hpixel, hnative .rotate0 buffer hbuffer pixel hpixel]
  · intro rotation
    have hcolored : ∀ pixel ∈ framePixels, Colored profile.pixelFormat payload pixel := by
      intro pixel hpixel
      obtain ⟨name, htabulated⟩ := hname pixel hpixel
      unfold Colored
      rw [(h.pixel hlength hindexes hpixel).2]
      exact htabulated.stock.1
    obtain ⟨output, houtput, hrgb⟩ := packedToRgb888_shows h.bytes hfields hcolored rotation
    refine ⟨output, houtput, fun x hx y hy => ?_⟩
    have hpixel : (x, y) ∈ framePixels := mem_framePixels.mpr ⟨hx, hy⟩
    obtain ⟨name, htabulated⟩ := hname (x, y) hpixel
    refine ⟨physicalOf rotation (x, y), name, portraitToPhysical_eq hpixel, htabulated.named, ?_⟩
    have hcode := (h.pixel hlength hindexes hpixel).2
    obtain ⟨rgb, hfound⟩ := Option.isSome_iff_exists.mp htabulated.stock.1
    rw [hrgb (x, y) hpixel, rgbEntry, hcode, ← htabulated.stock.2, hfound, Option.getD_some]

end Agreement

/-- Packer, firmware and Stock converter agree on every frame of palette indexes. -/
theorem frame_fidelity {profile : DisplayProfile} (hprofile : profile = safe4c ∨ profile = gdep073e01) {indexes : List Nat}
    (hlength : indexes.length = 480 * 800) (hindexes : ∀ paletteIndex ∈ indexes, paletteIndex < profile.colors.length) :
    ∃ payload, packPayload profile indexes = .ok payload ∧ Shows profile indexes payload := by
  have hencodable : profile.Encodable := by
    unfold DisplayProfile.Encodable
    obtain rfl | rfl := hprofile <;> decide
  have htable : ∀ paletteIndex < profile.colors.length, ∃ name, Tabulated profile paletteIndex name := by
    obtain rfl | rfl := hprofile
    · exact fun _ h => safe4c_tabulated h
    · exact fun _ h => gdep073e01_tabulated h
  obtain ⟨payload, hpack, hholds⟩ := packPayload_holds hencodable hindexes
  exact ⟨payload, hpack, hholds.shows hlength hindexes htable⟩

/-- Diagonal stripes of all six colors. -/
def diagonals : List Nat := (List.range (480 * 800)).map fun place => (place / 480 + place % 480) % 6

theorem frame_fidelity_diagonals : ∃ payload, packPayload gdep073e01 diagonals = .ok payload ∧ Shows gdep073e01 diagonals payload := by
  refine frame_fidelity (.inr rfl) (by rw [diagonals, List.length_map, List.length_range]) fun paletteIndex hmem => ?_
  obtain ⟨place, -, rfl⟩ := List.mem_map.mp hmem
  exact Nat.mod_lt _ (by decide)

end InkTime.Panel
