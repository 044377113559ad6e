import InkTime.Library.Checked
import InkTime.Library.Cells

/-!
# Frames for the panel

The packing of palette indexes in `encode_image`, the conversion of a packed frame to the native frame of the panel in
`photopainter_core.h`, and the conversion to RGB in `stock_protocol.py`. A buffer of bytes is a list of numbers below 256.
-/

namespace InkTime.Panel

open Checked (require orError)

/-! ### Profiles -/

inductive ColorName where
  | black | white | green | blue | red | yellow | orange
  deriving DecidableEq, Repr

structure PaletteColor where
  code : Nat
  name : ColorName
  deriving DecidableEq, Repr

inductive PixelFormat where
  | twoBpp | indexed4
  deriving DecidableEq, Repr

structure DisplayProfile where
  key : String
  pixelFormat : PixelFormat
  colors : List PaletteColor
  deriving DecidableEq, Repr

def DisplayProfile.bytesPerImage (profile : DisplayProfile) : Nat :=
  match profile.pixelFormat with
  | .twoBpp => 480 * 800 / 4
  | .indexed4 => 480 * 800 / 2

def safe4c : DisplayProfile where
  key := "safe_4c"
  pixelFormat := .twoBpp
  colors := [⟨0, .black⟩, ⟨1, .white⟩, ⟨2, .red⟩, ⟨3, .yellow⟩]

def gdep073e01 : DisplayProfile where
  key := "gdep073e01_6c"
  pixelFormat := .indexed4
  colors := [⟨0, .black⟩, ⟨1, .white⟩, ⟨2, .green⟩, ⟨3, .blue⟩, ⟨4, .red⟩, ⟨5, .yellow⟩]

def gdey073d46 : DisplayProfile where
  key := "gdey073d46_7c"
  pixelFormat := .indexed4
  colors := [⟨0, .black⟩, ⟨1, .white⟩, ⟨2, .green⟩, ⟨3, .blue⟩, ⟨4, .red⟩, ⟨5, .yellow⟩, ⟨6, .orange⟩]

/-! ### The packing of `encode_image` -/

inductive PackError where
  /-- `profile.colors[palette_index]` -/
  | indexError
  /-- A byte out of range. -/
  | valueError
  deriving DecidableEq, Repr

/-- `payload[index] |= value` -/
def orByte (payload : List Nat) (index value : Nat) : Except PackError (List Nat) := do
  let byte := payload.getD index 0 ||| value
  require (byte < 256) .valueError
  return payload.set index byte

/-- One turn of the packing loop. -/
def packPixel (profile : DisplayProfile) (payload : List Nat) (entry : Nat × Nat) : Except PackError (List Nat) := do
  let (paletteIndex, index) := entry
  let color ← orError profile.colors[paletteIndex]? .indexError
  match profile.pixelFormat with
  | .twoBpp => orByte payload (index / 4) (color.code <<< (6 - index % 4 * 2))
  | .indexed4 => orByte payload (index / 2) (color.code <<< (if index % 2 = 0 then 4 else 0))

def emptyPayload (profile : DisplayProfile) (pixels : Nat) : List Nat :=
  match profile.pixelFormat with
  | .twoBpp => List.replicate ((pixels + 3) / 4) 0
  | .indexed4 => List.replicate ((pixels + 1) / 2) 0

def packPayload (profile : DisplayProfile) (indexes : List Nat) : Except PackError (List Nat) :=
  indexes.zipIdx.foldlM (packPixel profile) (emptyPayload profile indexes.length)

/-! ### The firmware -/

inductive DisplayRotation where
  | rotate0 | rotate180
  deriving DecidableEq, Repr

structure PhysicalCoordinate where
  x : Nat
  y : Nat
  deriving DecidableEq, Repr

def photoPainterWidth : Nat := 800

def photoPainterHeight : Nat := 480

def payloadWidth : Nat := 480

def payloadHeight : Nat := 800

def photoPainterFrameBytes : Nat := photoPainterWidth * photoPainterHeight / 2

/-- `static_cast<uint8_t>` -/
def toByte (value : Nat) : Nat := value % 256

def readPacked4 (data : List Nat) (pixel : Nat) : Nat :=
  let packed := data.getD (pixel / 2) 0
  if pixel % 2 = 0 then toByte (packed >>> 4) else toByte (packed &&& 0x0F)

def readPacked2 (data : List Nat) (pixel : Nat) : Nat :=
  let packed := data.getD (pixel / 4) 0
  toByte ((packed >>> (6 - pixel % 4 * 2)) &&& 0x03)

def validLogicalIndexed4Color (color : Nat) : Bool := color ≤ 5

/-- The byte with the color of one of its two pixels. -/
def packedByte (byte x color : Nat) : Nat :=
  if x % 2 = 0 then toByte ((byte &&& 0x0F) ||| (color <<< 4)) else toByte ((byte &&& 0xF0) ||| color)

/-- The buffer after the write, or nothing where `false` is returned. -/
def writePacked4 (data : List Nat) (width x y color : Nat) : Option (List Nat) :=
  let byteIndex := y * (width / 2) + x / 2
  if data.length ≤ byteIndex ∨ 0x0F < color then none
  else some (data.set byteIndex (packedByte (data.getD byteIndex 0) x color))

def nativeColorFromIndexed4 : Nat → Nat
  | 0 => 0
  | 1 => 1
  | 2 => 6
  | 3 => 5
  | 4 => 3
  | 5 => 2
  | _ => 0xFF

def nativeColorFrom2bpp : Nat → Nat
  | 0 => 0
  | 1 => 1
  | 2 => 3
  | 3 => 2
  | _ => 1

def portraitToPhysical (x y : Nat) (rotation : DisplayRotation) : Option PhysicalCoordinate :=
  if payloadWidth ≤ x ∨ payloadHeight ≤ y then none
  else
    let output : PhysicalCoordinate :=
      match rotation with
      | .rotate0 => ⟨photoPainterWidth - 1 - y, x⟩
      | .rotate180 => ⟨y, photoPainterHeight - 1 - x⟩
    if output.x < photoPainterWidth ∧ output.y < photoPainterHeight then some output else none

/-- The two nested loops, as the pixels in the order in which they come. -/
def framePixels : List (Nat × Nat) :=
  (List.range payloadHeight).flatMap fun y => (List.range payloadWidth).map fun x => (x, y)

structure Converted where
  accepted : Bool
  nativeFrame : List Nat
  invalidLogicalPalette : Bool := false
  deriving DecidableEq, Repr

def logicalColor (wire : List Nat) (indexed4 : Bool) (pixel : Nat) : Nat :=
  if indexed4 then readPacked4 wire pixel else readPacked2 wire pixel

def nativeColor (indexed4 : Bool) (logical : Nat) : Nat :=
  if indexed4 then nativeColorFromIndexed4 logical else nativeColorFrom2bpp logical

def convertPixels (wire : List Nat) (indexed4 : Bool) (rotation : DisplayRotation) : List (Nat × Nat) → List Nat → Converted
  | [], nativeFrame => ⟨true, nativeFrame, false⟩
  | (x, y) :: rest, nativeFrame =>
    let logical := logicalColor wire indexed4 (y * payloadWidth + x)
    if indexed4 && !validLogicalIndexed4Color logical then ⟨false, nativeFrame, true⟩
    else match portraitToPhysical x y rotation with
      | none => ⟨false, nativeFrame, false⟩
      | some physical =>
        match writePacked4 nativeFrame photoPainterWidth physical.x physical.y (nativeColor indexed4 logical) with
        | none => ⟨false, nativeFrame, false⟩
        | some nativeFrame => convertPixels wire indexed4 rotation rest nativeFrame

def convertWireFrameToNative (wire : List Nat) (indexed4 : Bool) (rotation : DisplayRotation) (nativeFrame : List Nat) : Converted :=
  let pixelCount := payloadWidth * payloadHeight
  let expectedWireSize := pixelCount / (if indexed4 then 2 else 4)
  if wire.length ≠ expectedWireSize ∨ nativeFrame.length ≠ photoPainterFrameBytes then ⟨false, nativeFrame, false⟩
  else convertPixels wire indexed4 rotation framePixels (List.replicate nativeFrame.length 0x11)

/-! ### The Stock converter -/

inductive StockError where
  | size | unknownColor | position
  deriving DecidableEq, Repr

abbrev Rgb := Nat × Nat × Nat

def indexed4Rgb : ColorName → Option Rgb
  | .black => some (0, 0, 0)
  | .white => some (255, 255, 255)
  | .green => some (0, 255, 0)
  | .blue => some (0, 0, 255)
  | .red => some (255, 0, 0)
  | .yellow => some (255, 255, 0)
  | .orange => none

def safe4Rgb : ColorName → Option Rgb
  | .black => some (0, 0, 0)
  | .white => some (255, 255, 255)
  | .red => some (255, 0, 0)
  | .yellow => some (255, 255, 0)
  | _ => none

def readIndexed4 (payload : List Nat) (pixel : Nat) : Except StockError Nat :=
  match payload[pixel / 2]? with
  | none => .error .position
  | some packed => .ok (if pixel % 2 = 0 then packed >>> 4 else packed &&& 0x0F)

def read2bpp (payload : List Nat) (pixel : Nat) : Except StockError Nat :=
  match payload[pixel / 4]? with
  | none => .error .position
  | some packed => .ok ((packed >>> (6 - pixel % 4 * 2)) &&& 0x03)

def portraitToPhysicalStock (x y : Nat) (rotate180 : Bool) : Except StockError PhysicalCoordinate := do
  require (x < 480 && y < 800) .position
  let output : PhysicalCoordinate := if rotate180 then ⟨y, 479 - x⟩ else ⟨799 - y, x⟩
  require (output.x < 800 && output.y < 480) .position
  return output

/-- `palette` of `packed_to_rgb888` -/
def stockPalette (format : PixelFormat) (code : Nat) : Option Rgb :=
  match format, code with
  | .indexed4, 0 => indexed4Rgb .black
  | .indexed4, 1 => indexed4Rgb .white
  | .indexed4, 2 => indexed4Rgb .green
  | .indexed4, 3 => indexed4Rgb .blue
  | .indexed4, 4 => indexed4Rgb .red
  | .indexed4, 5 => indexed4Rgb .yellow
  | .twoBpp, 0 => safe4Rgb .black
  | .twoBpp, 1 => safe4Rgb .white
  | .twoBpp, 2 => safe4Rgb .red
  | .twoBpp, 3 => safe4Rgb .yellow
  | _, _ => none

def readStock (format : PixelFormat) (payload : List Nat) (pixel : Nat) : Except StockError Nat :=
  match format with
  | .indexed4 => readIndexed4 payload pixel
  | .twoBpp => read2bpp payload pixel

/-- `output[offset : offset + 3] = bytes((red, green, blue))` -/
def setRgb (output : List Nat) (offset : Nat) (rgb : Rgb) : List Nat :=
  ((output.set offset rgb.1).set (offset + 1) rgb.2.1).set (offset + 2) rgb.2.2

def rgbPixel (format : PixelFormat) (payload : List Nat) (rotate180 : Bool) (output : List Nat) (pixel : Nat × Nat) :
    Except StockError (List Nat) := do
  let (x, y) := pixel
  let code ← readStock format payload (y * 480 + x)
  let rgb ← orError (stockPalette format code) .unknownColor
  let physical ← portraitToPhysicalStock x y rotate180
  return setRgb output ((physical.y * 800 + physical.x) * 3) rgb

def packedToRgb888 (payload : List Nat) (format : PixelFormat) (rotate180 : Bool) : Except StockError (List Nat) := do
  let expected := match format with
    | .indexed4 => 192000
    | .twoBpp => 96000
  require (payload.length = expected) .size
  framePixels.foldlM (rgbPixel format payload rotate180) (List.replicate (800 * 480 * 3) 0)

end InkTime.Panel
