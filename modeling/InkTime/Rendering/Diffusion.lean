import InkTime.Rendering.Pixels

/-!
# Error diffusion

`_quantize_diffusion`: row by row and to and fro, every pixel takes a color of the palette, and what it misses is added to the
pixels around it, which three row buffers hold. A protected pixel takes black or white and neither gives nor takes error.
-/

namespace InkTime.Rendering

open Checked (require orError)

inductive DiffusionAlgorithm where
  | floydSteinberg | serpentineFloydSteinberg | atkinson
  deriving DecidableEq, Repr

/-- A protection mask with one bit for a pixel. -/
structure Mask where
  width : Nat
  height : Nat
  bit : Nat → Nat → Bool

/-- The rows of errors: of the row at hand, of the next one and of the one after. -/
structure Buffers (arith : Arithmetic) where
  current : List arith.Value
  following : List arith.Value
  second : List arith.Value

structure Canvas (arith : Arithmetic) where
  buffers : Buffers arith
  indexes : List Nat
  preview : List Rgb

/-- What a call of `_quantize_diffusion` is made with. -/
structure Diffusion (arith : Arithmetic) where
  profile : DisplayProfile arith
  /-- The palette index of each color with five bits a channel. -/
  lookup : List Nat
  algorithm : DiffusionAlgorithm
  strength : arith.Value
  linearLight : Bool
  protectedMask : Option Mask

def offsetOf (x : Nat) : Nat := (x + 2) * 3

def blankRow (arith : Arithmetic) (width : Nat) : List arith.Value := List.replicate ((width + 4) * 3) (arith.literal 0)

namespace Diffusion

variable {arith : Arithmetic} (call : Diffusion arith)

def isProtected (width height : Nat) (x y : ℤ) : Except RenderError Bool :=
  match call.protectedMask with
  | none => .ok false
  | some mask =>
    if 0 ≤ x ∧ x < width ∧ 0 ≤ y ∧ y < height then do
      require (x < mask.width && y < mask.height) .index
      return mask.bit x.toNat y.toNat
    else .ok false

def addChannel (buffer : List arith.Value) (position : Nat) (value : arith.Value) : Except RenderError (List arith.Value) := do
  let held ← orError buffer[position]? .index
  return buffer.set position (arith.add held value)

def addError (buffer : List arith.Value) (x : Nat) (error : Channels arith.Value) (weight : arith.Value) :
    Except RenderError (List arith.Value) := do
  let buffer ← addChannel buffer (offsetOf x) (arith.mul error.red weight)
  let buffer ← addChannel buffer (offsetOf x + 1) (arith.mul error.green weight)
  addChannel buffer (offsetOf x + 2) (arith.mul error.blue weight)

def distribute (width height : Nat) (buffer : List arith.Value) (x targetY : ℤ) (error : Channels arith.Value) (weight : ℚ) :
    Except RenderError (List arith.Value) := do
  if 0 ≤ x ∧ x < width then
    let kept ← call.isProtected width height x targetY
    if kept then return buffer else addError buffer x.toNat error (arith.literal weight)
  else return buffer

def nearest (matched : Channels arith.Value) : Except RenderError Nat := do
  let red ← arith.clampChannel matched.red
  let green ← arith.clampChannel matched.green
  let blue ← arith.clampChannel matched.blue
  orError call.lookup[(red.toNat >>> 3 <<< 10) ||| (green.toNat >>> 3 <<< 5) ||| (blue.toNat >>> 3)]? .index

/-- How far the lightness of a palette color is from a luminance. -/
def lightnessMiss (luminance : arith.Value) (index : Nat) : arith.Value :=
  let rgb := (call.profile.colors[index]?.map PaletteColor.rgb).getD ⟨0, 0, 0⟩
  arith.abs (arith.sub (arith.div (arith.literal (rgb.red.toNat + rgb.green.toNat + rgb.blue.toNat)) (arith.literal 3)) luminance)

/-- `min(indexes, key=...)` -/
def leastMiss (luminance : arith.Value) (first : Nat) (rest : List Nat) : Nat :=
  rest.foldl (fun best index =>
    if arith.lt (call.lightnessMiss luminance index) (call.lightnessMiss luminance best) then index else best) first

def chooseIndex (kept : Bool) (matched : Channels arith.Value) : Except RenderError Nat :=
  match kept, monochrome call.profile.colors with
  | true, [first, second] =>
    .ok (call.leastMiss (arith.div (arith.sum matched.toList) (arith.literal 3)) first [second])
  | _, _ => call.nearest matched

/-- The channels of a color, with the light linear where the call asks for it. -/
def spaceOf (rgb : Rgb) : Channels arith.Value :=
  rgb.map fun byte => if call.linearLight then arith.linearChannel (arith.ofByte byte) else arith.ofByte byte

def spread (width height : Nat) (buffers : Buffers arith) (x y direction : ℤ) (error : Channels arith.Value) :
    Except RenderError (Buffers arith) :=
  match call.algorithm with
  | .floydSteinberg | .serpentineFloydSteinberg => do
    let current ← call.distribute width height buffers.current (x + direction) y error (7 / 16)
    let following ← call.distribute width height buffers.following (x - direction) (y + 1) error (3 / 16)
    let following ← call.distribute width height following x (y + 1) error (5 / 16)
    let following ← call.distribute width height following (x + direction) (y + 1) error (1 / 16)
    return { buffers with current := current, following := following }
  | .atkinson => do
    let current ← call.distribute width height buffers.current (x + direction) y error (1 / 8)
    let current ← call.distribute width height current (x + 2 * direction) y error (1 / 8)
    let following ← call.distribute width height buffers.following (x - direction) (y + 1) error (1 / 8)
    let following ← call.distribute width height following x (y + 1) error (1 / 8)
    let following ← call.distribute width height following (x + direction) (y + 1) error (1 / 8)
    let second ← call.distribute width height buffers.second x (y + 2) error (1 / 8)
    return ⟨current, following, second⟩

/-- A protected pixel keeps its error to itself. -/
def give (width height : Nat) (buffers : Buffers arith) (x y direction : ℤ) (error : Channels arith.Value) (kept : Bool) :
    Except RenderError (Buffers arith) :=
  if kept then .ok buffers else call.spread width height buffers x y direction error

/-- What a pixel leaves in the buffers, and the palette index and the color it takes. -/
def settlePixel (width height : Nat) (direction : ℤ) (x y : Nat) (buffers : Buffers arith) (original : Rgb) :
    Except RenderError (Buffers arith × Nat × Rgb) := do
  let red ← orError buffers.current[offsetOf x]? .index
  let green ← orError buffers.current[offsetOf x + 1]? .index
  let blue ← orError buffers.current[offsetOf x + 2]? .index
  let adjusted := (call.spaceOf original).zip arith.add ⟨red, green, blue⟩
  let matched := if call.linearLight then adjusted.map arith.srgbChannel else adjusted
  let kept ← call.isProtected width height x y
  let paletteIndex ← call.chooseIndex kept matched
  let color ← orError call.profile.colors[paletteIndex]? .index
  let error := adjusted.zip (fun value chosen => arith.mul (arith.sub value chosen) call.strength) (call.spaceOf color.rgb)
  let given ← call.give width height buffers x y direction error kept
  return (given, paletteIndex, color.rgb)

def pixel (image : Image) (y : Nat) (direction : ℤ) (canvas : Canvas arith) (x : Nat) : Except RenderError (Canvas arith) := do
  let (buffers, paletteIndex, chosen) ← call.settlePixel image.width image.height direction x y canvas.buffers (image.pixel x y)
  return ⟨buffers, canvas.indexes.set (y * image.width + x) paletteIndex, canvas.preview.set (y * image.width + x) chosen⟩

/-- The buffers for the next row. -/
def rotate (width : Nat) (buffers : Buffers arith) : Buffers arith :=
  match call.algorithm with
  | .atkinson => ⟨buffers.following, buffers.second, blankRow arith width⟩
  | _ => ⟨buffers.following, blankRow arith width, buffers.second⟩

def columns (width y : Nat) : List Nat := if y % 2 = 0 then List.range width else (List.range width).reverse

def row (image : Image) (canvas : Canvas arith) (y : Nat) : Except RenderError (Canvas arith) := do
  let direction := if y % 2 = 0 then 1 else -1
  let canvas ← (columns image.width y).foldlM (call.pixel image y direction) canvas
  return { canvas with buffers := call.rotate image.width canvas.buffers }

def quantizeDiffusion (image : Image) : Except RenderError (List Nat × List Rgb) := do
  let blank := blankRow arith image.width
  let canvas ← (List.range image.height).foldlM (call.row image)
    ⟨⟨blank, blank, blank⟩, List.replicate (image.width * image.height) 0, List.replicate (image.width * image.height) ⟨0, 0, 0⟩⟩
  return (canvas.indexes, canvas.preview)

end Diffusion

end InkTime.Rendering
