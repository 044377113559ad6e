import InkTime.Library.Checked

/-!
# Colors and palettes

The colors of `palette.py`, the conversions between their spaces, and the profiles of the panels. A number with a fraction
belongs to an arithmetic of which nothing is assumed.
-/

namespace InkTime.Rendering

open Checked (require orError)

/-- The arithmetic of fractional numbers: literals and integers, operations, comparisons, `sum`, and `int(round(value))`, which is
refused for what is no finite number. -/
structure Arithmetic where
  Value : Type
  literal : ℚ → Value
  add : Value → Value → Value
  sub : Value → Value → Value
  mul : Value → Value → Value
  div : Value → Value → Value
  pow : Value → Value → Value
  abs : Value → Value
  le : Value → Value → Bool
  lt : Value → Value → Bool
  sum : List Value → Value
  round : Value → Option ℤ

inductive RenderError where
  | value (message : String)
  | conversion
  | index
  | missing
  deriving DecidableEq, Repr

/-- Three channels. -/
structure Channels (α : Type) where
  red : α
  green : α
  blue : α
  deriving DecidableEq, Repr

namespace Channels

variable {α β γ : Type}

def map (f : α → β) (channels : Channels α) : Channels β := ⟨f channels.red, f channels.green, f channels.blue⟩

def zip (f : α → β → γ) (channels : Channels α) (others : Channels β) : Channels γ :=
  ⟨f channels.red others.red, f channels.green others.green, f channels.blue others.blue⟩

def toList (channels : Channels α) : List α := [channels.red, channels.green, channels.blue]

end Channels

abbrev Rgb := Channels UInt8

namespace Arithmetic

variable (arith : Arithmetic)

/-- `float(value)` -/
def ofByte (byte : UInt8) : arith.Value := arith.literal byte.toNat

def linearChannel (value : arith.Value) : arith.Value :=
  let value := arith.div value (arith.literal 255)
  if arith.le value (arith.literal 0.04045) then arith.div value (arith.literal 12.92)
  else arith.pow (arith.div (arith.add value (arith.literal 0.055)) (arith.literal 1.055)) (arith.literal 2.4)

/-- `max(0.0, min(1.0, value))` -/
def clampUnit (value : arith.Value) : arith.Value :=
  let below := if arith.lt value (arith.literal 1) then value else arith.literal 1
  if arith.lt (arith.literal 0) below then below else arith.literal 0

def srgbChannel (value : arith.Value) : arith.Value :=
  let value := arith.clampUnit value
  let encoded := if arith.le value (arith.literal 0.0031308) then arith.mul (arith.literal 12.92) value
    else arith.sub (arith.mul (arith.literal 1.055) (arith.pow value (arith.div (arith.literal 1) (arith.literal 2.4))))
      (arith.literal 0.055)
  arith.mul encoded (arith.literal 255)

/-- `max(0, min(255, int(round(value))))` -/
def clampChannel (value : arith.Value) : Except RenderError UInt8 := do
  let rounded ← orError (arith.round value) .conversion
  return UInt8.ofNat (max 0 (min 255 rounded)).toNat

/-- The weighted sum of three channels. -/
def weighted (red green blue : ℚ) (channels : Channels arith.Value) : arith.Value :=
  arith.add (arith.add (arith.mul (arith.literal red) channels.red) (arith.mul (arith.literal green) channels.green))
    (arith.mul (arith.literal blue) channels.blue)

def labPivot (value : arith.Value) : arith.Value :=
  if arith.lt (arith.literal 0.008856) value then arith.pow value (arith.div (arith.literal 1) (arith.literal 3))
  else arith.add (arith.mul (arith.literal 7.787) value) (arith.div (arith.literal 16) (arith.literal 116))

def lab (rgb : Rgb) : Channels arith.Value :=
  let linear := rgb.map fun byte => arith.linearChannel (arith.ofByte byte)
  let x := arith.div (arith.weighted 0.4124564 0.3575761 0.1804375 linear) (arith.literal 0.95047)
  let y := arith.weighted 0.2126729 0.7151522 0.0721750 linear
  let z := arith.div (arith.weighted 0.0193339 0.1191920 0.9503041 linear) (arith.literal 1.08883)
  let fx := arith.labPivot x
  let fy := arith.labPivot y
  let fz := arith.labPivot z
  ⟨arith.sub (arith.mul (arith.literal 116) fy) (arith.literal 16), arith.mul (arith.literal 500) (arith.sub fx fy),
    arith.mul (arith.literal 200) (arith.sub fy fz)⟩

def labInverse (value : arith.Value) : arith.Value :=
  let cube := arith.pow value (arith.literal 3)
  if arith.lt (arith.literal 0.008856) cube then cube
  else arith.div (arith.sub value (arith.div (arith.literal 16) (arith.literal 116))) (arith.literal 7.787)

def labToRgb (lab : Channels arith.Value) : Except RenderError Rgb := do
  let fy := arith.div (arith.add lab.red (arith.literal 16)) (arith.literal 116)
  let fx := arith.add (arith.div lab.green (arith.literal 500)) fy
  let fz := arith.sub fy (arith.div lab.blue (arith.literal 200))
  let x := arith.mul (arith.literal 0.95047) (arith.labInverse fx)
  let y := arith.labInverse fy
  let z := arith.mul (arith.literal 1.08883) (arith.labInverse fz)
  let red := arith.sub (arith.sub (arith.mul (arith.literal 3.2404542) x) (arith.mul (arith.literal 1.5371385) y))
    (arith.mul (arith.literal 0.4985314) z)
  let green := arith.add (arith.add (arith.mul (arith.literal (-0.9692660)) x) (arith.mul (arith.literal 1.8760108) y))
    (arith.mul (arith.literal 0.0415560) z)
  let blue := arith.add (arith.sub (arith.mul (arith.literal 0.0556434) x) (arith.mul (arith.literal 0.2040259) y))
    (arith.mul (arith.literal 1.0572252) z)
  let red ← arith.clampChannel (arith.srgbChannel red)
  let green ← arith.clampChannel (arith.srgbChannel green)
  let blue ← arith.clampChannel (arith.srgbChannel blue)
  return ⟨red, green, blue⟩

end Arithmetic

/-! ### Profiles -/

structure PaletteColor (arith : Arithmetic) where
  code : Nat
  name : String
  rgb : Rgb
  lab : Option (Channels arith.Value)

structure DisplayProfile (arith : Arithmetic) where
  key : String
  pixelFormat : String
  colors : List (PaletteColor arith)

section

variable (arith : Arithmetic)

/-- Colors with their codes counted from 0. -/
def numbered (colors : List (String × Rgb)) : List (PaletteColor arith) :=
  colors.zipIdx.map fun entry => ⟨entry.2, entry.1.1, entry.1.2, none⟩

def safe4c : DisplayProfile arith :=
  ⟨"safe_4c", "2bpp", numbered arith [("black", ⟨0, 0, 0⟩), ("white", ⟨255, 255, 255⟩), ("red", ⟨220, 30, 30⟩),
    ("yellow", ⟨245, 190, 25⟩)]⟩

def gdep073e01 : DisplayProfile arith :=
  ⟨"gdep073e01_6c", "indexed4", numbered arith [("black", ⟨0, 0, 0⟩), ("white", ⟨255, 255, 255⟩), ("green", ⟨25, 155, 70⟩),
    ("blue", ⟨30, 85, 170⟩), ("red", ⟨210, 35, 35⟩), ("yellow", ⟨240, 195, 25⟩)]⟩

def gdey073d46 : DisplayProfile arith :=
  ⟨"gdey073d46_7c", "indexed4", numbered arith [("black", ⟨0, 0, 0⟩), ("white", ⟨255, 255, 255⟩), ("green", ⟨25, 155, 70⟩),
    ("blue", ⟨30, 85, 170⟩), ("red", ⟨210, 35, 35⟩), ("yellow", ⟨240, 195, 25⟩), ("orange", ⟨240, 110, 20⟩)]⟩

def displayProfiles : List (DisplayProfile arith) := [safe4c arith, gdep073e01 arith, gdey073d46 arith]

def getDisplayProfile (key : String) : Except RenderError (DisplayProfile arith) :=
  orError ((displayProfiles arith).find? fun profile => profile.key == key) (.value s!"RENDER-003 不支援的顯示 Profile：{key}")

/-- The Lab values of a color, and where it has none those of its RGB values. -/
def colorLab (profile : DisplayProfile arith) (name : String) : Except RenderError (Channels arith.Value) := do
  let color ← orError (profile.colors.find? fun color => color.name == name) .missing
  return color.lab.getD (arith.lab color.rgb)

def rgbOverride (color : PaletteColor arith) (values : List ℤ) : Except RenderError (PaletteColor arith) :=
  let refused := RenderError.value s!"RENDER-006 {color.name} RGB 必須為 0 到 255 的三個數值"
  match values with
  | [red, green, blue] => do
    require (values.all fun value => 0 ≤ value && value ≤ 255) refused
    let rgb : Rgb := ⟨UInt8.ofNat red.toNat, UInt8.ofNat green.toNat, UInt8.ofNat blue.toNat⟩
    return { color with rgb := rgb, lab := some (arith.lab rgb) }
  | _ => .error refused

def labOverride (color : PaletteColor arith) (values : List arith.Value) : Except RenderError (PaletteColor arith) :=
  let refused := RenderError.value s!"RENDER-006 {color.name} Lab 數值超出範圍"
  match values with
  | [lightness, first, second] => do
    require (arith.le (arith.literal 0) lightness && arith.le lightness (arith.literal 100)) refused
    require (!arith.lt (arith.literal 160) (arith.abs first) && !arith.lt (arith.literal 160) (arith.abs second)) refused
    let rgb ← arith.labToRgb ⟨lightness, first, second⟩
    return { color with rgb := rgb, lab := some ⟨lightness, first, second⟩ }
  | _ => .error refused

/-- A color of a profile with the values that a request gives it by its name. -/
def overridden (profile : DisplayProfile arith) (rgbValues : List (String × List ℤ)) (labValues : List (String × List arith.Value))
    (color : PaletteColor arith) : Except RenderError (PaletteColor arith) :=
  match rgbValues.lookup color.name, labValues.lookup color.name with
  | some values, _ => rgbOverride arith color values
  | none, some values => labOverride arith color values
  | none, none => do
    let lab ← colorLab arith profile color.name
    return { color with lab := some lab }

def paletteForProfile (profileKey : String) (rgbValues : List (String × List ℤ)) (labValues : List (String × List arith.Value)) :
    Except RenderError (DisplayProfile arith) := do
  let profile ← getDisplayProfile arith profileKey
  require (rgbValues.isEmpty || labValues.isEmpty) (.value "RENDER-006 自訂色盤只能選 RGB 或 Lab 其中一種")
  if rgbValues.isEmpty && labValues.isEmpty then return profile
  let colors ← profile.colors.mapM (overridden arith profile rgbValues labValues)
  return { profile with colors := colors }

end

/-- `[index for index, color in enumerate(profile.colors) if color.name in {"black", "white"}]` -/
def monochrome {arith : Arithmetic} (colors : List (PaletteColor arith)) : List Nat :=
  (colors.zipIdx.filter fun entry => entry.1.name == "black" || entry.1.name == "white").map Prod.snd

end InkTime.Rendering
