import InkTime.Library.Rounding
import InkTime.Rendering.Nearest

/-!
# The six-color fast path

`_quantize_waveshare_six_color`: a decision tree takes the nearest of six pure colors, and tables tell what the error makes of
the bytes around a pixel. It is the plain Floyd–Steinberg diffusion of the nearest color.
-/

namespace InkTime.Rendering

open Checked (orError)
open ErrorDiffusion (Kernel Sweep)
open Rounding (roundHalfEven)

def waveshareSixColorIndex (red green blue : Nat) : Nat :=
  if blue ≥ 128 then
    if red ≥ 128 then
      if green ≥ 128 ∨ (red + green ≥ 255 ∧ blue + green ≥ 255) then 1
      else if blue ≤ red then 3 else 4
    else if green ≥ 128 then
      if red + green ≥ 255 ∧ red + blue ≥ 255 then 1
      else if green ≤ blue then 4 else 5
    else 4
  else if red ≥ 128 then if green ≥ 128 then 2 else 3
  else if green ≥ 128 then 5 else 0

/-- `clip(rint(value + error * numerator / 16), 0, 255)` -/
def roundedChange (numerator : Nat) (error : ℤ) (value : UInt8) : UInt8 :=
  clampByte (roundHalfEven ((value.toNat : ℚ) + error * numerator / 16))

def waveshareDiffusionTables : List (Nat × List UInt8) :=
  [7, 3, 5, 1].map fun numerator => (numerator, errorTable (roundedChange numerator))

/-- Black, white, yellow, red, blue and green. -/
def waveshareColors : List Rgb := [⟨0, 0, 0⟩, ⟨255, 255, 255⟩, ⟨255, 255, 0⟩, ⟨255, 0, 0⟩, ⟨0, 0, 255⟩, ⟨0, 255, 0⟩]

def waveshareLogical : List UInt8 := [0, 1, 5, 4, 3, 2]

/-- The neighbors of a pixel within the image, with their numerators. -/
def neighborsOf (width height x y : Nat) (offset : ℤ) : List (ℤ × Nat) :=
  (if x + 1 < width then [(offset + 3, 7)] else []) ++
  (if y + 1 < height then
    (if x > 0 then [(offset + ((width : ℤ) - 1) * 3, 3)] else []) ++ [(offset + (width : ℤ) * 3, 5)] ++
      (if x + 1 < width then [(offset + ((width : ℤ) + 1) * 3, 1)] else [])
  else [])

def diffuseTo (errors : Channels ℤ) (work : List UInt8) (neighbor : ℤ × Nat) : Except RenderError (List UInt8) := do
  let table ← orError (waveshareDiffusionTables.lookup neighbor.2) .index
  lookUpPixel table work neighbor.1 errors

def waveshareTurn (width height y : Nat) (state : List UInt8 × List UInt8) (x : Nat) : Except RenderError (List UInt8 × List UInt8) := do
  let offset : ℤ := (y * width + x : Nat) * 3
  let rgb ← readPixel state.1 offset
  let chosen := waveshareSixColorIndex rgb.red.toNat rgb.green.toNat rgb.blue.toNat
  let entry ← orError waveshareLogical[chosen]? .index
  let indexes ← setByte state.2 (y * width + x : Nat) entry
  let color ← orError waveshareColors[chosen]? .index
  let work ← (neighborsOf width height x y offset).foldlM (diffuseTo (channelMiss rgb color)) state.1
  return (work, indexes)

def gooddisplayRgbByName : List (String × Rgb) :=
  [("black", ⟨0, 0, 0⟩), ("white", ⟨255, 255, 255⟩), ("green", ⟨0, 255, 0⟩), ("blue", ⟨0, 0, 255⟩), ("red", ⟨255, 0, 0⟩),
    ("yellow", ⟨255, 255, 0⟩)]

def gooddisplayColors {arith : Arithmetic} (profile : DisplayProfile arith) : Except RenderError (List (PaletteColor arith)) :=
  if profile.key ≠ "gdep073e01_6c" then .ok profile.colors
  else profile.colors.mapM fun color => do
    let rgb ← orError (gooddisplayRgbByName.lookup color.name) .missing
    return ⟨color.code, color.name, rgb, none⟩

/-- What a picture of palette indexes shows; a palette is filled up with black. -/
def previewOf {arith : Arithmetic} (palette : List (PaletteColor arith)) (indexes : List UInt8) : List Rgb :=
  indexes.map fun index => (palette[index.toNat]?.map PaletteColor.rgb).getD ⟨0, 0, 0⟩

def quantizeWaveshareSixColor {arith : Arithmetic} (image : Image) (profile : DisplayProfile arith) :
    Except RenderError (List UInt8 × List Rgb × List (PaletteColor arith)) := do
  let (_, indexes) ← (List.range image.height).foldlM
    (fun state y => (List.range image.width).foldlM (waveshareTurn image.width image.height y) state)
    (image.tobytes, List.replicate (image.width * image.height) 0)
  let palette ← gooddisplayColors profile
  return (indexes, previewOf palette indexes, palette)

/-! ### The decision tree -/

/-- What a color is compared by with the six pure colors. -/
def waveshareCosts (red green blue : Nat) : List ℤ :=
  [0, 195075 - 510 * (red + green + blue), 130050 - 510 * (red + green), 65025 - 510 * red, 65025 - 510 * blue, 65025 - 510 * green]

lemma comparedDistance_waveshare (rgb : Rgb) {i : Nat} (hi : i < 6) : comparedDistance rgb (waveshareColors.getD i black) =
    (waveshareCosts rgb.red.toNat rgb.green.toNat rgb.blue.toNat).getD i 0 := by
  interval_cases i
  all_goals
    simp only [waveshareColors, waveshareCosts, comparedDistance, List.getD_cons_zero, List.getD_cons_succ, UInt8.toNat_ofNat]
    push_cast
    ring

/-- Each leaf of the tree is less than all before it and at most all after it. -/
lemma waveshareSixColorIndex_least {red green blue : Nat} (hred : red < 256) (hgreen : green < 256) (hblue : blue < 256) :
    IsFirstLeast (fun i => (waveshareCosts red green blue).getD i 0) 6 (waveshareSixColorIndex red green blue) := by
  have hleast : waveshareSixColorIndex red green blue < 6 ∧ ∀ i < 6,
      (waveshareCosts red green blue).getD (waveshareSixColorIndex red green blue) 0 ≤ (waveshareCosts red green blue).getD i 0 ∧
      (i < waveshareSixColorIndex red green blue →
        (waveshareCosts red green blue).getD (waveshareSixColorIndex red green blue) 0 < (waveshareCosts red green blue).getD i 0) := by
    unfold waveshareSixColorIndex waveshareCosts
    split_ifs
    all_goals
      refine ⟨by omega, fun i hi => ?_⟩
      interval_cases i
      all_goals
        simp only [List.getD_cons_zero, List.getD_cons_succ]
        omega
  exact ⟨hleast.1, fun i hi => (hleast.2 i hi).1, fun i hi => (hleast.2 i (lt_trans hi hleast.1)).2 hi⟩

/-- The tree takes the first of the nearest colors. -/
theorem waveshareSixColorIndex_first (rgb : Rgb) :
    IsFirstLeast (fun i => squaredDistance rgb (waveshareColors.getD i black)) 6
      (waveshareSixColorIndex rgb.red.toNat rgb.green.toNat rgb.blue.toNat) := by
  apply (waveshareSixColorIndex_least rgb.red.toNat_lt rgb.green.toNat_lt rgb.blue.toNat_lt).shift
  intro i hi
  rw [squaredDistance_eq, comparedDistance_waveshare rgb hi]

lemma waveshareSixColorIndex_eq (rgb : Rgb) :
    waveshareSixColorIndex rgb.red.toNat rgb.green.toNat rgb.blue.toNat = firstNearest waveshareColors rgb :=
  (waveshareSixColorIndex_first rgb).unique (firstLeast_spec (Nat.succ_pos 5))

/-! ### The diffusion -/

/-- The diffusion of the nearest of the six pure colors, from the left in every row. -/
def waveshareKernel (width height : Nat) : Kernel Rgb :=
  nearestKernel width height (fun _ => false) (fun _ _ => true) waveshareColors roundedChange

def waveshareChoice (rgb : Rgb) : UInt8 := waveshareLogical.getD (firstNearest waveshareColors rgb) 0

/-- A target of an error as a neighbor, if there is one. -/
def toward (width height : Nat) (target : Option Nat) (row numerator : Nat) : List (ℤ × Nat) :=
  match target with
  | none => []
  | some column => if row < height then [(((row * width + column : Nat) * 3 : ℤ), numerator)] else []

variable {width height x y : Nat}

lemma neighborsOf_eq (hx : x < width) (hy : y < height) : neighborsOf width height x y ((y * width + x : Nat) * 3) =
    toward width height ((waveshareKernel width height).ahead y x) y 7 ++
    (toward width height ((waveshareKernel width height).behind y x) (y + 1) 3 ++ (toward width height (some x) (y + 1) 5 ++
      toward width height ((waveshareKernel width height).ahead y x) (y + 1) 1)) := by
  have hahead : (waveshareKernel width height).ahead y x = if x + 1 < width then some (x + 1) else none := rfl
  have hbehind : (waveshareKernel width height).behind y x = if 0 < x then some (x - 1) else none := rfl
  have hnext : ((y * width + x : Nat) * 3 + 3 : ℤ) = ((y * width + (x + 1) : Nat) * 3 : ℤ) := by
    push_cast
    ring
  have hback : 0 < x → ((y * width + x : Nat) * 3 + ((width : ℤ) - 1) * 3 : ℤ) = (((y + 1) * width + (x - 1) : Nat) * 3 : ℤ) := by
    intro hpos
    obtain ⟨x, rfl⟩ := Nat.exists_eq_succ_of_ne_zero (Nat.pos_iff_ne_zero.mp hpos)
    rw [Nat.succ_sub_one]
    push_cast
    ring
  have hbeneath : ((y * width + x : Nat) * 3 + (width : ℤ) * 3 : ℤ) = (((y + 1) * width + x : Nat) * 3 : ℤ) := by
    push_cast
    ring
  have hcorner : ((y * width + x : Nat) * 3 + ((width : ℤ) + 1) * 3 : ℤ) = (((y + 1) * width + (x + 1) : Nat) * 3 : ℤ) := by
    push_cast
    ring
  unfold neighborsOf
  rw [hahead, hbehind, hnext, hbeneath, hcorner]
  by_cases hright : x + 1 < width
  · by_cases hleft : 0 < x
    · rw [hback hleft]
      by_cases hbelow : y + 1 < height
      · simp [toward, hright, hleft, hbelow, hy]
      · simp [toward, hright, hleft, hbelow, hy]
    · by_cases hbelow : y + 1 < height
      · simp [toward, hright, hleft, hbelow, hy]
      · simp [toward, hright, hleft, hbelow, hy]
  · by_cases hleft : 0 < x
    · rw [hback hleft]
      by_cases hbelow : y + 1 < height
      · simp [toward, hright, hleft, hbelow]
      · simp [toward, hright, hleft, hbelow]
    · by_cases hbelow : y + 1 < height
      · simp [toward, hright, hleft, hbelow]
      · simp [toward, hright, hleft, hbelow]

lemma foldlM_toward (errors : Channels ℤ) (work : List UInt8) (target : Option Nat) (row : Nat) {numerator : Nat}
    (hnumerator : numerator ∈ [7, 3, 5, 1]) : (toward width height target row numerator).foldlM (diffuseTo errors) work =
      pushBytes (waveshareKernel width height) (errorTable (roundedChange numerator)) errors target row work := by
  have htable : waveshareDiffusionTables.lookup numerator = some (errorTable (roundedChange numerator)) := by
    fin_cases hnumerator <;> rfl
  unfold toward pushBytes
  cases target with
  | none => rfl
  | some column =>
    dsimp only
    by_cases hrow : row < height
    · rw [if_pos hrow, if_pos (by simpa [waveshareKernel, nearestKernel] using hrow), List.foldlM_cons]
      unfold diffuseTo
      rw [htable]
      exact bind_pure _
    · rw [if_neg hrow, if_neg (by simpa [waveshareKernel, nearestKernel] using hrow)]
      rfl

lemma foldlM_neighborsOf (hx : x < width) (hy : y < height) (errors : Channels ℤ) (work : List UInt8) :
    (neighborsOf width height x y ((y * width + x : Nat) * 3)).foldlM (diffuseTo errors) work =
      spreadBytes (waveshareKernel width height) (fun numerator => errorTable (roundedChange numerator)) errors y x work := by
  rw [neighborsOf_eq hx hy]
  simp only [List.foldlM_append, foldlM_toward, List.mem_cons, true_or, or_true]
  rfl

/-- A turn of the loops does what a visit does. -/
lemma waveshareTurn_visit (hx : x < width) (hy : y < height) {state : List UInt8 × List UInt8} {sweep : Sweep Rgb}
    (h : Follows (waveshareKernel width height) (fun _ _ => waveshareChoice) state sweep) :
    ∃ state', waveshareTurn width height y state x = .ok state' ∧
      Follows (waveshareKernel width height) (fun _ _ => waveshareChoice) state' ((waveshareKernel width height).visit y sweep x) := by
  set source := sweep.cells x y
  set chosen := firstNearest waveshareColors source with hchosen
  have hlt : chosen < 6 := (firstLeast_spec (Nat.succ_pos 5)).1
  have hentry : waveshareLogical[chosen]? = some (waveshareChoice source) := getElem?_eq_getD hlt
  have hcolor : waveshareColors[chosen]? = some (waveshareColors.getD chosen black) := getElem?_eq_getD hlt
  obtain ⟨work, hwork, hholds⟩ := spreadBytes_holds h.work roundedChange (fun _ _ => rfl)
    (channelMiss_inTable source (waveshareColors.getD chosen black)) rfl hx
  refine ⟨(work, state.2.set (y * width + x) (waveshareChoice source)), ?_, h.visit hholds hx hy⟩
  refine Checked.bind_eq_ok.mpr ⟨source, h.work.read hx hy, ?_⟩
  dsimp only
  rw [waveshareSixColorIndex_eq, ← hchosen]
  refine Checked.bind_eq_ok.mpr ⟨_, Checked.orError_eq_ok.mpr hentry, ?_⟩
  refine Checked.bind_eq_ok.mpr ⟨_, setByte_ok ?_, ?_⟩
  · rw [h.length]
    exact position_lt hx hy
  refine Checked.bind_eq_ok.mpr ⟨_, Checked.orError_eq_ok.mpr hcolor, ?_⟩
  refine Checked.bind_eq_ok.mpr ⟨work, ?_, rfl⟩
  rw [foldlM_neighborsOf hx hy]
  exact hwork

/-! ### The fast path -/

/-- The tree takes the first nearest color. No access is out of range, and each pixel gets the color nearest to the value of the
recursion. -/
theorem six_color_diffused :
    (∀ rgb : Rgb, IsFirstLeast (fun i => squaredDistance rgb (waveshareColors.getD i black)) waveshareColors.length
      (waveshareSixColorIndex rgb.red.toNat rgb.green.toNat rgb.blue.toNat)) ∧
    ∀ (arith : Arithmetic) (image : Image) (profile : DisplayProfile arith),
      ∃ values indexes, (waveshareKernel image.width image.height).IsDiffused image.pixel values ∧
        indexes.length = image.width * image.height ∧
        (∀ x < image.width, ∀ y < image.height, indexes[y * image.width + x]? = some (waveshareChoice (values x y))) ∧
        quantizeWaveshareSixColor image profile =
          (gooddisplayColors profile).map fun palette => (indexes, previewOf palette indexes, palette) := by
  refine ⟨waveshareSixColorIndex_first, fun arith image profile => ?_⟩
  set kernel := waveshareKernel image.width image.height with hkernel
  have hvalues := Kernel.isDiffused_diffused kernel image.pixel
  obtain ⟨state, hstate, hlength, hindexes⟩ := follows_run hvalues (follows_start (holds_tobytes image))
    (fun y hy x hx state sweep h => waveshareTurn_visit hx hy h)
  refine ⟨_, state.2, hvalues, hlength, hindexes, ?_⟩
  have hloops : (List.range image.height).foldlM
      (fun state y => (List.range image.width).foldlM (waveshareTurn image.width image.height y) state)
      (image.tobytes, List.replicate (image.width * image.height) 0) = .ok state := hstate
  unfold quantizeWaveshareSixColor
  rw [hloops]
  cases gooddisplayColors profile with
  | error e => rfl
  | ok palette => rfl

end InkTime.Rendering
