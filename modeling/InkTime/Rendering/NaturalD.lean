import InkTime.Rendering.Nearest

/-!
# The natural-D quantizer

`quantize` of `natural_d.py`, from the buffer that `_prepare` returns on: the nearest color of a palette by integer costs, and the
serpentine diffusion by tables, beside the pixels of a mask. Colors of a palette are read as bytes when they are checked.
-/

namespace InkTime.Rendering.NaturalD

open Checked (require orError)
open ErrorDiffusion (Kernel Sweep)

def maxPixels : Nat := 480 * 800

def sizeMessage : String := "RENDER-004 D 色彩模式僅接受不超過 480×800 像素的已排版圖片"

def paletteMessage : String := "RENDER-004 D 色彩模式色盤不合法"

def maskMessage : String := "RENDER-004 文字保護遮罩尺寸不符"

/-- A color of three numbers from 0 to 255. -/
def byteColor (color : List ℤ) : Option Rgb :=
  match color with
  | [red, green, blue] =>
    if [red, green, blue].all fun value => 0 ≤ value && value ≤ 255 then
      some ⟨UInt8.ofNat red.toNat, UInt8.ofNat green.toNat, UInt8.ofNat blue.toNat⟩
    else none
  | _ => none

structure Coefficients where
  norm : ℤ
  red : ℤ
  green : ℤ
  blue : ℤ

def coefficientsOf (color : Rgb) : Coefficients :=
  ⟨(color.red.toNat : ℤ) * color.red.toNat + (color.green.toNat : ℤ) * color.green.toNat + (color.blue.toNat : ℤ) * color.blue.toNat,
    2 * color.red.toNat, 2 * color.green.toNat, 2 * color.blue.toNat⟩

def costOf (rgb : Rgb) (coefficients : Coefficients) : ℤ :=
  coefficients.norm - rgb.red.toNat * coefficients.red - rgb.green.toNat * coefficients.green - rgb.blue.toNat * coefficients.blue

/-- One turn of the loop over the coefficients. -/
def compareCost (rgb : Rgb) (state : Nat × ℤ) (entry : Coefficients × Nat) : Nat × ℤ :=
  if costOf rgb entry.1 < state.2 then (entry.2, costOf rgb entry.1) else state

def chosenColor (coefficients : List Coefficients) (rgb : Rgb) : Nat :=
  (coefficients.zipIdx.foldl (compareCost rgb) (0, 10 ^ 9)).1

/-- `clip((value * 16 + 8 + error * n) // 16, 0, 255)` -/
def flooredChange (numerator : Nat) (error : ℤ) (value : UInt8) : UInt8 :=
  clampByte (((value.toNat : ℤ) * 16 + 8 + error * numerator) / 16)

def tables : List (Nat × List UInt8) := [7, 3, 5, 1].map fun numerator => (numerator, errorTable (flooredChange numerator))

def sumOf (color : Rgb) : Nat := color.red.toNat + color.green.toNat + color.blue.toNat

/-- `min(range(len(palette)), key=...)`, the first of the darkest colors. -/
def blackOf (palette : List Rgb) : Nat := firstLeast (fun i => sumOf (palette.getD i black)) palette.length

/-- `max(range(len(palette)), key=...)`, the first of the brightest colors. -/
def whiteOf (palette : List Rgb) : Nat := firstLeast (fun i => -(sumOf (palette.getD i black) : ℤ)) palette.length

/-- `protected is not None and protected[position]` -/
def protectedAt (protection : Option (List UInt8)) (position : ℤ) : Except RenderError Bool :=
  match protection with
  | none => .ok false
  | some mask => do
    let byte ← byteAt mask position
    return byte != 0

/-- `sum(source[offset:offset + 3])` -/
def sliceSum (source : List UInt8) (offset : Nat) : Nat := (((source.drop offset).take 3).map UInt8.toNat).sum

/-- One turn of the loop over the neighbors. -/
def giveNeighbor (protection : Option (List UInt8)) (width height x y : Nat) (errors : Channels ℤ) (work : List UInt8)
    (neighbor : ℤ × ℤ × Nat) : Except RenderError (List UInt8) :=
  let (dx, dy, weight) := neighbor
  let nx : ℤ := x + dx
  let ny : ℤ := y + dy
  if !(0 ≤ nx && nx < width && ny < height) then .ok work
  else do
    let guarded ← protectedAt protection (ny * width + nx)
    if guarded then .ok work
    else do
      let table ← orError (tables.lookup weight) .missing
      lookUpPixel table work ((ny * width + nx) * 3) errors

/-- One turn of the loop over the columns. -/
def quantizePixel (source : List UInt8) (palette : List Rgb) (protection : Option (List UInt8)) (width height y : Nat)
    (state : List UInt8 × List UInt8) (x : Nat) : Except RenderError (List UInt8 × List UInt8) := do
  let step : ℤ := if y % 2 = 0 then 1 else -1
  let pixel := y * width + x
  let rgb ← readPixel state.1 ((pixel : Nat) * 3)
  let guarded ← protectedAt protection pixel
  if guarded then do
    let indexes ← setByte state.2 pixel (UInt8.ofNat (if 384 ≤ sliceSum source (pixel * 3) then whiteOf palette else blackOf palette))
    return (state.1, indexes)
  else do
    let chosen := chosenColor (palette.map coefficientsOf) rgb
    let indexes ← setByte state.2 pixel (UInt8.ofNat chosen)
    let color ← orError palette[chosen]? .index
    let work ← [(step, 0, 7), (-step, 1, 3), (0, 1, 5), (step, 1, 1)].foldlM
      (giveNeighbor protection width height x y (channelMiss rgb color)) state.1
    return (work, indexes)

def quantize (prepare : List UInt8 → List Rgb → List UInt8) (source : List UInt8) (width height : ℤ) (palette : List (List ℤ))
    (protection : Option (List UInt8)) : Except RenderError (List UInt8) := do
  let pixels := width * height
  require (0 < width && 0 < height && pixels ≤ maxPixels && source.length = pixels * 3) (.value sizeMessage)
  require (2 ≤ palette.length && palette.length ≤ 7) (.value paletteMessage)
  let palette ← orError (palette.mapM byteColor) (.value paletteMessage)
  require (protection.all fun mask => mask.length = pixels) (.value maskMessage)
  let state ← (List.range height.toNat).foldlM
    (fun state y => (if y % 2 = 0 then List.range width.toNat else (List.range width.toNat).reverse).foldlM
      (quantizePixel source palette protection width.toNat height.toNat y) state)
    (prepare source palette, List.replicate pixels.toNat 0)
  return state.2

/-! ### The chosen color -/

/-- Remembering the least cost remembers the first least. -/
lemma foldl_least {cost : Nat → ℤ} {count : Nat} (h : ∀ i < count, cost i < 10 ^ 9) :
    (List.range count).foldl (fun state i => if cost i < state.2 then (i, cost i) else state) (0, 10 ^ 9) =
      (firstLeast cost count, if count = 0 then 10 ^ 9 else cost (firstLeast cost count)) := by
  induction count with
  | zero => rfl
  | succ count ih =>
    rw [List.range_succ, List.foldl_append, ih fun i hi => h i (Nat.lt_succ_of_lt hi), firstLeast_succ, if_neg (Nat.succ_ne_zero count)]
    simp only [List.foldl_cons, List.foldl_nil]
    by_cases hzero : count = 0
    · subst hzero
      have hfirst : firstLeast cost 0 = 0 := rfl
      rw [if_pos rfl, if_pos (h 0 Nat.one_pos), hfirst, if_neg (lt_irrefl _)]
    · rw [if_neg hzero]
      split
      · rfl
      · rfl

lemma costOf_coefficientsOf (rgb color : Rgb) : costOf rgb (coefficientsOf color) = comparedDistance rgb color := by
  unfold costOf coefficientsOf comparedDistance
  ring

lemma comparedDistance_lt (rgb color : Rgb) : comparedDistance rgb color < 10 ^ 9 := by
  have hred := color.red.toNat_lt
  have hgreen := color.green.toNat_lt
  have hblue := color.blue.toNat_lt
  unfold comparedDistance
  have : (color.red.toNat : ℤ) ^ 2 ≤ 256 ^ 2 := by
    apply pow_le_pow_left₀ (Int.natCast_nonneg _)
    omega
  have : (color.green.toNat : ℤ) ^ 2 ≤ 256 ^ 2 := by
    apply pow_le_pow_left₀ (Int.natCast_nonneg _)
    omega
  have : (color.blue.toNat : ℤ) ^ 2 ≤ 256 ^ 2 := by
    apply pow_le_pow_left₀ (Int.natCast_nonneg _)
    omega
  have : (0 : ℤ) ≤ (rgb.red.toNat : ℤ) * color.red.toNat + (rgb.green.toNat : ℤ) * color.green.toNat +
    (rgb.blue.toNat : ℤ) * color.blue.toNat := by positivity
  omega

/-- The loop over the coefficients takes the first of the nearest colors. -/
theorem chosenColor_eq {palette : List Rgb} (h : 0 < palette.length) (rgb : Rgb) :
    chosenColor (palette.map coefficientsOf) rgb = firstNearest palette rgb := by
  set cost := fun i => comparedDistance rgb (palette.getD i black) with hcost
  have hentries : (palette.map coefficientsOf).zipIdx =
      (List.range palette.length).map fun i => (coefficientsOf (palette.getD i black), i) := by
    apply List.ext_getElem
    · simp
    · intro i hi hi'
      have hlt : i < palette.length := by simpa using hi
      simp [hlt]
  have hchosen : chosenColor (palette.map coefficientsOf) rgb = firstLeast cost palette.length := by
    unfold chosenColor
    rw [hentries, List.foldl_map]
    simp only [compareCost, costOf_coefficientsOf]
    exact congrArg Prod.fst (foldl_least fun i _ => comparedDistance_lt rgb _)
  rw [hchosen]
  exact ((firstLeast_spec h).shift fun i _ => squaredDistance_eq rgb (palette.getD i black)).unique (firstLeast_spec h)

/-! ### The change of a neighbor -/

/-- `clamp(floor(value + error * numerator / 16 + 1/2), 0, 255)` -/
def halfUpChange (numerator : Nat) (error : ℤ) (value : UInt8) : UInt8 :=
  clampByte ⌊(value.toNat : ℚ) + error * numerator / 16 + 1 / 2⌋

/-- Sixteenths that are floored after eight were added are rounded half up. -/
lemma flooredChange_eq : flooredChange = halfUpChange := by
  funext numerator error value
  unfold flooredChange halfUpChange
  have hsum : (value.toNat : ℚ) + error * numerator / 16 + 1 / 2 =
      (((value.toNat : ℤ) * 16 + 8 + error * numerator : ℤ) : ℚ) / (16 : ℕ) := by
    push_cast
    ring
  rw [hsum, Rat.floor_intCast_div_natCast]
  rfl

/-! ### The diffusion -/

/-- Whether a mask covers a pixel. -/
def isProtected (protection : Option (List UInt8)) (width x y : Nat) : Bool :=
  protection.any fun mask => mask.getD (y * width + x) 0 != 0

/-- The serpentine diffusion of the nearest colors of a palette over the pixels that are not protected. -/
def naturalKernel (palette : List Rgb) (protection : Option (List UInt8)) (width height : Nat) : Kernel Rgb :=
  nearestKernel width height (fun y => y % 2 == 1) (fun x y => !isProtected protection width x y) palette halfUpChange

variable {source : List UInt8} {palette : List Rgb} {protection : Option (List UInt8)} {width height x y : Nat}

lemma protectedAt_ok (hmask : ∀ mask ∈ protection, mask.length = width * height) (hx : x < width) (hy : y < height) :
    protectedAt protection (y * width + x : Nat) = .ok (isProtected protection width x y) := by
  cases protection with
  | none => rfl
  | some mask =>
    have hlt : y * width + x < mask.length := by
      rw [hmask mask rfl]
      exact position_lt hx hy
    exact Checked.bind_eq_ok.mpr ⟨_, byteAt_ok (getElem?_eq_getD hlt), rfl⟩

/-- A turn of the loop over the neighbors pushes to the column at its offset, if the row has one. -/
lemma giveNeighbor_eq (hmask : ∀ mask ∈ protection, mask.length = width * height) {dx dy : ℤ} {weight row : Nat} {target : Option Nat}
    (hrow : (y : ℤ) + dy = row) (hweight : weight ∈ [7, 3, 5, 1]) (errors : Channels ℤ) (work : List UInt8)
    (htarget : ∀ column, target = some column ↔ column < width ∧ (x : ℤ) + dx = column) :
    giveNeighbor protection width height x y errors work (dx, dy, weight) =
      pushBytes (naturalKernel palette protection width height) (errorTable (halfUpChange weight)) errors target row work := by
  have htable : tables.lookup weight = some (errorTable (halfUpChange weight)) := by
    rw [← flooredChange_eq]
    fin_cases hweight <;> rfl
  unfold giveNeighbor
  dsimp only
  rw [hrow]
  cases target with
  | none =>
    have houtside : ¬ (0 ≤ (x : ℤ) + dx ∧ (x : ℤ) + dx < width) := by
      rintro ⟨hleft, hright⟩
      obtain ⟨column, hcolumn⟩ := Int.eq_ofNat_of_zero_le hleft
      exact absurd ((htarget column).mpr ⟨by omega, hcolumn⟩) (by simp)
    rw [if_pos]
    · rfl
    · simp only [Bool.not_eq_true', Bool.and_eq_false_iff, decide_eq_false_iff_not]
      left
      omega
  | some column =>
    obtain ⟨hlt, hcolumn⟩ := (htarget column).mp rfl
    unfold pushBytes
    dsimp only
    rw [hcolumn]
    by_cases hbelow : row < height
    · rw [if_neg (by simp [hlt, hbelow])]
      have hposition : (row : ℤ) * width + column = (row * width + column : Nat) := by push_cast; rfl
      rw [hposition, protectedAt_ok hmask hlt hbelow, htable]
      change (if isProtected protection width column row = true then _ else _) = _
      by_cases hguarded : isProtected protection width column row = true
      · rw [if_pos hguarded, if_neg]
        simp [naturalKernel, nearestKernel, hguarded]
      · rw [if_neg hguarded, if_pos]
        · rfl
        · simpa [naturalKernel, nearestKernel, hbelow] using hguarded
    · rw [if_pos (by simp [hbelow]), if_neg]
      simpa [naturalKernel, nearestKernel] using fun h => absurd h hbelow

/-- The loop over the neighbors spreads an error in the direction of its row. -/
lemma giveNeighbors_eq (hmask : ∀ mask ∈ protection, mask.length = width * height) (hx : x < width) (errors : Channels ℤ)
    (work : List UInt8) :
    (let step : ℤ := if y % 2 = 0 then 1 else -1
    [(step, 0, 7), (-step, 1, 3), (0, 1, 5), (step, 1, 1)].foldlM (giveNeighbor protection width height x y errors) work) =
      spreadBytes (naturalKernel palette protection width height) (fun weight => errorTable (halfUpChange weight)) errors y x work := by
  set step : ℤ := if y % 2 = 0 then 1 else -1 with hstep
  set kernel := naturalKernel palette protection width height with hkernel
  have hahead : ∀ column, kernel.ahead y x = some column ↔ column < width ∧ (x : ℤ) + step = column := by
    intro column
    change (if (y % 2 == 1) = true then if 0 < x then some (x - 1) else none else if x + 1 < width then some (x + 1) else none) =
      some column ↔ _
    by_cases heven : y % 2 = 0
    · rw [hstep, if_pos heven, if_neg (by simp [heven])]
      split
      · rw [Option.some_inj]
        omega
      · simp only [reduceCtorEq, false_iff]
        omega
    · rw [hstep, if_neg heven, if_pos (by simp only [beq_iff_eq]; omega)]
      split
      · rw [Option.some_inj]
        omega
      · simp only [reduceCtorEq, false_iff]
        omega
  have hbehind : ∀ column, kernel.behind y x = some column ↔ column < width ∧ (x : ℤ) + -step = column := by
    intro column
    change (if (y % 2 == 1) = true then if x + 1 < width then some (x + 1) else none else if 0 < x then some (x - 1) else none) =
      some column ↔ _
    by_cases heven : y % 2 = 0
    · rw [hstep, if_pos heven, if_neg (by simp [heven])]
      split
      · rw [Option.some_inj]
        omega
      · simp only [reduceCtorEq, false_iff]
        omega
    · rw [hstep, if_neg heven, if_pos (by simp only [beq_iff_eq]; omega)]
      split
      · rw [Option.some_inj]
        omega
      · simp only [reduceCtorEq, false_iff]
        omega
  have hhere : ∀ column, some x = some column ↔ column < width ∧ (x : ℤ) + 0 = column := by
    intro column
    rw [Option.some_inj]
    omega
  have hbelow : (y : ℤ) + 1 = (y + 1 : Nat) := (Nat.cast_succ y).symm
  have hseven : ∀ work, giveNeighbor protection width height x y errors work (step, 0, 7) =
      pushBytes kernel (errorTable (halfUpChange 7)) errors (kernel.ahead y x) y work :=
    fun work => giveNeighbor_eq hmask (add_zero _) (by simp) errors work hahead
  have hthree : ∀ work, giveNeighbor protection width height x y errors work (-step, 1, 3) =
      pushBytes kernel (errorTable (halfUpChange 3)) errors (kernel.behind y x) (y + 1) work :=
    fun work => giveNeighbor_eq hmask hbelow (by simp) errors work hbehind
  have hfive : ∀ work, giveNeighbor protection width height x y errors work (0, 1, 5) =
      pushBytes kernel (errorTable (halfUpChange 5)) errors (some x) (y + 1) work :=
    fun work => giveNeighbor_eq hmask hbelow (by simp) errors work hhere
  have hone : ∀ work, giveNeighbor protection width height x y errors work (step, 1, 1) =
      pushBytes kernel (errorTable (halfUpChange 1)) errors (kernel.ahead y x) (y + 1) work :=
    fun work => giveNeighbor_eq hmask hbelow (by simp) errors work hahead
  simp only [List.foldlM_cons, List.foldlM_nil, hseven, hthree, hfive, hone, bind_pure]
  rfl

lemma sliceSum_eq {bytes : List UInt8} (h : bytes.length = width * height * 3) (hx : x < width) (hy : y < height) :
    sliceSum bytes ((y * width + x) * 3) = sumOf (grid width bytes x y) := by
  have hlt := position_lt hx hy
  have hgetD : ∀ i (hi : i < bytes.length), bytes.getD i 0 = bytes[i] := fun i hi =>
    Option.some.inj ((getElem?_eq_getD hi).symm.trans (List.getElem?_eq_getElem hi))
  have hsum : ∀ (a b c : UInt8) (rest : List UInt8),
      (((a :: b :: c :: rest).take 3).map UInt8.toNat).sum = a.toNat + b.toNat + c.toNat := by
    intro a b c rest
    simp [Nat.add_assoc]
  unfold sliceSum sumOf grid
  rw [hgetD _ (by omega), hgetD _ (by omega), hgetD _ (by omega), List.drop_eq_getElem_cons (by omega),
    List.drop_eq_getElem_cons (by omega), List.drop_eq_getElem_cons (by omega), hsum]

/-- The index of a pixel: the nearest color, or the darkest or brightest one under the mask. -/
def naturalChoice (source : List UInt8) (palette : List Rgb) (protection : Option (List UInt8)) (width x y : Nat) (rgb : Rgb) : UInt8 :=
  UInt8.ofNat (if isProtected protection width x y then
    if 384 ≤ sumOf (grid width source x y) then whiteOf palette else blackOf palette
  else firstNearest palette rgb)

/-- A turn of the loops does what a visit does. -/
lemma quantizePixel_visit (hsource : source.length = width * height * 3) (hpalette : 0 < palette.length)
    (hmask : ∀ mask ∈ protection, mask.length = width * height) (hx : x < width) (hy : y < height) {state : List UInt8 × List UInt8}
    {sweep : Sweep Rgb}
    (h : Follows (naturalKernel palette protection width height) (naturalChoice source palette protection width) state sweep) :
    ∃ state', quantizePixel source palette protection width height y state x = .ok state' ∧
      Follows (naturalKernel palette protection width height) (naturalChoice source palette protection width) state'
        ((naturalKernel palette protection width height).visit y sweep x) := by
  set kernel := naturalKernel palette protection width height with hkernel
  set color := sweep.cells x y with hcolor
  have hroom : y * width + x < state.2.length := by
    rw [h.length]
    exact position_lt hx hy
  by_cases hguarded : isProtected protection width x y = true
  · have hwork : Holds kernel.width kernel.height state.1 (kernel.spread y x sweep.cells) := by
      unfold Kernel.spread
      rw [if_neg (by simp [hkernel, naturalKernel, nearestKernel, hguarded])]
      exact h.work
    refine ⟨(state.1, state.2.set (y * width + x) (naturalChoice source palette protection width x y color)), ?_,
      h.visit hwork hx hy⟩
    refine Checked.bind_eq_ok.mpr ⟨color, h.work.read hx hy, ?_⟩
    refine Checked.bind_eq_ok.mpr ⟨true, (protectedAt_ok hmask hx hy).trans (congrArg _ hguarded), ?_⟩
    rw [if_pos rfl, sliceSum_eq hsource hx hy]
    refine Checked.bind_eq_ok.mpr ⟨_, setByte_ok hroom, ?_⟩
    unfold naturalChoice
    rw [if_pos hguarded]
    rfl
  · set chosen := firstNearest palette color with hchosen
    have hcolor : palette[chosen]? = some (palette.getD chosen black) := getElem?_eq_getD (firstLeast_spec hpalette).1
    have hopen : kernel.opened x y = true := by simp [hkernel, naturalKernel, nearestKernel, hguarded]
    obtain ⟨work, hwork, hholds⟩ := spreadBytes_holds h.work halfUpChange (fun _ _ => rfl)
      (channelMiss_inTable color (palette.getD chosen black)) hopen hx
    refine ⟨(work, state.2.set (y * width + x) (naturalChoice source palette protection width x y color)), ?_, h.visit hholds hx hy⟩
    refine Checked.bind_eq_ok.mpr ⟨color, h.work.read hx hy, ?_⟩
    refine Checked.bind_eq_ok.mpr ⟨false, (protectedAt_ok hmask hx hy).trans (congrArg _ (Bool.eq_false_iff.mpr hguarded)), ?_⟩
    rw [if_neg Bool.false_ne_true]
    dsimp only
    rw [chosenColor_eq hpalette, ← hchosen]
    refine Checked.bind_eq_ok.mpr ⟨_, setByte_ok hroom, ?_⟩
    refine Checked.bind_eq_ok.mpr ⟨_, Checked.orError_eq_ok.mpr hcolor, ?_⟩
    refine Checked.bind_eq_ok.mpr ⟨work, (giveNeighbors_eq hmask hx _ _).trans hwork, ?_⟩
    unfold naturalChoice
    rw [if_neg hguarded]
    rfl

/-! ### The quantizer -/

/-- The numbers of a color. -/
def numbersOf (color : Rgb) : List ℤ := [(color.red.toNat : ℤ), color.green.toNat, color.blue.toNat]

lemma byteColor_numbersOf (color : Rgb) : byteColor (numbersOf color) = some color := by
  have hred := color.red.toNat_lt
  have hgreen := color.green.toNat_lt
  have hblue := color.blue.toNat_lt
  unfold byteColor numbersOf
  dsimp only
  rw [if_pos]
  · simp
  · simp only [List.all_cons, List.all_nil, Bool.and_true, Bool.and_eq_true, decide_eq_true_eq]
    omega

lemma mapM_byteColor (colors : List Rgb) : (colors.map numbersOf).mapM byteColor = some colors := by
  induction colors with
  | nil => rfl
  | cons color colors ih => simp [byteColor_numbersOf, ih]

/-- The loops end without an access out of range. The pixels hold the values of the recursion, in which pixels under the mask neither
give nor take, and each other pixel gets the first of the colors nearest to its value. -/
theorem natural_d_diffused (prepare : List UInt8 → List Rgb → List UInt8) (source : List UInt8) (width height : Nat) (palette : List Rgb)
    (protection : Option (List UInt8)) (hwidth : 1 ≤ width) (hheight : 1 ≤ height) (hpixels : width * height ≤ maxPixels)
    (hsource : source.length = width * height * 3) (hpalette : 2 ≤ palette.length ∧ palette.length ≤ 7)
    (hmask : ∀ mask ∈ protection, mask.length = width * height) (hprepare : (prepare source palette).length = source.length) :
    ∃ values indexes, quantize prepare source width height (palette.map numbersOf) protection = .ok indexes ∧
      (naturalKernel palette protection width height).IsDiffused (grid width (prepare source palette)) values ∧
      indexes.length = width * height ∧ ∀ x < width, ∀ y < height,
        if isProtected protection width x y then
          values x y = grid width (prepare source palette) x y ∧ indexes[y * width + x]? =
            some (UInt8.ofNat (if 384 ≤ sumOf (grid width source x y) then whiteOf palette else blackOf palette))
        else ∃ i, IsFirstLeast (fun i => squaredDistance (values x y) (palette.getD i black)) palette.length i ∧
          indexes[y * width + x]? = some (UInt8.ofNat i) := by
  set kernel := naturalKernel palette protection width height with hkernel
  have hvalues := Kernel.isDiffused_diffused kernel (grid width (prepare source palette))
  have hstart : Follows kernel (naturalChoice source palette protection width)
      (prepare source palette, List.replicate (width * height) 0) ⟨grid width (prepare source palette), fun _ _ => none⟩ :=
    follows_start (holds_grid (hprepare.trans hsource))
  obtain ⟨state, hstate, hlength, hindexes⟩ := follows_run hvalues hstart
    (fun y hy x hx state sweep h => quantizePixel_visit hsource (by omega) hmask hx hy h)
  refine ⟨_, state.2, ?_, hvalues, hlength, fun x hx y hy => ?_⟩
  · have hcolumns : ∀ y, kernel.columns y = if y % 2 = 0 then List.range width else (List.range width).reverse := by
      intro y
      change (if (y % 2 == 1) = true then _ else _) = _
      by_cases heven : y % 2 = 0
      · rw [if_pos heven, if_neg (by simp [heven])]
        rfl
      · rw [if_neg heven, if_pos (by simp only [beq_iff_eq]; omega)]
        rfl
    simp only [hcolumns] at hstate
    refine Checked.bind_eq_ok.mpr ⟨(), Checked.require_eq_ok.mpr ?_, ?_⟩
    · simp only [Bool.and_eq_true, decide_eq_true_eq]
      refine ⟨⟨⟨by omega, by omega⟩, by exact_mod_cast hpixels⟩, by exact_mod_cast hsource⟩
    refine Checked.bind_eq_ok.mpr ⟨(), Checked.require_eq_ok.mpr ?_, ?_⟩
    · rw [List.length_map]
      simp only [Bool.and_eq_true, decide_eq_true_eq]
      exact hpalette
    refine Checked.bind_eq_ok.mpr ⟨palette, Checked.orError_eq_ok.mpr (mapM_byteColor palette), ?_⟩
    refine Checked.bind_eq_ok.mpr ⟨(), Checked.require_eq_ok.mpr ?_, ?_⟩
    · cases protection with
      | none => rfl
      | some mask =>
        rw [Option.all_some, decide_eq_true_eq]
        exact_mod_cast hmask mask rfl
    exact Checked.bind_eq_ok.mpr ⟨state, hstate, rfl⟩
  · have hindex := hindexes x hx y hy
    unfold naturalChoice at hindex
    by_cases hguarded : isProtected protection width x y = true
    · rw [if_pos hguarded] at hindex ⊢
      exact ⟨hvalues.closed hx hy (by simp [hkernel, naturalKernel, nearestKernel, hguarded]), hindex⟩
    · rw [if_neg hguarded] at hindex ⊢
      exact ⟨_, firstLeast_spec (by omega), hindex⟩

/-- A gray square with one pixel under the mask. -/
theorem natural_d_diffused_square :
    ∃ values indexes, quantize (fun source _ => source) (List.replicate 12 130) (2 : Nat) (2 : Nat)
        ([⟨0, 0, 0⟩, ⟨255, 255, 255⟩].map numbersOf) (some [0, 255, 0, 0]) = .ok indexes ∧
      (naturalKernel [⟨0, 0, 0⟩, ⟨255, 255, 255⟩] (some [0, 255, 0, 0]) 2 2).IsDiffused (grid 2 (List.replicate 12 130)) values ∧
      indexes.length = 2 * 2 := by
  obtain ⟨values, indexes, hrun, hvalues, hlength, -⟩ := natural_d_diffused (fun source _ => source) (List.replicate 12 130) 2 2
    [⟨0, 0, 0⟩, ⟨255, 255, 255⟩] (some [0, 255, 0, 0]) (by decide) (by decide) (by decide) (by decide) (by decide) (by simp) (by decide)
  exact ⟨values, indexes, hrun, hvalues, hlength⟩

end InkTime.Rendering.NaturalD
