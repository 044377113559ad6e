import InkTime.Library.ErrorDiffusion
import InkTime.Library.Lockstep
import InkTime.Rendering.Palette

/-!
# Pixels in bytes

An image as one row of bytes, three for a pixel. An access outside of the bytes is an error, and so is one at a negative
position.
-/

namespace InkTime.Rendering

open Checked (require orError)
open ErrorDiffusion (setCell)

/-- An image in RGB. -/
structure Image where
  width : Nat
  height : Nat
  pixel : Nat → Nat → Rgb

/-- `image.tobytes()` -/
def Image.tobytes (image : Image) : List UInt8 :=
  (List.range (image.width * image.height)).flatMap fun position =>
    (image.pixel (position % image.width) (position / image.width)).toList

def byteAt (bytes : List UInt8) (position : ℤ) : Except RenderError UInt8 := do
  require (0 ≤ position) .index
  orError bytes[position.toNat]? .index

def setByte (bytes : List UInt8) (position : ℤ) (byte : UInt8) : Except RenderError (List UInt8) := do
  require (0 ≤ position && position < bytes.length) .index
  return bytes.set position.toNat byte

/-- `bytes[offset:offset + 3]`, taken apart. -/
def readPixel (bytes : List UInt8) (offset : ℤ) : Except RenderError Rgb := do
  let red ← byteAt bytes offset
  let green ← byteAt bytes (offset + 1)
  let blue ← byteAt bytes (offset + 2)
  return ⟨red, green, blue⟩

/-- `work[position] = table[(error + 255) * 256 + work[position]]` -/
def lookUpChannel (table work : List UInt8) (position error : ℤ) : Except RenderError (List UInt8) := do
  let held ← byteAt work position
  let changed ← byteAt table ((error + 255) * 256 + held.toNat)
  setByte work position changed

def lookUpPixel (table work : List UInt8) (neighbor : ℤ) (errors : Channels ℤ) : Except RenderError (List UInt8) := do
  let work ← lookUpChannel table work neighbor errors.red
  let work ← lookUpChannel table work (neighbor + 1) errors.green
  lookUpChannel table work (neighbor + 2) errors.blue

def clampByte (value : ℤ) : UInt8 := UInt8.ofNat (max 0 (min 255 value)).toNat

/-- A table with a row of 256 for each error from -255 to 255. -/
def errorTable (change : ℤ → UInt8 → UInt8) : List UInt8 :=
  (List.range (511 * 256)).map fun entry => change ((entry / 256 : Nat) - 255) (UInt8.ofNat (entry % 256))

/-! ### Positions -/

lemma position_inj {width x y x' y' : Nat} (hx : x < width) (hx' : x' < width) (h : y * width + x = y' * width + x') : x = x' ∧ y = y' := by
  have hmod := congrArg (· % width) h
  have hdiv := congrArg (· / width) h
  simp only [Nat.mul_comm _ width, Nat.mul_add_mod, Nat.mod_eq_of_lt hx, Nat.mod_eq_of_lt hx', Nat.mul_add_div (by omega : 0 < width),
    Nat.div_eq_of_lt hx, Nat.div_eq_of_lt hx', Nat.add_zero] at hmod hdiv
  exact ⟨hmod, hdiv⟩

lemma position_lt {width height x y : Nat} (hx : x < width) (hy : y < height) : y * width + x < width * height := by
  have : (y + 1) * width ≤ height * width := Nat.mul_le_mul_right _ hy
  rw [Nat.mul_comm width]
  linarith

lemma getElem?_eq_getD {α : Type} {items : List α} {i : Nat} {default : α} (h : i < items.length) :
    items[i]? = some (items.getD i default) := by
  rw [List.getElem?_eq_getElem h, List.getD_eq_getElem?_getD, List.getElem?_eq_getElem h, Option.getD_some]

lemma byteAt_ok {bytes : List UInt8} {position : Nat} {byte : UInt8} (h : bytes[position]? = some byte) :
    byteAt bytes position = .ok byte :=
  Checked.bind_eq_ok.mpr ⟨(), Checked.require_eq_ok.mpr (decide_eq_true (Int.natCast_nonneg position)), Checked.orError_eq_ok.mpr h⟩

lemma setByte_ok {bytes : List UInt8} {position : Nat} {byte : UInt8} (h : position < bytes.length) :
    setByte bytes position byte = .ok (bytes.set position byte) := by
  refine Checked.bind_eq_ok.mpr ⟨(), Checked.require_eq_ok.mpr ?_, rfl⟩
  simp only [Bool.and_eq_true, decide_eq_true_eq]
  omega

lemma errorTable_ok (change : ℤ → UInt8 → UInt8) {error : ℤ} (hlow : -255 ≤ error) (hhigh : error ≤ 255) (held : UInt8) :
    byteAt (errorTable change) ((error + 255) * 256 + held.toNat) = .ok (change error held) := by
  obtain ⟨row, hrow⟩ := Int.eq_ofNat_of_zero_le (show 0 ≤ error + 255 by omega)
  have hheld := held.toNat_lt
  have hentry : (error + 255) * 256 + held.toNat = ((row * 256 + held.toNat : Nat) : ℤ) := by
    rw [hrow]
    push_cast
    rfl
  rw [hentry]
  apply byteAt_ok
  unfold errorTable
  rw [List.getElem?_map, List.getElem?_range (by omega), Option.map_some]
  have hdiv : (row * 256 + held.toNat) / 256 = row := by omega
  have hmod : (row * 256 + held.toNat) % 256 = held.toNat := by omega
  rw [hdiv, hmod, UInt8.ofNat_toNat]
  congr 2
  omega

/-! ### Pixels -/

/-- The bytes of a grid of colors. -/
structure Holds (width height : Nat) (work : List UInt8) (cells : Nat → Nat → Rgb) : Prop where
  length : work.length = width * height * 3
  red : ∀ x < width, ∀ y < height, work[(y * width + x) * 3]? = some (cells x y).red
  green : ∀ x < width, ∀ y < height, work[(y * width + x) * 3 + 1]? = some (cells x y).green
  blue : ∀ x < width, ∀ y < height, work[(y * width + x) * 3 + 2]? = some (cells x y).blue

variable {width height x y : Nat} {work : List UInt8} {cells : Nat → Nat → Rgb}

lemma Holds.read (h : Holds width height work cells) (hx : x < width) (hy : y < height) :
    readPixel work ((y * width + x : Nat) * 3 : ℤ) = .ok (cells x y) := by
  refine Checked.bind_eq_ok.mpr ⟨_, byteAt_ok (h.red x hx y hy), ?_⟩
  refine Checked.bind_eq_ok.mpr ⟨_, byteAt_ok (h.green x hx y hy), ?_⟩
  exact Checked.bind_eq_ok.mpr ⟨_, byteAt_ok (h.blue x hx y hy), rfl⟩

lemma lookUpChannel_ok {change : ℤ → UInt8 → UInt8} {position : Nat} {error : ℤ} {held : UInt8} (hlow : -255 ≤ error)
    (hhigh : error ≤ 255) (h : work[position]? = some held) :
    lookUpChannel (errorTable change) work position error = .ok (work.set position (change error held)) := by
  have hlt : position < work.length := (List.getElem?_eq_some_iff.mp h).1
  exact Checked.bind_eq_ok.mpr ⟨held, byteAt_ok h, Checked.bind_eq_ok.mpr ⟨_, errorTable_ok change hlow hhigh held, setByte_ok hlt⟩⟩

/-- What a channel misses is within the range of the tables. -/
def InTable (errors : Channels ℤ) : Prop :=
  (-255 ≤ errors.red ∧ errors.red ≤ 255) ∧ (-255 ≤ errors.green ∧ errors.green ≤ 255) ∧ (-255 ≤ errors.blue ∧ errors.blue ≤ 255)

/-- Looking up a pixel changes its color and no other. -/
theorem Holds.lookUp (h : Holds width height work cells) (change : ℤ → UInt8 → UInt8) {errors : Channels ℤ} (herrors : InTable errors)
    (hx : x < width) (hy : y < height) : ∃ work', lookUpPixel (errorTable change) work ((y * width + x : Nat) * 3 : ℤ) errors = .ok work' ∧
      Holds width height work' (setCell cells x y (errors.zip change (cells x y))) := by
  obtain ⟨⟨hred, hred'⟩, ⟨hgreen, hgreen'⟩, hblue, hblue'⟩ := herrors
  set position := (y * width + x) * 3 with hposition
  set color := cells x y with hcolor
  set one := work.set position (change errors.red color.red) with hone
  set two := one.set (position + 1) (change errors.green color.green) with htwo
  have hfirst : lookUpChannel (errorTable change) work position errors.red = .ok one := lookUpChannel_ok hred hred' (h.red x hx y hy)
  have hsecond : lookUpChannel (errorTable change) one (position + 1 : Nat) errors.green = .ok two := by
    apply lookUpChannel_ok hgreen hgreen'
    rw [hone, List.getElem?_set_ne (by omega)]
    exact h.green x hx y hy
  have hthird : lookUpChannel (errorTable change) two (position + 2 : Nat) errors.blue =
      .ok (two.set (position + 2) (change errors.blue color.blue)) := by
    apply lookUpChannel_ok hblue hblue'
    rw [htwo, List.getElem?_set_ne (by omega), hone, List.getElem?_set_ne (by omega)]
    exact h.blue x hx y hy
  refine ⟨two.set (position + 2) (change errors.blue color.blue),
    Checked.bind_eq_ok.mpr ⟨one, hfirst, Checked.bind_eq_ok.mpr ⟨two, hsecond, hthird⟩⟩, ?_⟩
  have hroom : position + 2 < work.length := by
    have := position_lt hx hy
    rw [h.length]
    omega
  have hsame : ∀ x' < width, ∀ y' < height, (y' * width + x') * 3 = position ↔ x' = x ∧ y' = y := by
    intro x' hx' y' hy'
    constructor
    · intro heq
      exact position_inj hx' hx (by omega)
    · rintro ⟨rfl, rfl⟩
      rfl
  constructor
  · rw [htwo, hone, List.length_set, List.length_set, List.length_set]
    exact h.length
  · intro x' hx' y' hy'
    rw [htwo, hone, List.getElem?_set_ne (by omega), List.getElem?_set_ne (by omega)]
    unfold setCell
    by_cases hhere : x' = x ∧ y' = y
    · rw [if_pos hhere, (hsame x' hx' y' hy').mpr hhere, List.getElem?_set_self (by omega)]
      rfl
    · rw [if_neg hhere, List.getElem?_set_ne (fun heq => hhere ((hsame x' hx' y' hy').mp heq.symm))]
      exact h.red x' hx' y' hy'
  · intro x' hx' y' hy'
    rw [htwo, hone, List.getElem?_set_ne (by omega)]
    unfold setCell
    by_cases hhere : x' = x ∧ y' = y
    · rw [if_pos hhere, (hsame x' hx' y' hy').mpr hhere, List.getElem?_set_self (by rw [List.length_set]; omega)]
      rfl
    · have hapart := mt (hsame x' hx' y' hy').mp hhere
      rw [if_neg hhere, List.getElem?_set_ne (by omega), List.getElem?_set_ne (by omega)]
      exact h.green x' hx' y' hy'
  · intro x' hx' y' hy'
    rw [htwo, hone]
    unfold setCell
    by_cases hhere : x' = x ∧ y' = y
    · rw [if_pos hhere, (hsame x' hx' y' hy').mpr hhere,
        List.getElem?_set_self (by rw [List.length_set, List.length_set]; omega)]
      rfl
    · have hapart := mt (hsame x' hx' y' hy').mp hhere
      rw [if_neg hhere, List.getElem?_set_ne (by omega), List.getElem?_set_ne (by omega), List.getElem?_set_ne (by omega)]
      exact h.blue x' hx' y' hy'

/-! ### Images -/

lemma getElem?_flatMap_three {α β : Type} (f : α → Channels β) (items : List α) (position : Nat) :
    (items.flatMap fun item => (f item).toList)[position * 3]? = items[position]?.map (fun item => (f item).red) ∧
    (items.flatMap fun item => (f item).toList)[position * 3 + 1]? = items[position]?.map (fun item => (f item).green) ∧
    (items.flatMap fun item => (f item).toList)[position * 3 + 2]? = items[position]?.map (fun item => (f item).blue) := by
  induction items generalizing position with
  | nil => simp
  | cons item rest ih =>
    cases position with
    | zero => exact ⟨rfl, rfl, rfl⟩
    | succ position => simpa [Channels.toList, Nat.succ_mul] using ih position

/-- The bytes of an image hold its colors. -/
theorem holds_tobytes (image : Image) : Holds image.width image.height image.tobytes image.pixel := by
  have hentry : ∀ x < image.width, ∀ y < image.height, ∀ f : Rgb → UInt8,
      (List.range (image.width * image.height))[y * image.width + x]?.map (fun position =>
        f (image.pixel (position % image.width) (position / image.width))) = some (f (image.pixel x y)) := by
    intro x hx y hy f
    rw [List.getElem?_range (position_lt hx hy), Option.map_some, Nat.mul_comm y, Nat.mul_add_mod, Nat.mod_eq_of_lt hx,
      Nat.mul_add_div (by omega), Nat.div_eq_of_lt hx, Nat.add_zero]
  unfold Image.tobytes
  constructor
  · simp [Channels.toList, List.length_flatMap]
  · intro x hx y hy
    rw [(getElem?_flatMap_three _ _ _).1]
    exact hentry x hx y hy Channels.red
  · intro x hx y hy
    rw [(getElem?_flatMap_three _ _ _).2.1]
    exact hentry x hx y hy Channels.green
  · intro x hx y hy
    rw [(getElem?_flatMap_three _ _ _).2.2]
    exact hentry x hx y hy Channels.blue

/-! ### Buffers -/

/-- The colors in a buffer of bytes. -/
def grid (width : Nat) (bytes : List UInt8) (x y : Nat) : Rgb :=
  ⟨bytes.getD ((y * width + x) * 3) 0, bytes.getD ((y * width + x) * 3 + 1) 0, bytes.getD ((y * width + x) * 3 + 2) 0⟩

lemma holds_grid {bytes : List UInt8} (h : bytes.length = width * height * 3) : Holds width height bytes (grid width bytes) := by
  have hroom : ∀ x < width, ∀ y < height, (y * width + x) * 3 + 2 < bytes.length := by
    intro x hx y hy
    have := position_lt hx hy
    omega
  constructor
  · exact h
  · intro x hx y hy
    have := hroom x hx y hy
    exact getElem?_eq_getD (by omega)
  · intro x hx y hy
    have := hroom x hx y hy
    exact getElem?_eq_getD (by omega)
  · intro x hx y hy
    exact getElem?_eq_getD (hroom x hx y hy)

end InkTime.Rendering
