import InkTime.Library.Lockstep
import InkTime.Library.Rounding
import InkTime.Rendering.Diffusion

/-!
# What a protection mask hides

Two runs of the diffusion on images that differ under the mask only keep equal buffers, so that the colors beside the mask
are the same; under it every pixel is black or white.
-/

namespace InkTime.Rendering

open Lockstep (Alike)

variable {arith : Arithmetic}

/-! ### Names of colors -/

lemma overridden_name {profile : DisplayProfile arith} {rgbValues : List (String × List ℤ)}
    {labValues : List (String × List arith.Value)} {color color' : PaletteColor arith}
    (h : overridden arith profile rgbValues labValues color = .ok color') : color'.name = color.name := by
  unfold overridden at h
  split at h
  · unfold rgbOverride at h
    dsimp only at h
    split at h
    · obtain ⟨_, -, h⟩ := Checked.bind_eq_ok.mp h
      obtain rfl := Except.ok.inj h
      rfl
    · cases h
  · unfold labOverride at h
    dsimp only at h
    split at h
    · obtain ⟨_, -, h⟩ := Checked.bind_eq_ok.mp h
      obtain ⟨_, -, h⟩ := Checked.bind_eq_ok.mp h
      obtain ⟨_, -, h⟩ := Checked.bind_eq_ok.mp h
      obtain rfl := Except.ok.inj h
      rfl
    · cases h
  · obtain ⟨_, -, h⟩ := Checked.bind_eq_ok.mp h
    obtain rfl := Except.ok.inj h
    rfl

lemma mapM_names {f : PaletteColor arith → Except RenderError (PaletteColor arith)} {colors colors' : List (PaletteColor arith)}
    (h : colors.mapM f = .ok colors') (hname : ∀ color color', f color = .ok color' → color'.name = color.name) :
    colors'.map PaletteColor.name = colors.map PaletteColor.name := by
  induction colors generalizing colors' with
  | nil =>
    obtain rfl := Except.ok.inj h
    rfl
  | cons color rest ih =>
    rw [List.mapM_cons] at h
    obtain ⟨first, hfirst, h⟩ := Checked.bind_eq_ok.mp h
    obtain ⟨others, hothers, h⟩ := Checked.bind_eq_ok.mp h
    obtain rfl := Except.ok.inj h
    rw [List.map_cons, List.map_cons, hname _ _ hfirst, ih hothers]

lemma monochrome_eq (colors : List (PaletteColor arith)) : monochrome colors =
    ((colors.map PaletteColor.name).zipIdx.filter fun entry => entry.1 == "black" || entry.1 == "white").map Prod.snd := by
  unfold monochrome
  rw [List.zipIdx_map, List.filter_map, List.map_map]
  rfl

lemma mem_monochrome {colors : List (PaletteColor arith)} {index : Nat} (h : index ∈ monochrome colors) :
    ∃ color, colors[index]? = some color ∧ (color.name = "black" ∨ color.name = "white") := by
  obtain ⟨⟨color, index'⟩, hentry, rfl⟩ := List.mem_map.mp h
  obtain ⟨hmem, hname⟩ := List.mem_filter.mp hentry
  refine ⟨color, List.mem_zipIdx_iff_getElem?.mp hmem, ?_⟩
  simpa using hname

/-- Every palette has its black first and its white second. -/
theorem paletteForProfile_monochrome {profileKey : String} {rgbValues : List (String × List ℤ)}
    {labValues : List (String × List arith.Value)} {profile : DisplayProfile arith}
    (h : paletteForProfile arith profileKey rgbValues labValues = .ok profile) : monochrome profile.colors = [0, 1] := by
  obtain ⟨base, hbase, h⟩ := Checked.bind_eq_ok.mp h
  have hbase : monochrome base.colors = [0, 1] := by
    have hmem := List.mem_of_find?_eq_some (Checked.orError_eq_ok.mp hbase)
    rw [monochrome_eq]
    obtain rfl | hmem := List.mem_cons.mp hmem
    · rfl
    obtain rfl | hmem := List.mem_cons.mp hmem
    · rfl
    · rw [List.mem_singleton.mp hmem]
      rfl
  obtain ⟨_, -, h⟩ := Checked.bind_eq_ok.mp h
  split at h
  · obtain rfl := Except.ok.inj h
    exact hbase
  · obtain ⟨colors, hcolors, h⟩ := Checked.bind_eq_ok.mp h
    obtain rfl := Except.ok.inj h
    rw [monochrome_eq] at hbase ⊢
    rwa [mapM_names hcolors fun _ _ => overridden_name]

/-! ### One pixel -/

namespace Diffusion

variable {call : Diffusion arith} {width height : Nat} {direction : ℤ} {x y : Nat} {buffers : Buffers arith}

/-- A pixel under the mask. -/
def Covered (call : Diffusion arith) (width height x y : Nat) : Prop := call.isProtected width height x y = .ok true

lemma chooseIndex_covered {matched : Channels arith.Value} {index : Nat} {first second : Nat}
    (hmonochrome : monochrome call.profile.colors = [first, second]) (h : call.chooseIndex true matched = .ok index) :
    index ∈ monochrome call.profile.colors := by
  unfold chooseIndex at h
  rw [hmonochrome] at h ⊢
  obtain rfl := Except.ok.inj h
  unfold leastMiss
  rw [List.foldl_cons, List.foldl_nil]
  split
  · exact List.mem_cons_of_mem _ List.mem_cons_self
  · exact List.mem_cons_self

/-- A covered pixel leaves the buffers as they are, and takes black or white. -/
lemma settlePixel_covered {original : Rgb} {buffers' : Buffers arith} {index : Nat} {chosen : Rgb}
    (hcovered : Covered call width height x y)
    (h : call.settlePixel width height direction x y buffers original = .ok (buffers', index, chosen)) :
    buffers' = buffers ∧
      ∀ first second, monochrome call.profile.colors = [first, second] → index ∈ monochrome call.profile.colors := by
  obtain ⟨red, -, h⟩ := Checked.bind_eq_ok.mp h
  obtain ⟨green, -, h⟩ := Checked.bind_eq_ok.mp h
  obtain ⟨blue, -, h⟩ := Checked.bind_eq_ok.mp h
  obtain ⟨kept, hkept, h⟩ := Checked.bind_eq_ok.mp h
  obtain ⟨paletteIndex, hindex, h⟩ := Checked.bind_eq_ok.mp h
  obtain ⟨color, -, h⟩ := Checked.bind_eq_ok.mp h
  obtain ⟨given, hgiven, h⟩ := Checked.bind_eq_ok.mp h
  obtain rfl : kept = true := Except.ok.inj (hkept.symm.trans hcovered)
  cases Except.ok.inj h
  exact ⟨rfl, fun first second hmonochrome => chooseIndex_covered hmonochrome hindex⟩

lemma chooseIndex_total {first second : Nat} (hmonochrome : monochrome call.profile.colors = [first, second])
    (matched : Channels arith.Value) :
    ∃ index color, call.chooseIndex true matched = .ok index ∧ call.profile.colors[index]? = some color := by
  obtain ⟨index, hindex⟩ : ∃ index, call.chooseIndex true matched = .ok index := by
    unfold chooseIndex
    rw [hmonochrome]
    exact ⟨_, rfl⟩
  obtain ⟨color, hcolor, -⟩ := mem_monochrome (chooseIndex_covered hmonochrome hindex)
  exact ⟨index, color, hindex, hcolor⟩

/-- With a black and a white, a covered pixel ends with an error on no account of its own color. -/
lemma settlePixel_covered_isOk {first second : Nat} (hcovered : Covered call width height x y)
    (hmonochrome : monochrome call.profile.colors = [first, second]) {original : Rgb} (original' : Rgb)
    (h : (call.settlePixel width height direction x y buffers original).isOk = true) :
    (call.settlePixel width height direction x y buffers original').isOk = true := by
  rw [Checked.isOk_iff] at h ⊢
  obtain ⟨result, h⟩ := h
  obtain ⟨red, hred, h⟩ := Checked.bind_eq_ok.mp h
  obtain ⟨green, hgreen, h⟩ := Checked.bind_eq_ok.mp h
  obtain ⟨blue, hblue, h⟩ := Checked.bind_eq_ok.mp h
  unfold settlePixel
  rw [hred, hgreen, hblue]
  obtain ⟨index, color, hindex, hcolor⟩ := chooseIndex_total hmonochrome (if call.linearLight then
    ((call.spaceOf original').zip arith.add ⟨red, green, blue⟩).map arith.srgbChannel
    else (call.spaceOf original').zip arith.add ⟨red, green, blue⟩)
  exact ⟨_, Checked.bind_eq_ok.mpr ⟨red, rfl, Checked.bind_eq_ok.mpr ⟨green, rfl, Checked.bind_eq_ok.mpr ⟨blue, rfl,
    Checked.bind_eq_ok.mpr ⟨true, hcovered, Checked.bind_eq_ok.mpr ⟨index, hindex,
      Checked.bind_eq_ok.mpr ⟨color, Checked.orError_eq_ok.mpr hcolor, rfl⟩⟩⟩⟩⟩⟩⟩

/-- Two images of one size that agree on what the mask does not cover. -/
structure AgreeBeside (call : Diffusion arith) (image image' : Image) : Prop where
  width : image'.width = image.width
  height : image'.height = image.height
  pixel : ∀ x < image.width, ∀ y < image.height, ¬ Covered call image.width image.height x y → image.pixel x y = image'.pixel x y

/-- Whether errors may differ: not where the palette has a black and a white. -/
def Lenient (call : Diffusion arith) : Prop := ∀ first second, monochrome call.profile.colors ≠ [first, second]

lemma settlePixel_alike {original original' : Rgb} (h : ¬ Covered call width height x y → original = original') :
    Alike (Lenient call) (fun result result' => result.1 = result'.1 ∧ (¬ Covered call width height x y → result = result'))
      (call.settlePixel width height direction x y buffers original)
      (call.settlePixel width height direction x y buffers original') := by
  by_cases hcovered : Covered call width height x y
  · have hmixed : ¬ (call.settlePixel width height direction x y buffers original).isOk =
        (call.settlePixel width height direction x y buffers original').isOk → Lenient call := by
      intro hne first second hmonochrome
      apply hne
      rw [Bool.eq_iff_iff]
      exact ⟨settlePixel_covered_isOk hcovered hmonochrome original', settlePixel_covered_isOk hcovered hmonochrome original⟩
    cases hresult : call.settlePixel width height direction x y buffers original with
    | error e =>
      cases hresult' : call.settlePixel width height direction x y buffers original' with
      | error e' => trivial
      | ok result' => exact hmixed (by rw [hresult, hresult']; simp [Except.isOk, Except.toBool])
    | ok result =>
      cases hresult' : call.settlePixel width height direction x y buffers original' with
      | error e' => exact hmixed (by rw [hresult, hresult']; simp [Except.isOk, Except.toBool])
      | ok result' =>
        refine ⟨?_, fun hnot => absurd hcovered hnot⟩
        rw [(settlePixel_covered hcovered hresult).1, (settlePixel_covered hcovered hresult').1]
  · rw [h hcovered]
    exact Alike.same fun result _ => ⟨rfl, fun _ => rfl⟩

/-! ### Whole images -/

/-- Canvases with equal buffers that agree beside the mask. -/
structure SameBeside (call : Diffusion arith) (image : Image) (canvas canvas' : Canvas arith) : Prop where
  buffers : canvas.buffers = canvas'.buffers
  indexes : ∀ x < image.width, ∀ y < image.height, ¬ Covered call image.width image.height x y →
    canvas.indexes[y * image.width + x]? = canvas'.indexes[y * image.width + x]?
  preview : ∀ x < image.width, ∀ y < image.height, ¬ Covered call image.width image.height x y →
    canvas.preview[y * image.width + x]? = canvas'.preview[y * image.width + x]?
  lengths : canvas.indexes.length = canvas'.indexes.length ∧ canvas.preview.length = canvas'.preview.length

/-- A pixel changes one cell, and where it is beside the mask it changes it to the same. -/
lemma set_same {α : Type} {cells cells' : List α} {value value' : α} {covered : Nat → Nat → Prop} {width height x₀ y₀ : Nat}
    (hx₀ : x₀ < width) (hlength : cells.length = cells'.length) (hvalue : ¬ covered x₀ y₀ → value = value')
    (h : ∀ x < width, ∀ y < height, ¬ covered x y → cells[y * width + x]? = cells'[y * width + x]?) :
    ∀ x < width, ∀ y < height, ¬ covered x y →
      (cells.set (y₀ * width + x₀) value)[y * width + x]? = (cells'.set (y₀ * width + x₀) value')[y * width + x]? := by
  intro x hx y hy hbeside
  rw [List.getElem?_set, List.getElem?_set, hlength]
  by_cases hhere : y₀ * width + x₀ = y * width + x
  · obtain ⟨rfl, rfl⟩ := position_inj hx₀ hx hhere
    rw [if_pos rfl, if_pos rfl, hvalue hbeside]
  · rw [if_neg hhere, if_neg hhere]
    exact h x hx y hy hbeside

lemma pixel_alike {image image' : Image} (himage : AgreeBeside call image image') {canvas canvas' : Canvas arith}
    (h : SameBeside call image canvas canvas') (hx : x < image.width) (hy : y < image.height) :
    Alike (Lenient call) (SameBeside call image) (call.pixel image y direction canvas x) (call.pixel image' y direction canvas' x) := by
  unfold pixel
  rw [himage.width, himage.height, ← h.buffers]
  apply Alike.bind (settlePixel_alike (himage.pixel x hx y hy))
  rintro ⟨buffers, index, chosen⟩ ⟨buffers', index', chosen'⟩ - - ⟨hbuffers, hsame⟩
  have hindex : ¬ Covered call image.width image.height x y → index = index' := fun hbeside => by
    cases hsame hbeside
    rfl
  have hchosen : ¬ Covered call image.width image.height x y → chosen = chosen' := fun hbeside => by
    cases hsame hbeside
    rfl
  exact ⟨hbuffers, set_same hx h.lengths.1 hindex h.indexes, set_same hx h.lengths.2 hchosen h.preview,
    by rw [List.length_set, List.length_set, h.lengths.1], by rw [List.length_set, List.length_set, h.lengths.2]⟩

lemma mem_columns {width y x : Nat} : x ∈ columns width y ↔ x < width := by
  unfold columns
  split
  · exact List.mem_range
  · rw [List.mem_reverse, List.mem_range]

lemma row_alike {image image' : Image} (himage : AgreeBeside call image image') {canvas canvas' : Canvas arith}
    (h : SameBeside call image canvas canvas') (hy : y < image.height) :
    Alike (Lenient call) (SameBeside call image) (call.row image canvas y) (call.row image' canvas' y) := by
  unfold row
  rw [himage.width]
  dsimp only
  generalize (if y % 2 = 0 then (1 : ℤ) else -1) = direction
  have hrun : Alike (Lenient call) (SameBeside call image) ((columns image.width y).foldlM (call.pixel image y direction) canvas)
      ((columns image.width y).foldlM (call.pixel image' y direction) canvas') := by
    apply Alike.foldlM h
    intro x hx canvas canvas' h
    exact pixel_alike himage h (mem_columns.mp hx) hy
  apply hrun.bind
  intro canvas canvas' _ _ h
  exact ⟨congrArg (call.rotate image.width) h.buffers, h.indexes, h.preview, h.lengths⟩

/-- Images that agree beside the mask end alike, with the same colors there. -/
theorem quantizeDiffusion_alike {image image' : Image} (himage : AgreeBeside call image image') :
    Alike (Lenient call) (fun result result' => ∀ x < image.width, ∀ y < image.height, ¬ Covered call image.width image.height x y →
        result.1[y * image.width + x]? = result'.1[y * image.width + x]?)
      (call.quantizeDiffusion image) (call.quantizeDiffusion image') := by
  unfold quantizeDiffusion
  rw [himage.width, himage.height]
  apply Alike.bind (R := SameBeside call image)
  · apply Alike.foldlM
    · exact ⟨rfl, fun _ _ _ _ _ => rfl, fun _ _ _ _ _ => rfl, rfl, rfl⟩
    · exact fun y hy canvas canvas' h => row_alike himage h (List.mem_range.mp hy)
  · exact fun canvas canvas' _ _ h => h.indexes

/-! ### Covered pixels -/

/-- A pixel of the image that shows black or white. -/
def ShowsMonochrome (call : Diffusion arith) (image : Image) (x y : Nat) (canvas : Canvas arith) : Prop :=
  ∃ index ∈ monochrome call.profile.colors, canvas.indexes[y * image.width + x]? = some index

variable {image : Image} {canvas canvas' : Canvas arith} {x₀ y₀ first second : Nat}

lemma pixel_length (h : call.pixel image y direction canvas x = .ok canvas') : canvas'.indexes.length = canvas.indexes.length := by
  obtain ⟨⟨buffers, index, chosen⟩, -, h⟩ := Checked.bind_eq_ok.mp h
  obtain rfl := Except.ok.inj h
  exact List.length_set

lemma pixel_shows (hcovered : Covered call image.width image.height x₀ y₀) (hmonochrome : monochrome call.profile.colors = [first, second])
    (h : call.pixel image y direction canvas x = .ok canvas') (hx : x < image.width) (hx₀ : x₀ < image.width)
    (hroom : y₀ * image.width + x₀ < canvas.indexes.length)
    (hshows : ShowsMonochrome call image x₀ y₀ canvas ∨ (x = x₀ ∧ y = y₀)) : ShowsMonochrome call image x₀ y₀ canvas' := by
  obtain ⟨⟨buffers, index, chosen⟩, hsettle, h⟩ := Checked.bind_eq_ok.mp h
  obtain rfl := Except.ok.inj h
  unfold ShowsMonochrome
  dsimp only
  by_cases hhere : y * image.width + x = y₀ * image.width + x₀
  · obtain ⟨rfl, rfl⟩ := position_inj hx hx₀ hhere
    refine ⟨index, (settlePixel_covered hcovered hsettle).2 first second hmonochrome, ?_⟩
    rw [List.getElem?_set_self hroom]
  · obtain ⟨index', hindex', hshown⟩ | ⟨rfl, rfl⟩ := hshows
    · refine ⟨index', hindex', ?_⟩
      rw [List.getElem?_set_ne hhere]
      exact hshown
    · exact absurd rfl hhere

lemma row_length (h : call.row image canvas y = .ok canvas') : canvas'.indexes.length = canvas.indexes.length := by
  obtain ⟨between, hbetween, h⟩ := Checked.bind_eq_ok.mp h
  obtain rfl := Except.ok.inj h
  exact Lockstep.foldlM_keeps (P := fun between => between.indexes.length = canvas.indexes.length) rfl hbetween
    fun x _ s s' hs hs' => (pixel_length hs').trans hs

/-- A row keeps what it does not reach, and its own covered pixels become black or white. -/
lemma row_shows (hcovered : Covered call image.width image.height x₀ y₀) (hmonochrome : monochrome call.profile.colors = [first, second])
    (h : call.row image canvas y = .ok canvas') (hx₀ : x₀ < image.width) (hroom : y₀ * image.width + x₀ < canvas.indexes.length)
    (hshows : ShowsMonochrome call image x₀ y₀ canvas ∨ y = y₀) : ShowsMonochrome call image x₀ y₀ canvas' := by
  obtain ⟨between, hbetween, h⟩ := Checked.bind_eq_ok.mp h
  obtain rfl := Except.ok.inj h
  have hkeeps : ∀ x ∈ columns image.width y, ∀ s s' : Canvas arith, y₀ * image.width + x₀ < s.indexes.length →
      call.pixel image y (if y % 2 = 0 then 1 else -1) s x = .ok s' → y₀ * image.width + x₀ < s'.indexes.length := by
    intro x _ s s' hs hs'
    rw [pixel_length hs']
    exact hs
  have hstays : ∀ x ∈ columns image.width y, ∀ s s' : Canvas arith, y₀ * image.width + x₀ < s.indexes.length →
      ShowsMonochrome call image x₀ y₀ s → call.pixel image y (if y % 2 = 0 then 1 else -1) s x = .ok s' →
      ShowsMonochrome call image x₀ y₀ s' :=
    fun x hx s s' hs hshown hs' => pixel_shows hcovered hmonochrome hs' (mem_columns.mp hx) hx₀ hs (Or.inl hshown)
  obtain hshown | rfl := hshows
  · have hboth := Lockstep.foldlM_keeps
      (P := fun s => y₀ * image.width + x₀ < s.indexes.length ∧ ShowsMonochrome call image x₀ y₀ s) ⟨hroom, hshown⟩ hbetween
      fun x hx s s' hs hs' => ⟨hkeeps x hx s s' hs.1 hs', hstays x hx s s' hs.1 hs.2 hs'⟩
    exact hboth.2
  · have hshown : ShowsMonochrome call image x₀ y between :=
      Lockstep.foldlM_establishes (mem_columns.mpr hx₀) hroom hbetween hkeeps hstays
        fun s s' hs hs' => pixel_shows hcovered hmonochrome hs' hx₀ hx₀ hs (Or.inr ⟨rfl, rfl⟩)
    exact hshown

/-- After the whole image every covered pixel is black or white. -/
theorem quantizeDiffusion_shows {indexes : List Nat} {preview : List Rgb} (hmonochrome : monochrome call.profile.colors = [first, second])
    (h : call.quantizeDiffusion image = .ok (indexes, preview)) :
    indexes.length = image.width * image.height ∧ ∀ x < image.width, ∀ y < image.height, Covered call image.width image.height x y →
      ∃ index ∈ monochrome call.profile.colors, indexes[y * image.width + x]? = some index := by
  obtain ⟨last, hlast, h⟩ := Checked.bind_eq_ok.mp h
  obtain ⟨rfl, rfl⟩ := Prod.mk.inj (Except.ok.inj h)
  have hlength : last.indexes.length = image.width * image.height :=
    Lockstep.foldlM_keeps (P := fun canvas => canvas.indexes.length = image.width * image.height) List.length_replicate hlast
      fun y _ s s' hs hs' => (row_length hs').trans hs
  refine ⟨hlength, fun x hx y hy hcovered => ?_⟩
  have hroom : y * image.width + x < image.width * image.height := by
    have : (y + 1) * image.width ≤ image.height * image.width := Nat.mul_le_mul_right _ hy
    rw [Nat.mul_comm image.width]
    linarith
  have hstart : y * image.width + x < (List.replicate (image.width * image.height) 0).length := by
    rw [List.length_replicate]
    exact hroom
  have hshown : ShowsMonochrome call image x y last :=
    Lockstep.foldlM_establishes (P := fun canvas : Canvas arith => y * image.width + x < canvas.indexes.length) (List.mem_range.mpr hy)
      hstart hlast (fun y' _ s s' hs hs' => by rw [row_length hs']; exact hs)
      (fun y' _ s s' hs hshown hs' => row_shows hcovered hmonochrome hs' hx hs (Or.inl hshown))
      (fun s s' hs hs' => row_shows hcovered hmonochrome hs' hx hs (Or.inr rfl))
  exact hshown

/-! ### Images that are quantized -/

/-- Numbers are rounded, and the lookup has a color of the palette for every color. -/
structure Complete (call : Diffusion arith) : Prop where
  rounds : ∀ value, ∃ number, arith.round value = some number
  length : call.lookup.length = 32768
  known : ∀ index ∈ call.lookup, ∃ color, call.profile.colors[index]? = some color

/-- A mask reaches over the whole image. -/
def Reaches (call : Diffusion arith) (width height : Nat) : Prop :=
  ∀ mask ∈ call.protectedMask, width ≤ mask.width ∧ height ≤ mask.height

/-- The buffers are as long as a row of errors. -/
structure Roomy (width : Nat) (buffers : Buffers arith) : Prop where
  current : buffers.current.length = (width + 4) * 3
  following : buffers.following.length = (width + 4) * 3
  second : buffers.second.length = (width + 4) * 3

lemma isProtected_ok (h : Reaches call width height) (x y : ℤ) : ∃ kept, call.isProtected width height x y = .ok kept := by
  unfold isProtected
  cases hmask : call.protectedMask with
  | none => exact ⟨false, rfl⟩
  | some mask =>
    dsimp only
    split
    · next hinside =>
      obtain ⟨hwidth, hheight⟩ := h mask hmask
      have hbounds : (decide (x < mask.width) && decide (y < mask.height)) = true := by
        rw [Bool.and_eq_true, decide_eq_true_eq, decide_eq_true_eq]
        omega
      exact ⟨_, Checked.bind_eq_ok.mpr ⟨(), Checked.require_eq_ok.mpr hbounds, rfl⟩⟩
    · exact ⟨false, rfl⟩

lemma addChannel_ok {buffer : List arith.Value} {position : Nat} (value : arith.Value) (h : position < buffer.length) :
    ∃ buffer', addChannel buffer position value = .ok buffer' ∧ buffer'.length = buffer.length := by
  refine ⟨_, Checked.bind_eq_ok.mpr ⟨_, Checked.orError_eq_ok.mpr (List.getElem?_eq_getElem h), rfl⟩, ?_⟩
  exact List.length_set

lemma addError_ok {buffer : List arith.Value} (error : Channels arith.Value) (weight : arith.Value)
    (hroom : buffer.length = (width + 4) * 3) (hx : x < width) :
    ∃ buffer', addError buffer x error weight = .ok buffer' ∧ buffer'.length = (width + 4) * 3 := by
  have hoffset : offsetOf x + 2 < (width + 4) * 3 := by
    unfold offsetOf
    omega
  obtain ⟨red, hred, hlength⟩ := addChannel_ok (arith.mul error.red weight) (by omega : offsetOf x < buffer.length)
  obtain ⟨green, hgreen, hlength'⟩ := addChannel_ok (arith.mul error.green weight) (by omega : offsetOf x + 1 < red.length)
  obtain ⟨blue, hblue, hlength''⟩ := addChannel_ok (arith.mul error.blue weight) (by omega : offsetOf x + 2 < green.length)
  exact ⟨blue, Checked.bind_eq_ok.mpr ⟨red, hred, Checked.bind_eq_ok.mpr ⟨green, hgreen, hblue⟩⟩, by omega⟩

lemma distribute_ok (h : Reaches call width height) {buffer : List arith.Value} (x targetY : ℤ) (error : Channels arith.Value) (weight : ℚ)
    (hroom : buffer.length = (width + 4) * 3) :
    ∃ buffer', call.distribute width height buffer x targetY error weight = .ok buffer' ∧ buffer'.length = (width + 4) * 3 := by
  unfold distribute
  split
  · next hinside =>
    obtain ⟨kept, hkept⟩ := isProtected_ok h x targetY
    rw [hkept]
    cases kept with
    | true => exact ⟨buffer, rfl, hroom⟩
    | false => exact addError_ok error _ hroom (by omega)
  · exact ⟨buffer, rfl, hroom⟩

lemma spread_ok (h : Reaches call width height) (hroomy : Roomy width buffers) (x y direction : ℤ) (error : Channels arith.Value) :
    ∃ buffers', call.spread width height buffers x y direction error = .ok buffers' ∧ Roomy width buffers' := by
  unfold spread
  cases call.algorithm with
  | floydSteinberg | serpentineFloydSteinberg =>
    obtain ⟨current, hcurrent, hlength⟩ := distribute_ok h (x + direction) y error (7 / 16) hroomy.current
    obtain ⟨behind, hbehind, hlength'⟩ := distribute_ok h (x - direction) (y + 1) error (3 / 16) hroomy.following
    obtain ⟨below, hbelow, hlength'⟩ := distribute_ok h x (y + 1) error (5 / 16) hlength'
    obtain ⟨following, hfollowing, hlength'⟩ := distribute_ok h (x + direction) (y + 1) error (1 / 16) hlength'
    refine ⟨{ buffers with current := current, following := following }, ?_, hlength, hlength', hroomy.second⟩
    exact Checked.bind_eq_ok.mpr ⟨current, hcurrent, Checked.bind_eq_ok.mpr ⟨behind, hbehind, Checked.bind_eq_ok.mpr ⟨below, hbelow,
      Checked.bind_eq_ok.mpr ⟨following, hfollowing, rfl⟩⟩⟩⟩
  | atkinson =>
    obtain ⟨next, hnext, hlength⟩ := distribute_ok h (x + direction) y error (1 / 8) hroomy.current
    obtain ⟨current, hcurrent, hlength⟩ := distribute_ok h (x + 2 * direction) y error (1 / 8) hlength
    obtain ⟨behind, hbehind, hlength'⟩ := distribute_ok h (x - direction) (y + 1) error (1 / 8) hroomy.following
    obtain ⟨below, hbelow, hlength'⟩ := distribute_ok h x (y + 1) error (1 / 8) hlength'
    obtain ⟨following, hfollowing, hlength'⟩ := distribute_ok h (x + direction) (y + 1) error (1 / 8) hlength'
    obtain ⟨second, hsecond, hlength''⟩ := distribute_ok h x (y + 2) error (1 / 8) hroomy.second
    refine ⟨⟨current, following, second⟩, ?_, hlength, hlength', hlength''⟩
    exact Checked.bind_eq_ok.mpr ⟨next, hnext, Checked.bind_eq_ok.mpr ⟨current, hcurrent, Checked.bind_eq_ok.mpr ⟨behind, hbehind,
      Checked.bind_eq_ok.mpr ⟨below, hbelow, Checked.bind_eq_ok.mpr ⟨following, hfollowing,
        Checked.bind_eq_ok.mpr ⟨second, hsecond, rfl⟩⟩⟩⟩⟩⟩

lemma clampChannel_ok (h : Complete call) (value : arith.Value) : ∃ byte, arith.clampChannel value = .ok byte := by
  obtain ⟨number, hnumber⟩ := h.rounds value
  exact ⟨_, Checked.bind_eq_ok.mpr ⟨number, Checked.orError_eq_ok.mpr hnumber, rfl⟩⟩

/-- The entry of a color is one of the lookup. -/
lemma entry_lt (red green blue : UInt8) :
    (red.toNat >>> 3 <<< 10) ||| (green.toNat >>> 3 <<< 5) ||| (blue.toNat >>> 3) < 32768 := by
  have hred := red.toNat_lt
  have hgreen := green.toNat_lt
  have hblue := blue.toNat_lt
  have h : ∀ byte : Nat, byte < 2 ^ 8 → byte >>> 3 < 32 := by
    intro byte hbyte
    rw [Nat.shiftRight_eq_div_pow]
    omega
  have hfirst : red.toNat >>> 3 <<< 10 < 2 ^ 15 := by
    have := h _ hred
    rw [Nat.shiftLeft_eq]
    omega
  have hsecond : green.toNat >>> 3 <<< 5 < 2 ^ 15 := by
    have := h _ hgreen
    rw [Nat.shiftLeft_eq]
    omega
  have hthird : blue.toNat >>> 3 < 2 ^ 15 := by
    have := h _ hblue
    omega
  exact Nat.or_lt_two_pow (Nat.or_lt_two_pow hfirst hsecond) hthird

lemma nearest_ok (h : Complete call) (matched : Channels arith.Value) :
    ∃ index color, call.nearest matched = .ok index ∧ call.profile.colors[index]? = some color := by
  obtain ⟨red, hred⟩ := clampChannel_ok h matched.red
  obtain ⟨green, hgreen⟩ := clampChannel_ok h matched.green
  obtain ⟨blue, hblue⟩ := clampChannel_ok h matched.blue
  have hentry := entry_lt red green blue
  rw [← h.length] at hentry
  obtain ⟨color, hcolor⟩ := h.known _ (List.getElem_mem hentry)
  refine ⟨_, color, ?_, hcolor⟩
  simp only [nearest, hred, hgreen, hblue]
  exact Checked.orError_eq_ok.mpr (List.getElem?_eq_getElem hentry)

lemma chooseIndex_ok (h : Complete call) (kept : Bool) (matched : Channels arith.Value) :
    ∃ index color, call.chooseIndex kept matched = .ok index ∧ call.profile.colors[index]? = some color := by
  cases kept with
  | false => exact nearest_ok h matched
  | true =>
    by_cases hmonochrome : ∃ first second, monochrome call.profile.colors = [first, second]
    · obtain ⟨first, second, hmonochrome⟩ := hmonochrome
      exact chooseIndex_total hmonochrome matched
    · have hnearest : call.chooseIndex true matched = call.nearest matched := by
        unfold chooseIndex
        split
        · next hpair => exact absurd ⟨_, _, hpair⟩ hmonochrome
        · rfl
      rw [hnearest]
      exact nearest_ok h matched

lemma settlePixel_ok (h : Complete call) (hreaches : Reaches call width height) (hroomy : Roomy width buffers) (hx : x < width)
    (original : Rgb) :
    ∃ result, call.settlePixel width height direction x y buffers original = .ok result ∧ Roomy width result.1 := by
  have hroom := hroomy.current
  have hheld : ∀ channel < 3, ∃ held, buffers.current[offsetOf x + channel]? = some held := by
    intro channel hchannel
    refine ⟨_, List.getElem?_eq_getElem ?_⟩
    unfold offsetOf
    omega
  obtain ⟨red, hred⟩ := hheld 0 (by decide)
  obtain ⟨green, hgreen⟩ := hheld 1 (by decide)
  obtain ⟨blue, hblue⟩ := hheld 2 (by decide)
  obtain ⟨kept, hkept⟩ := isProtected_ok hreaches x y
  obtain ⟨index, color, hindex, hcolor⟩ := chooseIndex_ok h kept (if call.linearLight then
    ((call.spaceOf original).zip arith.add ⟨red, green, blue⟩).map arith.srgbChannel
    else (call.spaceOf original).zip arith.add ⟨red, green, blue⟩)
  have hgiven : ∀ error, ∃ given, call.give width height buffers x y direction error kept = .ok given ∧ Roomy width given := by
    intro error
    cases kept with
    | true => exact ⟨buffers, rfl, hroomy⟩
    | false => exact spread_ok hreaches hroomy x y direction error
  obtain ⟨given, hgiven, hroomy'⟩ := hgiven (((call.spaceOf original).zip arith.add ⟨red, green, blue⟩).zip
    (fun value chosen => arith.mul (arith.sub value chosen) call.strength) (call.spaceOf color.rgb))
  refine ⟨(given, index, color.rgb), ?_, hroomy'⟩
  exact Checked.bind_eq_ok.mpr ⟨red, Checked.orError_eq_ok.mpr hred, Checked.bind_eq_ok.mpr ⟨green, Checked.orError_eq_ok.mpr hgreen,
    Checked.bind_eq_ok.mpr ⟨blue, Checked.orError_eq_ok.mpr hblue, Checked.bind_eq_ok.mpr ⟨kept, hkept,
      Checked.bind_eq_ok.mpr ⟨index, hindex, Checked.bind_eq_ok.mpr ⟨color, Checked.orError_eq_ok.mpr hcolor,
        Checked.bind_eq_ok.mpr ⟨given, hgiven, rfl⟩⟩⟩⟩⟩⟩⟩

lemma row_ok {image : Image} (h : Complete call) (hreaches : Reaches call image.width image.height) {canvas : Canvas arith}
    (hroomy : Roomy image.width canvas.buffers) :
    ∃ canvas', call.row image canvas y = .ok canvas' ∧ Roomy image.width canvas'.buffers := by
  obtain ⟨last, hlast, hlong⟩ : ∃ last,
      (columns image.width y).foldlM (call.pixel image y (if y % 2 = 0 then 1 else -1)) canvas = .ok last ∧
        Roomy image.width last.buffers := by
    apply Lockstep.foldlM_ok (P := fun canvas : Canvas arith => Roomy image.width canvas.buffers) hroomy
    intro x hx canvas hcanvas
    obtain ⟨settled, hsettled, hbuffers⟩ := settlePixel_ok h hreaches hcanvas (mem_columns.mp hx) (image.pixel x y)
    exact ⟨_, Checked.bind_eq_ok.mpr ⟨settled, hsettled, rfl⟩, hbuffers⟩
  have hblank : (blankRow arith image.width).length = (image.width + 4) * 3 := List.length_replicate
  refine ⟨_, Checked.bind_eq_ok.mpr ⟨last, hlast, rfl⟩, ?_⟩
  unfold rotate
  cases call.algorithm with
  | floydSteinberg | serpentineFloydSteinberg => exact ⟨hlong.following, hblank, hlong.second⟩
  | atkinson => exact ⟨hlong.following, hlong.second, hblank⟩

/-- Under a mask of the image's size, and under none, every image is quantized. -/
theorem quantizeDiffusion_ok (image : Image) (h : Complete call) (hreaches : Reaches call image.width image.height) :
    ∃ result, call.quantizeDiffusion image = .ok result := by
  have hblank : (blankRow arith image.width).length = (image.width + 4) * 3 := List.length_replicate
  have hstart : Roomy image.width (⟨blankRow arith image.width, blankRow arith image.width, blankRow arith image.width⟩ : Buffers arith) :=
    ⟨hblank, hblank, hblank⟩
  obtain ⟨last, hlast, -⟩ := Lockstep.foldlM_ok (P := fun canvas : Canvas arith => Roomy image.width canvas.buffers)
    (s := ⟨_, List.replicate (image.width * image.height) 0, List.replicate (image.width * image.height) ⟨0, 0, 0⟩⟩) hstart
    fun y (_ : y ∈ List.range image.height) canvas hcanvas => row_ok h hreaches hcanvas
  exact ⟨_, Checked.bind_eq_ok.mpr ⟨last, hlast, rfl⟩⟩

/-- Two images that agree beside the mask are quantized alike beside it, whatever the arithmetic; under the mask the colors of
either are black and white only. -/
theorem protected_text_hidden {profileKey : String} {rgbValues : List (String × List ℤ)}
    {labValues : List (String × List arith.Value)} {image image' : Image}
    (hprofile : paletteForProfile arith profileKey rgbValues labValues = .ok call.profile) (himage : AgreeBeside call image image') :
    (call.quantizeDiffusion image).isOk = (call.quantizeDiffusion image').isOk ∧
    ∀ indexes preview indexes' preview', call.quantizeDiffusion image = .ok (indexes, preview) →
      call.quantizeDiffusion image' = .ok (indexes', preview') →
      indexes.length = image.width * image.height ∧
      ∀ x < image.width, ∀ y < image.height,
        (¬ Covered call image.width image.height x y → indexes[y * image.width + x]? = indexes'[y * image.width + x]?) ∧
        (Covered call image.width image.height x y → ∃ index color, indexes[y * image.width + x]? = some index ∧
          call.profile.colors[index]? = some color ∧ (color.name = "black" ∨ color.name = "white")) := by
  have hmonochrome := paletteForProfile_monochrome hprofile
  have halike := quantizeDiffusion_alike himage
  have hstrict : ¬ Lenient call := fun hlenient => hlenient 0 1 hmonochrome
  rw [eq_false hstrict] at halike
  refine ⟨halike.isOk_eq, fun indexes preview indexes' preview' h h' => ?_⟩
  obtain ⟨hlength, hshows⟩ := quantizeDiffusion_shows hmonochrome h
  refine ⟨hlength, fun x hx y hy => ⟨halike.related h h' x hx y hy, fun hcovered => ?_⟩⟩
  obtain ⟨index, hindex, hshown⟩ := hshows x hx y hy hcovered
  obtain ⟨color, hcolor, hname⟩ := mem_monochrome hindex
  exact ⟨index, color, hshown, hcolor, hname⟩

/-- Exact numbers; no power is taken without linear light. -/
def exactArithmetic : Arithmetic where
  Value := ℚ
  literal := id
  add := (· + ·)
  sub := (· - ·)
  mul := (· * ·)
  div := (· / ·)
  pow := fun base _ => base
  abs := fun value => |value|
  le := fun value other => value ≤ other
  lt := fun value other => value < other
  sum := List.sum
  round := fun value => some (Rounding.roundHalfEven value)

/-- A call with a mask over the first of two pixels. -/
def halfCovered : Diffusion exactArithmetic where
  profile := safe4c exactArithmetic
  lookup := List.replicate 32768 1
  algorithm := .atkinson
  strength := (1 : ℚ)
  linearLight := false
  protectedMask := some ⟨2, 1, fun x _ => x == 0⟩

/-- A grey pixel beside one of a color. -/
def besideGrey (color : Rgb) : Image := ⟨2, 1, fun x _ => if x = 0 then color else ⟨128, 128, 128⟩⟩

lemma halfCovered_complete : Complete halfCovered where
  rounds value := ⟨_, rfl⟩
  length := List.length_replicate
  known index hindex := by
    rw [List.eq_of_mem_replicate hindex]
    exact ⟨_, rfl⟩

/-- Red or blue under the mask, both images are quantized, and the grey pixel beside it takes one color. -/
theorem protected_text_hidden_halfCovered : ∃ indexes preview indexes' preview',
    halfCovered.quantizeDiffusion (besideGrey ⟨255, 0, 0⟩) = .ok (indexes, preview) ∧
      halfCovered.quantizeDiffusion (besideGrey ⟨0, 0, 255⟩) = .ok (indexes', preview') ∧ indexes[1]? = indexes'[1]? := by
  have hprofile : paletteForProfile exactArithmetic "safe_4c" [] [] = .ok halfCovered.profile := rfl
  have hagree : AgreeBeside halfCovered (besideGrey ⟨255, 0, 0⟩) (besideGrey ⟨0, 0, 255⟩) := by
    refine ⟨rfl, rfl, fun x hx y hy hnot => ?_⟩
    obtain rfl : y = 0 := Nat.lt_one_iff.mp hy
    by_cases hzero : x = 0
    · subst hzero
      exact absurd rfl hnot
    · unfold besideGrey
      dsimp only
      rw [if_neg hzero, if_neg hzero]
  have hbeside : ¬ Covered halfCovered 2 1 1 0 := by
    rintro hcovered
    cases hcovered
  have hreaches : Reaches halfCovered 2 1 := by
    intro mask hmask
    obtain rfl := Option.some.inj hmask
    exact ⟨le_rfl, le_rfl⟩
  obtain ⟨⟨indexes, preview⟩, h⟩ := quantizeDiffusion_ok (besideGrey ⟨255, 0, 0⟩) halfCovered_complete hreaches
  obtain ⟨⟨indexes', preview'⟩, h'⟩ := quantizeDiffusion_ok (besideGrey ⟨0, 0, 255⟩) halfCovered_complete hreaches
  obtain ⟨-, hpixels⟩ := (protected_text_hidden hprofile hagree).2 indexes preview indexes' preview' h h'
  exact ⟨indexes, preview, indexes', preview', h, h', (hpixels 1 Nat.one_lt_two 0 Nat.zero_lt_one).1 hbeside⟩

end Diffusion

end InkTime.Rendering
