import InkTime.Panel.Model

/-!
# Packing

The payload of a list of palette indexes holds the code of every pixel in the field that all three readers look at.
-/

namespace InkTime.Panel

open Checked (require orError)

/-! ### Fields of a format -/

def PixelFormat.bits : PixelFormat → Nat
  | .twoBpp => 2
  | .indexed4 => 4

def PixelFormat.perByte : PixelFormat → Nat
  | .twoBpp => 4
  | .indexed4 => 2

lemma PixelFormat.perByte_pos (format : PixelFormat) : 0 < format.perByte := by cases format <;> decide

/-- The fields of a format as cells. -/
def PixelFormat.cells (format : PixelFormat) : Cells (List Nat) Nat Nat := Fields.cells format.bits format.perByte format.perByte_pos

lemma shift_le (format : PixelFormat) (i : Nat) : Fields.shiftOf format.bits format.perByte i + format.bits ≤ 8 := by
  cases format <;> simp only [Fields.shiftOf, PixelFormat.bits, PixelFormat.perByte] <;> omega

def AllBytes (bytes : List Nat) : Prop := ∀ byte ∈ bytes, byte < 256

lemma AllBytes.getD {bytes : List Nat} (h : AllBytes bytes) (i : Nat) : bytes.getD i 0 < 256 := by
  rw [List.getD_eq_getElem?_getD]
  cases hi : bytes[i]? with
  | none => decide
  | some byte => exact h byte (List.mem_of_getElem? hi)

lemma AllBytes.set {bytes : List Nat} (h : AllBytes bytes) {byte : Nat} (hbyte : byte < 256) (i : Nat) : AllBytes (bytes.set i byte) := by
  intro other hother
  obtain hmem | rfl := List.mem_or_eq_of_mem_set hother
  · exact h other hmem
  · exact hbyte

lemma allBytes_replicate {byte : Nat} (hbyte : byte < 256) (n : Nat) : AllBytes (List.replicate n byte) := by
  intro other hother
  rw [List.eq_of_mem_replicate hother]
  exact hbyte

/-! ### The loop -/

/-- The code of a palette index. -/
def DisplayProfile.code (profile : DisplayProfile) (paletteIndex : Nat) : Nat :=
  (profile.colors[paletteIndex]?.map PaletteColor.code).getD 0

/-- Every code fits its field. -/
def DisplayProfile.Encodable (profile : DisplayProfile) : Prop := ∀ color ∈ profile.colors, color.code < 2 ^ profile.pixelFormat.bits

lemma DisplayProfile.Encodable.code_lt {profile : DisplayProfile} (h : profile.Encodable) (paletteIndex : Nat) :
    profile.code paletteIndex < 2 ^ profile.pixelFormat.bits := by
  unfold DisplayProfile.code
  cases hcolor : profile.colors[paletteIndex]? with
  | none => exact Nat.two_pow_pos _
  | some color => exact h color (List.mem_of_getElem? hcolor)

/-- The bytes are in range and as many as at the start. -/
structure Packed (length : Nat) (bytes : List Nat) : Prop where
  length : bytes.length = length
  bytes : AllBytes bytes

lemma packPixel_ok {profile : DisplayProfile} (hencodable : profile.Encodable) {length : Nat} {payload : List Nat}
    (h : Packed length payload) {paletteIndex index : Nat} (hindex : paletteIndex < profile.colors.length) :
    packPixel profile payload (paletteIndex, index) = .ok (profile.pixelFormat.cells.write payload index (profile.code paletteIndex)) ∧
      Packed length (profile.pixelFormat.cells.write payload index (profile.code paletteIndex)) := by
  have hbyte : payload.getD (index / profile.pixelFormat.perByte) 0 |||
      profile.code paletteIndex <<< Fields.shiftOf profile.pixelFormat.bits profile.pixelFormat.perByte index < 2 ^ 8 :=
    Fields.lor_shiftLeft_lt (h.bytes.getD _) (hencodable.code_lt _) (shift_le _ _)
  have hcolor : orError profile.colors[paletteIndex]? PackError.indexError = .ok profile.colors[paletteIndex] :=
    Checked.orError_eq_ok.mpr (List.getElem?_eq_getElem hindex)
  have hcode : profile.code paletteIndex = profile.colors[paletteIndex].code := by
    rw [DisplayProfile.code, List.getElem?_eq_getElem hindex]
    rfl
  refine ⟨?_, ⟨(List.length_set ..).trans h.length, h.bytes.set hbyte _⟩⟩
  unfold packPixel
  refine Checked.bind_eq_ok.mpr ⟨_, hcolor, ?_⟩
  rw [← hcode]
  cases hformat : profile.pixelFormat with
  | twoBpp =>
    rw [hformat] at hbyte
    have hshift : 6 - index % 4 * 2 = Fields.shiftOf 2 4 index := by
      unfold Fields.shiftOf
      omega
    dsimp only
    rw [hshift]
    exact Checked.bind_eq_ok.mpr ⟨(), Checked.require_eq_ok.mpr (decide_eq_true hbyte), rfl⟩
  | indexed4 =>
    rw [hformat] at hbyte
    have hshift : (if index % 2 = 0 then 4 else 0) = Fields.shiftOf 4 2 index := by
      unfold Fields.shiftOf
      split <;> omega
    dsimp only
    rw [hshift]
    exact Checked.bind_eq_ok.mpr ⟨(), Checked.require_eq_ok.mpr (decide_eq_true hbyte), rfl⟩

/-- Bytes for so many pixels. -/
def PixelFormat.bytesFor (format : PixelFormat) (pixels : Nat) : Nat := (pixels + format.perByte - 1) / format.perByte

lemma emptyPayload_eq (profile : DisplayProfile) (pixels : Nat) :
    emptyPayload profile pixels = List.replicate (profile.pixelFormat.bytesFor pixels) 0 := by
  unfold emptyPayload PixelFormat.bytesFor
  cases profile.pixelFormat <;> rfl

/-- The payload holds the code of every pixel. -/
structure Holds (profile : DisplayProfile) (indexes payload : List Nat) : Prop where
  length : payload.length = profile.pixelFormat.bytesFor indexes.length
  bytes : AllBytes payload
  code : ∀ i (h : i < indexes.length), Fields.read profile.pixelFormat.bits profile.pixelFormat.perByte payload i = profile.code indexes[i]

/-- What a turn writes. -/
def packedEntry (profile : DisplayProfile) (pair : Nat × Nat) : Nat × Nat := (pair.2, profile.code pair.1)

/-- What the loop writes. -/
def packedEntries (profile : DisplayProfile) (indexes : List Nat) : List (Nat × Nat) := indexes.zipIdx.map (packedEntry profile)

lemma packedEntries_distinct (profile : DisplayProfile) (indexes : List Nat) :
    ((packedEntries profile indexes).map Prod.fst).Nodup := by
  have hfst : (packedEntries profile indexes).map Prod.fst = List.range' 0 indexes.length := by
    rw [packedEntries, List.map_map]
    exact List.zipIdx_map_snd 0 indexes
  rw [hfst]
  exact List.nodup_range'

lemma mem_packedEntries {profile : DisplayProfile} {indexes : List Nat} {i : Nat} (h : i < indexes.length) :
    (i, profile.code indexes[i]) ∈ packedEntries profile indexes := by
  refine List.mem_map.mpr ⟨(indexes[i], i), ?_, rfl⟩
  exact List.mk_mem_zipIdx_iff_getElem?.mpr (List.getElem?_eq_getElem h)

lemma packedEntries_inside {profile : DisplayProfile} (hencodable : profile.Encodable) {indexes bytes : List Nat}
    (hlength : bytes.length = profile.pixelFormat.bytesFor indexes.length) {entry : Nat × Nat}
    (hentry : entry ∈ packedEntries profile indexes) :
    profile.pixelFormat.cells.inside bytes entry.1 ∧ profile.pixelFormat.cells.fits entry.2 := by
  obtain ⟨pair, hpair, rfl⟩ := List.mem_map.mp hentry
  refine ⟨?_, hencodable.code_lt _⟩
  have hlt : pair.2 < indexes.length := List.snd_lt_of_mem_zipIdx hpair
  change pair.2 / profile.pixelFormat.perByte < bytes.length
  rw [hlength, PixelFormat.bytesFor, Nat.div_lt_iff_lt_mul profile.pixelFormat.perByte_pos]
  have hpos := profile.pixelFormat.perByte_pos
  have hdiv := Nat.div_add_mod (indexes.length + profile.pixelFormat.perByte - 1) profile.pixelFormat.perByte
  have hmod := Nat.mod_lt (indexes.length + profile.pixelFormat.perByte - 1) hpos
  rw [Nat.mul_comm] at hdiv
  omega

theorem packPayload_holds {profile : DisplayProfile} (hencodable : profile.Encodable) {indexes : List Nat}
    (hindexes : ∀ paletteIndex ∈ indexes, paletteIndex < profile.colors.length) :
    ∃ payload, packPayload profile indexes = .ok payload ∧ Holds profile indexes payload := by
  have hstart : Packed (profile.pixelFormat.bytesFor indexes.length) (emptyPayload profile indexes.length) := by
    rw [emptyPayload_eq]
    exact ⟨List.length_replicate, allBytes_replicate (by decide) _⟩
  have hzero : ∀ i, Fields.read profile.pixelFormat.bits profile.pixelFormat.perByte (emptyPayload profile indexes.length) i = 0 := by
    intro i
    have hbyte : (List.replicate (profile.pixelFormat.bytesFor indexes.length) 0).getD (i / profile.pixelFormat.perByte) 0 = 0 := by
      rw [List.getD_eq_getElem?_getD, List.getElem?_replicate]
      split <;> rfl
    rw [emptyPayload_eq, Fields.read, hbyte, Fields.get, Nat.zero_shiftRight, Nat.zero_mod]
  have hstep : ∀ payload, Packed (profile.pixelFormat.bytesFor indexes.length) payload → ∀ pair ∈ indexes.zipIdx,
      packPixel profile payload pair =
          .ok (profile.pixelFormat.cells.write payload (packedEntry profile pair).1 (packedEntry profile pair).2) ∧
        Packed (profile.pixelFormat.bytesFor indexes.length)
          (profile.pixelFormat.cells.write payload (packedEntry profile pair).1 (packedEntry profile pair).2) :=
    fun payload h pair hpair => packPixel_ok hencodable h (hindexes pair.1 (List.fst_mem_of_mem_zipIdx hpair))
  obtain ⟨hfold, hpacked⟩ := Cells.foldlM_eq_writeAll hstep hstart
  refine ⟨_, hfold, hpacked.length, hpacked.bytes, ?_⟩
  intro i hi
  have hentries : ∀ entry ∈ packedEntries profile indexes,
      profile.pixelFormat.cells.inside (emptyPayload profile indexes.length) entry.1 ∧ profile.pixelFormat.cells.fits entry.2 :=
    fun entry hentry => packedEntries_inside hencodable hstart.length hentry
  have hread := Cells.read_writeAll hentries (packedEntries_distinct profile indexes) (mem_packedEntries hi)
  calc Fields.read profile.pixelFormat.bits profile.pixelFormat.perByte _ i
      = Fields.read profile.pixelFormat.bits profile.pixelFormat.perByte (emptyPayload profile indexes.length) i |||
          profile.code indexes[i] := hread
    _ = profile.code indexes[i] := by rw [hzero, Nat.zero_or]

/-! ### The readers -/

section Readers

variable {bytes : List Nat}

lemma readPacked4_eq (h : AllBytes bytes) (i : Nat) : readPacked4 bytes i = Fields.read 4 2 bytes i := by
  have hbyte := h.getD (i / 2)
  unfold readPacked4 Fields.read Fields.get Fields.shiftOf toByte
  dsimp only
  generalize bytes.getD (i / 2) 0 = byte at hbyte ⊢
  rw [Nat.shiftRight_eq_div_pow]
  split
  · next heven =>
    rw [heven, Nat.shiftRight_eq_div_pow]
    omega
  · next hodd =>
    have hmod : i % 2 = 1 := by omega
    have hmask : byte &&& 0x0F = byte % 16 := Nat.and_two_pow_sub_one_eq_mod byte 4
    rw [hmod, hmask]
    omega

lemma readPacked2_eq (bytes : List Nat) (i : Nat) : readPacked2 bytes i = Fields.read 2 4 bytes i := by
  unfold readPacked2 Fields.read Fields.get Fields.shiftOf toByte
  dsimp only
  have hshift : 6 - i % 4 * 2 = 2 * (4 - 1 - i % 4) := by omega
  rw [hshift]
  generalize bytes.getD (i / 4) 0 >>> (2 * (4 - 1 - i % 4)) = field
  have hmask : field &&& 0x03 = field % 4 := Nat.and_two_pow_sub_one_eq_mod field 2
  rw [hmask]
  omega

/-- The firmware reads the field. -/
lemma logicalColor_eq (h : AllBytes bytes) (format : PixelFormat) (i : Nat) :
    logicalColor bytes (format == .indexed4) i = Fields.read format.bits format.perByte bytes i := by
  cases format with
  | twoBpp => exact readPacked2_eq bytes i
  | indexed4 => exact readPacked4_eq h i

/-- The Stock converter reads the field. -/
lemma readStock_eq (h : AllBytes bytes) (format : PixelFormat) {i : Nat} (hi : i / format.perByte < bytes.length) :
    readStock format bytes i = .ok (Fields.read format.bits format.perByte bytes i) := by
  have hbyte : bytes[i / format.perByte]? = some (bytes.getD (i / format.perByte) 0) := by
    rw [List.getD_eq_getElem?_getD, List.getElem?_eq_getElem hi, Option.getD_some]
  cases format with
  | twoBpp =>
    have hbyte : bytes[i / 4]? = some (bytes.getD (i / 4) 0) := hbyte
    have hread := readPacked2_eq bytes i
    have hlt : (bytes.getD (i / 4) 0 >>> (6 - i % 4 * 2)) &&& 0x03 < 256 :=
      lt_of_le_of_lt Nat.and_le_right (by decide)
    simp only [readStock, read2bpp, hbyte]
    rw [readPacked2, toByte, Nat.mod_eq_of_lt hlt] at hread
    exact congrArg Except.ok hread
  | indexed4 =>
    have hbyte : bytes[i / 2]? = some (bytes.getD (i / 2) 0) := hbyte
    have hread := readPacked4_eq h i
    have hrange := h.getD (i / 2)
    simp only [readStock, readIndexed4, hbyte]
    refine congrArg Except.ok (Eq.trans ?_ hread)
    unfold readPacked4 toByte
    dsimp only
    have hhigh : bytes.getD (i / 2) 0 >>> 4 < 256 := lt_of_le_of_lt (Nat.shiftRight_le _ _) hrange
    have hlow : bytes.getD (i / 2) 0 &&& 0x0F < 256 := lt_of_le_of_lt Nat.and_le_left hrange
    rw [Nat.mod_eq_of_lt hhigh, Nat.mod_eq_of_lt hlow]

end Readers

end InkTime.Panel
