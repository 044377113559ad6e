import Mathlib.Tactic

/-!
# Cells of a buffer

A buffer is read and written cell by cell. Where cells do not overlap, a loop of writes leaves in every cell what was written
there. Fields of a few bits in the bytes of a list are such cells.
-/

/-- Cells `ι` with values `α` in a buffer `β`; a write combines what it finds with what it brings. -/
structure Cells (β ι α : Type) where
  /-- The cell lies in the buffer. -/
  inside : β → ι → Prop
  fits : α → Prop
  combine : α → α → α
  read : β → ι → α
  write : β → ι → α → β
  inside_write : ∀ {b i j a}, inside b j → inside (write b i a) j
  read_write_self : ∀ {b i a}, inside b i → fits a → read (write b i a) i = combine (read b i) a
  read_write_ne : ∀ {b i j a}, i ≠ j → inside b i → inside b j → fits a → read (write b i a) j = read b j

namespace Cells

variable {β ι α : Type} (cells : Cells β ι α)

/-- Writes one after another. -/
def writeAll (b : β) (entries : List (ι × α)) : β := entries.foldl (fun b entry => cells.write b entry.1 entry.2) b

variable {cells} {b : β} {entries : List (ι × α)}

lemma read_writeAll_of_notMem {j : ι} (hj : cells.inside b j) (hentries : ∀ entry ∈ entries, cells.inside b entry.1 ∧ cells.fits entry.2)
    (h : j ∉ entries.map Prod.fst) : cells.read (cells.writeAll b entries) j = cells.read b j := by
  induction entries generalizing b with
  | nil => rfl
  | cons entry rest ih =>
    obtain ⟨hinside, hfits⟩ := hentries entry List.mem_cons_self
    rw [List.map_cons, List.mem_cons, not_or] at h
    have hrest : ∀ other ∈ rest, cells.inside (cells.write b entry.1 entry.2) other.1 ∧ cells.fits other.2 := fun other hother =>
      ⟨cells.inside_write (hentries other (List.mem_cons_of_mem _ hother)).1, (hentries other (List.mem_cons_of_mem _ hother)).2⟩
    calc cells.read (cells.writeAll (cells.write b entry.1 entry.2) rest) j
        = cells.read (cells.write b entry.1 entry.2) j := ih (cells.inside_write hj) hrest h.2
      _ = cells.read b j := cells.read_write_ne (fun heq => h.1 heq.symm) hinside hj hfits

/-- A cell that one entry names holds what the entry brings. -/
theorem read_writeAll {i : ι} {a : α} (hentries : ∀ entry ∈ entries, cells.inside b entry.1 ∧ cells.fits entry.2)
    (hdistinct : (entries.map Prod.fst).Nodup) (h : (i, a) ∈ entries) :
    cells.read (cells.writeAll b entries) i = cells.combine (cells.read b i) a := by
  induction entries generalizing b with
  | nil => cases h
  | cons entry rest ih =>
    obtain ⟨hinside, hfits⟩ := hentries entry List.mem_cons_self
    rw [List.map_cons, List.nodup_cons] at hdistinct
    have hrest : ∀ other ∈ rest, cells.inside (cells.write b entry.1 entry.2) other.1 ∧ cells.fits other.2 := fun other hother =>
      ⟨cells.inside_write (hentries other (List.mem_cons_of_mem _ hother)).1, (hentries other (List.mem_cons_of_mem _ hother)).2⟩
    obtain rfl | hmem := List.mem_cons.mp h
    · -- no later entry names the cell
      calc cells.read (cells.writeAll (cells.write b i a) rest) i
          = cells.read (cells.write b i a) i := read_writeAll_of_notMem (cells.inside_write hinside) hrest hdistinct.1
        _ = cells.combine (cells.read b i) a := cells.read_write_self hinside hfits
    · have hi := hentries (i, a) h
      have hne : entry.1 ≠ i := by
        rintro rfl
        exact hdistinct.1 (List.mem_map.mpr ⟨(entry.1, a), hmem, rfl⟩)
      calc cells.read (cells.writeAll (cells.write b entry.1 entry.2) rest) i
          = cells.combine (cells.read (cells.write b entry.1 entry.2) i) a := ih hrest hdistinct.2 hmem
        _ = cells.combine (cells.read b i) a := by rw [cells.read_write_ne hne hinside hi.1 hfits]

/-- A checked loop whose turns each write a cell. -/
theorem foldlM_eq_writeAll {γ ε : Type} {f : β → γ → Except ε β} {entry : γ → ι × α} {I : β → Prop} {items : List γ}
    (hstep : ∀ b, I b → ∀ c ∈ items, f b c = .ok (cells.write b (entry c).1 (entry c).2) ∧
      I (cells.write b (entry c).1 (entry c).2)) (hb : I b) :
    items.foldlM f b = .ok (cells.writeAll b (items.map entry)) ∧ I (cells.writeAll b (items.map entry)) := by
  induction items generalizing b with
  | nil => exact ⟨rfl, hb⟩
  | cons c rest ih =>
    obtain ⟨hf, hI⟩ := hstep b hb c List.mem_cons_self
    rw [List.foldlM_cons, hf]
    exact ih (fun b hb other hother => hstep b hb other (List.mem_cons_of_mem _ hother)) hI

end Cells

/-! ### Fields of a byte -/

namespace Fields

/-- The field of `width` bits that starts at the bit `shift`. -/
def get (width shift value : Nat) : Nat := (value >>> shift) % 2 ^ width

variable {width shift other value field : Nat}

lemma get_lor_self (h : field < 2 ^ width) : get width shift (value ||| field <<< shift) = get width shift value ||| field := by
  apply Nat.eq_of_testBit_eq
  intro i
  unfold get
  simp only [Nat.testBit_mod_two_pow, Nat.testBit_shiftRight, Nat.testBit_or, Nat.testBit_shiftLeft]
  by_cases hi : i < width
  · simp [hi]
  · have hhigh : field.testBit i = false :=
      Nat.testBit_lt_two_pow (lt_of_lt_of_le h (Nat.pow_le_pow_right two_pos (not_lt.mp hi)))
    simp [hi, hhigh]

/-- Fields that do not overlap do not change each other. -/
lemma get_lor_of_apart (h : field < 2 ^ width) (hapart : shift + width ≤ other ∨ other + width ≤ shift) :
    get width other (value ||| field <<< shift) = get width other value := by
  apply Nat.eq_of_testBit_eq
  intro i
  unfold get
  simp only [Nat.testBit_mod_two_pow, Nat.testBit_shiftRight, Nat.testBit_or, Nat.testBit_shiftLeft]
  by_cases hi : i < width
  · obtain hafter | hbefore := hapart
    · have hhigh : field.testBit (other + i - shift) = false :=
        Nat.testBit_lt_two_pow (lt_of_lt_of_le h (Nat.pow_le_pow_right two_pos (by omega)))
      simp [hhigh]
    · have hlow : ¬ shift ≤ other + i := by omega
      simp [hlow]
  · simp [hi]

lemma lor_shiftLeft_lt {bits : Nat} (hvalue : value < 2 ^ bits) (hfield : field < 2 ^ width) (hshift : shift + width ≤ bits) :
    value ||| field <<< shift < 2 ^ bits := by
  apply Nat.or_lt_two_pow hvalue
  rw [Nat.shiftLeft_eq]
  calc field * 2 ^ shift < 2 ^ width * 2 ^ shift := Nat.mul_lt_mul_of_pos_right hfield (Nat.two_pow_pos shift)
    _ = 2 ^ (shift + width) := by rw [← pow_add, Nat.add_comm]
    _ ≤ 2 ^ bits := Nat.pow_le_pow_right two_pos hshift

/-- The shift of a field in its byte, the first field highest. -/
def shiftOf (width perByte i : Nat) : Nat := width * (perByte - 1 - i % perByte)

lemma shiftOf_apart {perByte i j : Nat} (hperByte : 0 < perByte) (hsame : i / perByte = j / perByte) (hne : i ≠ j) :
    shiftOf width perByte i + width ≤ shiftOf width perByte j ∨ shiftOf width perByte j + width ≤ shiftOf width perByte i := by
  have hi := Nat.mod_lt i hperByte
  have hj := Nat.mod_lt j hperByte
  have hmod : i % perByte ≠ j % perByte := fun hmod => hne (by rw [← Nat.div_add_mod i perByte, hsame, hmod, Nat.div_add_mod])
  unfold shiftOf
  obtain hlt | hlt := Nat.lt_or_gt_of_ne hmod
  · right
    rw [← Nat.mul_succ]
    exact Nat.mul_le_mul_left width (by omega)
  · left
    rw [← Nat.mul_succ]
    exact Nat.mul_le_mul_left width (by omega)

/-- The `i`th field of a list of bytes, `perByte` in each. -/
def read (width perByte : Nat) (bytes : List Nat) (i : Nat) : Nat :=
  get width (shiftOf width perByte i) (bytes.getD (i / perByte) 0)

/-- The fields of a list of bytes as cells that a write adds its bits to. -/
def cells (width perByte : Nat) (hperByte : 0 < perByte) : Cells (List Nat) Nat Nat where
  inside bytes i := i / perByte < bytes.length
  fits field := field < 2 ^ width
  combine := (· ||| ·)
  read := read width perByte
  write bytes i field :=
    bytes.set (i / perByte) (bytes.getD (i / perByte) 0 ||| field <<< shiftOf width perByte i)
  inside_write h := by rwa [List.length_set]
  read_write_self hinside hfits := by
    unfold read
    rw [List.getD_eq_getElem?_getD, List.getElem?_set_self hinside, Option.getD_some, get_lor_self hfits]
  read_write_ne {bytes i j field} hne hi hj hfits := by
    unfold read
    by_cases hsame : i / perByte = j / perByte
    · rw [← hsame, List.getD_eq_getElem?_getD, List.getElem?_set_self hi, Option.getD_some]
      exact get_lor_of_apart hfits (shiftOf_apart hperByte hsame hne)
    · rw [List.getD_eq_getElem?_getD, List.getElem?_set_ne hsame, ← List.getD_eq_getElem?_getD]

end Fields
