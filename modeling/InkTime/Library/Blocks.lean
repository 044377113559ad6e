import Mathlib.Tactic

/-!
# Lists in blocks of one length

A list as a table of rows, and a buffer that is filled from its start.
-/

namespace Blocks

variable {α ι : Type}

def block (size : Nat) (items : List α) (index : Nat) : List α := (items.drop (index * size)).take size

lemma length_block {size count index : Nat} {items : List α} (h : items.length = count * size) (hindex : index < count) :
    (block size items index).length = size := by
  have hlast : (index + 1) * size ≤ count * size := Nat.mul_le_mul_right size hindex
  rw [add_mul, one_mul] at hlast
  rw [block, List.length_take, List.length_drop]
  omega

lemma flatMap_block_take (size count : Nat) (items : List α) :
    (List.range count).flatMap (block size items) = items.take (count * size) := by
  induction count with
  | zero => simp
  | succ count ih =>
    rw [List.range_succ, List.flatMap_append, ih, List.flatMap_singleton, block, ← List.take_add, add_mul, one_mul]

/-- The blocks of a list make it up. -/
lemma flatMap_block {size count : Nat} {items : List α} (h : items.length = count * size) :
    (List.range count).flatMap (block size items) = items := by
  rw [flatMap_block_take, ← h, List.take_length]

/-- A list made of blocks has them as its blocks. -/
lemma block_flatMap {size : Nat} {row : ι → List α} {rows : List ι} (h : ∀ index ∈ rows, (row index).length = size)
    {position : Nat} (hposition : position < rows.length) :
    block size (rows.flatMap row) position = row rows[position] := by
  induction rows generalizing position with
  | nil => exact absurd hposition (Nat.not_lt_zero _)
  | cons first rows ih =>
    have hfirst := h first List.mem_cons_self
    cases position with
    | zero =>
      rw [block, zero_mul, List.drop_zero, List.flatMap_cons, ← hfirst, List.take_left']
      · rfl
      · rfl
    | succ position =>
      have hdrop : (row first ++ rows.flatMap row).drop ((position + 1) * size) = (rows.flatMap row).drop (position * size) := by
        rw [add_mul, one_mul, add_comm, ← List.drop_drop, ← hfirst, List.drop_left']
        rfl
      rw [block, List.flatMap_cons, hdrop]
      exact ih (fun index hindex => h index (List.mem_cons_of_mem first hindex)) (Nat.lt_of_succ_lt_succ hposition)

/-- `buffer[start:start+len(items)] = items` -/
def splice (buffer : List α) (start : Nat) (items : List α) : List α :=
  buffer.take start ++ items ++ buffer.drop (start + items.length)

/-- Writing where the filled part ends fills the next places. -/
lemma splice_filled {filled items : List α} {blank : α} {room : Nat} :
    splice (filled ++ List.replicate room blank) filled.length items =
      filled ++ items ++ List.replicate (room - items.length) blank := by
  rw [splice, List.take_left', ← List.drop_drop, List.drop_left', List.drop_replicate]
  · rfl
  · rfl

end Blocks
