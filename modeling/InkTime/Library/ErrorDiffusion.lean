import Mathlib.Tactic

/-!
# Error diffusion on a grid

A sweep visits the cells of a grid row by row, a row from the left or from the right. Each cell, when it is visited, gives to
four cells that come later: to the one ahead of it, and to three of the next row. What a cell holds when it is visited
satisfies a recursion: what it held at first, changed by the cells before it in the order of the sweep.
-/

namespace ErrorDiffusion

variable {V : Type}

structure Kernel (V : Type) where
  width : Nat
  height : Nat
  /-- Rows that are visited from the right. -/
  leftward : Nat → Bool
  /-- Cells that give and take. -/
  opened : Nat → Nat → Bool
  /-- What a cell becomes by what another gives it with a weight. -/
  give : Nat → V → V → V

/-- The cells and what each held when it was visited. -/
structure Sweep (V : Type) where
  cells : Nat → Nat → V
  seen : Nat → Nat → Option V

def setCell (cells : Nat → Nat → V) (x y : Nat) (value : V) : Nat → Nat → V :=
  fun x' y' => if x' = x ∧ y' = y then value else cells x' y'

namespace Kernel

variable (kernel : Kernel V)

/-- The next column in the order of a row. -/
def ahead (y x : Nat) : Option Nat :=
  if kernel.leftward y then if 0 < x then some (x - 1) else none
  else if x + 1 < kernel.width then some (x + 1) else none

/-- The column before in the order of a row. -/
def behind (y x : Nat) : Option Nat :=
  if kernel.leftward y then if x + 1 < kernel.width then some (x + 1) else none
  else if 0 < x then some (x - 1) else none

def push (weight : Nat) (source : V) (target : Option Nat) (y : Nat) (cells : Nat → Nat → V) : Nat → Nat → V :=
  match target with
  | none => cells
  | some x =>
    if y < kernel.height && kernel.opened x y then setCell cells x y (kernel.give weight source (cells x y)) else cells

def spread (y x : Nat) (cells : Nat → Nat → V) : Nat → Nat → V :=
  if kernel.opened x y then
    kernel.push 1 (cells x y) (kernel.ahead y x) (y + 1) <| kernel.push 5 (cells x y) (some x) (y + 1) <|
      kernel.push 3 (cells x y) (kernel.behind y x) (y + 1) <| kernel.push 7 (cells x y) (kernel.ahead y x) y cells
  else cells

def visit (y : Nat) (sweep : Sweep V) (x : Nat) : Sweep V :=
  ⟨kernel.spread y x sweep.cells, fun x' y' => if x' = x ∧ y' = y then some (sweep.cells x y) else sweep.seen x' y'⟩

def columns (y : Nat) : List Nat := if kernel.leftward y then (List.range kernel.width).reverse else List.range kernel.width

def sweepRow (sweep : Sweep V) (y : Nat) : Sweep V := (kernel.columns y).foldl (kernel.visit y) sweep

def run (source : Nat → Nat → V) : Sweep V := (List.range kernel.height).foldl kernel.sweepRow ⟨source, fun _ _ => none⟩

/-! ### The recursion -/

/-- What a cell takes from a column of a row. -/
def takeFrom (weight : Nat) (row : Nat) (column : Option Nat) (values : Nat → Nat → V) (x y : Nat) (held : V) : V :=
  match column with
  | none => held
  | some column => if kernel.opened column row && kernel.opened x y then kernel.give weight (values column row) held else held

/-- What a cell holds when its row begins: the cells of the row above have given to it, in their order. -/
def begun (source values : Nat → Nat → V) (x : Nat) : Nat → V
  | 0 => source x 0
  | y + 1 => kernel.takeFrom 3 y (kernel.ahead y x) values x (y + 1) <| kernel.takeFrom 5 y (some x) values x (y + 1) <|
      kernel.takeFrom 1 y (kernel.behind y x) values x (y + 1) (source x (y + 1))

/-- Values that satisfy the recursion: a cell takes from the row above, and then from the cell before it. -/
def IsDiffused (source values : Nat → Nat → V) : Prop :=
  ∀ y < kernel.height, ∀ x < kernel.width,
    values x y = kernel.takeFrom 7 y (kernel.behind y x) values x y (kernel.begun source values x y)

/-- A cell that is not open takes nothing. -/
lemma IsDiffused.closed {kernel : Kernel V} {source values : Nat → Nat → V} (h : kernel.IsDiffused source values) {x y : Nat}
    (hx : x < kernel.width) (hy : y < kernel.height) (hclosed : kernel.opened x y = false) : values x y = source x y := by
  have hkeeps : ∀ weight row column held, kernel.takeFrom weight row column values x y held = held := by
    intro weight row column held
    unfold takeFrom
    cases column with
    | none => rfl
    | some column => simp [hclosed]
  rw [h y hy x hx, hkeeps]
  cases y with
  | zero => rfl
  | succ y => simp only [begun, hkeeps]

/-! ### Places in a row -/

/-- The column at a place in the order of a row. -/
def place (y j : Nat) : Nat := if kernel.leftward y then kernel.width - 1 - j else j

variable {kernel} {y j x : Nat}

lemma place_lt (hj : j < kernel.width) : kernel.place y j < kernel.width := by
  unfold place
  split
  · omega
  · omega

lemma place_place (hj : j < kernel.width) : kernel.place y (kernel.place y j) = j := by
  unfold place
  split
  · omega
  · rfl

lemma place_inj {i : Nat} (hi : i < kernel.width) (hj : j < kernel.width) : kernel.place y i = kernel.place y j ↔ i = j := by
  constructor
  · intro h
    rw [← place_place hi, h, place_place hj]
  · exact fun h => congrArg _ h

lemma ahead_place (hj : j < kernel.width) :
    kernel.ahead y (kernel.place y j) = if j + 1 < kernel.width then some (kernel.place y (j + 1)) else none := by
  unfold ahead place
  by_cases hleft : kernel.leftward y = true
  · simp only [hleft, if_true]
    by_cases hlast : j + 1 < kernel.width
    · rw [if_pos hlast, if_pos (by omega), Nat.sub_sub]
    · rw [if_neg hlast, if_neg (by omega)]
  · simp only [hleft, if_false, Bool.false_eq_true]

lemma behind_place (hj : j < kernel.width) :
    kernel.behind y (kernel.place y j) = if 0 < j then some (kernel.place y (j - 1)) else none := by
  unfold behind place
  by_cases hleft : kernel.leftward y = true
  · simp only [hleft, if_true]
    by_cases hfirst : 0 < j
    · rw [if_pos hfirst, if_pos (by omega)]
      congr 1
      omega
    · rw [if_neg hfirst, if_neg (by omega)]
  · simp only [hleft, if_false, Bool.false_eq_true]

lemma ahead_lt (hx : x < kernel.width) : ∀ column ∈ kernel.ahead y x, column < kernel.width := by
  intro column hcolumn
  unfold ahead at hcolumn
  split_ifs at hcolumn
  · obtain rfl := Option.some.inj hcolumn
    omega
  · cases hcolumn
  · obtain rfl := Option.some.inj hcolumn
    omega
  · cases hcolumn

lemma behind_lt (hx : x < kernel.width) : ∀ column ∈ kernel.behind y x, column < kernel.width := by
  intro column hcolumn
  unfold behind at hcolumn
  split_ifs at hcolumn
  · obtain rfl := Option.some.inj hcolumn
    omega
  · cases hcolumn
  · obtain rfl := Option.some.inj hcolumn
    omega
  · cases hcolumn

lemma columns_eq (y : Nat) : kernel.columns y = (List.range kernel.width).map (kernel.place y) := by
  unfold columns place
  by_cases hleft : kernel.leftward y = true
  · simp only [hleft, if_true]
    apply List.ext_getElem
    · simp
    · intro i hi hi'
      simp only [List.getElem_reverse, List.getElem_range, List.length_range, List.getElem_map]
  · simp only [hleft, if_false, Bool.false_eq_true, List.map_id']

/-! ### What one visit does -/

lemma push_apply {weight : Nat} {given : V} {target : Option Nat} {row x' y' : Nat} {cells : Nat → Nat → V} :
    kernel.push weight given target row cells x' y' =
      if target = some x' ∧ row = y' ∧ y' < kernel.height ∧ kernel.opened x' y' = true then kernel.give weight given (cells x' y')
      else cells x' y' := by
  unfold push
  cases target with
  | none => rw [if_neg (by simp)]
  | some column =>
    dsimp only
    by_cases hhere : x' = column ∧ y' = row
    · obtain ⟨rfl, rfl⟩ := hhere
      by_cases hopen : y' < kernel.height ∧ kernel.opened x' y' = true
      · rw [if_pos (by simpa using hopen), if_pos ⟨rfl, rfl, hopen⟩]
        unfold setCell
        rw [if_pos ⟨rfl, rfl⟩]
      · rw [if_neg (by simpa using hopen), if_neg (by simpa using hopen)]
    · have hnot : ¬ (some column = some x' ∧ row = y' ∧ y' < kernel.height ∧ kernel.opened x' y' = true) := by
        rintro ⟨hcolumn, rfl, -⟩
        exact hhere ⟨(Option.some.inj hcolumn).symm, rfl⟩
      rw [if_neg hnot]
      split
      · unfold setCell
        rw [if_neg hhere]
      · rfl

/-- A visit changes, in its own row, the cell ahead. -/
lemma spread_row {cells : Nat → Nat → V} {k i : Nat} (hk : k < kernel.width) (hi : i < kernel.width) (hy : y < kernel.height) :
    kernel.spread y (kernel.place y k) cells (kernel.place y i) y =
      if i = k + 1 then kernel.takeFrom 7 y (some (kernel.place y k)) cells (kernel.place y i) y (cells (kernel.place y i) y)
      else cells (kernel.place y i) y := by
  unfold spread
  by_cases hopen : kernel.opened (kernel.place y k) y = true
  · rw [if_pos hopen]
    rw [push_apply, if_neg (by omega), push_apply, if_neg (by omega), push_apply, if_neg (by omega), push_apply, ahead_place hk]
    unfold takeFrom
    dsimp only
    rw [hopen, Bool.true_and]
    by_cases hnext : i = k + 1
    · subst hnext
      rw [if_pos hi, if_pos rfl]
      congr 1
      simp [hy]
    · rw [if_neg hnext, if_neg]
      rintro ⟨hsome, -⟩
      split at hsome
      · next hlt => exact hnext ((place_inj hlt hi).mp (Option.some.inj hsome)).symm
      · cases hsome
  · rw [if_neg hopen]
    unfold takeFrom
    simp [hopen]

/-- In the row below, it changes the cells behind, beneath and ahead. -/
lemma spread_below {cells : Nat → Nat → V} {k i : Nat} (hk : k < kernel.width) (hi : i < kernel.width) (hy : y + 1 < kernel.height) :
    kernel.spread y (kernel.place y k) cells (kernel.place y i) (y + 1) =
      if i + 1 = k then kernel.takeFrom 3 y (some (kernel.place y k)) cells (kernel.place y i) (y + 1) (cells (kernel.place y i) (y + 1))
      else if i = k then kernel.takeFrom 5 y (some (kernel.place y k)) cells (kernel.place y i) (y + 1) (cells (kernel.place y i) (y + 1))
      else if i = k + 1 then
        kernel.takeFrom 1 y (some (kernel.place y k)) cells (kernel.place y i) (y + 1) (cells (kernel.place y i) (y + 1))
      else cells (kernel.place y i) (y + 1) := by
  have hahead : kernel.ahead y (kernel.place y k) = some (kernel.place y i) ↔ i = k + 1 := by
    rw [ahead_place hk]
    split
    · next hlt => rw [Option.some_inj, place_inj hlt hi, eq_comm]
    · next hlt =>
      constructor
      · exact fun h => nomatch h
      · omega
  have hbehind : kernel.behind y (kernel.place y k) = some (kernel.place y i) ↔ i + 1 = k := by
    rw [behind_place hk]
    split
    · next hlt =>
      rw [Option.some_inj, place_inj (by omega) hi]
      omega
    · next hlt =>
      constructor
      · exact fun h => nomatch h
      · omega
  have hbeneath : some (kernel.place y k) = some (kernel.place y i) ↔ i = k := by
    rw [Option.some_inj, place_inj hk hi, eq_comm]
  unfold spread
  by_cases hopen : kernel.opened (kernel.place y k) y = true
  · rw [if_pos hopen]
    simp only [push_apply, hahead, hbehind, hbeneath, hy, true_and, takeFrom, hopen, Bool.true_and]
    by_cases hback : i + 1 = k
    · simp [hback, show ¬ i = k by omega, show ¬ i = k + 1 by omega]
    · by_cases hsame : i = k
      · simp [hsame]
      · by_cases hnext : i = k + 1
        · simp [hnext, show ¬ k + 1 + 1 = k by omega]
        · simp [hback, hsame, hnext]
  · rw [if_neg hopen]
    simp [takeFrom, hopen]

/-- Two rows below, it changes nothing. -/
lemma spread_later {cells : Nat → Nat → V} {row x' y' : Nat} (h : row + 1 < y') : kernel.spread row x cells x' y' = cells x' y' := by
  unfold spread
  split
  · rw [push_apply, if_neg (by omega), push_apply, if_neg (by omega), push_apply, if_neg (by omega), push_apply, if_neg (by omega)]
  · rfl

/-! ### Rows -/

/-- A cell of the row below, after `k` cells of a row have given: what the cells behind, above and ahead of it give, in this order. -/
def belowAt (kernel : Kernel V) (source values : Nat → Nat → V) (y k i : Nat) : V :=
  let x := kernel.place y i
  let one := if i ≤ k then kernel.takeFrom 1 y (kernel.behind y x) values x (y + 1) (source x (y + 1)) else source x (y + 1)
  let five := if i < k then kernel.takeFrom 5 y (some x) values x (y + 1) one else one
  if i + 1 < k then kernel.takeFrom 3 y (kernel.ahead y x) values x (y + 1) five else five

/-- A sweep that has visited the rows above a row and `k` cells of it, where `values` satisfies the recursion. -/
structure Reached (kernel : Kernel V) (source values : Nat → Nat → V) (y k : Nat) (sweep : Sweep V) : Prop where
  seen : ∀ y' < kernel.height, ∀ i < kernel.width, y' < y ∨ (y' = y ∧ i < k) →
    sweep.seen (kernel.place y' i) y' = some (values (kernel.place y' i) y')
  row : y < kernel.height → ∀ i < kernel.width, k ≤ i → sweep.cells (kernel.place y i) y =
    if i = k then kernel.takeFrom 7 y (kernel.behind y (kernel.place y i)) values (kernel.place y i) y
      (kernel.begun source values (kernel.place y i) y)
    else kernel.begun source values (kernel.place y i) y
  below : y + 1 < kernel.height → ∀ i < kernel.width, sweep.cells (kernel.place y i) (y + 1) = belowAt kernel source values y k i
  later : ∀ x y', y + 1 < y' → sweep.cells x y' = source x y'

variable {source values : Nat → Nat → V} {sweep : Sweep V} {k : Nat}

lemma takeFrom_congr {weight row : Nat} {column : Option Nat} {values values' : Nat → Nat → V} {x y : Nat} {held : V}
    (h : ∀ column' ∈ column, values column' row = values' column' row) :
    kernel.takeFrom weight row column values x y held = kernel.takeFrom weight row column values' x y held := by
  unfold takeFrom
  cases column with
  | none => rfl
  | some column =>
    dsimp only
    rw [h column rfl]

lemma belowAt_succ {i : Nat} (hk : k < kernel.width) (hi : i < kernel.width) :
    belowAt kernel source values y (k + 1) i =
      if i + 1 = k then kernel.takeFrom 3 y (some (kernel.place y k)) values (kernel.place y i) (y + 1) (belowAt kernel source values y k i)
      else if i = k then kernel.takeFrom 5 y (some (kernel.place y k)) values (kernel.place y i) (y + 1)
        (belowAt kernel source values y k i)
      else if i = k + 1 then
        kernel.takeFrom 1 y (some (kernel.place y k)) values (kernel.place y i) (y + 1) (belowAt kernel source values y k i)
      else belowAt kernel source values y k i := by
  unfold belowAt
  dsimp only
  by_cases hback : i + 1 = k
  · subst hback
    rw [ahead_place hi]
    simp [hk, show i ≤ i + 1 + 1 by omega]
  · by_cases hsame : i = k
    · subst hsame
      simp
    · by_cases hnext : i = k + 1
      · subst hnext
        rw [behind_place hi]
        simp [show ¬ k + 1 + 1 = k by omega, show ¬ k + 1 + 1 < k by omega]
      · rw [if_neg hback, if_neg hsame, if_neg hnext]
        have h1 : i ≤ k + 1 ↔ i ≤ k := by omega
        have h2 : i < k + 1 ↔ i < k := by omega
        have h3 : i + 1 < k + 1 ↔ i + 1 < k := by omega
        simp only [h1, h2, h3]

/-- The cell to be visited next holds its value. -/
lemma Reached.at_place (hvalues : kernel.IsDiffused source values) (h : Reached kernel source values y k sweep) (hk : k < kernel.width)
    (hy : y < kernel.height) : sweep.cells (kernel.place y k) y = values (kernel.place y k) y := by
  rw [h.row hy k hk (le_refl k), if_pos rfl, ← hvalues y hy _ (place_lt hk)]

/-- A visit goes one cell further. -/
theorem Reached.visit (hvalues : kernel.IsDiffused source values) (h : Reached kernel source values y k sweep) (hk : k < kernel.width)
    (hy : y < kernel.height) : Reached kernel source values y (k + 1) (kernel.visit y sweep (kernel.place y k)) := by
  have hgiver := h.at_place hvalues hk hy
  have hgives : ∀ {weight row : Nat} {x : Nat} {held : V},
      kernel.takeFrom weight y (some (kernel.place y k)) sweep.cells x row held =
        kernel.takeFrom weight y (some (kernel.place y k)) values x row held :=
    takeFrom_congr (by rintro column ⟨⟩; exact hgiver)
  constructor
  · intro y' hy' i hi hvisited
    change (if kernel.place y' i = kernel.place y k ∧ y' = y then some (sweep.cells (kernel.place y k) y)
      else sweep.seen (kernel.place y' i) y') = _
    by_cases hhere : kernel.place y' i = kernel.place y k ∧ y' = y
    · rw [if_pos hhere, hgiver, hhere.1, hhere.2]
    · rw [if_neg hhere]
      apply h.seen y' hy' i hi
      obtain hbefore | ⟨rfl, hle⟩ := hvisited
      · exact Or.inl hbefore
      · right
        have : i ≠ k := fun heq => hhere ⟨by rw [heq], rfl⟩
        omega
  · intro _ i hi hle
    change kernel.spread y (kernel.place y k) sweep.cells (kernel.place y i) y = _
    rw [spread_row hk hi hy]
    have hcell := h.row hy i hi (by omega)
    rw [if_neg (by omega : ¬ i = k)] at hcell
    by_cases hnext : i = k + 1
    · rw [if_pos hnext, if_pos hnext, hgives, hcell]
      subst hnext
      rw [behind_place hi, if_pos (Nat.succ_pos k), Nat.add_sub_cancel]
    · rw [if_neg hnext, if_neg hnext, hcell]
  · intro hbelow i hi
    change kernel.spread y (kernel.place y k) sweep.cells (kernel.place y i) (y + 1) = _
    rw [spread_below hk hi hbelow, belowAt_succ hk hi, h.below hbelow i hi]
    simp only [hgives]
  · intro x y' hlater
    exact (spread_later hlater).trans (h.later x y' hlater)

/-- A row that is done begins the next. -/
lemma Reached.next (h : Reached kernel source values y kernel.width sweep) : Reached kernel source values (y + 1) 0 sweep := by
  have hbegun : y + 1 < kernel.height → ∀ x < kernel.width, sweep.cells x (y + 1) = kernel.begun source values x (y + 1) := by
    intro hy x hx
    have hcell := h.below hy (kernel.place y x) (place_lt hx)
    rw [place_place hx] at hcell
    rw [hcell]
    unfold belowAt begun
    dsimp only
    rw [place_place hx, if_pos (le_of_lt (place_lt hx)), if_pos (place_lt hx)]
    split
    · rfl
    · next hlast =>
      have hahead : kernel.ahead y x = none := by
        have := ahead_place (y := y) (place_lt (y := y) hx)
        rw [place_place hx, if_neg hlast] at this
        exact this
      rw [hahead]
      rfl
  constructor
  · intro y' hy' i hi hvisited
    apply h.seen y' hy' i hi
    omega
  · intro hy i hi _
    rw [hbegun hy _ (place_lt hi)]
    by_cases hfirst : i = 0
    · rw [if_pos hfirst]
      subst hfirst
      rw [behind_place hi, if_neg (lt_irrefl 0)]
      rfl
    · rw [if_neg hfirst]
  · intro hy i hi
    rw [h.later _ _ (by omega)]
    unfold belowAt
    dsimp only
    rw [if_neg (Nat.not_lt_zero _), if_neg (Nat.not_lt_zero _)]
    split
    · next hfirst =>
      obtain rfl := Nat.le_zero.mp hfirst
      rw [behind_place hi, if_neg (lt_irrefl 0)]
      rfl
    · rfl
  · intro x y' hlater
    exact h.later x y' (by omega)

/-- Whole rows. -/
lemma Reached.sweepRow (hvalues : kernel.IsDiffused source values) (h : Reached kernel source values y 0 sweep) (hy : y < kernel.height) :
    Reached kernel source values (y + 1) 0 (kernel.sweepRow sweep y) := by
  have hsteps : ∀ k ≤ kernel.width,
      Reached kernel source values y k (((List.range k).map (kernel.place y)).foldl (kernel.visit y) sweep) := by
    intro k
    induction k with
    | zero => exact fun _ => h
    | succ k ih =>
      intro hk
      rw [List.range_succ, List.map_append, List.foldl_append]
      exact (ih (by omega)).visit hvalues (by omega) hy
  unfold Kernel.sweepRow
  rw [columns_eq]
  exact (hsteps kernel.width (le_refl _)).next

/-- What a run sees in each cell are the values of the recursion, so that it has one solution only. -/
theorem run_seen (hvalues : kernel.IsDiffused source values) {x y : Nat} (hx : x < kernel.width) (hy : y < kernel.height) :
    (kernel.run source).seen x y = some (values x y) := by
  have hrows : ∀ rows ≤ kernel.height, Reached kernel source values rows 0
      ((List.range rows).foldl kernel.sweepRow ⟨source, fun _ _ => none⟩) := by
    intro rows
    induction rows with
    | zero =>
      intro _
      constructor
      · intro y' _ i _ hvisited
        omega
      · intro _ i hi _
        split
        · next hfirst =>
          subst hfirst
          rw [behind_place hi, if_neg (lt_irrefl 0)]
          rfl
        · rfl
      · intro _ i hi
        unfold belowAt
        dsimp only
        rw [if_neg (Nat.not_lt_zero _), if_neg (Nat.not_lt_zero _)]
        split
        · next hfirst =>
          obtain rfl := Nat.le_zero.mp hfirst
          rw [behind_place hi, if_neg (lt_irrefl 0)]
          rfl
        · rfl
      · exact fun _ _ _ => rfl
    | succ rows ih =>
      intro hrows
      rw [List.range_succ, List.foldl_append]
      exact (ih (by omega)).sweepRow hvalues (by omega)
  have hseen := (hrows kernel.height (le_refl _)).seen y hy (kernel.place y x) (place_lt hx) (Or.inl hy)
  rwa [place_place hx] at hseen

/-! ### The solution -/

/-- The values of a row by their places in it. -/
def along (kernel : Kernel V) (y : Nat) (begun : Nat → V) : Nat → V
  | 0 => begun (kernel.place y 0)
  | j + 1 =>
    if kernel.opened (kernel.place y j) y && kernel.opened (kernel.place y (j + 1)) y then
      kernel.give 7 (along kernel y begun j) (begun (kernel.place y (j + 1)))
    else begun (kernel.place y (j + 1))

/-- The values of a row by their columns. -/
def diffusedRow (kernel : Kernel V) (source : Nat → Nat → V) : Nat → Nat → V
  | 0, x => along kernel 0 (fun x' => source x' 0) (kernel.place 0 x)
  | y + 1, x => along kernel (y + 1) (fun x' => kernel.begun source (fun column _ => diffusedRow kernel source y column) x' (y + 1))
    (kernel.place (y + 1) x)

def diffused (kernel : Kernel V) (source : Nat → Nat → V) (x y : Nat) : V := diffusedRow kernel source y x

lemma along_place {begun : Nat → V} {values : Nat → Nat → V} (hx : x < kernel.width)
    (hvalues : ∀ x', values x' y = along kernel y begun (kernel.place y x')) :
    along kernel y begun (kernel.place y x) = kernel.takeFrom 7 y (kernel.behind y x) values x y (begun x) := by
  obtain ⟨j, hj, rfl⟩ : ∃ j < kernel.width, kernel.place y j = x := ⟨kernel.place y x, place_lt hx, place_place hx⟩
  rw [place_place hj, behind_place hj]
  cases j with
  | zero =>
    rw [if_neg (lt_irrefl 0)]
    rfl
  | succ j =>
    rw [if_pos (Nat.succ_pos j), Nat.add_sub_cancel, along]
    unfold takeFrom
    dsimp only
    rw [hvalues, place_place (by omega)]

/-- The recursion has a solution. -/
theorem isDiffused_diffused (kernel : Kernel V) (source : Nat → Nat → V) : kernel.IsDiffused source (diffused kernel source) := by
  intro y hy x hx
  cases y with
  | zero => exact along_place hx fun x' => rfl
  | succ y => exact along_place hx fun x' => rfl

end Kernel

end ErrorDiffusion
