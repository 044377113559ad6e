import InkTime.Rendering.Pixels

/-!
# The nearest color

The first of some colors that is nearest to a color, and the diffusion of what the nearest misses. A loop over the bytes of
an image that does at each pixel what the diffusion does there computes its recursion.
-/

namespace InkTime.Rendering

open ErrorDiffusion (Kernel Sweep setCell)

/-! ### The first least -/

/-- The first of `count` indexes with the least cost. -/
def IsFirstLeast (cost : Nat → ℤ) (count index : Nat) : Prop :=
  index < count ∧ (∀ i < count, cost index ≤ cost i) ∧ ∀ i < index, cost index < cost i

lemma IsFirstLeast.unique {cost : Nat → ℤ} {count i j : Nat} (hi : IsFirstLeast cost count i) (hj : IsFirstLeast cost count j) : i = j := by
  obtain ⟨hi, hileast, hifirst⟩ := hi
  obtain ⟨hj, hjleast, hjfirst⟩ := hj
  obtain hlt | rfl | hlt := lt_trichotomy i j
  · have := hjfirst i hlt
    have := hileast j hj
    omega
  · rfl
  · have := hifirst j hlt
    have := hjleast i hi
    omega

/-- One comparison keeps the first least of the costs that were compared. -/
lemma IsFirstLeast.step {cost : Nat → ℤ} {count index : Nat} (h : IsFirstLeast cost count index) :
    IsFirstLeast cost (count + 1) (if cost count < cost index then count else index) := by
  obtain ⟨hindex, hleast, hfirst⟩ := h
  by_cases hlt : cost count < cost index
  · rw [if_pos hlt]
    refine ⟨Nat.lt_succ_self count, fun i hi => ?_, fun i hi => ?_⟩
    · obtain hi | rfl := Nat.lt_succ_iff_lt_or_eq.mp hi
      · have := hleast i hi
        omega
      · exact le_refl _
    · have := hleast i hi
      omega
  · rw [if_neg hlt]
    refine ⟨by omega, fun i hi => ?_, hfirst⟩
    obtain hi | rfl := Nat.lt_succ_iff_lt_or_eq.mp hi
    · exact hleast i hi
    · omega

lemma IsFirstLeast.shift {cost cost' : Nat → ℤ} {count index : Nat} {common : ℤ} (h : IsFirstLeast cost count index)
    (hshift : ∀ i < count, cost' i = common + cost i) : IsFirstLeast cost' count index := by
  obtain ⟨hlt, hleast, hfirst⟩ := h
  refine ⟨hlt, fun i hi => ?_, fun i hi => ?_⟩
  · rw [hshift index hlt, hshift i hi]
    have := hleast i hi
    omega
  · rw [hshift index hlt, hshift i (lt_trans hi hlt)]
    have := hfirst i hi
    omega

def firstLeast (cost : Nat → ℤ) (count : Nat) : Nat :=
  (List.range count).foldl (fun best i => if cost i < cost best then i else best) 0

lemma firstLeast_succ (cost : Nat → ℤ) (count : Nat) : firstLeast cost (count + 1) =
    if cost count < cost (firstLeast cost count) then count else firstLeast cost count := by
  unfold firstLeast
  rw [List.range_succ, List.foldl_append]
  rfl

lemma firstLeast_spec {cost : Nat → ℤ} {count : Nat} (h : 0 < count) : IsFirstLeast cost count (firstLeast cost count) := by
  induction count with
  | zero => exact absurd h (lt_irrefl 0)
  | succ count ih =>
    obtain rfl | hcount := Nat.eq_zero_or_pos count
    · refine ⟨by simp [firstLeast], fun i hi => ?_, fun i hi => ?_⟩
      · obtain rfl := Nat.lt_one_iff.mp hi
        simp [firstLeast]
      · simp [firstLeast] at hi
    · rw [firstLeast_succ]
      exact (ih hcount).step

/-! ### Distances -/

def squaredDistance (rgb color : Rgb) : ℤ :=
  ((rgb.red.toNat : ℤ) - color.red.toNat) ^ 2 + ((rgb.green.toNat : ℤ) - color.green.toNat) ^ 2 +
    ((rgb.blue.toNat : ℤ) - color.blue.toNat) ^ 2

/-- The squared distance less the square of the color itself, which all distances from it have in common. -/
def comparedDistance (rgb color : Rgb) : ℤ :=
  (color.red.toNat : ℤ) ^ 2 + (color.green.toNat : ℤ) ^ 2 + (color.blue.toNat : ℤ) ^ 2 -
    2 * ((rgb.red.toNat : ℤ) * color.red.toNat + (rgb.green.toNat : ℤ) * color.green.toNat + (rgb.blue.toNat : ℤ) * color.blue.toNat)

lemma squaredDistance_eq (rgb color : Rgb) : squaredDistance rgb color =
    ((rgb.red.toNat : ℤ) ^ 2 + (rgb.green.toNat : ℤ) ^ 2 + (rgb.blue.toNat : ℤ) ^ 2) + comparedDistance rgb color := by
  unfold squaredDistance comparedDistance
  ring

def black : Rgb := ⟨0, 0, 0⟩

/-- The index of the first color that is nearest. -/
def firstNearest (colors : List Rgb) (rgb : Rgb) : Nat :=
  firstLeast (fun i => squaredDistance rgb (colors.getD i black)) colors.length

/-- What a color is off one that is taken for it. -/
def channelMiss (rgb chosen : Rgb) : Channels ℤ := rgb.zip (fun value other => (value.toNat : ℤ) - other.toNat) chosen

lemma channelMiss_inTable (rgb chosen : Rgb) : InTable (channelMiss rgb chosen) := by
  have := rgb.red.toNat_lt
  have := rgb.green.toNat_lt
  have := rgb.blue.toNat_lt
  have := chosen.red.toNat_lt
  have := chosen.green.toNat_lt
  have := chosen.blue.toNat_lt
  unfold InTable channelMiss Channels.zip
  dsimp only
  omega

/-! ### The diffusion of misses -/

/-- The diffusion of what the first nearest color misses; `change` tells what a channel becomes by an error with a weight. -/
def nearestKernel (width height : Nat) (leftward : Nat → Bool) (opened : Nat → Nat → Bool) (colors : List Rgb)
    (change : Nat → ℤ → UInt8 → UInt8) : Kernel Rgb where
  width := width
  height := height
  leftward := leftward
  opened := opened
  give := fun weight source target => (channelMiss source (colors.getD (firstNearest colors source) black)).zip (change weight) target

/-- What a push does to bytes, with a table for its weight. -/
def pushBytes (kernel : Kernel Rgb) (table : List UInt8) (errors : Channels ℤ) (target : Option Nat) (row : Nat) (work : List UInt8) :
    Except RenderError (List UInt8) :=
  match target with
  | none => .ok work
  | some column =>
    if row < kernel.height && kernel.opened column row then lookUpPixel table work ((row * kernel.width + column : Nat) * 3) errors
    else .ok work

def spreadBytes (kernel : Kernel Rgb) (tables : Nat → List UInt8) (errors : Channels ℤ) (y x : Nat) (work : List UInt8) :
    Except RenderError (List UInt8) := do
  let work ← pushBytes kernel (tables 7) errors (kernel.ahead y x) y work
  let work ← pushBytes kernel (tables 3) errors (kernel.behind y x) (y + 1) work
  let work ← pushBytes kernel (tables 5) errors (some x) (y + 1) work
  pushBytes kernel (tables 1) errors (kernel.ahead y x) (y + 1) work

section Bytes

variable {kernel : Kernel Rgb} {work : List UInt8} {cells : Nat → Nat → Rgb} {errors : Channels ℤ} {x y : Nat}

lemma pushBytes_holds (h : Holds kernel.width kernel.height work cells) {source : Rgb} {weight : Nat} {target : Option Nat}
    {change : ℤ → UInt8 → UInt8} (hgive : ∀ held, kernel.give weight source held = errors.zip change held) (herrors : InTable errors)
    (row : Nat) (htarget : ∀ column ∈ target, column < kernel.width) :
    ∃ work', pushBytes kernel (errorTable change) errors target row work = .ok work' ∧
      Holds kernel.width kernel.height work' (kernel.push weight source target row cells) := by
  unfold pushBytes Kernel.push
  cases target with
  | none => exact ⟨work, rfl, h⟩
  | some column =>
    dsimp only
    by_cases hopen : (row < kernel.height && kernel.opened column row) = true
    · rw [if_pos hopen, if_pos hopen, hgive]
      simp only [Bool.and_eq_true, decide_eq_true_eq] at hopen
      exact h.lookUp change herrors (htarget column rfl) hopen.1
    · rw [if_neg hopen, if_neg hopen]
      exact ⟨work, rfl, h⟩

/-- Four lookups spread an error over the bytes. -/
theorem spreadBytes_holds (h : Holds kernel.width kernel.height work cells) (change : Nat → ℤ → UInt8 → UInt8)
    (hgive : ∀ weight held, kernel.give weight (cells x y) held = errors.zip (change weight) held) (herrors : InTable errors)
    (hopen : kernel.opened x y = true) (hx : x < kernel.width) :
    ∃ work', spreadBytes kernel (fun weight => errorTable (change weight)) errors y x work = .ok work' ∧
      Holds kernel.width kernel.height work' (kernel.spread y x cells) := by
  have hahead := Kernel.ahead_lt (y := y) hx
  have hhere : ∀ column ∈ some x, column < kernel.width := by
    rintro column ⟨⟩
    exact hx
  obtain ⟨one, hone, hholds⟩ := pushBytes_holds h (hgive 7) herrors y hahead
  obtain ⟨two, htwo, hholds⟩ := pushBytes_holds hholds (hgive 3) herrors (y + 1) (Kernel.behind_lt (y := y) hx)
  obtain ⟨three, hthree, hholds⟩ := pushBytes_holds hholds (hgive 5) herrors (y + 1) hhere
  obtain ⟨four, hfour, hholds⟩ := pushBytes_holds hholds (hgive 1) herrors (y + 1) hahead
  refine ⟨four, ?_, ?_⟩
  · exact Checked.bind_eq_ok.mpr ⟨one, hone, Checked.bind_eq_ok.mpr ⟨two, htwo, Checked.bind_eq_ok.mpr ⟨three, hthree, hfour⟩⟩⟩
  · unfold Kernel.spread
    rw [if_pos hopen]
    exact hholds

end Bytes

/-! ### Loops over bytes -/

/-- Bytes of colors and of indexes that follow a sweep: the colors are its cells, the indexes what was chosen where it has been. -/
structure Follows (kernel : Kernel Rgb) (choose : Nat → Nat → Rgb → UInt8) (state : List UInt8 × List UInt8) (sweep : Sweep Rgb) :
    Prop where
  work : Holds kernel.width kernel.height state.1 sweep.cells
  length : state.2.length = kernel.width * kernel.height
  index : ∀ x < kernel.width, ∀ y < kernel.height, state.2[y * kernel.width + x]? = some ((sweep.seen x y).elim 0 (choose x y))

variable {kernel : Kernel Rgb} {choose : Nat → Nat → Rgb → UInt8} {x y : Nat}

lemma follows_start {work : List UInt8} {source : Nat → Nat → Rgb} (h : Holds kernel.width kernel.height work source) :
    Follows kernel choose (work, List.replicate (kernel.width * kernel.height) 0) ⟨source, fun _ _ => none⟩ := by
  constructor
  · exact h
  · exact List.length_replicate
  · intro x hx y hy
    rw [List.getElem?_replicate, if_pos (position_lt hx hy)]
    rfl

/-- A visit that records its choice and spreads its miss follows that of the sweep. -/
lemma Follows.visit {state : List UInt8 × List UInt8} {sweep : Sweep Rgb} (h : Follows kernel choose state sweep) {work : List UInt8}
    (hwork : Holds kernel.width kernel.height work (kernel.spread y x sweep.cells)) (hx : x < kernel.width) (hy : y < kernel.height) :
    Follows kernel choose (work, state.2.set (y * kernel.width + x) (choose x y (sweep.cells x y))) (kernel.visit y sweep x) := by
  constructor
  · exact hwork
  · exact List.length_set.trans h.length
  · intro x' hx' y' hy'
    unfold Kernel.visit
    dsimp only
    by_cases hhere : x' = x ∧ y' = y
    · obtain ⟨rfl, rfl⟩ := hhere
      rw [List.getElem?_set_self (by rw [h.length]; exact position_lt hx hy), if_pos ⟨rfl, rfl⟩]
      rfl
    · rw [if_neg hhere, List.getElem?_set_ne (fun heq => ?_)]
      · exact h.index x' hx' y' hy'
      · obtain ⟨rfl, rfl⟩ := position_inj hx hx' heq
        exact hhere ⟨rfl, rfl⟩

/-- Loops over rows and columns whose turns follow the visits of a sweep end without an error, and with what is chosen for the values
of the recursion. -/
theorem follows_run {source values : Nat → Nat → Rgb} {start : List UInt8 × List UInt8}
    {turn : Nat → List UInt8 × List UInt8 → Nat → Except RenderError (List UInt8 × List UInt8)}
    (hvalues : kernel.IsDiffused source values) (hstart : Follows kernel choose start ⟨source, fun _ _ => none⟩)
    (hturn : ∀ y < kernel.height, ∀ x < kernel.width, ∀ state sweep, Follows kernel choose state sweep →
      ∃ state', turn y state x = .ok state' ∧ Follows kernel choose state' (kernel.visit y sweep x)) :
    ∃ state, (List.range kernel.height).foldlM (fun state y => (kernel.columns y).foldlM (turn y) state) start = .ok state ∧
      state.2.length = kernel.width * kernel.height ∧
      ∀ x < kernel.width, ∀ y < kernel.height, state.2[y * kernel.width + x]? = some (choose x y (values x y)) := by
  obtain ⟨state, hstate, hfollows⟩ : ∃ state,
      (List.range kernel.height).foldlM (fun state y => (kernel.columns y).foldlM (turn y) state) start = .ok state ∧
      Follows kernel choose state (kernel.run source) := by
    apply Lockstep.foldlM_follows hstart
    intro y hy state sweep h
    apply Lockstep.foldlM_follows h
    intro x hx state sweep h
    apply hturn y (List.mem_range.mp hy) x _ state sweep h
    rw [Kernel.columns_eq] at hx
    obtain ⟨j, hj, rfl⟩ := List.mem_map.mp hx
    exact Kernel.place_lt (List.mem_range.mp hj)
  refine ⟨state, hstate, hfollows.length, fun x hx y hy => ?_⟩
  rw [hfollows.index x hx y hy, Kernel.run_seen hvalues hx hy]
  rfl

end InkTime.Rendering
