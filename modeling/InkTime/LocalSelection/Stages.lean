import InkTime.Library.Tiers
import InkTime.LocalSelection.Model

/-!
# The stages of a local selection

A selection takes as many photos as it may, and one of a later stage only after all of the earlier stages, also where a pair
has put its second photo into the second place.
-/

namespace InkTime.LocalSelection

open Months
open InkTime.LocalSelection.Runtime

variable {F : Type} {rt : Runtime F}

/-! ### Choosing -/

lemma maxBy_mem {α : Type} {keyLt : α → α → Bool} {items : List α} {best : α} (h : maxBy keyLt items = some best) :
    best ∈ items := by
  have hfold : ∀ (rest : List α) (first : α),
      rest.foldl (fun best item => if keyLt best item then item else best) first ∈ first :: rest := by
    intro rest
    induction rest with
    | nil => exact fun first => List.mem_cons_self ..
    | cons item rest ih =>
      intro first
      rw [List.foldl_cons]
      split
      · exact List.mem_cons_of_mem _ (ih item)
      · have hmem := ih first
        rw [List.mem_cons] at hmem ⊢
        exact hmem.imp_right (List.mem_cons_of_mem _)
  cases items with
  | nil => cases h
  | cons first rest =>
    obtain rfl := Option.some.inj h
    exact hfold rest first

lemma maxBy_eq_none {α : Type} {keyLt : α → α → Bool} {items : List α} (h : maxBy keyLt items = none) : items = [] := by
  cases items with
  | nil => rfl
  | cons first rest => cases h

variable (rt) in
/-- The loop takes distinct photos of the stage, as many as there are or are needed. -/
lemma diverseStageSelection_spec [DecidableEq F] (needed : ℕ) (context : List (Row F)) {rows : List (Row F)} (hrows : rows.Nodup) :
    diverseStageSelection rt needed context rows ⊆ rows ∧ (diverseStageSelection rt needed context rows).Nodup ∧
      (diverseStageSelection rt needed context rows).length = min needed rows.length := by
  induction needed generalizing context rows with
  | zero => exact ⟨List.nil_subset _, List.nodup_nil, (Nat.zero_min _).symm⟩
  | succ needed ih =>
    unfold diverseStageSelection
    cases hmax : maxBy (rankedKeyLt rt context) rows.zipIdx with
    | none =>
      have hnil : rows = [] := by
        have hlen := congrArg List.length (maxBy_eq_none hmax)
        rw [List.length_zipIdx] at hlen
        exact List.length_eq_zero_iff.mp hlen
      subst hnil
      exact ⟨List.nil_subset _, List.nodup_nil, (Nat.min_zero _).symm⟩
    | some chosen =>
      have hchosen : chosen.1 ∈ rows := List.fst_mem_of_mem_zipIdx (maxBy_mem hmax)
      obtain ⟨hsubset, hnodup, hlength⟩ := ih (context ++ [chosen.1]) (hrows.erase chosen.1)
      refine ⟨?_, ?_, ?_⟩
      · exact List.cons_subset.mpr ⟨hchosen, fun row hrow => List.erase_subset (hsubset hrow)⟩
      · exact List.nodup_cons.mpr ⟨fun hin => hrows.not_mem_erase (hsubset hin), hnodup⟩
      · have hpos := List.length_pos_of_mem hchosen
        rw [List.length_cons, hlength, List.length_erase_of_mem hchosen]
        omega

lemma sortBy_perm {α : Type} (keyLt : α → α → Bool) (items : List α) : (sortBy keyLt items).Perm items :=
  List.mergeSort_perm items _

/-! ### The stage of a photo -/

/-- The stage of a photo for a day of the leap year, by the month and day it was captured on. -/
def stageOf (anchor window : ℤ) (row : Row F) : Stage :=
  if row.capturedMonthDay.getD "" = monthDay anchor then .exact
  else if ∃ offset ∈ List.range' 1 window.toNat,
      row.capturedMonthDay.getD "" = monthDay (anchor - offset) ∨ row.capturedMonthDay.getD "" = monthDay (anchor + offset) then .nearby
  else .ranked

def Stage.tier : Stage → ℕ
  | .exact => 0
  | .nearby => 1
  | .ranked => 2

/-- The stages a fallback permits. -/
def permits (fallback : String) : Stage → Bool
  | .exact => true
  | .nearby => fallback = "nearby_only" || fallback = "nearby_then_ranked"
  | .ranked => fallback = "nearby_then_ranked"

/-- The entries of the days around an anchor. -/
def around (anchor window : ℤ) : List (String × ℕ) := (List.range' 1 window.toNat).flatMap fun offset : ℕ =>
  [(monthDay (anchor - offset), offset), (monthDay (anchor + offset), offset)]

lemma isSome_daysAway (anchor window : ℤ) (row : Row F) : (daysAway (around anchor window) row).isSome = true ↔
    ∃ offset ∈ List.range' 1 window.toNat,
      row.capturedMonthDay.getD "" = monthDay (anchor - offset) ∨ row.capturedMonthDay.getD "" = monthDay (anchor + offset) := by
  unfold daysAway around
  rw [Option.isSome_map, List.find?_isSome]
  simp only [List.mem_reverse, List.mem_flatMap, List.mem_cons, List.not_mem_nil, or_false, beq_iff_eq]
  constructor
  · rintro ⟨entry, ⟨offset, hoffset, rfl | rfl⟩, htext⟩
    · exact ⟨offset, hoffset, .inl htext.symm⟩
    · exact ⟨offset, hoffset, .inr htext.symm⟩
  · rintro ⟨offset, hoffset, htext | htext⟩
    · exact ⟨_, ⟨offset, hoffset, .inl rfl⟩, htext.symm⟩
    · exact ⟨_, ⟨offset, hoffset, .inr rfl⟩, htext.symm⟩

/-- No near day is the day itself. -/
lemma not_isSome_of_exact {anchor window : ℤ} (hwindow : window ≤ 31) {row : Row F}
    (hexact : row.capturedMonthDay.getD "" = monthDay anchor) : ¬(daysAway (around anchor window) row).isSome = true := by
  rw [isSome_daysAway]
  rintro ⟨offset, hoffset, htext | htext⟩
  · have hbounds := List.mem_range'_1.mp hoffset
    have hsame := eq_of_monthDay_eq (hexact.symm.trans htext) (by rw [abs_lt]; omega)
    omega
  · have hbounds := List.mem_range'_1.mp hoffset
    have hsame := eq_of_monthDay_eq (hexact.symm.trans htext) (by rw [abs_lt]; omega)
    omega

lemma stageOf_eq_exact {anchor window : ℤ} {row : Row F} :
    stageOf anchor window row = .exact ↔ row.capturedMonthDay.getD "" = monthDay anchor := by
  unfold stageOf
  split_ifs with hexact hnear
  · simp [hexact]
  · simp [hexact]
  · simp [hexact]

lemma stageOf_eq_nearby {anchor window : ℤ} (hwindow : window ≤ 31) {row : Row F} :
    stageOf anchor window row = .nearby ↔ (daysAway (around anchor window) row).isSome = true := by
  have hiff := isSome_daysAway anchor window row
  unfold stageOf
  split_ifs with hexact hnear
  · simp [not_isSome_of_exact hwindow hexact]
  · simp [hiff.mpr hnear]
  · simp [mt hiff.mp hnear]

lemma stageOf_eq_ranked {anchor window : ℤ} {row : Row F} :
    stageOf anchor window row = .ranked ↔ stageOf anchor window row ≠ .exact ∧ stageOf anchor window row ≠ .nearby := by
  cases stageOf anchor window row with
  | exact => simp
  | nearby => simp
  | ranked => simp

section

variable {ranked : List (Row F)} {anchor window : ℤ}

/-- The rows of a stage. -/
def stageRows (ranked : List (Row F)) (anchor window : ℤ) (stage : Stage) : List (Row F) :=
  ranked.filter fun row => stageOf anchor window row == stage

lemma mem_stageRows {stage : Stage} {row : Row F} :
    row ∈ stageRows ranked anchor window stage ↔ row ∈ ranked ∧ stageOf anchor window row = stage := by
  unfold stageRows
  rw [List.mem_filter, beq_iff_eq]

lemma stageRows_subset {stage : Stage} : stageRows ranked anchor window stage ⊆ ranked := fun _ hrow => (mem_stageRows.mp hrow).1

lemma exact_eq : (pools rt ranked (monthDay anchor) (around anchor window)).exact = stageRows ranked anchor window .exact := by
  apply List.filter_congr
  intro row _
  rw [Bool.eq_iff_iff, beq_iff_eq, beq_iff_eq, stageOf_eq_exact]

lemma nearby_perm (hwindow : window ≤ 31) :
    (pools rt ranked (monthDay anchor) (around anchor window)).nearby.Perm (stageRows ranked anchor window .nearby) := by
  have hfilter : (ranked.filter fun row => (daysAway (around anchor window) row).isSome) = stageRows ranked anchor window .nearby := by
    apply List.filter_congr
    intro row _
    rw [Bool.eq_iff_iff, beq_iff_eq, stageOf_eq_nearby hwindow]
  rw [← hfilter]
  exact sortBy_perm _ _

/-- With distinct ids, a row is found by its id. -/
lemma id_mem_iff (hids : (ranked.map Row.id).Nodup) {rows : List (Row F)} (hrows : rows ⊆ ranked) {row : Row F}
    (hrow : row ∈ ranked) : row.id ∈ rows.map Row.id ↔ row ∈ rows := by
  constructor
  · intro hin
    obtain ⟨other, hother, hsame⟩ := List.mem_map.mp hin
    rw [← List.inj_on_of_nodup_map hids (hrows hother) hrow hsame]
    exact hother
  · exact fun hin => List.mem_map.mpr ⟨row, hin, rfl⟩

lemma exact_id_iff (hids : (ranked.map Row.id).Nodup) {row : Row F} (hrow : row ∈ ranked) :
    row.id ∈ (pools rt ranked (monthDay anchor) (around anchor window)).exact.map Row.id ↔ stageOf anchor window row = .exact := by
  rw [exact_eq, id_mem_iff hids stageRows_subset hrow, mem_stageRows]
  exact and_iff_right hrow

lemma nearby_id_iff (hids : (ranked.map Row.id).Nodup) (hwindow : window ≤ 31) {row : Row F} (hrow : row ∈ ranked) :
    row.id ∈ (pools rt ranked (monthDay anchor) (around anchor window)).nearby.map Row.id ↔ stageOf anchor window row = .nearby := by
  rw [((nearby_perm hwindow).map Row.id).mem_iff, id_mem_iff hids stageRows_subset hrow, mem_stageRows]
  exact and_iff_right hrow

variable (rt) in
lemma stageById_eq (hids : (ranked.map Row.id).Nodup) (hwindow : window ≤ 31) {row : Row F} (hrow : row ∈ ranked) :
    stageById (pools rt ranked (monthDay anchor) (around anchor window)) row = stageOf anchor window row := by
  unfold stageById
  rw [if_congr (exact_id_iff hids hrow) rfl rfl, if_congr (nearby_id_iff hids hwindow hrow) rfl rfl]
  cases stageOf anchor window row with
  | exact => rfl
  | nearby => rfl
  | ranked => rfl

lemma rankedOnly_eq (hids : (ranked.map Row.id).Nodup) (hwindow : window ≤ 31) :
    (pools rt ranked (monthDay anchor) (around anchor window)).rankedOnly = stageRows ranked anchor window .ranked := by
  change ranked.filter (fun row => decide (row.id ∉ ((pools rt ranked (monthDay anchor) (around anchor window)).exact ++
    (pools rt ranked (monthDay anchor) (around anchor window)).nearby).map Row.id)) = _
  apply List.filter_congr
  intro row hrow
  rw [Bool.eq_iff_iff, beq_iff_eq, stageOf_eq_ranked, decide_eq_true_eq, List.map_append, List.mem_append, not_or,
    exact_id_iff hids hrow, nearby_id_iff hids hwindow hrow]

/-! ### Filling the stages -/

/-- The place of a photo's stage. -/
abbrev tierOf (anchor window : ℤ) (row : Row F) : ℕ := (stageOf anchor window row).tier

lemma tier_stageRows {stage : Stage} {row : Row F} (hrow : row ∈ stageRows ranked anchor window stage) :
    tierOf anchor window row = stage.tier := congrArg Stage.tier (mem_stageRows.mp hrow).2

/-- What the loop holds after some of the stages. -/
structure Filling (anchor window : ℤ) (pool : List (Row F)) (needed : ℕ) (selected : List (Row F)) : Prop where
  distinct : pool.Nodup
  fills : Tiers.Fills (tierOf anchor window) pool needed selected
  sorted : selected.Pairwise fun row other => tierOf anchor window row ≤ tierOf anchor window other

variable (rt) in
/-- One round adds what it can of its stage. -/
lemma Filling.selectStage [DecidableEq F] {pools : Pools F} {allowed pool selected : List (Row F)} {needed : ℕ}
    (h : Filling anchor window pool needed selected) (stage : Stage) (hallowed : allowed.Nodup)
    (hstages : ∀ row ∈ allowed, stageById pools row = stageOf anchor window row)
    (hpool : ∀ row ∈ pool, tierOf anchor window row < stage.tier) :
    Filling anchor window (pool ++ stageRows allowed anchor window stage) needed
      (selectStage rt pools allowed needed selected stage) := by
  have hrows : (allowed.filter fun row => stageById pools row == stage) = stageRows allowed anchor window stage := by
    apply List.filter_congr
    intro row hrow
    rw [hstages row hrow]
  have hdistinct : (stageRows allowed anchor window stage).Nodup := hallowed.filter _
  obtain ⟨hsubset, hmore, hlength⟩ :=
    diverseStageSelection_spec rt (needed - selected.length) selected hdistinct
  have hlater : ∀ row ∈ pool, ∀ other ∈ stageRows allowed anchor window stage,
      tierOf anchor window row < tierOf anchor window other := by
    intro row hrow other hother
    rw [tier_stageRows hother]
    exact hpool row hrow
  have happend : (pool ++ stageRows allowed anchor window stage).Nodup := by
    apply List.nodup_append.mpr
    refine ⟨h.distinct, hdistinct, fun row hrow other hother heq => ?_⟩
    have hlt := hlater row hrow other hother
    rw [heq] at hlt
    exact lt_irrefl _ hlt
  unfold LocalSelection.selectStage
  rw [hrows]
  refine ⟨happend, ?_, ?_⟩
  · apply h.fills.append happend hlater _ hsubset hmore hlength
    intro row hrow other hother
    rw [tier_stageRows hrow, tier_stageRows hother]
  · apply List.pairwise_append.mpr
    refine ⟨h.sorted, ?_, ?_⟩
    · apply List.pairwise_of_forall_mem_list
      intro row hrow other hother
      rw [tier_stageRows (hsubset hrow), tier_stageRows (hsubset hother)]
    · exact fun row hrow other hother => (hlater row (h.fills.subset hrow) other (hsubset hother)).le

variable (rt anchor window) in
/-- The loop fills the request from the stages, in their order. -/
lemma filling_stages [DecidableEq F] {pools : Pools F} {allowed : List (Row F)} (needed : ℕ) (hallowed : allowed.Nodup)
    (hstages : ∀ row ∈ allowed, stageById pools row = stageOf anchor window row) :
    Filling anchor window allowed needed ([Stage.exact, .nearby, .ranked].foldl (selectStage rt pools allowed needed) []) := by
  have hempty : Filling anchor window ([] : List (Row F)) needed [] := ⟨List.nodup_nil, Tiers.fills_nil, List.Pairwise.nil⟩
  have hexact := hempty.selectStage rt .exact hallowed hstages fun row hrow => absurd hrow List.not_mem_nil
  have hnearby := hexact.selectStage rt .nearby hallowed hstages (by
    intro row hrow
    rw [tier_stageRows hrow]
    decide)
  have hranked := hnearby.selectStage rt .ranked hallowed hstages (by
    intro row hrow
    obtain hrow | hrow := List.mem_append.mp hrow
    · rw [tier_stageRows hrow]
      decide
    · rw [tier_stageRows hrow]
      decide)
  have hall : ([] ++ stageRows allowed anchor window .exact ++ stageRows allowed anchor window .nearby ++
      stageRows allowed anchor window .ranked).Perm allowed := by
    apply (List.perm_ext_iff_of_nodup hranked.distinct hallowed).mpr
    intro row
    simp only [List.nil_append, List.mem_append, mem_stageRows]
    cases stageOf anchor window row with
    | exact => simp
    | nearby => simp
    | ranked => simp
  exact ⟨hallowed, hranked.fills.perm hall (List.Perm.refl _), hranked.sorted⟩

/-! ### The pool that the fallback allows -/

/-- The photos of the stages that the fallback permits. -/
def permitted (ranked : List (Row F)) (anchor window : ℤ) (fallback : String) : List (Row F) :=
  ranked.filter fun row => permits fallback (stageOf anchor window row)

/-- The fallbacks that keep to the stages. -/
def stagedFallbacks : List String := ["none", "nearby_only", "nearby_then_ranked"]

lemma earlier_stage {rows others : List (Row F)} {stage later : Stage} (hlt : stage.tier < later.tier)
    (hrows : ∀ row ∈ rows, stageOf anchor window row = stage) (hothers : ∀ row ∈ others, stageOf anchor window row = later) :
    ∀ row ∈ rows, ∀ other ∈ others, tierOf anchor window row < tierOf anchor window other := by
  intro row hrow other hother
  rw [tierOf, tierOf, hrows row hrow, hothers other hother]
  exact hlt

lemma allowed_none (pools : Pools F) (ranked : List (Row F)) (needed : ℕ) : allowed pools ranked "none" needed = pools.exact := by
  simp [allowed]

lemma allowed_nearbyOnly (pools : Pools F) (ranked : List (Row F)) (needed : ℕ) :
    allowed pools ranked "nearby_only" needed = Tiers.accept needed pools.exact pools.nearby := by
  simp [allowed, Tiers.accept]

lemma allowed_nearbyThenRanked (pools : Pools F) (ranked : List (Row F)) (needed : ℕ) :
    allowed pools ranked "nearby_then_ranked" needed =
      Tiers.accept needed (Tiers.accept needed pools.exact pools.nearby) pools.rankedOnly := by
  by_cases hroom : pools.exact.length < needed
  · simp [allowed, Tiers.accept, hroom]
  · simp [allowed, Tiers.accept, hroom]

/-- The pools hold the photos of their stages. -/
structure Sorted (pools : Pools F) (anchor window : ℤ) : Prop where
  exact : ∀ row ∈ pools.exact, stageOf anchor window row = .exact
  nearby : ∀ row ∈ pools.nearby, stageOf anchor window row = .nearby
  rankedOnly : ∀ row ∈ pools.rankedOnly, stageOf anchor window row = .ranked

/-- The pools of the stages that the fallback permits. -/
def permittedPools (pools : Pools F) (fallback : String) : List (Row F) :=
  pools.exact ++ (if permits fallback .nearby then pools.nearby else []) ++ if permits fallback .ranked then pools.rankedOnly else []

section

variable {pools : Pools F} {needed : ℕ}

lemma same_stage {rows : List (Row F)} {stage : Stage} (hrows : ∀ row ∈ rows, stageOf anchor window row = stage) :
    ∀ row ∈ rows, ∀ other ∈ rows, tierOf anchor window row = tierOf anchor window other := by
  intro row hrow other hother
  rw [tierOf, tierOf, hrows row hrow, hrows other hother]

lemma Sorted.admitted_exact (h : Sorted pools anchor window) (hneeded : 0 < needed) :
    Tiers.Admitted (tierOf anchor window) pools.exact needed := by
  intro row hrow
  have hnone : pools.exact.filter (fun other => tierOf anchor window other < tierOf anchor window row) = [] := by
    apply List.filter_eq_nil_iff.mpr
    intro other hother
    rw [same_stage h.exact other hother row hrow]
    simp
  rw [hnone]
  exact hneeded

lemma Sorted.admitted_nearby (h : Sorted pools anchor window) (hneeded : 0 < needed) :
    Tiers.Admitted (tierOf anchor window) (Tiers.accept needed pools.exact pools.nearby) needed :=
  (h.admitted_exact hneeded).accept (earlier_stage (by decide) h.exact h.nearby) (same_stage h.nearby)

lemma Sorted.before_ranked (h : Sorted pools anchor window) : ∀ row ∈ pools.exact ++ pools.nearby, ∀ other ∈ pools.rankedOnly,
    tierOf anchor window row < tierOf anchor window other := by
  intro row hrow other hother
  obtain hrow | hrow := List.mem_append.mp hrow
  · exact earlier_stage (by decide) h.exact h.rankedOnly row hrow other hother
  · exact earlier_stage (by decide) h.nearby h.rankedOnly row hrow other hother

lemma accept_subset (pool stage : List (Row F)) : Tiers.accept needed pool stage ⊆ pool ++ stage := by
  unfold Tiers.accept
  split
  · exact List.Subset.refl _
  · exact List.subset_append_left _ _

/-- The pool that is allowed lets a stage in only with room left. -/
lemma Sorted.admitted (h : Sorted pools anchor window) (hneeded : 0 < needed) {fallback : String}
    (hfallback : fallback ∈ stagedFallbacks) : Tiers.Admitted (tierOf anchor window) (allowed pools ranked fallback needed) needed := by
  simp only [stagedFallbacks, List.mem_cons, List.not_mem_nil, or_false] at hfallback
  obtain rfl | rfl | rfl := hfallback
  · rw [allowed_none]
    exact h.admitted_exact hneeded
  · rw [allowed_nearbyOnly]
    exact h.admitted_nearby hneeded
  · rw [allowed_nearbyThenRanked]
    apply (h.admitted_nearby hneeded).accept _ (same_stage h.rankedOnly)
    exact fun row hrow => h.before_ranked row (accept_subset _ _ hrow)

/-- What is filled from the allowed pool is filled from every permitted photo. -/
lemma Sorted.fills_permitted (h : Sorted pools anchor window) {fallback : String} (hfallback : fallback ∈ stagedFallbacks)
    {selected : List (Row F)} (hfills : Tiers.Fills (tierOf anchor window) (allowed pools ranked fallback needed) needed selected) :
    Tiers.Fills (tierOf anchor window) (permittedPools pools fallback) needed selected := by
  simp only [stagedFallbacks, List.mem_cons, List.not_mem_nil, or_false] at hfallback
  obtain rfl | rfl | rfl := hfallback
  · rw [allowed_none] at hfills
    simpa [permittedPools, permits] using hfills
  · rw [allowed_nearbyOnly] at hfills
    simpa [permittedPools, permits] using hfills.of_accept (earlier_stage (by decide) h.exact h.nearby)
  · rw [allowed_nearbyThenRanked] at hfills
    have hranked := hfills.of_accept fun row hrow => h.before_ranked row (accept_subset _ _ hrow)
    have hpools : permittedPools pools "nearby_then_ranked" = pools.exact ++ pools.nearby ++ pools.rankedOnly := by
      simp [permittedPools, permits]
    rw [hpools]
    by_cases hroom : pools.exact.length < needed
    · rwa [Tiers.accept, if_pos hroom] at hranked
    · rw [Tiers.accept, Tiers.accept, if_neg hroom, if_neg hroom] at hfills
      rw [List.append_assoc]
      apply hfills.widen (not_lt.mp hroom)
      intro row hrow other hother
      obtain hother | hother := List.mem_append.mp hother
      · exact earlier_stage (by decide) h.exact h.nearby row hrow other hother
      · exact earlier_stage (by decide) h.exact h.rankedOnly row hrow other hother

end

/-! ### The selection -/

variable (rt anchor) in
lemma sorted_pools (hids : (ranked.map Row.id).Nodup) (hwindow : window ≤ 31) :
    Sorted (pools rt ranked (monthDay anchor) (around anchor window)) anchor window where
  exact := by
    rw [exact_eq]
    exact fun row hrow => (mem_stageRows.mp hrow).2
  nearby := fun row hrow => (mem_stageRows.mp ((nearby_perm hwindow).mem_iff.mp hrow)).2
  rankedOnly := by
    rw [rankedOnly_eq hids hwindow]
    exact fun row hrow => (mem_stageRows.mp hrow).2

/-- The permitted pools hold each permitted photo once. -/
lemma permittedPools_perm (hids : (ranked.map Row.id).Nodup) (hwindow : window ≤ 31) (fallback : String) :
    (permittedPools (pools rt ranked (monthDay anchor) (around anchor window)) fallback).Perm
      (permitted ranked anchor window fallback) := by
  have hrows : ∀ stage, (stageRows ranked anchor window stage).Nodup := fun stage => hids.of_map.filter _
  have hnearby : (if permits fallback .nearby then (pools rt ranked (monthDay anchor) (around anchor window)).nearby else []).Perm
      (if permits fallback .nearby then stageRows ranked anchor window .nearby else []) := by
    split
    · exact nearby_perm hwindow
    · exact List.Perm.refl _
  unfold permittedPools
  rw [exact_eq, rankedOnly_eq hids hwindow]
  refine ((hnearby.append_left _).append_right _).trans ?_
  apply (List.perm_ext_iff_of_nodup _ (hids.of_map.filter _)).mpr
  · intro row
    simp only [List.mem_append, List.mem_filter, mem_stageRows, List.mem_ite_nil_right]
    cases stageOf anchor window row with
    | exact => simp [permits]
    | nearby => simp [and_comm]
    | ranked => simp [and_comm]
  · apply List.nodup_append.mpr
    refine ⟨List.nodup_append.mpr ⟨hrows _, ?_, ?_⟩, ?_, ?_⟩
    · split
      · exact hrows _
      · exact List.nodup_nil
    · intro row hrow other hother heq
      rw [List.mem_ite_nil_right, mem_stageRows] at hother
      rw [mem_stageRows, heq, hother.2.2] at hrow
      cases hrow.2
    · split
      · exact hrows _
      · exact List.nodup_nil
    · intro row hrow other hother heq
      rw [List.mem_ite_nil_right, mem_stageRows] at hother
      rw [List.mem_append, List.mem_ite_nil_right, mem_stageRows, mem_stageRows, heq, hother.2.2] at hrow
      simp at hrow

variable (rt) in
/-- The second photo of a pair takes its place among the selected ones. -/
lemma fills_pinned [DecidableEq F] {allowed filled : List (Row F)} {needed : ℕ} (h : Filling anchor window allowed needed filled)
    (hadmitted : Tiers.Admitted (tierOf anchor window) allowed needed) (hids : (ranked.map Row.id).Nodup) (hallowed : allowed ⊆ ranked)
    (layout orientation : String) :
    Tiers.Fills (tierOf anchor window) allowed needed ((pinned filled (pairOf rt layout orientation allowed filled)).take needed) := by
  have hwhole : Tiers.Fills (tierOf anchor window) allowed needed (filled.take needed) := by
    rw [List.take_of_length_le h.fills.length_le]
    exact h.fills
  unfold pairOf
  split
  · cases hfilled : filled with
    | nil =>
      subst hfilled
      exact hwhole
    | cons primary tail =>
      subst hfilled
      rw [List.head?_cons, Option.bind_some]
      cases hpair : bestPair rt orientation primary ((allowed.take 50).filter fun row => row.id ≠ primary.id) with
      | none => exact hwhole
      | some pair =>
        have hpeer : pair.peer ∈ (allowed.take 50).filter fun row => row.id ≠ primary.id := by
          have hmem := (sortBy_perm _ _).mem_iff.mp (List.mem_of_mem_head? hpair)
          obtain ⟨peer, hpeer, rfl⟩ := List.mem_map.mp hmem
          exact hpeer
        obtain ⟨htake, hid⟩ := List.mem_filter.mp hpeer
        have hin : pair.peer ∈ allowed := List.mem_of_mem_take htake
        have hne : pair.peer ≠ primary := fun heq => of_decide_eq_true hid (congrArg Row.id heq)
        have hpin := h.fills.pin h.sorted hadmitted hin hne
        have hfilter : (tail.filter fun row => row.id ≠ primary.id && row.id ≠ pair.peer.id) =
            tail.filter fun row => row ≠ primary ∧ row ≠ pair.peer := by
          apply List.filter_congr
          intro row hrow
          have hranked : row ∈ ranked := hallowed (h.fills.subset (List.mem_cons_of_mem _ hrow))
          have hprimary : primary ∈ ranked := hallowed (h.fills.subset (List.mem_cons_self ..))
          have hsame : ∀ other ∈ ranked, row.id = other.id ↔ row = other :=
            fun other hother => ⟨List.inj_on_of_nodup_map hids hranked hother, congrArg Row.id⟩
          rw [Bool.eq_iff_iff]
          simp only [Bool.and_eq_true, decide_eq_true_eq, ne_eq, hsame primary hprimary, hsame pair.peer (hallowed hin)]
        rw [← hfilter] at hpin
        exact hpin
  · exact hwhole

lemma allowed_sublist {pools : Pools F} {fallback : String} {needed : ℕ} (hfallback : fallback ∈ stagedFallbacks) :
    (allowed pools ranked fallback needed).Sublist (permittedPools pools "nearby_then_ranked") := by
  have hpools : permittedPools pools "nearby_then_ranked" = pools.exact ++ pools.nearby ++ pools.rankedOnly := by
    simp [permittedPools, permits]
  have haccept : ∀ pool stage : List (Row F), (Tiers.accept needed pool stage).Sublist (pool ++ stage) := by
    intro pool stage
    unfold Tiers.accept
    split
    · exact List.Sublist.refl _
    · exact List.sublist_append_left _ _
  rw [hpools]
  simp only [stagedFallbacks, List.mem_cons, List.not_mem_nil, or_false] at hfallback
  obtain rfl | rfl | rfl := hfallback
  · rw [allowed_none, List.append_assoc]
    exact List.sublist_append_left _ _
  · rw [allowed_nearbyOnly]
    exact (haccept _ _).trans (List.sublist_append_left _ _)
  · rw [allowed_nearbyThenRanked]
    exact (haccept _ _).trans ((haccept _ _).append_right _)

lemma allowed_nodup (hids : (ranked.map Row.id).Nodup) (hwindow : window ≤ 31) {fallback : String} {needed : ℕ}
    (hfallback : fallback ∈ stagedFallbacks) :
    (allowed (pools rt ranked (monthDay anchor) (around anchor window)) ranked fallback needed).Nodup := by
  apply List.Nodup.sublist (allowed_sublist hfallback)
  exact (permittedPools_perm hids hwindow _).nodup_iff.mpr (hids.of_map.filter _)

variable (rt anchor needed) in
lemma allowed_subset (hids : (ranked.map Row.id).Nodup) (hwindow : window ≤ 31) {fallback : String}
    (hfallback : fallback ∈ stagedFallbacks) :
    allowed (pools rt ranked (monthDay anchor) (around anchor window)) ranked fallback needed ⊆ ranked := by
  intro row hrow
  have hmem := (permittedPools_perm hids hwindow _).mem_iff.mp ((allowed_sublist hfallback).subset hrow)
  exact (List.mem_filter.mp hmem).1

end

/-! ### The day -/

lemma digits_padded : ∀ number : Fin 100, padded 2 (number : ℕ) ≠ "" ∧ (padded 2 (number : ℕ)).toList.all Char.isDigit = true ∧
    Nat.ofDigitChars 10 (padded 2 (number : ℕ)).toList 0 = number := by decide +kernel

lemma int_padded (rt : Runtime F) {number : ℤ} (h : 0 ≤ number ∧ number < 100) : rt.int (padded 2 number) = some number := by
  obtain ⟨hne, hdigits, hvalue⟩ := digits_padded ⟨number.toNat, by omega⟩
  rw [Int.toNat_of_nonneg h.1] at hne hdigits hvalue
  unfold Runtime.int
  rw [if_pos ⟨hne, hdigits⟩, hvalue, Int.toNat_of_nonneg h.1]

/-- The days around a day of any year are those around it in the year 2000. -/
lemma nearbyDays_monthDay (rt : Runtime F) (day window : ℤ) :
    ∃ anchor, yearOf (monthOf anchor) = 2000 ∧ monthDay anchor = monthDay day ∧
      nearbyDays rt (monthDay day) window = some (around anchor window) := by
  obtain ⟨anchor, hdate, htext⟩ := exists_dateIn_leap 2000 (by decide) day
  have hyear : yearOf (monthOf anchor) = 2000 := by
    have hlt := monthInYear_lt (monthOf day)
    rw [(dateIn_spec hdate).1]
    exact yearOf_mul_add 2000 (by omega)
  refine ⟨anchor, hyear, htext, ?_⟩
  have hmonth : String.ofList ((monthDay day).toList.take 2) = padded 2 (monthInYear (monthOf day) + 1) := by
    rw [monthDay_toList, List.take_left' (length_monthPart day), String.ofList_toList]
  have hday : String.ofList ((monthDay day).toList.drop 3) = padded 2 (dayInMonth day) := by
    rw [monthDay_toList, ← List.singleton_append, ← List.append_assoc, List.drop_left' (by simp [length_monthPart day]),
      String.ofList_toList]
  have hbounds := dayInMonth_bounds day
  have hlength := monthLength_bounds (monthOf day)
  have hlt := monthInYear_lt (monthOf day)
  unfold nearbyDays
  rw [hmonth, hday, int_padded rt (by omega), int_padded rt (by omega)]
  change (dateIn 2000 _ _).bind _ = _
  rw [hdate]
  rfl

/-- The target names a day of the calendar. -/
def Request.Dated (request : Request) : Prop := ∀ text ∈ request.targetMonthDay, text ≠ "" → ∃ day, text = monthDay day

lemma monthDay_of_february : monthDay 58 = "02-28" := by decide +kernel

lemma effectiveMonthDay_monthDay {request : Request} (h : request.Dated) :
    ∃ day, (effectiveMonthDay request.target request.targetMonthDay).1 = monthDay day := by
  have hrequested : ∃ day, (if request.targetMonthDay.getD "" = "" then monthDay request.target else request.targetMonthDay.getD "") =
      monthDay day := by
    split
    · exact ⟨request.target, rfl⟩
    · next hne =>
      cases htarget : request.targetMonthDay with
      | none =>
        rw [htarget] at hne
        exact absurd rfl hne
      | some text =>
        rw [htarget] at hne
        exact h text htarget hne
  obtain ⟨day, hday⟩ := hrequested
  unfold effectiveMonthDay
  dsimp only
  rw [hday]
  split
  · exact ⟨58, monthDay_of_february.symm⟩
  · exact ⟨day, rfl⟩

/-! ### The selection as a whole -/

/-- What a request may expect of the photos selected for it, for a day of the leap year. -/
structure Respects (request : Request) (ranked : List (Row F)) (anchor : ℤ) (selected : List (Row F)) : Prop where
  distinct : (selected.map Row.id).Nodup
  permitted : ∀ id ∈ selected.map Row.id, ∃ row ∈ permitted ranked anchor request.window request.fallback, row.id = id
  length : selected.length = min request.quantity.toNat (LocalSelection.permitted ranked anchor request.window request.fallback).length
  earlier : ∀ row ∈ ranked, row.id ∈ selected.map Row.id → ∀ other ∈ ranked,
    (stageOf anchor request.window other).tier < (stageOf anchor request.window row).tier → other.id ∈ selected.map Row.id

lemma permits_earlier {fallback : String} {stage later : Stage} (hlt : stage.tier < later.tier) (h : permits fallback later = true) :
    permits fallback stage = true := by
  cases stage with
  | exact => rfl
  | nearby =>
    cases later with
    | exact => exact absurd hlt (by decide)
    | nearby => exact h
    | ranked => exact Bool.or_eq_true_iff.mpr (.inr h)
  | ranked =>
    cases later with
    | exact => exact absurd hlt (by decide)
    | nearby => exact absurd hlt (by decide)
    | ranked => exact h

lemma respects_of_fills {request : Request} {ranked : List (Row F)} {anchor : ℤ} {selected : List (Row F)}
    (hids : (ranked.map Row.id).Nodup) (hquantity : 1 ≤ request.quantity)
    (h : Tiers.Fills (tierOf anchor request.window) (permitted ranked anchor request.window request.fallback) request.needed selected) :
    Respects request ranked anchor selected := by
  have hsubset : selected ⊆ ranked := fun row hrow => (List.mem_filter.mp (h.subset hrow)).1
  have hneeded : request.needed = request.quantity.toNat := by
    unfold Request.needed
    omega
  refine ⟨?_, ?_, hneeded ▸ h.length, ?_⟩
  · apply h.nodup.map_on
    exact fun row hrow other hother => List.inj_on_of_nodup_map hids (hsubset hrow) (hsubset hother)
  · intro id hid
    obtain ⟨row, hrow, rfl⟩ := List.mem_map.mp hid
    exact ⟨row, h.subset hrow, rfl⟩
  · intro row hrow hid other hother hlt
    have hin := (id_mem_iff hids hsubset hrow).mp hid
    apply List.mem_map_of_mem
    apply h.earlier row hin other _ hlt
    refine List.mem_filter.mpr ⟨hother, permits_earlier hlt ?_⟩
    exact (List.mem_filter.mp (h.subset hin)).2

lemma map_id_written (pair : Option (Row F × Pair F)) (rows : List (Row F)) :
    (rows.map (written rt pair)).map Row.id = rows.map Row.id := by
  rw [List.map_map]
  apply List.map_congr_left
  intro row _
  unfold Function.comp written
  cases pair with
  | none => rfl
  | some pair =>
    dsimp only
    split
    · rfl
    · rfl

lemma Respects.written {request : Request} {ranked : List (Row F)} {anchor : ℤ} {selected : List (Row F)}
    (h : Respects request ranked anchor selected) (pair : Option (Row F × Pair F)) :
    Respects request ranked anchor (selected.map (written rt pair)) := by
  constructor
  · rw [map_id_written]
    exact h.distinct
  · rw [map_id_written]
    exact h.permitted
  · rw [List.length_map]
    exact h.length
  · rw [map_id_written]
    exact h.earlier

/-- Every request of a day, with a fallback that keeps to the stages, is answered with photos that respect them, around that day of
2000. -/
theorem select_respects_stages [DecidableEq F] (rt : Runtime F) (request : Request) (ranked : List (Row F))
    (hids : (ranked.map Row.id).Nodup) (hdated : request.Dated) (hwindow : 0 ≤ request.window ∧ request.window ≤ 31)
    (hfallback : request.fallback ∈ stagedFallbacks) (hquantity : 1 ≤ request.quantity) :
    ∃ selection anchor, select rt request ranked = some selection ∧ yearOf (monthOf anchor) = 2000 ∧
      monthDay anchor = (effectiveMonthDay request.target request.targetMonthDay).1 ∧
      Respects request ranked anchor selection.selected := by
  obtain ⟨day, hday⟩ := effectiveMonthDay_monthDay hdated
  obtain ⟨anchor, hyear, htext, hdays⟩ := nearbyDays_monthDay rt day request.window
  have hneeded : 0 < request.needed := by
    unfold Request.needed
    omega
  have hsorted := sorted_pools rt anchor hids hwindow.2
  have hsubset := allowed_subset rt anchor request.needed hids hwindow.2 hfallback
  have hfilling := filling_stages rt anchor request.window request.needed
    (allowed_nodup hids hwindow.2 hfallback) fun row hrow => stageById_eq rt hids hwindow.2 (hsubset hrow)
  have hpinned := fills_pinned rt hfilling (hsorted.admitted hneeded hfallback) hids hsubset request.layout request.orientation
  have hfills := (hsorted.fills_permitted hfallback hpinned).perm (permittedPools_perm hids hwindow.2 _) (List.Perm.refl _)
  have hrespects := respects_of_fills hids hquantity hfills
  unfold select
  dsimp only
  rw [hday, hdays, ← htext]
  exact ⟨_, anchor, rfl, hyear, rfl, hrespects.written _⟩

/-- Whole scores, and no texts to read. -/
def wholeScores : Runtime ℚ where
  number value := value
  add := (· + ·)
  sub := (· - ·)
  neg := (- ·)
  abs value := |value|
  lt value other := value < other
  le value other := value ≤ other
  round3 value := value
  otherInt _ := none
  hexInt _ := none
  lower text := text
  casefold text := text
  fromIsoformat _ := none

/-! ### A pair -/

/-- Two photos on the 28th of July. -/
def pairRequest : Request := { target := 739824, quantity := 2, layout := "photo_pair", window := 7, fallback := "nearby_then_ranked" }

/-- A landscape photo of a day. -/
def landscape (id : String) (score : ℚ) (day : String) : Row ℚ :=
  { id, localDisplayScore := score, recentDisplayPenalty := 0, pairCompatibilityBonus := 0, capturedMonthDay := some day,
    width := some 4, height := some 3 }

def ofTheDay : Row ℚ := landscape "exact" 80 "07-28"

/-- The best photo of the days around. -/
def twoDaysAway : Row ℚ := landscape "nearby" 72 "07-26"

/-- The better partner of a landscape photo. -/
def upright : Row ℚ := { landscape "upright" 70 "07-27" with width := some 3, height := some 4 }

def topRanked : Row ℚ := landscape "ranked" 99 "01-01"

def pairRows : List (Row ℚ) := [topRanked, ofTheDay, twoDaysAway, upright]

def pairPools : Pools ℚ := ⟨[ofTheDay], [upright, twoDaysAway], [topRanked]⟩

/-- The 28th of July in 2000. -/
def pairAnchor : ℤ := 730328

lemma sortBy_two {α : Type} (keyLt : α → α → Bool) (first second : α) :
    sortBy keyLt [first, second] = if keyLt second first then [second, first] else [first, second] := by
  cases hless : keyLt second first with
  | true => simp [sortBy, List.mergeSort, List.MergeSort.Internal.splitInTwo, hless]
  | false => simp [sortBy, List.mergeSort, List.MergeSort.Internal.splitInTwo, hless]

lemma pools_pair : pools wholeScores pairRows "07-28" (around pairAnchor 7) = pairPools := by
  have hnearby : (pairRows.filter fun row => (daysAway (around pairAnchor 7) row).isSome) = [twoDaysAway, upright] := by decide +kernel
  unfold pools
  rw [hnearby, sortBy_two, if_pos (by decide +kernel)]
  rfl

lemma bestPair_upright : (bestPair wholeScores "" ofTheDay [upright, twoDaysAway]).map Pair.peer = some upright := by
  unfold bestPair
  rw [List.map_cons, List.map_cons, List.map_nil, sortBy_two, if_neg (by decide +kernel)]
  rfl

/-- The stages alone would give the 26th the second place; the pair gives it to the upright photo of the 27th. -/
lemma select_pair : (select wholeScores pairRequest pairRows).map (fun selection => selection.selected.map Row.id) =
    some ["exact", "upright"] := by
  obtain ⟨pair, hbest, hpeer⟩ := Option.map_eq_some_iff.mp bestPair_upright
  have hday : effectiveMonthDay pairRequest.target pairRequest.targetMonthDay = ("07-28", none) := by decide +kernel
  have hdays : nearbyDays wholeScores "07-28" pairRequest.window = some (around pairAnchor 7) := by decide +kernel
  have hallowed : allowed pairPools pairRows pairRequest.fallback pairRequest.needed = [ofTheDay, upright, twoDaysAway] := by
    decide +kernel
  have hfilled : [Stage.exact, .nearby, .ranked].foldl
      (selectStage wholeScores pairPools [ofTheDay, upright, twoDaysAway] pairRequest.needed) [] = [ofTheDay, twoDaysAway] := by
    decide +kernel
  have hpair : pairOf wholeScores pairRequest.layout pairRequest.orientation [ofTheDay, upright, twoDaysAway] [ofTheDay, twoDaysAway] =
      some (ofTheDay, pair) := by
    change (bestPair wholeScores "" ofTheDay [upright, twoDaysAway]).map _ = _
    rw [hbest]
    rfl
  simp only [select, hday, hdays, pools_pair, hallowed, hfilled, hpair, Option.bind_eq_bind, Option.bind_some, Option.pure_def,
    Option.map_some, map_id_written]
  rw [pinned, hpeer]
  rfl

theorem select_respects_stages_pair : (select wholeScores pairRequest pairRows).map (fun selection => selection.selected.map Row.id) =
      some ["exact", "upright"] ∧
    ∃ selection anchor, select wholeScores pairRequest pairRows = some selection ∧ yearOf (monthOf anchor) = 2000 ∧
      monthDay anchor = (effectiveMonthDay pairRequest.target pairRequest.targetMonthDay).1 ∧
      Respects pairRequest pairRows anchor selection.selected :=
  ⟨select_pair, select_respects_stages wholeScores pairRequest pairRows (by decide) (fun text htext => by cases htext) (by decide)
    (by decide) (by decide)⟩

end InkTime.LocalSelection
