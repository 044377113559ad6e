import Mathlib.Data.Finset.Max
import Mathlib.Logic.Relation
import Mathlib.Order.Lattice
import Mathlib.Tactic.Common

/-!
# Pruning behind a buffer of free rows

A row is free where nothing fixes it and no remaining row names it. A free row may go once `depth` newer free rows of its
group remain. Taking rows out frees others, so the rows that may go depend on what went before; what remains in the end does
not.
-/

namespace Pruning

variable {α κ γ : Type} [DecidableEq α] [LinearOrder κ] [DecidableEq γ]
variable (fixed : α → Prop) [DecidablePred fixed] (names : α → α → Prop) [DecidableRel names]
variable (group : α → γ) (key : α → κ) (depth : ℕ)

/-- Nothing fixes the row and no remaining row names it. -/
abbrev Free (rows : Finset α) (row : α) : Prop := ¬fixed row ∧ ∀ other ∈ rows, ¬names other row

/-- The newer free rows of a row's group. -/
def ahead (rows : Finset α) (row : α) : Finset α :=
  rows.filter fun other => Free fixed names rows other ∧ group other = group row ∧ key row < key other

/-- A row that may go. -/
structure Candidate (rows : Finset α) (row : α) : Prop where
  mem : row ∈ rows
  free : Free fixed names rows row
  behind : depth ≤ (ahead fixed names group key rows row).card

/-- One step takes out rows that may go. -/
structure Prunes (rows later : Finset α) : Prop where
  subset : later ⊆ rows
  candidate : ∀ row ∈ rows, row ∉ later → Candidate fixed names group key depth rows row

/-- Rows where none may go. -/
def Final (rows : Finset α) : Prop := ∀ row, ¬Candidate fixed names group key depth rows row

variable {fixed names group key depth} {rows later final : Finset α} {row : α}

omit [DecidableEq α] [LinearOrder κ] [DecidableEq γ] [DecidablePred fixed] [DecidableRel names] in
lemma Free.mono (hsub : later ⊆ rows) (h : Free fixed names rows row) : Free fixed names later row :=
  ⟨h.1, fun other hother => h.2 other (hsub hother)⟩

omit [DecidableEq α] in
lemma mem_ahead {other : α} : other ∈ ahead fixed names group key rows row ↔
    other ∈ rows ∧ Free fixed names rows other ∧ group other = group row ∧ key row < key other := Finset.mem_filter

omit [DecidableEq α] in
/-- What is ahead of a newer row of the group is ahead of the row too. -/
lemma ahead_subset_ahead {other : α} (hgroup : group other = group row) (hkey : key row < key other) :
    ahead fixed names group key rows other ⊆ ahead fixed names group key rows row := by
  intro third hthird
  rw [mem_ahead] at hthird ⊢
  exact ⟨hthird.1, hthird.2.1, hthird.2.2.1.trans hgroup, hkey.trans hthird.2.2.2⟩

/-- A step leaves `depth` free rows ahead of every row that had them: the newest of those taken out had as many ahead of it,
and they all remain. -/
lemma Prunes.behind (h : Prunes fixed names group key depth rows later)
    (hrow : depth ≤ (ahead fixed names group key rows row).card) : depth ≤ (ahead fixed names group key later row).card := by
  have hstays : ∀ other ∈ ahead fixed names group key rows row, other ∈ later →
      other ∈ ahead fixed names group key later row := by
    intro other hother hlater
    rw [mem_ahead] at hother ⊢
    exact ⟨hlater, hother.2.1.mono h.subset, hother.2.2⟩
  by_cases hgone : ((ahead fixed names group key rows row).filter (· ∉ later)).Nonempty
  · obtain ⟨newest, hnewest, hmax⟩ := Finset.exists_max_image _ key hgone
    obtain ⟨hahead, hout⟩ := Finset.mem_filter.mp hnewest
    have hnew := mem_ahead.mp hahead
    apply (h.candidate newest hnew.1 hout).behind.trans
    apply Finset.card_le_card
    intro other hother
    have hover := ahead_subset_ahead hnew.2.2.1 hnew.2.2.2 hother
    apply hstays other hover
    by_contra hlater
    have hle := hmax other (Finset.mem_filter.mpr ⟨hover, hlater⟩)
    exact absurd (mem_ahead.mp hother).2.2.2 (not_lt.mpr hle)
  · apply hrow.trans
    apply Finset.card_le_card
    intro other hother
    apply hstays other hother
    by_contra hlater
    exact hgone ⟨other, Finset.mem_filter.mpr ⟨hother, hlater⟩⟩

omit [DecidableEq α] in
lemma run_subset (h : Relation.ReflTransGen (Prunes fixed names group key depth) rows later) : later ⊆ rows := by
  induction h with
  | refl => exact Finset.Subset.refl _
  | tail _ hstep ih => exact hstep.subset.trans ih

/-- Whatever a run took out is free still, and `depth` newer free rows of its group remain. -/
lemma run_behind (h : Relation.ReflTransGen (Prunes fixed names group key depth) rows later) (hrow : row ∈ rows)
    (hout : row ∉ later) : Free fixed names later row ∧ depth ≤ (ahead fixed names group key later row).card := by
  induction h with
  | refl => exact absurd hrow hout
  | @tail middle last _ hstep ih =>
    by_cases hmiddle : row ∈ middle
    · have hcandidate := hstep.candidate row hmiddle hout
      exact ⟨hcandidate.free.mono hstep.subset, hstep.behind hcandidate.behind⟩
    · obtain ⟨hfree, hbehind⟩ := ih hmiddle
      exact ⟨hfree.mono hstep.subset, hstep.behind hbehind⟩

/-- A run never takes out a row of another run's end: a row it could take would still be a candidate there. -/
lemma final_subset_run (hend : Relation.ReflTransGen (Prunes fixed names group key depth) rows final)
    (hfinal : Final fixed names group key depth final)
    (h : Relation.ReflTransGen (Prunes fixed names group key depth) rows later) : final ⊆ later := by
  induction h with
  | refl => exact run_subset hend
  | @tail middle last hrun hstep ih =>
    intro row hrow
    by_contra hout
    have hcandidate := hstep.candidate row (ih hrow) hout
    apply hfinal row
    refine ⟨hrow, hcandidate.free.mono ih, ?_⟩
    by_cases hall : ahead fixed names group key middle row ⊆ final
    · apply hcandidate.behind.trans
      apply Finset.card_le_card
      intro other hother
      have hold := mem_ahead.mp hother
      exact mem_ahead.mpr ⟨hall hother, hold.2.1.mono ih, hold.2.2⟩
    · obtain ⟨other, hother, hgone⟩ := Finset.not_subset.mp hall
      have hold := mem_ahead.mp hother
      obtain ⟨-, hbehind⟩ := run_behind hend (run_subset hrun hold.1) hgone
      exact hbehind.trans (Finset.card_le_card (ahead_subset_ahead hold.2.2.1 hold.2.2.2))

/-- A run takes nothing from rows where none may go. -/
lemma run_of_final (hfinal : Final fixed names group key depth final)
    (h : Relation.ReflTransGen (Prunes fixed names group key depth) final later) : later = final :=
  Finset.Subset.antisymm (run_subset h) (final_subset_run Relation.ReflTransGen.refl hfinal h)

/-- Runs to the end agree on what remains. -/
theorem final_unique {other : Finset α} (hend : Relation.ReflTransGen (Prunes fixed names group key depth) rows final)
    (hfinal : Final fixed names group key depth final)
    (hother : Relation.ReflTransGen (Prunes fixed names group key depth) rows other)
    (hdone : Final fixed names group key depth other) : final = other :=
  Finset.Subset.antisymm (final_subset_run hend hfinal hother) (final_subset_run hother hdone hend)

/-- In the end a row remains exactly where it is not free or fewer than `depth` newer rows of its group, counted among all
the rows of the start, are free. -/
theorem mem_final_iff (hend : Relation.ReflTransGen (Prunes fixed names group key depth) rows final)
    (hfinal : Final fixed names group key depth final) (hrow : row ∈ rows) :
    row ∈ final ↔ ¬Free fixed names final row ∨
      (rows.filter fun other => Free fixed names final other ∧ group other = group row ∧ key row < key other).card < depth := by
  constructor
  · intro hmem
    by_contra hnot
    obtain ⟨hfree, hcount⟩ := not_or.mp hnot
    rw [not_not] at hfree
    apply hfinal row
    refine ⟨hmem, hfree, ?_⟩
    by_cases hall : (rows.filter fun other => Free fixed names final other ∧ group other = group row ∧ key row < key other) ⊆ final
    · apply (not_lt.mp hcount).trans
      apply Finset.card_le_card
      intro other hother
      exact mem_ahead.mpr ⟨hall hother, (Finset.mem_filter.mp hother).2⟩
    · obtain ⟨other, hother, hgone⟩ := Finset.not_subset.mp hall
      obtain ⟨hold, -, hgroup, hkey⟩ := Finset.mem_filter.mp hother
      obtain ⟨-, hbehind⟩ := run_behind hend hold hgone
      exact hbehind.trans (Finset.card_le_card (ahead_subset_ahead hgroup hkey))
  · intro hor
    by_contra hout
    obtain ⟨hfree, hbehind⟩ := run_behind hend hrow hout
    obtain hnot | hcount := hor
    · exact hnot hfree
    · apply absurd hbehind
      apply not_le.mpr
      apply lt_of_le_of_lt _ hcount
      apply Finset.card_le_card
      intro other hother
      have hold := mem_ahead.mp hother
      exact Finset.mem_filter.mpr ⟨run_subset hend hold.1, hold.2⟩

end Pruning
