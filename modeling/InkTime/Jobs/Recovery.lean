import InkTime.Jobs.Calls

/-!
# Lease recovery

`recover_stale` works through the rows of one query. Ids are unique, so the loop touches every stale
item once, as its row says.
-/

namespace InkTime.Jobs

lemma mem_settle {db : Db} {jobId : String} {matching : Item → Bool} {set : Item → ItemState}
    {count : JobState → JobState} {item : Item} :
    item ∈ (settle db jobId matching set count).1.items ↔ ∃ before ∈ db.items,
      (if matching before then { before with state := set before } else before) = item := by
  unfold settle
  split
  · exact mem_setItems
  · next hnone =>
    have hmatch : ∀ before ∈ db.items, matching before = false := by
      intro before hbefore
      by_contra h
      exact hnone (Table.any_of_mem hbefore (by simpa using h))
    constructor
    · intro hitem
      exact ⟨item, hitem, by simp [hmatch item hitem]⟩
    · rintro ⟨before, hbefore, rfl⟩
      simpa [hmatch before hbefore] using hbefore

/-- What the recovery of one row makes of an item. -/
def recoverState (now : Nat) (item : Item) (row : StaleRow) : ItemState :=
  if item.id == row.id && stale now item then
    if row.givenUp then item.state.leave .failed else { item.state.leave .pending with availableAt := now }
  else item.state

def recoverItem (now : Nat) (item : Item) (row : StaleRow) : Item :=
  { item with state := recoverState now item row }

lemma mem_recoverRow {now : Nat} {acc : Db × Nat} {row : StaleRow} {item : Item} :
    item ∈ (recoverRow now acc row).1.items ↔ ∃ before ∈ acc.1.items, recoverItem now before row = item := by
  have heach : ∀ before : Item, recoverItem now before row =
      (if before.id == row.id && stale now before then
        { before with state :=
          if row.givenUp then before.state.leave .failed else { before.state.leave .pending with availableAt := now } }
      else before) := by
    intro before
    unfold recoverItem recoverState
    split <;> rfl
  simp only [heach]
  unfold recoverRow
  cases hg : row.givenUp with
  | true => exact mem_settle
  | false => exact mem_setItems

lemma mem_recoverRows {now : Nat} {rows : List StaleRow} {acc : Db × Nat} {item : Item} :
    item ∈ (rows.foldl (recoverRow now) acc).1.items ↔
      ∃ before ∈ acc.1.items, rows.foldl (recoverItem now) before = item := by
  induction rows generalizing acc with
  | nil => simp
  | cons row rest ih =>
    rw [List.foldl_cons, ih]
    constructor
    · rintro ⟨middle, hmiddle, rfl⟩
      obtain ⟨before, hbefore, rfl⟩ := mem_recoverRow.mp hmiddle
      exact ⟨before, hbefore, rfl⟩
    · rintro ⟨before, hbefore, rfl⟩
      exact ⟨_, mem_recoverRow.mpr ⟨before, hbefore, rfl⟩, rfl⟩

lemma recoverRows_jobs {now : Nat} {rows : List StaleRow} {db : Db} {acc : Db × Nat}
    (h : JobsBy (fun job status => status = job.state.status) db acc.1) :
    JobsBy (fun job status => status = job.state.status) db (rows.foldl (recoverRow now) acc).1 := by
  induction rows generalizing acc with
  | nil => exact h
  | cons row rest ih =>
    apply ih
    unfold recoverRow
    dsimp only
    split
    · unfold settle
      split
      · exact JobsBy.setJobs h fun _ => rfl
      · exact h
    · exact h

lemma recoverRow_frame {db : Db} {acc : Db × Nat} (h : Frame db acc.1) (now : Nat) (row : StaleRow) :
    Frame db (recoverRow now acc row).1 := by
  unfold recoverRow
  dsimp only
  split
  · unfold settle
    split
    · exact (h.setItems _ _).setJobs _ _
    · exact h
  · exact h.setItems _ _

lemma recoverRows_frame {db : Db} {acc : Db × Nat} (h : Frame db acc.1) (now : Nat) (rows : List StaleRow) :
    Frame db (rows.foldl (recoverRow now) acc).1 := by
  induction rows generalizing acc with
  | nil => exact h
  | cons row rest ih => exact ih (recoverRow_frame h now row)

lemma recoverItem_of_fresh {now : Nat} {item : Item} (h : stale now item = false) (rows : List StaleRow) :
    rows.foldl (recoverItem now) item = item := by
  induction rows with
  | nil => rfl
  | cons row rest ih =>
    have hsame : recoverItem now item row = item := by simp [recoverItem, recoverState, h]
    rw [List.foldl_cons, hsame, ih]

/-- Recovery touches a stale item once, as its row in the query says. -/
lemma recoverItem_of_stale {now : Nat} {item : Item} {row : StaleRow} {rows : List StaleRow}
    (hstale : stale now item = true) (hid : item.id = row.id)
    (hrows : ∀ other ∈ rows, other.id = item.id → other = row) (hmem : row ∈ rows) :
    rows.foldl (recoverItem now) item = recoverItem now item row := by
  induction rows with
  | nil => cases hmem
  | cons other rest ih =>
    rw [List.foldl_cons]
    by_cases hother : other.id = item.id
    · obtain rfl := hrows other (by simp) hother
      apply recoverItem_of_fresh
      unfold recoverItem recoverState
      simp only [hid, beq_self_eq_true, hstale, Bool.and_self, if_true]
      split <;> simp [stale, ItemState.leave]
    · have hne : ¬row = other := fun heq => hother (heq ▸ hid.symm)
      have hskip : recoverItem now item other = item := by
        simp [recoverItem, recoverState, Ne.symm hother]
      rw [hskip]
      exact ih (fun o ho => hrows o (by simp [ho])) (by simpa [hne] using hmem)

lemma mem_staleRows {now : Nat} {db : Db} {row : StaleRow} :
    row ∈ staleRows now db ↔ ∃ item ∈ db.items, staleRow now db item = some row := by
  unfold staleRows
  rw [List.mem_insertionSort]
  exact List.mem_filterMap

lemma staleRow_spec {now : Nat} {db : Db} {item : Item} {row : StaleRow} (h : staleRow now db item = some row) :
    stale now item = true ∧ row.id = item.id ∧ row.jobId = item.jobId ∧ (db.jobs.find item.jobId).isSome := by
  unfold staleRow at h
  split at h
  · next hstale =>
    obtain ⟨job, hfind, rfl⟩ := Option.map_eq_some_iff.mp h
    exact ⟨hstale, rfl, rfl, by simp [hfind]⟩
  · cases h

lemma staleRow_isSome {now : Nat} {db : Db} {item : Item} :
    (staleRow now db item).isSome = emptied db item (.recoverStale now) := by
  unfold staleRow emptied
  split
  · next h => simp [h]
  · next h => simp [h]

/-- Items after the loop over the stale rows. -/
lemma recoverRows_item {now : Nat} {db : Db} {item : Item} (hitem : item ∈ db.items) :
    (staleRows now db).foldl (recoverItem now) item =
      match staleRow now db item with
      | some row => recoverItem now item row
      | none => item := by
  have hunique : ∀ row ∈ staleRows now db, row.id = item.id → staleRow now db item = some row := by
    intro row hrow hid
    obtain ⟨other, hother, hother_row⟩ := mem_staleRows.mp hrow
    obtain ⟨-, hother_id, -⟩ := staleRow_spec hother_row
    obtain rfl : other = item := Table.eq_of_key_eq hother hitem (hother_id.symm.trans hid)
    exact hother_row
  cases hrow : staleRow now db item with
  | some row =>
    obtain ⟨hstale, hid, -⟩ := staleRow_spec hrow
    apply recoverItem_of_stale hstale hid.symm
    · intro other hother hother_id
      have := hunique other hother hother_id
      rw [hrow] at this
      exact (Option.some.inj this).symm
    · exact mem_staleRows.mpr ⟨item, hitem, hrow⟩
  | none =>
    -- no row of the query has this id, so no recovery touches it
    have hskip : ∀ rows : List StaleRow, (∀ row ∈ rows, row ∈ staleRows now db) →
        rows.foldl (recoverItem now) item = item := by
      intro rows
      induction rows with
      | nil => exact fun _ => rfl
      | cons row rest ih =>
        intro hrows
        have hne : ¬item.id = row.id := by
          intro heq
          have := hunique row (hrows row (by simp)) heq.symm
          rw [hrow] at this
          cases this
        have hsame : recoverItem now item row = item := by simp [recoverItem, recoverState, hne]
        rw [List.foldl_cons, hsame]
        exact ih fun r hr => hrows r (by simp [hr])
    exact hskip _ fun _ h => h

lemma recoverItem_move {db db' : Db} {now : Nat} {item : Item} {row : StaleRow} (hrow : staleRow now db item = some row) :
    ItemMove db db' item (.recoverStale now) (recoverItem now item row).state := by
  obtain ⟨hstale, hid, -⟩ := staleRow_spec hrow
  unfold recoverItem recoverState
  simp only [hid, beq_self_eq_true, hstale, Bool.and_self, if_true]
  cases hg : row.givenUp with
  | true => exact .givenUp hstale hrow hg
  | false => exact .recovered hstale hrow hg

lemma recoverStale_moved (db : Db) (now : Nat) : Moved db (.recoverStale now) (recoverStale db now).1 := by
  unfold recoverStale
  split
  · dsimp only
    refine ⟨?_, ?_, (recoverRows_frame (Frame.refl db) now _).setJobs _ _⟩
    · intro after hafter
      obtain ⟨before, hbefore, rfl⟩ := mem_recoverRows.mp hafter
      rw [recoverRows_item hbefore]
      cases hrow : staleRow now db before with
      | some row => exact ⟨before, hbefore, _, rfl, recoverItem_move hrow⟩
      | none =>
        refine ⟨before, hbefore, before.state, rfl, .stay ?_⟩
        rw [← staleRow_isSome, hrow]
        rfl
    · intro after hafter
      obtain ⟨middle, hmiddle, rfl⟩ := mem_setJobs.mp hafter
      obtain ⟨before, hbefore, state, rfl, hstatus⟩ :=
        recoverRows_jobs (JobsBy.of_eq rfl fun _ _ => rfl) middle hmiddle
      split
      · next hsettled =>
        refine ⟨before, hbefore, _, rfl, ?_⟩
        simp only [pauseSettled, Bool.and_eq_true, beq_iff_eq, Bool.not_eq_true'] at hsettled
        obtain ⟨hpausing, hidle⟩ := hsettled
        apply JobMove.drained (hstatus ▸ hpausing)
        intro item hitem hjob hrunning
        rw [← staleRow_isSome]
        by_contra hnone
        -- an item the loop does not touch is still running afterwards
        have hkept : item ∈ ((staleRows now db).foldl (recoverRow now) (db, 0)).1.items := by
          refine mem_recoverRows.mpr ⟨item, hitem, ?_⟩
          rw [recoverRows_item hitem]
          simp only [Bool.not_eq_true, Option.isSome_eq_false_iff, Option.isNone_iff_eq_none] at hnone
          rw [hnone]
        have := hasItem_eq_false.mp hidle item hkept hjob
        simp [hrunning] at this
      · exact ⟨before, hbefore, state, rfl, hstatus ▸ .stay⟩
  · next hnone =>
    simp only [Bool.or_eq_true, not_or, Bool.not_eq_true] at hnone
    apply Moved.refl
    intro item hitem
    have hfresh : stale now item = false := by
      by_contra h
      rw [Table.any_of_mem hitem (by simpa using h)] at hnone
      cases hnone.1
    simp [emptied, hfresh]

end InkTime.Jobs
