import InkTime.Jobs.Refinement
import InkTime.Library.Runs

/-!
# Job counters

`completed_items` and `failed_items` are kept by increments, by recounts and by resets. They agree with
the items of the job, except that `abandon_unstarted` fails the queued items of a job without counting
them.
-/

namespace InkTime.Jobs

/-- Both counters of every job equal the number of its items in that status. -/
def CountersExact (db : Db) : Prop :=
  ∀ job ∈ db.jobs, job.state.completedItems = db.itemCount job.id .completed ∧
    job.state.failedItems = db.itemCount job.id .failed

instance (db : Db) : Decidable (CountersExact db) :=
  inferInstanceAs (Decidable (∀ job ∈ db.jobs.rows, job.state.completedItems = db.itemCount job.id .completed ∧
    job.state.failedItems = db.itemCount job.id .failed))

/-- Statuses that a counter counts. -/
def ItemStatus.counted : ItemStatus → Bool
  | .completed | .failed => true
  | _ => false

/-- A counter update that goes with items entering `target`. -/
def Counts (count : JobState → JobState) (target : ItemStatus) : Prop :=
  ∀ state, (count state).completedItems = state.completedItems + (if target = .completed then 1 else 0) ∧
    (count state).failedItems = state.failedItems + if target = .failed then 1 else 0

lemma counts_completed : Counts JobState.countCompleted .completed := fun _ => ⟨rfl, rfl⟩

lemma counts_failed : Counts JobState.countFailed .failed := fun _ => ⟨rfl, rfl⟩

lemma counts_cancelled : Counts id .cancelled := fun _ => ⟨rfl, rfl⟩

section Statements

variable {db : Db}

/-! ### Counting items after a statement -/

lemma itemCount_setItems {matching : Item → Bool} {set : Item → ItemState} {owner : String} {status : ItemStatus}
    (h : ∀ item ∈ db.items, matching item = true → item.jobId = owner →
      ((set item).status = status ↔ item.state.status = status)) :
    (db.setItems matching set).itemCount owner status = db.itemCount owner status := by
  unfold Db.itemCount Db.setItems
  rw [Table.count_update_keeps]
  intro item hitem hm
  by_cases howner : item.jobId = owner
  · rw [Bool.eq_iff_iff]
    simp [howner, h item hitem hm howner]
  · simp [beq_eq_false_iff_ne.mpr howner]

lemma itemCount_setItems_one {matching : Item → Bool} {set : Item → ItemState} (itemId : String) {jobId : String}
    {status : ItemStatus} (hany : db.items.any matching = true)
    (h : ∀ item ∈ db.items, matching item = true → item.id = itemId ∧ item.jobId = jobId ∧
      item.state.status ≠ status ∧ (set item).status = status) :
    (db.setItems matching set).itemCount jobId status = db.itemCount jobId status + 1 := by
  have hone : db.items.affected matching = 1 :=
    Table.affected_eq_one hany fun item hitem hm => (h item hitem hm).1
  unfold Db.itemCount Db.setItems
  rw [Table.count_update_into, hone]
  · intro item hitem hm
    simp [(h item hitem hm).2.2.1]
  · intro item hitem hm
    simp [(h item hitem hm).2.1, (h item hitem hm).2.2.2]

/-! ### Statements that keep the counters exact -/

lemma CountersExact.setJobs (h : CountersExact db) {matching : Job → Bool} {set : JobState → JobState}
    (hset : ∀ state, (set state).completedItems = state.completedItems ∧ (set state).failedItems = state.failedItems) :
    CountersExact (db.setJobs matching set) := by
  intro job hjob
  obtain ⟨before, hbefore, rfl⟩ := mem_setJobs.mp hjob
  obtain ⟨hcompleted, hfailed⟩ := h before hbefore
  simp only [setJobs_itemCount]
  split
  · exact ⟨(hset before.state).1.trans hcompleted, (hset before.state).2.trans hfailed⟩
  · exact ⟨hcompleted, hfailed⟩

lemma CountersExact.moveJobs (h : CountersExact db) (matching : Job → Bool) (target : JobStatus) :
    CountersExact (db.moveJobs matching target) :=
  h.setJobs fun _ => ⟨rfl, rfl⟩

/-- Items that move among the uncounted statuses. -/
lemma CountersExact.setItems (h : CountersExact db) {matching : Item → Bool} {set : Item → ItemState}
    (hset : ∀ item ∈ db.items, matching item = true →
      item.state.status.counted = false ∧ (set item).status.counted = false) :
    CountersExact (db.setItems matching set) := by
  have hcount : ∀ owner status, status.counted = true →
      (db.setItems matching set).itemCount owner status = db.itemCount owner status := by
    intro owner status hcounted
    apply itemCount_setItems
    intro item hitem hm _
    obtain ⟨hbefore, hafter⟩ := hset item hitem hm
    constructor
    · intro heq
      rw [heq, hcounted] at hafter
      cases hafter
    · intro heq
      rw [heq, hcounted] at hbefore
      cases hbefore
  intro job hjob
  rw [hcount job.id .completed rfl, hcount job.id .failed rfl]
  exact h job hjob

/-- A settlement counts its item where it puts it. -/
lemma CountersExact.settle (h : CountersExact db) {jobId : String} (itemId : String) {matching : Item → Bool}
    {set : Item → ItemState} {count : JobState → JobState} {target : ItemStatus} (hcount : Counts count target)
    (hset : ∀ item ∈ db.items, matching item = true → item.id = itemId ∧ item.jobId = jobId ∧
      item.state.status.counted = false ∧ (set item).status = target) :
    CountersExact (settle db jobId matching set count).1 := by
  unfold Jobs.settle
  split
  · next hany =>
    have hitems : ∀ owner status, status.counted = true → (db.setItems matching set).itemCount owner status =
        db.itemCount owner status + if owner = jobId ∧ target = status then 1 else 0 := by
      intro owner status hcounted
      split
      · next hsame =>
        obtain ⟨rfl, rfl⟩ := hsame
        refine itemCount_setItems_one itemId hany ?_
        intro item hitem hm
        obtain ⟨hid, hjob, huncounted, htarget⟩ := hset item hitem hm
        refine ⟨hid, hjob, ?_, htarget⟩
        intro heq
        rw [heq, hcounted] at huncounted
        cases huncounted
      · next hother =>
        rw [Nat.add_zero]
        apply itemCount_setItems
        intro item hitem hm howner
        obtain ⟨-, hjob, huncounted, htarget⟩ := hset item hitem hm
        constructor
        · intro heq
          exact absurd ⟨howner.symm.trans hjob, htarget.symm.trans heq⟩ hother
        · intro heq
          rw [heq, hcounted] at huncounted
          cases huncounted
    intro job hjob
    obtain ⟨before, hbefore, rfl⟩ := mem_setJobs.mp hjob
    obtain ⟨hcompleted, hfailed⟩ := h before hbefore
    have hcompleted_after := hitems before.id .completed rfl
    have hfailed_after := hitems before.id .failed rfl
    simp only [setJobs_itemCount]
    by_cases hid : before.id = jobId
    · obtain ⟨hcompleted_count, hfailed_count⟩ := hcount before.state
      simp only [hid, beq_self_eq_true, if_true, true_and] at hcompleted hfailed hcompleted_after hfailed_after ⊢
      omega
    · simp [hid, hcompleted, hfailed, hcompleted_after, hfailed_after]
  · exact h

/-- A recount makes the counters of one job exact; the others have to be exact already. -/
lemma CountersExact.of_others {set : JobState → JobState} {matching : Job → Bool}
    (hothers : ∀ job ∈ db.jobs, matching job = false → job.state.completedItems = db.itemCount job.id .completed ∧
      job.state.failedItems = db.itemCount job.id .failed)
    (hset : ∀ job ∈ db.jobs, matching job = true →
      (set job.state).completedItems = db.itemCount job.id .completed ∧
        (set job.state).failedItems = db.itemCount job.id .failed) :
    CountersExact (db.setJobs matching set) := by
  intro job hjob
  obtain ⟨before, hbefore, rfl⟩ := mem_setJobs.mp hjob
  simp only [setJobs_itemCount]
  cases hm : matching before with
  | true =>
    rw [if_pos rfl]
    exact hset before hbefore hm
  | false => exact hothers before hbefore hm

/-- Items of other jobs are not counted here. -/
lemma itemCount_other {jobId : String} {allowed : ItemStatus → Bool} {set : Item → ItemState} {owner : String}
    {status : ItemStatus} (howner : owner ≠ jobId) :
    (db.setItems (itemIn jobId allowed) set).itemCount owner status = db.itemCount owner status := by
  apply itemCount_setItems
  intro item _ hm hjob
  exact absurd (hjob.symm.trans (itemIn_iff.mp hm).1) howner

/-- Queued items that fail leave the completed ones alone. -/
lemma itemCount_completed {jobId : String} {allowed : ItemStatus → Bool} {set : Item → ItemState} {owner : String}
    (hallowed : allowed .completed = false) (hset : ∀ item, (set item).status ≠ .completed) :
    (db.setItems (itemIn jobId allowed) set).itemCount owner .completed = db.itemCount owner .completed := by
  apply itemCount_setItems
  intro item _ hm _
  constructor
  · intro heq
    exact absurd heq (hset item)
  · intro heq
    rw [itemIn_iff, heq, hallowed] at hm
    cases hm.2

lemma itemCount_eq_zero {owner : String} {status : ItemStatus}
    (h : ∀ item ∈ db.items, item.jobId = owner → item.state.status ≠ status) : db.itemCount owner status = 0 := by
  unfold Db.itemCount Table.count
  rw [List.countP_eq_zero]
  intro item hitem
  by_cases howner : item.jobId = owner
  · simp [h item hitem howner]
  · simp [howner]

/-- A refused commit changes nothing. -/
lemma CountersExact.of_commit {α : Type} {db' : Db} {result : α} (h : CountersExact db) (h' : CountersExact db') :
    CountersExact ((db'.commit result).after db) := by
  obtain hafter | hafter := after_commit db db' result
  · rw [hafter]
    exact h'
  · rw [hafter]
    exact h

/-! ### Calls -/

lemma runningItem_uncounted {jobId itemId : String} {workerId : Option String} {item : Item}
    (h : runningItem jobId itemId workerId item = true) :
    item.id = itemId ∧ item.jobId = jobId ∧ item.state.status.counted = false := by
  obtain ⟨hid, hjob, hrunning, -⟩ := runningItem_iff.mp h
  exact ⟨hid, hjob, by rw [hrunning]; rfl⟩

lemma queued_uncounted {status : ItemStatus} (h : status.queued = true) : status.counted = false := by
  cases status <;> first | rfl | cases h

lemma completeItem_countersExact (h : CountersExact db) (jobId itemId : String) (workerId : Option String) :
    CountersExact (completeItem db jobId itemId workerId).1 := by
  unfold completeItem
  dsimp only
  split
  · refine h.setItems ?_
    intro item _ hm
    exact ⟨(runningItem_uncounted hm).2.2, rfl⟩
  · refine h.settle itemId counts_completed ?_
    intro item _ hm
    obtain ⟨hid, hjob, huncounted⟩ := runningItem_uncounted hm
    exact ⟨hid, hjob, huncounted, rfl⟩

lemma recordLateCompletion_countersExact (h : CountersExact db) (jobId itemId : String) (workerId : Option String) :
    CountersExact (recordLateCompletion db jobId itemId workerId).1 := by
  refine h.settle itemId counts_failed ?_
  intro item _ hm
  obtain ⟨hid, hjob, huncounted⟩ := runningItem_uncounted hm
  exact ⟨hid, hjob, huncounted, rfl⟩

lemma failItem_countersExact (h : CountersExact db) (jobId itemId : String) (maxAttempts : Int)
    (retryInterval : Option Int) (workerId : Option String) (now : Nat) :
    CountersExact (failItem db jobId itemId maxAttempts retryInterval workerId now).1 := by
  unfold failItem
  split
  · exact h
  · next found hfind =>
    split
    · refine h.settle itemId counts_failed ?_
      intro item hitem hm
      obtain ⟨-, hjob, hrunning, -⟩ := find_runningItem db hfind hitem hm
      exact ⟨by simpa using hm, hjob, by rw [hrunning]; rfl, rfl⟩
    · refine h.setItems ?_
      intro item hitem hm
      obtain ⟨-, -, hrunning, -⟩ := find_runningItem db hfind hitem hm
      exact ⟨by rw [hrunning]; rfl, rfl⟩

lemma deferItem_countersExact (h : CountersExact db) (itemId : String) (workerId : Option String)
    (availableAt : Nat) (deferPending : Bool) :
    CountersExact (deferItem db itemId workerId availableAt deferPending).1 := by
  have hreturned : CountersExact (db.setItems
      (fun item => item.id == itemId && item.state.status == .running && ownedBy workerId item)
      fun item => item.state.deferred availableAt) := by
    refine h.setItems ?_
    intro item _ hm
    simp only [Bool.and_eq_true, beq_iff_eq] at hm
    exact ⟨by rw [hm.1.2]; rfl, rfl⟩
  unfold deferItem
  dsimp only
  split
  · split
    · refine hreturned.setItems ?_
      intro item _ hm
      simp only [Bool.and_eq_true, beq_iff_eq] at hm
      exact ⟨by rw [hm.2]; rfl, by rw [hm.2]; rfl⟩
    · exact hreturned
  · exact h

lemma claim_countersExact (h : CountersExact db) (jobId workerId : String) (limit : Int) (env : ClaimEnv) :
    CountersExact ((claim db jobId workerId limit env).after db) := by
  unfold claim
  split
  · exact h
  · split
    · exact h
    · split
      · exact h
      · next settings _ =>
        split
        · exact h
        · refine h.setItems ?_
          intro item hitem hm
          obtain ⟨row, hrow, hid⟩ := List.mem_map.mp (List.contains_iff_mem.mp hm)
          obtain ⟨hmem, -, hpending⟩ := mem_claimRows db hrow
          obtain rfl : row = item := Table.eq_of_key_eq hmem hitem hid
          exact ⟨by rw [hpending]; rfl, rfl⟩

lemma cancel_countersExact (h : CountersExact db) (jobId : String) : CountersExact (cancel db jobId).1 := by
  unfold cancel
  dsimp only
  split
  · refine (h.moveJobs _ _).setItems ?_
    intro item _ hm
    exact ⟨queued_uncounted (itemIn_iff.mp hm).2, rfl⟩
  · exact h

lemma openItem_countersExact (h : CountersExact db) (jobId itemId : String) {target : ItemStatus}
    {count : JobState → JobState} (hcount : Counts count target) :
    CountersExact (Jobs.settle db jobId (openItem jobId itemId) (fun item => item.state.closed target) count).1 := by
  refine h.settle itemId hcount ?_
  intro item _ hm
  obtain ⟨hid, hjob, hopen⟩ := openItem_iff.mp hm
  refine ⟨hid, hjob, ?_, rfl⟩
  cases hs : item.state.status <;> simp_all [ItemStatus.unsettled, ItemStatus.counted]

lemma requestPause_countersExact (h : CountersExact db) (jobId : String) :
    CountersExact (requestPause db jobId).1 := by
  unfold requestPause
  split
  · exact h
  · split
    · exact h
    · exact h.moveJobs _ _

lemma renewLeases_countersExact (h : CountersExact db) (jobId workerId : String) (leaseUntil : Nat) :
    CountersExact (renewLeases db jobId workerId leaseUntil).1 := by
  refine h.setItems ?_
  intro item _ hm
  simp only [Bool.and_eq_true, beq_iff_eq] at hm
  exact ⟨by rw [hm.2]; rfl, by rw [hm.2]; rfl⟩

lemma finalizeIfDone_countersExact (h : CountersExact db) (jobId : String) (finalizerFails : Bool) :
    CountersExact (finalizeIfDone db jobId finalizerFails).1 := by
  unfold finalizeIfDone
  split
  · exact h
  · split
    · exact h
    · split
      · exact h
      · exact h.moveJobs _ _

lemma finalizeBatchJob_countersExact (h : CountersExact db) (jobId : String) (status : JobStatus) :
    CountersExact ((finalizeBatchJob db jobId status).after db) := by
  unfold finalizeBatchJob
  split
  · exact h
  · exact h.moveJobs _ _

lemma failInvalidSettings_countersExact (h : CountersExact db) (jobId : String) :
    CountersExact (failInvalidSettings db jobId).1 := by
  unfold failInvalidSettings
  dsimp only
  split
  · -- the failed items are recounted, the completed ones were not touched
    refine CountersExact.of_others ?_ ?_
    · intro job hjob hother
      have hne : job.id ≠ jobId := by simpa using hother
      rw [itemCount_other hne, itemCount_other hne]
      exact h.moveJobs _ _ job hjob
    · intro job hjob hm
      obtain rfl : job.id = jobId := by simpa using hm
      refine ⟨?_, rfl⟩
      rw [itemCount_completed rfl fun item => by simp [ItemState.leave]]
      exact (h.moveJobs _ _ job hjob).1
  · exact h

lemma retryFailed_countersExact (h : CountersExact db) (jobId : String) (batchHolds : Photo → Bool) (now : Nat) :
    CountersExact ((retryFailed db jobId batchHolds now).after db) := by
  unfold retryFailed
  split
  · exact h
  · next job hfind =>
    obtain ⟨hjob, hjobId⟩ := Table.find_eq_some hfind
    split
    · exact h
    · next hretryable =>
      split
      · exact h
      · dsimp only
        split
        · exact h
        · refine CountersExact.of_commit h (CountersExact.of_others ?_ ?_)
          · intro other hother hm
            have hne : other.id ≠ jobId := by
              intro heq
              obtain rfl := Table.eq_of_key_eq hother hjob (heq.trans hjobId.symm)
              simp only [Bool.not_eq_true, Bool.not_eq_false'] at hretryable
              simp [jobIn, heq, hretryable] at hm
            rw [itemCount_other hne, itemCount_other hne]
            exact h other hother
          · intro other hother hm
            obtain ⟨rfl, -⟩ := jobIn_iff.mp hm
            refine ⟨?_, ?_⟩
            · rw [itemCount_completed rfl fun item => by simp]
              exact (h other hother).1
            · symm
              refine itemCount_eq_zero ?_
              intro item hitem hid
              obtain ⟨before, -, rfl⟩ := mem_setItems.mp hitem
              cases hin : itemIn other.id (· == .failed) before with
              | true => simp
              | false =>
                rw [hin] at hid
                intro hfailed
                have hout : itemIn other.id (· == .failed) before = true :=
                  itemIn_iff.mpr ⟨hid, by simpa using hfailed⟩
                rw [hin] at hout
                cases hout

lemma reopenBatchJob_countersExact (h : CountersExact db) (jobId : String) :
    CountersExact ((reopenBatchJob db jobId).after db) := by
  unfold reopenBatchJob
  dsimp only
  split
  · refine CountersExact.of_commit h (CountersExact.of_others ?_ ?_)
    · intro job hjob hother
      have hne : job.id ≠ jobId := by simpa using hother
      rw [itemCount_other hne, itemCount_other hne]
      exact h.moveJobs _ _ job hjob
    · intro job hjob hm
      obtain rfl : job.id = jobId := by simpa using hm
      exact ⟨rfl, rfl⟩
  · exact h

lemma recoverRow_countersExact {acc : Db × Nat} (h : CountersExact acc.1) {row : StaleRow}
    (hrow : ∀ item ∈ acc.1.items, item.id = row.id → item.jobId = row.jobId) (now : Nat) :
    CountersExact (recoverRow now acc row).1 := by
  unfold recoverRow
  dsimp only
  split
  · refine h.settle row.id counts_failed ?_
    intro item hitem hm
    simp only [Bool.and_eq_true, beq_iff_eq] at hm
    exact ⟨hm.1, hrow item hitem hm.1, by rw [stale_running hm.2]; rfl, rfl⟩
  · refine h.setItems ?_
    intro item _ hm
    simp only [Bool.and_eq_true, beq_iff_eq] at hm
    exact ⟨by rw [stale_running hm.2]; rfl, rfl⟩

lemma recoverRows_countersExact (now : Nat) {rows : List StaleRow} {acc : Db × Nat} (h : CountersExact acc.1)
    (hrows : ∀ row ∈ rows, ∀ item ∈ acc.1.items, item.id = row.id → item.jobId = row.jobId) :
    CountersExact (rows.foldl (recoverRow now) acc).1 := by
  induction rows generalizing acc with
  | nil => exact h
  | cons row rest ih =>
    refine ih (recoverRow_countersExact h (hrows row List.mem_cons_self) now) ?_
    -- recovery changes neither ids nor owners
    intro other hother item hitem hid
    obtain ⟨before, hbefore, rfl⟩ := mem_recoverRow.mp hitem
    exact hrows other (List.mem_cons_of_mem _ hother) before hbefore hid

lemma recoverStale_countersExact (h : CountersExact db) (now : Nat) : CountersExact (recoverStale db now).1 := by
  unfold recoverStale
  split
  · dsimp only
    refine CountersExact.moveJobs (recoverRows_countersExact now h ?_) _ _
    intro row hrow item hitem hid
    obtain ⟨other, hother, hother_row⟩ := mem_staleRows.mp hrow
    obtain ⟨-, hother_id, hother_job, -⟩ := staleRow_spec hother_row
    rw [Table.eq_of_key_eq hitem hother (hid.trans hother_id)]
    exact hother_job.symm
  · exact h

/-- Calls that fail queued items without counting them. -/
def miscounts (db : Db) : Op → Bool
  | .abandonUnstarted jobId => db.jobs.any (jobIn jobId (· == .pending)) && db.hasItem jobId ItemStatus.queued
  | _ => false

lemma abandonUnstarted_countersExact (h : CountersExact db) {jobId : String}
    (hnone : miscounts db (.abandonUnstarted jobId) = false) : CountersExact (abandonUnstarted db jobId).1 := by
  unfold abandonUnstarted
  dsimp only
  split
  · next hany =>
    simp only [miscounts, hany, Bool.true_and] at hnone
    refine (h.moveJobs _ _).setItems ?_
    intro item hitem hm
    obtain ⟨hid, hqueued⟩ := itemIn_iff.mp hm
    rw [hasItem_eq_false.mp hnone item hitem hid] at hqueued
    cases hqueued
  · exact h

lemma created_countersExact {db' : Db} {jobId : String} {kind : JobKind} (howned : ItemsOwned db)
    (h : CountersExact db) (hcreated : Created db jobId kind db') : CountersExact db' := by
  intro job hjob
  rw [hcreated.counts job.id .completed (by decide), hcreated.counts job.id .failed (by decide)]
  obtain hold | ⟨hid, -, -, hcompleted, hfailed⟩ := hcreated.jobs job hjob
  · exact h job hold
  · -- no item can belong to a job that does not exist yet
    have hnone : ∀ status, db.itemCount job.id status = 0 := by
      intro status
      apply itemCount_eq_zero
      intro item hitem howner
      have hknown := howned item hitem
      rw [howner, hid] at hknown
      exact absurd hknown hcreated.fresh
    rw [hnone, hnone]
    exact ⟨hcompleted, hfailed⟩

lemma reuseJob_countersExact (h : CountersExact db) (existing : Job) (requestFingerprint : Option String) :
    CountersExact ((reuseJob db existing requestFingerprint).after db) := by
  unfold reuseJob
  dsimp only
  split
  · exact h
  · split
    · rw [after_ok]
      exact h.setJobs fun _ => ⟨rfl, rfl⟩
    · exact h

lemma answered_countersExact {db' : Db} {jobId : String} {kind : JobKind} (howned : ItemsOwned db)
    (h : CountersExact db) (hanswered : Answered db jobId kind db') : CountersExact db' := by
  cases hanswered with
  | refused => exact h
  | reused existing requestFingerprint => exact reuseJob_countersExact h existing requestFingerprint
  | created hcreated => exact created_countersExact howned h hcreated

end Statements

/-! ### Runs -/

lemma step_countersExact {db : Db} {op : Op} (howned : ItemsOwned db) (h : CountersExact db)
    (hcounts : miscounts db op = false) : CountersExact (step db op) := by
  cases op with
  | create request => exact answered_countersExact howned h (create_answered db request)
  | createMaintenance request => exact answered_countersExact howned h (createMaintenance_answered db request)
  | transition jobId fromStatuses toStatus => exact h.of_commit (h.moveJobs _ _)
  | requestPause jobId => exact requestPause_countersExact h jobId
  | acknowledgePause jobId => exact h.moveJobs _ _
  | cancel jobId => exact cancel_countersExact h jobId
  | claim jobId workerId limit env => exact claim_countersExact h jobId workerId limit env
  | renewLeases jobId workerId leaseUntil => exact renewLeases_countersExact h jobId workerId leaseUntil
  | completeItem jobId itemId workerId => exact completeItem_countersExact h jobId itemId workerId
  | recordLateCompletion jobId itemId workerId => exact recordLateCompletion_countersExact h jobId itemId workerId
  | deferItem itemId workerId availableAt deferPending =>
    exact deferItem_countersExact h itemId workerId availableAt deferPending
  | failItem jobId itemId maxAttempts retryInterval workerId now =>
    exact failItem_countersExact h jobId itemId maxAttempts retryInterval workerId now
  | failInvalidSettings jobId => exact failInvalidSettings_countersExact h jobId
  | finalizeIfDone jobId finalizerFails => exact finalizeIfDone_countersExact h jobId finalizerFails
  | recoverStale now => exact recoverStale_countersExact h now
  | retryFailed jobId batchHolds now => exact retryFailed_countersExact h jobId batchHolds now
  | completeBatchItem jobId itemId => exact openItem_countersExact h jobId itemId counts_completed
  | failBatchItem jobId itemId => exact openItem_countersExact h jobId itemId counts_failed
  | cancelBatchItem jobId itemId => exact openItem_countersExact h jobId itemId counts_cancelled
  | finalizeBatchJob jobId status => exact finalizeBatchJob_countersExact h jobId status
  | abandonUnstarted jobId => exact abandonUnstarted_countersExact h hcounts
  | reopenBatchJob jobId => exact reopenBatchJob_countersExact h jobId

/-- The counters, with the foreign key that new jobs rely on. -/
structure Accounted (db : Db) : Prop where
  owned : ItemsOwned db
  counters : CountersExact db

/-- In every state of a run that abandons no job with queued items, the counters are exact. -/
theorem counters_exact (photos : Table Photo.id) (ops : List Op)
    (halong : Runs.Along step (fun db op => miscounts db op = false) (Db.opening photos) ops) :
    CountersExact (Runs.run step (Db.opening photos) ops) := by
  have haccounted : Accounted (Runs.run step (Db.opening photos) ops) := by
    refine Runs.invariant_of_along ?_ ?_ halong
    · rintro db op ⟨howned, hexact⟩ hcounts
      exact ⟨step_itemsOwned howned op, step_countersExact howned hexact hcounts⟩
    · refine ⟨opening_itemsOwned photos, ?_⟩
      intro job hjob
      cases hjob
  exact haccounted.counters

theorem counters_exact_completed :
    Runs.Along step (fun db op => miscounts db op = false) (Db.opening onePhoto)
      (startedRun ++ [.claim "job" "worker" 1 {}, .completeItem "job" "item" (some "worker")]) ∧
    CountersExact (Runs.run step (Db.opening onePhoto)
      (startedRun ++ [.claim "job" "worker" 1 {}, .completeItem "job" "item" (some "worker")])) :=
  ⟨by decide, counters_exact onePhoto _ (by decide)⟩

/-- Abandoning a job that never started fails its item and leaves `failed_items` at zero. -/
theorem abandoned_items_not_counted :
    ¬∀ (photos : Table Photo.id) (ops : List Op), CountersExact (Runs.run step (Db.opening photos) ops) := by
  intro h
  have hrun := h onePhoto [.create { jobId := "job", photoIds := ["photo"], drawnId := fun _ => "item" },
    .abandonUnstarted "job"]
  revert hrun
  decide

end InkTime.Jobs
