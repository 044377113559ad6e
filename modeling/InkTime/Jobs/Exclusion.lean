import InkTime.Jobs.Refinement
import InkTime.Library.Runs

/-!
# Statuses that exclude each other

Several guarantees of the repository have one shape: a job in a `closed` status has no item in a
`barred` status. The step lemma lists what a pair of status sets needs for this to be kept.
-/

namespace InkTime.Jobs

/-- No job in a closed status has an item in a barred one. -/
def Excludes (closed : JobStatus → Bool) (barred : ItemStatus → Bool) (db : Db) : Prop :=
  ∀ job ∈ db.jobs, ∀ item ∈ db.items, item.jobId = job.id → closed job.state.status = true →
    barred item.state.status = false

/-- Sets for which the ordinary life of a job is safe. -/
structure Guarded (closed : JobStatus → Bool) (barred : ItemStatus → Bool) : Prop where
  unsettled : ∀ status, barred status = true → status.unsettled = true
  pending : closed .pending = false
  claimable : ∀ status, status.claimable = true → closed status = false
  pausing : closed .pausing = false
  paused : closed .paused = true → ∀ status, barred status = true → status = .running
  cancelled : closed .cancelled = true → ∀ status, barred status = true → status.queued = true

/-- Items that a call puts back into the queue. -/
def requeues (db : Db) (item : Item) : Op → Bool
  | .deferItem itemId workerId _ _ =>
    item.id == itemId && item.state.status == .running && ownedBy workerId item
  | .failItem jobId itemId maxAttempts _ workerId _ =>
    runningItem jobId itemId workerId item && decide (¬maxAttempts ≤ item.state.attempts)
  | .recoverStale now =>
    match staleRow now db item with
    | some row => !row.givenUp
    | none => false
  | _ => false

/-- What the remaining calls have to respect. -/
structure Respects (closed : JobStatus → Bool) (barred : ItemStatus → Bool) (db : Db) (op : Op) : Prop where
  requeue : ∀ job ∈ db.jobs, ∀ item ∈ db.items, item.jobId = job.id → requeues db item op = true →
    barred .pending = true → closed job.state.status = true → barred .running = true
  transition : ∀ jobId fromStatuses toStatus, op = .transition jobId fromStatuses toStatus →
    closed toStatus = true → ∀ job ∈ db.jobs, jobIn jobId fromStatuses.contains job = true →
      ∀ item ∈ db.items, item.jobId = jobId → barred item.state.status = false
  finalize : ∀ jobId target, op = .finalizeBatchJob jobId target → target.terminal = true →
    closed target = true → ∀ job ∈ db.jobs, jobIn jobId (!·.terminal) job = true →
      ∀ item ∈ db.items, item.jobId = jobId → barred item.state.status = false
  abandon : ∀ jobId, op = .abandonUnstarted jobId → closed .failed = true →
    ∀ item ∈ db.items, item.jobId = jobId → barred item.state.status = true → item.state.status.queued = true

section Step

variable {closed : JobStatus → Bool} {barred : ItemStatus → Bool} {db db' : Db} {op : Op} {job : Job} {item : Item}
  {state : ItemState} {status : JobStatus}

lemma Guarded.settled (hguard : Guarded closed barred) {status : ItemStatus} (h : status.unsettled = false) :
    barred status = false := by
  by_contra hbarred
  rw [hguard.unsettled status (by simpa using hbarred)] at h
  cases h

/-- An item that stays, in a job that moves. -/
lemma excluded_of_stay (hguard : Guarded closed barred) (hop : Respects closed barred db op)
    (h : Excludes closed barred db) (hjob : job ∈ db.jobs) (hitem : item ∈ db.items) (hid : item.jobId = job.id)
    (hmove : JobMove db job op status) (hleft : emptied db item op = false) (hclosed : closed status = true) :
    barred item.state.status = false := by
  cases hmove with
  | stay => exact h job hjob item hitem hid hclosed
  | transitioned hfrom =>
    exact hop.transition _ _ _ rfl hclosed job hjob (jobIn_iff.mpr ⟨rfl, hfrom⟩) item hitem hid
  | pausing => simp [hguard.pausing] at hclosed
  | paused _ hidle | acknowledged _ hidle =>
    by_contra hbarred
    have hrunning := hguard.paused hclosed _ (by simpa using hbarred)
    simpa [hrunning] using hasItem_eq_false.mp hidle item hitem hid
  | drained _ hidle =>
    by_contra hbarred
    have hrunning := hguard.paused hclosed _ (by simpa using hbarred)
    rw [hidle item hitem hid hrunning] at hleft
    cases hleft
  | cancelled hopen =>
    by_contra hbarred
    have hqueued := hguard.cancelled hclosed _ (by simpa using hbarred)
    have hany : db.jobs.any (jobIn job.id (!·.terminal)) = true :=
      Table.any_of_mem hjob (jobIn_iff.mpr ⟨rfl, by simp [hopen]⟩)
    simp [emptied, hany, itemIn, hid, hqueued] at hleft
  | quarantined hclaimable hidle =>
    by_contra hbarred
    have hunsettled := hguard.unsettled _ (by simpa using hbarred)
    have hany : db.jobs.any (fun other => jobIn job.id JobStatus.claimable other &&
        !db.hasItem other.id (· == .running)) = true :=
      Table.any_of_mem hjob (by simp [jobIn, hclaimable, hidle])
    have hidle := hasItem_eq_false.mp hidle item hitem hid
    simp only [emptied, hany, itemIn, hid, beq_self_eq_true, Bool.true_and] at hleft
    cases hs : item.state.status <;> simp_all [ItemStatus.unsettled, ItemStatus.queued]
  | finalized _ hsettled => exact hguard.settled (hasItem_eq_false.mp hsettled item hitem hid)
  | retried => simp [hguard.pending] at hclosed
  | batchFinalized htarget hopen =>
    exact hop.finalize _ _ rfl htarget hclosed job hjob (jobIn_iff.mpr ⟨rfl, by simp [hopen]⟩) item hitem hid
  | abandoned hpending =>
    by_contra hbarred
    have hqueued := hop.abandon _ rfl hclosed item hitem hid (by simpa using hbarred)
    have hany : db.jobs.any (jobIn job.id (· == .pending)) = true :=
      Table.any_of_mem hjob (jobIn_iff.mpr ⟨rfl, by simp [hpending]⟩)
    simp [emptied, hany, itemIn, hid, hqueued] at hleft
  | reopened => simp [hguard.claimable .running rfl] at hclosed

/-- An item a call returns to the queue, in a job that may have moved meanwhile. -/
lemma excluded_of_requeue (hguard : Guarded closed barred) (hop : Respects closed barred db op)
    (h : Excludes closed barred db) (hjob : job ∈ db.jobs) (hitem : item ∈ db.items) (hid : item.jobId = job.id)
    (hrequeues : requeues db item op = true) (hrunning : item.state.status = .running)
    (hmove : status = job.state.status ∨ status = .paused) (hclosed : closed status = true) :
    barred .pending = false := by
  by_contra hbarred
  have hbarred : barred .pending = true := by simpa using hbarred
  obtain rfl | rfl := hmove
  · have := hop.requeue job hjob item hitem hid hrequeues hbarred hclosed
    rw [← hrunning, h job hjob item hitem hid hclosed] at this
    cases this
  · cases hguard.paused hclosed _ hbarred

lemma excluded_of_moves (hguard : Guarded closed barred) (hop : Respects closed barred db op)
    (h : Excludes closed barred db) (hjob : job ∈ db.jobs) (hitem : item ∈ db.items) (hid : item.jobId = job.id)
    {jobState : JobState} (hafter : { job with state := jobState } ∈ db'.jobs)
    (hjobMove : JobMove db job op jobState.status) (hitemMove : ItemMove db db' item op state)
    (hclosed : closed jobState.status = true) : barred state.status = false := by
  generalize hstatus : jobState.status = status at hjobMove hclosed
  cases hitemMove with
  | stay hleft => exact excluded_of_stay hguard hop h hjob hitem hid hjobMove hleft hclosed
  | renewed | heldBack => exact excluded_of_stay hguard hop h hjob hitem hid hjobMove rfl hclosed
  | claimed hother hother_id hclaimable _ =>
    obtain rfl := Table.eq_of_key_eq hother hjob (hother_id.trans hid)
    cases hjobMove with
    | stay => simp [hguard.claimable _ hclaimable] at hclosed
  | deferred hrunning howner =>
    refine excluded_of_requeue hguard hop h hjob hitem hid ?_ hrunning ?_ hclosed
    · simp [requeues, hrunning, howner]
    · cases hjobMove with | stay => exact .inl rfl
  | requeued hrunning howner hattempts =>
    refine excluded_of_requeue hguard hop h hjob hitem hid ?_ hrunning ?_ hclosed
    · simp only [requeues, Bool.and_eq_true, decide_eq_true_eq]
      exact ⟨runningItem_iff.mpr ⟨rfl, rfl, hrunning, howner⟩, hattempts⟩
    · cases hjobMove with | stay => exact .inl rfl
  | recovered hstale hrow hgivenUp =>
    refine excluded_of_requeue hguard hop h hjob hitem hid ?_ (stale_running hstale) ?_ hclosed
    · simp [requeues, hrow, hgivenUp]
    · cases hjobMove with
      | stay => exact .inl rfl
      | drained => exact .inr rfl
  | retried _ _ _ _ _ hrevived =>
    rw [← hstatus, hrevived _ hafter hid.symm, hguard.pending] at hclosed
    cases hclosed
  | reopened _ hrevived =>
    rw [← hstatus, hrevived _ hafter hid.symm, hguard.claimable .running rfl] at hclosed
    cases hclosed
  | completed | dropped | late | failed | givenUp | cancelled | quarantined | abandoned | batchCompleted |
    batchFailed | batchCancelled => exact hguard.settled rfl

theorem step_excludes (hguard : Guarded closed barred) (hop : Respects closed barred db op)
    (h : Excludes closed barred db) : Excludes closed barred (step db op) := by
  intro job hjob item hitem hid hclosed
  obtain hmoved | ⟨jobId, kind, hcreated⟩ := step_cases db op
  · obtain ⟨job, hbefore, jobState, rfl, hjobMove⟩ := hmoved.jobs job hjob
    obtain ⟨item, hitem_before, state, rfl, hitemMove⟩ := hmoved.items item hitem
    exact excluded_of_moves hguard hop h hbefore hitem_before hid hjob hjobMove hitemMove hclosed
  · obtain hold | ⟨-, -, hpending, -⟩ := hcreated.jobs job hjob
    · obtain hitem_old | ⟨hnew, -⟩ := hcreated.items item hitem
      · exact h job hold item hitem_old hid hclosed
      · have hknown := mem_jobIds hold
        rw [← hid, hnew] at hknown
        exact absurd hknown hcreated.fresh
    · rw [hpending, hguard.pending] at hclosed
      cases hclosed

/-- The guarantee along a whole run. -/
theorem run_excludes (hguard : Guarded closed barred) (photos : Table Photo.id) {ops : List Op}
    (halong : Runs.Along step (Respects closed barred) (Db.opening photos) ops) :
    Excludes closed barred (Runs.run step (Db.opening photos) ops) := by
  refine Runs.invariant_of_along ?_ ?_ halong
  · intro state op hstate hop
    exact step_excludes hguard hop hstate
  · intro job hjob
    cases hjob

end Step

end InkTime.Jobs
