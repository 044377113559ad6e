import InkTime.Jobs.Exclusion

/-!
# Cancelled jobs

`cancel` empties the queue of a job but leaves its running items to their workers. Completing such an
item cancels it; failing, deferring or recovering it does not look at the job and queues it again.
-/

namespace InkTime.Jobs

/-- No cancelled job has a queued item. -/
def Drained (db : Db) : Prop :=
  ∀ job ∈ db.jobs, job.state.status = .cancelled → ∀ item ∈ db.items, item.jobId = job.id →
    item.state.status ≠ .pending ∧ item.state.status ≠ .retrying

instance (db : Db) : Decidable (Drained db) :=
  inferInstanceAs (Decidable (∀ job ∈ db.jobs.rows, job.state.status = .cancelled →
    ∀ item ∈ db.items.rows, item.jobId = job.id →
      item.state.status ≠ .pending ∧ item.state.status ≠ .retrying))

lemma drained_iff {db : Db} : Drained db ↔ Excludes (· == .cancelled) ItemStatus.queued db := by
  unfold Drained Excludes
  constructor
  · intro h job hjob item hitem hid hclosed
    obtain ⟨hpending, hretrying⟩ := h job hjob (by simpa using hclosed) item hitem hid
    cases hs : item.state.status <;> simp_all [ItemStatus.queued]
  · intro h job hjob hcancelled item hitem hid
    have hqueued := h job hjob item hitem hid (by simpa using hcancelled)
    constructor <;> intro hs <;> simp [hs, ItemStatus.queued] at hqueued

lemma guarded_cancelled : Guarded (· == .cancelled) ItemStatus.queued where
  unsettled := by
    intro status
    cases status <;> decide
  pending := rfl
  claimable := by
    intro status
    cases status <;> decide
  pausing := rfl
  paused := by
    intro hclosed
    cases hclosed
  cancelled := fun _ _ h => h

/-- Calls that leave a queued item in a cancelled job: they return an item to the queue of a job that
is cancelled already, or close a job as cancelled while it still has queued items. -/
def strands (db : Db) (op : Op) : Bool :=
  (db.items.any fun item => requeues db item op && db.jobs.any (jobIn item.jobId (· == .cancelled))) ||
    match op with
    | .finalizeBatchJob jobId status =>
      status == .cancelled && db.jobs.any (jobIn jobId (!·.terminal)) && db.hasItem jobId ItemStatus.queued
    | .transition jobId fromStatuses toStatus =>
      toStatus == .cancelled && db.jobs.any (jobIn jobId fromStatuses.contains) && db.hasItem jobId ItemStatus.queued
    | _ => false

lemma respects_of_not_strands {db : Db} {op : Op} (h : strands db op = false) :
    Respects (· == .cancelled) ItemStatus.queued db op where
  requeue := by
    intro job hjob item hitem hid hrequeues _ hclosed
    have hcancelled : db.jobs.any (jobIn item.jobId (· == .cancelled)) = true :=
      Table.any_of_mem hjob (jobIn_iff.mpr ⟨hid.symm, hclosed⟩)
    have hstranded : (db.items.any fun item =>
        requeues db item op && db.jobs.any (jobIn item.jobId (· == .cancelled))) = true :=
      Table.any_of_mem hitem (by simp [hrequeues, hcancelled])
    simp [strands, hstranded] at h
  transition := by
    rintro jobId fromStatuses toStatus rfl hclosed job hjob hfrom
    apply hasItem_eq_false.mp
    have hany := Table.any_of_mem hjob hfrom
    simp only [strands, hclosed, hany, Bool.true_and, Bool.or_eq_false_iff] at h
    exact h.2
  finalize := by
    rintro jobId target rfl _ hclosed job hjob hopen
    apply hasItem_eq_false.mp
    have hany := Table.any_of_mem hjob hopen
    simp only [strands, hclosed, hany, Bool.true_and, Bool.or_eq_false_iff] at h
    exact h.2
  abandon := by
    intro _ _ hclosed
    cases hclosed

/-- In every state of a run whose calls strand no item, cancelled jobs are drained. -/
theorem cancelled_jobs_drained (photos : Table Photo.id) (ops : List Op)
    (halong : Runs.Along step (fun db op => strands db op = false) (Db.opening photos) ops) :
    Drained (Runs.run step (Db.opening photos) ops) := by
  rw [drained_iff]
  exact run_excludes guarded_cancelled photos (Runs.Along.mono (fun _ _ => respects_of_not_strands) halong)

/-! ### A failure after a cancellation -/

def claimedRun : List Op := startedRun ++ [.claim "job" "worker" 1 {}]

theorem cancelled_jobs_drained_completed :
    Runs.Along step (fun db op => strands db op = false) (Db.opening onePhoto)
      (claimedRun ++ [.cancel "job", .completeItem "job" "item" (some "worker")]) ∧
    Drained (Runs.run step (Db.opening onePhoto)
      (claimedRun ++ [.cancel "job", .completeItem "job" "item" (some "worker")])) :=
  ⟨by decide, cancelled_jobs_drained onePhoto _ (by decide)⟩

/-- The worker's failure report puts the item back into the queue of the cancelled job. -/
theorem failed_item_queued_in_cancelled_job :
    ¬∀ (photos : Table Photo.id) (ops : List Op), Drained (Runs.run step (Db.opening photos) ops) := by
  intro h
  have hrun := h onePhoto (claimedRun ++ [.cancel "job", .failItem "job" "item" 3 none (some "worker") 0])
  revert hrun
  decide

end InkTime.Jobs
