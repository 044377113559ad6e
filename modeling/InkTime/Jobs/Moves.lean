import InkTime.Jobs.Operations

/-!
# Moves of jobs and items

The state machine behind the repository: which call may take a job or an item from one state to which
other, and under what condition. Every call of the model moves each row this way.
-/

namespace InkTime.Jobs

/-! ### Moves -/

/-- Items that a call never leaves where they were. -/
def emptied (db : Db) (item : Item) : Op → Bool
  | .cancel jobId => db.jobs.any (jobIn jobId (!·.terminal)) && itemIn jobId ItemStatus.queued item
  | .failInvalidSettings jobId =>
    db.jobs.any (fun job => jobIn jobId JobStatus.claimable job && !db.hasItem job.id (· == .running)) &&
      itemIn jobId ItemStatus.queued item
  | .abandonUnstarted jobId => db.jobs.any (jobIn jobId (· == .pending)) && itemIn jobId ItemStatus.queued item
  | .recoverStale now => stale now item && (db.jobs.find item.jobId).isSome
  | _ => false

inductive ItemMove (db db' : Db) (item : Item) : Op → ItemState → Prop
  | stay {op : Op} (hleft : emptied db item op = false) : ItemMove db db' item op item.state
  | renewed {workerId : String} {leaseUntil : Nat} (hrunning : item.state.status = .running) :
      ItemMove db db' item (.renewLeases item.jobId workerId leaseUntil)
        { item.state with leaseUntil := some leaseUntil }
  | heldBack {itemId : String} {workerId : Option String} {availableAt : Nat}
      (hpending : item.state.status = .pending) (hother : item.id ≠ itemId) :
      ItemMove db db' item (.deferItem itemId workerId availableAt true)
        { item.state with availableAt := max item.state.availableAt availableAt }
  | claimed {workerId : String} {limit : Int} {env : ClaimEnv} {job : Job} (hjob : job ∈ db.jobs)
      (hid : job.id = item.jobId) (hclaimable : job.state.status.claimable)
      (hpending : item.state.status = .pending) :
      ItemMove db db' item (.claim item.jobId workerId limit env) (item.claimedBy workerId env.leaseUntil)
  | completed {workerId : Option String} (hrunning : item.state.status = .running)
      (howner : ownedBy workerId item) (hopen : jobCancelled db item.jobId = false) :
      ItemMove db db' item (.completeItem item.jobId item.id workerId) (item.state.leave .completed)
  | dropped {workerId : Option String} (hrunning : item.state.status = .running)
      (howner : ownedBy workerId item) (hcancelled : jobCancelled db item.jobId) :
      ItemMove db db' item (.completeItem item.jobId item.id workerId) (item.state.leave .cancelled)
  | late {workerId : Option String} (hrunning : item.state.status = .running) (howner : ownedBy workerId item) :
      ItemMove db db' item (.recordLateCompletion item.jobId item.id workerId) (item.state.leave .failed)
  | deferred {workerId : Option String} {availableAt : Nat} {deferPending : Bool}
      (hrunning : item.state.status = .running) (howner : ownedBy workerId item) :
      ItemMove db db' item (.deferItem item.id workerId availableAt deferPending) (item.state.deferred availableAt)
  | failed {maxAttempts : Int} {retryInterval : Option Int} {workerId : Option String} {now : Nat}
      (hrunning : item.state.status = .running) (howner : ownedBy workerId item)
      (hattempts : maxAttempts ≤ item.state.attempts) :
      ItemMove db db' item (.failItem item.jobId item.id maxAttempts retryInterval workerId now) (item.state.leave .failed)
  | requeued {maxAttempts : Int} {retryInterval : Option Int} {workerId : Option String} {now availableAt : Nat}
      (hrunning : item.state.status = .running) (howner : ownedBy workerId item)
      (hattempts : ¬maxAttempts ≤ item.state.attempts) :
      ItemMove db db' item (.failItem item.jobId item.id maxAttempts retryInterval workerId now)
        { item.state.leave .pending with availableAt }
  | givenUp {now : Nat} {row : StaleRow} (hstale : stale now item) (hrow : staleRow now db item = some row)
      (hgivenUp : row.givenUp) : ItemMove db db' item (.recoverStale now) (item.state.leave .failed)
  | recovered {now : Nat} {row : StaleRow} (hstale : stale now item) (hrow : staleRow now db item = some row)
      (hgivenUp : row.givenUp = false) :
      ItemMove db db' item (.recoverStale now) { item.state.leave .pending with availableAt := now }
  | cancelled (hqueued : item.state.status.queued) :
      ItemMove db db' item (.cancel item.jobId) { item.state with status := .cancelled }
  | quarantined (hqueued : item.state.status.queued) :
      ItemMove db db' item (.failInvalidSettings item.jobId) (item.state.leave .failed)
  | abandoned (hqueued : item.state.status.queued) :
      ItemMove db db' item (.abandonUnstarted item.jobId) { item.state with status := .failed }
  | retried {batchHolds : Photo → Bool} {now : Nat} {job : Job} (hjob : job ∈ db.jobs) (hid : job.id = item.jobId)
      (hretryable : job.state.status.retryable) (hfailed : item.state.status = .failed)
      (hfree : job.kind.analyses → ∀ p ∈ db.photos, item.photoId = some p.id →
        reservedAnalysis db batchHolds p = false)
      (hrevived : ∀ job ∈ db'.jobs, job.id = item.jobId → job.state.status = .pending) :
      ItemMove db db' item (.retryFailed item.jobId batchHolds now) { item.state with status := .pending, availableAt := now }
  | reopened (hclosed : item.state.status = .failed ∨ item.state.status = .retrying)
      (hrevived : ∀ job ∈ db'.jobs, job.id = item.jobId → job.state.status = .running) :
      ItemMove db db' item (.reopenBatchJob item.jobId) (item.state.closed .pending)
  | batchCompleted (hopen : item.state.status.unsettled) :
      ItemMove db db' item (.completeBatchItem item.jobId item.id) (item.state.closed .completed)
  | batchFailed (hopen : item.state.status.unsettled) :
      ItemMove db db' item (.failBatchItem item.jobId item.id) (item.state.closed .failed)
  | batchCancelled (hopen : item.state.status.unsettled) :
      ItemMove db db' item (.cancelBatchItem item.jobId item.id) (item.state.closed .cancelled)

inductive JobMove (db : Db) (job : Job) : Op → JobStatus → Prop
  | stay {op : Op} : JobMove db job op job.state.status
  | transitioned {fromStatuses : List JobStatus} {toStatus : JobStatus}
      (hfrom : fromStatuses.contains job.state.status) :
      JobMove db job (.transition job.id fromStatuses toStatus) toStatus
  | pausing (hclaimable : job.state.status.claimable) : JobMove db job (.requestPause job.id) .pausing
  | paused (hclaimable : job.state.status.claimable) (hidle : db.hasItem job.id (· == .running) = false) :
      JobMove db job (.requestPause job.id) .paused
  | acknowledged (hpausing : job.state.status = .pausing) (hidle : db.hasItem job.id (· == .running) = false) :
      JobMove db job (.acknowledgePause job.id) .paused
  | drained {now : Nat} (hpausing : job.state.status = .pausing)
      (hidle : ∀ item ∈ db.items, item.jobId = job.id → item.state.status = .running →
        emptied db item (.recoverStale now)) :
      JobMove db job (.recoverStale now) .paused
  | cancelled (hopen : job.state.status.terminal = false) : JobMove db job (.cancel job.id) .cancelled
  | quarantined (hclaimable : job.state.status.claimable) (hidle : db.hasItem job.id (· == .running) = false) :
      JobMove db job (.failInvalidSettings job.id) .failed
  | finalized {finalizerFails : Bool} {target : JobStatus} (hclaimable : job.state.status.claimable)
      (hsettled : db.hasItem job.id ItemStatus.unsettled = false)
      (htarget : target = .completed ∨ target = .completedWithErrors) :
      JobMove db job (.finalizeIfDone job.id finalizerFails) target
  | retried {batchHolds : Photo → Bool} {now : Nat} (hretryable : job.state.status.retryable) :
      JobMove db job (.retryFailed job.id batchHolds now) .pending
  | batchFinalized {target : JobStatus} (htarget : target.terminal) (hopen : job.state.status.terminal = false) :
      JobMove db job (.finalizeBatchJob job.id target) target
  | abandoned (hpending : job.state.status = .pending) : JobMove db job (.abandonUnstarted job.id) .failed
  | reopened (hreopenable : job.state.status.reopenable) : JobMove db job (.reopenBatchJob job.id) .running

/-! ### Rows with new states -/

/-- Items of `db'` are those of `db`, each with a state that `R` allows. -/
def ItemsBy (R : Item → ItemState → Prop) (db db' : Db) : Prop :=
  ∀ after ∈ db'.items, ∃ before ∈ db.items, ∃ state, after = { before with state } ∧ R before state

/-- Jobs of `db'` are those of `db`, each with a status that `R` allows. -/
def JobsBy (R : Job → JobStatus → Prop) (db db' : Db) : Prop :=
  ∀ after ∈ db'.jobs, ∃ before ∈ db.jobs, ∃ state : JobState, after = { before with state } ∧ R before state.status

structure Moved (db : Db) (op : Op) (db' : Db) : Prop where
  items : ItemsBy (fun item state => ItemMove db db' item op state) db db'
  jobs : JobsBy (fun job status => JobMove db job op status) db db'
  frame : Frame db db'

lemma Frame.moveJobs {db db' : Db} (h : Frame db db') (matching : Job → Bool) (target : JobStatus) :
    Frame db (db'.moveJobs matching target) :=
  h.setJobs _ _

lemma Frame.recountFailed {db db' : Db} (h : Frame db db') (jobId : String) : Frame db (db'.recountFailed jobId) :=
  h.setJobs _ _

section Statements

variable {db db' : Db} {op : Op}

lemma ItemsBy.of_eq {R : Item → ItemState → Prop} (h : db'.items = db.items)
    (hkept : ∀ item ∈ db.items, R item item.state) : ItemsBy R db db' := by
  intro after hafter
  rw [h] at hafter
  exact ⟨after, hafter, after.state, rfl, hkept after hafter⟩

lemma ItemsBy.of_setItems {R : Item → ItemState → Prop} {matching : Item → Bool} {set : Item → ItemState}
    (h : db'.items = (db.setItems matching set).items)
    (hmoved : ∀ item ∈ db.items, matching item = true → R item (set item))
    (hkept : ∀ item ∈ db.items, matching item = false → R item item.state) : ItemsBy R db db' := by
  intro after hafter
  rw [h, mem_setItems] at hafter
  obtain ⟨before, hbefore, rfl⟩ := hafter
  cases hm : matching before with
  | true => exact ⟨before, hbefore, set before, by simp, hmoved before hbefore hm⟩
  | false => exact ⟨before, hbefore, before.state, by simp, hkept before hbefore hm⟩

lemma JobsBy.of_eq {R : Job → JobStatus → Prop} (h : db'.jobs = db.jobs)
    (hkept : ∀ job ∈ db.jobs, R job job.state.status) : JobsBy R db db' := by
  intro after hafter
  rw [h] at hafter
  exact ⟨after, hafter, after.state, rfl, hkept after hafter⟩

lemma JobsBy.of_setJobs {R : Job → JobStatus → Prop} {matching : Job → Bool} {set : JobState → JobState}
    (h : db'.jobs = (db.setJobs matching set).jobs)
    (hmoved : ∀ job ∈ db.jobs, matching job = true → R job (set job.state).status)
    (hkept : ∀ job ∈ db.jobs, matching job = false → R job job.state.status) : JobsBy R db db' := by
  intro after hafter
  rw [h, mem_setJobs] at hafter
  obtain ⟨before, hbefore, rfl⟩ := hafter
  cases hm : matching before with
  | true => exact ⟨before, hbefore, set before.state, by simp, hmoved before hbefore hm⟩
  | false => exact ⟨before, hbefore, before.state, by simp, hkept before hbefore hm⟩

lemma JobsBy.of_moveJobs {R : Job → JobStatus → Prop} {matching : Job → Bool} {target : JobStatus}
    (h : db'.jobs = (db.moveJobs matching target).jobs)
    (hmoved : ∀ job ∈ db.jobs, matching job = true → R job target)
    (hkept : ∀ job ∈ db.jobs, matching job = false → R job job.state.status) : JobsBy R db db' :=
  JobsBy.of_setJobs h hmoved hkept

/-- Counter updates do not move jobs. -/
lemma JobsBy.setJobs {R : Job → JobStatus → Prop} {matching : Job → Bool} {set : JobState → JobState}
    (h : JobsBy R db db') (hset : ∀ state, (set state).status = state.status) :
    JobsBy R db (db'.setJobs matching set) := by
  intro after hafter
  rw [mem_setJobs] at hafter
  obtain ⟨middle, hmiddle, rfl⟩ := hafter
  obtain ⟨before, hbefore, state, rfl, hR⟩ := h middle hmiddle
  split
  · exact ⟨before, hbefore, set state, rfl, by rw [hset]; exact hR⟩
  · exact ⟨before, hbefore, state, rfl, hR⟩

/-- All jobs with this id end in one status. -/
lemma JobsBy.pins {jobId : String} {target : JobStatus}
    (h : JobsBy (fun job status => job.id = jobId → status = target) db db') :
    ∀ job ∈ db'.jobs, job.id = jobId → job.state.status = target := by
  intro job hjob hid
  obtain ⟨before, -, state, rfl, hstatus⟩ := h job hjob
  exact hstatus hid

/-- A call that leaves the tables alone. -/
lemma Moved.refl (hleft : ∀ item ∈ db.items, emptied db item op = false) : Moved db op db where
  items := ItemsBy.of_eq rfl fun item hitem => .stay (hleft item hitem)
  jobs := JobsBy.of_eq rfl fun _ _ => .stay
  frame := Frame.refl db

/-- A call that only changes the status of jobs. -/
lemma Moved.of_moveJobs {matching : Job → Bool} {target : JobStatus}
    (hleft : ∀ item ∈ db.items, emptied db item op = false)
    (hjobs : ∀ job ∈ db.jobs, matching job = true → JobMove db job op target) :
    Moved db op (db.moveJobs matching target) where
  items := ItemsBy.of_eq rfl fun item hitem => .stay (hleft item hitem)
  jobs := JobsBy.of_setJobs rfl hjobs fun _ _ _ => .stay
  frame := (Frame.refl db).setJobs _ _

/-- A call that only changes items. -/
lemma Moved.of_setItems {matching : Item → Bool} {set : Item → ItemState}
    (hmoved : ∀ item ∈ db.items, matching item = true →
      ItemMove db (db.setItems matching set) item op (set item))
    (hkept : ∀ item ∈ db.items, matching item = false → emptied db item op = false) :
    Moved db op (db.setItems matching set) where
  items := ItemsBy.of_setItems rfl hmoved fun item hitem h => .stay (hkept item hitem h)
  jobs := JobsBy.of_eq rfl fun _ _ => .stay
  frame := (Frame.refl db).setItems _ _

/-- A settlement that its job counts. -/
lemma Moved.of_settle {jobId : String} {matching : Item → Bool} {set : Item → ItemState}
    {count : JobState → JobState} (hcount : ∀ state, (count state).status = state.status)
    (hmoved : ∀ item ∈ db.items, matching item = true →
      ItemMove db (settle db jobId matching set count).1 item op (set item))
    (hkept : ∀ item ∈ db.items, emptied db item op = false) :
    Moved db op (settle db jobId matching set count).1 := by
  unfold settle at hmoved ⊢
  split at hmoved
  · next hany =>
    rw [if_pos hany]
    exact {
      items := ItemsBy.of_setItems rfl hmoved fun item hitem _ => .stay (hkept item hitem)
      jobs := JobsBy.setJobs (JobsBy.of_eq rfl fun _ _ => .stay) hcount
      frame := ((Frame.refl db).setItems _ _).setJobs _ _ }
  · next hnone =>
    rw [if_neg hnone]
    exact Moved.refl hkept

/-- A refused commit is a call that leaves the tables alone. -/
lemma Moved.of_commit {α : Type} {result : α} (h : Moved db op db') (hrefused : Moved db op db) :
    Moved db op ((db'.commit result).after db) := by
  obtain hafter | hafter := after_commit db db' result
  · rw [hafter]
    exact h
  · rw [hafter]
    exact hrefused

end Statements

end InkTime.Jobs
