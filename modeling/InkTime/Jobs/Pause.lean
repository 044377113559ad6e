import InkTime.Jobs.Exclusion

/-!
# Pausing

A pause waits for the running items of a job and keeps new claims out. It ends with a resume, when the
backfill service activates its jobs again, or when a Batch import closes the job.
-/

namespace InkTime.Jobs

/-! ### Transitions of the services and the worker -/

/-- The call sites of `transition`. -/
inductive TransitionCall where
  | start
  | resume
  | backfillResume
  | providerWait
  | budgetExceeded
  deriving DecidableEq

def TransitionCall.fromStatuses : TransitionCall → List JobStatus
  | .start => [.pending]
  | .resume => [.paused, .budgetExceeded]
  | .backfillResume => [.pending, .paused]
  | .providerWait => [.running]
  | .budgetExceeded => [.running, .retrying]

def TransitionCall.toStatus : TransitionCall → JobStatus
  | .start => .running
  | .resume => .running
  | .backfillResume => .running
  | .providerWait => .retrying
  | .budgetExceeded => .budgetExceeded

def TransitionCall.matches (call : TransitionCall) (fromStatuses : List JobStatus) (toStatus : JobStatus) : Bool :=
  fromStatuses == call.fromStatuses && toStatus == call.toStatus

/-- Every transition is made by one of the call sites. -/
def Op.ofCallSite : Op → Bool
  | .transition _ fromStatuses toStatus =>
    [TransitionCall.start, .resume, .backfillResume, .providerWait, .budgetExceeded].any
      fun call => call.matches fromStatuses toStatus
  | _ => true

lemma ofCallSite_transition {jobId : String} {fromStatuses : List JobStatus} {toStatus : JobStatus}
    (h : (Op.transition jobId fromStatuses toStatus).ofCallSite = true) :
    ∃ call : TransitionCall, fromStatuses = call.fromStatuses ∧ toStatus = call.toStatus := by
  obtain ⟨call, -, hcall⟩ := List.any_eq_true.mp h
  simp only [TransitionCall.matches, Bool.and_eq_true, beq_iff_eq] at hcall
  exact ⟨call, hcall⟩

/-! ### Paused jobs are idle -/

/-- No paused job has a running item. -/
def PausedIdle (db : Db) : Prop :=
  ∀ job ∈ db.jobs, job.state.status = .paused → ∀ item ∈ db.items, item.jobId = job.id →
    item.state.status ≠ .running

lemma pausedIdle_iff {db : Db} : PausedIdle db ↔ Excludes (· == .paused) (· == .running) db := by
  simp only [PausedIdle, Excludes, beq_iff_eq, beq_eq_false_iff_ne]
  constructor
  · intro h job hjob item hitem hid hpaused
    exact h job hjob hpaused item hitem hid
  · intro h job hjob hpaused item hitem hid
    exact h job hjob item hitem hid hpaused

lemma guarded_paused : Guarded (· == .paused) (· == .running) where
  unsettled := by
    intro status
    cases status <;> decide
  pending := rfl
  claimable := by
    intro status
    cases status <;> decide
  pausing := rfl
  paused := by
    intro _ status hrunning
    simpa using hrunning
  cancelled := by
    intro hclosed
    cases hclosed

lemma respects_of_callSite {db : Db} {op : Op} (h : op.ofCallSite = true) :
    Respects (· == .paused) (· == .running) db op where
  requeue := by
    intro _ _ _ _ _ _ hbarred
    cases hbarred
  transition := by
    rintro jobId fromStatuses toStatus rfl hclosed
    obtain ⟨call, -, rfl⟩ := ofCallSite_transition h
    cases call <;> cases hclosed
  finalize := by
    rintro jobId target rfl htarget hclosed
    obtain rfl : target = .paused := by simpa using hclosed
    cases htarget
  abandon := by
    intro _ _ hclosed
    cases hclosed

/-! ### The fence -/

/-- Calls that end the pause of a job: a resume, the backfill's activation, and closing it as a Batch
parent. -/
def liftsPause (jobId : String) : Op → Bool
  | .transition other fromStatuses toStatus =>
    other == jobId && (TransitionCall.resume.matches fromStatuses toStatus ||
      TransitionCall.backfillResume.matches fromStatuses toStatus)
  | .finalizeBatchJob other _ => other == jobId
  | _ => false

/-- Where a paused job can be before the pause is lifted. -/
def JobStatus.fenced : JobStatus → Bool
  | .pausing | .paused | .cancelled => true
  | _ => false

def Fenced (jobId : String) (db : Db) : Prop :=
  jobId ∈ db.jobIds ∧ ∀ job ∈ db.jobs, job.id = jobId → job.state.status.fenced = true

lemma fenced_of_move {db : Db} {op : Op} {job : Job} {status : JobStatus} (hcall : op.ofCallSite = true)
    (hlifts : liftsPause job.id op = false) (hfenced : job.state.status.fenced = true)
    (hmove : JobMove db job op status) : status.fenced = true := by
  cases hmove with
  | stay => exact hfenced
  | transitioned hfrom =>
    obtain ⟨call, rfl, rfl⟩ := ofCallSite_transition hcall
    cases call with
    | resume => simp [liftsPause, TransitionCall.matches] at hlifts
    | backfillResume => simp [liftsPause, TransitionCall.matches] at hlifts
    | start | providerWait | budgetExceeded =>
      cases hs : job.state.status <;> simp_all [TransitionCall.fromStatuses, JobStatus.fenced]
  | pausing | paused | acknowledged | drained | cancelled => rfl
  | batchFinalized => simp [liftsPause] at hlifts
  | quarantined hclaimable _ | finalized hclaimable _ _ =>
    cases hs : job.state.status <;> simp_all [JobStatus.claimable, JobStatus.fenced]
  | retried hretryable => cases hs : job.state.status <;> simp_all [JobStatus.retryable, JobStatus.fenced]
  | abandoned hpending =>
    rw [hpending] at hfenced
    cases hfenced
  | reopened hreopenable => cases hs : job.state.status <;> simp_all [JobStatus.reopenable, JobStatus.fenced]

lemma step_fenced {jobId : String} {db : Db} {op : Op} (h : Fenced jobId db)
    (hop : op.ofCallSite = true ∧ liftsPause jobId op = false) : Fenced jobId (step db op) := by
  obtain ⟨hknown, hfenced⟩ := h
  obtain ⟨hcall, hlifts⟩ := hop
  obtain hmoved | ⟨newId, kind, hcreated⟩ := step_cases db op
  · refine ⟨by rw [hmoved.frame.jobIds]; exact hknown, ?_⟩
    intro job hjob hid
    obtain ⟨before, hbefore, state, rfl, hmove⟩ := hmoved.jobs job hjob
    have hid : before.id = jobId := hid
    exact fenced_of_move hcall (by rw [hid]; exact hlifts) (hfenced before hbefore hid) hmove
  · refine ⟨by rw [hcreated.jobIds]; exact List.mem_append_left _ hknown, ?_⟩
    intro job hjob hid
    obtain hold | ⟨hnew, -⟩ := hcreated.jobs job hjob
    · exact hfenced job hold hid
    · rw [← hid, hnew] at hknown
      exact absurd hknown hcreated.fresh

lemma claim_of_fenced {jobId : String} {db : Db} (h : Fenced jobId db) (workerId : String) (limit : Int)
    (env : ClaimEnv) : claim db jobId workerId limit env = .ok (db, []) := by
  unfold claim
  cases hfind : db.jobs.find jobId with
  | none => rfl
  | some job =>
    obtain ⟨hjob, hid⟩ := Table.find_eq_some hfind
    have hfenced := h.2 job hjob hid
    have hclosed : job.state.status.claimable = false := by
      cases hs : job.state.status <;> simp_all [JobStatus.claimable, JobStatus.fenced]
    simp [hclosed]

lemma requestPause_fenced {jobId : String} {db : Db} (h : (requestPause db jobId).2 = true) :
    Fenced jobId (requestPause db jobId).1 := by
  unfold requestPause at h ⊢
  cases hfind : db.jobs.find jobId with
  | none => simp [hfind] at h
  | some job =>
    obtain ⟨hjob, rfl⟩ := Table.find_eq_some hfind
    simp only [hfind] at h ⊢
    split at h
    · cases h
    · next hclaimable =>
      rw [if_neg hclaimable]
      refine ⟨by rw [((Frame.refl db).moveJobs _ _).jobIds]; exact mem_jobIds hjob, ?_⟩
      intro other hother hid
      obtain ⟨before, -, rfl⟩ := mem_setJobs.mp hother
      cases hm : before.id == job.id with
      | true =>
        rw [if_pos rfl]
        dsimp only
        split <;> rfl
      | false => simp [hm, beq_eq_false_iff_ne.mp hm] at hid

/-- Paused jobs are idle in every state the calls can reach, and after a successful pause request no
claim on the job returns an item until the pause is lifted. -/
theorem pause_holds_until_lifted (photos : Table Photo.id) (ops : List Op)
    (hops : ∀ op ∈ ops, op.ofCallSite = true) :
    PausedIdle (Runs.run step (Db.opening photos) ops) ∧
    ∀ (jobId : String) (later : List Op),
      (requestPause (Runs.run step (Db.opening photos) ops) jobId).2 = true →
      (∀ op ∈ later, op.ofCallSite = true ∧ liftsPause jobId op = false) →
      ∀ (workerId : String) (limit : Int) (env : ClaimEnv),
        let db := Runs.run step (Runs.run step (Db.opening photos) (ops ++ [.requestPause jobId])) later
        claim db jobId workerId limit env = .ok (db, []) := by
  constructor
  · rw [pausedIdle_iff]
    apply run_excludes guarded_paused photos
    exact Runs.Along.of_forall hops fun _ _ h => respects_of_callSite h
  · intro jobId later hpause hlater workerId limit env
    apply claim_of_fenced
    rw [Runs.run_append]
    refine Runs.invariant_of_along ?_ (requestPause_fenced hpause)
      (Runs.Along.of_forall hlater fun _ _ h => h)
    intro db op hfenced hop
    exact step_fenced hfenced hop

/-! ### A pause that ends without a resume -/

theorem pause_holds_until_lifted_startedRun :
    (∀ op ∈ startedRun, op.ofCallSite = true) ∧
    (requestPause (Runs.run step (Db.opening onePhoto) startedRun) "job").2 = true ∧
    let db := Runs.run step (Runs.run step (Db.opening onePhoto) (startedRun ++ [.requestPause "job"]))
      [.transition "job" [.pending] .running, .recoverStale 1, .reopenBatchJob "job"]
    claim db "job" "worker" 1 {} = .ok (db, []) :=
  ⟨by decide, by decide,
    (pause_holds_until_lifted onePhoto startedRun (by decide)).2 "job" _ (by decide) (by decide) "worker" 1 {}⟩

def resumes (jobId : String) : Op → Bool
  | .transition other fromStatuses toStatus =>
    other == jobId && TransitionCall.resume.matches fromStatuses toStatus
  | _ => false

/-- The items a claim hands out. -/
def handedOut : Outcome (List Item) → List Item
  | .ok (_, items) => items
  | .error _ => []

/-- Closing a paused Batch parent and reopening it makes its items claimable without a resume. -/
theorem claim_after_pause_without_resume :
    ¬∀ (photos : Table Photo.id) (ops later : List Op) (jobId workerId : String) (limit : Int) (env : ClaimEnv),
      (∀ op ∈ ops, op.ofCallSite = true) →
      (requestPause (Runs.run step (Db.opening photos) ops) jobId).2 = true →
      (∀ op ∈ later, op.ofCallSite = true ∧ resumes jobId op = false) →
      handedOut (claim (Runs.run step (Runs.run step (Db.opening photos) (ops ++ [.requestPause jobId])) later)
        jobId workerId limit env) = [] := by
  intro h
  have hnone := h onePhoto startedRun [.finalizeBatchJob "job" .failed, .reopenBatchJob "job"] "job" "worker" 1 {}
    (by decide) (by decide) (by decide)
  revert hnone
  decide

end InkTime.Jobs
