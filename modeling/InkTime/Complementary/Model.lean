import InkTime.Jobs.Model
import InkTime.Library.Runs

/-!
# The paid backfill lane and its pauses

`ComplementaryAnalysisService` over the control row of the lane and its jobs. A call of `ensure` is taken apart into its reads
and transactions, between which workers, the callback of the batch service and administrators go on; a phase says how far
the call that holds the queue lock has come. Settings, the budget and the providers are inputs of the steps that read them.
-/

namespace InkTime.Complementary

open Jobs (JobStatus)

inductive PauseKind where
  | cycle | daily | credit | review | manual
  deriving DecidableEq, Repr

/-- `kind not in {"cycle", "daily", "credit"}` -/
def PauseKind.needsPerson : PauseKind → Bool
  | .cycle | .daily | .credit => false
  | .review | .manual => true

inductive FailureClass where
  /-- `AnalysisReservationConflict` -/
  | reservationConflict
  /-- `ValueError` or `OpenAIBudgetExceeded` -/
  | expected
  | other
  deriving DecidableEq, Repr

structure Failure where
  kind : FailureClass
  code : String
  /-- Only `OpenAIBudgetExceeded` has one. -/
  pauseKind : Option PauseKind
  text : String
  deriving DecidableEq, Repr

/-- The starts of the billing cycle and of the day. -/
structure Snapshot where
  start : String
  dayStart : String
  deriving DecidableEq, Repr

/-- The row of `openai_backfill_control`. -/
structure Control where
  pauseKind : Option PauseKind
  pauseReason : Option String
  pauseCycle : Option String
  creditAttemptCycle : Option String
  resumeJobId : Option String
  deriving DecidableEq, Repr

/-- A job of the lane. -/
structure LaneJob where
  id : String
  status : JobStatus
  concurrency : Nat
  deriving DecidableEq

/-- How far the call of `ensure` that holds the lock has come. -/
inductive Phase where
  | idle
  /-- `_maybe_resume` has read the control row and is about to resume. -/
  | resuming (control : Control) (snapshot : Snapshot)
  /-- `_maybe_resume` returned `True`. -/
  | passed
  /-- No job is active. -/
  | unoccupied
  /-- `can_run` returned `True`. -/
  | queueing
  | starting (jobId : String)
  /-- In a handler, about to call `_pause_for_error`. -/
  | failing (failure : Failure) (jobId : Option String)
  deriving DecidableEq

/-- What calls of `ensure` have done. -/
inductive Deed where
  | created (jobId : String)
  | started (jobId : String)
  | resumed (jobId : String)
  | clearedPause
  deriving DecidableEq, Repr

structure State where
  control : Control
  jobs : List LaneJob
  phase : Phase
  /-- Jobs of the `analyze_item` calls that passed `can_run` and have not ended. -/
  inFlight : List String
  deeds : List Deed
  deriving DecidableEq

/-! ### Pausing -/

/-- The kind under which `_pause_for_error` records a failure. -/
def Failure.recordedKind (failure : Failure) : PauseKind :=
  if failure.code = "API_CREDIT_EXHAUSTED" then .credit else failure.pauseKind.getD .review

def Snapshot.marker (snapshot : Snapshot) (kind : PauseKind) : String :=
  if kind = .daily then snapshot.dayStart else snapshot.start

/-- `_pause_for_error` -/
def pauseForError (failure : Failure) (jobId : Option String) (snapshot : Snapshot) (s : State) : State :=
  { s with control := { s.control with
      pauseKind := some failure.recordedKind
      pauseReason := some failure.text
      pauseCycle := some (snapshot.marker failure.recordedKind)
      resumeJobId := jobId } }

def pauseManually (reason : String) (s : State) : State :=
  { s with control := { s.control with pauseKind := some .manual, pauseReason := some reason, resumeJobId := none } }

def Control.cleared (control : Control) : Control :=
  { control with pauseKind := none, pauseReason := none, pauseCycle := none, resumeJobId := none }

def isActive (job : LaneJob) : Bool :=
  job.status ∈ [JobStatus.pending, .running, .retrying, .pausing, .paused, .budgetExceeded]

def activeJobs (jobs : List LaneJob) : List LaneJob := jobs.filter isActive

def awaitsResume (job : LaneJob) : Bool := job.status ∈ [JobStatus.paused, .budgetExceeded]

def State.withPhase (s : State) (phase : Phase) : State := { s with phase := phase }

def State.note (s : State) (deed : Deed) : State := { s with deeds := s.deeds ++ [deed] }

/-- The handlers at the end of `ensure`. -/
def handle (failure : Failure) (s : State) : State :=
  match failure.kind with
  | .reservationConflict => s.withPhase .idle
  | .expected => s.withPhase (.failing failure none)
  | .other => s.withPhase (.failing failure ((activeJobs s.jobs).head?.map (·.id)))

def orHandle (failure : Option Failure) (s next : State) : State :=
  match failure with
  | some failure => handle failure s
  | none => next

/-! ### `ensure` -/

structure BeginInputs where
  enabled : Bool
  autoResume : Bool
  snapshot : Snapshot
  /-- What `assert_reserve` raises. -/
  reserve : Option Failure
  deriving DecidableEq, Repr

/-- `ensure` up to the transaction of `_maybe_resume`. -/
def ensureBegins (inputs : BeginInputs) (s : State) : State :=
  if s.phase ≠ .idle || !inputs.enabled then s
  else match s.control.pauseKind with
    | none => s.withPhase .passed
    | some kind =>
      if kind.needsPerson || !inputs.autoResume then s
      else if s.control.pauseCycle = some (inputs.snapshot.marker kind) then s
      else orHandle inputs.reserve s (s.withPhase (.resuming s.control inputs.snapshot))

def resumeJob (kind : Option PauseKind) (jobId : String) (job : LaneJob) : LaneJob :=
  if job.id = jobId ∧ awaitsResume job then
    { job with status := .running, concurrency := if kind = some .credit then 1 else job.concurrency }
  else job

/-- The transaction of `_maybe_resume` with the control row it has read. -/
def resumeTransaction (read : Control) (snapshot : Snapshot) (s : State) : State :=
  if read.pauseKind = some .credit ∧ read.creditAttemptCycle = some snapshot.start then s.withPhase .idle
  else
    let attempt := if read.pauseKind = some .credit then some snapshot.start else s.control.creditAttemptCycle
    let cleared : State := { s with control := { s.control.cleared with creditAttemptCycle := attempt }, phase := .passed }
    match read.resumeJobId with
    | none => cleared.note .clearedPause
    | some jobId =>
      if s.jobs.any fun job => job.id = jobId ∧ awaitsResume job then
        (({ cleared with jobs := s.jobs.map (resumeJob read.pauseKind jobId) }).note (.resumed jobId)).note .clearedPause
      else cleared.note .clearedPause

def ensureResumes (failure : Option Failure) (s : State) : State :=
  match s.phase with
  | .resuming read snapshot => orHandle failure s (resumeTransaction read snapshot s)
  | _ => s

def setStatus (jobId : String) (status : JobStatus) (job : LaneJob) : LaneJob :=
  if job.id = jobId then { job with status := status } else job

/-- The route and the active jobs; `finalized` is the status `finalize_if_done` has set, if the job is done. -/
def ensureLooks (failure : Option Failure) (finalized : Option JobStatus) (s : State) : State :=
  match s.phase with
  | .passed =>
    orHandle failure s (match activeJobs s.jobs with
      | [] => s.withPhase .unoccupied
      | job :: _ =>
        if job.status = .running ∧ finalized.isSome then
          { s with jobs := s.jobs.map (setStatus job.id (finalized.getD job.status)), phase := .idle }
        else if job.status = .pending then s.withPhase (.starting job.id)
        else s.withPhase .idle)
  | _ => s

/-- `can_run` -/
def canRun (enabled urgent : Bool) (s : State) : Bool := enabled && s.control.pauseKind.isNone && !urgent

def ensureAsks (enabled urgent : Bool) (s : State) : State :=
  match s.phase with
  | .unoccupied => s.withPhase (if canRun enabled urgent s then .queueing else .idle)
  | _ => s

inductive QueueResult where
  | raises (failure : Failure)
  | noCandidates
  /-- The job of the batch, if any item was left for one. -/
  | batch (job : Option LaneJob)
  | realtime (job : LaneJob)
  deriving DecidableEq

/-- The budget, the candidates and the job made for them. -/
def ensureQueues (result : QueueResult) (s : State) : State :=
  match s.phase with
  | .queueing =>
    match result with
    | .raises failure => handle failure s
    | .noCandidates => s.withPhase .idle
    | .batch none => s.withPhase .idle
    | .batch (some job) => ({ s with jobs := s.jobs ++ [job], phase := .idle }).note (.created job.id)
    | .realtime job => ({ s with jobs := s.jobs ++ [job], phase := .starting job.id }).note (.created job.id)
  | _ => s

/-- `InvalidJobTransition` -/
def invalidTransition : Failure := ⟨.expected, "JOB-001", none, "目前狀態無法啟動"⟩

/-- `job_service.start` -/
def ensureStarts (failure : Option Failure) (s : State) : State :=
  match s.phase with
  | .starting jobId =>
    orHandle failure s (if s.jobs.any fun job => job.id = jobId ∧ job.status = .pending then
        ({ s with jobs := s.jobs.map (setStatus jobId .running), phase := .idle }).note (.started jobId)
      else handle invalidTransition s)
  | _ => s

def ensurePauses (snapshot : Snapshot) (s : State) : State :=
  match s.phase with
  | .failing failure jobId => (pauseForError failure jobId snapshot s).withPhase .idle
  | _ => s

/-! ### Workers -/

def analyzeBegins (jobId : String) (enabled urgent : Bool) (s : State) : State :=
  if canRun enabled urgent s then { s with inFlight := jobId :: s.inFlight } else s

/-- The errors of a photo that pause the lane. -/
def Failure.pausesLane (failure : Failure) : Bool :=
  "BUDGET-".toList.isPrefixOf failure.code.toList
    || failure.code ∈ ["API_CREDIT_EXHAUSTED", "AUTH_REQUIRED", "CONFIG_INVALID", "VLM-008"]

/-- The failure that the end of an `analyze_item` call records. -/
def analysisFailure (jobId : String) (failure : Option Failure) (s : State) : Option Failure :=
  if jobId ∈ s.inFlight then failure.filter (·.pausesLane) else none

def analyzeEnds (jobId : String) (failure : Option Failure) (snapshot : Snapshot) (s : State) : State :=
  let ended : State := { s with inFlight := s.inFlight.erase jobId }
  match analysisFailure jobId failure s with
  | some failure => pauseForError failure (some jobId) snapshot ended
  | none => ended

/-! ### Administrators -/

def resumePaused (job : LaneJob) : LaneJob := if awaitsResume job then { job with status := .running } else job

/-- `resume`, once its checks have passed. -/
def administratorResumes (s : State) : State := { s with control := s.control.cleared, jobs := s.jobs.map resumePaused }

/-! ### Steps -/

inductive Event where
  | ensureBegins (inputs : BeginInputs)
  | ensureResumes (failure : Option Failure)
  | ensureLooks (failure : Option Failure) (finalized : Option JobStatus)
  | ensureAsks (enabled urgent : Bool)
  | ensureQueues (result : QueueResult)
  | ensureStarts (failure : Option Failure)
  | ensurePauses (snapshot : Snapshot)
  /-- The process of the call ends with it, and its lock is free again. -/
  | ensureDies
  | analyzeBegins (jobId : String) (enabled urgent : Bool)
  | analyzeEnds (jobId : String) (failure : Option Failure) (snapshot : Snapshot)
  /-- `complementary_pause_callback` -/
  | batchPauses (failure : Failure) (jobId : String) (snapshot : Snapshot)
  /-- Whatever else happens to the jobs of the lane. -/
  | jobsChange (jobs : List LaneJob)
  /-- `JobService.pause`, by a user. -/
  | jobPaused
  | administratorResumes
  /-- `configure`; `disables` where the lane or the division is switched off. -/
  | administratorConfigures (disables : Bool)
  deriving DecidableEq

def step (s : State) : Event → State
  | .ensureBegins inputs => ensureBegins inputs s
  | .ensureResumes failure => ensureResumes failure s
  | .ensureLooks failure finalized => ensureLooks failure finalized s
  | .ensureAsks enabled urgent => ensureAsks enabled urgent s
  | .ensureQueues result => ensureQueues result s
  | .ensureStarts failure => ensureStarts failure s
  | .ensurePauses snapshot => ensurePauses snapshot s
  | .ensureDies => s.withPhase .idle
  | .analyzeBegins jobId enabled urgent => analyzeBegins jobId enabled urgent s
  | .analyzeEnds jobId failure snapshot => analyzeEnds jobId failure snapshot s
  | .batchPauses failure jobId snapshot => pauseForError failure (some jobId) snapshot s
  | .jobsChange jobs => { s with jobs := jobs }
  | .jobPaused => pauseManually "使用者已暫停工作" s
  | .administratorResumes => administratorResumes s
  | .administratorConfigures disables =>
    if disables then pauseManually "使用者已暫停 OpenAI 補齊" s else administratorResumes s

def Event.byAdministrator : Event → Bool
  | .administratorResumes | .administratorConfigures _ => true
  | _ => false

end InkTime.Complementary
