import InkTime.Batches.Moves
import InkTime.Ledger.Model

/-!
# What running submissions share

Calls of `BatchAnalysisService` run side by side. Between two of its database transactions or provider calls a
call keeps only local variables; everything else is in the tables below, and in the log of `create_batch` calls
that the provider has answered. An `Effect` is what one such step does to them.
-/

namespace InkTime.Submission

open Batches (Batch BatchState BatchStatus Item ItemStatus Remote CleanupStatus CleanupAction truthy)

/-! ### Exceptions -/

/-- The codes of exceptions that `_submit_one` tells apart. -/
inductive Code where
  | jobPaused | unknownHold | executionMode | paidOperationHold | input | alreadyClaimed | claimStale
  | uploadUnknown | submissionUnknown | creditExhausted
  | openaiBudget (kind : String)
  | budget
  /-- A `ValueError` without a code of its own. -/
  | value
  /-- Any other exception without a code. -/
  | submit
  | provider (text : String)
  deriving DecidableEq

def Code.text : Code → String
  | .jobPaused => "BATCH-JOB-PAUSED"
  | .unknownHold => "BATCH-UNKNOWN-HOLD"
  | .executionMode => "BATCH-EXECUTION-MODE"
  | .paidOperationHold => "BATCH-PAID-OPERATION-HOLD"
  | .input => "BATCH-INPUT-002"
  | .alreadyClaimed => "BATCH-ALREADY-CLAIMED"
  | .claimStale => "BATCH-CLAIM-STALE"
  | .uploadUnknown => "BATCH-UPLOAD-UNKNOWN"
  | .submissionUnknown => "BATCH-SUBMISSION-UNKNOWN"
  | .creditExhausted => "API_CREDIT_EXHAUSTED"
  | .openaiBudget kind => "BUDGET-OPENAI-" ++ kind
  | .budget => "BUDGET-002"
  | .value | .submit => "BATCH-SUBMIT-001"
  | .provider text => text

/-- A definitive billing rejection. -/
def Code.billing : Code → Bool
  | .creditExhausted | .openaiBudget _ => true
  | _ => false

/-- `ambiguous` is the attribute of the exception. -/
structure Failure where
  code : Code
  ambiguous : Bool := false
  deriving DecidableEq

/-- The value of the local variable `ambiguous`. -/
def Failure.uncertain (failure : Failure) : Bool :=
  failure.ambiguous || failure.code == .submissionUnknown || failure.code == .uploadUnknown

/-- What the provider or the budget raises. -/
inductive Refusal where
  | credit (ambiguous : Bool)
  | openaiBudget (kind : String)
  | budget
  | uploadUnknown | submissionUnknown
  | value
  | other (text : String) (ambiguous : Bool)
  deriving DecidableEq

def Refusal.failure : Refusal → Failure
  | .credit ambiguous => ⟨.creditExhausted, ambiguous⟩
  | .openaiBudget kind => ⟨.openaiBudget kind, false⟩
  | .budget => ⟨.budget, false⟩
  | .uploadUnknown => ⟨.uploadUnknown, true⟩
  | .submissionUnknown => ⟨.submissionUnknown, true⟩
  | .value => ⟨.value, false⟩
  | .other text ambiguous => ⟨.provider text, ambiguous⟩

/-- The exception of a repository call. -/
def Code.ofError : Batches.BatchError → Code
  | .unknownBatch _ | .integrity => .submit
  | _ => .value

/-! ### Tables -/

/-- How the provider answered `create_batch`; of an unknown answer, whether it made a batch. -/
inductive Reply where
  | rejected
  | lost (made : Bool)
  | created (remoteId : String)
  deriving DecidableEq

structure Call where
  batchId : String
  runId : String
  reply : Reply
  deriving DecidableEq

/-- A row of `budget_reservations`. -/
structure Reservation where
  id : String
  active : Bool
  deriving DecidableEq

inductive OperationState where
  | started | response | completed | notSent | approved
  deriving DecidableEq

/-- A row of `billable_operations`; the rows stand in the order of `created_at`. -/
structure Operation where
  id : String
  contentSha256 : String
  requestFingerprint : String
  requestSignature : Option String := none
  state : OperationState := .started
  deriving DecidableEq

/-! ### Writes of update_batch -/

/-- The columns a call of `update_batch` sets. -/
inductive Change where
  | heldForCredit (now : Nat) (code : String)
  | rejected (now : Nat) (code : String)
  | resumed
  | uploadFound (now : Nat)
  | uploadHeld (now : Nat)
  | submissionFound (now : Nat)
  | submissionHeld (now : Nat) (cleanupStatus : CleanupStatus)
  | planFailed (code : String)
  | cancelledLocally
  | abandoned (now : Nat)
  | error (code : String)
  | finalAction (action : CleanupAction)
  | cleanup (status : CleanupStatus) (action : Option CleanupAction)
  deriving DecidableEq

def Change.apply (change : Change) (state : BatchState) : BatchState :=
  match change with
  | .heldForCredit now code => { state with status := .preparing, lastErrorCode := some code, phaseStartedAt := some now }
  | .rejected now code =>
    { state with
      status := .cleanupPending
      remoteStatus := some (.remote .failed)
      cleanupStatus := .pending
      lastErrorCode := some code
      phaseStartedAt := some now }
  | .resumed => { state with status := .uploaded }
  | .uploadFound now =>
    { state with
      status := .uploaded
      remoteStatus := some .uploaded
      lastErrorCode := none
      phaseStartedAt := some now }
  | .uploadHeld now =>
    { state with
      status := .uploadUnknown
      remoteStatus := some .uploadUnknown
      cleanupStatus := .pending
      reconciliationErrorCode := some "upload_unknown"
      phaseStartedAt := some now }
  | .submissionFound now =>
    { state with
      status := .validating
      remoteStatus := some (.remote .validating)
      lastErrorCode := none
      phaseStartedAt := some now }
  | .submissionHeld now cleanupStatus =>
    { state with
      status := .submissionUnknown
      remoteStatus := some .submissionUnknown
      cleanupStatus
      reconciliationErrorCode := some "submission_unknown"
      phaseStartedAt := some now }
  | .planFailed code =>
    { state with
      status := .cleanupPending
      remoteStatus := some (.remote .failed)
      cleanupStatus := .pending
      cleanupFinalAction := .fail
      reconciliationErrorCode := some code }
  | .cancelledLocally =>
    { state with
      status := .cleanupPending
      remoteStatus := some (.remote .cancelled)
      cleanupStatus := .pending
      cleanupFinalAction := .cancel }
  | .abandoned now =>
    { state with
      abandonConfirmedAt := some now
      status := .cleanupPending
      remoteStatus := some .abandoned
      cleanupStatus := .pending
      cleanupFinalAction := .abandon }
  | .error code => { state with lastErrorCode := some code }
  | .finalAction action => { state with cleanupFinalAction := action }
  | .cleanup status action => { state with cleanupStatus := status, cleanupFinalAction := action.getD state.cleanupFinalAction }

/-- The status it sets, if any. -/
def Change.status : Change → Option BatchStatus
  | .heldForCredit .. => some .preparing
  | .rejected .. | .planFailed _ | .cancelledLocally | .abandoned _ => some .cleanupPending
  | .resumed | .uploadFound _ => some .uploaded
  | .uploadHeld _ => some .uploadUnknown
  | .submissionFound _ => some .validating
  | .submissionHeld .. => some .submissionUnknown
  | .error _ | .finalAction _ | .cleanup .. => none

/-- `update_batch` asks for the id only. -/
def updateBatch (db : Batches.Db) (batchId : String) (change : Change) : Batches.Outcome Unit :=
  let named := fun batch : Batch => batch.id == batchId
  if db.batches.affected named == 0 then .error (.unknownBatch batchId)
  else Batches.commit (db.setBatches named change.apply) ()

/-- `hold_prepared_for_credit` -/
def holdPreparedForCredit (db : Batches.Db) (jobId code : String) : Batches.Db :=
  db.setBatches
    (fun batch => batch.jobId == some jobId && batch.state.status == .preparing && batch.state.inputFileId.isNone &&
      batch.state.remoteBatchId.isNone)
    (Change.error code).apply

/-! ### Running calls -/

/-- What the handler of `_submit_one` has read: the exception and the row as it is then. -/
structure Caught where
  failure : Failure
  current : Option Batch
  deriving DecidableEq

inductive Round where
  | first | upload | last
  deriving DecidableEq

/-- The statements of `_assert_submission_allowed`, in their order. -/
inductive Part where
  | singles | batches | photos
  deriving DecidableEq

/-- Where a call of `_submit_one` stands: its next transaction or provider call. -/
inductive Point where
  | entering
  | checking (round : Round) (part : Part)
  | reading
  | claimingUpload
  | preparingUpload
  | uploading
  | savingUpload (fileId : String)
  | rereading
  | claimingSubmission
  | reserving
  | creating
  | saving (remote : Remote)
  | catching (failure : Failure)
  | releasing (caught : Caught)
  | choosing (caught : Caught)
  | holding (caught : Caught) (jobId : String)
  | holdReleasing (caught : Caught) (jobId : String)
  | holdPausing (caught : Caught) (jobId : String)
  | holdMarking (caught : Caught) (jobId : String)
  | markingUpload (caught : Caught)
  | markingSubmission (caught : Caught) (errorCode : String)
  | cleaning (caught : Caught)
  | listing (caught : Caught)
  | retrying (caught : Caught) (items : List Item)
  | failingJobItem (caught : Caught) (jobItemId : String) (items : List Item)
  | failingLocally (caught : Caught)
  | pausing (caught : Caught)
  | creditMarking (caught : Caught)
  | finished (raised : Option Failure)
  deriving DecidableEq

/-- One call of `_submit_one`. Its `uuid4` values are told apart from those of other calls by `id` alone.
`uploadWon`, `won` and `reserved` record what it has reached. -/
structure Submit where
  id : String
  batchId : String
  responsesEndpoint : Bool := false
  uploadAttempt : Bool := false
  submissionAttempt : Bool := false
  remoteCreated : Bool := false
  uploadWon : Bool := false
  won : Bool := false
  reserved : Bool := false
  point : Point := .entering
  deriving DecidableEq

def Submit.owner (run : Submit) : String := "submit:" ++ run.id

/-- Where `poll_due` stands with one batch. -/
inductive PollPoint where
  | listing
  | claiming (version : Nat)
  | reading
  | resuming (reopen : Bool)
  | reopening
  | releasing (planValid : Bool)
  | submitting (resumed : Bool)
  | awaiting (submitId : String) (resumed : Bool)
  | failingLocally (code : String)
  | planReading (code : String)
  | planWriting (change : Change)
  | uploadFinding
  | uploadHolding
  | submissionFinding
  | submissionHolding (cleanupStatus : CleanupStatus)
  | holdListing (status : ItemStatus)
  | holdingItems (status : ItemStatus) (items : List Item)
  | retrieving (remoteId : String)
  | versioning (remote : Remote)
  | reporting (remote : Remote) (version : Option Int)
  | noting (code : String)
  | writingError (code : String)
  | closing
  | finished
  deriving DecidableEq

structure Poll where
  id : String
  batchId : String
  point : PollPoint := .listing
  deriving DecidableEq

def Poll.owner (run : Poll) : String := "poll:" ++ run.id

inductive CancelPoint where
  | entering
  | cleaning (status : CleanupStatus) (action : Option CleanupAction)
  | writing
  | finalizing
  | claiming (remoteId : String)
  | choosing (remoteId : String)
  | cancelling (remoteId : String)
  | versioning (remote : Remote)
  | reporting (remote : Remote) (version : Option Int)
  | releasing
  | finished
  deriving DecidableEq

structure Cancel where
  id : String
  batchId : String
  point : CancelPoint := .entering
  deriving DecidableEq

def Cancel.owner (run : Cancel) : String := "cancel:" ++ run.id

inductive AbandonPoint where
  | entering | deletingFile | abandoningUpload | writing | finalizing | finished
  deriving DecidableEq

/-- `fileNamed` and `fileDeleted` say whether a remote file is named or confirmed to be deleted. -/
structure Abandon where
  id : String
  batchId : String
  confirmedNoRemote : Bool := true
  fileNamed : Bool := false
  fileDeleted : Bool := false
  point : AbandonPoint := .entering
  deriving DecidableEq

structure World where
  db : Batches.Db
  reservations : Table Reservation.id
  operations : Table Operation.id
  /-- Operations whose request has been sent. -/
  sent : List String
  usage : List Ledger.Usage
  calls : List Call
  submits : Table Submit.id
  polls : Table Poll.id
  cancels : Table Cancel.id
  abandons : Table Abandon.id

/-! ### Budget reservations -/

/-- The id under which `_submit_one` reserves. -/
def reservationId (batchId : String) : String := "batch:" ++ batchId

def World.reservationActive (w : World) (batchId : String) : Bool :=
  w.reservations.any fun reservation => reservation.id == reservationId batchId && reservation.active

/-- `BudgetService.reserve`, once the budget allows it. -/
def reserve (reservations : Table Reservation.id) (id : String) : Table Reservation.id :=
  match reservations.find id with
  | none => reservations.add ⟨id, true⟩
  | some _ => reservations.put ⟨id, true⟩

/-- `UPDATE budget_reservations SET state='released' WHERE ...` -/
def release (reservations : Table Reservation.id) (matching : Reservation → Bool) : Table Reservation.id :=
  reservations.update matching (fun reservation => { reservation with active := false }) fun _ => rfl

/-! ### Effects -/

/-- One transaction, or an answered provider call. -/
inductive Effect where
  | none
  | repository (op : Batches.Op)
  | write (batchId : String) (change : Change)
  | setItem (itemId : String) (status : ItemStatus)
  | failJobItem (jobId itemId : String)
  | pause (jobId : String)
  | hold (jobId code : String)
  | reserve (batchId : String)
  | release (batchId : String)
  | called (call : Call)
  | start (run : Submit)

/-- The batch tables after an effect; one that raises leaves them as they were. -/
def Effect.db (db : Batches.Db) : Effect → Batches.Db
  | .repository op => Batches.step db op
  | .write batchId change => (updateBatch db batchId change).after db
  | .setItem itemId status => db.setItems (fun item => item.id == itemId) status
  | .failJobItem jobId itemId => { db with jobs := (Jobs.failBatchItem db.jobs jobId itemId).1 }
  | .pause jobId => { db with jobs := (Jobs.requestPause db.jobs jobId).1 }
  | .hold jobId code => holdPreparedForCredit db jobId code
  | _ => db

def Effect.reservations (reservations : Table Reservation.id) : Effect → Table Reservation.id
  | .reserve batchId => Submission.reserve reservations (reservationId batchId)
  | .release batchId => Submission.release reservations fun reservation => reservation.id == reservationId batchId
  | _ => reservations

def Effect.calls (calls : List Call) : Effect → List Call
  | .called call => calls ++ [call]
  | _ => calls

def Effect.submits (submits : Table Submit.id) : Effect → Table Submit.id
  | .start run => submits.add run
  | _ => submits

def World.apply (w : World) (effect : Effect) : World :=
  { w with
    db := effect.db w.db
    reservations := effect.reservations w.reservations
    calls := effect.calls w.calls
    submits := effect.submits w.submits }

end InkTime.Submission
