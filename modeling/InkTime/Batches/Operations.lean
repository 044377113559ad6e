import InkTime.Batches.Model

/-!
# The calls of the batch repository

Each definition is one method of `AnalysisBatchRepository`, in one transaction. `now` is the clock the method
reads.
-/

namespace InkTime.Batches

open Checked
open Texts (strip)

/-! ### Creating batches -/

structure NewItem where
  id : String
  jobItemId : Option String := none
  photoId : Option String := none
  customId : String
  contentSha256 : String
  visionRequestFingerprint : String
  status : ItemStatus := .pending

/-- The unique indexes of `analysis_batch_items` leave room for the row. -/
def itemFits (db : Db) (item : Item) : Bool :=
  !db.items.any fun other =>
    other.customId == item.customId ||
      (item.status.indexed && other.status.indexed &&
        ((item.jobItemId.isSome && other.jobItemId == item.jobItemId) ||
          (other.contentSha256 == item.contentSha256 &&
            other.visionRequestFingerprint == item.visionRequestFingerprint)))

def jobExists (db : Db) : Option String → Bool
  | none => true
  | some jobId => (db.jobs.jobs.find jobId).isSome

def jobItemExists (db : Db) : Option String → Bool
  | none => true
  | some jobItemId => (db.jobs.items.find jobItemId).isSome

/-- `INSERT INTO analysis_batches` -/
def insertBatch (db : Db) (batch : Batch) : Except BatchError Db := do
  require (jobExists db batch.jobId) .integrity
  let batches ← orError (db.batches.insert batch) .integrity
  .ok { db with batches }

/-- `INSERT INTO analysis_batch_items` -/
def insertItem (db : Db) (item : Item) : Except BatchError Db := do
  require (itemFits db item && jobItemExists db item.jobItemId) .integrity
  let items ← orError (db.items.insert item) .integrity
  .ok { db with items }

def NewItem.row (item : NewItem) (batchId : String) : Item where
  id := item.id
  batchId := batchId
  jobItemId := item.jobItemId
  photoId := item.photoId
  customId := item.customId
  contentSha256 := item.contentSha256
  visionRequestFingerprint := item.visionRequestFingerprint
  status := item.status

/-- `executemany` stops at the first row that does not fit. -/
def insertItems (batchId : String) : Db → List NewItem → Except BatchError Db
  | db, [] => .ok db
  | db, item :: rest => do
    let db ← insertItem db (item.row batchId)
    insertItems batchId db rest

def createWithItems (db : Db) (batchId : String) (jobId : Option String) (status : BatchStatus) (items : List NewItem) :
    Except BatchError (Db × Nat) := do
  let db ← insertBatch db { id := batchId, jobId, state := { status, totalItems := items.length } }
  let db ← insertItems batchId db items
  .ok (db, items.length)

def BatchState.resized (totalItems : Nat) (state : BatchState) : BatchState := { state with totalItems }

/-- Both item counts are stored in columns that may not be negative. -/
def createChildBatch (db : Db) (parentId childId : String) (itemIds : List String) (totalItems : Int) :
    Except BatchError (Db × Nat) := do
  require (!itemIds.isEmpty) .emptyChild
  let parent ← orError (db.batches.find parentId) (.unknownBatch parentId)
  let selected := db.items.count fun item => item.batchId == parentId && itemIds.contains item.id
  require (selected == itemIds.length) .foreignChildItem
  require (0 ≤ totalItems && itemIds.length ≤ parent.state.totalItems) .integrity
  let db ← insertBatch db { id := childId, jobId := parent.jobId, state := { totalItems := totalItems.toNat } }
  let db := db.moveItems (fun item => itemIds.contains item.id) childId
  let db := db.setBatches (fun batch => batch.id == parentId)
    (BatchState.resized (parent.state.totalItems - itemIds.length))
  .ok (db, itemIds.length)

/-! ### Claims -/

/-- `UPDATE analysis_batches SET ... WHERE id=? AND ...`, with the row count as answer. -/
def compareAndSet (db : Db) (batchId : String) (guard : BatchState → Bool) (set : BatchState → BatchState) : Db × Bool :=
  let matching := fun batch : Batch => batch.id == batchId && guard batch.state
  (db.setBatches matching set, db.batches.affected matching != 0)

/-- `if cursor.rowcount: UPDATE analysis_batch_items ...` -/
def thenItems (written : Db × Bool) (matching : Item → Bool) (status : ItemStatus) : Db × Bool :=
  if written.2 then (written.1.setItems matching status, true) else written

def BatchState.pollFree (now : Nat) (expectedVersion : Int) (state : BatchState) : Bool :=
  state.status.pollable && (state.sideEffectVersion : Int) == expectedVersion && state.leaseFree now

def claimPoll (db : Db) (now : Nat) (batchId owner : String) (leaseUntil : Nat) (expectedVersion : Int) : Db × Bool :=
  compareAndSet db batchId (BatchState.pollFree now expectedVersion) (BatchState.claimed owner leaseUntil)

def releaseSideEffectClaim (db : Db) (batchId owner : String) : Db × Bool :=
  compareAndSet db batchId (fun state => state.sideEffectOwner == some owner) BatchState.released

def BatchState.uploadFree (now : Nat) (state : BatchState) : Bool :=
  state.status == .preparing && state.inputFileId.isNone && state.leaseFree now

def BatchState.uploadClaimed (now : Nat) (owner attemptId : String) (leaseUntil : Nat) (state : BatchState) : BatchState :=
  { state.claimed owner leaseUntil with
    status := .uploading
    uploadAttemptId := some attemptId
    phaseStartedAt := some now
    lastErrorCode := none }

def claimUpload (db : Db) (now : Nat) (batchId owner attemptId : String) (leaseUntil : Nat) : Db × Bool :=
  compareAndSet db batchId (BatchState.uploadFree now) (BatchState.uploadClaimed now owner attemptId leaseUntil)

/-- The claim under which an upload runs. -/
def BatchState.holdsUpload (attemptId owner : String) (state : BatchState) : Bool :=
  state.status == .uploading && state.uploadAttemptId == some attemptId && state.sideEffectOwner == some owner

def BatchState.uploadCompleted (now : Nat) (inputFileId : String) (state : BatchState) : BatchState :=
  { state.released with
    inputFileId := some inputFileId
    status := .uploaded
    phaseStartedAt := some now }

def completeUpload (db : Db) (now : Nat) (batchId attemptId owner inputFileId : String) : Outcome Bool :=
  let written := compareAndSet db batchId (BatchState.holdsUpload attemptId owner) (BatchState.uploadCompleted now inputFileId)
  commit written.1 written.2

def BatchState.uploadLost (now : Nat) (errorCode : String) (state : BatchState) : BatchState :=
  { state.released with
    status := .uploadUnknown
    remoteStatus := some .uploadUnknown
    cleanupStatus := .pending
    reconciliationErrorCode := some errorCode
    phaseStartedAt := some now }

def markUploadUnknown (db : Db) (now : Nat) (batchId attemptId owner errorCode : String) : Db × Bool :=
  thenItems (compareAndSet db batchId (BatchState.holdsUpload attemptId owner) (BatchState.uploadLost now errorCode))
    (fun item => item.batchId == batchId && item.status == .pending) .uploadUnknown

def BatchState.submissionFree (now : Nat) (state : BatchState) : Bool :=
  state.status == .uploaded && state.inputFileId.isSome && state.leaseFree now

def BatchState.submissionClaimed (now : Nat) (owner attemptId : String) (leaseUntil : Nat) (state : BatchState) : BatchState :=
  { state.claimed owner leaseUntil with
    status := .submitting
    submissionAttemptId := some attemptId
    phaseStartedAt := some now
    submittedAt := some (state.submittedAt.getD now)
    lastErrorCode := none }

def claimSubmission (db : Db) (now : Nat) (batchId owner attemptId : String) (leaseUntil : Nat) : Db × Bool :=
  compareAndSet db batchId (BatchState.submissionFree now) (BatchState.submissionClaimed now owner attemptId leaseUntil)

/-- `('validating','in_progress','finalizing','cancelling')` -/
def BatchStatus.cancellable : BatchStatus → Bool
  | .validating | .inProgress | .finalizing | .cancelling => true
  | _ => false

def BatchState.cancelFree (now : Nat) (state : BatchState) : Bool :=
  state.remoteBatchId.isSome && state.status.cancellable && state.leaseFree now

def BatchState.cancelClaimed (now : Nat) (owner : String) (leaseUntil : Nat) (state : BatchState) : BatchState :=
  { state.claimed owner leaseUntil with
    status := .cancelling
    phaseStartedAt := some now }

def claimCancel (db : Db) (now : Nat) (batchId owner : String) (leaseUntil : Nat) : Db × Bool :=
  compareAndSet db batchId (BatchState.cancelFree now) (BatchState.cancelClaimed now owner leaseUntil)

/-! ### Submission -/

/-- The claim under which `create_batch` runs. -/
def BatchState.holdsSubmission (attemptId owner : String) (state : BatchState) : Bool :=
  state.status == .submitting && state.submissionAttemptId == some attemptId && state.sideEffectOwner == some owner

def remoteIdTaken (db : Db) (batchId remoteId : String) : Bool :=
  db.batches.any fun batch => batch.state.remoteBatchId == some remoteId && batch.id != batchId

/-- Identity checks of `complete_submission`. -/
def checkSubmitted (db : Db) (batch : Batch) (remoteId : String) (remote : Remote) : Except BatchError Unit := do
  require (!clashes batch.state.remoteBatchId remoteId) .remoteIdChanged
  require (!remoteIdTaken db batch.id remoteId) .remoteIdTaken
  require (remote.inputFileId.all fun given => given == batch.state.inputFileId.getD "") .remoteInputChanged
  require (remote.outputFileId.all fun given => !clashes batch.state.outputFileId given)
    (.remoteFileChanged "output_file_id")
  require (remote.errorFileId.all fun given => !clashes batch.state.errorFileId given)
    (.remoteFileChanged "error_file_id")

/-- The columns a known remote batch sets. -/
def BatchState.bound (now : Nat) (remoteId : String) (status : RemoteStatus) (remote : Remote) (state : BatchState) :
    BatchState :=
  { state.released with
    remoteBatchId := some remoteId
    status := status.localStatus
    remoteStatus := some (.remote status)
    lastErrorCode := none
    reconciliationErrorCode := none
    phaseStartedAt := some now
    outputFileId := remote.outputFileId <|> state.outputFileId
    errorFileId := remote.errorFileId <|> state.errorFileId }

/-- Items that become `submitted` when the remote batch is known. -/
def ItemStatus.awaitsSubmission : ItemStatus → Bool
  | .pending | .submissionUnknown => true
  | _ => false

def completeSubmission (db : Db) (now : Nat) (batchId attemptId owner : String) (remote : Remote) :
    Except BatchError (Db × Option BatchStatus) := do
  let remoteId := remote.identity.getD ""
  require (remoteId != "") .submissionIdMissing
  let status ← orError (RemoteStatus.parse ((orElse remote.status (some "validating")).getD "")) .remoteStatusInvalid
  let batch ← orError (db.batches.find batchId) (.unknownBatch batchId)
  if batch.state.status != .submitting || batch.state.submissionAttemptId.getD "" != attemptId ||
      batch.state.sideEffectOwner.getD "" != owner then
    .ok (db, none)
  else do
    checkSubmitted db batch remoteId remote
    let written := compareAndSet db batchId (BatchState.holdsSubmission attemptId owner)
      (BatchState.bound now remoteId status remote)
    if written.2 then
      commit (written.1.setItems (fun item => item.batchId == batchId && item.status.awaitsSubmission) .submitted)
        (some status.localStatus)
    else .ok (written.1, none)

def BatchState.submissionLost (now : Nat) (errorCode : String) (state : BatchState) : BatchState :=
  { state.released with
    status := .submissionUnknown
    remoteStatus := some .submissionUnknown
    reconciliationErrorCode := some errorCode
    phaseStartedAt := some now }

def markSubmissionUnknown (db : Db) (now : Nat) (batchId attemptId owner errorCode : String) : Db × Bool :=
  thenItems (compareAndSet db batchId (BatchState.holdsSubmission attemptId owner) (BatchState.submissionLost now errorCode))
    (fun item => item.batchId == batchId && (item.status == .pending || item.status == .submitted)) .submissionUnknown

/-! ### Recovery -/

def BatchState.uploadLostAlone (state : BatchState) : Bool := state.status == .uploadUnknown && state.remoteBatchId.isNone

def BatchState.uploadRecovered (now : Nat) (inputFileId : String) (state : BatchState) : BatchState :=
  { state.released with
    inputFileId := some inputFileId
    status := .uploaded
    cleanupStatus := .pending
    lastErrorCode := none
    reconciliationErrorCode := none
    phaseStartedAt := some now }

def recoverUploadedFile (db : Db) (now : Nat) (batchId inputFileId : String) : Db × Bool :=
  thenItems (compareAndSet db batchId BatchState.uploadLostAlone (BatchState.uploadRecovered now inputFileId))
    (fun item => item.batchId == batchId && item.status == .uploadUnknown) .pending

/-- `("submission_unknown", "submitting", "validating")` -/
def BatchStatus.recoverable : BatchStatus → Bool
  | .submissionUnknown | .submitting | .validating => true
  | _ => false

/-- Items that a recovered remote batch takes along. -/
def ItemStatus.awaitsRecovery : ItemStatus → Bool
  | .pending | .uploadUnknown | .submissionUnknown => true
  | _ => false

/-- Identity checks of `bind_recovered_remote`. -/
def checkRecovered (db : Db) (batch : Batch) (remoteId : String) (remote : Remote) : Except BatchError Unit := do
  require (!remoteIdTaken db batch.id remoteId) .remoteIdTaken
  require (!clashes batch.state.remoteBatchId remoteId) .recoveryIdChanged
  require (remote.outputFileId.all fun given => !clashes batch.state.outputFileId given)
    (.recoveryFileChanged "output_file_id")
  require (remote.errorFileId.all fun given => !clashes batch.state.errorFileId given)
    (.recoveryFileChanged "error_file_id")

def BatchState.recovered (now : Nat) (remoteId : String) (status : RemoteStatus) (remote : Remote) (state : BatchState) :
    BatchState :=
  { state.bound now remoteId status remote with
    totalItems := (remote.totalCount.map fun total => (max 0 total).toNat).getD state.totalItems }

def bindRecoveredRemote (db : Db) (now : Nat) (batchId : String) (remote : Remote) (itemStatus : ItemStatus) :
    Except BatchError (Db × BatchStatus) := do
  let remoteId := remote.identity.getD ""
  require (remoteId != "") .recoveryIdMissing
  let status ← orError (RemoteStatus.parse ((orElse remote.status (some "")).getD "")) .recoveryStatus
  let batch ← orError (db.batches.find batchId) (.unknownBatch batchId)
  require batch.state.status.recoverable .recoveryPhase
  checkRecovered db batch remoteId remote
  let db := db.setBatches (fun batch => batch.id == batchId) (BatchState.recovered now remoteId status remote)
  let db := db.setItems (fun item => item.batchId == batchId && item.status.awaitsRecovery) itemStatus
  commit db status.localStatus

/-! ### Reports of the provider -/

inductive Report where
  | ignoredStale
  | applied (status : BatchStatus)
  deriving DecidableEq

/-- Local statuses that no report of the provider moves. -/
def BatchStatus.closedToReports : BatchStatus → Bool
  | .importPending | .importing | .cleanupPending => true
  | status => status.terminal

/-- The report is older than what the row already says. -/
def staleReport (state : BatchState) (status : RemoteStatus) (expectedVersion : Option Int) (owner : Option String) : Bool :=
  (expectedVersion.any fun expected => (state.sideEffectVersion : Int) != expected) ||
    (owner.any fun given => state.sideEffectOwner.getD "" != given) ||
    state.status.closedToReports ||
    (match state.remoteStatus with
      | some (.remote current) =>
        decide (status.rank < current.rank) || (current.terminal && status != current) ||
          (current.terminal && !status.terminal)
      | _ => false) ||
    (state.status == .cancelling && (status == .validating || status == .inProgress || status == .finalizing))

/-- Identity checks of `set_status_from_remote`. -/
def checkReported (state : BatchState) (remote : Remote) : Except BatchError Unit := do
  require (remote.identity.all fun given => !clashes state.remoteBatchId given) .remoteIdChanged
  require (remote.inputFileId.all fun given => !clashes state.inputFileId given) .remoteInputChanged
  require (remote.outputFileId.all fun given => !clashes state.outputFileId given) (.remoteFileChanged "output_file_id")
  require (remote.errorFileId.all fun given => !clashes state.errorFileId given) (.remoteFileChanged "error_file_id")

/-- `max(int(current), int(count))` for a count that was reported -/
def raised (current : Nat) (count : Option Int) : Nat := (count.map fun given => (max (current : Int) given).toNat).getD current

/-- The columns a report sets. The identity is checked under `id` first, and written from `remote_batch_id`. -/
def BatchState.reported (status : RemoteStatus) (remote : Remote) (state : BatchState) : BatchState :=
  { state.released with
    status := status.localStatus
    remoteStatus := some (.remote status)
    remoteBatchId := remote.remoteBatchId <|> state.remoteBatchId
    outputFileId := remote.outputFileId <|> state.outputFileId
    errorFileId := remote.errorFileId <|> state.errorFileId
    inputFileId := if truthy state.inputFileId then state.inputFileId else remote.inputFileId <|> state.inputFileId
    totalItems := raised state.totalItems remote.totalCount
    completedItems := raised state.completedItems remote.completedCount
    failedItems := raised state.failedItems remote.failedCount
    lastErrorCode := if remote.reportsErrors then some "remote_validation_error" else state.lastErrorCode }

def setStatusFromRemote (db : Db) (batchId : String) (remote : Remote) (expectedVersion : Option Int)
    (owner : Option String) : Except BatchError (Db × Report) := do
  let status ← orError (RemoteStatus.parse (strip (remote.status.getD ""))) .remoteStatusInvalid
  let batch ← orError (db.batches.find batchId) (.unknownBatch batchId)
  if staleReport batch.state status expectedVersion owner then
    .ok (db, .ignoredStale)
  else do
    checkReported batch.state remote
    let written := compareAndSet db batchId
      (fun state => state.sideEffectVersion == batch.state.sideEffectVersion) (BatchState.reported status remote)
    if written.2 then
      commit (written.1.setItems (fun item => item.batchId == batchId && item.status.awaitsSubmission) .submitted)
        (.applied status.localStatus)
    else .ok (written.1, .ignoredStale)

/-! ### Closing a batch -/

/-- Failed and settled rows of the job, as `jobs` counts them. -/
def countedState (db : Db) (jobId : String) (state : Jobs.JobState) : Jobs.JobState :=
  { state with
    completedItems := db.jobs.itemCount jobId .completed
    failedItems := db.jobs.itemCount jobId .failed }

def openBatches (db : Db) (jobId : String) : Nat :=
  db.batches.count fun batch => batch.jobId == some jobId && !batch.state.status.terminal

/-- `UPDATE jobs SET ...,completed_items=?,failed_items=? WHERE id=? AND status!='cancelled'` -/
def settleJob (db : Db) (jobId : String) (status : Jobs.JobStatus) : Db :=
  let counted := countedState db jobId
  let named := fun job : Jobs.Job => job.id == jobId && job.state.status != .cancelled
  if openBatches db jobId == 0 then db.setJobs named fun state => { counted state with status }
  else db.setJobs named counted

/-- The batches a local failure sweeps. -/
def localTargets (batch : Batch) (includeJobSiblings : Bool) (other : Batch) : Bool :=
  if includeJobSiblings && truthy batch.jobId then other.jobId == batch.jobId else other.id == batch.id

/-- The targets whose rows it rewrites: `remote_batch_id IS NULL AND input_file_id IS NULL` -/
def unsentTarget (batch : Batch) (includeJobSiblings : Bool) (other : Batch) : Bool :=
  localTargets batch includeJobSiblings other && other.state.remoteBatchId.isNone && other.state.inputFileId.isNone

/-- Rows of the swept batches. -/
def sweptItem (db : Db) (targets : Batch → Bool) (item : Item) : Bool :=
  db.batches.any fun batch => targets batch && batch.id == item.batchId

/-- `('imported','failed','cancelled')` -/
def ItemStatus.sparedByFailure : ItemStatus → Bool
  | .imported | .failed | .cancelled => true
  | _ => false

def BatchState.locallyFailed (errorCode : String) (state : BatchState) : BatchState :=
  { state.released with
    status := .failed
    remoteStatus := some (.remote .failed)
    cleanupStatus := .notRequired
    failedItems := state.totalItems
    missingItems := 0
    staleItems := 0
    importedItems := 0
    cleanupFinalAction := .fail
    lastErrorCode := some errorCode }

/-- Job items of the given batch items. -/
def namesJobItem (db : Db) (matching : Item → Bool) (jobItem : Jobs.Item) : Bool :=
  db.items.any fun item => matching item && item.jobItemId == some jobItem.id

def failJobItems (db : Db) (targets : Batch → Bool) (jobId : String) (jobStatus : Jobs.JobStatus) : Db :=
  let db := db.setJobItems
    (fun jobItem => namesJobItem db (sweptItem db targets) jobItem && jobItem.state.status.unsettled)
    fun state => { state with status := .failed, leaseUntil := none }
  settleJob db jobId jobStatus

def failLocalBatch (db : Db) (batchId errorCode : String) (jobStatus : Jobs.JobStatus) (includeJobSiblings : Bool) :
    Except BatchError (Db × Bool) := do
  require (jobStatus == .failed || jobStatus == .completedWithErrors) .illegalJobStatus
  let batch ← orError (db.batches.find batchId) (.unknownBatch batchId)
  let targets := localTargets batch includeJobSiblings
  require (!db.batches.any fun other => targets other && other.state.hasSideEffect) .remoteSideEffect
  let failed := db.setBatches (unsentTarget batch includeJobSiblings) (BatchState.locallyFailed errorCode)
  if db.batches.affected (unsentTarget batch includeJobSiblings) != db.batches.count targets then
    commit failed false
  else
    let failed := failed.setItems (fun item => sweptItem db targets item && !item.status.sparedByFailure) .failed
    if truthy batch.jobId then
      commit (failJobItems failed targets (batch.jobId.getD "") jobStatus) true
    else commit failed true

/-! `_finalize_batch_locked` -/

/-- `("failed", "cancelled", "expired")` with the status their open items take -/
def BatchStatus.closingItems : BatchStatus → Option ItemStatus
  | .failed => some .failed
  | .cancelled => some .cancelled
  | .expired => some .expired
  | _ => none

/-- `('failed','schema_invalid','duplicate_custom_id','unexpected_custom_id')` -/
def ItemStatus.countsFailed : ItemStatus → Bool
  | .failed | .schemaInvalid | .duplicateCustomId | .unexpectedCustomId => true
  | _ => false

/-- `('missing','retry_pending')` -/
def ItemStatus.countsMissing : ItemStatus → Bool
  | .missing | .retryPending => true
  | _ => false

/-- `('failed','cancelled','expired')` -/
def ItemStatus.closed : ItemStatus → Bool
  | .failed | .cancelled | .expired => true
  | _ => false

def BatchState.finalized (db : Db) (batchId : String) (status : BatchStatus) (finalAction : Option CleanupAction)
    (cleanupStatus : Option CleanupStatus) (errorCode : Option String) (state : BatchState) : BatchState :=
  { state.released with
    status := status
    completedItems := db.itemCount batchId (· == .imported)
    failedItems := db.itemCount batchId ItemStatus.countsFailed
    missingItems := db.itemCount batchId ItemStatus.countsMissing
    staleItems := db.itemCount batchId (· == .stale)
    importedItems := db.itemCount batchId (· == .imported)
    cleanupFinalAction := finalAction.getD state.cleanupFinalAction
    cleanupStatus := cleanupStatus.getD state.cleanupStatus
    lastErrorCode := errorCode <|> state.lastErrorCode }

/-- Status of a job whose batches are all closed. -/
def closedJobStatus (db : Db) (jobId : String) : Jobs.JobStatus :=
  let siblings := (db.batches.rows.filter fun batch => batch.jobId == some jobId).map fun batch => batch.state.status
  if siblings.all (· == .cancelled) then .cancelled
  else if siblings.all (· == .failed) then .failed
  else if siblings.all (· == .completed) then .completed
  else .completedWithErrors

/-- The job side of a closed batch. -/
def closeJobItems (db : Db) (batchId jobId : String) (status : BatchStatus) : Db :=
  let closing := status.closingItems.isSome
  let db := db.setJobItems
    (fun jobItem => closing && namesJobItem db (fun item => item.batchId == batchId && item.status.closed) jobItem &&
      jobItem.state.status.unsettled)
    fun state => { state with status := if status == .cancelled then .cancelled else .failed, leaseUntil := none }
  settleJob db jobId (closedJobStatus db jobId)

/-- A batch that fails, expires or is cancelled takes its open items along. -/
def settledItems (db : Db) (batchId : String) (status : BatchStatus) : Db :=
  match status.closingItems with
  | none => db
  | some itemStatus => db.setItems (fun item => item.batchId == batchId && item.status.active) itemStatus

def finalizeBatchLocked (db : Db) (batchId : String) (status : BatchStatus) (finalAction : Option CleanupAction)
    (cleanupStatus : Option CleanupStatus) (errorCode : Option String) : Except BatchError (Db × BatchStatus) := do
  require status.terminal .notTerminal
  let batch ← orError (db.batches.find batchId) (.unknownBatch batchId)
  if batch.state.status.terminal then
    .ok (db, batch.state.status)
  else do
    let settled := settledItems db batchId status
    require (settled.itemCount batchId ItemStatus.active == 0) .activeItems
    let closed := settled.setBatches (fun batch => batch.id == batchId)
      (BatchState.finalized settled batchId status finalAction cleanupStatus errorCode)
    if truthy batch.jobId then
      commit (closeJobItems closed batchId (batch.jobId.getD "") status) status
    else commit closed status

def finalizeBatchResult (db : Db) (batchId : String) (status : BatchStatus) (finalAction : Option CleanupAction)
    (cleanupStatus : Option CleanupStatus) (errorCode : Option String) : Except BatchError (Db × BatchStatus) :=
  finalizeBatchLocked db batchId status finalAction cleanupStatus errorCode

def BatchState.uploadAbandoned (now : Nat) (state : BatchState) : BatchState :=
  { state with
    remoteStatus := some .abandoned
    abandonConfirmedAt := some now
    inputFileDeleted := true }

def abandonUnknownUpload (db : Db) (now : Nat) (batchId : String) (confirmedDeleted : Bool) :
    Except BatchError (Db × Bool) := do
  require confirmedDeleted .deletionUnconfirmed
  let batch ← orError (db.batches.find batchId) (.unknownBatch batchId)
  require (batch.state.status == .uploadUnknown) .notUploadUnknown
  let written := compareAndSet db batchId (fun state => state.status == .uploadUnknown) (BatchState.uploadAbandoned now)
  if written.2 then do
    let closed ← finalizeBatchLocked written.1 batchId .failed (some .abandon) (some .completed) (some "abandoned")
    .ok (closed.1, true)
  else .ok written

/-! ### Remote files -/

def BatchState.filePresent (kind : FileKind) (state : BatchState) : Bool :=
  (state.fileId kind).isSome && !state.fileDeleted kind

def BatchState.fileClaimed (kind : FileKind) (owner : String) (leaseUntil : Nat) (state : BatchState) : BatchState :=
  (state.setDeleteUnknown kind).claimed owner leaseUntil

def claimCleanupFile (db : Db) (now : Nat) (batchId : String) (kind : FileKind) (owner : String) (leaseUntil : Nat) :
    Db × Option (String × Bool) :=
  match db.batches.rows.find? fun batch => batch.id == batchId && batch.state.filePresent kind with
  | none => (db, none)
  | some before =>
    let written := compareAndSet db batchId (fun state => state.filePresent kind && state.leaseFree now)
      (BatchState.fileClaimed kind owner leaseUntil)
    (written.1, if written.2 then some ((before.state.fileId kind).getD "", before.state.deleteUnknown kind) else none)

def BatchState.fileCleaned (kind : FileKind) (state : BatchState) : BatchState := (state.setFileDeleted kind).released

def completeCleanupFile (db : Db) (batchId : String) (kind : FileKind) (owner : String) : Db × Bool :=
  compareAndSet db batchId (fun state => state.sideEffectOwner == some owner) (BatchState.fileCleaned kind)

def finalizeCleanup (db : Db) (batchId : String) : Except BatchError (Db × BatchStatus) := do
  let batch ← orError (db.batches.find batchId) (.unknownBatch batchId)
  require (!batch.state.hasUndeletedFile) .undeletedFile
  if batch.state.status.terminal then
    .ok (db, batch.state.status)
  else
    let cleanupStatus := if batch.state.hasFiles then CleanupStatus.completed else .notRequired
    match batch.state.cleanupFinalAction with
    | .cancel => finalizeBatchLocked db batchId .cancelled (some .cancel) (some cleanupStatus) (some "cancelled")
    | .abandon => finalizeBatchLocked db batchId .failed (some .abandon) (some cleanupStatus) (some "abandoned")
    | .fail => finalizeBatchLocked db batchId .failed (some .fail) (some cleanupStatus) (some "failed")
    | .none | .complete => .ok (db, batch.state.status)

end InkTime.Batches
