import InkTime.Jobs.Model
import InkTime.Library.Checked
import InkTime.Library.Texts

/-!
# Analysis batches

The tables `analysis_batches` and `analysis_batch_items` as `AnalysisBatchRepository` uses them, beside the
jobs they belong to. Columns that only record what happened (messages, paths, sizes, tokens, prices and the
times nothing reads) are not kept. Instants are microseconds since the epoch.
-/

namespace InkTime.Batches

inductive BatchStatus where
  | preparing | uploading | uploadUnknown | uploaded | submitting | submissionUnknown
  | validating | inProgress | finalizing | importPending | importing | cancelling | cleanupPending
  | completed | completedWithErrors | failed | expired | cancelled
  deriving DecidableEq, Repr

/-- `TERMINAL_BATCH_STATUSES` -/
def BatchStatus.terminal : BatchStatus → Bool
  | .completed | .completedWithErrors | .failed | .expired | .cancelled => true
  | _ => false

/-- `ACTIVE_BATCH_STATUSES` -/
def BatchStatus.active (status : BatchStatus) : Bool := !status.terminal

/-- `ACTIVE_BATCH_STATUSES - {"upload_unknown", "submission_unknown"}` -/
def BatchStatus.pollable : BatchStatus → Bool
  | .uploadUnknown | .submissionUnknown => false
  | status => status.active

inductive ItemStatus where
  | pending | submitted | success | failed | missing | retryPending | stale
  | schemaInvalid | duplicateCustomId | unexpectedCustomId
  | imported | cancelled | expired | uploadUnknown | submissionUnknown
  deriving DecidableEq, Repr

/-- `("pending", "submitted", "upload_unknown", "submission_unknown")` -/
def ItemStatus.active : ItemStatus → Bool
  | .pending | .submitted | .uploadUnknown | .submissionUnknown => true
  | _ => false

/-- Statuses of the two partial unique indexes on the items. -/
def ItemStatus.indexed : ItemStatus → Bool
  | .success => true
  | status => status.active

/-- Statuses of a batch at the provider. -/
inductive RemoteStatus where
  | validating | inProgress | finalizing | completed | failed | expired | cancelling | cancelled
  deriving DecidableEq, Repr

def RemoteStatus.parse : String → Option RemoteStatus
  | "validating" => some .validating
  | "in_progress" => some .inProgress
  | "finalizing" => some .finalizing
  | "completed" => some .completed
  | "failed" => some .failed
  | "expired" => some .expired
  | "cancelling" => some .cancelling
  | "cancelled" => some .cancelled
  | _ => none

def RemoteStatus.terminal : RemoteStatus → Bool
  | .completed | .failed | .expired | .cancelled => true
  | _ => false

def RemoteStatus.rank : RemoteStatus → Nat
  | .validating => 10
  | .inProgress => 20
  | .finalizing => 30
  | .cancelling => 35
  | .completed | .failed | .expired | .cancelled => 40

/-- A terminal batch at the provider waits for its import here. -/
def RemoteStatus.localStatus : RemoteStatus → BatchStatus
  | .validating => .validating
  | .inProgress => .inProgress
  | .finalizing => .finalizing
  | .cancelling => .cancelling
  | .completed | .failed | .expired | .cancelled => .importPending

/-- What `remote_status` may hold besides a status of the provider. -/
inductive RemoteMark where
  | remote (status : RemoteStatus)
  | uploaded | uploadUnknown | submissionUnknown | abandoned
  deriving DecidableEq

inductive CleanupStatus where
  | pending | partially | completed | notRequired
  deriving DecidableEq

inductive CleanupAction where
  | none | complete | cancel | abandon | fail
  deriving DecidableEq

inductive FileKind where
  | input | output | error
  deriving DecidableEq

structure BatchState where
  status : BatchStatus := .preparing
  uploadAttemptId : Option String := none
  submissionAttemptId : Option String := none
  sideEffectVersion : Nat := 0
  sideEffectLeaseUntil : Option Nat := none
  sideEffectOwner : Option String := none
  phaseStartedAt : Option Nat := none
  abandonConfirmedAt : Option Nat := none
  submittedAt : Option Nat := none
  inputFileId : Option String := none
  remoteBatchId : Option String := none
  outputFileId : Option String := none
  errorFileId : Option String := none
  inputFileDeleted : Bool := false
  outputFileDeleted : Bool := false
  errorFileDeleted : Bool := false
  inputFileDeleteUnknown : Bool := false
  outputFileDeleteUnknown : Bool := false
  errorFileDeleteUnknown : Bool := false
  totalItems : Nat := 0
  completedItems : Nat := 0
  failedItems : Nat := 0
  missingItems : Nat := 0
  staleItems : Nat := 0
  importedItems : Nat := 0
  remoteStatus : Option RemoteMark := none
  cleanupStatus : CleanupStatus := .pending
  cleanupFinalAction : CleanupAction := .none
  lastErrorCode : Option String := none
  reconciliationErrorCode : Option String := none
  deriving DecidableEq

structure Batch where
  id : String
  jobId : Option String := none
  state : BatchState := {}
  deriving DecidableEq

structure Item where
  id : String
  batchId : String
  jobItemId : Option String := none
  photoId : Option String := none
  customId : String
  contentSha256 : String
  visionRequestFingerprint : String
  status : ItemStatus := .pending
  requestId : Option String := none
  rawResponseJson : Option String := none
  deriving DecidableEq

lemma Item.id_status (status : ItemStatus) (item : Item) : { item with status }.id = item.id := rfl

structure Db where
  batches : Table Batch.id
  items : Table Item.id
  jobs : Jobs.Db

/-- A batch as the provider reports it; a missing key and a null are the same to every reader. -/
structure Remote where
  id : Option String := none
  remoteBatchId : Option String := none
  status : Option String := none
  inputFileId : Option String := none
  outputFileId : Option String := none
  errorFileId : Option String := none
  totalCount : Option Int := none
  completedCount : Option Int := none
  failedCount : Option Int := none
  reportsErrors : Bool := false
  deriving DecidableEq

/-! ### Texts that may be missing -/

/-- `bool(value)` of a text or `None` -/
def truthy : Option String → Bool
  | none => false
  | some text => text != ""

/-- `value or other` -/
def orElse (value other : Option String) : Option String := if truthy value then value else other

/-- `stored not in (None, "", given)` -/
def clashes (stored : Option String) (given : String) : Bool := truthy stored && stored != some given

/-- `remote.get("id") or remote.get("remote_batch_id")` -/
def Remote.identity (remote : Remote) : Option String := orElse remote.id remote.remoteBatchId

namespace BatchState

def leaseFree (now : Nat) (state : BatchState) : Bool :=
  match state.sideEffectLeaseUntil with
  | none => true
  | some expiry => expiry ≤ now

/-- The columns a claim sets. -/
def claimed (owner : String) (leaseUntil : Nat) (state : BatchState) : BatchState :=
  { state with
    sideEffectOwner := some owner
    sideEffectLeaseUntil := some leaseUntil
    sideEffectVersion := state.sideEffectVersion + 1 }

/-- The columns the end of a claim sets back. -/
def released (state : BatchState) : BatchState :=
  { state with
    sideEffectOwner := none
    sideEffectLeaseUntil := none
    sideEffectVersion := state.sideEffectVersion + 1 }

def fileId (state : BatchState) : FileKind → Option String
  | .input => state.inputFileId
  | .output => state.outputFileId
  | .error => state.errorFileId

def fileDeleted (state : BatchState) : FileKind → Bool
  | .input => state.inputFileDeleted
  | .output => state.outputFileDeleted
  | .error => state.errorFileDeleted

def deleteUnknown (state : BatchState) : FileKind → Bool
  | .input => state.inputFileDeleteUnknown
  | .output => state.outputFileDeleteUnknown
  | .error => state.errorFileDeleteUnknown

def setFileDeleted (state : BatchState) : FileKind → BatchState
  | .input => { state with inputFileDeleted := true, inputFileDeleteUnknown := false }
  | .output => { state with outputFileDeleted := true, outputFileDeleteUnknown := false }
  | .error => { state with errorFileDeleted := true, errorFileDeleteUnknown := false }

def setDeleteUnknown (state : BatchState) : FileKind → BatchState
  | .input => { state with inputFileDeleteUnknown := true }
  | .output => { state with outputFileDeleteUnknown := true }
  | .error => { state with errorFileDeleteUnknown := true }

/-- One of the four remote identities is set. -/
def hasSideEffect (state : BatchState) : Bool :=
  truthy state.inputFileId || truthy state.remoteBatchId || truthy state.outputFileId || truthy state.errorFileId

def hasFiles (state : BatchState) : Bool :=
  truthy state.inputFileId || truthy state.outputFileId || truthy state.errorFileId

/-- A known file is not deleted yet. -/
def hasUndeletedFile (state : BatchState) : Bool :=
  (truthy state.inputFileId && !state.inputFileDeleted) || (truthy state.outputFileId && !state.outputFileDeleted) ||
    (truthy state.errorFileId && !state.errorFileDeleted)

/-- `CHECK(cleanup_status!='not_required' OR (... IS NULL))` -/
def cleanupConsistent (state : BatchState) : Bool :=
  state.cleanupStatus != .notRequired ||
    (state.inputFileId.isNone && state.outputFileId.isNone && state.errorFileId.isNone)

end BatchState

namespace Db

/-! ### Statements -/

/-- `UPDATE analysis_batches SET ... WHERE ...` -/
def setBatches (db : Db) (matching : Batch → Bool) (set : BatchState → BatchState) : Db :=
  { db with
    batches := db.batches.update matching (fun batch => { batch with state := set batch.state }) fun _ => rfl }

/-- `UPDATE analysis_batch_items SET status=? WHERE ...` -/
def setItems (db : Db) (matching : Item → Bool) (status : ItemStatus) : Db :=
  { db with items := db.items.update matching (fun item => { item with status }) (Item.id_status status) }

/-- `UPDATE analysis_batch_items SET batch_id=? WHERE ...` -/
def moveItems (db : Db) (matching : Item → Bool) (batchId : String) : Db :=
  { db with items := db.items.update matching (fun item => { item with batchId }) fun _ => rfl }

def setJobItems (db : Db) (matching : Jobs.Item → Bool) (set : Jobs.ItemState → Jobs.ItemState) : Db :=
  { db with jobs := db.jobs.setItems matching fun item => set item.state }

def setJobs (db : Db) (matching : Jobs.Job → Bool) (set : Jobs.JobState → Jobs.JobState) : Db :=
  { db with jobs := db.jobs.setJobs matching set }

def itemCount (db : Db) (batchId : String) (matching : ItemStatus → Bool) : Nat :=
  db.items.count fun item => item.batchId == batchId && matching item.status

/-- `UNIQUE` index `idx_analysis_batches_remote_id` -/
def remoteIdsDistinct (db : Db) : Bool :=
  (db.batches.rows.filterMap fun batch => batch.state.remoteBatchId).Nodup

/-- The constraints on `analysis_batches` that an update may break. -/
def constraintsHold (db : Db) : Bool :=
  db.remoteIdsDistinct && db.batches.rows.all fun batch => batch.state.cleanupConsistent

end Db

inductive BatchError where
  | unknownBatch (batchId : String)
  | emptyChild
  | foreignChildItem
  | integrity
  | submissionIdMissing
  | remoteStatusInvalid
  | remoteIdChanged
  | remoteIdTaken
  | remoteInputChanged
  | remoteFileChanged (key : String)
  | deletionUnconfirmed
  | notUploadUnknown
  | illegalJobStatus
  | remoteSideEffect
  | recoveryIdMissing
  | recoveryStatus
  | recoveryPhase
  | recoveryIdChanged
  | recoveryFileChanged (key : String)
  | notTerminal
  | activeItems
  | undeletedFile
  deriving DecidableEq

def BatchError.message : BatchError → String
  | .unknownBatch batchId => batchId
  | .emptyChild => "Batch child 不可沒有項目"
  | .foreignChildItem => "Batch child 含有不屬於父 Batch 的項目"
  | .integrity => "constraint failed"
  | .submissionIdMissing => "BATCH-SUBMISSION-UNKNOWN 遠端 Batch 缺少 id"
  | .remoteStatusInvalid => "BATCH-REMOTE-001 遠端 Batch 缺少有效 status"
  | .remoteIdChanged => "BATCH-REMOTE-IDENTITY-001 遠端 Batch ID 不可變更"
  | .remoteIdTaken => "BATCH-RECOVERY-006 遠端 Batch 已綁定其他本機 Batch"
  | .remoteInputChanged => "BATCH-REMOTE-IDENTITY-002 遠端 input_file_id 不可變更"
  | .remoteFileChanged key => s!"BATCH-REMOTE-IDENTITY-003 {key} 不可變更"
  | .deletionUnconfirmed => "必須提供遠端 File 已刪除的明確證據"
  | .notUploadUnknown => "目前 Batch 不在 upload_unknown"
  | .illegalJobStatus => "不合法的 local Batch Job terminal status"
  | .remoteSideEffect => "已有遠端 side effect，不可使用 local failure release"
  | .recoveryIdMissing => "BATCH-RECOVERY-004 遠端 Batch 缺少 id"
  | .recoveryStatus => "BATCH-RECOVERY-005 遠端 Batch 狀態不支援"
  | .recoveryPhase => "BATCH-RECOVERY-002 Batch 不在可 Recovery 的提交狀態"
  | .recoveryIdChanged => "BATCH-RECOVERY-003 Batch 已綁定其他遠端 ID"
  | .recoveryFileChanged key => s!"BATCH-RECOVERY-008 {key} 不可變更"
  | .notTerminal => "Batch finalization 必須使用 terminal status"
  | .activeItems => "terminal Batch 不可保留 active Batch Item"
  | .undeletedFile => "尚有未清理的 remote File"

/-- A repository call: the new tables and a result, or an exception after a rollback. -/
abbrev Outcome (α : Type) := Except BatchError (Db × α)

/-- The tables after a call; an exception leaves them as they were. -/
def Outcome.after {α : Type} (outcome : Outcome α) (db : Db) : Db :=
  match outcome with
  | .ok (db', _) => db'
  | .error _ => db

@[simp] lemma after_ok {α : Type} (db db' : Db) (result : α) : Outcome.after (.ok (db', result)) db = db' := rfl

@[simp] lemma after_error {α : Type} (db : Db) (error : BatchError) :
    Outcome.after (.error error : Outcome α) db = db := rfl

/-- A written row that breaks a constraint raises `IntegrityError`. -/
def commit {α : Type} (db : Db) (result : α) : Outcome α :=
  if db.constraintsHold then .ok (db, result) else .error .integrity

end InkTime.Batches
