import InkTime.Batches.Operations
import InkTime.Library.Runs

/-!
# Sequences of repository calls

The calls of the batch repository as one machine, in any order and with any arguments. A call is refused when
it raises or answers `False`, `None` or `ignored_stale`.
-/

namespace InkTime.Batches

open Checked

inductive Op where
  | createWithItems (batchId : String) (jobId : Option String) (status : BatchStatus) (items : List NewItem)
  | createChildBatch (parentId childId : String) (itemIds : List String) (totalItems : Int)
  | claimPoll (now : Nat) (batchId owner : String) (leaseUntil : Nat) (expectedVersion : Int)
  | claimUpload (now : Nat) (batchId owner attemptId : String) (leaseUntil : Nat)
  | claimSubmission (now : Nat) (batchId owner attemptId : String) (leaseUntil : Nat)
  | claimCancel (now : Nat) (batchId owner : String) (leaseUntil : Nat)
  | claimCleanupFile (now : Nat) (batchId : String) (kind : FileKind) (owner : String) (leaseUntil : Nat)
  | completeUpload (now : Nat) (batchId attemptId owner inputFileId : String)
  | completeSubmission (now : Nat) (batchId attemptId owner : String) (remote : Remote)
  | completeCleanupFile (batchId : String) (kind : FileKind) (owner : String)
  | markUploadUnknown (now : Nat) (batchId attemptId owner errorCode : String)
  | markSubmissionUnknown (now : Nat) (batchId attemptId owner errorCode : String)
  | releaseSideEffectClaim (batchId owner : String)
  | recoverUploadedFile (now : Nat) (batchId inputFileId : String)
  | abandonUnknownUpload (now : Nat) (batchId : String) (confirmedDeleted : Bool)
  | failLocalBatch (batchId errorCode : String) (jobStatus : Jobs.JobStatus) (includeJobSiblings : Bool)
  | setStatusFromRemote (batchId : String) (remote : Remote) (expectedVersion : Option Int) (owner : Option String)
  | bindRecoveredRemote (now : Nat) (batchId : String) (remote : Remote) (itemStatus : ItemStatus)
  | finalizeBatchResult (batchId : String) (status : BatchStatus) (finalAction : Option CleanupAction)
      (cleanupStatus : Option CleanupStatus) (errorCode : Option String)
  | finalizeCleanup (batchId : String)

/-- Keeps of an answer whether it is a refusal. -/
def answered {α : Type} (accepted : α → Bool) (outcome : Outcome α) : Outcome Bool :=
  match outcome with
  | .ok (db, result) => .ok (db, accepted result)
  | .error error => .error error

def call (db : Db) : Op → Outcome Bool
  | .createWithItems batchId jobId status items => answered (fun _ => true) (createWithItems db batchId jobId status items)
  | .createChildBatch parentId childId itemIds totalItems =>
    answered (fun _ => true) (createChildBatch db parentId childId itemIds totalItems)
  | .claimPoll now batchId owner leaseUntil expectedVersion => .ok (claimPoll db now batchId owner leaseUntil expectedVersion)
  | .claimUpload now batchId owner attemptId leaseUntil => .ok (claimUpload db now batchId owner attemptId leaseUntil)
  | .claimSubmission now batchId owner attemptId leaseUntil => .ok (claimSubmission db now batchId owner attemptId leaseUntil)
  | .claimCancel now batchId owner leaseUntil => .ok (claimCancel db now batchId owner leaseUntil)
  | .claimCleanupFile now batchId kind owner leaseUntil =>
    answered Option.isSome (.ok (claimCleanupFile db now batchId kind owner leaseUntil))
  | .completeUpload now batchId attemptId owner inputFileId => completeUpload db now batchId attemptId owner inputFileId
  | .completeSubmission now batchId attemptId owner remote =>
    answered Option.isSome (completeSubmission db now batchId attemptId owner remote)
  | .completeCleanupFile batchId kind owner => .ok (completeCleanupFile db batchId kind owner)
  | .markUploadUnknown now batchId attemptId owner errorCode => .ok (markUploadUnknown db now batchId attemptId owner errorCode)
  | .markSubmissionUnknown now batchId attemptId owner errorCode =>
    .ok (markSubmissionUnknown db now batchId attemptId owner errorCode)
  | .releaseSideEffectClaim batchId owner => .ok (releaseSideEffectClaim db batchId owner)
  | .recoverUploadedFile now batchId inputFileId => .ok (recoverUploadedFile db now batchId inputFileId)
  | .abandonUnknownUpload now batchId confirmedDeleted => abandonUnknownUpload db now batchId confirmedDeleted
  | .failLocalBatch batchId errorCode jobStatus includeJobSiblings =>
    failLocalBatch db batchId errorCode jobStatus includeJobSiblings
  | .setStatusFromRemote batchId remote expectedVersion owner =>
    answered (· != .ignoredStale) (setStatusFromRemote db batchId remote expectedVersion owner)
  | .bindRecoveredRemote now batchId remote itemStatus =>
    answered (fun _ => true) (bindRecoveredRemote db now batchId remote itemStatus)
  | .finalizeBatchResult batchId status finalAction cleanupStatus errorCode =>
    answered (fun _ => true) (finalizeBatchResult db batchId status finalAction cleanupStatus errorCode)
  | .finalizeCleanup batchId => answered (fun _ => true) (finalizeCleanup db batchId)

def step (db : Db) (op : Op) : Db := (call db op).after db

def run (db : Db) (ops : List Op) : Db := Runs.run step db ops

/-- The call raised, or answered `False`, `None` or `ignored_stale`. -/
def refused (db : Db) (op : Op) : Bool :=
  match call db op with
  | .ok (_, accepted) => !accepted
  | .error _ => true

end InkTime.Batches
