import InkTime.Submission.Model
import InkTime.Library.Runs

/-!
# The calls step by step

`next` of a running call gives the effect of its next transaction or provider call and where it stands afterwards.
What the call does not find in the tables (the clock, settings, files, the provider) comes with the step as an
`Answer`.
-/

namespace InkTime.Submission

open Batches (Batch BatchState BatchStatus Item ItemStatus Remote CleanupStatus CleanupAction truthy)

structure Answer where
  now : Nat := 0
  leaseUntil : Nat := 0
  /-- The execution mode permits paid submissions. -/
  aiAllowed : Bool := true
  restoreReconciled : Bool := true
  /-- A photo of the batch may not be uploaded any more. -/
  photosBlocked : Bool := false
  inputMissing : Bool := false
  raised : Option Refusal := none
  /-- What the budget answers a new reservation. -/
  overBudget : Option Refusal := none
  /-- Whether a `create_batch` without a usable answer made a batch. -/
  made : Bool := false
  fileId : String := ""
  remote : Remote := {}
  phaseStale : Bool := false
  planValid : Bool := true
  /-- `plan["batch_endpoint"] == "/v1/responses"` -/
  responsesEndpoint : Bool := false
  /-- `uuid4` for a nested call. -/
  fresh : String := ""

/-! ### Paid evidence -/

/-- The five codes of an unresolved side effect. -/
def unresolvedCode (code : Option String) : Bool :=
  match code with
  | some text => ["BATCH-SUBMISSION-UNKNOWN", "BATCH-UPLOAD-UNKNOWN", "submission_unknown", "upload_unknown",
      "submission_persist_unknown"].contains text
  | none => false

def remoteClosed : Option Batches.RemoteMark → Bool
  | some (.remote status) => status.terminal
  | _ => false

/-- `held_batch_sql` -/
def held (state : BatchState) : Bool :=
  state.status.active ||
    (state.abandonConfirmedAt.isNone &&
      (unresolvedCode state.lastErrorCode || unresolvedCode state.reconciliationErrorCode ||
        state.remoteStatus == some .submissionUnknown || state.remoteStatus == some .uploadUnknown ||
        (state.remoteBatchId.isSome && !remoteClosed state.remoteStatus)))

/-- `COALESCE(remote_status,'') NOT IN ('failed','expired','cancelled','abandoned')` -/
def mayHaveCost : Option Batches.RemoteMark → Bool
  | some (.remote .failed) | some (.remote .expired) | some (.remote .cancelled) | some .abandoned => false
  | _ => true

/-- `paid_batch_item_sql` -/
def paidItem (item : Item) (state : BatchState) : Bool :=
  state.remoteBatchId.isSome ||
    (state.submittedAt.isSome && state.abandonConfirmedAt.isNone && mayHaveCost state.remoteStatus) ||
    item.rawResponseJson.isSome || item.requestId.isSome || item.status == .success || item.status == .imported

/-- A batch item that holds or has paid for its content. -/
def ownsContent (db : Batches.Db) (item : Item) : Bool :=
  (db.batches.find item.batchId).any fun batch => held batch.state || paidItem item batch.state

def OperationState.paid : OperationState → Bool
  | .started | .response | .completed => true
  | _ => false

/-- A single request was paid for content of the batch. -/
def paidSingle (w : World) (batchId : String) : Bool :=
  w.db.items.any fun item => item.batchId == batchId &&
    w.operations.any fun operation => operation.contentSha256 == item.contentSha256 && operation.state.paid

/-- Another batch holds or has paid for content of the batch. There are no retry authorizations. -/
def paidElsewhere (w : World) (batchId : String) : Bool :=
  w.db.items.any fun item => item.batchId == batchId &&
    w.db.items.any fun other => other.contentSha256 == item.contentSha256 && other.batchId != item.batchId &&
      ownsContent w.db other

/-- `{"cancelled", "paused", "pausing", "failed", "budget_exceeded"}` -/
def stopped : Jobs.JobStatus → Bool
  | .cancelled | .paused | .pausing | .failed | .budgetExceeded => true
  | _ => false

def parentJob (w : World) (batch : Batch) : Option Jobs.Job :=
  if truthy batch.jobId then w.db.jobs.jobs.find (batch.jobId.getD "") else none

/-- The job of the batch is gone or stopped. -/
def jobStopped (w : World) (batchId : String) : Bool :=
  match w.db.batches.find batchId with
  | none => false
  | some batch =>
    truthy batch.jobId &&
      match parentJob w batch with
      | none => true
      | some job => stopped job.state.status

/-- One statement of `_assert_submission_allowed`: the code it raises. -/
def assertSubmissionAllowed (w : World) (batchId : String) (answer : Answer) : Part → Option Code
  | .singles =>
    if !answer.aiAllowed then some .executionMode
    else if !answer.restoreReconciled then some .budget
    else if paidSingle w batchId then some .paidOperationHold
    else none
  | .batches => if paidElsewhere w batchId then some .paidOperationHold else none
  | .photos => if answer.photosBlocked || jobStopped w batchId then some .input else none

/-- A repository call: accepted, answered `False` or `None`, or raised. -/
def asks {ρ : Type} (w : World) (op : Batches.Op) (accepted refused : ρ) (raised : Code → ρ) : Effect × ρ :=
  (.repository op,
    match Batches.call w.db op with
    | .ok (_, true) => accepted
    | .ok (_, false) => refused
    | .error error => raised (Code.ofError error))

/-! ### _submit_one -/

namespace Submit

def goto (run : Submit) (point : Point) : Submit := { run with point }

def fail (run : Submit) (code : Code) : Submit := run.goto (.catching ⟨code, false⟩)

/-- Where the round of checks leads when nothing is raised. -/
def allowed : Round → Part → Point
  | round, .singles => .checking round .batches
  | round, .batches => .checking round .photos
  | .first, .photos => .reading
  | .upload, .photos => .uploading
  | .last, .photos => .creating

/-- `status='paused' ...` of the parent stops a batch of the responses endpoint. -/
def paused (run : Submit) (w : World) (batch : Batch) : Bool :=
  run.responsesEndpoint && (parentJob w batch).any fun job => stopped job.state.status

def hasUploadedFile (caught : Caught) : Bool := caught.current.any fun batch => truthy batch.state.inputFileId

/-- The local variable `upload_unknown`. -/
def uploadLost (caught : Caught) : Bool :=
  caught.failure.code == .uploadUnknown ||
    (caught.failure.uncertain && caught.current.any fun batch => batch.state.status == .uploading)

/-- The job of the row the handler has read. -/
def parentId (caught : Caught) : String := (caught.current.bind Batch.jobId).getD ""

/-- After the branches of the handler. -/
def settled (run : Submit) (caught : Caught) : Submit :=
  if caught.failure.code == .creditExhausted && caught.current.any fun batch => truthy batch.jobId then
    run.goto (.pausing caught)
  else run.goto (.finished (some caught.failure))

/-- The branch the handler takes once it has read the parent job. -/
def choose (run : Submit) (w : World) (caught : Caught) : Submit :=
  let failure := caught.failure
  let parent := caught.current.bind (parentJob w)
  -- `settings_json` is only ever written by `json.dumps`
  let automatic := parent.any fun job => (job.settings.getD {}).openaiBackfill
  if automatic && !failure.uncertain && !run.remoteCreated && failure.code.billing then
    run.goto (.holding caught (parentId caught))
  else if failure.code == .alreadyClaimed || (failure.code == .claimStale && !run.remoteCreated) then
    run.goto (.finished (some failure))
  else if run.remoteCreated && run.submissionAttempt then
    run.goto (.markingSubmission caught "submission_persist_unknown")
  else if failure.uncertain && uploadLost caught && run.uploadAttempt then run.goto (.markingUpload caught)
  else if failure.uncertain && run.submissionAttempt then run.goto (.markingSubmission caught "submission_unknown")
  else if hasUploadedFile caught then run.goto (.cleaning caught)
  else run.goto (.failingLocally caught)

/-- Items that a definite rejection leaves for a retry. -/
def retried (w : World) (batchId : String) : List Item :=
  w.db.items.rows.filter fun item => item.batchId == batchId && (item.status == .pending || item.status == .submitted)

def reply (failure : Failure) (answer : Answer) : Reply := if failure.uncertain then .lost answer.made else .rejected

def next (run : Submit) (w : World) (answer : Answer) : Effect × Submit :=
  match run.point with
  | .entering =>
    match w.db.batches.find run.batchId with
    | none => (.none, run.goto (.finished (some ⟨.submit, false⟩)))
    | some batch =>
      if run.paused w batch then (.none, run.goto (.finished (some ⟨.jobPaused, false⟩)))
      else if batch.state.status == .uploadUnknown || batch.state.status == .submissionUnknown then
        (.none, run.goto (.finished (some ⟨.unknownHold, false⟩)))
      else (.none, run.goto (.checking .first .singles))
  | .checking round part =>
    match assertSubmissionAllowed w run.batchId answer part with
    | some code => (.none, run.fail code)
    | none => (.none, run.goto (allowed round part))
  | .reading =>
    match w.db.batches.find run.batchId with
    | none => (.none, run.fail .submit)
    | some batch =>
      if truthy batch.state.inputFileId then (.none, run.goto .rereading)
      else (.none, { run with uploadAttempt := true, point := .claimingUpload })
  | .claimingUpload =>
    asks w (.claimUpload answer.now run.batchId run.owner run.id answer.leaseUntil)
      { run with uploadWon := true, point := .preparingUpload } (run.fail .alreadyClaimed) run.fail
  | .preparingUpload =>
    if (w.db.batches.find run.batchId).isNone then (.none, run.fail .submit)
    else if answer.inputMissing then (.none, run.fail .input)
    else match answer.raised with
      | some refusal => (.none, run.goto (.catching refusal.failure))
      | none => (.none, run.goto (.checking .upload .singles))
  | .uploading =>
    match answer.raised with
    | some refusal => (.none, run.goto (.catching refusal.failure))
    | none =>
      if answer.fileId == "" then (.none, run.fail .uploadUnknown) else (.none, run.goto (.savingUpload answer.fileId))
  | .savingUpload fileId =>
    asks w (.completeUpload answer.now run.batchId run.id run.owner fileId)
      (run.goto .rereading) (run.fail .claimStale) run.fail
  | .rereading =>
    if (w.db.batches.find run.batchId).any fun batch => truthy batch.state.inputFileId then
      (.none, { run with submissionAttempt := true, point := .claimingSubmission })
    else (.none, run.fail .uploadUnknown)
  | .claimingSubmission =>
    asks w (.claimSubmission answer.now run.batchId run.owner run.id answer.leaseUntil)
      { run with won := true, point := .reserving } (run.fail .alreadyClaimed) run.fail
  | .reserving =>
    match answer.raised with
    | some refusal => (.none, run.goto (.catching refusal.failure))
    | none =>
      if !answer.restoreReconciled then (.none, run.fail .budget)
      else match answer.overBudget, w.reservationActive run.batchId with
        -- an active reservation returns before the budget is looked at
        | some refusal, false => (.none, run.goto (.catching refusal.failure))
        | _, _ => (.reserve run.batchId, { run with reserved := true, point := .checking .last .singles })
  | .creating =>
    match answer.raised with
    | some refusal =>
      (.called ⟨run.batchId, run.id, reply refusal.failure answer⟩, run.goto (.catching refusal.failure))
    | none =>
      if truthy answer.remote.id then
        (.called ⟨run.batchId, run.id, .created (answer.remote.id.getD "")⟩,
          { run with remoteCreated := true, point := .saving answer.remote })
      else
        (.called ⟨run.batchId, run.id, .lost answer.made⟩,
          { run with remoteCreated := true, point := .catching ⟨.submissionUnknown, false⟩ })
  | .saving remote =>
    asks w (.completeSubmission answer.now run.batchId run.id run.owner remote)
      (run.goto (.finished none)) (run.fail .claimStale) run.fail
  | .catching failure =>
    let caught : Caught := ⟨failure, w.db.batches.find run.batchId⟩
    if !failure.uncertain && !run.remoteCreated then (.none, run.goto (.releasing caught))
    else (.none, run.goto (.choosing caught))
  | .releasing caught => (.release run.batchId, run.goto (.choosing caught))
  | .choosing caught => (.none, run.choose w caught)
  | .holding caught jobId =>
    (.write run.batchId (.heldForCredit answer.now caught.failure.code.text), run.goto (.holdReleasing caught jobId))
  | .holdReleasing caught jobId =>
    (.repository (.releaseSideEffectClaim run.batchId run.owner), run.goto (.holdPausing caught jobId))
  | .holdPausing caught jobId => (.pause jobId, run.goto (.holdMarking caught jobId))
  | .holdMarking caught jobId => (.hold jobId caught.failure.code.text, run.goto (.finished (some caught.failure)))
  | .markingUpload caught =>
    (.repository (.markUploadUnknown answer.now run.batchId run.id run.owner "upload_unknown"), run.settled caught)
  | .markingSubmission caught errorCode =>
    (.repository (.markSubmissionUnknown answer.now run.batchId run.id run.owner errorCode), run.settled caught)
  | .cleaning caught => (.write run.batchId (.rejected answer.now caught.failure.code.text), run.goto (.listing caught))
  | .listing caught => (.none, run.goto (.retrying caught (retried w run.batchId)))
  | .retrying caught [] => (.repository (.releaseSideEffectClaim run.batchId run.owner), run.settled caught)
  | .retrying caught (item :: rest) =>
    (.setItem item.id .retryPending,
      if truthy item.jobItemId then run.goto (.failingJobItem caught (item.jobItemId.getD "") rest)
      else run.goto (.retrying caught rest))
  | .failingJobItem caught jobItemId rest =>
    (.failJobItem (parentId caught) jobItemId, run.goto (.retrying caught rest))
  | .failingLocally caught =>
    asks w (.failLocalBatch run.batchId caught.failure.code.text .failed false)
      (run.settled caught) (run.settled caught) (fun code => run.goto (.finished (some ⟨code, false⟩)))
  | .pausing caught => (.pause (parentId caught), run.goto (.creditMarking caught))
  | .creditMarking caught => (.hold (parentId caught) Code.creditExhausted.text, run.goto (.finished (some caught.failure)))
  | .finished _ => (.none, run)

end Submit

/-! ### poll_due -/

namespace Poll

def goto (run : Poll) (point : PollPoint) : Poll := { run with point }

/-- A mark written only after a definite billing rejection. -/
def creditMarked (batch : Batch) : Bool :=
  (batch.state.lastErrorCode.any fun code => code == Code.creditExhausted.text || code.startsWith "BUDGET-OPENAI-") &&
    truthy batch.jobId

/-- The branch for the status it has read. -/
def dispatch (run : Poll) (w : World) (answer : Answer) (batch : Batch) : Poll :=
  let state := batch.state
  match state.status with
  | .preparing =>
    if creditMarked batch then
      if (parentJob w batch).any fun job => job.state.status.claimable then
        if answer.planValid then run.goto (.resuming (truthy state.inputFileId)) else run.goto (.noting "BATCH-POLL-PLAN-001")
      else run.goto .closing
    else if answer.phaseStale then
      if state.hasSideEffect then run.goto (.planReading "BATCH-RECOVERY-PREPARING-CLEANUP")
      else run.goto (.failingLocally "BATCH-RECOVERY-PREPARING")
    else run.goto .closing
  | .uploading =>
    if answer.phaseStale then if truthy state.inputFileId then run.goto .uploadFinding else run.goto .uploadHolding
    else run.goto .closing
  | .uploaded => run.goto (.releasing answer.planValid)
  | .submitting =>
    if answer.phaseStale then
      if truthy state.remoteBatchId then run.goto .submissionFinding else run.goto (.submissionHolding state.cleanupStatus)
    else run.goto .closing
  | .cleanupPending | .importPending | .importing => run.goto .closing
  | status =>
    if status == .validating && !truthy state.remoteBatchId then run.goto (.submissionHolding state.cleanupStatus)
    else if !truthy state.remoteBatchId then run.goto .closing
    else if answer.planValid then run.goto (.retrieving (state.remoteBatchId.getD ""))
    else run.goto (.planReading "BATCH-POLL-PLAN-001")

/-- `_handle_frozen_plan_failure` -/
def handleFrozenPlanFailure (run : Poll) (batch : Batch) (code : String) : Poll :=
  let state := batch.state
  if !state.hasSideEffect then
    if state.status.terminal then run.goto (.planWriting (.cleanup .notRequired none)) else run.goto (.failingLocally code)
  else if state.status.terminal then
    run.goto (.planWriting (.cleanup
      (if state.hasUndeletedFile then .pending else if state.hasFiles then .completed else .notRequired) none))
  else run.goto (.planWriting (.planFailed code))

/-- After the nested `_submit_one`. -/
def returned (run : Poll) (resumed : Bool) : Option Failure → Poll
  | none => run.goto .closing
  | some failure =>
    if resumed then run.goto (.noting failure.code.text)
    else match failure.code with
      | .alreadyClaimed | .claimStale => run.goto .closing
      | .value => run.goto (.planReading "BATCH-POLL-PLAN-001")
      | .submit => run.goto (.writingError "BATCH-RECOVERY-UPLOAD-001")
      | code => run.goto (.writingError code.text)

/-- An unconditional write; where it raises, the code is noted. -/
def writes (run : Poll) (w : World) (change : Change) (then_ : PollPoint) : Effect × Poll :=
  (.write run.batchId change,
    match updateBatch w.db run.batchId change with
    | .ok _ => run.goto then_
    | .error _ => run.goto (.noting "BATCH-POLL-001"))

def next (run : Poll) (w : World) (answer : Answer) : Effect × Poll :=
  match run.point with
  | .listing =>
    match w.db.batches.find run.batchId with
    | none => (.none, run.goto .finished)
    | some batch =>
      if batch.state.status.pollable && batch.state.leaseFree answer.now then
        (.none, run.goto (.claiming batch.state.sideEffectVersion))
      else (.none, run.goto .finished)
  | .claiming version =>
    asks w (.claimPoll answer.now run.batchId run.owner answer.leaseUntil version)
      (run.goto .reading) (run.goto .finished) (fun _ => run.goto .finished)
  | .reading =>
    match w.db.batches.find run.batchId with
    | none => (.none, run.goto .closing)
    | some batch => (.none, run.dispatch w answer batch)
  | .resuming reopen =>
    (.repository (.releaseSideEffectClaim run.batchId run.owner),
      if reopen then run.goto .reopening else run.goto (.submitting true))
  | .reopening => run.writes w .resumed (.submitting true)
  | .releasing planValid =>
    (.repository (.releaseSideEffectClaim run.batchId run.owner),
      if planValid then run.goto (.submitting false) else run.goto (.planReading "BATCH-POLL-PLAN-001"))
  | .submitting resumed =>
    if (w.submits.find answer.fresh).isNone then
      (.start { id := answer.fresh, batchId := run.batchId, responsesEndpoint := answer.responsesEndpoint },
        run.goto (.awaiting answer.fresh resumed))
    else (.none, run)
  | .awaiting submitId resumed =>
    match (w.submits.find submitId).map Submit.point with
    | some (.finished result) => (.none, run.returned resumed result)
    | _ => (.none, run)
  | .failingLocally code =>
    asks w (.failLocalBatch run.batchId code .failed false)
      (run.goto .closing) (run.goto .closing) (fun _ => run.goto (.noting "BATCH-POLL-001"))
  | .planReading code =>
    match w.db.batches.find run.batchId with
    | none => (.none, run.goto .closing)
    | some batch => (.none, run.handleFrozenPlanFailure batch code)
  | .planWriting change => run.writes w change .closing
  | .uploadFinding => run.writes w (.uploadFound answer.now) .closing
  | .uploadHolding => run.writes w (.uploadHeld answer.now) (.holdListing .uploadUnknown)
  | .submissionFinding => run.writes w (.submissionFound answer.now) .closing
  | .submissionHolding cleanupStatus =>
    run.writes w (.submissionHeld answer.now cleanupStatus) (.holdListing .submissionUnknown)
  | .holdListing status => (.none, run.goto (.holdingItems status (Submit.retried w run.batchId)))
  | .holdingItems _ [] => (.none, run.goto .closing)
  | .holdingItems status (item :: rest) => (.setItem item.id status, run.goto (.holdingItems status rest))
  | .retrieving remoteId =>
    match answer.raised with
    | some refusal => (.none, run.goto (.noting refusal.failure.code.text))
    -- the provider's batch object has the asked id, and no key `remote_batch_id`
    | none => (.none, run.goto (.versioning { answer.remote with id := some remoteId, remoteBatchId := none }))
  | .versioning remote =>
    (.none, run.goto (.reporting remote ((w.db.batches.find run.batchId).map fun batch => (batch.state.sideEffectVersion : Int))))
  | .reporting remote version =>
    asks w (.setStatusFromRemote run.batchId remote version (some run.owner))
      (run.goto .closing) (run.goto .closing) (fun _ => run.goto (.noting "BATCH-POLL-001"))
  | .noting code =>
    if (w.db.batches.find run.batchId).any fun batch => batch.state.sideEffectOwner == some run.owner then
      (.none, run.goto (.writingError code))
    else (.none, run.goto .closing)
  | .writingError code => (.write run.batchId (.error code), run.goto .closing)
  | .closing => (.repository (.releaseSideEffectClaim run.batchId run.owner), run.goto .finished)
  | .finished => (.none, run)

end Poll

/-! ### cancel -/

namespace Cancel

def goto (run : Cancel) (point : CancelPoint) : Cancel := { run with point }

/-- `_cleanup_action_for` -/
def cleanupActionFor (state : BatchState) : CleanupAction :=
  if state.cleanupFinalAction != .none then state.cleanupFinalAction
  else if state.status == .cancelled || state.status == .cancelling || state.remoteStatus == some (.remote .cancelled) then .cancel
  else if state.remoteStatus == some .abandoned then .abandon
  else .complete

/-- The branch for the row it has read. -/
def dispatch (run : Cancel) (answer : Answer) (state : BatchState) : Cancel :=
  if state.status.terminal then
    if state.hasUndeletedFile then
      run.goto (.cleaning .pending (some (if state.status == .cancelled then .cancel else cleanupActionFor state)))
    else if state.hasFiles && state.cleanupStatus != .completed then run.goto (.cleaning .completed none)
    else if !state.hasFiles && state.cleanupStatus != .notRequired then run.goto (.cleaning .notRequired none)
    else run.goto .finished
  else if !answer.planValid then run.goto .finished
  else if !truthy state.remoteBatchId then
    if state.status == .uploadUnknown || state.status == .submissionUnknown || state.status == .submitting ||
        state.status == .uploading then run.goto .finished
    else if state.hasFiles then run.goto .writing
    else run.goto .finalizing
  else if answer.raised.isSome then run.goto .finished
  else run.goto (.claiming (state.remoteBatchId.getD ""))

def next (run : Cancel) (w : World) (answer : Answer) : Effect × Cancel :=
  match run.point with
  | .entering =>
    match w.db.batches.find run.batchId with
    | none => (.none, run.goto .finished)
    | some batch => (.none, run.dispatch answer batch.state)
  | .cleaning status action => (.write run.batchId (.cleanup status action), run.goto .finished)
  | .writing => (.write run.batchId .cancelledLocally, run.goto .finished)
  | .finalizing =>
    (.repository (.finalizeBatchResult run.batchId .cancelled (some .cancel) (some .notRequired) (some "cancelled")),
      run.goto .finished)
  | .claiming remoteId =>
    asks w (.claimCancel answer.now run.batchId run.owner answer.leaseUntil)
      (run.goto (.choosing remoteId)) (run.goto .releasing) (fun _ => run.goto .releasing)
  | .choosing remoteId => (.write run.batchId (.finalAction .cancel), run.goto (.cancelling remoteId))
  | .cancelling remoteId =>
    if answer.raised.isSome then (.none, run.goto .releasing)
    else (.none, run.goto (.versioning { answer.remote with id := some remoteId, remoteBatchId := none }))
  | .versioning remote =>
    (.none, run.goto (.reporting remote ((w.db.batches.find run.batchId).map fun batch => (batch.state.sideEffectVersion : Int))))
  | .reporting remote version =>
    (.repository (.setStatusFromRemote run.batchId remote version (some run.owner)), run.goto .releasing)
  | .releasing => (.repository (.releaseSideEffectClaim run.batchId run.owner), run.goto .finished)
  | .finished => (.none, run)

end Cancel

/-! ### abandon -/

namespace Abandon

def goto (run : Abandon) (point : AbandonPoint) : Abandon := { run with point }

/-- Statuses in which a batch may be abandoned. -/
def allowed : BatchStatus → Bool
  | .uploadUnknown | .submissionUnknown | .submitting | .uploading | .uploaded | .validating => true
  | _ => false

def dispatch (run : Abandon) (state : BatchState) : Abandon :=
  if truthy state.remoteBatchId || !allowed state.status then run.goto .finished
  else if state.status == .uploadUnknown then
    if run.fileNamed then run.goto .deletingFile
    else if run.fileDeleted then run.goto .abandoningUpload
    else run.goto .finished
  else if state.hasFiles then run.goto .writing
  else run.goto .finalizing

def next (run : Abandon) (w : World) (answer : Answer) : Effect × Abandon :=
  match run.point with
  | .entering =>
    if !run.confirmedNoRemote then (.none, run.goto .finished)
    else match w.db.batches.find run.batchId with
      | none => (.none, run.goto .finished)
      | some batch => (.none, run.dispatch batch.state)
  | .deletingFile =>
    if answer.raised.isSome then (.none, run.goto .finished) else (.none, run.goto .abandoningUpload)
  | .abandoningUpload => (.repository (.abandonUnknownUpload answer.now run.batchId true), run.goto .finished)
  | .writing => (.write run.batchId (.abandoned answer.now), run.goto .finished)
  | .finalizing =>
    (.repository (.finalizeBatchResult run.batchId .failed (some .abandon) (some .notRequired) (some "abandoned")),
      run.goto .finished)
  | .finished => (.none, run)

end Abandon

end InkTime.Submission
