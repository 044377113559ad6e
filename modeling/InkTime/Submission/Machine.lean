import InkTime.Submission.Program

/-!
# Interleavings

The running calls, the single requests of `BillableOperationRepository` and the settlement of costs as one machine:
an act starts a call, lets one take its next step, or is one transaction of its own. A run of the machine is any
interleaving of them.
-/

namespace InkTime.Submission

open Batches (Batch Item ItemStatus NewItem truthy)

/-! ### Single requests -/

inductive BeginError where
  | idempotencyConflict | unreconciled | alreadyProcessed | reservationConflict
  deriving DecidableEq

/-- The content is that of a photo which a queued batch job owns. -/
def queuedForBatch (jobs : Jobs.Db) (contentSha256 : String) : Bool :=
  jobs.items.any fun item => item.state.status.unsettled &&
    ((item.photoId.bind jobs.photos.find).any fun photo => photo.sha256 == some contentSha256) &&
    (jobs.jobs.find item.jobId).any fun job => job.kind == .analysisBatch && job.state.status.ownsQueue

/-- `assert_no_batch_content_owner` raises. -/
def batchOwnsContent (db : Batches.Db) (contentSha256 : String) : Bool :=
  (db.items.any fun item => item.contentSha256 == contentSha256 && ownsContent db item) || queuedForBatch db.jobs contentSha256

/-- `BillableOperationRepository.begin`: the table, the id, and whether a stored response is returned.
`processed` says that the content already has its result. -/
def begin (db : Batches.Db) (operations : Table Operation.id) (operationId contentSha256 requestFingerprint : String)
    (requestSignature : Option String) (reuseCompleted processed : Bool) :
    Except BeginError (Table Operation.id × String × Bool) :=
  let same := fun operation : Operation => operation.requestFingerprint == requestFingerprint
  let conflict := (operations.rows.reverse.find? same).any fun prior =>
    prior.contentSha256 != contentSha256 || (truthy requestSignature && prior.requestSignature != requestSignature)
  if conflict then .error .idempotencyConflict
  else if operations.any fun operation => operation.contentSha256 == contentSha256 && operation.state == .started then
    .error .unreconciled
  else match operations.rows.reverse.find? fun operation => same operation &&
      (operation.state == .response || (reuseCompleted && operation.state == .completed)) with
    | some saved => .ok (operations, saved.id, true)
    | none =>
      if processed then .error .alreadyProcessed
      else if batchOwnsContent db contentSha256 then .error .reservationConflict
      else .ok (operations.add { id := operationId, contentSha256, requestFingerprint, requestSignature }, operationId, false)

def setOperations (operations : Table Operation.id) (matching : Operation → Bool) (state : OperationState) :
    Table Operation.id :=
  operations.update matching (fun operation => { operation with state }) fun _ => rfl

def saveResponse (operations : Table Operation.id) (operationId : String) : Table Operation.id :=
  setOperations operations (fun operation => operation.id == operationId) .response

def finish (operations : Table Operation.id) (operationId : String) (notSent : Bool) : Table Operation.id :=
  setOperations operations (fun operation => operation.id == operationId) (if notSent then .notSent else .completed)

def finishRejected (operations : Table Operation.id) (operationId : String) : Table Operation.id :=
  setOperations operations (fun operation => operation.id == operationId && operation.state == .started) .notSent

/-! ### Settlement of costs -/

/-- `cost_source in {"estimated", "provider_reported"} and cost is not None` -/
def knownCost (usage : Ledger.Usage) : Bool :=
  usage.costSource != .unknown && (usage.actualCost <|> usage.estimatedCost).isSome

def usageOf (w : World) (item : Item) : List Ledger.Usage := w.usage.filter fun usage => usage.batchItemId == some item.id

/-- Every item has receipts, and each of them has a known cost. -/
def costComplete (w : World) (batchId : String) : Bool :=
  w.db.items.any (fun item => item.batchId == batchId) &&
    !w.db.items.any fun item => item.batchId == batchId && ((usageOf w item).isEmpty || !(usageOf w item).all knownCost)

/-- `('pending','submitted','upload_unknown','submission_unknown','missing','retry_pending')` -/
def unresolvedItem : ItemStatus → Bool
  | .pending | .submitted | .uploadUnknown | .submissionUnknown | .missing | .retryPending => true
  | _ => false

/-- What `settle_terminal_costs` asks of a batch before it releases. -/
def settles (w : World) (batch : Batch) : Bool :=
  batch.state.status.terminal && batch.state.remoteStatus != some .uploadUnknown &&
    batch.state.remoteStatus != some .submissionUnknown && costComplete w batch.id &&
    w.db.items.count (fun item => item.batchId == batch.id) == batch.state.totalItems &&
    !w.db.items.any (fun item => item.batchId == batch.id && unresolvedItem item.status) &&
    !truthy batch.state.reconciliationErrorCode

/-- `settle_terminal_costs` over the batches that its arguments select. -/
def settleTerminalCosts (w : World) (selected : List String) : Table Reservation.id :=
  release w.reservations fun reservation => w.db.batches.any fun batch =>
    selected.contains batch.id && reservation.id == reservationId batch.id && settles w batch

/-! ### The machine -/

inductive Act where
  | create (batchId : String) (jobId : Option String) (items : List NewItem)
  /-- Other services write the job tables. -/
  | jobs (jobs : Jobs.Db)
  /-- Receipts come and go. -/
  | usage (usage : List Ledger.Usage)
  | settle (selected : List String)
  | begin (operationId contentSha256 requestFingerprint : String) (requestSignature : Option String)
      (reuseCompleted processed : Bool)
  | send (operationId : String)
  | saveResponse (operationId : String)
  | finish (operationId : String) (notSent : Bool)
  | finishRejected (operationId : String)
  | submit (id batchId : String) (responsesEndpoint : Bool)
  | poll (id batchId : String)
  | cancel (id batchId : String)
  | abandon (id batchId : String) (confirmedNoRemote fileNamed fileDeleted : Bool)
  | submitStep (id : String) (answer : Answer)
  | pollStep (id : String) (answer : Answer)
  | cancelStep (id : String) (answer : Answer)
  | abandonStep (id : String) (answer : Answer)

namespace World

def putSubmit (w : World) (run : Submit) : World := { w with submits := w.submits.put run }

def putPoll (w : World) (run : Poll) : World := { w with polls := w.polls.put run }

def putCancel (w : World) (run : Cancel) : World := { w with cancels := w.cancels.put run }

def putAbandon (w : World) (run : Abandon) : World := { w with abandons := w.abandons.put run }

end World

def step (w : World) : Act → World
  | .create batchId jobId items => w.apply (.repository (.createWithItems batchId jobId .preparing items))
  | .jobs jobs => { w with db := { w.db with jobs } }
  | .usage usage => { w with usage }
  | .settle selected => { w with reservations := settleTerminalCosts w selected }
  | .begin operationId contentSha256 requestFingerprint requestSignature reuseCompleted processed =>
    match begin w.db w.operations operationId contentSha256 requestFingerprint requestSignature reuseCompleted processed with
    | .ok (operations, _) => { w with operations }
    | .error _ => w
  | .send operationId => { w with sent := operationId :: w.sent }
  | .saveResponse operationId => { w with operations := saveResponse w.operations operationId }
  | .finish operationId notSent => { w with operations := finish w.operations operationId notSent }
  | .finishRejected operationId => { w with operations := finishRejected w.operations operationId }
  | .submit id batchId responsesEndpoint => w.apply (.start { id, batchId, responsesEndpoint })
  | .poll id batchId => { w with polls := w.polls.add { id, batchId } }
  | .cancel id batchId => { w with cancels := w.cancels.add { id, batchId } }
  | .abandon id batchId confirmedNoRemote fileNamed fileDeleted =>
    { w with abandons := w.abandons.add { id, batchId, confirmedNoRemote, fileNamed, fileDeleted } }
  | .submitStep id answer =>
    match w.submits.find id with
    | none => w
    | some run => (w.apply (run.next w answer).1).putSubmit (run.next w answer).2
  | .pollStep id answer =>
    match w.polls.find id with
    | none => w
    | some run => (w.apply (run.next w answer).1).putPoll (run.next w answer).2
  | .cancelStep id answer =>
    match w.cancels.find id with
    | none => w
    | some run => (w.apply (run.next w answer).1).putCancel (run.next w answer).2
  | .abandonStep id answer =>
    match w.abandons.find id with
    | none => w
    | some run => (w.apply (run.next w answer).1).putAbandon (run.next w answer).2

def run (w : World) (acts : List Act) : World := Runs.run step w acts

/-- No batch, no operation and no running call; the jobs may be any. -/
def World.start (jobs : Jobs.Db) : World where
  db := ⟨.empty, .empty, jobs⟩
  reservations := .empty
  operations := .empty
  sent := []
  usage := []
  calls := []
  submits := .empty
  polls := .empty
  cancels := .empty
  abandons := .empty

end InkTime.Submission
