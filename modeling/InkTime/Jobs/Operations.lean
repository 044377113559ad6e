import InkTime.Jobs.Model

/-!
# JobRepository

The calls of `JobRepository` on the job tables. Each runs as one transaction, so a call is a function
of the tables. What a call reads from outside (the clock, fresh ids, other tables, the caller's hooks)
comes in as an argument.
-/

namespace InkTime.Jobs

/-! ### Ownership of photos -/

/-- The photo `q` is `p` itself or has the same non-empty content hash. -/
def sameContent (p q : Photo) : Bool :=
  q.id == p.id || (p.sha256.getD "" != "" && q.sha256 == p.sha256)

/-- An item that keeps its photo reserved. -/
def Db.reserves (db : Db) (item : Item) : Bool :=
  item.state.status.unsettled &&
    db.jobs.any fun job => job.id == item.jobId && job.kind.analyses &&
      (item.state.status == .running || job.state.status.ownsQueue)

/-- `reserved_analysis_sql`; `batchHolds` is its second half, over the Batch tables. -/
def reservedAnalysis (db : Db) (batchHolds : Photo → Bool) (p : Photo) : Bool :=
  (db.items.any fun item =>
    match item.photoId with
    | none => false
    | some photoId => (db.photos.any fun q => q.id == photoId && sameContent p q) && db.reserves item) ||
  batchHolds p

/-! ### Creation -/

/-- Arguments of `create`, with the ids and the clock reading it draws. -/
structure CreateRequest where
  jobId : String
  kind : JobKind := .analysis
  settings : Option JobSettings := some {}
  photoIds : List String
  /-- Id drawn for the row of the `n`-th photo. -/
  drawnId : Nat → String
  priority : Int := 3
  dedupeKey : Option String := none
  requestFingerprint : Option String := none
  now : Nat := 0
  batchHolds : Photo → Bool := fun _ => false
  hookFails : Bool := false

def isSet (text : Option String) : Bool := text.getD "" != ""

/-- A request that meets a job with its key gets that job, unless it is a different request. -/
def reuseJob (db : Db) (existing : Job) (requestFingerprint : Option String) : Outcome String :=
  let stored := existing.state.requestFingerprint
  if isSet stored && isSet requestFingerprint && stored != requestFingerprint then .error .idempotencyConflict
  else if isSet requestFingerprint && !isSet stored then
    .ok (db.setJobs (fun job => job.id == existing.id && job.state.requestFingerprint.isNone)
      (fun state => { state with requestFingerprint }), existing.id)
  else .ok (db, existing.id)

/-- `ORDER BY created_at DESC,id DESC LIMIT 1` -/
def newestJob (jobs : List Job) : Option Job :=
  jobs.foldl (fun best job =>
    match best with
    | none => some job
    | some current =>
      if current.createdAt < job.createdAt ∨ (current.createdAt = job.createdAt ∧ current.id < job.id) then some job
      else best) none

/-- `INSERT OR IGNORE`: duplicates are skipped, an unknown photo is an error. -/
def insertItems (db : Db) (jobId : String) (now : Nat) : List (String × String) → Except JobError Db
  | [] => .ok db
  | (itemId, photoId) :: rest =>
    if (db.photos.find photoId).isNone then .error .integrity
    else if db.items.any fun item => item.jobId == jobId && item.photoId == some photoId then
      insertItems db jobId now rest
    else
      match db.items.insert { id := itemId, jobId, photoId := some photoId, state := { availableAt := now } } with
      | none => insertItems db jobId now rest
      | some items => insertItems { db with items } jobId now rest

def clampPriority (priority : Int) : Int := max 1 (min priority 6)

def insertJob (db : Db) (job : Job) : Except JobError Db :=
  match db.jobs.insert job with
  | none => .error .integrity
  | some jobs => if ({ db with jobs } : Db).dedupeKeysDistinct then .ok { db with jobs } else .error .integrity

def reservationMessage : String := "照片已有尚未結束的即時或 Batch 分析，請等待完成後再建立工作"

def retryConflictMessage : String := "照片已有尚未結束的即時或 Batch 分析，請等待完成後再重試"

def newJob (request : CreateRequest) : Job where
  id := request.jobId
  kind := request.kind
  settings := request.settings
  priority := clampPriority request.priority
  dedupeKey := request.dedupeKey
  createdAt := request.now
  state := { requestFingerprint := request.requestFingerprint }

def newRows (request : CreateRequest) : List (String × String) :=
  request.photoIds.zipIdx.map fun (photoId, n) => (request.drawnId n, photoId)

def create (db : Db) (request : CreateRequest) : Outcome String :=
  let existing := if isSet request.dedupeKey then
    newestJob (db.jobs.rows.filter fun job => job.dedupeKey == request.dedupeKey) else none
  match existing with
  | some job => reuseJob db job request.requestFingerprint
  | none =>
    if request.kind.analyses && db.photos.any (fun p =>
        request.photoIds.contains p.id && reservedAnalysis db request.batchHolds p) then
      .error (.reservationConflict reservationMessage)
    else
      match insertJob db (newJob request) with
      | .error error => .error error
      | .ok opened =>
        match insertItems opened request.jobId request.now (newRows request) with
        | .error error => .error error
        | .ok filled =>
          if request.hookFails then .error .hookFailed
          else
            -- duplicates were skipped, so the rows are counted
            let total := filled.items.count (·.jobId == request.jobId)
            .ok (filled.setJobs (·.id == request.jobId) (fun state => { state with totalItems := total }),
              request.jobId)

structure MaintenanceRequest where
  jobId : String
  itemId : String
  kind : JobKind
  settings : Option JobSettings := some {}
  priority : Option Int := none
  dedupeKey : Option String := none
  requestFingerprint : Option String := none
  now : Nat := 0
  /-- Answer of `transaction_guard`; `true` when there is none. -/
  guardAllows : Bool := true

def priorityFor : JobKind → Int
  | .render => 2
  | .virtualDisplay => 2
  | .scan => 4
  | .webhook => 5
  | .renderPreview => 6
  | .cleanup => 6
  | .backup => 6
  | _ => 4

/-- Which jobs with the same key stand in for a new maintenance job. -/
def maintenanceReuses (request : MaintenanceRequest) (status : JobStatus) : Bool :=
  if (request.dedupeKey.getD "").startsWith "idempotency:" then true
  else if request.kind = .backup then status != .failed && status != .cancelled
  else status.active

def newMaintenanceJob (request : MaintenanceRequest) : Job where
  id := request.jobId
  kind := request.kind
  settings := request.settings
  priority := clampPriority (request.priority.getD (priorityFor request.kind))
  dedupeKey := request.dedupeKey
  createdAt := request.now
  state := { totalItems := 1, requestFingerprint := request.requestFingerprint }

def newMaintenanceItem (request : MaintenanceRequest) : Item where
  id := request.itemId
  jobId := request.jobId
  state := { availableAt := request.now }

/-- `_create_maintenance`; `none` when the guard declines. -/
def createMaintenance (db : Db) (request : MaintenanceRequest) : Outcome (Option String) :=
  if !request.kind.maintenance then .error .unsupportedMaintenance
  else
    let existing := if isSet request.dedupeKey then db.jobs.rows.find? fun job =>
      job.dedupeKey == request.dedupeKey && maintenanceReuses request job.state.status else none
    match existing with
    | some job => (reuseJob db job request.requestFingerprint).map fun out => (out.1, some out.2)
    | none =>
      if !request.guardAllows then .ok (db, none)
      else
        match insertJob db (newMaintenanceJob request) with
        | .error error => .error error
        | .ok opened =>
          match opened.items.insert (newMaintenanceItem request) with
          | none => .error .integrity
          | some items => .ok ({ opened with items }, some request.jobId)

/-! ### Status of a job -/

/-- `WHERE id=? AND status IN (...)` -/
def jobIn (jobId : String) (allowed : JobStatus → Bool) (job : Job) : Bool :=
  job.id == jobId && allowed job.state.status

/-- `WHERE job_id=? AND status IN (...)` -/
def itemIn (jobId : String) (allowed : ItemStatus → Bool) (item : Item) : Bool :=
  item.jobId == jobId && allowed item.state.status

/-- `UPDATE jobs SET status=? WHERE ...` -/
def Db.moveJobs (db : Db) (matching : Job → Bool) (target : JobStatus) : Db :=
  db.setJobs matching fun state => { state with status := target }

def transition (db : Db) (jobId : String) (fromStatuses : List JobStatus) (toStatus : JobStatus) : Outcome Bool :=
  let matching := jobIn jobId fromStatuses.contains
  (db.moveJobs matching toStatus).commit (db.jobs.any matching)

def requestPause (db : Db) (jobId : String) : Db × Bool :=
  match db.jobs.find jobId with
  | none => (db, false)
  | some job =>
    if !job.state.status.claimable then (db, false)
    else (db.moveJobs (·.id == jobId) (if db.hasItem jobId (· == .running) then .pausing else .paused), true)

/-- A job that waits for its running items and has none left. -/
def pauseSettled (db : Db) (job : Job) : Bool :=
  job.state.status == .pausing && !db.hasItem job.id (· == .running)

def acknowledgePause (db : Db) (jobId : String) : Db × Bool :=
  let matching := fun job => job.id == jobId && pauseSettled db job
  (db.moveJobs matching .paused, db.jobs.any matching)

def cancel (db : Db) (jobId : String) : Db × Bool :=
  let matching := jobIn jobId (!·.terminal)
  if db.jobs.any matching then
    ((db.moveJobs matching .cancelled).setItems (itemIn jobId ItemStatus.queued)
      (fun item => { item.state with status := .cancelled }), true)
  else (db, false)

/-- `failed_items` set to the number of failed items. -/
def Db.recountFailed (db : Db) (jobId : String) : Db :=
  db.setJobs (·.id == jobId) fun state => { state with failedItems := db.itemCount jobId .failed }

def ItemState.leave (state : ItemState) (status : ItemStatus) : ItemState :=
  { state with status, workerId := none, leaseUntil := none }

def failInvalidSettings (db : Db) (jobId : String) : Db × Bool :=
  let matching := fun job => jobIn jobId JobStatus.claimable job && !db.hasItem job.id (· == .running)
  if db.jobs.any matching then
    (((db.moveJobs matching .failed).setItems (itemIn jobId ItemStatus.queued)
      (fun item => item.state.leave .failed)).recountFailed jobId, true)
  else (db, false)

def finalizeIfDone (db : Db) (jobId : String) (finalizerFails : Bool) : Db × Bool :=
  match db.jobs.find jobId with
  | none => (db, false)
  | some job =>
    if !job.state.status.claimable then (db, false)
    else if db.hasItem jobId ItemStatus.unsettled then (db, false)
    else
      let target := if db.hasItem jobId (· == .failed) || finalizerFails then .completedWithErrors else .completed
      let matching := jobIn jobId JobStatus.claimable
      (db.moveJobs matching target, db.jobs.any matching)

/-! ### Claims and leases -/

/-- What a claim reads besides the job tables. -/
structure ClaimEnv where
  now : Nat := 0
  leaseUntil : Nat := 0
  openaiAllowed : Bool := false
  backfillAllowed : Bool := false
  capturedAt : Item → Option String := fun _ => none
  backfillTask : Item → Option Nat := fun _ => none

def ready (now : Nat) (item : Item) : Bool :=
  item.state.status == .pending && decide (item.state.availableAt ≤ now)

/-- A more urgent job has work to hand out; renders do not count. -/
def urgentWork (db : Db) (job : Job) (now : Nat) : Bool :=
  db.jobs.any fun other => other.id != job.id && decide (other.priority < job.priority) && other.kind != .render &&
    other.state.status.claimable && db.items.any fun item => item.jobId == other.id && ready now item

def claimGate (db : Db) (job : Job) (settings : JobSettings) (env : ClaimEnv) : Bool :=
  if settings.missingAnalysisBackfill || settings.openaiBackfill then
    (if settings.openaiBackfill then env.openaiAllowed else env.backfillAllowed) && !urgentWork db job env.now
  else true

/-- The `ORDER BY` of a claim; an absent key sorts first. -/
def claimOrder (settings : JobSettings) (env : ClaimEnv) (a b : Item) : Bool :=
  ((compare a.state.availableAt b.state.availableAt).then <|
    (if settings.openaiBackfill then compare (env.capturedAt a) (env.capturedAt b) else .eq).then <|
    (if settings.missingAnalysisBackfill then compare (env.backfillTask a) (env.backfillTask b) else .eq).then <|
    compare a.id b.id).isLE

/-- `LIMIT ?`; a negative limit is no limit. -/
def limited (limit : Int) (rows : List Item) : List Item :=
  if limit < 0 then rows else rows.take limit.toNat

def claimRows (db : Db) (jobId : String) (settings : JobSettings) (limit : Int) (env : ClaimEnv) : List Item :=
  limited limit
    ((db.items.rows.filter fun item => item.jobId == jobId && ready env.now item).insertionSort
      fun a b => claimOrder settings env a b)

def Item.claimedBy (item : Item) (workerId : String) (leaseUntil : Nat) : ItemState :=
  { item.state with
    status := .running
    workerId := some workerId
    leaseUntil := some leaseUntil
    attempts := item.state.attempts + 1
    idempotencyKey := some (item.state.idempotencyKey.getD (item.jobId ++ ":" ++ item.id)) }

def claim (db : Db) (jobId workerId : String) (limit : Int) (env : ClaimEnv) : Outcome (List Item) :=
  match db.jobs.find jobId with
  | none => .ok (db, [])
  | some job =>
    if !job.state.status.claimable then .ok (db, [])
    else
      match job.settings with
      | none => .error .malformedSettings
      | some settings =>
        if !claimGate db job settings env then .ok (db, [])
        else
          let ids := (claimRows db jobId settings limit env).map Item.id
          let claimed := db.setItems (fun item => ids.contains item.id) (·.claimedBy workerId env.leaseUntil)
          .ok (claimed, ids.filterMap claimed.items.find)

def renewLeases (db : Db) (jobId workerId : String) (leaseUntil : Nat) : Db × Nat :=
  let matching := fun item => item.jobId == jobId && item.state.workerId == some workerId && item.state.status == .running
  (db.setItems matching (fun item => { item.state with leaseUntil := some leaseUntil }), db.items.affected matching)

/-! ### Settling an item -/

/-- `AND worker_id=?` when the caller names a worker. -/
def ownedBy (workerId : Option String) (item : Item) : Bool :=
  workerId.isNone || item.state.workerId == workerId

def runningItem (jobId itemId : String) (workerId : Option String) (item : Item) : Bool :=
  item.id == itemId && item.jobId == jobId && item.state.status == .running && ownedBy workerId item

def JobState.countCompleted (state : JobState) : JobState :=
  { state with completedItems := state.completedItems + 1 }

def JobState.countFailed (state : JobState) : JobState :=
  { state with failedItems := state.failedItems + 1 }

/-- An item update whose row count decides whether the job counts it. -/
def settle (db : Db) (jobId : String) (matching : Item → Bool) (set : Item → ItemState)
    (count : JobState → JobState) : Db × Bool :=
  if db.items.any matching then ((db.setItems matching set).setJobs (·.id == jobId) count, true)
  else (db, false)

/-- The job is cancelled, or gone. -/
def jobCancelled (db : Db) (jobId : String) : Bool :=
  match db.jobs.find jobId with
  | none => true
  | some job => job.state.status == .cancelled

def completeItem (db : Db) (jobId itemId : String) (workerId : Option String) : Db × Bool :=
  let matching := runningItem jobId itemId workerId
  if jobCancelled db jobId then
    (db.setItems matching (fun item => item.state.leave .cancelled), db.items.any matching)
  else
    settle db jobId matching (fun item => item.state.leave .completed) JobState.countCompleted

def recordLateCompletion (db : Db) (jobId itemId : String) (workerId : Option String) : Db × Bool :=
  settle db jobId (runningItem jobId itemId workerId) (fun item => item.state.leave .failed) JobState.countFailed

/-- Gives an item back; the attempt does not count. -/
def ItemState.deferred (state : ItemState) (availableAt : Nat) : ItemState :=
  { state.leave .pending with availableAt, attempts := state.attempts - 1 }

def deferItem (db : Db) (itemId : String) (workerId : Option String) (availableAt : Nat) (deferPending : Bool) :
    Db × Bool :=
  let matching := fun item => item.id == itemId && item.state.status == .running && ownedBy workerId item
  if db.items.any matching then
    let returned := db.setItems matching (fun item => item.state.deferred availableAt)
    let owner := (returned.items.find itemId).map Item.jobId
    if deferPending then
      (returned.setItems (fun item => some item.jobId == owner && item.state.status == .pending)
        (fun item => { item.state with availableAt := max item.state.availableAt availableAt }), true)
    else (returned, true)
  else (db, false)

/-- Clock ticks of one second; timestamps carry microseconds. -/
def second : Nat := 1000000

def retryDelay (attempts : Nat) (retryInterval : Option Int) : Nat :=
  match retryInterval with
  | some seconds => (max 1 seconds).toNat
  | none => min 300 (2 ^ attempts)

def failItem (db : Db) (jobId itemId : String) (maxAttempts : Int) (retryInterval : Option Int)
    (workerId : Option String) (now : Nat) : Db × Bool :=
  match db.items.rows.find? (runningItem jobId itemId workerId) with
  | none => (db, false)
  | some item =>
    if maxAttempts ≤ item.state.attempts then
      settle db jobId (·.id == itemId) (fun item => item.state.leave .failed) JobState.countFailed
    else
      let availableAt := now + retryDelay item.state.attempts retryInterval * second
      (db.setItems (·.id == itemId) (fun item => { item.state.leave .pending with availableAt }), true)

/-! ### Lease recovery -/

def maxStaleRecoveryAttempts : Nat := 5

def stale (now : Nat) (item : Item) : Bool :=
  item.state.status == .running &&
    match item.state.leaseUntil with
    | none => true
    | some leaseUntil => decide (leaseUntil < now)

/-- A row of the recovery query: the item and whether its job is a seasonal analysis. -/
structure StaleRow where
  id : String
  jobId : String
  attempts : Nat
  seasonal : Bool

def staleRow (now : Nat) (db : Db) (item : Item) : Option StaleRow :=
  if stale now item then
    (db.jobs.find item.jobId).map fun job =>
      ⟨item.id, item.jobId, item.state.attempts, (job.settings.map JobSettings.seasonalAnalysis).getD false⟩
  else none

def staleRows (now : Nat) (db : Db) : List StaleRow :=
  (db.items.rows.filterMap (staleRow now db)).insertionSort fun a b =>
    ((compare a.jobId b.jobId).then (compare a.id b.id)).isLE

/-- Seasonal analyses and items out of attempts are given up. -/
def StaleRow.givenUp (row : StaleRow) : Bool := row.seasonal || maxStaleRecoveryAttempts ≤ row.attempts

def recoverRow (now : Nat) (acc : Db × Nat) (row : StaleRow) : Db × Nat :=
  let matching := fun item => item.id == row.id && stale now item
  if row.givenUp then
    let (db, changed) := settle acc.1 row.jobId matching (fun item => item.state.leave .failed) JobState.countFailed
    (db, acc.2 + if changed then 1 else 0)
  else
    (acc.1.setItems matching (fun item => { item.state.leave .pending with availableAt := now }),
      acc.2 + acc.1.items.affected matching)

def recoverStale (db : Db) (now : Nat) : Db × Nat :=
  if db.items.any (stale now) || db.jobs.any (·.state.status == .pausing) then
    let (recovered, count) := (staleRows now db).foldl (recoverRow now) (db, 0)
    (recovered.moveJobs (pauseSettled recovered) .paused, count)
  else (db, 0)

/-! ### Retry -/

def retryFailed (db : Db) (jobId : String) (batchHolds : Photo → Bool) (now : Nat) : Outcome Nat :=
  match db.jobs.find jobId with
  | none => .ok (db, 0)
  | some job =>
    if !job.state.status.retryable then .ok (db, 0)
    else if job.kind.analyses && db.photos.any (fun p =>
        (db.items.any fun item => item.photoId == some p.id && itemIn jobId (· == .failed) item) &&
          reservedAnalysis db batchHolds p) then
      .error (.reservationConflict retryConflictMessage)
    else
      let failedItems := itemIn jobId (· == .failed)
      if db.items.affected failedItems = 0 then .ok (db, 0)
      else
        let retried := db.setItems failedItems (fun item => { item.state with status := .pending, availableAt := now })
        (retried.setJobs (jobIn jobId JobStatus.retryable)
          (fun state => { state with status := .pending, failedItems := 0 })).commit (db.items.affected failedItems)

/-! ### Batch jobs -/

/-- `WHERE id=? AND job_id=? AND status NOT IN ('completed','failed','cancelled')` -/
def openItem (jobId itemId : String) (item : Item) : Bool :=
  item.id == itemId && item.jobId == jobId && item.state.status.unsettled

/-- Batch results keep the row's worker. -/
def ItemState.closed (state : ItemState) (status : ItemStatus) : ItemState :=
  { state with status, leaseUntil := none }

def completeBatchItem (db : Db) (jobId itemId : String) : Db × Bool :=
  settle db jobId (openItem jobId itemId) (fun item => item.state.closed .completed) JobState.countCompleted

def failBatchItem (db : Db) (jobId itemId : String) : Db × Bool :=
  settle db jobId (openItem jobId itemId) (fun item => item.state.closed .failed) JobState.countFailed

def cancelBatchItem (db : Db) (jobId itemId : String) : Db × Bool :=
  settle db jobId (openItem jobId itemId) (fun item => item.state.closed .cancelled) id

def finalizeBatchJob (db : Db) (jobId : String) (status : JobStatus) : Outcome Bool :=
  if !status.terminal then .error .illegalTerminalStatus
  else
    let matching := jobIn jobId (!·.terminal)
    .ok (db.moveJobs matching status, db.jobs.any matching)

def abandonUnstarted (db : Db) (jobId : String) : Db × Bool :=
  let matching := jobIn jobId (· == .pending)
  if db.jobs.any matching then
    ((db.moveJobs matching .failed).setItems (itemIn jobId ItemStatus.queued)
      (fun item => { item.state with status := .failed }), true)
  else (db, false)

/-- Statuses a Batch parent can be reopened from. -/
def JobStatus.reopenable : JobStatus → Bool
  | .pending | .running | .retrying | .failed | .completedWithErrors => true
  | _ => false

/-- `reopen_batch_job` with the connection of its caller, as every call has one. -/
def reopenBatchJob (db : Db) (jobId : String) : Outcome Bool :=
  let matching := jobIn jobId JobStatus.reopenable
  if db.jobs.any matching then
    let reopened := (db.moveJobs matching .running).setItems
      (itemIn jobId fun status => status == .failed || status == .retrying) (fun item => item.state.closed .pending)
    (reopened.setJobs (·.id == jobId) fun state => { state with
      completedItems := reopened.itemCount jobId .completed
      failedItems := reopened.itemCount jobId .failed }).commit true
  else .ok (db, false)

/-! ### Runs -/

inductive Op where
  | create (request : CreateRequest)
  | createMaintenance (request : MaintenanceRequest)
  | transition (jobId : String) (fromStatuses : List JobStatus) (toStatus : JobStatus)
  | requestPause (jobId : String)
  | acknowledgePause (jobId : String)
  | cancel (jobId : String)
  | claim (jobId workerId : String) (limit : Int) (env : ClaimEnv)
  | renewLeases (jobId workerId : String) (leaseUntil : Nat)
  | completeItem (jobId itemId : String) (workerId : Option String)
  | recordLateCompletion (jobId itemId : String) (workerId : Option String)
  | deferItem (itemId : String) (workerId : Option String) (availableAt : Nat) (deferPending : Bool)
  | failItem (jobId itemId : String) (maxAttempts : Int) (retryInterval : Option Int) (workerId : Option String)
      (now : Nat)
  | failInvalidSettings (jobId : String)
  | finalizeIfDone (jobId : String) (finalizerFails : Bool)
  | recoverStale (now : Nat)
  | retryFailed (jobId : String) (batchHolds : Photo → Bool) (now : Nat)
  | completeBatchItem (jobId itemId : String)
  | failBatchItem (jobId itemId : String)
  | cancelBatchItem (jobId itemId : String)
  | finalizeBatchJob (jobId : String) (status : JobStatus)
  | abandonUnstarted (jobId : String)
  | reopenBatchJob (jobId : String)

/-- The tables after a call. -/
def step (db : Db) : Op → Db
  | .create request => (create db request).after db
  | .createMaintenance request => (createMaintenance db request).after db
  | .transition jobId fromStatuses toStatus => (transition db jobId fromStatuses toStatus).after db
  | .requestPause jobId => (requestPause db jobId).1
  | .acknowledgePause jobId => (acknowledgePause db jobId).1
  | .cancel jobId => (cancel db jobId).1
  | .claim jobId workerId limit env => (claim db jobId workerId limit env).after db
  | .renewLeases jobId workerId leaseUntil => (renewLeases db jobId workerId leaseUntil).1
  | .completeItem jobId itemId workerId => (completeItem db jobId itemId workerId).1
  | .recordLateCompletion jobId itemId workerId => (recordLateCompletion db jobId itemId workerId).1
  | .deferItem itemId workerId availableAt deferPending => (deferItem db itemId workerId availableAt deferPending).1
  | .failItem jobId itemId maxAttempts retryInterval workerId now =>
    (failItem db jobId itemId maxAttempts retryInterval workerId now).1
  | .failInvalidSettings jobId => (failInvalidSettings db jobId).1
  | .finalizeIfDone jobId finalizerFails => (finalizeIfDone db jobId finalizerFails).1
  | .recoverStale now => (recoverStale db now).1
  | .retryFailed jobId batchHolds now => (retryFailed db jobId batchHolds now).after db
  | .completeBatchItem jobId itemId => (completeBatchItem db jobId itemId).1
  | .failBatchItem jobId itemId => (failBatchItem db jobId itemId).1
  | .cancelBatchItem jobId itemId => (cancelBatchItem db jobId itemId).1
  | .finalizeBatchJob jobId status => (finalizeBatchJob db jobId status).after db
  | .abandonUnstarted jobId => (abandonUnstarted db jobId).1
  | .reopenBatchJob jobId => (reopenBatchJob db jobId).after db

/-- Tables without jobs over some photos. -/
def Db.opening (photos : Table Photo.id) : Db := ⟨Table.empty, Table.empty, photos⟩

/-- One photo, for small runs. -/
def onePhoto : Table Photo.id := ⟨[{ id := "photo" }], by decide⟩

/-- A job over one photo, created and started. -/
def startedRun : List Op :=
  [.create { jobId := "job", photoIds := ["photo"], drawnId := fun _ => "item" },
    .transition "job" [.pending] .running]

end InkTime.Jobs
