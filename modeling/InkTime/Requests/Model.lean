import InkTime.Requests.Keys
import InkTime.Requests.Batching
import InkTime.Library.Checked
import InkTime.Library.Table
import InkTime.Library.Runs

/-!
# Full-library requests

A request under an idempotency key reserves a row of the ledger, freezes the batches it will queue there,
queues a job for each and records the answer. Requests under one key may run at the same time, stop
anywhere, and be sent again.
-/

namespace InkTime.Requests

open Checked (require orError)

/-! ### What is stored -/

/-- The batches a request has committed itself to. -/
structure Snapshot where
  analysisFingerprint : String
  analysisSpec : String
  batchBy : String
  batches : List Batch
deriving DecidableEq

structure JobAnswer where
  id : String
  queued : ℕ
  screenshotExcluded : ℕ
  detailUrl : String
deriving DecidableEq

structure Response where
  jobs : List JobAnswer
  queued : ℕ
  batchBy : String
deriving DecidableEq

inductive Status
  | inProgress
  | completed
deriving DecidableEq

/-- A row of `idempotency_requests`. -/
structure LedgerRow where
  scopeKey : String
  requestFingerprint : String
  status : Status
  -- `none` is the text `{}` of a request that is still choosing its photos.
  requestSnapshot : Option Snapshot
  response : Option Response
  reservationToken : Option String
  reservationExpiresAt : Option ℤ
deriving DecidableEq

/-- A row of `jobs`. -/
structure Job where
  id : String
  dedupeKey : Option String
  requestFingerprint : Option String
  createdBy : String
  photoIds : List String
deriving DecidableEq

/-! ### Refusals -/

inductive Refusal
  | conflict
  | reservationLost
  | ledgerInvalid
  | inProgress
  | unknownRequest
  | seasonalMode
  | modeOff
  | noPhotos
  | limitReached
  | noneEligible
  | screenshots
  | excluded
  | unknownStrategy
  | analysisReserved
  | duplicateId
deriving DecidableEq

def Refusal.message : Refusal → String
  | .conflict => "IDEMPOTENCY_CONFLICT"
  | .reservationLost => "IDEMPOTENCY_RESERVATION_LOST"
  | .ledgerInvalid => "IDEMPOTENCY_LEDGER_INVALID"
  | .inProgress => "相同 Idempotency-Key 的完整照片庫請求正在建立固定選片；請稍後重試"
  | .unknownRequest => "KeyError"
  | .seasonalMode => "歷年同期模式請從「分析工作 → 歷年同期分析進度」補齊資料或逐張確認重試"
  | .modeOff => "AI 模式目前為關閉；不會建立模型工作"
  | .noPhotos => "沒有可送入 AI 的照片"
  | .limitReached => "已達 AI 每日或每月照片上限；目前會保留本機選片結果"
  | .noneEligible => "沒有符合資格且可送入 AI 的照片"
  | .screenshots => "已確認為截圖；為保護隱私與額度，禁止送入 AI 模型"
  | .excluded => "已排除的照片禁止送入 AI；請先明確恢復照片，再執行分析"
  | .unknownStrategy => "不支援的分析策略"
  | .analysisReserved => "照片已有尚未結束的即時或 Batch 分析，請等待完成後再建立工作"
  | .duplicateId => "UNIQUE constraint failed: jobs.id"

/-! ### The ledger -/

abbrev Ledger := Table LedgerRow.scopeKey

/-- `IDEMPOTENCY_RESERVATION_LEASE_SECONDS`, in microseconds. -/
def leaseLength : ℤ := 60 * 1000000

def LedgerRow.reserve (token : String) (expires : ℤ) (row : LedgerRow) : LedgerRow :=
  { row with reservationToken := some token, reservationExpiresAt := some expires }

def LedgerRow.freeze (snapshot : Snapshot) (expires : ℤ) (row : LedgerRow) : LedgerRow :=
  { row with requestSnapshot := some snapshot, reservationExpiresAt := some expires }

def LedgerRow.renew (expires : ℤ) (row : LedgerRow) : LedgerRow := { row with reservationExpiresAt := some expires }

def LedgerRow.complete (response : Response) (row : LedgerRow) : LedgerRow :=
  { row with status := .completed, response := some response }

/-- Nobody holds the reservation, or it has run out. -/
def LedgerRow.free (now : ℤ) (row : LedgerRow) : Bool :=
  row.reservationToken.isNone || row.reservationExpiresAt.all (· ≤ now)

/-- The reservation is the caller's and has not run out. -/
def LedgerRow.heldBy (token : String) (now : ℤ) (row : LedgerRow) : Bool :=
  row.reservationToken == some token && row.reservationExpiresAt.any (now < ·)

/-- The row as it stands now, whether the caller holds it, and the ledger. -/
def reserveIdempotentRequest (scopeKey fingerprint : String) (now : ℤ) (token : String) (ledger : Ledger) :
    Except Refusal (LedgerRow × Bool × Ledger) :=
  match ledger.find scopeKey with
  | none =>
    let row : LedgerRow := ⟨scopeKey, fingerprint, .inProgress, none, none, some token, some (now + leaseLength)⟩
    .ok (row, true, ledger.add row)
  | some row => do
    require (row.requestFingerprint == fingerprint) .conflict
    if row.status = .completed then return (row, false, ledger)
    else if row.free now then
      let reserved := row.reserve token (now + leaseLength)
      return (reserved, true, ledger.put reserved)
    else return (row, row.reservationToken == some token, ledger)

def freezeIdempotentRequest (scopeKey fingerprint token : String) (snapshot : Snapshot) (now : ℤ) (ledger : Ledger) :
    Except Refusal (LedgerRow × Ledger) := do
  let row ← orError (ledger.find scopeKey) .unknownRequest
  require (row.requestFingerprint == fingerprint) .conflict
  if row.status = .completed then return (row, ledger)
  require (row.heldBy token now) .reservationLost
  let frozen := row.freeze snapshot (now + leaseLength)
  return (frozen, ledger.put frozen)

/-- Whether the reservation could be renewed, and the ledger. -/
def renewIdempotentRequest (scopeKey fingerprint token : String) (now : ℤ) (ledger : Ledger) : Bool × Ledger :=
  match ledger.find scopeKey with
  | none => (false, ledger)
  | some row =>
    if row.requestFingerprint = fingerprint ∧ row.status = .inProgress ∧ row.heldBy token now = true then
      (true, ledger.put (row.renew (now + leaseLength)))
    else (false, ledger)

def completeIdempotentRequest (scopeKey fingerprint : String) (response : Response) (ledger : Ledger) :
    Except Refusal (LedgerRow × Ledger) := do
  let row ← orError (ledger.find scopeKey) .unknownRequest
  require (row.requestFingerprint == fingerprint) .conflict
  if row.status = .inProgress then
    let completed := row.complete response
    return (completed, ledger.put completed)
  else return (row, ledger)

/-! ### Jobs -/

structure JobRequest where
  dedupeKey : Option String
  requestFingerprint : Option String
  createdBy : String
  photoIds : List String
  -- whether the job analyses its photos
  analysis : Bool

/-- A text that is neither missing nor empty. -/
def given (text : Option String) : Option String := text.filter (· ≠ "")

/-- `UPDATE jobs SET request_fingerprint=? WHERE id=? AND request_fingerprint IS NULL` -/
def setFingerprint (id fingerprint : String) (jobs : List Job) : List Job :=
  jobs.map fun job => if job.id = id ∧ job.requestFingerprint = none then { job with requestFingerprint := some fingerprint } else job

/-- A job that its key already has, or a new one. The newest job stands first. -/
def createJob (request : JobRequest) (reserved : String → Bool) (jobId : String) (jobs : List Job) : Except Refusal (String × List Job) :=
  match (given request.dedupeKey).bind fun key => jobs.find? fun job => job.dedupeKey == some key with
  | some existing =>
    match given existing.requestFingerprint, given request.requestFingerprint with
    | some stored, some fingerprint => if stored = fingerprint then .ok (existing.id, jobs) else .error .conflict
    | none, some fingerprint => .ok (existing.id, setFingerprint existing.id fingerprint jobs)
    | _, none => .ok (existing.id, jobs)
  | none => do
    require (!(request.analysis && request.photoIds.any reserved)) .analysisReserved
    require (!jobs.any fun job => job.id == jobId) .duplicateId
    return (jobId, ⟨jobId, request.dedupeKey, request.requestFingerprint, request.createdBy, request.photoIds⟩ :: jobs)

/-! ### Queueing a batch -/

/-- What the request's fingerprint covers. -/
structure Material where
  analysisFingerprint : String
  analysisSpec : String
  batchBy : String
  confirm : Bool
  dailyLimit : ℤ
  mode : String
  strategy : String

/-- What the fingerprint of a job covers. -/
structure JobMaterial where
  name : String
  strategy : String
  photoIds : List String
  forceAi : Bool
  analysisFingerprint : String
  analysisSpec : String

/-- Fingerprints of the texts that name a request, a job and a plan of analysis. -/
structure Digests extends Runtime where
  requestFingerprint : Material → String
  jobFingerprint : JobMaterial → String
  fingerprint : String → String

/-- What the settings and the library answer while one batch is queued. -/
structure Environment where
  executionMode : String
  dailyLimit : ℤ
  aiLimitReached : Bool
  strategy : String
  photos : List PhotoRow
  screenshot : String → Bool
  reserved : String → Bool

def strategies : List String := ["local", "single", "low_cost", "high_quality", "single_high", "smart", "smart_two_stage", "custom"]

def permitsAutomaticAi (mode : String) : Bool := mode ∈ ["automatic_ai", "seasonal_ai"]

def permitsManualAi (mode : String) : Bool := mode ∈ ["local_with_manual_ai", "automatic_ai", "seasonal_ai"]

def activeEligibleRequestedIds (photos : List PhotoRow) (photoIds : List String) (limit : ℤ) : List String :=
  (photoIds.eraseDups.filter fun id => photos.any fun row => row.activeEligible && row.id == id).take (max 1 limit).toNat

structure QueueRequest where
  photoIds : List String
  createdBy : String
  name : String
  forceAi : Bool
  idempotencyKey : Option String
  idempotencyScope : String
  analysisPlan : String
  frozenPhotoIds : Bool

section

variable (dg : Digests)

def queueAi (env : Environment) (request : QueueRequest) (jobId : String) (jobs : List Job) : Except Refusal (JobAnswer × List Job) := do
  require (env.executionMode ≠ "seasonal_ai") .seasonalMode
  require (if request.forceAi then permitsManualAi env.executionMode else permitsAutomaticAi env.executionMode) .modeOff
  require (request.photoIds ≠ []) .noPhotos
  require (request.forceAi || !env.aiLimitReached) .limitReached
  let chosen :=
    if request.forceAi || request.frozenPhotoIds then request.photoIds.eraseDups
    else activeEligibleRequestedIds env.photos request.photoIds (if env.dailyLimit = 0 then request.photoIds.length else env.dailyLimit)
  require (chosen ≠ []) .noneEligible
  let kept := chosen.filter fun id => !env.screenshot id
  require (kept ≠ []) .screenshots
  let selected := activeEligibleRequestedIds env.photos kept kept.length
  require (selected ≠ []) .excluded
  let key := scopedIdempotencyKey dg.toRuntime request.idempotencyScope request.createdBy request.idempotencyKey
  let material : JobMaterial :=
    ⟨request.name, env.strategy, selected, request.forceAi, dg.fingerprint request.analysisPlan, request.analysisPlan⟩
  require (env.strategy ∈ strategies) .unknownStrategy
  let (id, jobs) ← createJob ⟨key, key.map fun _ => dg.jobFingerprint material, request.createdBy, selected, true⟩ env.reserved jobId jobs
  return (⟨id, selected.length, chosen.length - kept.length, "/jobs/" ++ id⟩, jobs)

/-! ### One request -/

/-- A request with a key of its own choice. -/
structure Call where
  actor : String
  rawKey : String
  material : Material
  keyed : normalizedKey (some rawKey) ≠ ""

def Call.scope (call : Call) : String :=
  (scopedIdempotencyKey dg.toRuntime "ai-mode-run/full-library-request" call.actor (some call.rawKey)).getD ""

def Call.fingerprint (call : Call) : String := dg.requestFingerprint call.material

/-- The request that queues one frozen batch. -/
def Call.batchRequest (call : Call) (snapshot : Snapshot) (batch : Batch) : QueueRequest where
  photoIds := batch.photoIds
  createdBy := call.actor
  name := "完整照片庫 AI：" ++ batch.group
  forceAi := true
  idempotencyKey := groupedIdempotencyKey dg.toRuntime (some call.rawKey) batch.group
  idempotencyScope := "ai-mode-run"
  analysisPlan := snapshot.analysisSpec
  frozenPhotoIds := true

def Call.snapshot (call : Call) (photos : List PhotoRow) : Snapshot where
  analysisFingerprint := call.material.analysisFingerprint
  analysisSpec := call.material.analysisSpec
  batchBy := call.material.batchBy
  batches := eligiblePhotoBatches call.material.batchBy call.material.dailyLimit false photos

def Call.response (call : Call) (done : List JobAnswer) : Response := ⟨done, (done.map JobAnswer.queued).sum, call.material.batchBy⟩

/-- How far a request has come. `lost` is what its heartbeat has found out. -/
inductive Phase
  | reserving
  | enumerating (lost : Bool)
  | enumerated (lost : Bool) (snapshot : Snapshot)
  | freezing (lost : Bool) (snapshot : Snapshot)
  | queueing (snapshot : Snapshot) (done : List JobAnswer)
  | answered (response : Option Response)
  | refused (reason : Refusal)
deriving DecidableEq

/-- Whether the heartbeat goes on. A last renewal may still be under way when the request has stopped it. -/
def Phase.beats : Phase → Bool
  | .reserving => false
  | .enumerating lost | .enumerated lost _ | .freezing lost _ => !lost
  | .queueing .. | .answered _ | .refused _ => true

/-- The renewal that fails tells its request. -/
def Phase.beat (renewed : Bool) : Phase → Phase
  | .enumerating lost => .enumerating (lost || !renewed)
  | .enumerated lost snapshot => .enumerated (lost || !renewed) snapshot
  | .freezing lost snapshot => .freezing (lost || !renewed) snapshot
  | phase => phase

/-- Where a request goes on once it has read its row. -/
def afterReserve : LedgerRow × Bool → Phase
  | (row, owner) =>
    if row.status = .completed then .answered row.response
    else
      match row.requestSnapshot with
      | some snapshot => .queueing snapshot []
      | none => if owner then .enumerating false else .refused .inProgress

def afterFreeze (row : LedgerRow) : Phase :=
  if row.status = .completed then .answered row.response
  else
    match row.requestSnapshot with
    | some snapshot => .queueing snapshot []
    | none => .refused .ledgerInvalid

/-! ### Requests side by side -/

structure System where
  ledger : Ledger
  jobs : List Job
  phase : ℕ → Phase

def System.move (system : System) (n : ℕ) (phase : Phase) : System :=
  { system with phase := Function.update system.phase n phase }

/-- One transaction of request `n`, at whatever time the clock shows, or another call of `JobRepository.create`. -/
inductive Act
  | reserve (n : ℕ) (now : ℤ)
  -- `none` is a renewal that raised
  | heartbeat (n : ℕ) (now : Option ℤ)
  | enumerate (n : ℕ) (photos : List PhotoRow)
  | renew (n : ℕ) (now : ℤ)
  | freeze (n : ℕ) (now : ℤ)
  | queue (n : ℕ) (env : Environment) (jobId : String)
  | complete (n : ℕ)
  | create (request : JobRequest) (reserved : String → Bool) (jobId : String)

variable (call : ℕ → Call) (token : ℕ → String)

def step (system : System) : Act → System
  | .reserve n now =>
    match system.phase n with
    | .reserving =>
      match reserveIdempotentRequest ((call n).scope dg) ((call n).fingerprint dg) now (token n) system.ledger with
      | .error reason => system.move n (.refused reason)
      | .ok (row, owner, ledger) => { system with ledger := ledger }.move n (afterReserve (row, owner))
    | _ => system
  | .heartbeat n none => if (system.phase n).beats then system.move n ((system.phase n).beat false) else system
  | .heartbeat n (some now) =>
    let renewed := renewIdempotentRequest ((call n).scope dg) ((call n).fingerprint dg) (token n) now system.ledger
    if (system.phase n).beats then { system with ledger := renewed.2 }.move n ((system.phase n).beat renewed.1) else system
  | .enumerate n photos =>
    match system.phase n with
    | .enumerating lost => system.move n (.enumerated lost ((call n).snapshot photos))
    | _ => system
  | .renew n now =>
    match system.phase n with
    | .enumerated lost snapshot =>
      let renewed := renewIdempotentRequest ((call n).scope dg) ((call n).fingerprint dg) (token n) now system.ledger
      if lost then system.move n (.refused .reservationLost)
      else { system with ledger := renewed.2 }.move n (if renewed.1 then .freezing lost snapshot else .refused .reservationLost)
    | _ => system
  | .freeze n now =>
    match system.phase n with
    | .freezing _ snapshot =>
      match freezeIdempotentRequest ((call n).scope dg) ((call n).fingerprint dg) (token n) snapshot now system.ledger with
      | .error reason => system.move n (.refused reason)
      | .ok (row, ledger) => { system with ledger := ledger }.move n (afterFreeze row)
    | _ => system
  | .queue n env jobId =>
    match system.phase n with
    | .queueing snapshot done =>
      match snapshot.batches[done.length]? with
      | none => system
      | some batch =>
        match queueAi dg env ((call n).batchRequest dg snapshot batch) jobId system.jobs with
        | .error reason => system.move n (.refused reason)
        | .ok (answer, jobs) => { system with jobs := jobs }.move n (.queueing snapshot (done ++ [answer]))
    | _ => system
  | .complete n =>
    match system.phase n with
    | .queueing snapshot done =>
      if done.length < snapshot.batches.length then system
      else
        match completeIdempotentRequest ((call n).scope dg) ((call n).fingerprint dg) ((call n).response done) system.ledger with
        | .error reason => system.move n (.refused reason)
        | .ok (row, ledger) => { system with ledger := ledger }.move n (.answered row.response)
    | _ => system
  | .create request reserved jobId =>
    match createJob request reserved jobId system.jobs with
    | .error _ => system
    | .ok (_, jobs) => { system with jobs := jobs }

/-- No request has come yet. -/
def start (jobs : List Job) : System := ⟨Table.empty, jobs, fun _ => .reserving⟩

end

end InkTime.Requests
