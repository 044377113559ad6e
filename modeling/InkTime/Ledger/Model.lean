import InkTime.Jobs.Operations
import InkTime.Library.Checked
import InkTime.Library.Rounding

/-!
# The usage ledger

`api_usage` receipts, their archive `usage_cost_archive` and the running total `jobs.spent`, over the job
tables. Costs are rationals, added by the arithmetic of the `REAL` columns. Receipts come from `UsageRepository`,
item completions from `JobRepository`, and retention (`ResilienceRepository.cleanup`) moves old receipts into
the archive.
-/

namespace InkTime.Ledger

open Checked
open Rounding (nearestDouble)

/-! ### Costs -/

/-- How costs are added: by `+`, and by `SUM` over the rows in their order. -/
structure Arithmetic where
  add : ℚ → ℚ → ℚ
  sum : List ℚ → ℚ

/-- Nothing is rounded. -/
def Arithmetic.exact : Arithmetic := ⟨(· + ·), List.sum⟩

/-- `kahanBabuskaStep`: a sum so far and the error it has left out, both binary64. -/
def kahanBabuskaStep (total : ℚ × ℚ) (cost : ℚ) : ℚ × ℚ :=
  let next := nearestDouble (total.1 + cost)
  let lost := if |cost| < |total.1| then nearestDouble (nearestDouble (total.1 - next) + cost)
    else nearestDouble (nearestDouble (cost - next) + total.1)
  (next, nearestDouble (total.2 + lost))

/-- The binary64 numbers of SQLite, whose `SUM` carries its rounding error along and adds it in the end. -/
def Arithmetic.binary64 : Arithmetic where
  add := fun a b => nearestDouble (a + b)
  sum := fun costs =>
    let total := costs.foldl kahanBabuskaStep (0, 0)
    nearestDouble (total.1 + total.2)

/-- Any other text is stored, and counted, as `unknown`. -/
inductive CostSource where
  | providerReported | estimated | unknown
  deriving DecidableEq

/-- A row of `api_usage`; tokens, sizes and statuses are not read by the ledger. -/
structure Usage where
  id : Nat
  jobId : Option String
  photoId : Option String
  estimatedCost : Option ℚ
  actualCost : Option ℚ
  costSource : CostSource
  startedAt : Nat
  operationId : Option String
  batchItemId : Option String

/-- `COALESCE(actual_cost,estimated_cost,0)` -/
def Usage.cost (usage : Usage) : ℚ := (usage.actualCost <|> usage.estimatedCost).getD 0

/-- `CASE WHEN cost_source<>'unknown' THEN COALESCE(actual_cost,estimated_cost) ELSE 0 END` -/
def Usage.knownCost (usage : Usage) : ℚ := if usage.costSource = .unknown then 0 else usage.cost

/-- A row of `usage_cost_archive`; an absent job or photo is the empty text. -/
structure Archive where
  jobId : String
  photoId : String
  cost : ℚ

def Archive.key (archive : Archive) : String × String := (archive.jobId, archive.photoId)

/-- `api_usage` with its `AUTOINCREMENT` id: no id is drawn twice. -/
structure UsageTable where
  rows : Table Usage.id
  lastId : Nat
  bounded : ∀ usage ∈ rows, usage.id ≤ lastId

def UsageTable.empty : UsageTable := ⟨.empty, 0, fun _ h => absurd h List.not_mem_nil⟩

structure Db where
  jobs : Jobs.Db
  /-- `jobs.spent` by job id. -/
  spent : String → ℚ
  usage : UsageTable
  archive : Table Archive.key

inductive LedgerError where
  | integrity
  deriving DecidableEq

/-! ### Statements -/

/-- `EXISTS(SELECT 1 FROM api_usage WHERE job_id=?)` -/
def Db.hasReceipt (db : Db) (jobId : String) : Bool := db.usage.rows.any fun usage => usage.jobId == some jobId

/-- `EXISTS(SELECT 1 FROM usage_cost_archive WHERE job_id=?)` -/
def Db.hasArchive (db : Db) (jobId : String) : Bool := db.archive.any fun archive => archive.jobId == jobId

def Db.setSpent (db : Db) (jobId : String) (cost : ℚ) : Db :=
  { db with spent := fun other => if other = jobId then cost else db.spent other }

lemma UsageTable.fresh (usage : UsageTable) (row : Usage) (hid : row.id = usage.lastId + 1) :
    row.id ∉ usage.rows.rows.map Usage.id := by
  intro hmem
  obtain ⟨other, hother, heq⟩ := List.mem_map.mp hmem
  have hle := usage.bounded other hother
  omega

/-- `INSERT INTO api_usage` under the next id. -/
def UsageTable.append (usage : UsageTable) (row : Usage) : UsageTable where
  rows := ⟨usage.rows.rows ++ [{ row with id := usage.lastId + 1 }], by
    rw [List.map_append, List.nodup_append]
    refine ⟨usage.rows.distinct, by simp, ?_⟩
    intro id hid other hother
    obtain rfl : other = usage.lastId + 1 := by simpa using hother
    rintro rfl
    exact usage.fresh { row with id := usage.lastId + 1 } rfl hid⟩
  lastId := usage.lastId + 1
  bounded := by
    intro other hother
    rw [Table.mem_iff, List.mem_append, List.mem_singleton] at hother
    obtain hother | rfl := hother
    · exact Nat.le_succ_of_le (usage.bounded other hother)
    · exact le_rfl

/-- `DELETE FROM api_usage WHERE id=?` -/
def UsageTable.delete (usage : UsageTable) (id : Nat) : UsageTable where
  rows := usage.rows.delete fun row => row.id == id
  lastId := usage.lastId
  bounded := fun row hrow => usage.bounded row (Table.mem_delete.mp hrow).1

/-! ### UsageRepository -/

/-- What a caller records. -/
structure Receipt where
  jobId : Option String
  photoId : Option String := none
  estimatedCost : Option ℚ := none
  actualCost : Option ℚ := none
  costSource : CostSource := .unknown
  startedAt : Nat := 0
  operationId : Option String := none
  batchItemId : Option String := none

/-- The cost `_add_job_cost` is called with. -/
def Receipt.addedCost (receipt : Receipt) : ℚ :=
  if receipt.costSource = .unknown then 0 else max 0 ((receipt.actualCost <|> receipt.estimatedCost).getD 0)

section

variable (arithmetic : Arithmetic)

/-- `_add_job_cost`: the first receipt of a job replaces the estimates of its items, later ones add. -/
def addJobCost (db : Db) (jobId : Option String) (usageId : Nat) (cost : ℚ) : Db :=
  match jobId with
  | none => db
  | some jobId =>
    if jobId = "" then db
    else if (db.usage.rows.any fun usage => usage.jobId == some jobId && usage.id != usageId) || db.hasArchive jobId then
      db.setSpent jobId (arithmetic.add (db.spent jobId) cost)
    else db.setSpent jobId cost

/-- The foreign keys of `api_usage` on jobs and photos. -/
def knownReferences (db : Db) (receipt : Receipt) : Bool :=
  (match receipt.jobId with
    | none => true
    | some jobId => (db.jobs.jobs.find jobId).isSome) &&
  (match receipt.photoId with
    | none => true
    | some photoId => (db.jobs.photos.find photoId).isSome)

/-- A receipt for this batch item is stored. -/
def batchItemRecorded (db : Db) (batchItemId : Option String) : Bool :=
  batchItemId.isSome && db.usage.rows.any fun usage => usage.batchItemId == batchItemId

def usageOf (receipt : Receipt) (actualCost : Option ℚ) : Usage where
  id := 0
  jobId := receipt.jobId
  photoId := receipt.photoId
  estimatedCost := receipt.estimatedCost.map (max 0)
  actualCost := actualCost
  costSource := receipt.costSource
  startedAt := receipt.startedAt
  operationId := receipt.operationId
  batchItemId := receipt.batchItemId

/-- Stores the row and adds its cost to the job. -/
def appendUsage (db : Db) (receipt : Receipt) (row : Usage) : Db :=
  let usage := db.usage.append row
  addJobCost arithmetic { db with usage } receipt.jobId usage.lastId receipt.addedCost

/-- `UsageRepository.record`; an operation that is stored answers with its row. -/
def record (db : Db) (receipt : Receipt) : Except LedgerError (Db × Nat) :=
  match if receipt.operationId.isSome then db.usage.rows.rows.find? fun usage => usage.operationId == receipt.operationId
    else none with
  | some existing => .ok (db, existing.id)
  | none => do
    require (knownReferences db receipt && !batchItemRecorded db receipt.batchItemId) .integrity
    return (appendUsage arithmetic db receipt (usageOf receipt receipt.actualCost), db.usage.lastId + 1)

/-- `UsageRepository.record_batch_once`, without an operation; `INSERT OR IGNORE` skips a stored item. -/
def recordBatchOnce (db : Db) (receipt : Receipt) (batchItemId : String) : Except LedgerError (Db × Bool) := do
  let receipt := { receipt with operationId := none, batchItemId := some batchItemId }
  if batchItemRecorded db receipt.batchItemId then return (db, false)
  require (knownReferences db receipt) .integrity
  return (appendUsage arithmetic db receipt (usageOf receipt (receipt.actualCost.map (max 0))), true)

/-! ### JobRepository -/

/-- `spent=CASE WHEN (EXISTS(...) OR EXISTS(...)) THEN spent ELSE spent+? END` -/
def addItemCost (db : Db) (jobId : String) (cost : ℚ) : Db :=
  if db.hasReceipt jobId || db.hasArchive jobId then db else db.setSpent jobId (arithmetic.add (db.spent jobId) cost)

/-- The job tables after a completion call, and the cost of an item it completed. -/
def settleItem (db : Db) (jobId : String) (call : Jobs.Db × Bool) (counted : Bool) (cost : ℚ) : Db :=
  let settled := { db with jobs := call.1 }
  if call.2 && counted then addItemCost arithmetic settled jobId cost else settled

def completeItem (db : Db) (jobId itemId : String) (cost : ℚ) (workerId : Option String) : Db :=
  settleItem arithmetic db jobId (Jobs.completeItem db.jobs jobId itemId workerId) (!Jobs.jobCancelled db.jobs jobId) cost

def recordLateCompletion (db : Db) (jobId itemId : String) (cost : ℚ) (workerId : Option String) : Db :=
  settleItem arithmetic db jobId (Jobs.recordLateCompletion db.jobs jobId itemId workerId) true cost

def completeBatchItem (db : Db) (jobId itemId : String) (cost : ℚ) : Db :=
  settleItem arithmetic db jobId (Jobs.completeBatchItem db.jobs jobId itemId) true cost

/-! ### Retention of api_usage -/

structure RetentionPolicy where
  enabled : Bool := true
  dryRun : Bool := true
  cleanupBatchSize : Nat := 200
  minimumItemsToKeep : Nat := 0

def olderUsage (a b : Usage) : Prop := a.startedAt < b.startedAt ∨ (a.startedAt = b.startedAt ∧ a.id ≤ b.id)

instance : DecidableRel olderUsage := fun a b => by delta olderUsage; infer_instance

/-- Receipts that may leave: of a known cost, bound to no operation or batch item, before the cutoff and
before the running month. -/
def removable (cutoff monthStart : Nat) (usage : Usage) : Bool :=
  usage.startedAt < cutoff && usage.startedAt < monthStart && usage.costSource != .unknown &&
    usage.operationId.isNone && usage.batchItemId.isNone

/-- The oldest removable receipts, less the newest receipts the policy keeps. -/
def cleanupIds (db : Db) (policy : RetentionPolicy) (cutoff monthStart : Nat) : List Nat :=
  let ids := (((db.usage.rows.rows.filter (removable cutoff monthStart)).insertionSort olderUsage).take
    policy.cleanupBatchSize).map Usage.id
  let newest := ((db.usage.rows.rows.insertionSort olderUsage).reverse.take policy.minimumItemsToKeep).map Usage.id
  ids.filter fun id => !newest.contains id

/-- `INSERT INTO usage_cost_archive ... ON CONFLICT(job_id,photo_id) DO UPDATE SET cost=cost+excluded.cost` -/
def addToArchive (archive : Table Archive.key) (row : Archive) : Table Archive.key :=
  match archive.insert row with
  | some inserted => inserted
  | none => archive.update (fun other => other.key == row.key) (fun other => { other with cost := arithmetic.add other.cost row.cost })
      fun _ => rfl

def archiveOf (usage : Usage) : Archive where
  jobId := usage.jobId.getD ""
  photoId := usage.photoId.getD ""
  cost := usage.cost

def moveToArchive (db : Db) (id : Nat) : Db :=
  match db.usage.rows.find id with
  | none => db
  | some usage => { db with archive := addToArchive arithmetic db.archive (archiveOf usage), usage := db.usage.delete id }

/-- The `api_usage` policy of `ResilienceRepository.cleanup`. -/
def cleanup (db : Db) (dryRun : Bool) (policy : RetentionPolicy) (cutoff monthStart : Nat) : Db :=
  if !policy.enabled || dryRun || policy.dryRun then db
  else (cleanupIds db policy cutoff monthStart).foldl (moveToArchive arithmetic) db

/-! ### BudgetService -/

/-- `job_known` of `BudgetService.snapshot`. -/
def jobKnown (db : Db) (jobId : String) : ℚ :=
  arithmetic.add
    (arithmetic.sum ((db.usage.rows.rows.filter fun usage => usage.jobId == some jobId).map Usage.knownCost))
    (arithmetic.sum ((db.archive.rows.filter fun archive => archive.jobId == jobId).map Archive.cost))

/-! ### Runs -/

inductive Op where
  | record (receipt : Receipt)
  | recordBatchOnce (receipt : Receipt) (batchItemId : String)
  | completeItem (jobId itemId : String) (cost : ℚ) (workerId : Option String)
  | recordLateCompletion (jobId itemId : String) (cost : ℚ) (workerId : Option String)
  | completeBatchItem (jobId itemId : String) (cost : ℚ)
  | cleanup (dryRun : Bool) (policy : RetentionPolicy) (cutoff monthStart : Nat)

/-- The tables after a call; an exception leaves them as they were. -/
def step (db : Db) : Op → Db
  | .record receipt =>
    match record arithmetic db receipt with
    | .ok (db', _) => db'
    | .error _ => db
  | .recordBatchOnce receipt batchItemId =>
    match recordBatchOnce arithmetic db receipt batchItemId with
    | .ok (db', _) => db'
    | .error _ => db
  | .completeItem jobId itemId cost workerId => completeItem arithmetic db jobId itemId cost workerId
  | .recordLateCompletion jobId itemId cost workerId => recordLateCompletion arithmetic db jobId itemId cost workerId
  | .completeBatchItem jobId itemId cost => completeBatchItem arithmetic db jobId itemId cost
  | .cleanup dryRun policy cutoff monthStart => cleanup arithmetic db dryRun policy cutoff monthStart

end

end InkTime.Ledger
