import InkTime.Library.Table

/-!
# Jobs and their items

The tables `jobs`, `job_items` and `photos` as `JobRepository` uses them. Rows are split into the
part that no statement rewrites and a `state` with the columns that do change; columns that only
record what happened (timestamps, costs, results, events) are not kept.
-/

namespace InkTime.Jobs

inductive JobKind where
  | analysis | analysisBatch
  | scan | backup | render | renderPreview | cleanup | virtualDisplay | webhook
  | analysisBatchImport | analysisBatchPoll | analysisCoverageAudit
  | other (name : String)
  deriving DecidableEq

inductive JobStatus where
  | pending | preparing | running | pausing | paused | retrying
  | completed | completedWithErrors | failed | cancelled | budgetExceeded
  deriving DecidableEq

inductive ItemStatus where
  | pending | running | retrying | completed | failed | cancelled
  deriving DecidableEq

/-- The flags of `settings_json` that the repository reads. -/
structure JobSettings where
  seasonalAnalysis : Bool := false
  missingAnalysisBackfill : Bool := false
  openaiBackfill : Bool := false
  deriving DecidableEq

structure JobState where
  status : JobStatus := .pending
  totalItems : Nat := 0
  completedItems : Nat := 0
  failedItems : Nat := 0
  requestFingerprint : Option String := none
  deriving DecidableEq

/-- `settings` is absent when the stored text is not valid JSON. -/
structure Job where
  id : String
  kind : JobKind
  settings : Option JobSettings := some {}
  priority : Int := 3
  dedupeKey : Option String := none
  createdAt : Nat := 0
  state : JobState := {}
  deriving DecidableEq

structure ItemState where
  status : ItemStatus := .pending
  attempts : Nat := 0
  availableAt : Nat := 0
  workerId : Option String := none
  leaseUntil : Option Nat := none
  idempotencyKey : Option String := none
  deriving DecidableEq

structure Item where
  id : String
  jobId : String
  photoId : Option String := none
  state : ItemState := {}
  deriving DecidableEq

structure Photo where
  id : String
  sha256 : Option String := none
  deriving DecidableEq

structure Db where
  jobs : Table Job.id
  items : Table Item.id
  photos : Table Photo.id

/-! ### Status sets of the SQL statements -/

/-- Statuses of the partial unique index `idx_jobs_active_dedupe`. -/
def JobStatus.active : JobStatus → Bool
  | .pending | .preparing | .running | .pausing | .retrying => true
  | _ => false

/-- Statuses in which a job still owns its queued items. -/
def JobStatus.ownsQueue : JobStatus → Bool
  | .pending | .preparing | .running | .pausing | .retrying | .paused | .budgetExceeded => true
  | _ => false

/-- `('completed','completed_with_errors','failed','cancelled')` -/
def JobStatus.terminal : JobStatus → Bool
  | .completed | .completedWithErrors | .failed | .cancelled => true
  | _ => false

/-- `('running','retrying')` -/
def JobStatus.claimable : JobStatus → Bool
  | .running | .retrying => true
  | _ => false

/-- `('failed','completed_with_errors')` -/
def JobStatus.retryable : JobStatus → Bool
  | .failed | .completedWithErrors => true
  | _ => false

/-- `('pending','retrying')` -/
def ItemStatus.queued : ItemStatus → Bool
  | .pending | .retrying => true
  | _ => false

/-- `('pending','running','retrying')` -/
def ItemStatus.unsettled : ItemStatus → Bool
  | .pending | .running | .retrying => true
  | _ => false

/-- `('analysis','analysis_batch')` -/
def JobKind.analyses : JobKind → Bool
  | .analysis | .analysisBatch => true
  | _ => false

/-- Kinds that `_create_maintenance` accepts. -/
def JobKind.maintenance : JobKind → Bool
  | .analysis | .analysisBatch | .other _ => false
  | _ => true

namespace Db

/-! ### Statements -/

/-- `UPDATE job_items SET ... WHERE ...` -/
def setItems (db : Db) (matching : Item → Bool) (set : Item → ItemState) : Db :=
  { db with items := db.items.update matching (fun item => { item with state := set item }) fun _ => rfl }

/-- `UPDATE jobs SET ... WHERE ...` -/
def setJobs (db : Db) (matching : Job → Bool) (set : JobState → JobState) : Db :=
  { db with jobs := db.jobs.update matching (fun job => { job with state := set job.state }) fun _ => rfl }

def itemCount (db : Db) (jobId : String) (status : ItemStatus) : Nat :=
  db.items.count fun item => item.jobId == jobId && item.state.status == status

def hasItem (db : Db) (jobId : String) (matching : ItemStatus → Bool) : Bool :=
  db.items.any fun item => item.jobId == jobId && matching item.state.status

def jobIds (db : Db) : List String := db.jobs.rows.map Job.id

def itemIds (db : Db) : List String := db.items.rows.map Item.id

/-- `dedupe_key` values of active jobs are pairwise distinct. -/
def dedupeKeysDistinct (db : Db) : Bool :=
  ((db.jobs.rows.filter fun job => job.state.status.active).filterMap Job.dedupeKey).Nodup

end Db

inductive JobError where
  | integrity
  | idempotencyConflict
  | reservationConflict (message : String)
  | unsupportedMaintenance
  | illegalTerminalStatus
  | malformedSettings
  | hookFailed
  deriving DecidableEq

def JobError.message : JobError → String
  | .integrity => "UNIQUE constraint failed"
  | .idempotencyConflict => "IDEMPOTENCY_CONFLICT"
  | .reservationConflict message => message
  | .unsupportedMaintenance => "不支援的維護工作"
  | .illegalTerminalStatus => "不合法的 Batch Job terminal status"
  | .malformedSettings => "JSONDecodeError"
  | .hookFailed => "commit_hook"

/-- A repository call: the new tables and a result, or an exception after a rollback. -/
abbrev Outcome (α : Type) := Except JobError (Db × α)

/-- The tables after a call; an exception leaves them as they were. -/
def Outcome.after {α : Type} (outcome : Outcome α) (db : Db) : Db :=
  match outcome with
  | .ok (db', _) => db'
  | .error _ => db

@[simp] lemma after_ok {α : Type} (db db' : Db) (result : α) :
    Outcome.after (.ok (db', result)) db = db' := rfl

/-- Commits a change of job rows unless the unique index refuses it. -/
def Db.commit {α : Type} (db : Db) (result : α) : Outcome α :=
  if db.dedupeKeysDistinct then .ok (db, result) else .error .integrity

/-! ### Rows after a statement -/

lemma mem_setItems {db : Db} {matching : Item → Bool} {set : Item → ItemState} {item : Item} :
    item ∈ (db.setItems matching set).items ↔ ∃ before ∈ db.items,
      (if matching before then { before with state := set before } else before) = item := by
  rw [Db.setItems, Table.mem_update]
  rfl

lemma mem_setJobs {db : Db} {matching : Job → Bool} {set : JobState → JobState} {job : Job} :
    job ∈ (db.setJobs matching set).jobs ↔ ∃ before ∈ db.jobs,
      (if matching before then { before with state := set before.state } else before) = job := by
  rw [Db.setJobs, Table.mem_update]
  rfl

@[simp] lemma setItems_jobs (db : Db) (matching : Item → Bool) (set : Item → ItemState) :
    (db.setItems matching set).jobs = db.jobs := rfl

@[simp] lemma setItems_photos (db : Db) (matching : Item → Bool) (set : Item → ItemState) :
    (db.setItems matching set).photos = db.photos := rfl

@[simp] lemma setJobs_items (db : Db) (matching : Job → Bool) (set : JobState → JobState) :
    (db.setJobs matching set).items = db.items := rfl

@[simp] lemma setJobs_photos (db : Db) (matching : Job → Bool) (set : JobState → JobState) :
    (db.setJobs matching set).photos = db.photos := rfl

lemma mem_jobIds {db : Db} {job : Job} (h : job ∈ db.jobs) : job.id ∈ db.jobIds := List.mem_map_of_mem h

/-- The same rows, up to their states. -/
structure Frame (db db' : Db) : Prop where
  jobIds : db'.jobIds = db.jobIds
  itemIds : db'.itemIds = db.itemIds
  photos : db'.photos = db.photos

lemma Frame.refl (db : Db) : Frame db db := ⟨rfl, rfl, rfl⟩

lemma Frame.setItems {db db' : Db} (h : Frame db db') (matching : Item → Bool) (set : Item → ItemState) :
    Frame db (db'.setItems matching set) where
  jobIds := h.jobIds
  itemIds := by
    rw [← h.itemIds]
    unfold Db.setItems Db.itemIds
    apply Table.keys_update
    exact fun _ => rfl
  photos := h.photos

lemma Frame.setJobs {db db' : Db} (h : Frame db db') (matching : Job → Bool) (set : JobState → JobState) :
    Frame db (db'.setJobs matching set) where
  jobIds := by
    rw [← h.jobIds]
    unfold Db.setJobs Db.jobIds
    apply Table.keys_update
    exact fun _ => rfl
  itemIds := h.itemIds
  photos := h.photos

@[simp] lemma setJobs_itemCount (db : Db) (matching : Job → Bool) (set : JobState → JobState)
    (jobId : String) (status : ItemStatus) :
    (db.setJobs matching set).itemCount jobId status = db.itemCount jobId status := rfl

/-- Statements on different tables commute. -/
lemma setJobs_setItems (db : Db) (matching : Job → Bool) (set : JobState → JobState)
    (matchingItem : Item → Bool) (setItem : Item → ItemState) :
    (db.setItems matchingItem setItem).setJobs matching set =
      (db.setJobs matching set).setItems matchingItem setItem := rfl

lemma hasItem_eq_false {db : Db} {jobId : String} {matching : ItemStatus → Bool} :
    db.hasItem jobId matching = false ↔
      ∀ item ∈ db.items, item.jobId = jobId → matching item.state.status = false := by
  simp [Db.hasItem, Table.any, Table.mem_iff]

/-- A committed call either took effect or was refused by the index. -/
lemma after_commit {α : Type} (db db' : Db) (result : α) :
    (db'.commit result).after db = db' ∨ (db'.commit result).after db = db := by
  unfold Db.commit
  split
  · exact .inl rfl
  · exact .inr rfl

end InkTime.Jobs
