import InkTime.Library.Keyset
import InkTime.Submission.Program

/-!
# Photos that wait for an analysis

`selection_preview` and `iter_pending_photo_ids` of `JobRepository`, and the predicate of `reserved_analysis_sql`, over the rows that
their statements read.
-/

namespace InkTime.Selection

open Jobs (Job)

/-- A REAL of SQLite, which is never a NaN. -/
abbrev SqlReal := WithBot (WithTop ℚ)

def real (value : ℚ) : SqlReal := ((value : WithTop ℚ) : SqlReal)

inductive LifecycleStatus where
  | active | missing | excluded | archived | deleted
  deriving DecidableEq

inductive FeaturesStatus where
  | pending | complete | failed
  deriving DecidableEq

structure Photo where
  id : String
  sha256 : Option String := none
  lifecycleStatus : LifecycleStatus := .active
  eligible : Bool := true
  localFeaturesStatus : FeaturesStatus := .pending
  screenshotLikelihood : Option SqlReal := none
  localCandidateScore : Option SqlReal := none
  /-- The CHECK of the column. -/
  score_range : ∀ score ∈ localCandidateScore, real 0 ≤ score ∧ score ≤ real 100

/-- A row of `photo_analysis`. -/
structure Analysis where
  photoId : String
  analysisFingerprint : Option String := none

inductive ScanStatus where
  | running | completed | completedWithWarnings | cancelled | failed
  deriving DecidableEq

structure ScanRun where
  id : String
  status : ScanStatus
  completedAt : Option String := none

structure Db where
  photos : Table Photo.id
  analyses : List Analysis := []
  jobs : Table Job.id
  jobItems : Table Jobs.Item.id
  /-- `jobs.analysis_fingerprint` -/
  analysisFingerprint : String → Option String := fun _ => none
  batches : Table Batches.Batch.id
  batchItems : Table Batches.Item.id
  scanRuns : List ScanRun := []

/-- `str(value or other)` -/
def orText (value : Option String) (other : String) : String :=
  match value with
  | none => other
  | some text => if text = "" then other else text

namespace Photo

/-- `COALESCE(local_candidate_score,-1)` -/
def candidateScore (photo : Photo) : SqlReal := photo.localCandidateScore.getD (real (-1))

/-- `COALESCE(screenshot_likelihood,0)` -/
def likelihood (photo : Photo) : SqlReal := photo.screenshotLikelihood.getD (real 0)

/-- `COALESCE(p.sha256,'')<>'' AND sha256=p.sha256` -/
def sameContent (photo : Photo) (sha256 : Option String) : Bool := photo.sha256.getD "" != "" && sha256 == photo.sha256

/-- `ORDER BY candidate_score DESC,p.id ASC` -/
def precedes (photo other : Photo) : Bool :=
  other.candidateScore < photo.candidateScore || (photo.candidateScore == other.candidateScore && photo.id ≤ other.id)

end Photo

namespace Db

variable (db : Db) (fingerprint alternate : String) (selectionMode : String)

/-- An analysis with one of two fingerprints exists. -/
def isCurrent (photo : Photo) : Bool :=
  db.analyses.any fun analysis => analysis.photoId == photo.id &&
    (analysis.analysisFingerprint == some fingerprint || analysis.analysisFingerprint == some alternate)

def isAnalyzed (photo : Photo) : Bool := db.analyses.any fun analysis => analysis.photoId == photo.id

/-- `reserved_analysis_sql` -/
def isReserved (photo : Photo) : Bool :=
  (db.jobItems.any fun item =>
    (db.photos.any fun other => item.photoId == some other.id && (other.id == photo.id || photo.sameContent other.sha256)) &&
      item.state.status.unsettled &&
      (db.jobs.find item.jobId).any fun job => job.kind.analyses && (item.state.status == .running || job.state.status.ownsQueue)) ||
  db.batchItems.any fun item =>
    (item.photoId == some photo.id || photo.sameContent (some item.contentSha256)) &&
      (db.batches.find item.batchId).any fun batch => Submission.held batch.state

/-- The predicate of a selection mode. -/
def selects (photo : Photo) : Bool :=
  if selectionMode = "force_all" then true
  else if selectionMode = "stale_only" then !db.isCurrent fingerprint alternate photo && db.isAnalyzed photo
  else !db.isCurrent fingerprint alternate photo

/-- A job failed on the photo with the fingerprint. -/
def hasFailed (photo : Photo) : Bool :=
  db.jobItems.any fun item => item.photoId == some photo.id && item.state.status == .failed &&
    (db.jobs.find item.jobId).any fun job => (db.analysisFingerprint job.id).getD "" == fingerprint

end Db

/-! ### The preview -/

structure SelectionPreview where
  totalActive : Nat
  excluded : Option Nat
  neverAnalyzed : Option Nat
  alreadyCurrent : Option Nat
  alreadyQueued : Option Nat
  pendingTotal : Nat
  screenshotExcluded : Option Nat
  failed : Nat
  stale : Nat
  missing : Nat
  limitedTo : ℤ
  lastSuccessfulScanAt : Option String
  selectionMode : String

/-- `SUM(CASE WHEN ... THEN 1 ELSE 0 END)`, which is NULL over no rows. -/
def sumWhere (rows : List Photo) (condition : Photo → Bool) : Option Nat :=
  if rows.isEmpty then none else some (rows.countP condition)

/-- The end of the last scan that succeeded. -/
def lastSuccessfulScanAt (scanRuns : List ScanRun) : Option String :=
  let ended := scanRuns.filterMap fun run =>
    if run.status = .completed ∨ run.status = .completedWithWarnings then run.completedAt.map fun completedAt => (completedAt, run.id)
    else none
  (ended.mergeSort fun run other => other.1 < run.1 || (run.1 == other.1 && other.2 ≤ run.2)).head?.map Prod.fst

def selectionPreview (db : Db) (analysisFingerprint : Option String) (selectionMode : String) (limit : Option ℤ)
    (alternateAnalysisFingerprint : Option String) : SelectionPreview :=
  let fingerprint := orText analysisFingerprint ""
  let alternate := orText alternateAnalysisFingerprint fingerprint
  let active := db.photos.rows.filter fun photo => photo.lifecycleStatus == .active
  let pendingTotal := (sumWhere active fun photo => photo.eligible && photo.localFeaturesStatus == .complete &&
    photo.likelihood < real 0.95 && db.selects fingerprint alternate selectionMode photo && !db.isReserved photo).getD 0
  { totalActive := active.length
    excluded := sumWhere active fun photo => !photo.eligible
    neverAnalyzed := sumWhere active fun photo => !db.isAnalyzed photo
    alreadyCurrent := sumWhere active (db.isCurrent fingerprint alternate)
    alreadyQueued := sumWhere active db.isReserved
    pendingTotal := pendingTotal
    screenshotExcluded := sumWhere active fun photo => real 0.95 ≤ photo.likelihood
    failed := (sumWhere active fun photo => !db.isCurrent fingerprint alternate photo && db.hasFailed fingerprint photo).getD 0
    stale := (sumWhere active fun photo => db.isAnalyzed photo && !db.isCurrent fingerprint alternate photo).getD 0
    missing := db.photos.count fun photo => photo.lifecycleStatus == .missing
    limitedTo := match limit with
      | some limit => min (pendingTotal : ℤ) (max 0 limit)
      | none => pendingTotal
    lastSuccessfulScanAt := lastSuccessfulScanAt db.scanRuns
    selectionMode := selectionMode }

/-! ### The pages -/

/-- The statement of one page. -/
def pendingPage (db : Db) (fingerprint alternate selectionMode : String) (lastScore : SqlReal) (lastId : String)
    (size : Nat) : List Photo :=
  ((db.photos.rows.filter fun photo => photo.lifecycleStatus == .active && photo.eligible && photo.localFeaturesStatus == .complete &&
    photo.likelihood < real 0.95 &&
    (photo.candidateScore < lastScore || (photo.candidateScore == lastScore && lastId < photo.id)) &&
    db.selects fingerprint alternate selectionMode photo && !db.isReserved photo).mergeSort Photo.precedes).take size

/-- `last_score` and `last_id`; a cursor goes down in scores and up in ids. -/
abbrev Cursor := Lex (OrderDual SqlReal × String)

def cursorOf (photo : Photo) : Cursor := toLex (OrderDual.toDual photo.candidateScore, photo.id)

def start : Cursor := toLex (OrderDual.toDual ⊤, "")

def iterPendingPhotoIds (db : Db) (analysisFingerprint : Option String) (selectionMode : String) (limit : Option ℤ)
    (alternateAnalysisFingerprint : Option String) (fuel : Nat) : Option (List String) :=
  let fingerprint := orText analysisFingerprint ""
  let alternate := orText alternateAnalysisFingerprint fingerprint
  (Keyset.scan cursorOf
    (fun cursor => pendingPage db fingerprint alternate selectionMode (OrderDual.ofDual (ofLex cursor).1) (ofLex cursor).2)
    500 fuel start limit).map fun photos => photos.map Photo.id

end InkTime.Selection
