import Mathlib.Data.Prod.Lex
import Mathlib.Data.String.Basic
import InkTime.Library.Texts
import InkTime.Library.Checked
import InkTime.Library.Keyset
import InkTime.Library.Table

/-!
# Retention of historical analyses

`PhotoAnalysisRetentionRepository`: the classes its common table expression sorts the rows of `photo_analysis` into, the
inventory of a dry run, and one batch of deletions with what the foreign keys of the referring tables do to it.
-/

namespace InkTime.Retention

open Texts (strip)
open Checked (require)

/-- The columns of `photo_analysis` that the classification reads. -/
structure AnalysisRow where
  id : ℤ
  photoId : String
  createdAt : String
  analysisFingerprint : Option String := none
  analysisSpecJson : Option String := none
  semanticJson : Option String := none
  deriving DecidableEq

/-- A row of a table that refers to an analysis. -/
structure Reference where
  id : ℤ
  analysisId : Option ℤ
  deriving DecidableEq

structure Store where
  photoAnalysis : Table AnalysisRow.id
  photoReviews : Table Reference.id := Table.empty
  photoReviewEvents : Table Reference.id := Table.empty
  seasonalAnalysisTasks : Table Reference.id := Table.empty

/-- What SQLite's JSON functions say of a text. The type and the value are those at `$.inherited_from.analysis_id`. -/
structure Sqlite where
  jsonValid : String → Bool
  jsonType : String → Option String
  /-- `CAST(json_extract(...) AS INTEGER)` -/
  jsonInteger : String → ℤ

def defaultHistoryPerPhoto : ℕ := 2

def maxDeleteBatchSize : ℤ := 500

def maxCurrentIdentities : ℕ := 8

inductive RetentionError where
  | identityRequired | tooManyIdentities | batchSize | inventoryChanged
  deriving DecidableEq

/-! ### Current identities -/

structure Identities where
  fingerprints : List String
  specs : List String
  deriving DecidableEq

def addKey (keys : List String) (value : String) : List String := if value ∈ keys then keys else keys ++ [value]

/-- `dict.fromkeys`: the first of equal values stays. -/
def fromKeys (values : List String) : List String := values.foldl addKey []

/-- The stripped, distinct and nonempty values. -/
def stripped (values : List String) : List String := fromKeys ((values.map strip).filter (· ≠ ""))

/-- `_identities` -/
def identities (currentFingerprints currentSpecs : List String) : Except RetentionError Identities :=
  let ids : Identities := ⟨stripped currentFingerprints, stripped currentSpecs⟩
  if ids.fingerprints = [] ∧ ids.specs = [] then .error .identityRequired
  else if maxCurrentIdentities < ids.fingerprints.length + ids.specs.length then .error .tooManyIdentities
  else .ok ids

/-! ### Classes -/

/-- `ORDER BY created_at, id` -/
def AnalysisRow.age (row : AnalysisRow) : String ×ₗ ℤ := toLex (row.createdAt, row.id)

/-- `ROW_NUMBER() OVER (PARTITION BY photo_id ORDER BY created_at DESC,id DESC)` -/
def rowNumber (rows : List AnalysisRow) (row : AnalysisRow) : ℕ :=
  1 + rows.countP fun other => decide (other.photoId = row.photoId ∧ row.age < other.age)

/-- The row matches a current identity. -/
def Identities.matching (ids : Identities) (row : AnalysisRow) : Bool :=
  row.analysisFingerprint.any (· ∈ ids.fingerprints) || row.analysisSpecJson.any (· ∈ ids.specs)

/-- `TRIM(text)!=''`: a character other than the space is left. -/
def notBlank (text : String) : Bool := text.toList.any (· ≠ ' ')

/-- A row of `invalid_semantic_photos` -/
def invalidSemantic (sqlite : Sqlite) (row : AnalysisRow) : Bool :=
  row.semanticJson.any fun text => notBlank text && !sqlite.jsonValid text

/-- The id that `inherited_references` takes from a row. -/
def inheritedFrom (sqlite : Sqlite) (row : AnalysisRow) : Option ℤ :=
  row.semanticJson.bind fun text =>
    if sqlite.jsonValid text ∧ sqlite.jsonType text = some "integer" then some (sqlite.jsonInteger text) else none

def isLatest (rows : List AnalysisRow) (row : AnalysisRow) : Bool := rowNumber rows row == 1

def isCurrent (ids : Identities) (rows : List AnalysisRow) (row : AnalysisRow) : Bool :=
  ids.matching row && rowNumber (rows.filter ids.matching) row == 1

def hasInvalidSemantic (sqlite : Sqlite) (rows : List AnalysisRow) (row : AnalysisRow) : Bool :=
  rows.any fun other => other.photoId == row.photoId && invalidSemantic sqlite other

/-- `audit_references` -/
def auditReferences (db : Store) : List ℤ :=
  (db.photoReviews.rows ++ db.photoReviewEvents.rows ++ db.seasonalAnalysisTasks.rows).filterMap Reference.analysisId

def hasAuditReference (db : Store) (row : AnalysisRow) : Bool := row.id ∈ auditReferences db

def hasInheritedReference (sqlite : Sqlite) (rows : List AnalysisRow) (row : AnalysisRow) : Bool :=
  rows.any fun other => inheritedFrom sqlite other == some row.id

inductive RetentionClass where
  | latest | current | invalidSemanticJson | reviewOrEvent | inheritedSource | historicalBuffer | candidate
  deriving DecidableEq

section

variable (sqlite : Sqlite) (ids : Identities) (db : Store)

/-- A row of `historical_rows` -/
def isHistorical (row : AnalysisRow) : Bool :=
  !isLatest db.photoAnalysis.rows row && !isCurrent ids db.photoAnalysis.rows row &&
    !hasInvalidSemantic sqlite db.photoAnalysis.rows row && !hasAuditReference db row &&
      !hasInheritedReference sqlite db.photoAnalysis.rows row

/-- `retention_class` -/
def retentionClass (row : AnalysisRow) : RetentionClass :=
  if isLatest db.photoAnalysis.rows row then .latest
  else if isCurrent ids db.photoAnalysis.rows row then .current
  else if hasInvalidSemantic sqlite db.photoAnalysis.rows row then .invalidSemanticJson
  else if hasAuditReference db row then .reviewOrEvent
  else if hasInheritedReference sqlite db.photoAnalysis.rows row then .inheritedSource
  else if rowNumber (db.photoAnalysis.rows.filter (isHistorical sqlite ids db)) row ≤ defaultHistoryPerPhoto then
    .historicalBuffer
  else .candidate

/-- The candidates, in the order in which they are deleted. -/
def candidates : List AnalysisRow :=
  Keyset.orderBy AnalysisRow.age (db.photoAnalysis.rows.filter fun row => retentionClass sqlite ids db row == .candidate)

end

/-! ### Inventory -/

/-- `_inventory_with_connection`. The digest is of the identities and the candidates. -/
structure Inventory (δ : Type) where
  totalRows : ℕ
  classRows : RetentionClass → ℕ
  candidatePhotos : ℕ
  oldestCandidateCreatedAt : Option String
  newestCandidateCreatedAt : Option String
  candidateSample : List AnalysisRow
  inventoryDigest : δ

variable {δ : Type} [DecidableEq δ] (sqlite : Sqlite) (digest : Identities → List AnalysisRow → δ)

def inventoryWithConnection (ids : Identities) (db : Store) : Inventory δ where
  totalRows := db.photoAnalysis.rows.length
  classRows retained := db.photoAnalysis.rows.countP fun row => retentionClass sqlite ids db row == retained
  candidatePhotos := (candidates sqlite ids db |>.map AnalysisRow.photoId).dedup.length
  oldestCandidateCreatedAt := (candidates sqlite ids db).head?.map AnalysisRow.createdAt
  newestCandidateCreatedAt := (candidates sqlite ids db).getLast?.map AnalysisRow.createdAt
  candidateSample := (candidates sqlite ids db).take 50
  inventoryDigest := digest ids (candidates sqlite ids db)

def inventory (currentFingerprints currentSpecs : List String) (db : Store) : Except RetentionError (Inventory δ) :=
  (identities currentFingerprints currentSpecs).map fun ids => inventoryWithConnection sqlite digest ids db

/-! ### One batch -/

def Reference.refersTo (gone : List ℤ) (reference : Reference) : Bool := reference.analysisId.any (· ∈ gone)

/-- `DELETE FROM photo_analysis WHERE id IN (...)`: reviews and events go with their analysis, a seasonal task loses its
reference. -/
def Store.deleteAnalyses (db : Store) (gone : List ℤ) : Store where
  photoAnalysis := db.photoAnalysis.delete fun row => row.id ∈ gone
  photoReviews := db.photoReviews.delete (Reference.refersTo gone)
  photoReviewEvents := db.photoReviewEvents.delete (Reference.refersTo gone)
  seasonalAnalysisTasks := db.seasonalAnalysisTasks.update (Reference.refersTo gone)
    (fun row => { row with analysisId := none }) fun _ => rfl

/-- `candidate_batch` -/
def candidateBatch (ids : Identities) (batchSize : ℤ) (db : Store) : List ℤ :=
  ((candidates sqlite ids db).take batchSize.toNat).map AnalysisRow.id

/-- The result of `prune_batch`, with the rows it leaves. -/
structure Pruned (δ : Type) where
  store : Store
  deletedRows : ℕ
  candidateRowsBefore : ℕ
  remainingCandidateRows : ℕ
  complete : Bool
  inventory : Inventory δ

def pruneBatch (currentFingerprints currentSpecs : List String) (batchSize : ℤ) (expectedInventoryDigest : δ)
    (db : Store) : Except RetentionError (Pruned δ) := do
  let ids ← identities currentFingerprints currentSpecs
  require (decide (1 ≤ batchSize ∧ batchSize ≤ maxDeleteBatchSize)) .batchSize
  let before := inventoryWithConnection sqlite digest ids db
  require (decide (expectedInventoryDigest = before.inventoryDigest)) .inventoryChanged
  let gone := candidateBatch sqlite ids batchSize db
  let store := db.deleteAnalyses gone
  let after ← inventory sqlite digest ids.fingerprints ids.specs store
  return {
    store
    deletedRows := db.photoAnalysis.affected fun row => row.id ∈ gone
    candidateRowsBefore := before.classRows .candidate
    remainingCandidateRows := after.classRows .candidate
    complete := after.classRows .candidate == 0
    inventory := after }

/-- Batches of these sizes one after another, each with the digest of the inventory before it. -/
def pruneBatches (currentFingerprints currentSpecs : List String) : List ℤ → Store → Except RetentionError Store
  | [], db => .ok db
  | batchSize :: rest, db => do
    let before ← inventory sqlite digest currentFingerprints currentSpecs db
    let pruned ← pruneBatch sqlite digest currentFingerprints currentSpecs batchSize before.inventoryDigest db
    pruneBatches currentFingerprints currentSpecs rest pruned.store

end InkTime.Retention
