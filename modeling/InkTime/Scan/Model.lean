import InkTime.Library.Table

/-!
# A batch of scanned photos

`apply_scan_batch` of `PhotoRepository`: which stored photo or earlier item of the batch each item is a copy of, the groups of
duplicates that follow from it, and what the transaction writes of them.
-/

namespace InkTime.Scan

inductive LifecycleStatus where
  | active | missing | excluded | archived | deleted
  deriving DecidableEq

/-- The columns of `photos` that the batch matches and groups by. -/
structure Photo where
  id : String
  libraryId : String
  relativePath : String
  sha256 : Option String := none
  perceptualHash : Option String := none
  lifecycleStatus : LifecycleStatus := .active
  duplicateGroupId : Option String := none
  status : String := "discovered"
  analysisSource : String := "direct"
  deriving DecidableEq

abbrev Store := Table Photo.id

structure Features where
  sha256 : String
  perceptualHash : Option String
  localFeaturesComplete : Bool := true
  deriving DecidableEq

structure PreparedScanPhoto where
  relativePath : String
  features : Features
  deriving DecidableEq

/-- What the batch reads of a stored photo and of an earlier item alike. -/
structure Source where
  id : String
  relativePath : String
  duplicateGroupId : Option String
  deriving DecidableEq

def Photo.source (photo : Photo) : Source := ⟨photo.id, photo.relativePath, photo.duplicateGroupId⟩

/-- An entry of `pending_by_hash`, and of `pending_by_phash` where the item has a perceptual hash. -/
structure Pending where
  source : Source
  sha256 : String
  perceptualHash : Option String
  deriving DecidableEq

structure Plan where
  id : String
  item : PreparedScanPhoto
  existing : Option Photo
  status : String
  analysisSource : String
  duplicateGroupId : Option String
  contentChanged : Bool
  deriving DecidableEq

/-- `plan["duplicate_group_id"] = group`, for the plan with this id. -/
def Plan.regroup (id group : String) (plan : Plan) : Plan := if plan.id = id then { plan with duplicateGroupId := some group } else plan

inductive Action where
  | moved | restored | changed | new
  deriving DecidableEq

structure BatchPhotoResult where
  relativePath : String
  photoId : String
  action : Action
  inherited : Bool
  sha256 : String
  deriving DecidableEq

/-- The local variables of the batch. -/
structure Batch where
  plans : List Plan := []
  pending : List Pending := []
  groupUpdates : String → Option String := fun _ => none
  reservedMoveIds : List String := []
  moveParameters : List (String × String) := []
  changedIds : List String := []
  oldGroups : List String := []
  results : List BatchPhotoResult := []
  /-- Calls of `uuid4` so far -/
  drawn : ℕ := 0

namespace Batch

def pendingByHash (batch : Batch) (sha256 : String) : List Source :=
  (batch.pending.filter fun pending => pending.sha256 = sha256).map Pending.source

def pendingByPhash (batch : Batch) (hash : String) : List Source :=
  (batch.pending.filter fun pending => pending.perceptualHash = some hash).map Pending.source

/-- `plans_by_id[id]["duplicate_group_id"]` -/
def planGroup (batch : Batch) (id : String) : Option String := (batch.plans.find? (·.id = id)).bind Plan.duplicateGroupId

def hasPlan (batch : Batch) (id : String) : Bool := batch.plans.any (·.id = id)

def setPlanGroup (batch : Batch) (id group : String) : Batch := { batch with plans := batch.plans.map (Plan.regroup id group) }

/-- The batch after this many calls of `uuid4`. -/
def withDrawn (batch : Batch) (drawn : ℕ) : Batch := { batch with drawn }

end Batch

/-- A group that is set, the empty text being none. -/
def given (group : Option String) : Option String := group.filter (· ≠ "")

/-! ### Reading -/

def Photo.present (photo : Photo) : Bool := photo.lifecycleStatus = .active || photo.lifecycleStatus = .missing

section

variable (db : Store) (libraryId : String)

def byPath (relativePath : String) : Option Photo :=
  db.rows.find? fun photo => photo.libraryId = libraryId && photo.relativePath = relativePath

def byHash (sha256 : String) : List Photo :=
  db.rows.filter fun photo => photo.libraryId = libraryId && photo.sha256 = some sha256 && photo.present

def byPhash (hash : String) : List Photo :=
  db.rows.filter fun photo => photo.libraryId = libraryId && photo.perceptualHash = some hash && photo.present

/-- `present_candidate_paths.get(path, False)`, where the files that are still present are those that `isFile` finds. -/
def presentCandidate (isFile : String → Bool) (items : List PreparedScanPhoto) (relativePath : String) : Bool :=
  (db.rows.any fun photo => photo.libraryId = libraryId && items.any (fun item => photo.sha256 = some item.features.sha256) &&
    photo.relativePath = relativePath) && isFile relativePath

end

/-! ### The items of a batch -/

/-- What the loop over the items does not change. -/
structure Reading where
  byPath : String → Option Photo
  byHash : String → List Photo
  byPhash : String → List Photo
  present : String → Bool
  uuid : ℕ → String

/-- `set_group` -/
def setGroup (batch : Batch) (source : Source) (group : String) : Batch :=
  if batch.hasPlan source.id then batch.setPlanGroup source.id group
  else if given source.duplicateGroupId = none then
    { batch with groupUpdates := Function.update batch.groupUpdates source.id (some group) }
  else batch

section

variable (reading : Reading) (batch : Batch) (item : PreparedScanPhoto)

def other (existing : Option Photo) (source : Source) : Bool := existing.all fun photo => source.id ≠ photo.id

/-- Photos and earlier items with the content of an item. -/
def exactSources : List Source :=
  ((reading.byHash item.features.sha256).map Photo.source).filter (other (reading.byPath item.relativePath)) ++
    batch.pendingByHash item.features.sha256

/-- Photos and earlier items with the perceptual hash of an item. -/
def nearSources : List Source :=
  match item.features.perceptualHash with
  | none => []
  | some hash =>
    ((reading.byPhash hash).map Photo.source ++ batch.pendingByPhash hash).filter (other (reading.byPath item.relativePath))

/-- Photos that a new path may be the new place of. -/
def movable : List Source :=
  (exactSources reading batch item).filter fun source =>
    source.id ∉ batch.reservedMoveIds && !batch.hasPlan source.id && !reading.present source.relativePath

def eligibleExact : List Source := (exactSources reading batch item).filter fun source => source.id ∉ batch.reservedMoveIds

def duplicateSource : Option Source := (eligibleExact reading batch item ++ nearSources reading batch item).head?

def inherited : Bool := !(eligibleExact reading batch item).isEmpty

/-- The one photo a new path is the new place of. -/
def moveStep (source : Source) : Batch :=
  { batch with
    reservedMoveIds := batch.reservedMoveIds ++ [source.id]
    moveParameters := batch.moveParameters ++ [(item.relativePath, source.id)]
    results := batch.results ++ [⟨item.relativePath, source.id, .moved, false, item.features.sha256⟩] }

def contentChanged (existing : Option Photo) : Bool := existing.any fun photo => photo.sha256 ≠ some item.features.sha256

/-- The status, the source of the analysis, the action and the group of an item before its copies are looked at. -/
structure Draft where
  status : String
  analysisSource : String
  action : Action
  duplicateGroupId : Option String

def freshStatus : String := if item.features.localFeaturesComplete then "preprocessed" else "discovered"

def draft (existing : Option Photo) (inherited : Bool) : Draft :=
  match existing with
  | none => ⟨freshStatus item, if inherited then "inherited" else "direct", .new, none⟩
  | some photo =>
    let action := if photo.lifecycleStatus = .missing then Action.restored else .changed
    if contentChanged item existing then ⟨freshStatus item, if inherited then "inherited" else "direct", action, none⟩
    else
      let source := if photo.analysisSource = "" then "direct" else photo.analysisSource
      let status := if item.features.localFeaturesComplete ∧ photo.status = "discovered" then "preprocessed" else photo.status
      ⟨status, source, action, photo.duplicateGroupId⟩

/-- `str(uuid4())` for a new photo. -/
def photoId (existing : Option Photo) : String :=
  match existing with
  | none => reading.uuid batch.drawn
  | some photo => photo.id

def drawnForId (existing : Option Photo) : ℕ := if existing.isNone then batch.drawn + 1 else batch.drawn

/-- The group of an item with a source: the source's, the item's own, or a new one. -/
def joinedGroup (source : Source) (own : Option String) (drawn : ℕ) : String :=
  ((given source.duplicateGroupId).or (given own)).getD (reading.uuid drawn)

def drawnForGroup (source : Source) (own : Option String) (drawn : ℕ) : ℕ :=
  if ((given source.duplicateGroupId).or (given own)).isNone then drawn + 1 else drawn

/-- The batch with the plan, the pending entry and the result of an item. -/
def addPlan (existing : Option Photo) (draft : Draft) (id : String) (group : Option String) (inherited : Bool) : Batch :=
  let changed := contentChanged item existing
  { batch with
    plans := batch.plans ++ [⟨id, item, existing, draft.status, draft.analysisSource, group, changed⟩]
    pending := batch.pending ++ [⟨⟨id, item.relativePath, group⟩, item.features.sha256, item.features.perceptualHash⟩]
    changedIds := if changed then batch.changedIds ++ [id] else batch.changedIds
    oldGroups := if changed then batch.oldGroups ++ (existing.bind fun photo => given photo.duplicateGroupId).toList else batch.oldGroups
    results := batch.results ++ [⟨item.relativePath, id, draft.action, inherited, item.features.sha256⟩] }

def planStep : Batch :=
  let existing := reading.byPath item.relativePath
  let inherited := inherited reading batch item
  let draft := draft item existing inherited
  let id := photoId reading batch existing
  let drawn := drawnForId batch existing
  match duplicateSource reading batch item with
  | none => addPlan (batch.withDrawn drawn) item existing draft id draft.duplicateGroupId inherited
  | some source =>
    let group := joinedGroup reading source draft.duplicateGroupId drawn
    let joined := setGroup (batch.withDrawn (drawnForGroup source draft.duplicateGroupId drawn)) source group
    addPlan joined item existing draft id (some group) inherited

/-- One round of the loop over the items. -/
def itemStep : Batch :=
  match movable reading batch item with
  | [source] => if (reading.byPath item.relativePath).isNone then moveStep batch item source else planStep reading batch item
  | _ => planStep reading batch item

end

/-- Items of one content share the first group that one of their plans has, or a new one. -/
def backfillHash (reading : Reading) (batch : Batch) (sha256 : String) : Batch :=
  let values := batch.pendingByHash sha256
  if values.length < 2 then batch
  else
    let group := (values.findSome? fun value => given (batch.planGroup value.id)).getD (reading.uuid batch.drawn)
    (values.foldl (fun batch value => batch.setPlanGroup value.id group) batch).withDrawn (batch.drawn + 1)

def planBatch (reading : Reading) (items : List PreparedScanPhoto) : Batch :=
  let batch := items.foldl (itemStep reading) {}
  (batch.pending.map Pending.sha256).eraseDups.foldl (backfillHash reading) batch

/-! ### Writing -/

def updateGroups (batch : Batch) (db : Store) : Store :=
  db.update (fun photo => (batch.groupUpdates photo.id).isSome)
    (fun photo => { photo with duplicateGroupId := batch.groupUpdates photo.id }) fun _ => rfl

/-- `UNIQUE(library_id, relative_path)` -/
def pathFree (db : Store) (libraryId relativePath id : String) : Bool :=
  !db.rows.any fun photo => photo.libraryId = libraryId && photo.relativePath = relativePath && photo.id ≠ id

def movePhoto (libraryId : String) (db : Store) (move : String × String) : Option Store :=
  if pathFree db libraryId move.1 move.2 then
    some (db.update (·.id = move.2) (fun photo => { photo with relativePath := move.1, lifecycleStatus := .active }) fun _ => rfl)
  else none

/-- The features of a photo whose content changed are not those of its new content. -/
def clearChanged (batch : Batch) (db : Store) : Store :=
  db.update (fun photo => photo.id ∈ batch.changedIds) (fun photo => { photo with perceptualHash := none }) fun _ => rfl

def writeUpdate (plan : Plan) (db : Store) : Store :=
  db.update (·.id = plan.id) (fun photo => { photo with
    sha256 := some plan.item.features.sha256
    status := plan.status
    duplicateGroupId := plan.duplicateGroupId
    analysisSource := plan.analysisSource
    lifecycleStatus := if photo.lifecycleStatus = .missing then .active else photo.lifecycleStatus
    perceptualHash :=
      if plan.item.features.localFeaturesComplete then plan.item.features.perceptualHash else photo.perceptualHash }) fun _ => rfl

/-- The row that a plan inserts. -/
def Plan.photo (libraryId : String) (plan : Plan) : Photo where
  id := plan.id
  libraryId := libraryId
  relativePath := plan.item.relativePath
  sha256 := some plan.item.features.sha256
  perceptualHash := plan.item.features.perceptualHash
  duplicateGroupId := plan.duplicateGroupId
  status := plan.status
  analysisSource := plan.analysisSource

def insertPhoto (libraryId : String) (db : Store) (plan : Plan) : Option Store :=
  if pathFree db libraryId plan.item.relativePath plan.id then db.insert (plan.photo libraryId) else none

/-- A group that lost a photo and has one left is none. -/
def clearOldGroups (batch : Batch) (db : Store) : Store :=
  db.update (fun photo => photo.duplicateGroupId.any fun group =>
      group ∈ batch.oldGroups && db.count (fun other => other.duplicateGroupId = some group) < 2)
    (fun photo => { photo with duplicateGroupId := none }) fun _ => rfl

def writeBatch (libraryId : String) (batch : Batch) (db : Store) : Option Store := do
  let moved ← batch.moveParameters.foldlM (movePhoto libraryId) (updateGroups batch db)
  let updated := (batch.plans.filter fun plan => plan.existing.isSome).foldl (fun db plan => writeUpdate plan db) (clearChanged batch moved)
  let inserted ← (batch.plans.filter fun plan => plan.existing.isNone).foldlM (insertPhoto libraryId) updated
  return clearOldGroups batch inserted

/-- `apply_scan_batch`, without an answer where a statement breaks a constraint. -/
def applyScanBatch (isFile : String → Bool) (uuid : ℕ → String) (libraryId : String) (items : List PreparedScanPhoto) (db : Store) :
    Option (Store × List BatchPhotoResult) :=
  if items = [] then some (db, [])
  else
    let reading : Reading := ⟨byPath db libraryId, byHash db libraryId, byPhash db libraryId,
      presentCandidate db libraryId isFile items, uuid⟩
    let batch := planBatch reading items
    (writeBatch libraryId batch db).map fun db => (db, batch.results)

end InkTime.Scan
