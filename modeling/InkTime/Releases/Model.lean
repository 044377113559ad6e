import InkTime.Library.Checked
import InkTime.Library.Durable
import InkTime.Library.Interrupted
import InkTime.Panel.Model

/-!
# Releases and their rollback

`ReleaseCoordinator.rollback` and `_recover_rollback_locked`, over the rows of `releases`, the payload directories, the
pointer files and the rollback intent. A pointer file is the text that `read_text().strip()` gives of it.
-/

namespace InkTime.Releases

open Checked (require orError)
open Durable (Cell)
open Interrupted Interrupted.Program

inductive ReleaseStatus where
  | staged | stagedFailed | published | superseded
  deriving DecidableEq, Repr

inductive ReconciliationStatus where
  | ok | aborted | payloadMissing | payloadPruned
  deriving DecidableEq, Repr

structure ReleaseRow where
  id : String
  renderProfile : String
  status : ReleaseStatus
  publishedAt : Option String
  reconciliationStatus : ReconciliationStatus
  deriving DecidableEq, Repr

/-- An entry of `files` in a manifest; a size that is no count of bytes is `none`. -/
structure FileEntry where
  name : String
  size : Option Nat
  sha256 : Option String
  deriving DecidableEq, Repr

structure Manifest where
  releaseId : String
  renderProfile : Option String
  /-- `none` where the key is missing, `some none` where its value is no text. -/
  releaseKind : Option (Option String)
  /-- `none` where `files` is no list, or an entry no object. -/
  files : Option (List (Option FileEntry))
  deriving DecidableEq, Repr

inductive ManifestFile where
  | missing | unreadable | notAnObject
  | object (manifest : Manifest)
  deriving DecidableEq, Repr

/-- A file by its length and its digest. -/
structure StoredFile where
  size : Nat
  sha256 : String
  deriving DecidableEq, Repr

structure ReleaseDirectory where
  manifest : ManifestFile
  files : List (String × StoredFile)
  deriving DecidableEq, Repr

inductive PointerName where
  | latest
  /-- `latest.<profile>` -/
  | profile (key : String)
  deriving DecidableEq, Repr

structure Intent where
  version : Int
  releaseId : String
  profile : String
  publishedAt : String
  pointers : List (PointerName × Option String)
  deriving DecidableEq, Repr

inductive IntentFile where
  /-- A symbolic link, no file, or more than 64 KiB. -/
  | irregular
  /-- No JSON, or a JSON value without the keys and types of an intent. -/
  | malformed
  | record (intent : Intent)
  deriving DecidableEq, Repr

structure Store where
  releases : List ReleaseRow
  directories : String → Option ReleaseDirectory
  pointers : PointerName → Cell (Option String)
  intent : Cell (Option IntentFile)

def Store.setPointer (s : Store) (name : PointerName) (value : Option String) : Store :=
  { s with pointers := Function.update s.pointers name ((s.pointers name).write value) }

def Store.setIntent (s : Store) (value : Option IntentFile) : Store := { s with intent := s.intent.write value }

def Store.sync (s : Store) : Store := { s with pointers := fun name => (s.pointers name).sync, intent := s.intent.sync }

def Store.pointer (s : Store) (name : PointerName) : Option String := (s.pointers name).current

inductive ReleaseError where
  /-- An exception of a file operation or of a statement. -/
  | failed
  | keyError (key : String)
  | valueError (text : String)
  deriving DecidableEq, Repr

inductive Operation where
  | lock | unlock
  | readFile | select
  | createTemporary | writeTemporary | replace | unlinkTemporary | unlink
  /-- `os.open` and `os.fsync` in `fsync_directory`, whose exceptions are swallowed -/
  | sync
  | closeDirectory
  | begin | update | commit
  /-- After `COMMIT`: the writer lock is released and the connection closed. -/
  | closeTransaction
  deriving DecidableEq, Repr

abbrev Call (α : Type) := Program Operation ReleaseError Store α

def perform (operation : Operation) (effect : Store → Store) : Call Unit := step operation .failed effect

def reading {α : Type} (operation : Operation) (read : Store → α) : Call α := do
  perform operation id
  observe read

/-! ### `release.py` -/

def isReleaseIdCharacter (c : Char) : Bool := c.isAlphanum || c == '.' || c == '_' || c == '-'

/-- `_RELEASE_ID` -/
def isReleaseId (releaseId : String) : Bool :=
  match releaseId.toList with
  | [] => false
  | first :: rest => first.isAlphanum && rest.all isReleaseIdCharacter && rest.length ≤ 127

def isDisplayProfile (key : String) : Bool := [Panel.safe4c, Panel.gdep073e01, Panel.gdey073d46].any (·.key == key)

def getDisplayProfile (key : String) : Except ReleaseError Unit :=
  require (isDisplayProfile key) (.valueError ("RENDER-003 不支援的顯示 Profile：" ++ key))

def isFileName (name : String) : Bool :=
  name ≠ "" && name ≠ "." && name ≠ ".." && name.toList.all fun c => c ≠ '\x00' && c ≠ '/' && c ≠ '\\'

def validateFile (directory : ReleaseDirectory) (entry : Option FileEntry) : Except ReleaseError Unit := do
  let entry ← orError entry (.valueError "RENDER-010 Release 檔案描述不合法")
  require (isFileName entry.name) (.valueError "RENDER-010 Release Payload 不存在")
  let file ← orError (directory.files.lookup entry.name) (.valueError "RENDER-010 Release Payload 不存在")
  let size ← orError entry.size (.valueError "RENDER-010 Release Payload 不存在")
  let digest ← orError entry.sha256 (.valueError "RENDER-010 Release Payload 不存在")
  require (file.size == size) (.valueError "RENDER-010 Release Payload 大小不一致")
  require (file.sha256 == digest) (.valueError "RENDER-010 Release Payload SHA-256 不一致")

def validateFiles (directory : ReleaseDirectory) : List (Option FileEntry) → Except ReleaseError Unit
  | [] => .ok ()
  | entry :: rest => do
    validateFile directory entry
    validateFiles directory rest

def ManifestFile.parse : ManifestFile → Except ReleaseError Manifest
  | .missing => .error (.valueError "RENDER-010 Release Manifest 不存在")
  | .unreadable => .error (.valueError "RENDER-010 Release Manifest 無法解析")
  | .notAnObject => .error (.valueError "RENDER-010 Release Manifest 格式不合法")
  | .object manifest => .ok manifest

def validate (directories : String → Option ReleaseDirectory) (releaseId : String) : Except ReleaseError Manifest := do
  require (isReleaseId releaseId) (.valueError "RENDER-010 Release ID 不合法")
  let directory ← orError (directories releaseId) (.valueError "RENDER-010 Release Manifest 不存在")
  let manifest ← directory.manifest.parse
  require (manifest.releaseId == releaseId) (.valueError "RENDER-010 Release ID 與 Manifest 不一致")
  getDisplayProfile (manifest.renderProfile.getD "")
  let files ← orError manifest.files (.valueError "RENDER-010 Release 沒有 Payload")
  require (!files.isEmpty) (.valueError "RENDER-010 Release 沒有 Payload")
  validateFiles directory files
  return manifest

def validating (releaseId : String) : Call Manifest := do
  let directories ← reading .readFile (·.directories)
  ofExcept (validate directories releaseId)

def fsyncDirectory : Call Unit := do
  (perform .sync Store.sync).ignoring
  perform .closeDirectory id

/-- A temporary file written beside its target and moved over it. -/
def replaceFile (effect : Store → Store) : Call Unit := do
  perform .createTemporary id
  ensuring (do
    perform .writeTemporary id
    perform .replace effect
    fsyncDirectory) (perform .unlinkTemporary id)

def pointerSnapshot (profile : String) (s : Store) : List (PointerName × Option String) :=
  [(.profile profile, s.pointer (.profile profile)), (.latest, s.pointer .latest)]

def checkPointer : PointerName → String → Except ReleaseError Unit
  | .latest, releaseId => require (isReleaseId releaseId) (.valueError "RENDER-010 Pointer Release ID 不合法")
  | .profile key, releaseId => do
    getDisplayProfile key
    require (isReleaseId releaseId) (.valueError "RENDER-010 Pointer Release ID 不合法")

/-- `_write_pointer` -/
def writePointer (name : PointerName) (releaseId : String) : Call Unit := do
  ofExcept (checkPointer name releaseId)
  replaceFile (·.setPointer name (some releaseId))

def restoreEach : List (PointerName × Option String) → Call Unit
  | [] => return ()
  | (name, none) :: rest => do
    perform .unlink (·.setPointer name none)
    restoreEach rest
  | (name, some releaseId) :: rest => do
    writePointer name releaseId
    restoreEach rest

def restorePointers (snapshot : List (PointerName × Option String)) : Call Unit := do
  restoreEach snapshot
  fsyncDirectory

def activateEach : List Manifest → Call Unit
  | [] => return ()
  | manifest :: rest => do
    let _ ← validating manifest.releaseId
    writePointer (.profile (manifest.renderProfile.getD "None")) manifest.releaseId
    activateEach rest

def activateManifests (manifests : List Manifest) : Call Unit := do
  let first ← ofExcept (orError manifests.head? (.valueError "RENDER-010 沒有可啟用的 Release"))
  activateEach manifests
  writePointer .latest first.releaseId

/-! ### `release_coordinator.py` -/

def writeRollbackIntent (intent : Intent) : Call Unit := replaceFile (·.setIntent (some (.record intent)))

def clearRollbackIntent : Call Unit := do
  perform .unlink (·.setIntent none)
  fsyncDirectory

def Intent.covers (intent : Intent) (name : PointerName) : Bool := name == .latest || name == .profile intent.profile

def Intent.valid (intent : Intent) : Bool :=
  isDisplayProfile intent.profile && intent.version == 1
    && (intent.pointers.map (·.1) == [.profile intent.profile, .latest]
      || intent.pointers.map (·.1) == [.latest, .profile intent.profile])
    && isReleaseId intent.releaseId && intent.pointers.all fun pointer => pointer.2.all isReleaseId

def findRelease (releaseId : String) (releases : List ReleaseRow) : Option ReleaseRow := releases.find? (·.id == releaseId)

/-- The row carries the token of the intent. -/
def Intent.committed (intent : Intent) (row : Option ReleaseRow) : Bool :=
  row.any fun row => row.status == .published && row.publishedAt == some intent.publishedAt

def Manifest.isFormal (manifest : Manifest) (profile : String) : Bool :=
  manifest.releaseKind.getD (some "formal") == some "formal" && manifest.renderProfile == some profile

def recoverIntent (intent : Intent) : Call Unit := do
  let row ← reading .select (findRelease intent.releaseId ·.releases)
  if intent.committed row then do
    let manifest ← validating intent.releaseId
    ofExcept (require (manifest.isFormal intent.profile) (.valueError "RENDER-010 回復目標不符，保留待人工核對"))
    activateManifests [manifest]
  else
    restorePointers intent.pointers

def recoverRollbackLocked : Call Bool := do
  let file ← reading .readFile (·.intent.current)
  match file with
  | none => return false
  | some .irregular => raise (.valueError "RENDER-010 回復紀錄不安全，保留待人工核對")
  | some .malformed => raise (.valueError "RENDER-010 回復紀錄無效，保留待人工核對")
  | some (.record intent) => do
    ofExcept (require intent.valid (.valueError "RENDER-010 回復紀錄無效，保留待人工核對"))
    recoverIntent intent
    clearRollbackIntent
    return true

/-- `with release_metadata_guard(root)`; the inner uses are reentrant. -/
def guarded {α : Type} (body : Call α) : Call α := do
  perform .lock id
  body.ensuring (perform .unlock id)

/-- `with database.transaction()`; the statements take effect at `COMMIT`. -/
def transaction (statements : List ReleaseRow → List ReleaseRow) (inside : Call Unit) : Call Unit := do
  perform .begin id
  perform .update id
  inside
  perform .commit fun s => { s with releases := statements s.releases }
  perform .closeTransaction id

def supersedeOthers (profile releaseId : String) (row : ReleaseRow) : ReleaseRow :=
  if row.renderProfile = profile ∧ row.status = .published ∧ row.id ≠ releaseId then { row with status := .superseded }
  else row

def publishAt (releaseId now : String) (row : ReleaseRow) : ReleaseRow :=
  if row.id = releaseId then { row with status := .published, publishedAt := some now } else row

def rollbackStatements (profile releaseId now : String) (releases : List ReleaseRow) : List ReleaseRow :=
  (releases.map (supersedeOthers profile releaseId)).map (publishAt releaseId now)

def ReleaseRow.canRollBack (row : ReleaseRow) : Bool :=
  (row.status == .published || row.status == .superseded) && row.reconciliationStatus ≠ .payloadPruned

def rollbackIntent (row : ReleaseRow) (releaseId now : String) (snapshot : List (PointerName × Option String)) : Intent where
  version := 1
  releaseId := releaseId
  profile := row.renderProfile
  publishedAt := now
  pointers := snapshot

def rollbackTo (row : ReleaseRow) (manifest : Manifest) (releaseId now : String)
    (snapshot : List (PointerName × Option String)) : Call Unit := do
  writeRollbackIntent (rollbackIntent row releaseId now snapshot)
  onError (transaction (rollbackStatements row.renderProfile releaseId now) (activateManifests [manifest])) (do
    restorePointers snapshot
    clearRollbackIntent)
  clearRollbackIntent

/-- `now` is the time at which the intent is written. -/
def rollback (now releaseId : String) : Call Unit :=
  guarded do
    let _ ← recoverRollbackLocked
    let found ← reading .select (findRelease releaseId ·.releases)
    let row ← ofExcept (orError found (.keyError releaseId))
    ofExcept (require row.canRollBack (.valueError "RENDER-012 Release 不是可回復的正式版本"))
    let manifest ← validating releaseId
    ofExcept (require (manifest.isFormal row.renderProfile) (.valueError "RENDER-010 Manifest 與正式版本資料不符"))
    let snapshot ← reading .readFile (pointerSnapshot row.renderProfile)
    rollbackTo row manifest releaseId now snapshot

end InkTime.Releases
