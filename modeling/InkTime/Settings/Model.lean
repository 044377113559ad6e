import InkTime.Settings.Definitions
import InkTime.Library.Table
import InkTime.Schedule.Rules

/-!
# Settings and their snapshots

`SettingsRepository`: an update is normalised, checked as a whole and written with a snapshot of what was there before; a rollback is an
update with the values of a snapshot.
-/

namespace InkTime.Settings

open Json (Value Text Double)
open Texts (strip)
open Checked (require orError)

inductive SettingError where
  /-- `KeyError`: no such setting or snapshot -/
  | unknown (key : String)
  /-- `PermissionError` -/
  | forbidden (message : String)
  /-- `ValueError` -/
  | value (message : String)
  /-- `TypeError` -/
  | type
  /-- `IntegrityError` -/
  | integrity
  deriving DecidableEq

structure ParsedUrl where
  scheme : String
  netloc : String
  username : Option String
  password : Option String
  fragment : String
  deriving DecidableEq

/-- What Python does with numbers, URLs and time zones. -/
structure Runtime where
  /-- `float(value)` of a number, without an answer where it overflows -/
  float : ℚ → Option ℚ
  /-- `float(text)`: no answer where it raises, and no number where the result is not finite -/
  parseFloat : String → Option (Option ℚ)
  urlparse : String → Option ParsedUrl
  zone : String → Bool
  float_float : ∀ value double, float value = some double → float double = some double
  float_parseFloat : ∀ text double, parseFloat text = some (some double) → float double = some double

structure SettingRow where
  key : String
  value : SettingValue
  updatedBy : Option String := none
  deriving DecidableEq

structure Snapshot where
  id : String
  createdAt : ℤ
  before : List (String × SettingValue)
  after : List (String × SettingValue)
  changedKeys : List String
  rollbackSource : Option String
  deriving DecidableEq

structure Db where
  settings : Table SettingRow.key
  snapshots : Table Snapshot.id

/-! ### Normalisation -/

section

variable (rt : Runtime)

/-- A text that matches `[+-]?\d+`, as `int` reads it. -/
def intOf (text : String) : Option ℤ :=
  let number (digits : List Char) : Option ℤ :=
    if digits = [] then none
    else (digits.mapM Schedule.decimal).map fun digits => (digits.foldl (fun total digit => total * 10 + digit) 0 : ℕ)
  match (strip text).toList with
  | '-' :: digits => (number digits).map (-·)
  | '+' :: digits => number digits
  | digits => number digits

def trueWords : List String := ["1", "true", "on", "yes"]

def falseWords : List String := ["0", "false", "off", "no"]

/-- A value of the type of a setting. A text with an unpaired surrogate cannot be stored. -/
def convert (key : String) (type : ValueType) (raw : Value) : Except SettingError SettingValue :=
  match type with
  | .integer =>
    match raw with
    | .int value => .ok (.num value)
    | .float (.finite value) => if value.isInt then .ok (.num value) else .error (.value s!"{key} 必須是整數")
    | .str (.utf8 text) =>
      match intOf text with
      | some value => .ok (.num value)
      | none => .error (.value s!"{key} 必須是整數")
    | _ => .error (.value s!"{key} 必須是整數")
  | .number =>
    match raw with
    | .int value =>
      match rt.float value with
      | some double => .ok (.num double)
      | none => .error (.value s!"{key} 必須是數字")
    | .float (.finite value) =>
      match rt.float value with
      | some double => .ok (.num double)
      | none => .error (.value s!"{key} 必須是數字")
    | .float _ => .error (.value s!"{key} 必須是有限數字")
    | .str (.utf8 text) =>
      match rt.parseFloat text with
      | some (some double) => .ok (.num double)
      | some none => .error (.value s!"{key} 必須是有限數字")
      | none => .error (.value s!"{key} 必須是數字")
    | _ => .error (.value s!"{key} 必須是數字")
  | .boolean =>
    match raw with
    | .bool value => .ok (.bool value)
    | .str (.utf8 text) =>
      if text.toLower ∈ trueWords then .ok (.bool true)
      else if text.toLower ∈ falseWords then .ok (.bool false)
      else .error (.value s!"{key} 必須是布林值")
    | _ => .error (.value s!"{key} 必須是布林值")
  | .string =>
    match raw with
    | .str (.utf8 text) => .ok (.text text)
    | _ => .error (.value s!"{key} 必須是文字")

def choiceText : SettingValue → String
  | .bool value => if value then "True" else "False"
  | .num value => toString value.num
  | .text value => value

def choiceTexts (definition : Definition) : String := "、".intercalate ((definition.choices.getD []).map choiceText)

def isClock (text : String) : Bool :=
  match text.toList.splitOn ':' with
  | [hours, minutes] =>
    hours.length = 2 && minutes.length = 2 &&
      ((hours.mapM Schedule.decimal).any fun digits => digits.foldl (fun total digit => total * 10 + digit) 0 ≤ 23) &&
      (minutes.mapM Schedule.decimal).any fun digits => digits.foldl (fun total digit => total * 10 + digit) 0 ≤ 59
  | _ => false

def isHttpsUrl (text : String) : Bool :=
  (rt.urlparse text).any fun parsed =>
    parsed.scheme = "https" && parsed.netloc ≠ "" && parsed.username.isNone && parsed.password.isNone && parsed.fragment = ""

def checkLength (key : String) (definition : Definition) : SettingValue → Except SettingError Unit
  | .text text => do
    require (definition.minLength.all fun least => least ≤ (strip text).length)
      (.value s!"{key} 內容不可少於 {definition.minLength.getD 0} 個字元")
    require (definition.maxLength.all fun most => text.length ≤ most)
      (.value s!"{key} 內容不可超過 {definition.maxLength.getD 0} 個字元")
  | _ => .ok ()

def checkText (key : String) (definition : Definition) : SettingValue → Except SettingError Unit
  | .text text => do
    require (definition.pattern ≠ some .timeHhmm || isClock text) (.value s!"{key} 必須使用 00:00 到 23:59 格式")
    require (definition.pattern ≠ some .optionalHttpsUrl || text = "" || isHttpsUrl rt text)
      (.value s!"{key} 必須是無帳密與 Fragment 的完整 https:// URL")
    if key = "display.weekday_times" ∨ key = "display.weekend_times" then
      let _ ← (Schedule.validateOfflineSchedule
        ((text.toList.splitOn ',').map fun item => some (String.ofList item)) 16 30).mapError fun refused => .value refused.message
    require (!(key = "general.timezone" || key = "device.default_timezone") || rt.zone text) (.value s!"{key} 不是有效的 IANA 時區")
  | _ => .ok ()

def inRange (definition : Definition) : SettingValue → Bool
  | .num value => (definition.min.all fun least => least ≤ value) && definition.max.all fun most => value ≤ most
  | _ => true

def check (key : String) (definition : Definition) (value : SettingValue) : Except SettingError Unit := do
  checkLength key definition value
  require (definition.choices.all fun choices => value ∈ choices)
    (.value s!"{key} 只允許：{choiceTexts definition}")
  checkText rt key definition value
  require (inRange definition value) (.value s!"{key} 超出合法範圍")

/-- `_coerce` -/
def coerce (key : String) (raw : Value) : Except SettingError SettingValue := do
  let definition ← orError (definitionOf key) (.unknown key)
  let value ← convert rt key definition.type raw
  check rt key definition value
  return value

/-- The value as it comes back from JSON. -/
def SettingValue.raw : SettingValue → Value
  | .bool value => .bool value
  | .num value => if value.isInt then .int value.num else .float (.finite value)
  | .text value => .str (.utf8 value)

/-! ### Checks of all settings -/

/-- A number in a comparison, where a text is a `TypeError`. -/
def SettingValue.number : SettingValue → Except SettingError ℚ
  | .bool value => .ok (if value then 1 else 0)
  | .num value => .ok value
  | .text _ => .error .type

def unsigned : List Char → List Char
  | '-' :: digits => digits
  | '+' :: digits => digits
  | digits => digits

/-- What `int` reads of a text: `intOf`, and single underscores between digits. -/
def intLiteral (text : String) : Option ℤ :=
  let chars := (strip text).toList
  if [] ∈ (unsigned chars).splitOn '_' then none else intOf (String.ofList (chars.filter fun char => char ≠ '_'))

/-- `int(value)` -/
def SettingValue.int : SettingValue → Except SettingError ℤ
  | .bool value => .ok (if value then 1 else 0)
  | .num value => .ok (if 0 ≤ value then ⌊value⌋ else ⌈value⌉)
  | .text digits => orError (intLiteral digits) (.value "invalid literal for int()")

/-- `bool(value)` -/
def SettingValue.truthy : SettingValue → Bool
  | .bool value => value
  | .num value => value ≠ 0
  | .text content => content ≠ ""

/-- A date that `\d{4}-\d{2}-\d{2}` matches and `strptime` reads. -/
def isAnchor (text : String) : Bool :=
  match text.toList with
  | [y1, y2, y3, y4, '-', m1, m2, '-', d1, d2] =>
    let digits (chars : List Char) : Option ℕ :=
      (chars.mapM Schedule.decimal).map fun digits => digits.foldl (fun total digit => total * 10 + digit) 0
    match digits [y1, y2, y3, y4], digits [m1, m2], digits [d1, d2] with
    | some year, some month, some day =>
      let leap := (year % 4 = 0 && year % 100 ≠ 0) || year % 400 = 0
      let days := if month = 2 then (if leap then 29 else 28) else if month ∈ [4, 6, 9, 11] then 30 else 31
      1 ≤ year && '0' ≤ m1 && m1 ≤ '1' && '0' ≤ m2 && m2 ≤ '9' && '0' ≤ d1 && d1 ≤ '3' && (d1 = '1' || d1 = '2' || '0' ≤ d2 && d2 ≤ '9') &&
        1 ≤ month && month ≤ 12 && 1 ≤ day && day ≤ days
    | _, _, _ => false
  | _ => false

def valueAt (values : String → Option SettingValue) (key : String) : Except SettingError SettingValue :=
  orError (values key) (.unknown key)

def validateCaptionRanges (values : String → Option SettingValue) : Except SettingError Unit := do
  let sideMinimum ← (← valueAt values "analysis.side_caption_min_chars").int
  let sideUpper ← (← valueAt values "analysis.side_caption_max_chars").int
  require (sideCaptionMinChars ≤ sideMinimum && sideMinimum ≤ sideUpper && sideUpper ≤ sideCaptionMaxChars)
    (.value "analysis.side_caption 長度必須符合 1 ≤ min ≤ max ≤ 20")

/-- `_validate_all` -/
def validateAll (values : String → Option SettingValue) : Except SettingError Unit := do
  validateCaptionRanges values
  let anchor ← valueAt values "openai_budget.cycle_anchor"
  require (match anchor with
    | .text text => isAnchor text
    | _ => false) (.value "OpenAI 週期起算日須為有效的 YYYY-MM-DD 日期")
  let warning ← (← valueAt values "openai_budget.warning_percent").number
  let stop ← (← valueAt values "openai_budget.stop_percent").number
  require (warning ≤ stop) (.value "OpenAI 提醒比例不可高於暫停比例")
  let mode ← valueAt values "analysis.openai_backfill_mode"
  let enabled ← valueAt values "analysis.openai_backfill_enabled"
  let consent ← valueAt values "analysis.openai_batch_consent"
  require (!(mode = .text "batch" && enabled.truthy && !consent.truthy)) (.value "開啟自動 Batch 前須明確同意 Files 暫存私人縮圖")
  let days ← (← valueAt values "observability.activity_retention_days").int
  require (7 ≤ days) (.value "重要 Activity 至少保留 7 天，以保護錯誤追蹤與安全回復")
  let rows ← (← valueAt values "observability.activity_max_rows").int
  require (1000 ≤ rows) (.value "Activity 最大列數不得低於 1000")

/-! ### Updates -/

def aiMode : String := "analysis.ai_mode"

def executionMode : String := "analysis.execution_mode"

def prefilterEnabled : String := "analysis.prefilter_enabled"

/-- `legacy_execution_mode`; a value of another type than text names no mode. -/
def legacyExecutionMode (mode : SettingValue) (localProcessingEnabled : Bool) : String :=
  if mode = .text "on_demand" then "local_with_manual_ai"
  else if mode = .text "top_candidates" ∨ mode = .text "eligible" ∨ mode = .text "full_library" then "automatic_ai"
  else if localProcessingEnabled then "local_only"
  else "disabled"

/-- `_values_from_connection(connection).get(key)` -/
def valueOf (db : Db) (key : String) : Option SettingValue :=
  ((db.settings.find key).map SettingRow.value).or ((definitionOf key).map Definition.default)

def normalizeEntry (rejectControlCenter : Bool) (entry : String × Value) : Except SettingError (String × SettingValue) := do
  let definition ← orError (definitionOf entry.1) (.unknown entry.1)
  require (!(rejectControlCenter && definition.controlCenter)) (.forbidden entry.1)
  require (runtimeWired entry.1) (.forbidden s!"{entry.1} 尚未接上 Runtime，僅供唯讀")
  let value ← coerce rt entry.1 entry.2
  return (entry.1, value)

/-- An update of the AI mode alone is one of the execution mode. -/
def withExecutionMode (normalized : List (String × SettingValue)) : List (String × SettingValue) :=
  match normalized.lookup aiMode, normalized.lookup executionMode with
  | some mode, none =>
    normalized ++ [(executionMode, .text (legacyExecutionMode mode ((normalized.lookup prefilterEnabled).all SettingValue.truthy)))]
  | _, _ => normalized

/-- `current | normalized` -/
def merged (current : String → Option SettingValue) (normalized : List (String × SettingValue)) (key : String) : Option SettingValue :=
  (normalized.lookup key).or (current key)

def changes (current : String → Option SettingValue) (normalized : List (String × SettingValue)) : List (String × SettingValue) :=
  normalized.filter fun entry => current entry.1 ≠ some entry.2

def prepareUpdates (rejectControlCenter : Bool) (current : String → Option SettingValue) (updates : List (String × Value)) :
    Except SettingError (List (String × SettingValue)) := do
  let sent ← updates.mapM (normalizeEntry rt rejectControlCenter)
  let normalized := withExecutionMode sent
  validateAll (merged current normalized)
  return changes current normalized

/-! ### Snapshots -/

/-- `ORDER BY created_at DESC, id DESC` -/
def newerFirst (first second : Snapshot) : Prop :=
  second.createdAt < first.createdAt ∨ second.createdAt = first.createdAt ∧ second.id ≤ first.id

instance : DecidableRel newerFirst := fun first second =>
  inferInstanceAs (Decidable (second.createdAt < first.createdAt ∨ second.createdAt = first.createdAt ∧ ¬first.id < second.id))

/-- The latest rollback and the snapshot that it went back to. -/
def protectedIds (rows : List Snapshot) : Finset String :=
  match rows.find? fun row => row.rollbackSource.isSome with
  | some latest => insert latest.id latest.rollbackSource.toFinset
  | none => ∅

def keepIds (limit : ℕ) : Finset String → List Snapshot → Finset String
  | keep, [] => keep
  | keep, row :: rest => if limit ≤ keep.card then keep else keepIds limit (insert row.id keep) rest

def Snapshot.forget (removable : List String) (row : Snapshot) : Snapshot :=
  { row with rollbackSource := row.rollbackSource.filter (· ∉ removable) }

/-- Snapshots beyond the limit are removed, and no snapshot names one that is. -/
def pruneSnapshots (snapshots : Table Snapshot.id) : Table Snapshot.id :=
  let rows := snapshots.rows.insertionSort newerFirst
  if settingsSnapshotLimit < rows.length then
    let keep := keepIds settingsSnapshotLimit (protectedIds rows) rows
    let removable := (rows.map Snapshot.id).filter (· ∉ keep)
    (snapshots.update (fun _ => true) (Snapshot.forget removable) fun _ => rfl).delete fun row => row.id ∈ removable
  else snapshots

structure Call where
  now : ℤ
  snapshotId : String
  changedBy : String
  rollbackSource : Option String := none
  rejectControlCenter : Bool := false

/-- The keys of the dictionary, each once. -/
def snapshotKeys : List String := ((settingDefinitions.map Prod.fst).filter snapshotAllowed).dedup

/-- The values of a snapshot, in the order of their keys. -/
def snapshotValues (values : String → Option SettingValue) : List (String × SettingValue) :=
  (snapshotKeys.insertionSort (· ≤ ·)).filterMap fun key => (values key).map (key, ·)

def createSnapshot (call : Call) (before after : String → Option SettingValue) (changed : List (String × SettingValue))
    (snapshots : Table Snapshot.id) : Except SettingError (Table Snapshot.id) := do
  -- the foreign key
  require (call.rollbackSource.all fun source => (snapshots.find source).isSome || source = call.snapshotId) .integrity
  let added ← orError (snapshots.insert ⟨call.snapshotId, call.now, snapshotValues before, snapshotValues after,
    (changed.map Prod.fst).insertionSort (· ≤ ·), call.rollbackSource⟩) .integrity
  return pruneSnapshots added

/-! ### Writing -/

structure UpdateResult where
  changedKeys : List String
  snapshotId : Option String
  deriving DecidableEq

def writeSetting (changedBy : String) (settings : Table SettingRow.key) (entry : String × SettingValue) : Table SettingRow.key :=
  settings.update (·.key = entry.1) (fun row => { row with
    value := entry.2
    updatedBy := if (definitionOf entry.1).any fun definition => entry.2 = definition.default then none else some changedBy }) fun _ => rfl

def updateManyInTransaction (call : Call) (updates : List (String × Value)) (db : Db) : Except SettingError (Db × UpdateResult) := do
  let normalized ← updates.mapM fun entry => (coerce rt entry.1 entry.2).map fun value => (entry.1, value)
  validateAll (merged (valueOf db) normalized)
  let actual := changes (valueOf db) normalized
  if actual = [] then return (db, ⟨[], none⟩)
  let snapshots ← createSnapshot call (valueOf db) (merged (valueOf db) normalized) actual db.snapshots
  return (⟨actual.foldl (writeSetting call.changedBy) db.settings, snapshots⟩,
    ⟨(actual.map Prod.fst).insertionSort (· ≤ ·), some call.snapshotId⟩)

def updateMany (call : Call) (updates : List (String × Value)) (db : Db) : Except SettingError (Db × UpdateResult) := do
  let changed ← prepareUpdates rt call.rejectControlCenter (valueOf db) updates
  if changed = [] then return (db, ⟨[], none⟩)
  updateManyInTransaction rt call (changed.map fun entry => (entry.1, entry.2.raw)) db

/-! ### Rollback -/

structure Preview where
  updates : List (String × SettingValue)
  unknownKeys : List String
  unsupportedKeys : List String
  sensitiveUnrestorableKeys : List String
  deriving DecidableEq

/-- Settings that no rollback restores. -/
def unsupported (key : String) : Bool := (definitionOf key).any fun definition => definition.controlCenter || !runtimeWired key

/-- The values of a snapshot that a rollback sends. -/
def restorable (target : Snapshot) (db : Db) : List (String × SettingValue) :=
  target.before.filter fun entry =>
    entry.1 ∈ target.changedKeys && (definitionOf entry.1).isSome && !unsupported entry.1 && snapshotAllowed entry.1 &&
      valueOf db entry.1 ≠ some entry.2

def rollbackPreview (snapshotId : String) (db : Db) : Except SettingError Preview := do
  let target ← orError (db.snapshots.find snapshotId) (.unknown snapshotId)
  let known (key : String) : Bool := (definitionOf key).isSome
  let recorded := (target.changedKeys ++ target.before.map Prod.fst ++ target.after.map Prod.fst).dedup
  let changed ← prepareUpdates rt false (valueOf db) ((restorable target db).map fun entry => (entry.1, entry.2.raw))
  return {
    updates := changed
    unknownKeys := (recorded.filter fun key => !known key).insertionSort (· ≤ ·)
    unsupportedKeys := (target.changedKeys.filter fun key => known key && unsupported key).insertionSort (· ≤ ·)
    sensitiveUnrestorableKeys := (target.changedKeys.filter fun key => known key && !snapshotAllowed key).insertionSort (· ≤ ·) }

def rollback (snapshotId : String) (call : Call) (db : Db) : Except SettingError (Db × UpdateResult) := do
  let preview ← rollbackPreview rt snapshotId db
  updateMany rt { call with rollbackSource := some snapshotId, rejectControlCenter := false }
    (preview.updates.map fun entry => (entry.1, entry.2.raw)) db

end

end InkTime.Settings
