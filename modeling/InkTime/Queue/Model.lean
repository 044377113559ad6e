import InkTime.Library.Checked
import InkTime.Library.Table

/-!
# The device content queue

The tables `device_content_queues`, `device_content_queue_items` and `device_content_queue_events`, with
what the queue calls of `ResilienceRepository` read of `devices`, `releases` and the offline schedules.
Instants are microseconds since the epoch: the server writes its own times as UTC `isoformat` texts, and these sort
as the instants do. `display_after`, `expires_at` and `ack_deadline` of an enqueued row are stored as the caller gives
them and compared as texts; the number stands for the first instant that sorts at or after the text.
-/

namespace InkTime.Queue

inductive ItemStatus where
  | pending | ready | available | downloaded | acknowledged | displayed | failed | expired | cancelled
  deriving DecidableEq, Repr

/-- `QUEUE_EVENTS` -/
inductive Event where
  | manifestReceived | downloadStarted | downloadCompleted | hashVerified
  | displayStarted | displayCompleted | displayFailed
  deriving DecidableEq, Repr

/-- `QUEUE_STATUS_FOR_EVENT` -/
def Event.status : Event → ItemStatus
  | .manifestReceived | .downloadStarted => .available
  | .downloadCompleted => .downloaded
  | .hashVerified | .displayStarted => .acknowledged
  | .displayCompleted => .displayed
  | .displayFailed => .failed

/-- `QUEUE_ALLOWED_EVENTS` -/
def ItemStatus.allowedEvents : ItemStatus → List Event
  | .ready => [.manifestReceived, .downloadStarted, .displayFailed]
  | .available => [.manifestReceived, .downloadStarted, .downloadCompleted, .displayFailed]
  | .downloaded => [.downloadCompleted, .hashVerified, .displayFailed]
  | .acknowledged => [.hashVerified, .displayStarted, .displayCompleted, .displayFailed]
  | .displayed => [.displayCompleted]
  | .failed | .expired | .cancelled | .pending => []

/-- `('PENDING','READY','AVAILABLE','DOWNLOADED','ACKNOWLEDGED')` -/
def ItemStatus.active : ItemStatus → Bool
  | .pending | .ready | .available | .downloaded | .acknowledged => true
  | _ => false

/-- `('PENDING','READY','AVAILABLE')` -/
def ItemStatus.evictable : ItemStatus → Bool
  | .pending | .ready | .available => true
  | _ => false

/-- `('DISPLAYED','CANCELLED','EXPIRED','FAILED')` -/
def ItemStatus.terminal : ItemStatus → Bool
  | .displayed | .cancelled | .expired | .failed => true
  | _ => false

inductive DeliveryMode where
  | onlineQueue | offlineSchedule
  deriving DecidableEq

inductive DeviceMode where
  | legacyOnline | stockCompat | inktimeOfflineSchedule
  deriving DecidableEq

inductive ReleaseStatus where
  | published | superseded | stagedFailed | other
  deriving DecidableEq

/-- Release ids are never empty, so that an unset pointer is the only falsy one. -/
@[ext] structure ReleaseId where
  text : String
  nonempty : text ≠ ""
  deriving DecidableEq

lemma r1_nonempty : "r1" ≠ "" := by decide

lemma r2_nonempty : "r2" ≠ "" := by decide

structure Device where
  id : String
  enabled : Bool := true
  deliveryMode : DeviceMode := .legacyOnline
  offlinePrefetchAllowed : Bool := false
  panelProfile : String := ""

structure Release where
  id : ReleaseId
  status : ReleaseStatus := .published
  payloadPruned : Bool := false
  renderProfile : String := ""

structure OfflineSchedule where
  id : String
  deviceId : String

structure OfflineSlot where
  id : String
  scheduleId : String
  queueItemId : String
  showAt : Nat

structure ItemState where
  status : ItemStatus := .ready
  priority : Int := 100
  ackDeadline : Option Nat := none
  downloadedAt : Option Nat := none
  displayedAt : Option Nat := none
  retryCount : Nat := 0
  lastErrorCode : Option String := none
  updatedAt : Nat := 0
  deriving DecidableEq

/-- The columns no statement rewrites, and the `state` of those that change. -/
structure Item where
  id : String
  deviceId : String
  releaseId : ReleaseId
  position : Int
  displayAfter : Option Nat := none
  expiresAt : Option Nat := none
  idempotencyKey : Option String := none
  deliveryMode : DeliveryMode := .onlineQueue
  offlinePrefetchAllowed : Bool := false
  offlineSlot : Option String := none
  offlineScheduleId : Option String := none
  terminalAckRetention : Option Nat := none
  createdAt : Nat := 0
  state : ItemState := {}
  deriving DecidableEq

structure HeadState where
  depth : Int := 3
  queueVersion : Int := 0
  currentReleaseId : Option ReleaseId := none
  currentDisplayedAt : Option Nat := none
  lastKnownGoodReleaseId : Option ReleaseId := none
  lastKnownGoodDisplayedAt : Option Nat := none
  nextQueuedReleaseId : Option ReleaseId := none
  emergencyFallbackReleaseId : Option ReleaseId := none
  deriving DecidableEq

/-- A row of `device_content_queues`. -/
structure Head where
  deviceId : String
  state : HeadState := {}
  deriving DecidableEq

/-- A row of `device_content_queue_events`; of the stored payload only `release_id` is read back. -/
structure EventRow where
  itemId : String
  event : Event
  key : String
  deviceId : String
  releaseId : Option String := none
  createdAt : Nat := 0
  deriving DecidableEq

/-- `UNIQUE(queue_item_id,event_type,idempotency_key)` -/
def EventRow.identity (row : EventRow) : String × Event × String := (row.itemId, row.event, row.key)

structure Db where
  devices : Table Device.id
  releases : Table Release.id
  schedules : Table OfflineSchedule.id
  slots : Table OfflineSlot.id
  items : Table Item.id
  heads : Table Head.deviceId
  events : Table EventRow.identity

inductive QueueError where
  | depthOutOfRange
  | unknownDevice
  | keyTooLong
  | illegalDeliveryMode
  | prefetchOnOnline
  | prefetchMissing
  | scheduleMissing
  | scheduleOnOnline
  | idempotencyConflict
  | noQueue
  | offlineNotEnabled
  | scheduleOfOtherDevice
  | onlineOnOfflineDevice
  | incompatibleRelease
  | offlineSlotByPrepareDay
  | integrity
  | ackIncomplete
  | jsonField (message : String)
  | itemOfOtherDevice
  | replayRelease
  | replayDevice
  | staleVersion
  | illegalTransition
  | epochNotDelayed
  | slotMissing
  | epochOutOfRange
  | sameDisplayTime
  deriving DecidableEq

def QueueError.message : QueueError → String
  | .depthOutOfRange => "QUEUE-001 Queue 深度必須介於 1 到 24"
  | .unknownDevice => "KeyError"
  | .keyTooLong => "QUEUE-005 Idempotency-Key 過長"
  | .illegalDeliveryMode => "QUEUE-005 delivery_mode 不合法"
  | .prefetchOnOnline => "QUEUE-005 一般 online Queue 不得標記 offline_prefetch_allowed"
  | .prefetchMissing => "QUEUE-005 offline Schedule Queue 必須標記 offline_prefetch_allowed"
  | .scheduleMissing => "QUEUE-005 offline Schedule Queue 必須綁定 offline_schedule_id"
  | .scheduleOnOnline => "QUEUE-005 online Queue 不得綁定 offline_schedule_id"
  | .idempotencyConflict => "IDEMPOTENCY_CONFLICT"
  | .noQueue => "QUEUE-001 必須先建立裝置 Queue"
  | .offlineNotEnabled => "QUEUE-005 裝置未啟用離線排程或 Prefetch"
  | .scheduleOfOtherDevice => "QUEUE-005 offline_schedule_id 不屬於此裝置"
  | .onlineOnOfflineDevice => "QUEUE-005 Enhanced offline 裝置不得接收 online Queue"
  | .incompatibleRelease => "QUEUE-002 Release 不存在或不是已發布狀態"
  | .offlineSlotByPrepareDay => "QUEUE-005 offline Slot 只能由 prepare_day() 建立"
  | .integrity => "UNIQUE constraint failed"
  | .ackIncomplete => "QUEUE-001 ACK 缺少 queue_item_id、event 或 idempotency_key"
  | .jsonField message => message
  | .itemOfOtherDevice => "QUEUE-002 Queue Item 不屬於此裝置"
  | .replayRelease => "QUEUE-005 ACK replay release_id 身分不一致"
  | .replayDevice => "QUEUE-002 ACK replay 裝置身分不一致"
  | .staleVersion => "QUEUE-003 ACK Queue 版本已過期"
  | .illegalTransition => "QUEUE-004 ACK 狀態轉移不合法"
  | .epochNotDelayed => "QUEUE-005 event_epoch 僅可用於 delayed_terminal ACK"
  | .slotMissing => "QUEUE-005 delayed_terminal 缺少離線 Slot 身分"
  | .epochOutOfRange => "QUEUE-005 event_epoch 超出離線顯示時間範圍"
  | .sameDisplayTime => "QUEUE-005 相同 displayed_at 不可綁定不同 Release"

/-- A repository call: the new tables and a result, or an exception after a rollback. -/
abbrev Outcome (α : Type) := Except QueueError (Db × α)

/-- The tables after a call; an exception leaves them as they were. -/
def Outcome.after {α : Type} (outcome : Outcome α) (db : Db) : Db :=
  match outcome with
  | .ok (db', _) => db'
  | .error _ => db

@[simp] lemma after_ok {α : Type} (db db' : Db) (result : α) : Outcome.after (.ok (db', result)) db = db' := rfl

@[simp] lemma after_error {α : Type} (db : Db) (error : QueueError) :
    Outcome.after (.error error : Outcome α) db = db := rfl

def statusOf (db : Db) (itemId : String) : Option ItemStatus := (db.items.find itemId).map fun item => item.state.status

namespace Db

/-! ### Statements -/

/-- `UPDATE device_content_queue_items SET ... WHERE ...` -/
def setItems (db : Db) (matching : Item → Bool) (set : ItemState → ItemState) : Db :=
  { db with items := db.items.update matching (fun item => { item with state := set item.state }) fun _ => rfl }

/-- `UPDATE device_content_queues SET ... WHERE device_id=?` -/
def setHead (db : Db) (deviceId : String) (set : HeadState → HeadState) : Db :=
  { db with
    heads := db.heads.update (fun head => head.deviceId == deviceId)
      (fun head => { head with state := set head.state }) fun _ => rfl }

/-- `INSERT OR IGNORE INTO device_content_queues` -/
def ensureHead (db : Db) (deviceId : String) (depth : Int) : Db :=
  match db.heads.insert { deviceId, state := { depth } } with
  | none => db
  | some heads => { db with heads }

def itemsOf (db : Db) (deviceId : String) : List Item := db.items.rows.filter fun item => item.deviceId == deviceId

/-- `COALESCE(MAX(position),0)+1` -/
def nextPosition (db : Db) (deviceId : String) : Int :=
  (((db.itemsOf deviceId).map Item.position).max?).getD 0 + 1

/-- Active rows of the device for the release. -/
def activeFor (db : Db) (deviceId : String) (releaseId : ReleaseId) : Option Item :=
  db.items.rows.find? fun item =>
    item.deviceId == deviceId && item.releaseId == releaseId && item.state.status.active

/-- Active online rows of the device, which `depth` is meant to bound. -/
def activeOnline (db : Db) (deviceId : String) : Nat :=
  db.items.count fun item =>
    item.deviceId == deviceId && item.deliveryMode == .onlineQueue && item.state.status.active

/-- The insert triggers of `device_content_queue_items`. -/
def modeFits (db : Db) (item : Item) : Bool :=
  match item.deliveryMode with
  | .onlineQueue => item.offlineScheduleId.isNone &&
      !(db.devices.any fun device => device.id == item.deviceId && device.deliveryMode == .inktimeOfflineSchedule)
  | .offlineSchedule =>
      (db.schedules.any fun schedule =>
        some schedule.id == item.offlineScheduleId && schedule.deviceId == item.deviceId) &&
      (db.devices.any fun device => device.id == item.deviceId &&
        device.deliveryMode == .inktimeOfflineSchedule && device.offlinePrefetchAllowed)

/-- `INSERT INTO device_content_queue_items` under the keys, unique indexes and triggers of the table. -/
def insertItem (db : Db) (item : Item) : Except QueueError Db :=
  if (db.devices.find item.deviceId).isNone || (db.releases.find item.releaseId).isNone || !db.modeFits item then
    .error .integrity
  else if db.items.any fun other => other.deviceId == item.deviceId &&
      (other.position == item.position ||
        (item.idempotencyKey.isSome && other.idempotencyKey == item.idempotencyKey) ||
        (other.releaseId == item.releaseId && other.state.status.active && item.state.status.active)) then
    .error .integrity
  else
    match db.items.insert item with
    | none => .error .integrity
    | some items => .ok { db with items }

/-! ### Rows after a statement -/

@[simp] lemma setHead_items (db : Db) (deviceId : String) (set : HeadState → HeadState) :
    (db.setHead deviceId set).items = db.items := rfl

@[simp] lemma setHead_events (db : Db) (deviceId : String) (set : HeadState → HeadState) :
    (db.setHead deviceId set).events = db.events := rfl

@[simp] lemma setItems_heads (db : Db) (matching : Item → Bool) (set : ItemState → ItemState) :
    (db.setItems matching set).heads = db.heads := rfl

@[simp] lemma setItems_events (db : Db) (matching : Item → Bool) (set : ItemState → ItemState) :
    (db.setItems matching set).events = db.events := rfl

@[simp] lemma ensureHead_items (db : Db) (deviceId : String) (depth : Int) :
    (db.ensureHead deviceId depth).items = db.items := by
  unfold ensureHead
  split <;> rfl

@[simp] lemma ensureHead_events (db : Db) (deviceId : String) (depth : Int) :
    (db.ensureHead deviceId depth).events = db.events := by
  unfold ensureHead
  split <;> rfl

lemma setItems_follows {R : Item → Item → Prop} (hrefl : ∀ item, R item item) {db : Db} {matching : Item → Bool}
    {set : ItemState → ItemState}
    (hset : ∀ item ∈ db.items, matching item = true → R item { item with state := set item.state }) :
    Table.Follows R db.items (db.setItems matching set).items := by
  have hkey : ∀ item : Item, ({ item with state := set item.state } : Item).id = item.id := fun _ => rfl
  exact Table.Follows.update hrefl hkey hset

lemma setHead_follows {R : Head → Head → Prop} (hrefl : ∀ head, R head head) {db : Db} {deviceId : String}
    {set : HeadState → HeadState}
    (hset : ∀ head ∈ db.heads, head.deviceId = deviceId → R head { head with state := set head.state }) :
    Table.Follows R db.heads (db.setHead deviceId set).heads := by
  have hkey : ∀ head : Head, ({ head with state := set head.state } : Head).deviceId = head.deviceId := fun _ => rfl
  apply Table.Follows.update hrefl hkey
  intro head hhead hmatch
  exact hset head hhead (by simpa using hmatch)

lemma setHead_find {db : Db} {deviceId : String} {head : Head} (hhead : db.heads.find deviceId = some head)
    (set : HeadState → HeadState) :
    (db.setHead deviceId set).heads.find deviceId = some { head with state := set head.state } := by
  obtain ⟨hmem, hdevice⟩ := Table.find_eq_some hhead
  have hmoved : ({ head with state := set head.state } : Head) ∈ (db.setHead deviceId set).heads := by
    rw [setHead, Table.mem_update]
    exact ⟨head, hmem, by simp [Table.revise, hdevice]⟩
  rw [← Table.find_of_mem hmoved, hdevice]

lemma ensureHead_follows {R : Head → Head → Prop} (hrefl : ∀ head, R head head) (db : Db) (deviceId : String)
    (depth : Int) : Table.Follows R db.heads (db.ensureHead deviceId depth).heads := by
  unfold ensureHead
  split
  · exact Table.Follows.refl hrefl _
  · next heads hheads => exact Table.Follows.insert hrefl hheads

lemma insertItem_ok {db db' : Db} {item : Item} (h : db.insertItem item = .ok db') :
    ∃ items, db.items.insert item = some items ∧ db' = { db with items } := by
  unfold insertItem at h
  split at h
  · cases h
  split at h
  · cases h
  split at h
  · cases h
  · next items hitems =>
    obtain rfl := Except.ok.inj h
    exact ⟨items, hitems, rfl⟩

end Db

end InkTime.Queue
