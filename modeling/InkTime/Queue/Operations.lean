import InkTime.Queue.Model
import InkTime.Library.Runs
import InkTime.Library.Texts

/-!
# Calls on the device queue

`ensure_queue`, `enqueue_release`, `queue_ack` and `expire_operational_data` of `ResilienceRepository`.
Each is one transaction, so a call is a function of the tables; the clock, drawn ids and what the rollout
tables decide come in as arguments.
-/

namespace InkTime.Queue

open Checked
open Texts (strip)

/-! ### Fields -/

/-- A truthy text column. -/
def isSet (text : Option String) : Bool := text.getD "" != ""

/-- A payload field that `json_int` reads. -/
inductive JsonField where
  | missing | notInt | int (value : Int)
  deriving DecidableEq

def jsonInt (value : JsonField) (errorPrefix field : String) (minimum maximum : Int) : Except QueueError Int :=
  let failure (expectation : String) := QueueError.jsonField (errorPrefix ++ " " ++ field ++ " " ++ expectation)
  match value with
  | .missing => .error (failure "為必填欄位")
  | .notInt => .error (failure "必須是整數")
  | .int n =>
    if n < minimum then .error (failure ("不得小於 " ++ toString minimum))
    else if maximum < n then .error (failure ("不得大於 " ++ toString maximum))
    else .ok n

/-! ### ensure_queue -/

def ensureQueue (db : Db) (deviceId : String) (depth : Int) : Except QueueError (Db × Unit) := do
  require (1 ≤ depth && depth ≤ 24) .depthOutOfRange
  require (db.devices.any fun device => device.id == deviceId && device.enabled) .unknownDevice
  return ((db.ensureHead deviceId depth).setHead deviceId fun state => { state with depth }, ())

/-! ### enqueue_release -/

/-- Arguments of `enqueue_release`, with the id and the clock reading it draws. No delivery mode stands
for any other text. -/
structure EnqueueRequest where
  deviceId : String
  releaseId : ReleaseId
  position : Option Int := none
  priority : Int := 100
  displayAfter : Option Nat := none
  expiresAt : Option Nat := none
  idempotencyKey : Option String := none
  deliveryMode : Option DeliveryMode := some .onlineQueue
  offlinePrefetchAllowed : Bool := false
  offlineSlot : Option String := none
  ackDeadline : Option Nat := none
  offlineScheduleId : Option String := none
  terminalAckRetention : Option Nat := none
  drawnId : String
  now : Nat

inductive EnqueueResult where
  | existing (item : Item)
  | inserted (item : Item)

/-- `str(idempotency_key or "").strip() or None` -/
def EnqueueRequest.key (request : EnqueueRequest) : Option String :=
  let text := strip (request.idempotencyKey.getD "")
  if text = "" then none else some text

def clampPriority (priority : Int) : Int := max 1 (min priority 1000)

/-- The argument checks before the transaction. -/
def checkEnqueue (request : EnqueueRequest) : Except QueueError DeliveryMode := do
  require ((request.key.getD "").length ≤ 256) .keyTooLong
  let mode ← orError request.deliveryMode .illegalDeliveryMode
  require (!(mode == .onlineQueue && request.offlinePrefetchAllowed)) .prefetchOnOnline
  require (!(mode == .offlineSchedule && !request.offlinePrefetchAllowed)) .prefetchMissing
  require (!(mode == .offlineSchedule && strip (request.offlineScheduleId.getD "") == "")) .scheduleMissing
  require (!(mode == .onlineQueue && request.offlineScheduleId.isSome)) .scheduleOnOnline
  return mode

/-- The row stored under the request's key is the one this request would make. -/
def sameRequest (request : EnqueueRequest) (mode : DeliveryMode) (prior : Item) : Bool :=
  prior.releaseId == request.releaseId && prior.state.priority == clampPriority request.priority &&
    prior.displayAfter == request.displayAfter && prior.expiresAt == request.expiresAt &&
    prior.deliveryMode == mode && prior.offlinePrefetchAllowed == request.offlinePrefetchAllowed &&
    prior.offlineSlot == request.offlineSlot && prior.state.ackDeadline == request.ackDeadline &&
    prior.offlineScheduleId == request.offlineScheduleId &&
    prior.terminalAckRetention == request.terminalAckRetention &&
    (match request.position with
      | none => true
      | some position => prior.position == position)

/-- Checks of the device against the delivery mode. -/
def checkDevice (db : Db) (request : EnqueueRequest) : DeliveryMode → Except QueueError Unit
  | .offlineSchedule => do
    require (db.devices.any fun device => device.id == request.deviceId &&
      device.deliveryMode == .inktimeOfflineSchedule && device.offlinePrefetchAllowed) .offlineNotEnabled
    require (db.schedules.any fun schedule =>
      some schedule.id == request.offlineScheduleId && schedule.deviceId == request.deviceId) .scheduleOfOtherDevice
  | .onlineQueue => do
    let device ← orError (db.devices.find request.deviceId) .unknownDevice
    require (device.deliveryMode != .inktimeOfflineSchedule) .onlineOnOfflineDevice

/-- The release is published, not pruned and made for the device's panel. -/
def compatibleRelease (db : Db) (deviceId : String) (releaseId : ReleaseId) : Bool :=
  db.devices.any fun device => device.id == deviceId &&
    db.releases.any fun release => release.id == releaseId && release.status == .published &&
      !release.payloadPruned && release.renderProfile == device.panelProfile

/-- `ORDER BY priority ASC,position DESC,id DESC` -/
def evictedBefore (a b : Item) : Prop :=
  a.state.priority < b.state.priority ∨
    (a.state.priority = b.state.priority ∧ (b.position < a.position ∨ (b.position = a.position ∧ b.id ≤ a.id)))

instance : DecidableRel evictedBefore := fun a b => by delta evictedBefore; infer_instance

def evictionCandidates (db : Db) (deviceId : String) : List Item :=
  db.items.rows.filter fun item =>
    item.deviceId == deviceId && item.deliveryMode == .onlineQueue && item.state.status.evictable

def evictionTarget (db : Db) (deviceId : String) : Option Item :=
  ((evictionCandidates db deviceId).insertionSort evictedBefore).head?

def cancelState (now : Nat) (state : ItemState) : ItemState := { state with status := .cancelled, updatedAt := now }

/-- Makes room for one row of a full queue; at most one row goes. -/
def evict (db : Db) (deviceId : String) (now : Nat) : Db :=
  let freed :=
    match evictionTarget db deviceId with
    | none => db
    | some target => db.setItems (fun item => item.id == target.id) (cancelState now)
  freed.setHead deviceId fun state => { state with queueVersion := state.queueVersion + 1 }

/-- `position or COALESCE(MAX(position),0)+1` -/
def assignedPosition (db : Db) (request : EnqueueRequest) : Int :=
  match request.position with
  | none => db.nextPosition request.deviceId
  | some position => if position = 0 then db.nextPosition request.deviceId else position

def newItem (db : Db) (request : EnqueueRequest) (mode : DeliveryMode) : Item where
  id := request.drawnId
  deviceId := request.deviceId
  releaseId := request.releaseId
  position := assignedPosition db request
  displayAfter := request.displayAfter
  expiresAt := request.expiresAt
  idempotencyKey := request.key
  deliveryMode := mode
  offlinePrefetchAllowed := request.offlinePrefetchAllowed
  offlineSlot := request.offlineSlot
  offlineScheduleId := request.offlineScheduleId
  terminalAckRetention := request.terminalAckRetention
  createdAt := request.now
  state := {
    status := .ready
    priority := clampPriority request.priority
    ackDeadline := request.ackDeadline
    updatedAt := request.now }

/-- A queue that holds `depth` active online rows or more makes room first. -/
def makeRoom (db : Db) (head : Head) (request : EnqueueRequest) : Db :=
  if head.state.depth ≤ db.activeOnline request.deviceId then evict db request.deviceId request.now else db

def insertReady (db : Db) (request : EnqueueRequest) (mode : DeliveryMode) : Except QueueError (Db × EnqueueResult) := do
  let item := newItem db request mode
  let inserted ← db.insertItem item
  return (inserted.setHead request.deviceId fun state =>
    { state with queueVersion := state.queueVersion + 1, nextQueuedReleaseId := some request.releaseId },
    .inserted item)

/-- The transaction after the lookup by key. -/
def enqueueNew (db : Db) (request : EnqueueRequest) (mode : DeliveryMode) : Except QueueError (Db × EnqueueResult) := do
  let head ← orError (db.heads.find request.deviceId) .noQueue
  checkDevice db request mode
  require (compatibleRelease db request.deviceId request.releaseId) .incompatibleRelease
  match db.activeFor request.deviceId request.releaseId with
  | some duplicate => return (db, .existing duplicate)
  | none =>
    require (mode == .onlineQueue) .offlineSlotByPrepareDay
    insertReady (makeRoom db head request) request mode

def enqueueRelease (db : Db) (request : EnqueueRequest) : Except QueueError (Db × EnqueueResult) := do
  let mode ← checkEnqueue request
  let prior := if request.key.isSome then
    db.items.rows.find? fun item => item.deviceId == request.deviceId && item.idempotencyKey == request.key else none
  match prior with
  | some item =>
    require (sameRequest request mode item) .idempotencyConflict
    return (db, .existing item)
  | none => enqueueNew db request mode

/-! ### What a rollout does to the queue -/

/-- A write of the rollout code to the queue tables: a rollback cancels the rows of its targets, a stage
or a rollback delivers a release to a device. -/
inductive RolloutEffect where
  | cancel (itemIds : List String)
  | deliver (deviceId : String) (releaseId : ReleaseId) (priority : Int) (deadline : Nat) (drawnId : String)

/-- `_rollout_delivery_locked` -/
def rolloutDelivery (db : Db) (deviceId : String) (releaseId : ReleaseId) (now : Nat) (priority : Int)
    (deadline : Nat) (drawnId : String) : Except QueueError (Db × String) := do
  require (db.devices.find deviceId).isSome .integrity
  let opened := db.ensureHead deviceId 3
  match opened.activeFor deviceId releaseId with
  | some existing =>
    return (opened.setItems (fun item => item.id == existing.id) fun state =>
      { state with
        priority := max state.priority priority
        ackDeadline := state.ackDeadline <|> some deadline
        updatedAt := now }, existing.id)
  | none =>
    let inserted ← opened.insertItem {
      id := drawnId, deviceId, releaseId, position := opened.nextPosition deviceId, createdAt := now,
      state := { priority, ackDeadline := some deadline, updatedAt := now } }
    return (inserted.setHead deviceId fun state =>
      { state with queueVersion := state.queueVersion + 1, nextQueuedReleaseId := some releaseId }, drawnId)

def applyEffect (now : Nat) (db : Db) : RolloutEffect → Except QueueError Db
  | .cancel itemIds =>
    .ok (db.setItems (fun item => itemIds.contains item.id && item.state.status.active) (cancelState now))
  | .deliver deviceId releaseId priority deadline drawnId => do
    let (delivered, _) ← rolloutDelivery db deviceId releaseId now priority deadline drawnId
    return delivered

/-- `_record_rollout_ack_locked`, as the writes it makes to the queue tables; there are none unless the row
is a target of a running campaign. `Rollouts.recordRolloutAck` decides which they are. -/
def recordRolloutAck (now : Nat) : Db → List RolloutEffect → Except QueueError Db
  | db, [] => .ok db
  | db, effect :: rest => do
    let next ← applyEffect now db effect
    recordRolloutAck now next rest

/-! ### queue_ack -/

/-- The payload of an ACK. No event stands for a name outside `QUEUE_EVENTS`. -/
structure Ack where
  itemId : String
  event : Option Event
  key : String
  queueVersion : JsonField
  ackMode : String := ""
  releaseId : Option String := none
  eventEpoch : JsonField := .missing
  errorCode : String := ""
  deriving DecidableEq

/-- The identity an ACK is stored under, and the version it was made for. -/
structure AckIdentity where
  event : Event
  key : String
  queueVersion : Int

/-- The row an ACK names, if it belongs to the device. -/
def ackedItem (db : Db) (deviceId : String) (ack : Ack) : Option Item :=
  db.items.rows.find? fun item => item.id == ack.itemId && item.deviceId == deviceId

def parseAck (ack : Ack) : Except QueueError AckIdentity := do
  let key := strip ack.key
  let event ← orError ack.event .ackIncomplete
  require (ack.itemId != "" && ack.itemId.length ≤ 128 && key != "" && key.length ≤ 128) .ackIncomplete
  let queueVersion ← jsonInt ack.queueVersion "QUEUE-001" "queue_version" 0 2147483647
  return { event, key, queueVersion }

/-- A stored ACK that arrives again is answered without a write. -/
def checkReplay (deviceId : String) (ack : Ack) (stored : EventRow) : Except QueueError Unit := do
  let incoming := strip (ack.releaseId.getD "")
  require (incoming == "" || incoming == strip (stored.releaseId.getD "")) .replayRelease
  require (stored.deviceId == deviceId) .replayDevice

def priorDownloadEvidence (db : Db) (item : Item) : Bool :=
  item.state.downloadedAt.isSome ||
    db.events.any fun row => row.itemId == item.id && (row.event == .downloadCompleted || row.event == .hashVerified)

def delayedTerminal (db : Db) (item : Item) (event : Event) (ack : Ack) (now : Nat) : Bool :=
  (event == .displayCompleted || event == .displayFailed) && ack.ackMode == "delayed_terminal" &&
    item.deliveryMode == .offlineSchedule && item.offlinePrefetchAllowed && isSet item.offlineScheduleId &&
    (item.state.status == .acknowledged || item.state.status == .displayed ||
      (item.state.status == .cancelled && priorDownloadEvidence db item)) &&
    ack.releaseId == some item.releaseId.text &&
    (match item.terminalAckRetention with
      | none => false
      | some retention => now ≤ retention)

def staleProgressAck (db : Db) (item : Item) (head : Head) (who : AckIdentity) (ack : Ack) (now : Nat) : Bool :=
  who.queueVersion < head.state.queueVersion && !delayedTerminal db item who.event ack now &&
    ack.ackMode != "delayed_terminal" && priorDownloadEvidence db item &&
    (who.event == .downloadCompleted || who.event == .hashVerified || who.event == .displayStarted ||
      who.event == .displayCompleted || who.event == .displayFailed)

/-- The ACK was made for this version of the queue, or may be late. -/
def versionAccepted (db : Db) (item : Item) (head : Head) (who : AckIdentity) (ack : Ack) (now : Nat) : Bool :=
  head.state.queueVersion == who.queueVersion ||
    (delayedTerminal db item who.event ack now && who.queueVersion ≤ head.state.queueVersion) ||
    staleProgressAck db item head who ack now

def slotOf (db : Db) (item : Item) : Option OfflineSlot :=
  db.slots.rows.find? fun slot => slot.queueItemId == item.id && some slot.scheduleId == item.offlineScheduleId &&
    db.schedules.any fun schedule => schedule.id == slot.scheduleId

/-- `timedelta(minutes=10)` -/
def epochSkew : Nat := 600000000

def withinDisplayWindow (eventAt showAt now : Nat) (retention : Option Nat) : Bool :=
  eventAt ≤ now + epochSkew && showAt ≤ eventAt + epochSkew &&
    (match retention with
      | none => false
      | some limit => eventAt ≤ limit)

/-- The display time: the server's clock, or for a delayed ACK the epoch the device sends. -/
def eventTime (db : Db) (item : Item) (ack : Ack) (delayed : Bool) (now : Nat) : Except QueueError Nat := do
  require (ack.eventEpoch == .missing || delayed) .epochNotDelayed
  if !delayed then return now
  let slot ← orError (slotOf db item) .slotMissing
  if ack.eventEpoch = .missing then return now
  let epoch ← jsonInt ack.eventEpoch "QUEUE-005" "event_epoch" 1 4102444800
  let eventAt := epoch.toNat * 1000000
  require (withinDisplayWindow eventAt slot.showAt now item.terminalAckRetention) .epochOutOfRange
  return eventAt

/-- What the checks of `queue_ack` settle on for an ACK they let through. -/
structure Admission where
  head : Head
  delayed : Bool
  eventAt : Nat

def admitAck (db : Db) (deviceId : String) (item : Item) (who : AckIdentity) (ack : Ack) (now : Nat) :
    Except QueueError Admission := do
  let delayed := delayedTerminal db item who.event ack now
  let head ← orError (db.heads.find deviceId) .staleVersion
  require (versionAccepted db item head who ack now) .staleVersion
  require (delayed || item.state.status.allowedEvents.contains who.event) .illegalTransition
  let eventAt ← eventTime db item ack delayed now
  return { head, delayed, eventAt }

def storedError (ack : Ack) : Option String :=
  let text := String.ofList (ack.errorCode.toList.take 64)
  if text = "" then none else some text

/-- `UPDATE device_content_queue_items SET status=?,downloaded_at=...` -/
def ackedState (event : Event) (ack : Ack) (admission : Admission) (now : Nat) (state : ItemState) : ItemState :=
  { state with
    status := if state.status = .cancelled ∧ admission.delayed then state.status else event.status
    downloadedAt := if event = .downloadCompleted ∨ event = .hashVerified then some now else state.downloadedAt
    displayedAt := state.displayedAt <|> if event = .displayCompleted then some admission.eventAt else none
    retryCount := state.retryCount + if event = .displayFailed then 1 else 0
    lastErrorCode := storedError ack
    updatedAt := now }

def showRelease (releaseId : ReleaseId) (eventAt : Nat) (state : HeadState) : HeadState :=
  { state with
    currentReleaseId := some releaseId
    currentDisplayedAt := some eventAt
    lastKnownGoodReleaseId := some releaseId
    lastKnownGoodDisplayedAt := some eventAt }

/-- The displayed pointers follow the display time, not the order of arrival. A pointer without a time is
moved once. -/
def advancePointer (db : Db) (head : Head) (releaseId : ReleaseId) (eventAt : Nat) : Except QueueError Db :=
  let advanced := db.setHead head.deviceId (showRelease releaseId eventAt)
  match head.state.currentReleaseId, head.state.currentDisplayedAt with
  | some current, some displayedAt =>
    if displayedAt < eventAt then .ok advanced
    else if eventAt = displayedAt ∧ current ≠ releaseId then .error .sameDisplayTime
    else .ok db
  | _, _ => .ok advanced

/-- Only `DISPLAY_COMPLETED` moves the pointers. -/
def recordDisplay (db : Db) (event : Event) (item : Item) (admission : Admission) : Except QueueError Db :=
  if event = .displayCompleted then advancePointer db admission.head item.releaseId admission.eventAt else .ok db

/-- The tables with the event stored and the row of the ACK updated. -/
def Db.acked (db : Db) (events : Table EventRow.identity) (item : Item) (event : Event) (ack : Ack)
    (admission : Admission) (now : Nat) : Db :=
  ({ db with events } : Db).setItems (fun other => other.id == item.id) (ackedState event ack admission now)

inductive AckResult where
  | idempotent
  | committed (delayed : Bool)
  deriving DecidableEq

/-- The writes of an admitted ACK. -/
def commitAck (db : Db) (deviceId : String) (item : Item) (who : AckIdentity) (ack : Ack) (admission : Admission)
    (now : Nat) (rollout : List RolloutEffect) : Except QueueError (Db × AckResult) := do
  let events ← orError (db.events.insert {
    itemId := item.id, event := who.event, key := who.key, deviceId, releaseId := ack.releaseId,
    createdAt := now }) .integrity
  let pointed ← recordDisplay (db.acked events item who.event ack admission now) who.event item admission
  let finished ← recordRolloutAck now pointed rollout
  return (finished, .committed admission.delayed)

def queueAck (db : Db) (deviceId : String) (ack : Ack) (now : Nat) (rollout : List RolloutEffect) :
    Except QueueError (Db × AckResult) := do
  let who ← parseAck ack
  let item ← orError (ackedItem db deviceId ack) .itemOfOtherDevice
  match db.events.find (item.id, who.event, who.key) with
  | some stored =>
    checkReplay deviceId ack stored
    return (db, .idempotent)
  | none =>
    let admission ← admitAck db deviceId item who ack now
    commitAck db deviceId item who ack admission now rollout

/-- One ACK of a device, with the clock and the rollout writes of its call. -/
structure AckCall where
  ack : Ack
  now : Nat
  rollout : List RolloutEffect := []

/-! ### expire_operational_data -/

/-- Rows the sweep expires: any row past its `expires_at`, except displayed, expired or cancelled ones and
offline rows that still wait for their terminal ACK. -/
def expires (now : Nat) (item : Item) : Bool :=
  item.state.status != .displayed && item.state.status != .expired && item.state.status != .cancelled &&
    (match item.expiresAt with
      | none => false
      | some expiresAt => expiresAt ≤ now) &&
    !(item.state.status == .acknowledged && item.deliveryMode == .offlineSchedule &&
      (match item.terminalAckRetention with
        | none => false
        | some retention => now < retention))

/-- `timedelta(days=90)` -/
def gcAge : Nat := 7776000000000

/-- Rows that nothing refers to any more; `targeted` is membership in `rollout_targets`. -/
def collectable (db : Db) (targeted : String → Bool) (now : Nat) (item : Item) : Bool :=
  item.state.status.terminal && item.deliveryMode == .onlineQueue && item.offlineScheduleId.isNone &&
    item.state.updatedAt + gcAge < now &&
    (match item.terminalAckRetention with
      | none => true
      | some retention => retention < now) &&
    !(db.events.any fun row => row.itemId == item.id) && !targeted item.id &&
    !(db.heads.any fun head => head.deviceId == item.deviceId &&
      (head.state.currentReleaseId == some item.releaseId || head.state.lastKnownGoodReleaseId == some item.releaseId ||
        head.state.nextQueuedReleaseId == some item.releaseId ||
        head.state.emergencyFallbackReleaseId == some item.releaseId))

/-- `ORDER BY updated_at,id` -/
def collectedBefore (a b : Item) : Prop :=
  a.state.updatedAt < b.state.updatedAt ∨ (a.state.updatedAt = b.state.updatedAt ∧ a.id ≤ b.id)

instance : DecidableRel collectedBefore := fun a b => by delta collectedBefore; infer_instance

/-- The first 200 collectable rows. -/
def collected (db : Db) (targeted : String → Bool) (now : Nat) : List String :=
  (((db.items.rows.filter (collectable db targeted now)).insertionSort collectedBefore).take 200).map Item.id

def expireOperationalData (db : Db) (targeted : String → Bool) (now : Nat) : Db :=
  let swept := db.setItems (expires now) fun state => { state with status := .expired, updatedAt := now }
  { swept with items := swept.items.delete fun item => (collected swept targeted now).contains item.id }

/-! ### Runs -/

inductive Op where
  | ensureQueue (deviceId : String) (depth : Int)
  | enqueueRelease (request : EnqueueRequest)
  | queueAck (deviceId : String) (ack : Ack) (now : Nat) (rollout : List RolloutEffect)
  | expireOperationalData (targeted : String → Bool) (now : Nat)

def step (db : Db) : Op → Db
  | .ensureQueue deviceId depth => Outcome.after (ensureQueue db deviceId depth) db
  | .enqueueRelease request => Outcome.after (enqueueRelease db request) db
  | .queueAck deviceId ack now rollout => Outcome.after (queueAck db deviceId ack now rollout) db
  | .expireOperationalData targeted now => expireOperationalData db targeted now

end InkTime.Queue
