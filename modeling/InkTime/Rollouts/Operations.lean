import InkTime.Rollouts.Model
import InkTime.Library.Runs

/-!
# Rollout calls

`create_rollout`, `start_rollout`, `transition_rollout` and `evaluate_rollouts` of `ResilienceRepository`, the
rollout part of `queue_ack`, and what an edit of a device does to the queue and to targets. Each call is one
transaction; the clock and drawn ids are arguments.
-/

namespace InkTime.Rollouts

open Checked
open Queue (ReleaseId Release Device DeviceMode Item ItemStatus)

/-! ### Rollback -/

/-- `render_profile=? AND status IN ('published','superseded') AND reconciliation_status<>'payload_pruned'` -/
def restorable (release : Release) (profile : String) : Bool :=
  release.renderProfile == profile && (release.status == .published || release.status == .superseded) &&
    !release.payloadPruned

/-- `_rollback_identity_locked` -/
def rollbackIdentity (db : Db) (deviceId : String) (candidate : ReleaseId) : Option ReleaseId :=
  match db.queue.heads.find deviceId, db.queue.devices.find deviceId with
  | some head, some device =>
    (head.state.lastKnownGoodReleaseId.bind db.queue.releases.find).bind fun release =>
      if release.id ≠ candidate ∧ restorable release device.panelProfile = true then some release.id else none
  | _, _ => none

/-- The rollback release of a target that its device can show now. -/
def validFallback (db : Db) (target : Target) (device : Device) : Option ReleaseId :=
  target.rollbackReleaseId.bind fun fallback =>
    if db.queue.releases.any fun release => release.id == fallback && restorable release device.panelProfile
    then some fallback else none

/-- Ids for the queue rows a call may insert: one for each campaign and device. -/
abbrev Drawn := String → String → String

/-- `_rollout_delivery_locked` -/
def deliver (db : Db) (deviceId : String) (releaseId : ReleaseId) (now : Nat) (priority : Int) (deadline : Nat)
    (drawnId : String) : Except RolloutError (Db × String) := do
  let (queue, itemId) ← onQueue (Queue.rolloutDelivery db.queue deviceId releaseId now priority deadline drawnId)
  return ({ db with queue }, itemId)

def isTarget (rolloutId deviceId : String) (target : Target) : Bool :=
  target.rolloutId == rolloutId && target.deviceId == deviceId

/-- `timedelta(days=1)` -/
def rollbackDeadline : Nat := 24 * 60 * minute

/-- The rollback of one target; answers whether it has no valid rollback release. -/
def rollBackTarget (db : Db) (target : Target) (now : Nat) (drawn : Drawn) : Except RolloutError (Db × Bool) :=
  match db.queue.devices.find target.deviceId with
  | none => .ok (db, false)
  | some device =>
    let mine := isTarget target.rolloutId target.deviceId
    if device.deliveryMode = .inktimeOfflineSchedule then
      .ok (db.setTargets mine fun state =>
        { state with status := .rollbackSkippedIncompatibleOffline, updatedAt := now }, false)
    else
      match validFallback db target device with
      | none =>
        .ok (db.setTargets mine fun state =>
          { state with status := .rollbackFailed, lastErrorCode := some "ROLLBACK-002", updatedAt := now }, true)
      | some fallback => do
        let (delivered, itemId) ← deliver db target.deviceId fallback now 1000 (now + rollbackDeadline)
          (drawn target.rolloutId target.deviceId)
        return (delivered.setTargets mine fun state =>
          { state with status := .rollbackPending, queueItemId := some itemId, lastErrorCode := none, updatedAt := now },
          false)

/-- The loop over the targets; answers whether any of them is missing. -/
def rollBackTargets (now : Nat) (drawn : Drawn) : Db → List Target → Except RolloutError (Db × Bool)
  | db, [] => .ok (db, false)
  | db, target :: rest => do
    let (next, missing) ← rollBackTarget db target now drawn
    let (last, others) ← rollBackTargets now drawn next rest
    return (last, missing || others)

/-- The active queue rows of the campaign's targets become `CANCELLED`. -/
def cancelItems (db : Db) (rolloutId : String) (now : Nat) : Db :=
  let named := (db.targetsOf rolloutId).filterMap fun target => target.state.queueItemId
  { db with queue := db.queue.setItems (fun item => named.contains item.id && item.state.status.active) (Queue.cancelState now) }

/-- `_start_rollback_locked` -/
def startRollback (db : Db) (rolloutId : String) (now : Nat) (reason : String) (drawn : Drawn) : Except RolloutError Db :=
  match db.campaigns.find rolloutId with
  | none => .ok db
  | some campaign =>
    if campaign.state.status.settled then .ok db
    else do
      let cancelled := cancelItems db rolloutId now
      let targets := (cancelled.targetsOf rolloutId).filter fun target =>
        (cancelled.queue.devices.find target.deviceId).isSome
      let (rolled, lacking) ← rollBackTargets now drawn cancelled targets
      let missing := targets.isEmpty || lacking
      return rolled.setCampaign rolloutId fun state =>
        { state with
          status := if missing then .failed else .rollingBack
          rollbackReason := some (if missing then "ROLLBACK-002 缺少可驗證的回復身分" else String.ofList (reason.toList.take 500))
          updatedAt := now }

/-! ### Stages -/

/-- `ORDER BY id` -/
def byId (devices : List Device) : List Device := devices.insertionSort fun a b => a.id ≤ b.id

/-- Enabled devices whose panel the release is made for. -/
def matchingDevices (db : Db) (releaseId : ReleaseId) : List Device :=
  byId (db.queue.devices.rows.filter fun device => device.enabled &&
    db.queue.releases.any fun release => release.id == releaseId && release.renderProfile == device.panelProfile)

/-- Another running campaign has a row for the device, skipped rows included. -/
def inOtherCampaign (db : Db) (rolloutId : String) (deviceId : String) : Bool :=
  db.targets.any fun target => target.deviceId == deviceId && target.rolloutId != rolloutId &&
    db.campaigns.any fun campaign => campaign.id == target.rolloutId && campaign.state.status.running

/-- `INSERT OR IGNORE` of the offline devices of the cohort. -/
def skipOffline (now : Nat) (rolloutId : String) (db : Db) (devices : List Device) : Db :=
  devices.foldl (fun db device =>
    { db with targets := db.targets.add {
        rolloutId, deviceId := device.id,
        state := { status := .skippedIncompatibleOffline, lastErrorCode := some "ROLLOUT-005", updatedAt := now } } }) db

/-- A target of the stage: its delivery, then its row with the frozen rollback release. -/
def addTarget (db : Db) (campaign : Campaign) (stage : Stage) (now : Nat) (drawn : Drawn) (device : Device) :
    Except RolloutError Db :=
  if (db.targets.find (campaign.id, device.id)).isSome then .ok db
  else do
    let fallback := rollbackIdentity db device.id campaign.releaseId
    let (delivered, itemId) ← deliver db device.id campaign.releaseId now 900
      (now + stage.ackTimeoutMinutes * minute) (drawn campaign.id device.id)
    let targets ← orError (delivered.targets.insert {
      rolloutId := campaign.id, deviceId := device.id, rollbackReleaseId := fallback,
      state := { status := .pending, queueItemId := some itemId, updatedAt := now } }) .integrity
    return { delivered with targets }

def addTargets (campaign : Campaign) (stage : Stage) (now : Nat) (drawn : Drawn) : Db → List Device → Except RolloutError Db
  | db, [] => .ok db
  | db, device :: rest => do
    let next ← addTarget db campaign stage now drawn device
    addTargets campaign stage now drawn next rest

/-- `min(len(online), max(minimum, ceil(len(online) * percent / 100)))` -/
def stageCount (online : Nat) (stage : Stage) : Nat :=
  min online (max stage.minimumSuccessfulDevices ((online * stage.targetPercent + 99) / 100))

/-- The cohort is drawn once and then kept in `config_json`. -/
def freezeCohort (db : Db) (campaign : Campaign) : Db × List String :=
  match campaign.state.cohortDeviceIds with
  | some cohort => (db, cohort)
  | none =>
    let cohort := (matchingDevices db campaign.releaseId).map Device.id
    (db.setCampaign campaign.id fun state => { state with cohortDeviceIds := some cohort }, cohort)

/-- `_allocate_rollout_stage_locked`. A refusal is a `ValueError`: what was written before it is only undone
where the caller lets it through. -/
def allocateStage (db : Db) (campaign : Campaign) (stage : Stage) (now : Nat) (drawn : Drawn) :
    Except RolloutError (Db × Option RolloutError) :=
  let (frozen, cohort) := freezeCohort db campaign
  let devices := (matchingDevices frozen campaign.releaseId).filter fun device => cohort.contains device.id
  let online := devices.filter fun device => device.deliveryMode != .inktimeOfflineSchedule
  if online.isEmpty then .ok (frozen, some .noOnlineCohort)
  else if online.length < stage.minimumSuccessfulDevices then .ok (frozen, some .tooFewDevices)
  else
    let skipped := skipOffline now campaign.id frozen
      (devices.filter fun device => device.deliveryMode == .inktimeOfflineSchedule)
    let chosen := online.take (stageCount online.length stage)
    if chosen.any fun device => inOtherCampaign skipped campaign.id device.id then .ok (skipped, some .deviceInOtherCampaign)
    else do
      let delivered ← addTargets campaign stage now drawn skipped chosen
      return (delivered.setStages (fun other => other.key == stage.key && other.state.status == .pending) fun state =>
        { state with status := .active, startedAt := some now }, none)

/-! ### Evaluation -/

/-- The rows the health of a stage is counted over. -/
def counted (target : Target) : Bool :=
  target.state.status != .skippedIncompatibleOffline && target.state.status != .rollbackSkippedIncompatibleOffline

def timedOut (db : Db) (now : Nat) (target : Target) : Bool :=
  let item := db.itemOf target
  target.state.status != .succeeded &&
    ((item.map fun row => row.state.status) == some .expired || mentionsTimeout target.state.lastErrorCode ||
      match item.bind fun row => row.state.ackDeadline with
      | none => false
      | some deadline => deadline ≤ now)

def failedPlainly (target : Target) : Bool :=
  target.state.status == .failed && !mentionsTimeout target.state.lastErrorCode

/-- `failures / total > maximum_failure_rate or timeouts / total > maximum_timeout_rate` -/
def unhealthy (db : Db) (stage : Stage) (targets : List Target) (now : Nat) : Bool :=
  stage.maximumFailureRate < trueDivision (targets.countP failedPlainly) targets.length ||
    stage.maximumTimeoutRate < trueDivision (targets.countP (timedOut db now)) targets.length

def ready (stage : Stage) (targets : List Target) : Bool :=
  let successes := targets.countP fun target => target.state.status == .succeeded
  stage.minimumSuccessfulDevices ≤ successes && stage.minimumAckRate ≤ trueDivision successes targets.length

/-- `ORDER BY stage_number LIMIT 1` -/
def firstStage (stages : List Stage) : Option Stage :=
  (stages.insertionSort fun a b => a.stageNumber ≤ b.stageNumber).head?

def activeStage (db : Db) (rolloutId : String) : Option Stage :=
  firstStage (db.stages.rows.filter fun stage => stage.rolloutId == rolloutId && stage.state.status == .active)

def pendingStage (db : Db) (rolloutId : String) (after : Nat) : Option Stage :=
  firstStage (db.stages.rows.filter fun stage =>
    stage.rolloutId == rolloutId && after < stage.stageNumber && stage.state.status == .pending)

def setStatus (status : CampaignStatus) (now : Nat) (state : CampaignState) : CampaignState :=
  { state with status, updatedAt := now }

/-- A rollback that still waits for an ACK past its deadline has failed. -/
def expireRollback (db : Db) (rolloutId : String) (now : Nat) : Db :=
  if (db.targetsOf rolloutId).any fun target =>
      (target.state.status == .rollbackPending || target.state.status == .inProgress) &&
        match (db.itemOf target).bind fun row => row.state.ackDeadline with
        | none => false
        | some deadline => deadline ≤ now then
    db.setCampaign rolloutId fun state =>
      { state with status := .failed, rollbackReason := some "ROLLBACK-004 回復 ACK 逾時", updatedAt := now }
  else db

/-- The end of an observed stage: the next one is allocated, or the campaign is complete. -/
def advanceStage (db : Db) (campaign : Campaign) (stage : Stage) (now : Nat) (drawn : Drawn) : Except RolloutError (Db × Bool) :=
  let finish (db : Db) (status : CampaignStatus) : Db :=
    (db.setStages (fun other => other.key == stage.key) fun state =>
      { state with status := .completed, completedAt := some now }).setCampaign campaign.id (setStatus status now)
  match pendingStage db campaign.id stage.stageNumber with
  | none => .ok (finish db .completed, true)
  | some next => do
    let (allocated, refusal) ← allocateStage db campaign next now drawn
    if refusal.isSome then
      let rolled ← startRollback allocated campaign.id now "ROLLBACK-001 下一 Stage cohort 不再可用" drawn
      return (rolled, false)
    else return (finish allocated .expanding, true)

/-- The stage has been observed long enough, and is approved where it has to be. -/
def observed (stage : Stage) (startedAt now : Nat) (approved : Bool) : Bool :=
  startedAt + stage.minimumObservationMinutes * minute ≤ now && (!stage.manualApprovalRequired || approved)

def evaluateStage (db : Db) (campaign : Campaign) (stage : Stage) (now : Nat) (approved : Bool) (drawn : Drawn) :
    Except RolloutError (Db × Bool) :=
  let targets := (db.targetsOf campaign.id).filter counted
  if targets.isEmpty then .ok (db, false)
  else if unhealthy db stage targets now then do
    let rolled ← startRollback db campaign.id now "ROLLBACK-001 Stage 健康門檻超標" drawn
    return (rolled, false)
  else if !ready stage targets then .ok (db, false)
  else do
    let observing := db.setCampaign campaign.id (setStatus .observing now)
    let startedAt ← orError stage.state.startedAt .stageNotStarted
    if observed stage startedAt now approved then advanceStage observing campaign stage now drawn
    else return (observing, false)

/-- `_evaluate_rollout_locked` -/
def evaluateRollout (db : Db) (rolloutId : String) (now : Nat) (approved : Bool) (drawn : Drawn) :
    Except RolloutError (Db × Bool) :=
  match db.campaigns.find rolloutId with
  | none => .ok (db, false)
  | some campaign =>
    if !campaign.state.status.evaluated then .ok (db, false)
    else
      let touched := db.setCampaign rolloutId fun state => { state with updatedAt := now }
      if campaign.state.status = .rollingBack then .ok (expireRollback touched rolloutId now, false)
      else
        match activeStage touched rolloutId with
        | none => .ok (touched, false)
        | some stage => evaluateStage touched campaign stage now approved drawn

/-- `ORDER BY updated_at,id` -/
def evaluatedBefore (a b : Campaign) : Prop :=
  a.state.updatedAt < b.state.updatedAt ∨ (a.state.updatedAt = b.state.updatedAt ∧ a.id ≤ b.id)

instance : DecidableRel evaluatedBefore := fun a b => by delta evaluatedBefore; infer_instance

/-- The page of campaigns one call looks at. -/
def evaluatedPage (db : Db) (limit : Int) : List String :=
  (((db.campaigns.rows.filter fun campaign => campaign.state.status.evaluated).insertionSort evaluatedBefore).take
    (max 1 (min limit 100)).toNat).map Campaign.id

def evaluateAll (now : Nat) (drawn : Drawn) : Db → List String → Except RolloutError Db
  | db, [] => .ok db
  | db, rolloutId :: rest => do
    let (next, _) ← evaluateRollout db rolloutId now false drawn
    evaluateAll now drawn next rest

def evaluateRollouts (db : Db) (now : Nat) (limit : Int) (drawn : Drawn) : Except RolloutError Db :=
  evaluateAll now drawn db (evaluatedPage db limit)

/-! ### ACKs -/

/-- An ACK that has been stored, as the rollout code reads it. -/
structure Acked where
  itemId : String
  deviceId : String
  event : Queue.Event
  errorCode : Option String

def targetStatus : Queue.Event → TargetStatus
  | .displayCompleted => .succeeded
  | .displayFailed => .failed
  | _ => .inProgress

/-- The campaign of one target row, with the status it had when the rows were read. -/
def recordTarget (db : Db) (acked : Acked) (now : Nat) (drawn : Drawn) (rolloutId : String) (status : CampaignStatus) :
    Except RolloutError Db :=
  if !status.running then .ok db
  else
    let reached := targetStatus acked.event
    let updated := db.setTargets (isTarget rolloutId acked.deviceId) fun state =>
      { state with status := reached, lastErrorCode := acked.errorCode, updatedAt := now }
    if status = .rollingBack then
      if reached = .failed then
        .ok (updated.setCampaign rolloutId fun state =>
          { state with status := .failed, rollbackReason := some "ROLLBACK-003 回復顯示失敗", updatedAt := now })
      else if reached = .succeeded ∧ (updated.targetsOf rolloutId).all (fun target =>
          target.state.status == .succeeded || target.state.status == .rollbackSkippedIncompatibleOffline) then
        .ok (updated.setCampaign rolloutId (setStatus .rolledBack now))
      else .ok updated
    else do
      let (next, _) ← evaluateRollout updated rolloutId now false drawn
      return next

def recordTargets (acked : Acked) (now : Nat) (drawn : Drawn) : Db → List (String × CampaignStatus) → Except RolloutError Db
  | db, [] => .ok db
  | db, (rolloutId, status) :: rest => do
    let next ← recordTarget db acked now drawn rolloutId status
    recordTargets acked now drawn next rest

/-- Campaigns with a target on the queue row, and their status. -/
def ackedCampaigns (db : Db) (itemId : String) : List (String × CampaignStatus) :=
  (db.targets.rows.filter fun target => target.state.queueItemId == some itemId).filterMap fun target =>
    (statusOf db target.rolloutId).map fun status => (target.rolloutId, status)

/-- `_record_rollout_ack_locked` with the tables of the campaigns, where the queue alone (`Queue.recordRolloutAck`) takes
its writes as given. -/
def recordRolloutAck (db : Db) (acked : Acked) (now : Nat) (drawn : Drawn) : Except RolloutError Db :=
  recordTargets acked now drawn db (ackedCampaigns db acked.itemId)

/-- `queue_ack` with its last step, which runs for a committed ACK only. -/
def queueAck (db : Db) (deviceId : String) (ack : Queue.Ack) (now : Nat) (drawn : Drawn) : Except RolloutError Db := do
  let (queue, result) ← onQueue (Queue.queueAck db.queue deviceId ack now [])
  let stored : Db := { db with queue }
  match result, ack.event with
  | .committed _, some event =>
    recordRolloutAck stored { itemId := ack.itemId, deviceId, event, errorCode := Queue.storedError ack } now drawn
  | _, _ => return stored

/-! ### Calls on campaigns -/

/-- An entry of `stages`. -/
structure StageRequest where
  targetPercent : Int := 100
  minimumObservationMinutes : Int := 30
  minimumSuccessfulDevices : Int := 1
  maximumFailureRate : ℚ := 1 / 10
  maximumTimeoutRate : ℚ := 1 / 10
  minimumAckRate : ℚ := 9 / 10
  manualApprovalRequired : Bool := false
  ackTimeoutMinutes : Int := 1440

def defaultStages : List StageRequest :=
  [{ targetPercent := 1 }, { targetPercent := 10 }, { targetPercent := 50 }, { targetPercent := 100 }]

def StageRequest.inRange (request : StageRequest) : Bool :=
  [request.maximumFailureRate, request.maximumTimeoutRate, request.minimumAckRate].all fun rate => 0 ≤ rate && rate ≤ 1

/-- `max(1, min(value, limit))` -/
def clamp (value limit : Int) : Nat := (max 1 (min value limit)).toNat

def newStage (rolloutId : String) (stageNumber : Nat) (request : StageRequest) : Stage where
  rolloutId := rolloutId
  stageNumber := stageNumber
  targetPercent := clamp request.targetPercent 100
  minimumObservationMinutes := clamp request.minimumObservationMinutes 1440
  minimumSuccessfulDevices := (max 1 request.minimumSuccessfulDevices).toNat
  maximumFailureRate := request.maximumFailureRate
  maximumTimeoutRate := request.maximumTimeoutRate
  minimumAckRate := request.minimumAckRate
  manualApprovalRequired := request.manualApprovalRequired
  ackTimeoutMinutes := clamp request.ackTimeoutMinutes 10080

def addStages (rolloutId : String) : Table Stage.key → Nat → List StageRequest → Except RolloutError (Table Stage.key)
  | stages, _, [] => .ok stages
  | stages, number, request :: rest => do
    let next ← orError (stages.insert (newStage rolloutId number request)) .integrity
    addStages rolloutId next (number + 1) rest

def createRollout (db : Db) (rolloutId : String) (releaseId : ReleaseId) (stages : List StageRequest) (now : Nat) :
    Except RolloutError Db := do
  let requested := if stages.isEmpty then defaultStages else stages
  require (requested.all StageRequest.inRange) .thresholdOutOfRange
  require (db.queue.releases.any fun release =>
    release.id == releaseId && release.status == .published && !release.payloadPruned) .releaseNotPublished
  let campaigns ← orError (db.campaigns.insert { id := rolloutId, releaseId, state := { updatedAt := now } }) .integrity
  let stages ← addStages rolloutId db.stages 1 requested
  return { db with campaigns, stages }

def startRollout (db : Db) (rolloutId : String) (now : Nat) (drawn : Drawn) : Except RolloutError Db := do
  let campaign ← orError (db.campaigns.find rolloutId) .unknownCampaign
  require (campaign.state.status == .draft) .notDraft
  let stage ← orError (firstStage (db.stages.rows.filter fun stage => stage.rolloutId == rolloutId)) .noStage
  let (allocated, refusal) ← allocateStage db campaign stage now drawn
  match refusal with
  | some error => .error error
  | none => return allocated.setCampaign rolloutId (setStatus .canary now)

/-- A paused time does not count against the observation or the ACK deadlines. -/
def resumeClocks (db : Db) (rolloutId : String) (paused : Nat) : Db :=
  let named := (db.targetsOf rolloutId).filterMap fun target => target.state.queueItemId
  let shifted := db.setStages (fun stage => stage.rolloutId == rolloutId && stage.state.status == .active) fun state =>
    { state with startedAt := state.startedAt.map (· + paused) }
  { shifted with queue := shifted.queue.setItems (fun item => named.contains item.id && item.state.status.active) fun state =>
      { state with ackDeadline := state.ackDeadline.map (· + paused) } }

/-- The branch of `transition_rollout` that sets the status itself. -/
def setTransition (db : Db) (campaign : Campaign) (target : CampaignStatus) (now : Nat) : Db :=
  if target = .paused then
    db.setCampaign campaign.id fun state => { state with status := target, pauseStartedAt := some now, updatedAt := now }
  else
    match campaign.state.status, campaign.state.pauseStartedAt with
    | .paused, some since =>
      (resumeClocks db campaign.id (now - since)).setCampaign campaign.id fun state =>
        { state with status := target, pauseStartedAt := none, updatedAt := now }
    | _, _ => db.setCampaign campaign.id (setStatus target now)

/-- `transition_rollout`. The refusals beside the tables are raised after the transaction is committed. -/
def transitionRollout (db : Db) (rolloutId : String) (target : CampaignStatus) (reason : String) (now : Nat) (drawn : Drawn) :
    Except RolloutError (Db × Option RolloutError) := do
  let campaign ← orError (db.campaigns.find rolloutId) .unknownCampaign
  let current := campaign.state.status
  require (current.next.contains target) (.illegalTransition current target)
  if target = .rollingBack then
    let rolled ← startRollback db rolloutId now (if reason = "" then "人工回復" else reason) drawn
    return (rolled, if statusOf rolled rolloutId = some .failed then some .noRollbackIdentity else none)
  else if target = .expanding ∧ current ≠ .paused then
    let (evaluated, advanced) ← evaluateRollout db rolloutId now true drawn
    return (evaluated, if advanced then none else some .notReady)
  else return (setTransition db campaign target now, none)

/-- The transitions the API offers. -/
inductive Action where
  | approve | pause | resume | rollback
  deriving DecidableEq

def Action.target : Action → CampaignStatus
  | .approve => .expanding
  | .pause => .paused
  | .resume => .observing
  | .rollback => .rollingBack

/-! ### Edits of devices and releases -/

/-- What an edit of a device sets; `otherChange` stands for the remote settings rollouts do not read. -/
structure DeviceEdit where
  deviceId : String
  enabled : Bool
  deliveryMode : DeviceMode
  panelProfile : String
  otherChange : Bool := false

def remoteChanged (device : Device) (edit : DeviceEdit) : Bool :=
  device.enabled != edit.enabled || device.deliveryMode != edit.deliveryMode || device.panelProfile != edit.panelProfile ||
    edit.otherChange

/-- The queue rows that no longer fit the device: those of the other delivery mode, and under a changed
offline configuration all. -/
def incompatible (device : Device) (edit : DeviceEdit) (item : Item) : Bool :=
  match item.deliveryMode with
  | .onlineQueue => edit.deliveryMode == .inktimeOfflineSchedule
  | .offlineSchedule => edit.deliveryMode != .inktimeOfflineSchedule || device.deliveryMode == .inktimeOfflineSchedule

/-- `_is_future_queue_slot` -/
def isFuture (item : Item) (now : Nat) : Bool :=
  match item.displayAfter with
  | none => false
  | some displayAfter => now < displayAfter

/-- Rows `_supersede_future_queue_items` cancels. -/
def superseded (db : Db) (device : Device) (edit : DeviceEdit) (now : Nat) : List String :=
  (db.queue.items.rows.filter fun item => item.deviceId == edit.deviceId && !item.state.status.terminal &&
    incompatible device edit item && isFuture item now).map Item.id

/-- `_supersede_future_queue_items`, with the targets of the cancelled rows. -/
def supersedeItems (db : Db) (deviceId : String) (cancelled : List String) (now : Nat) : Db :=
  let queue := (db.queue.setItems (fun item => cancelled.contains item.id) fun state =>
    { state with status := .cancelled, lastErrorCode := some "QUEUE-005", updatedAt := now }).setHead deviceId fun state =>
      { state with queueVersion := state.queueVersion + cancelled.length }
  ({ db with queue }).setTargets (fun target => target.state.queueItemId.any cancelled.contains) fun state =>
    { state with status := .cancelledFutureSchedule, lastErrorCode := some "QUEUE-005", updatedAt := now }

/-- `DeviceRepository.update`, as far as rollouts see it. -/
def updateDevice (db : Db) (edit : DeviceEdit) (now : Nat) : Db :=
  match db.queue.devices.find edit.deviceId with
  | none => db
  | some device =>
    if !remoteChanged device edit then db
    else
      let devices := db.queue.devices.update (fun other => other.id == edit.deviceId) (fun other =>
        { other with
          enabled := edit.enabled
          deliveryMode := edit.deliveryMode
          offlinePrefetchAllowed := edit.deliveryMode == .inktimeOfflineSchedule
          panelProfile := edit.panelProfile }) fun _ => rfl
      supersedeItems { db with queue := { db.queue with devices } } edit.deviceId (superseded db device edit now) now

/-- The states a release can be brought into by publishing and by the removal of its payload. -/
def setRelease (db : Db) (releaseId : ReleaseId) (status : Queue.ReleaseStatus) (payloadPruned : Bool) : Db :=
  { db with queue := { db.queue with
      releases := db.queue.releases.update (fun release => release.id == releaseId)
        (fun release => { release with status, payloadPruned }) fun _ => rfl } }

/-! ### Runs -/

inductive Op where
  | create (rolloutId : String) (releaseId : ReleaseId) (stages : List StageRequest) (now : Nat)
  | start (rolloutId : String) (now : Nat) (drawn : Drawn)
  | transition (rolloutId : String) (action : Action) (reason : String) (now : Nat) (drawn : Drawn)
  | evaluate (now : Nat) (limit : Int) (drawn : Drawn)
  | queueAck (deviceId : String) (ack : Queue.Ack) (now : Nat) (drawn : Drawn)
  | updateDevice (edit : DeviceEdit) (now : Nat)
  | setRelease (releaseId : ReleaseId) (status : Queue.ReleaseStatus) (payloadPruned : Bool)

/-- The tables after a transaction; an exception inside it leaves them as they were. -/
def committed (outcome : Except RolloutError Db) (db : Db) : Db :=
  match outcome with
  | .ok db' => db'
  | .error _ => db

def step (db : Db) : Op → Db
  | .create rolloutId releaseId stages now => committed (createRollout db rolloutId releaseId stages now) db
  | .start rolloutId now drawn => committed (startRollout db rolloutId now drawn) db
  | .transition rolloutId action reason now drawn =>
    committed ((transitionRollout db rolloutId action.target reason now drawn).map Prod.fst) db
  | .evaluate now limit drawn => committed (evaluateRollouts db now limit drawn) db
  | .queueAck deviceId ack now drawn => committed (queueAck db deviceId ack now drawn) db
  | .updateDevice edit now => updateDevice db edit now
  | .setRelease releaseId status payloadPruned => setRelease db releaseId status payloadPruned

end InkTime.Rollouts
