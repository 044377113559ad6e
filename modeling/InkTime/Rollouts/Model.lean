import InkTime.Queue.Moves

/-!
# Rollouts

The tables `rollout_campaigns`, `rollout_stages` and `rollout_targets` beside the device queue, and the
statements of the rollout calls. `rollout_actions` and `rollout_health_events` are logs that no call reads.
-/

namespace InkTime.Rollouts

open Queue (ReleaseId Release ReleaseStatus Device DeviceMode Item ItemState ItemStatus)

inductive CampaignStatus where
  | draft | validating | canary | observing | expanding | paused | rollingBack
  | completed | rolledBack | failed | cancelled
  deriving DecidableEq, Repr

def CampaignStatus.text : CampaignStatus → String
  | .draft => "DRAFT"
  | .validating => "VALIDATING"
  | .canary => "CANARY"
  | .observing => "OBSERVING"
  | .expanding => "EXPANDING"
  | .paused => "PAUSED"
  | .rollingBack => "ROLLING_BACK"
  | .completed => "COMPLETED"
  | .rolledBack => "ROLLED_BACK"
  | .failed => "FAILED"
  | .cancelled => "CANCELLED"

/-- `ROLL_OUT_STATES` -/
def CampaignStatus.next : CampaignStatus → List CampaignStatus
  | .draft => [.validating, .cancelled]
  | .validating => [.canary, .failed, .cancelled]
  | .canary => [.observing, .paused, .rollingBack, .failed, .cancelled]
  | .observing => [.expanding, .paused, .rollingBack, .completed, .failed]
  | .expanding => [.observing, .paused, .rollingBack, .completed, .failed]
  | .paused => [.canary, .observing, .expanding, .rollingBack, .cancelled]
  | .rollingBack => [.rolledBack, .failed]
  | .completed | .rolledBack | .failed | .cancelled => []

/-- `('CANARY','OBSERVING','EXPANDING','PAUSED','ROLLING_BACK')` -/
def CampaignStatus.running : CampaignStatus → Bool
  | .canary | .observing | .expanding | .paused | .rollingBack => true
  | _ => false

/-- `{"CANARY", "OBSERVING", "EXPANDING", "ROLLING_BACK"}` -/
def CampaignStatus.evaluated : CampaignStatus → Bool
  | .canary | .observing | .expanding | .rollingBack => true
  | _ => false

/-- `{"ROLLING_BACK", "ROLLED_BACK", "COMPLETED", "FAILED", "CANCELLED"}`: no rollback starts from here. -/
def CampaignStatus.settled : CampaignStatus → Bool
  | .rollingBack | .rolledBack | .completed | .failed | .cancelled => true
  | _ => false

inductive StageStatus where
  | pending | active | completed
  deriving DecidableEq, Repr

inductive TargetStatus where
  | pending | inProgress | succeeded | failed | skippedIncompatibleOffline
  | rollbackPending | rollbackFailed | rollbackSkippedIncompatibleOffline | cancelledFutureSchedule
  deriving DecidableEq, Repr

/-- The columns that change, with the two keys of `config_json`. -/
structure CampaignState where
  status : CampaignStatus := .draft
  cohortDeviceIds : Option (List String) := none
  pauseStartedAt : Option Nat := none
  rollbackReason : Option String := none
  updatedAt : Nat := 0
  deriving DecidableEq

structure Campaign where
  id : String
  releaseId : ReleaseId
  state : CampaignState := {}
  deriving DecidableEq

structure StageState where
  status : StageStatus := .pending
  startedAt : Option Nat := none
  completedAt : Option Nat := none
  deriving DecidableEq

/-- A row of `rollout_stages`; a rate is the value of the stored double. -/
structure Stage where
  rolloutId : String
  stageNumber : Nat
  targetPercent : Nat
  minimumObservationMinutes : Nat := 30
  minimumSuccessfulDevices : Nat := 1
  maximumFailureRate : ℚ := 1 / 10
  maximumTimeoutRate : ℚ := 1 / 10
  minimumAckRate : ℚ := 9 / 10
  manualApprovalRequired : Bool := false
  ackTimeoutMinutes : Nat := 1440
  state : StageState := {}
  deriving DecidableEq

/-- `UNIQUE(rollout_id,stage_number)` -/
def Stage.key (stage : Stage) : String × Nat := (stage.rolloutId, stage.stageNumber)

structure TargetState where
  status : TargetStatus := .pending
  queueItemId : Option String := none
  lastErrorCode : Option String := none
  updatedAt : Nat := 0
  deriving DecidableEq

structure Target where
  rolloutId : String
  deviceId : String
  rollbackReleaseId : Option ReleaseId := none
  state : TargetState := {}
  deriving DecidableEq

/-- `UNIQUE(rollout_id,device_id)` -/
def Target.key (target : Target) : String × String := (target.rolloutId, target.deviceId)

structure Db where
  queue : Queue.Db
  campaigns : Table Campaign.id
  stages : Table Stage.key
  targets : Table Target.key

/-- Before the first campaign, with any queue. -/
def Db.start (queue : Queue.Db) : Db where
  queue := queue
  campaigns := Table.empty
  stages := Table.empty
  targets := Table.empty

inductive RolloutError where
  | thresholdOutOfRange
  | releaseNotPublished
  | unknownCampaign
  | notDraft
  | noStage
  | noOnlineCohort
  | tooFewDevices
  | deviceInOtherCampaign
  | stageNotStarted
  | illegalTransition (current target : CampaignStatus)
  | notReady
  | noRollbackIdentity
  | integrity
  | queue (error : Queue.QueueError)
  deriving DecidableEq

def RolloutError.message : RolloutError → String
  | .thresholdOutOfRange => "ROLLOUT-002 健康門檻必須介於 0 與 1"
  | .releaseNotPublished => "ROLLOUT-001 Release 不存在或不是已發布狀態"
  | .unknownCampaign => "ROLLOUT-001 找不到發布活動"
  | .notDraft => "ROLLOUT-001 只有 DRAFT 可開始 Canary"
  | .noStage => "ROLLOUT-001 發布活動沒有 Stage"
  | .noOnlineCohort => "ROLLOUT-005 沒有可用的線上 cohort；Enhanced offline 需使用 offline schedule"
  | .tooFewDevices => "ROLLOUT-002 最少成功裝置數超過可用 cohort"
  | .deviceInOtherCampaign => "ROLLOUT-002 裝置已有其他進行中的發布活動"
  | .stageNotStarted => "Invalid isoformat string: 'None'"
  | .illegalTransition current target => "ROLLOUT-001 " ++ current.text ++ " 不可轉為 " ++ target.text
  | .notReady => "ROLLOUT-002 觀察時間或健康門檻尚未通過，未擴大發布"
  | .noRollbackIdentity => "ROLLBACK-002 缺少可驗證的回復身分"
  | .integrity => "UNIQUE constraint failed"
  | .queue error => error.message

/-- A statement of the queue inside a rollout transaction. -/
def onQueue {α : Type} (outcome : Except Queue.QueueError α) : Except RolloutError α :=
  match outcome with
  | .ok result => .ok result
  | .error error => .error (.queue error)

lemma onQueue_eq_ok {α : Type} {outcome : Except Queue.QueueError α} {result : α} :
    onQueue outcome = .ok result ↔ outcome = .ok result := by
  cases outcome with
  | ok other => simp [onQueue]
  | error error => simp [onQueue]

def statusOf (db : Db) (rolloutId : String) : Option CampaignStatus :=
  (db.campaigns.find rolloutId).map fun campaign => campaign.state.status

/-- `delivery_mode='inktime_offline_schedule'` -/
def isOffline (db : Db) (deviceId : String) : Bool :=
  (db.queue.devices.find deviceId).any fun device => device.deliveryMode == .inktimeOfflineSchedule

namespace Db

/-! ### Statements -/

/-- `UPDATE rollout_campaigns SET ... WHERE id=?` -/
def setCampaign (db : Db) (rolloutId : String) (set : CampaignState → CampaignState) : Db :=
  { db with
    campaigns := db.campaigns.update (fun campaign => campaign.id == rolloutId)
      (fun campaign => { campaign with state := set campaign.state }) fun _ => rfl }

/-- `UPDATE rollout_stages SET ... WHERE ...` -/
def setStages (db : Db) (matching : Stage → Bool) (set : StageState → StageState) : Db :=
  { db with stages := db.stages.update matching (fun stage => { stage with state := set stage.state }) fun _ => rfl }

/-- `UPDATE rollout_targets SET ... WHERE ...` -/
def setTargets (db : Db) (matching : Target → Bool) (set : TargetState → TargetState) : Db :=
  { db with targets := db.targets.update matching (fun target => { target with state := set target.state }) fun _ => rfl }

def targetsOf (db : Db) (rolloutId : String) : List Target :=
  db.targets.rows.filter fun target => target.rolloutId == rolloutId

/-- The row a target's `queue_item_id` names. -/
def itemOf (db : Db) (target : Target) : Option Item := target.state.queueItemId.bind db.queue.items.find

@[simp] lemma setCampaign_queue (db : Db) (rolloutId : String) (set : CampaignState → CampaignState) :
    (db.setCampaign rolloutId set).queue = db.queue := rfl

@[simp] lemma setCampaign_targets (db : Db) (rolloutId : String) (set : CampaignState → CampaignState) :
    (db.setCampaign rolloutId set).targets = db.targets := rfl

@[simp] lemma setStages_queue (db : Db) (matching : Stage → Bool) (set : StageState → StageState) :
    (db.setStages matching set).queue = db.queue := rfl

@[simp] lemma setStages_campaigns (db : Db) (matching : Stage → Bool) (set : StageState → StageState) :
    (db.setStages matching set).campaigns = db.campaigns := rfl

@[simp] lemma setStages_targets (db : Db) (matching : Stage → Bool) (set : StageState → StageState) :
    (db.setStages matching set).targets = db.targets := rfl

@[simp] lemma setTargets_queue (db : Db) (matching : Target → Bool) (set : TargetState → TargetState) :
    (db.setTargets matching set).queue = db.queue := rfl

@[simp] lemma setTargets_campaigns (db : Db) (matching : Target → Bool) (set : TargetState → TargetState) :
    (db.setTargets matching set).campaigns = db.campaigns := rfl

end Db

/-! ### Rates -/

/-- `x / b` to the nearest integer, ties to even. -/
def roundHalfEven (x b : Nat) : Nat :=
  if 2 * (x % b) < b then x / b
  else if b < 2 * (x % b) then x / b + 1
  else x / b + (x / b) % 2

/-- `a / b` for counts `a ≤ b`, as the double nearest to the quotient. -/
def trueDivision (a b : Nat) : ℚ :=
  if a = 0 then 0
  else
    let wide := 53 + b.log2 - a.log2
    let shift := if a * 2 ^ wide < b * 2 ^ 53 then wide else wide - 1
    roundHalfEven (a * 2 ^ shift) b / (2 ^ shift : ℚ)

/-- `"TIMEOUT" in str(last_error_code or "")` -/
def mentionsTimeout (errorCode : Option String) : Bool :=
  (errorCode.getD "").toList.tails.any fun rest => rest.take 7 == "TIMEOUT".toList

/-- A minute, in microseconds. -/
def minute : Nat := 60000000

end InkTime.Rollouts
