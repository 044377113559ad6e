import InkTime.Library.Table
import InkTime.Schedule.Rules

/-!
# Devices

Rows of `devices` with the settings an administrator owns and the credential a device presents, `DeviceRepository.update`
and `DeviceRepository.authenticate`. Times are microseconds.
-/

namespace InkTime.Devices

open Texts (strip)
open Checked (require orError)
open Schedule (DeliveryMode SyncStrategy CapabilityState Refused)

/-! ### Rows -/

inductive ButtonWakeAction where
  | checkNew | localNext
  deriving DecidableEq, Repr

inductive FrameOrientation where
  | portrait | landscape
  deriving DecidableEq, Repr

inductive LayoutMode where
  | adaptiveMemory | full | postcard | photoInfo | photoPair | calendar | weatherSensor
  deriving DecidableEq, Repr

inductive FitMode where
  | stretchFill | contain | cover
  deriving DecidableEq, Repr

inductive AuthMode where
  | automatic | legacyToken | stock
  deriving DecidableEq, Repr

inductive PairingState where
  | unpaired | pairingPending | paired | revoked | authInvalid | pairingExpired
  deriving DecidableEq, Repr

def ButtonWakeAction.ofText : String → Option ButtonWakeAction
  | "check_new" => some .checkNew
  | "local_next" => some .localNext
  | _ => none

def ButtonWakeAction.text : ButtonWakeAction → String
  | .checkNew => "check_new"
  | .localNext => "local_next"

def FrameOrientation.ofText : String → Option FrameOrientation
  | "portrait" => some .portrait
  | "landscape" => some .landscape
  | _ => none

def FrameOrientation.text : FrameOrientation → String
  | .portrait => "portrait"
  | .landscape => "landscape"

def LayoutMode.ofText : String → Option LayoutMode
  | "adaptive_memory" => some .adaptiveMemory
  | "full" => some .full
  | "postcard" => some .postcard
  | "photo_info" => some .photoInfo
  | "photo_pair" => some .photoPair
  | "calendar" => some .calendar
  | "weather_sensor" => some .weatherSensor
  | _ => none

def LayoutMode.text : LayoutMode → String
  | .adaptiveMemory => "adaptive_memory"
  | .full => "full"
  | .postcard => "postcard"
  | .photoInfo => "photo_info"
  | .photoPair => "photo_pair"
  | .calendar => "calendar"
  | .weatherSensor => "weather_sensor"

def FitMode.ofText : String → Option FitMode
  | "stretch_fill" => some .stretchFill
  | "contain" => some .contain
  | "cover" => some .cover
  | _ => none

def FitMode.text : FitMode → String
  | .stretchFill => "stretch_fill"
  | .contain => "contain"
  | .cover => "cover"

/-- A schedule column: the items of a JSON array, a text or not, and nothing where the column holds no array. -/
abbrev Stored := Option (List (Option String))

/-- What the administrator sets. -/
structure Settings where
  name : String
  timezone : String
  schedule : String
  scheduleTimes : Stored
  rotation : Int
  panelProfile : String
  deliveryMode : DeliveryMode
  prefetchLeadMinutes : Int
  buttonWakeAction : ButtonWakeAction
  minimumScheduleGapMinutes : Int
  syncStrategy : SyncStrategy
  syncTime : Option String
  frameOrientation : Option FrameOrientation
  layoutMode : Option LayoutMode
  fitMode : Option FitMode
  deriving DecidableEq

structure Device where
  id : String
  settings : Settings
  tokenHash : String
  enabled : Bool
  offlineSchedule : Stored
  offlinePrefetchAllowed : Bool
  offlineScheduleVersion : Nat
  offlineScheduleMaxSlots : Nat
  offlineScheduleCapabilityState : CapabilityState
  nextOfflinePrepareAt : Option Nat := none
  stockEndpointHost : Option String := none
  authMode : AuthMode
  pairingState : PairingState
  credentialVersion : Nat := 0
  deviceSecretHash : Option String := none
  pairedAt : Option Nat := none
  lastAuthAt : Option Nat := none
  authRevokedAt : Option Nat := none
  repairAllowedUntil : Option Nat := none
  pairingExpiresAt : Option Nat := none
  firmwareVersion : Option String := none
  firmwareIdentity : Option String := none
  configVersion : Nat := 1
  updatedAt : Nat

/-- An attempt that failed; the latest first. -/
structure Failure where
  ipHash : String
  attemptedAt : Nat
  deriving DecidableEq

structure Store where
  devices : Table Device.id
  authFailures : List Failure

/-! ### Hashes -/

/-- What the code takes from its libraries: `hmac.new(pepper, text, sha256).hexdigest()`, whose digests are taken as distinct,
and the time zones that `ZoneInfo` knows. -/
structure Runtime where
  mac : String → String
  mac_injective : Function.Injective mac
  zone : String → Bool

section Hashes

variable (runtime : Runtime)

def hashDeviceToken (token : String) : String := runtime.mac token

def hashDomain (value purpose : String) : String := runtime.mac (purpose ++ "\x00" ++ value)

def hashDeviceSecret (secret : String) : String := hashDomain runtime secret "device-secret-v1"

end Hashes

/-! ### `DeviceRepository.update` -/

inductive Problem where
  | keyError
  | valueError (message : String)
  | rateLimited
  deriving DecidableEq, Repr

/-- The arguments. A render input that is not given stays. -/
structure Changes where
  name : String
  enabled : Bool
  timezoneName : String
  schedule : String
  deliveryMode : String := "legacy_online"
  offlinePrefetchAllowed : Option Bool := none
  offlineSchedule : Option (List String) := none
  scheduleTimes : Option (List String) := none
  explicitScheduleReplacement : Option Bool := none
  prefetchLeadMinutes : Int := 5
  buttonWakeAction : String := "check_new"
  minimumScheduleGapMinutes : Int := 60
  syncStrategy : String := "first_display_lead"
  syncTime : Option String := none
  stockEndpointHost : Option String := none
  rotation : Int
  panelProfile : String
  frameOrientation : Option (Option FrameOrientation) := none
  layoutMode : Option (Option LayoutMode) := none
  fitMode : Option (Option FitMode) := none
  expectedConfigVersion : Option Int := none
  expectedUpdatedAt : Option Nat := none

/-- `text or None` -/
def nonempty (text : Option String) : Option String := text.filter (· ≠ "")

def ofRefused {α : Type} : Except Refused α → Except Problem α
  | .error refused => .error (.valueError refused.message)
  | .ok value => .ok value

def textOrNull (text : Option String) : Json.Value :=
  match text with
  | some text => .str (.utf8 text)
  | none => .null

/-- The schedule that is kept where none is given. -/
def existingSchedule (current : Device) : List (Option String) :=
  match current.settings.scheduleTimes, current.offlineSchedule with
  | some (first :: rest), _ => first :: rest
  | _, some (first :: rest) => first :: rest
  | _, _ => []

section Update

variable (current : Device) (changes : Changes)

def explicitScheduleChanged : Bool :=
  changes.explicitScheduleReplacement.getD (
    (changes.scheduleTimes.any fun times => current.settings.scheduleTimes != some (times.map some)) ||
    (changes.scheduleTimes.isNone &&
      changes.offlineSchedule.any fun times => current.offlineSchedule != some (times.map some)))

def selectedSchedule : List (Option String) :=
  match changes.scheduleTimes.orElse fun _ => changes.offlineSchedule with
  | some times => times.map some
  | none =>
    if (existingSchedule current).length ≤ 1 then [some changes.schedule] else existingSchedule current

def scheduleWasModified : Bool :=
  explicitScheduleChanged current changes || current.settings.schedule != changes.schedule ||
    current.settings.minimumScheduleGapMinutes != changes.minimumScheduleGapMinutes

def renderInputsChanged (updated : Settings) : Bool :=
  current.settings.panelProfile != updated.panelProfile || current.settings.rotation != updated.rotation ||
    current.settings.frameOrientation != updated.frameOrientation || current.settings.layoutMode != updated.layoutMode ||
    current.settings.fitMode != updated.fitMode

def offlineScheduleChanged (updated : Settings) (prefetchAllowed : Bool) : Bool :=
  current.settings.timezone != updated.timezone || scheduleWasModified current changes ||
    current.settings.deliveryMode != updated.deliveryMode || current.offlinePrefetchAllowed != prefetchAllowed ||
    current.settings.prefetchLeadMinutes != updated.prefetchLeadMinutes ||
    current.settings.buttonWakeAction != updated.buttonWakeAction ||
    current.settings.minimumScheduleGapMinutes != updated.minimumScheduleGapMinutes ||
    current.settings.syncStrategy != updated.syncStrategy ||
    nonempty current.settings.syncTime != nonempty updated.syncTime

/-- `classify_device_configuration_changes(...).remote_config_changed` -/
def remoteConfigChanged (updated : Settings) (prefetchAllowed : Bool) : Bool :=
  renderInputsChanged current updated || offlineScheduleChanged current changes updated prefetchAllowed ||
    current.enabled != changes.enabled || nonempty current.stockEndpointHost != nonempty changes.stockEndpointHost

/-- An ambiguous schedule that nobody touches is left as it is stored. -/
def preserveQuarantinedSchedule (mode : DeliveryMode) : Bool :=
  current.offlineScheduleCapabilityState == .legacyAmbiguous && !scheduleWasModified current changes &&
    (!changes.enabled || mode != .offlineSchedule)

/-- What is stored of the schedule: `schedule`, `schedule_times_json` and `offline_schedule_json`. -/
def updatedSchedule (mode : DeliveryMode) : Except Problem (String × Stored × Stored) :=
  if preserveQuarantinedSchedule current changes mode then
    .ok (current.settings.schedule, current.settings.scheduleTimes, current.offlineSchedule)
  else do
    let values ← ofRefused (Schedule.validateOfflineSchedule (selectedSchedule current changes)
      (Schedule.resolveOfflineScheduleMaxSlots (.int current.offlineScheduleMaxSlots)) changes.minimumScheduleGapMinutes)
    return (values.headD "", some (values.map some), some (values.map some))

/-- The row as the update leaves it, and whether it is written at all. -/
def updatedDevice (now : Nat) : Except Problem (Device × Bool) := do
  require (changes.expectedConfigVersion.all (· == (current.configVersion : Int)))
    (.valueError "DEVICE-008 設定已被其他管理員修改，請重新載入")
  require (changes.expectedUpdatedAt.all (· == current.updatedAt)) (.valueError "DEVICE-008 設定已更新，請重新載入")
  let mode ← orError (DeliveryMode.ofText (strip changes.deliveryMode)) (.valueError "DEVICE-008 delivery_mode 不合法")
  let prefetchAllowed ← ofRefused (Schedule.normalizeDeliveryContract mode changes.offlinePrefetchAllowed)
  require (!(mode == .stockCompat && current.authMode == .automatic))
    (.valueError "DEVICE-011 自動配對裝置不可直接切換 Stock 相容模式；請建立獨立 Stock 裝置")
  let authMode := if mode = .stockCompat then .stock else if current.authMode = .stock then .legacyToken else current.authMode
  let pairingState := if authMode ≠ .automatic then .paired else current.pairingState
  require (30 ≤ changes.minimumScheduleGapMinutes && changes.minimumScheduleGapMinutes ≤ 360)
    (.valueError "DEVICE-008 minimum_schedule_gap_minutes 必須介於 30 到 360")
  require (!(current.offlineScheduleCapabilityState == .legacyAmbiguous && !scheduleWasModified current changes &&
      !preserveQuarantinedSchedule current changes mode))
    (.valueError "DEVICE-008 隔離中的離線排程必須先停用、切離離線模式，或明確提交有效替代排程")
  let stored ← updatedSchedule current changes mode
  require (0 ≤ changes.prefetchLeadMinutes && changes.prefetchLeadMinutes ≤ 120)
    (.valueError "DEVICE-008 prefetch_lead_minutes 必須介於 0 到 120")
  let button ← orError (ButtonWakeAction.ofText changes.buttonWakeAction) (.valueError "DEVICE-008 button_wake_action 不合法")
  let sync ← ofRefused (Schedule.normalizeSyncStrategy (.str (.utf8 changes.syncStrategy)) (textOrNull changes.syncTime))
  let updated : Settings := {
    name := strip changes.name
    timezone := changes.timezoneName
    schedule := stored.1
    scheduleTimes := stored.2.1
    rotation := changes.rotation
    panelProfile := changes.panelProfile
    deliveryMode := mode
    prefetchLeadMinutes := changes.prefetchLeadMinutes
    buttonWakeAction := button
    minimumScheduleGapMinutes := changes.minimumScheduleGapMinutes
    syncStrategy := sync.1
    syncTime := sync.2
    frameOrientation := changes.frameOrientation.getD current.settings.frameOrientation
    layoutMode := changes.layoutMode.getD current.settings.layoutMode
    fitMode := changes.fitMode.getD current.settings.fitMode }
  let remoteChanged := remoteConfigChanged current changes updated prefetchAllowed
  let scheduleChanged := offlineScheduleChanged current changes updated prefetchAllowed &&
    !preserveQuarantinedSchedule current changes mode
  return ({ current with
      settings := updated
      enabled := changes.enabled
      offlinePrefetchAllowed := prefetchAllowed
      offlineSchedule := stored.2.2
      stockEndpointHost := changes.stockEndpointHost
      offlineScheduleVersion := current.offlineScheduleVersion + if scheduleChanged then 1 else 0
      nextOfflinePrepareAt :=
        if mode ≠ .offlineSchedule ∨ changes.enabled = false then none
        else if remoteChanged then some 0
        else current.nextOfflinePrepareAt
      authMode
      pairingState
      configVersion := current.configVersion + if remoteChanged then 1 else 0
      updatedAt := now },
    remoteChanged || current.settings.name != updated.name)

end Update

def update (store : Store) (now : Nat) (deviceId : String) (changes : Changes) : Except Problem (Store × Bool) := do
  let current ← orError (store.devices.find deviceId) .keyError
  let (updated, written) ← updatedDevice current changes now
  return (if written then { store with devices := store.devices.put updated } else store, written)

/-! ### `DeviceRepository.authenticate` -/

section Authenticate

variable (runtime : Runtime)

def byId (first second : Device) : Prop := first.id ≤ second.id

instance : DecidableRel byId := fun first second => inferInstanceAs (Decidable (first.id ≤ second.id))

/-- The rows that may carry the token, `ORDER BY id`. -/
def candidates (store : Store) (token : String) : List Device :=
  (store.devices.rows.filter fun device =>
    device.enabled && (device.tokenHash == hashDeviceToken runtime token || device.tokenHash == hashDeviceSecret runtime token ||
      device.deviceSecretHash == some (hashDeviceToken runtime token) ||
      device.deviceSecretHash == some (hashDeviceSecret runtime token))).insertionSort byId

/-- One turn of the loop over the candidates. -/
def accepts (now : Nat) (token : String) (credentialVersion : Option Int) (allowRepair : Bool) (candidate : Device) : Bool :=
  if !allowRepair && candidate.authMode != .automatic && candidate.tokenHash == hashDeviceToken runtime token then true
  else if candidate.authMode ≠ .automatic then false
  else
    let repairAuthorized := allowRepair && candidate.pairingState == .pairingPending && candidate.authRevokedAt.isSome &&
      candidate.repairAllowedUntil.any fun deadline => now < deadline
    if allowRepair && !repairAuthorized then false
    else if candidate.pairingState ≠ .paired && !repairAuthorized then false
    else
      (candidate.deviceSecretHash == some (hashDeviceSecret runtime token) ||
        candidate.deviceSecretHash == some (hashDeviceToken runtime token)) &&
      credentialVersion == some (candidate.credentialVersion : Int)

def newestFirst (first second : Failure) : Prop := second.attemptedAt ≤ first.attemptedAt

instance : DecidableRel newestFirst := fun first second => inferInstanceAs (Decidable (second.attemptedAt ≤ first.attemptedAt))

def failureWindow : Nat := 5 * 60 * 1000000

def failureLimit : Nat := 20

def failureMaxRows : Nat := 10000

def timestampUpdateInterval : Nat := 60 * 1000000

def authenticate (store : Store) (now : Nat) (token ipAddress : String) (credentialVersion : Option Int) (allowRepair : Bool) :
    Except Problem (Store × Option Device) :=
  match (candidates runtime store token).find? (accepts runtime now token credentialVersion allowRepair) with
  | some row =>
    let due := row.lastAuthAt.all fun lastAuthAt => timestampUpdateInterval ≤ now - lastAuthAt
    let seen := { row with
      lastAuthAt := if due then some now else row.lastAuthAt
      updatedAt := now }
    .ok ({ store with devices := store.devices.put seen }, some row)
  | none => do
    let ipHash := hashDeviceToken runtime (String.ofList (ipAddress.toList.take 64))
    let recent := store.authFailures.filter fun failure => now - failureWindow ≤ failure.attemptedAt
    require (recent.countP (fun failure => failure.ipHash == ipHash) < failureLimit) .rateLimited
    let kept := ((⟨ipHash, now⟩ :: recent).insertionSort newestFirst).take failureMaxRows
    return ({ store with authFailures := kept }, none)

end Authenticate

end InkTime.Devices
