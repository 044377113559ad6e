import InkTime.Devices.Model
import InkTime.Library.Runs

/-!
# Pairing

`DevicePairingService`: a device asks for a credential, an administrator or the trusted LAN approves, the device claims the
credential and confirms it. The encrypted envelope of a request is kept as what it decrypts to. A call that raises leaves the
tables as they were.
-/

namespace InkTime.Pairing

open Texts (strip)
open Checked (require orError)
open Devices (Device Settings Runtime)
open Json (Value Text)

/-! ### Rows -/

inductive Status where
  | pending | approved | credentialIssued | confirmed | rejected | expired
  deriving DecidableEq, Repr

/-- `status IN ('pending','approved','credential_issued')` -/
def Status.active : Status → Bool
  | .pending | .approved | .credentialIssued => true
  | _ => false

/-- A value of a capability. -/
inductive Scalar where
  | text (value : String)
  | bool (value : Bool)
  | int (value : Int)
  | other
  deriving DecidableEq

def Scalar.value : Scalar → Value
  | .text value => .str (.utf8 value)
  | .bool value => .bool value
  | .int value => .int value
  | .other => .null

/-- A JSON object of capabilities; the last of equal names counts. -/
abbrev Capabilities := List (String × Scalar)

def Capabilities.get (capabilities : Capabilities) (name : String) : Option Scalar :=
  (capabilities.reverse.find? fun field => field.1 == name).map Prod.snd

/-- `capabilities["_enrollment_mode"] = ...` -/
def Capabilities.mark (capabilities : Capabilities) (trustedLan : Bool) : Capabilities :=
  capabilities ++ [("_enrollment_mode", .text (if trustedLan then "trusted_lan" else "administrator"))]

def capabilityMaxSlots (capabilities : Capabilities) : Nat :=
  Schedule.resolveOfflineScheduleMaxSlots (((Capabilities.get capabilities "offline_schedule_max_slots").map Scalar.value).getD .null)

/-- A JSON object; the last of equal keys counts. -/
abbrev Fields := List (Text × Value)

def Fields.get (fields : Fields) (key : String) (default : Value) : Value := ((Value.object fields).field key).getD default

structure Envelope where
  deviceId : String
  deviceSecret : String
  credentialVersion : Nat
  config : Fields
  firmwareVersion : String
  firmwareIdentity : String
  offlineScheduleMaxSlots : Nat

structure Request where
  id : String
  deviceId : String
  pairingNonceHash : String
  firmwareIdentity : String
  firmwareVersion : Option String
  capabilities : Capabilities
  config : Fields
  expiresAt : Nat
  requestedAt : Nat
  claimAttempts : Nat := 0
  status : Status := .pending
  approvedAt : Option Nat := none
  approvedBy : Option String := none
  envelope : Option Envelope := none
  envelopeExpiresAt : Option Nat := none

structure RateLimit where
  scope : String
  scopeHash : String
  attemptedAt : Nat
  deriving DecidableEq

structure Db where
  store : Devices.Store
  requests : Table Request.id
  rateLimits : List RateLimit := []
  users : List String := []

def Db.device (db : Db) (deviceId : String) : Option Device := db.store.devices.find deviceId

def Db.putDevice (db : Db) (device : Device) : Db :=
  { db with store := { db.store with devices := db.store.devices.put device } }

def Db.putRequest (db : Db) (row : Request) : Db := { db with requests := db.requests.put row }

inductive Failure where
  /-- `DevicePairingError` -/
  | pairing (statusCode : Nat) (errorCode : String)
  | keyError
  /-- `sqlite3.IntegrityError` -/
  | integrity
  | device (problem : Devices.Problem)
  deriving DecidableEq, Repr

def invalid : Failure := .pairing 400 "PAIR-004"

/-! ### Validation -/

def validateText (value : Value) (maximum : Nat) (required : Bool) : Except Failure String := do
  let text ← match value with
    | .null => .ok ""
    | .str (.utf8 text) => .ok (strip text)
    | _ => .error invalid
  require (!(required && text == "")) invalid
  require (text.length ≤ maximum) invalid
  return text

def ofText (text : String) : Value := .str (.utf8 text)

/-- `DEVICE_ID_PATTERN` -/
def deviceIdPattern (text : String) : Bool :=
  match text.toList with
  | [] => false
  | first :: rest =>
    first.isAlphanum && rest.length ≤ 127 && rest.all fun c => c.isAlphanum || c == '.' || c == '_' || c == ':' || c == '-'

def validateDeviceId (value : Value) : Except Failure String := do
  let deviceId ← validateText value 128 true
  require (deviceIdPattern deviceId) invalid
  return deviceId

/-- `_capabilities` of a JSON object, or of anything else. -/
def acceptCapabilities (value : Option Capabilities) : Except Failure Capabilities := do
  let fields ← orError value invalid
  require (fields.length ≤ 32) invalid
  require (fields.all fun field => strip field.1 ≠ "" && (strip field.1).length ≤ 64) invalid
  require (fields.all fun field => field.2 ≠ .other) invalid
  require (fields.all fun field => match field.2 with
    | .text value => value.length ≤ 128
    | _ => true) invalid
  return fields.map fun field => (strip field.1, field.2)

/-- `_schedule_values` -/
def scheduleValues (raw : Value) (fallback : String) (minimumGapMinutes : Int) (maximum : Nat) : Except Failure (List String) := do
  let values ← match raw with
    | .null => .ok [fallback]
    | .str (.utf8 text) => .ok (((text.splitOn ",").map strip).filter (· ≠ ""))
    | .array items => orError ((items.mapM Schedule.textOf).map fun texts => (texts.map strip).filter (· ≠ "")) invalid
    | _ => .error invalid
  require (values ≠ [] && values.length ≤ maximum && values.all Schedule.isTime) invalid
  let minutes := values.filterMap Schedule.scheduleMinutes
  require ((minutes.zip minutes.tail).all fun pair => pair.1 < pair.2) invalid
  match Schedule.validateOfflineSchedule (values.map some) maximum minimumGapMinutes with
  | .error _ => .error invalid
  | .ok _ => return values

/-- A text of an enumeration, or nothing for the empty text. -/
def optionalMode {α : Type} (read : String → Option α) (value : Value) (maximum : Nat) : Except Failure (Option α) := do
  let text ← validateText value maximum false
  if text = "" then return none
  else do
    let mode ← orError (read text) invalid
    return some mode

def integerBetween (value : Value) (low high : Int) : Except Failure Int :=
  match value with
  | .int value => if low ≤ value ∧ value ≤ high then .ok value else .error invalid
  | _ => .error invalid

section Normalize

variable (runtime : Runtime)

def normalizeConfig (source : Fields) (fallbackName : String) (offlineScheduleMaxSlots : Nat) : Except Failure Settings := do
  let maximum := Schedule.resolveOfflineScheduleMaxSlots (.int offlineScheduleMaxSlots)
  let name ← validateText (source.get "name" .null) 100 false
  let timezone ← validateText (source.get "timezone" (ofText "Asia/Taipei")) 64 false
  require (runtime.zone timezone) invalid
  let schedule ← validateText (source.get "schedule" (ofText "08:00")) 5 true
  require (Schedule.isTime schedule) invalid
  let gap ← integerBetween (source.get "minimum_schedule_gap_minutes" (.int 60)) 30 360
  let sync ← (Schedule.normalizeSyncStrategy (source.get "sync_strategy" (ofText "first_display_lead"))
    (source.get "sync_time" .null)).mapError fun _ => invalid
  let times ← scheduleValues (source.get "schedule_times" .null) schedule gap maximum
  let rotation ← integerBetween (source.get "rotation" (.int 0)) 0 180
  require (rotation = 0 || rotation = 180) invalid
  let panelProfile ← validateText (source.get "panel_profile" (ofText "safe_4c")) 128 true
  let modeText ← validateText (source.get "delivery_mode" (ofText "legacy_online")) 64 false
  let deliveryMode ← orError ((Schedule.DeliveryMode.ofText modeText).filter (· ≠ .stockCompat)) (.pairing 409 "PAIR-003")
  let lead ← integerBetween (source.get "prefetch_lead_minutes" (.int 5)) 0 120
  let buttonText ← validateText (source.get "button_wake_action" (ofText "check_new")) 64 false
  let button ← orError (Devices.ButtonWakeAction.ofText buttonText) invalid
  let orientation ← optionalMode Devices.FrameOrientation.ofText (source.get "frame_orientation" .null) 32
  let layout ← optionalMode Devices.LayoutMode.ofText (source.get "layout_mode" .null) 64
  let fit ← optionalMode Devices.FitMode.ofText (source.get "fit_mode" .null) 32
  return {
    name := if name = "" then fallbackName else name
    timezone := timezone
    schedule := if schedule ∈ times then schedule else times.headD ""
    scheduleTimes := some (times.map some)
    rotation := rotation
    panelProfile := panelProfile
    deliveryMode := deliveryMode
    prefetchLeadMinutes := lead
    buttonWakeAction := button
    minimumScheduleGapMinutes := gap
    syncStrategy := sync.1
    syncTime := sync.2
    frameOrientation := orientation
    layoutMode := layout
    fitMode := fit }

end Normalize

def textOrNull (text : Option String) : Value := Devices.textOrNull text

/-- The settings as a JSON object. -/
def settingsFields (settings : Settings) : Fields :=
  [(.utf8 "name", ofText settings.name), (.utf8 "timezone", ofText settings.timezone),
    (.utf8 "schedule", ofText settings.schedule), (.utf8 "rotation", .int settings.rotation),
    (.utf8 "panel_profile", ofText settings.panelProfile), (.utf8 "delivery_mode", ofText settings.deliveryMode.text),
    (.utf8 "prefetch_lead_minutes", .int settings.prefetchLeadMinutes),
    (.utf8 "button_wake_action", ofText settings.buttonWakeAction.text),
    (.utf8 "minimum_schedule_gap_minutes", .int settings.minimumScheduleGapMinutes),
    (.utf8 "sync_strategy", ofText settings.syncStrategy.text), (.utf8 "sync_time", textOrNull settings.syncTime),
    (.utf8 "frame_orientation", textOrNull (settings.frameOrientation.map Devices.FrameOrientation.text)),
    (.utf8 "layout_mode", textOrNull (settings.layoutMode.map Devices.LayoutMode.text)),
    (.utf8 "fit_mode", textOrNull (settings.fitMode.map Devices.FitMode.text))]

def scheduleArray (items : List (Option String)) : Value := .array (items.map textOrNull)

/-- A normalized configuration, as it is stored and sealed. -/
def configFields (settings : Settings) (maximumSlots : Nat) : Fields :=
  settingsFields settings ++
    [(.utf8 "schedule_times", scheduleArray (settings.scheduleTimes.getD [])), (.utf8 "stock_endpoint_host", .null),
      (.utf8 "offline_schedule_max_slots", .int maximumSlots)]

/-- `text or default` -/
def orDefault (text default : String) : String := if text = "" then default else text

/-- The settings of a row as a request reads them. -/
def configSource (device : Device) : Fields :=
  settingsFields { device.settings with
    timezone := orDefault device.settings.timezone "Asia/Taipei"
    schedule := orDefault device.settings.schedule "08:00"
    panelProfile := orDefault device.settings.panelProfile "safe_4c" } ++
    if Devices.existingSchedule device = [] then []
    else [(.utf8 "schedule_times", scheduleArray (Devices.existingSchedule device))]

/-! ### Capability conflicts -/

/-- `_capability_conflict`, with the number of slots where there is a list of them. -/
def capabilityConflict (stored advertised : Nat) (slots : Option Nat) : Bool :=
  let stored := Schedule.resolveOfflineScheduleMaxSlots (.int stored)
  let advertised := Schedule.resolveOfflineScheduleMaxSlots (.int advertised)
  !(stored ≤ advertised) && slots.any fun slots => advertised < slots

def conflictValue (stored advertised slots : Nat) : Value :=
  .object [(.utf8 "error_code", ofText "PAIR-CAPABILITY-CONFLICT"), (.utf8 "stored_max_slots", .int stored),
    (.utf8 "advertised_max_slots", .int advertised), (.utf8 "schedule_count", .int slots),
    (.utf8 "message", ofText ("裝置目前保留 " ++ toString stored ++ "-slot 排程，但本次配對只宣告 " ++ toString advertised ++
      "-slot capability；已保留設定並等待管理員處理"))]

/-- `_stored_capability_conflict(...) is not None` -/
def storedCapabilityConflict (config : Fields) : Bool :=
  ((config.get "capability_conflict" .null).get "error_code").isText "PAIR-CAPABILITY-CONFLICT"

def arrayLength : Value → Option Nat
  | .array items => some items.length
  | _ => none

/-! ### Expiry -/

def pairingTtl : Nat := 5 * 60 * 1000000

def lanPairingTtl : Nat := 24 * 60 * 60 * 1000000

def pairingRetention : Nat := 24 * 60 * 60 * 1000000

def pairingRateWindow : Nat := 5 * 60 * 1000000

def repairPermissionTtl : Nat := 10 * 60 * 1000000

def timeToLive (trustedLan : Bool) : Nat := if trustedLan then lanPairingTtl else pairingTtl

def storedLanRequest (row : Request) : Bool := Capabilities.get row.capabilities "_enrollment_mode" == some (.text "trusted_lan")

/-- Requests that `_expire_requests` ends. -/
def expires (trustedLan : Bool) (now : Nat) (row : Request) : Bool :=
  row.status.active && (row.expiresAt ≤ now ||
    (row.status == .credentialIssued && row.envelopeExpiresAt.any (· ≤ now)) || (!trustedLan && storedLanRequest row))

def Request.end (row : Request) (status : Status) : Request :=
  { row with status, envelope := none, envelopeExpiresAt := none }

/-- The device of a request that expires. -/
def expireDevice (now : Nat) (device : Device) : Device :=
  { device with
    pairingState := if device.authRevokedAt.isNone then .pairingExpired else device.pairingState
    pairingExpiresAt := none
    updatedAt := now }

def expireRequests (trustedLan : Bool) (now : Nat) (db : Db) : Db :=
  { db with
    store := { db.store with
      devices := db.store.devices.update
        (fun device => device.pairingState == .pairingPending &&
          db.requests.any fun row => expires trustedLan now row && row.deviceId == device.id)
        (expireDevice now) fun _ => rfl }
    requests :=
      (db.requests.update (expires trustedLan now) (fun row => row.end .expired) fun _ => rfl).delete fun row =>
        (row.status == .rejected || row.status == .expired) && row.expiresAt < now - pairingRetention }

def laterFirst (first second : Request) : Prop := second.requestedAt ≤ first.requestedAt

instance : DecidableRel laterFirst := fun first second => inferInstanceAs (Decidable (second.requestedAt ≤ first.requestedAt))

def activeRequest (db : Db) (deviceId : String) : Option Request :=
  ((db.requests.rows.filter fun row => row.deviceId == deviceId && row.status.active).insertionSort laterFirst).head?

/-! ### Approval -/

section Operations

variable (runtime : Runtime) (trustedLan : Bool) (now : Nat)

def nonceHash (nonce : String) : String := Devices.hashDomain runtime nonce "pairing-nonce-v1"

def lastSix (text : String) : String := String.ofList (text.toList.drop (text.toList.length - 6))

def fallbackName (deviceId : String) : String := "InkTime 相框 " ++ lastSix deviceId

def take128 (text : String) : String := String.ofList (text.toList.take 128)

/-- States in which a device is not paired again. -/
def closedToPairing : Devices.PairingState → Bool
  | .paired | .revoked | .authInvalid => true
  | _ => false

/-- The configuration that is approved: what the request holds, what the administrator adds, and the name and the panel of
the row as it is now. -/
def mergedConfig (row : Request) (deviceConfig : Fields) : Option Device → Fields
  | none => row.config ++ deviceConfig
  | some device =>
    let merged := row.config ++ deviceConfig
    merged ++
      [(.utf8 "name", if device.settings.name = "" then merged.get "name" .null else ofText device.settings.name),
        (.utf8 "panel_profile", if device.settings.panelProfile = "" then
          (merged.get "panel_profile" .null).orElse (ofText "safe_4c") else ofText device.settings.panelProfile)]

def approveRequest (db : Db) (row : Request) (administratorId : Option String) (deviceConfig : Fields) : Except Failure Db := do
  let device := db.device row.deviceId
  require (device.all fun device => device.authMode == .automatic && device.settings.deliveryMode != .stockCompat)
    (.pairing 409 "PAIR-003")
  require (device.all fun device => !closedToPairing device.pairingState) (.pairing 409 "PAIR-003")
  let merged := mergedConfig row deviceConfig device
  let maximum := capabilityMaxSlots row.capabilities
  require (!capabilityConflict ((device.map Device.offlineScheduleMaxSlots).getD maximum) maximum
    (arrayLength (merged.get "schedule_times" .null))) (.pairing 409 "PAIR-CAPABILITY-CONFLICT")
  let settings ← normalizeConfig runtime merged (fallbackName row.deviceId) maximum
  require (administratorId.all fun administrator => db.users.contains (take128 administrator)) .integrity
  return db.putRequest { row with
    status := .approved
    approvedAt := some now
    approvedBy := administratorId.map take128
    config := configFields settings maximum
    capabilities := Capabilities.mark row.capabilities trustedLan }

def approve (db : Db) (pairingId administratorId : String) (deviceConfig : Fields) : Except Failure (Db × Status) := do
  let pairingId ← validateText (ofText pairingId) 128 true
  let db := expireRequests trustedLan now db
  let row ← orError (db.requests.find pairingId) (.pairing 404 "PAIR-003")
  match row.status with
  | .approved | .credentialIssued | .confirmed => return (db, row.status)
  | .pending => do
    let db ← approveRequest runtime trustedLan now db row (some administratorId) deviceConfig
    return (db, .approved)
  | _ => .error (.pairing 410 "PAIR-007")

/-! ### Requests -/

/-- What a device sends; a field is any JSON value. -/
structure Payload where
  deviceId : Value
  pairingNonce : Value
  firmwareIdentity : Value := .null
  firmwareVersion : Value := .null
  panelProfile : Value := .null
  deviceName : Value := .null
  capabilities : Option Capabilities := some []

structure Requested where
  code : Nat
  status : Status
  pairingId : String
  expiresInSeconds : Nat
  reused : Bool
  conflict : Bool

def rateLimitScope (scope value : String) (rows : List RateLimit) : Except Failure (List RateLimit) := do
  let scopeHash := Devices.hashDomain runtime (take128 value) ("pairing-scope-" ++ scope ++ "-v1")
  require (rows.countP (fun row => row.scope == scope && row.scopeHash == scopeHash) < 5) (.pairing 429 "PAIR-002")
  return rows ++ [⟨scope, scopeHash, now⟩]

def rateLimit (db : Db) (ipAddress deviceId : String) : Except Failure Db := do
  let recent := db.rateLimits.filter fun row => now - pairingRateWindow ≤ row.attemptedAt
  let afterIp ← rateLimitScope runtime now "ip" ipAddress recent
  let rows ← rateLimitScope runtime now "device" deviceId afterIp
  return { db with rateLimits := rows }

/-- Whether a row, where there is one, lets its device ask. -/
def mayRequest (device : Device) : Bool :=
  device.settings.deliveryMode != .stockCompat && device.authMode == .automatic && !closedToPairing device.pairingState &&
    !(device.pairingState == .pairingPending && device.authRevokedAt.isSome &&
      !device.repairAllowedUntil.any fun deadline => now < deadline)

/-- A further call for the request that is open already. -/
def repeatRequest (db : Db) (row : Request) (nonce : String) : Except Failure (Db × Requested) := do
  require (row.pairingNonceHash == nonceHash runtime nonce) (.pairing 409 "PAIR-003")
  let remaining := max 1 ((row.expiresAt - now) / 1000000)
  let conflict := storedCapabilityConflict row.config
  let answer := fun (db : Db) (status : Status) =>
    ((db, ⟨200, status, row.id, min remaining (timeToLive trustedLan / 1000000), true, conflict⟩) : Db × Requested)
  if trustedLan && row.status == .pending && !conflict then do
    let db ← approveRequest runtime trustedLan now db row none []
    return answer db .approved
  else return answer db row.status

/-- The length of a stored schedule, where there is one. -/
def storedSlots (schedule : List (Option String)) : Option Nat := if schedule = [] then none else some schedule.length

/-- The trusted LAN approves a request as soon as it is there. -/
def approveOnLan (db : Db) (row : Request) : Except Failure Db :=
  if trustedLan then approveRequest runtime trustedLan now db row none [] else .ok db

/-- A new request of a device with or without a row. -/
def openRequest (db : Db) (deviceId nonce firmwareIdentity firmwareVersion panelProfile deviceName : String)
    (capabilities : Capabilities) (pairingId : String) : Except Failure (Db × Requested) := do
  let device := db.device deviceId
  require (device.all (mayRequest now)) (.pairing 409 "PAIR-003")
  let maximum := capabilityMaxSlots capabilities
  let schedule := (device.map Devices.existingSchedule).getD []
  let row : Request := {
    id := pairingId
    deviceId := deviceId
    pairingNonceHash := nonceHash runtime nonce
    firmwareIdentity := firmwareIdentity
    firmwareVersion := if firmwareVersion = "" then none else some firmwareVersion
    capabilities := capabilities
    config := []
    expiresAt := now + timeToLive trustedLan
    requestedAt := now }
  let storedMaximum := (device.map fun device =>
    Schedule.resolveOfflineScheduleMaxSlots (.int device.offlineScheduleMaxSlots)).getD maximum
  let answer := fun (status : Status) (conflict : Bool) =>
    (⟨201, status, pairingId, timeToLive trustedLan / 1000000, false, conflict⟩ : Requested)
  if capabilityConflict storedMaximum maximum (storedSlots schedule) then do
    let config := ((device.map configSource).getD []) ++
      [(.utf8 "offline_schedule_max_slots", .int storedMaximum),
        (.utf8 "capability_conflict", conflictValue storedMaximum maximum schedule.length)]
    let requests ← orError (db.requests.insert { row with config }) .integrity
    return ({ db with requests }, answer .pending true)
  else do
    let source := match device with
      | some device => configSource device
      | none => [(.utf8 "name", ofText deviceName), (.utf8 "panel_profile", ofText (orDefault panelProfile "safe_4c"))]
    let settings ← normalizeConfig runtime source (orDefault deviceName (fallbackName deviceId)) maximum
    let opened := { row with config := configFields settings maximum }
    let requests ← orError (db.requests.insert opened) .integrity
    let db := { db with requests }
    let db ← approveOnLan runtime trustedLan now db opened
    let db := match device with
      | some device =>
        if device.pairingState = .pairingPending then
          db.putDevice { device with
            repairAllowedUntil := none
            firmwareIdentity := if firmwareIdentity = "" then none else some firmwareIdentity
            firmwareVersion := if firmwareVersion = "" then device.firmwareVersion else some firmwareVersion
            updatedAt := now }
        else db
      | none => db
    return (db, answer (if trustedLan then .approved else .pending) false)

def requestPairing (db : Db) (payload : Payload) (ipAddress pairingId : String) : Except Failure (Db × Requested) := do
  let deviceId ← validateDeviceId payload.deviceId
  let nonce ← validateText payload.pairingNonce 256 true
  require (16 ≤ nonce.length) invalid
  let firmwareIdentity ← validateText payload.firmwareIdentity 256 false
  let firmwareVersion ← validateText payload.firmwareVersion 64 false
  let panelProfile ← validateText payload.panelProfile 128 false
  let deviceName ← validateText payload.deviceName 100 false
  let accepted ← acceptCapabilities payload.capabilities
  let capabilities := Capabilities.mark accepted trustedLan
  let db := expireRequests trustedLan now db
  match activeRequest db deviceId with
  | some row => repeatRequest runtime trustedLan now db row nonce
  | none => do
    require (db.requests.count (fun row => row.status.active) < 100) (.pairing 429 "PAIR-002")
    let db ← rateLimit runtime now db ipAddress deviceId
    openRequest runtime trustedLan now db deviceId nonce firmwareIdentity firmwareVersion panelProfile deviceName capabilities
      pairingId

/-! ### Claim and confirm -/

def decodeEnvelope (row : Request) : Except Failure Envelope := do
  require (row.envelopeExpiresAt.any fun deadline => now < deadline) (.pairing 410 "PAIR-007")
  orError row.envelope (.pairing 409 "PAIR-009")

inductive Claimed where
  | pending
  | issued (envelope : Envelope)
  /-- The attempt is counted, and then the call raises. -/
  | denied

/-- The credential of an approved request. -/
def issueCredential (db : Db) (row : Request) (secret : String) : Except Failure (Db × Claimed) := do
  let device := db.device row.deviceId
  require (device.all fun device => device.authMode == .automatic && !closedToPairing device.pairingState)
    (.pairing 409 "PAIR-003")
  let maximum := capabilityMaxSlots row.capabilities
  let settings ← normalizeConfig runtime row.config (fallbackName row.deviceId) maximum
  let envelope : Envelope := {
    deviceId := row.deviceId
    deviceSecret := secret
    credentialVersion := (device.map fun device => device.credentialVersion + 1).getD 1
    config := configFields settings maximum
    firmwareVersion := row.firmwareVersion.getD ""
    firmwareIdentity := row.firmwareIdentity
    offlineScheduleMaxSlots := maximum }
  let envelopeExpires := min row.expiresAt (now + timeToLive trustedLan)
  let db := db.putRequest { row with
    status := .credentialIssued
    envelope := some envelope
    envelopeExpiresAt := some envelopeExpires }
  let db := match device with
    | some device => db.putDevice { device with
        pairingState := .pairingPending
        pairingExpiresAt := some envelopeExpires
        updatedAt := now }
    | none => db
  return (db, .issued envelope)

def claim (db : Db) (pairingId nonce secret : String) : Except Failure (Db × Claimed) := do
  let pairingId ← validateText (ofText pairingId) 128 true
  let nonce ← validateText (ofText nonce) 256 true
  let db := expireRequests trustedLan now db
  let row ← orError (db.requests.find pairingId) (.pairing 404 "PAIR-003")
  require (row.status ≠ .confirmed) (.pairing 409 "PAIR-009")
  require row.status.active (.pairing 410 "PAIR-007")
  if row.pairingNonceHash ≠ nonceHash runtime nonce then
    let counted := { row with claimAttempts := row.claimAttempts + 1 }
    return (db.putRequest (if 5 ≤ row.claimAttempts + 1 then counted.end .rejected else counted), .denied)
  else match row.status with
    | .credentialIssued => do
      let envelope ← decodeEnvelope now row
      return (db, .issued envelope)
    | .pending =>
      if trustedLan then do
        let db ← approveRequest runtime trustedLan now db row none []
        let row ← orError (db.requests.find pairingId) (.pairing 404 "PAIR-003")
        issueCredential runtime trustedLan now db row secret
      else return (db, .pending)
    | _ => issueCredential runtime trustedLan now db row secret

def secretMatches (stored : Option String) (secret : String) : Bool :=
  stored == some (Devices.hashDeviceSecret runtime secret) || stored == some (Devices.hashDeviceToken runtime secret)

/-- The columns a confirmed credential sets. -/
def confirmedDevice (envelope : Envelope) (settings : Settings) (device : Device) : Device :=
  let maximum := Schedule.resolveOfflineScheduleMaxSlots (.int envelope.offlineScheduleMaxSlots)
  { device with
    settings
    enabled := true
    offlinePrefetchAllowed := settings.deliveryMode == .offlineSchedule
    offlineSchedule := settings.scheduleTimes
    offlineScheduleVersion := device.offlineScheduleVersion + 1
    stockEndpointHost := none
    authMode := .automatic
    pairingState := .paired
    credentialVersion := envelope.credentialVersion
    deviceSecretHash := some (Devices.hashDeviceSecret runtime envelope.deviceSecret)
    pairedAt := some now
    lastAuthAt := none
    authRevokedAt := none
    repairAllowedUntil := none
    pairingExpiresAt := none
    firmwareVersion := if envelope.firmwareVersion = "" then device.firmwareVersion else some envelope.firmwareVersion
    firmwareIdentity := if envelope.firmwareIdentity = "" then device.firmwareIdentity else some envelope.firmwareIdentity
    offlineScheduleMaxSlots := maximum
    offlineScheduleCapabilityState := Schedule.offlineScheduleCapabilityState maximum
    nextOfflinePrepareAt := if settings.deliveryMode = .offlineSchedule then some 0 else none
    configVersion := device.configVersion + 1
    updatedAt := now }

/-- `_insert_confirmed_device` -/
def insertedDevice (deviceId : String) (envelope : Envelope) (settings : Settings) (placeholder : String) : Device :=
  let maximum := Schedule.resolveOfflineScheduleMaxSlots (.int envelope.offlineScheduleMaxSlots)
  { id := deviceId
    settings
    tokenHash := Devices.hashDeviceToken runtime ("auto-placeholder-" ++ placeholder)
    enabled := true
    offlineSchedule := settings.scheduleTimes
    offlinePrefetchAllowed := settings.deliveryMode == .offlineSchedule
    offlineScheduleVersion := if settings.deliveryMode = .offlineSchedule then 1 else 0
    offlineScheduleMaxSlots := maximum
    offlineScheduleCapabilityState := Schedule.offlineScheduleCapabilityState maximum
    nextOfflinePrepareAt := if settings.deliveryMode = .offlineSchedule then some 0 else none
    authMode := .automatic
    pairingState := .paired
    credentialVersion := envelope.credentialVersion
    deviceSecretHash := some (Devices.hashDeviceSecret runtime envelope.deviceSecret)
    pairedAt := some now
    firmwareVersion := if envelope.firmwareVersion = "" then none else some envelope.firmwareVersion
    firmwareIdentity := if envelope.firmwareIdentity = "" then none else some envelope.firmwareIdentity
    updatedAt := now }

def updateConfirmedDevice (db : Db) (deviceId : String) (envelope : Envelope) (placeholder : String) : Except Failure Db := do
  let maximum := Schedule.resolveOfflineScheduleMaxSlots (.int envelope.offlineScheduleMaxSlots)
  match db.device deviceId with
  | none => do
    let settings ← normalizeConfig runtime envelope.config (fallbackName deviceId) maximum
    return { db with store := { db.store with
      devices := db.store.devices.add (insertedDevice runtime now deviceId envelope settings placeholder) } }
  | some device => do
    require (device.authMode == .automatic && device.settings.deliveryMode != .stockCompat) (.pairing 409 "PAIR-003")
    let settings ← normalizeConfig runtime envelope.config (fallbackName deviceId) maximum
    return db.putDevice (confirmedDevice runtime now envelope settings device)

inductive Confirmed where
  | pending | alreadyConfirmed | confirmed
  deriving DecidableEq, Repr

def confirm (db : Db) (pairingId deviceId nonce secret : String) (credentialVersion : Int) (placeholder : String) :
    Except Failure (Db × Confirmed) := do
  let pairingId ← validateText (ofText pairingId) 128 true
  let deviceId ← validateDeviceId (ofText deviceId)
  let nonce ← validateText (ofText nonce) 256 true
  let secret ← validateText (ofText secret) 256 true
  require (secret.toList.take 4 == ['i', 'd', 's', '_'] && 32 ≤ secret.length) (.pairing 401 "PAIR-008")
  require (1 ≤ credentialVersion) (.pairing 401 "PAIR-008")
  let db := expireRequests trustedLan now db
  let row ← orError ((db.requests.find pairingId).filter fun row => row.deviceId == deviceId) (.pairing 404 "PAIR-003")
  require (row.pairingNonceHash == nonceHash runtime nonce) (.pairing 401 "PAIR-008")
  match row.status with
  | .confirmed => do
    require ((db.device deviceId).any fun device =>
      (device.credentialVersion : Int) == credentialVersion && secretMatches runtime device.deviceSecretHash secret)
      (.pairing 401 "PAIR-008")
    return (db, .alreadyConfirmed)
  | .rejected | .expired => .error (.pairing 410 "PAIR-007")
  | .pending => return (db, .pending)
  | .approved => .error (.pairing 409 "PAIR-009")
  | .credentialIssued => do
    let envelope ← decodeEnvelope now row
    require (envelope.deviceId == deviceId && (envelope.credentialVersion : Int) == credentialVersion &&
      envelope.deviceSecret == secret) (.pairing 401 "PAIR-008")
    let db ← updateConfirmedDevice runtime now db deviceId envelope placeholder
    return (db.putRequest (row.end .confirmed), .confirmed)

/-! ### Administration -/

def reject (db : Db) (pairingId : String) : Except Failure Db := do
  let pairingId ← validateText (ofText pairingId) 128 true
  let row ← orError (db.requests.find pairingId) .keyError
  require row.status.active (.pairing 410 "PAIR-007")
  let db := db.putRequest (row.end .rejected)
  return match (db.device row.deviceId).filter fun device => device.pairingState == .pairingPending with
    | some device => db.putDevice { device with
        pairingState := if device.authRevokedAt.isNone then .unpaired else .revoked
        enabled := if device.authRevokedAt.isNone then false else device.enabled
        pairingExpiresAt := none
        repairAllowedUntil := none
        updatedAt := now }
    | none => db

/-- Ends the open requests of a device. -/
def rejectRequests (db : Db) (deviceId : String) : Db :=
  { db with
    requests := db.requests.update (fun row => row.deviceId == deviceId && row.status.active)
      (fun row => row.end .rejected) fun _ => rfl }

def revoke (db : Db) (deviceId : String) : Except Failure Db := do
  let deviceId ← validateDeviceId (ofText deviceId)
  let device ← orError (db.device deviceId) .keyError
  require (device.authMode == .automatic) (.pairing 409 "PAIR-003")
  return rejectRequests (db.putDevice { device with
    pairingState := .revoked
    authRevokedAt := some now
    repairAllowedUntil := none
    updatedAt := now }) deviceId

def startRepair (db : Db) (deviceId : String) : Except Failure Db := do
  let deviceId ← validateDeviceId (ofText deviceId)
  let device ← orError (db.device deviceId) .keyError
  require (device.authMode == .automatic) (.pairing 409 "PAIR-003")
  return rejectRequests (db.putDevice { device with
    pairingState := .pairingPending
    authRevokedAt := some now
    repairAllowedUntil := some (now + repairPermissionTtl)
    pairingExpiresAt := none
    updatedAt := now }) deviceId

end Operations

/-! ### Runs -/

/-- A call of any party, with the clock it reads and what it draws at random. -/
inductive Act where
  /-- The server restarts with this policy. -/
  | restart (trustedLan : Bool)
  | requestPairing (now : Nat) (payload : Payload) (ipAddress pairingId : String)
  | approve (now : Nat) (pairingId administratorId : String) (deviceConfig : Fields)
  | claim (now : Nat) (pairingId nonce secret : String)
  | confirm (now : Nat) (pairingId deviceId nonce secret : String) (credentialVersion : Int) (placeholder : String)
  | reject (now : Nat) (pairingId : String)
  | revoke (now : Nat) (deviceId : String)
  | startRepair (now : Nat) (deviceId : String)
  /-- The listing itself, which shows requests with their capabilities, is left out. -/
  | pendingForAdmin (now : Nat)
  | update (now : Nat) (deviceId : String) (changes : Devices.Changes)
  | authenticate (now : Nat) (token ipAddress : String) (credentialVersion : Option Int) (allowRepair : Bool)

inductive Answer where
  | done
  | requested (reply : Requested)
  | approved (status : Status)
  | claimed (reply : Claimed)
  | confirmed (reply : Confirmed)
  | updated (written : Bool)
  | authenticated (device : Option Device)

structure World where
  trustedLan : Bool
  db : Db

section Run

variable (runtime : Runtime)

def World.exec (w : World) : Act → Except Failure (World × Answer)
  | .restart trustedLan => .ok ({ w with trustedLan }, .done)
  | .requestPairing now payload ipAddress pairingId => do
    let (db, reply) ← requestPairing runtime w.trustedLan now w.db payload ipAddress pairingId
    return ({ w with db }, .requested reply)
  | .approve now pairingId administratorId deviceConfig => do
    let (db, status) ← approve runtime w.trustedLan now w.db pairingId administratorId deviceConfig
    return ({ w with db }, .approved status)
  | .claim now pairingId nonce secret => do
    let (db, reply) ← claim runtime w.trustedLan now w.db pairingId nonce secret
    return ({ w with db }, .claimed reply)
  | .confirm now pairingId deviceId nonce secret credentialVersion placeholder => do
    let (db, reply) ← confirm runtime w.trustedLan now w.db pairingId deviceId nonce secret credentialVersion placeholder
    return ({ w with db }, .confirmed reply)
  | .reject now pairingId => do return ({ w with db := ← reject now w.db pairingId }, .done)
  | .revoke now deviceId => do return ({ w with db := ← revoke now w.db deviceId }, .done)
  | .startRepair now deviceId => do return ({ w with db := ← startRepair now w.db deviceId }, .done)
  | .pendingForAdmin now => .ok ({ w with db := expireRequests w.trustedLan now w.db }, .done)
  | .update now deviceId changes =>
    match Devices.update w.db.store now deviceId changes with
    | .ok (store, written) => .ok ({ w with db := { w.db with store } }, .updated written)
    | .error problem => .error (.device problem)
  | .authenticate now token ipAddress credentialVersion allowRepair =>
    match Devices.authenticate runtime w.db.store now token ipAddress credentialVersion allowRepair with
    | .ok (store, device) => .ok ({ w with db := { w.db with store } }, .authenticated device)
    | .error problem => .error (.device problem)

def step (w : World) (act : Act) : World :=
  match w.exec runtime act with
  | .ok (next, _) => next
  | .error _ => w

def answer (w : World) (act : Act) : Option Answer :=
  match w.exec runtime act with
  | .ok (_, answer) => some answer
  | .error _ => none

def run (w : World) (acts : List Act) : World := Runs.run (step runtime) w acts

end Run

end InkTime.Pairing
