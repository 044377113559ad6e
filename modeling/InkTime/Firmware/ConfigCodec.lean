import InkTime.Library.WireFormat

/-!
# Wire formats of the device configuration store

Slots, the active pointer and the recovery journal as `device_config_store_core.h` lays them out.
The payload is written at schema 5 only and read at schemas 1 to 5; groups that a schema lacks take
the migration defaults of the reader.
-/

namespace InkTime.Firmware
open WireFormat

/-- Bytes of a source string literal. -/
def ascii (text : String) : Bytes := text.toUTF8.data.toList

def kMaxConfigSlots : Nat := 24
def kLegacyConfigSlots : Nat := 12
def kMaxConfigPayloadBytes : Nat := 8192
def kMaxWifiSsidBytes : Nat := 64
def kMaxWifiPasswordBytes : Nat := 128
def kMaxBackendHostportBytes : Nat := 512
def kMaxCaPemBytes : Nat := 3500
def kMaxDeviceTokenBytes : Nat := 1024
def kMaxDeviceSecretBytes : Nat := 256
def kMaxDeviceIdBytes : Nat := 128
def kMaxAuthStateBytes : Nat := 32
def kMaxPairingIdBytes : Nat := 128
def kMaxPairingNonceBytes : Nat := 256
def kMaxDeliveryModeBytes : Nat := 64
def kMaxButtonWakeActionBytes : Nat := 64
def kMaxSyncStrategyBytes : Nat := 32
def kMaxSyncTimeBytes : Nat := 8
def kMaxScheduleIdBytes : Nat := 160

def kConfigSlotMagic : UInt32 := 0x494E4B43
def kConfigPointerMagic : UInt32 := 0x494E4B50
def kScheduleJournalMagic : UInt32 := 0x494E4B4A
def kEnvelopeVersion : UInt8 := 1
def kPayloadSchemaVersion : UInt8 := 5
def kPointerVersion : UInt8 := 1
def kJournalVersion : UInt8 := 1
def kGenericCommitTargetScheduleId : Bytes := ascii "__config_commit__"

structure ScheduleSlot where
  hour : UInt8 := 0
  minute : UInt8 := 0
  deriving DecidableEq

structure ConfigPayload where
  wifiSsid : Bytes := []
  wifiPass : Bytes := []
  backendHostport : Bytes := []
  caPem : Bytes := []
  deviceToken : Bytes := []
  deviceSecret : Bytes := []
  deviceId : Bytes := []
  authState : Bytes := ascii "unpaired"
  credentialVersion : UInt32 := 0
  pairingId : Bytes := []
  pairingNonce : Bytes := []
  pairingExpiresAtEpoch : UInt64 := 0
  pairingRetryAtEpoch : UInt64 := 0
  pairingRetryAttempt : UInt8 := 0
  tzOffsetMinutes : Int32 := 480
  refreshHour : UInt8 := 8
  refreshMinute : UInt8 := 0
  rotate180 : Bool := false
  scheduleSlots : Vector ScheduleSlot kMaxConfigSlots := Vector.replicate kMaxConfigSlots {}
  scheduleCount : UInt8 := 1
  prefetchLeadMinutes : UInt16 := 5
  deliveryMode : Bytes := ascii "legacy_online"
  buttonWakeAction : Bytes := ascii "check_new"
  syncStrategy : Bytes := ascii "first_display_lead"
  syncTime : Bytes := []
  configVersion : UInt32 := 0
  deriving DecidableEq

/-! ### Validation -/

def validSlot (slot : ScheduleSlot) : Bool := slot.hour < 24 && slot.minute < 60

/-- Two decimal digits of a clock text, read as the source does. -/
def clockField (tens ones : UInt8) : UInt8 := (tens - 48) * 10 + ones - 48

def isDigit (byte : UInt8) : Bool := 48 ≤ byte && byte ≤ 57

def validSyncTime (value : Bytes) : Bool :=
  match value with
  | [] => true
  | [h1, h0, colon, m1, m0] =>
    colon == 58 && isDigit h1 && isDigit h0 && isDigit m1 && isDigit m0 &&
      clockField h1 h0 < 24 && clockField m1 m0 < 60
  | _ => false

def validSyncPolicy (payload : ConfigPayload) : Bool :=
  if payload.syncStrategy = ascii "first_display_lead" then payload.syncTime.isEmpty
  else payload.syncStrategy == ascii "fixed_daily" && !payload.syncTime.isEmpty &&
    validSyncTime payload.syncTime

def validPayloadSchema (schema : UInt8) : Bool := 1 ≤ schema && schema ≤ kPayloadSchemaVersion

def configSlotCountForSchema (schema : UInt8) : Nat :=
  if schema ≤ 4 then kLegacyConfigSlots else kMaxConfigSlots

def slotAt (payload : ConfigPayload) (index : Nat) : ScheduleSlot :=
  payload.scheduleSlots.toList.getD index {}

def slotMinuteOfDay (slot : ScheduleSlot) : Nat := slot.hour.toNat * 60 + slot.minute.toNat

/-- First check of `validate_payload`: every string fits its field. -/
def payloadSizesOk (payload : ConfigPayload) : Bool :=
  payload.wifiSsid.length ≤ kMaxWifiSsidBytes && payload.wifiPass.length ≤ kMaxWifiPasswordBytes &&
  payload.backendHostport.length ≤ kMaxBackendHostportBytes && payload.caPem.length ≤ kMaxCaPemBytes &&
  payload.deviceToken.length ≤ kMaxDeviceTokenBytes && payload.deviceSecret.length ≤ kMaxDeviceSecretBytes &&
  payload.deviceId.length ≤ kMaxDeviceIdBytes && payload.authState.length ≤ kMaxAuthStateBytes &&
  payload.pairingId.length ≤ kMaxPairingIdBytes && payload.pairingNonce.length ≤ kMaxPairingNonceBytes &&
  payload.deliveryMode.length ≤ kMaxDeliveryModeBytes &&
  payload.buttonWakeAction.length ≤ kMaxButtonWakeActionBytes &&
  payload.syncStrategy.length ≤ kMaxSyncStrategyBytes && payload.syncTime.length ≤ kMaxSyncTimeBytes

/-- Second check: ranges and closed vocabularies. -/
def payloadFieldsOk (payload : ConfigPayload) : Bool :=
  -720 ≤ payload.tzOffsetMinutes && payload.tzOffsetMinutes ≤ 840 &&
  payload.refreshHour < 24 && payload.refreshMinute < 60 &&
  payload.scheduleCount != 0 && payload.scheduleCount.toNat ≤ kMaxConfigSlots &&
  payload.prefetchLeadMinutes ≤ 120 &&
  [ascii "legacy_online", ascii "stock_compat", ascii "inktime_offline_schedule"].contains
    payload.deliveryMode &&
  [ascii "check_new", ascii "local_next"].contains payload.buttonWakeAction &&
  validSyncPolicy payload &&
  [ascii "unpaired", ascii "pairing_pending", ascii "paired", ascii "credential_issued",
    ascii "revoked", ascii "auth_invalid", ascii "pairing_expired"].contains payload.authState

/-- Third check: pairing fields that have to come together. -/
def payloadPairingOk (payload : ConfigPayload) : Bool :=
  payload.pairingRetryAttempt ≤ 8 &&
  (payload.pairingId.isEmpty || !payload.pairingNonce.isEmpty) &&
  (payload.pairingNonce.isEmpty || !payload.pairingId.isEmpty ||
    payload.authState == ascii "pairing_pending") &&
  (payload.authState != ascii "credential_issued" ||
    (!payload.deviceSecret.isEmpty && !payload.pairingId.isEmpty && !payload.pairingNonce.isEmpty))

/-- The slot loop: valid clock times in strictly increasing order. -/
def payloadSlotsOk (payload : ConfigPayload) : Bool :=
  (List.range payload.scheduleCount.toNat).all fun index =>
    validSlot (slotAt payload index) &&
      (index == 0 || slotMinuteOfDay (slotAt payload (index - 1)) < slotMinuteOfDay (slotAt payload index))

def validatePayload (payload : ConfigPayload) : Except String Unit :=
  if !payloadSizesOk payload then .error "PAIRING-NVS-001"
  else if !payloadFieldsOk payload then .error "PAIRING-NVS-001"
  else if !payloadPairingOk payload then .error "PAIRING-NVS-001"
  else if !payloadSlotsOk payload then .error "PAIRING-NVS-001"
  else .ok ()

/-! ### Checksums and strings -/

def crc32Bit (crc : UInt32) : UInt32 :=
  if crc &&& 1 ≠ 0 then (crc >>> 1) ^^^ 0xedb88320 else crc >>> 1

def crc32Byte (crc : UInt32) (byte : UInt8) : UInt32 :=
  Nat.iterate crc32Bit 8 (crc ^^^ byte.toUInt32)

def crc32 (value : Bytes) : UInt32 := ~~~(value.foldl crc32Byte 0xffffffff)

def appendString (value : Bytes) (maximum : Nat) : Option Bytes :=
  if maximum < value.length ∨ 0xffff < value.length then none
  else some (leBytes 2 value.length ++ value)

def takeString (maximum : Nat) : Reader Bytes := do
  let length ← takeWord 2
  guard (length ≤ maximum)
  takeCount length

/-! ### Payload -/

/-- A run of `append_string` calls whose first failure rejects the whole payload. -/
def appendStrings : List (Bytes × Nat) → Except String Bytes
  | [] => .ok []
  | (value, maximum) :: rest =>
    match appendString value maximum with
    | none => .error "PAIRING-NVS-001"
    | some head => do
      let tail ← appendStrings rest
      .ok (head ++ tail)

def slotBytes (slots : List ScheduleSlot) : Bytes := slots.flatMap fun slot => [slot.hour, slot.minute]

def serializePayload (payload : ConfigPayload) : Except String Bytes := do
  validatePayload payload
  let network ← appendStrings [(payload.wifiSsid, kMaxWifiSsidBytes),
    (payload.wifiPass, kMaxWifiPasswordBytes), (payload.backendHostport, kMaxBackendHostportBytes),
    (payload.caPem, kMaxCaPemBytes), (payload.deviceToken, kMaxDeviceTokenBytes)]
  let modes ← appendStrings [(payload.deliveryMode, kMaxDeliveryModeBytes),
    (payload.buttonWakeAction, kMaxButtonWakeActionBytes), (payload.syncStrategy, kMaxSyncStrategyBytes),
    (payload.syncTime, kMaxSyncTimeBytes), (payload.deviceSecret, kMaxDeviceSecretBytes),
    (payload.deviceId, kMaxDeviceIdBytes), (payload.authState, kMaxAuthStateBytes),
    (payload.pairingId, kMaxPairingIdBytes), (payload.pairingNonce, kMaxPairingNonceBytes)]
  let output := [kPayloadSchemaVersion] ++ network ++
    leBytes 4 payload.tzOffsetMinutes.toUInt32.toNat ++
    [payload.refreshHour, payload.refreshMinute, if payload.rotate180 then 1 else 0, payload.scheduleCount] ++
    leBytes 2 payload.prefetchLeadMinutes.toNat ++ modes ++
    leBytes 4 payload.configVersion.toNat ++ leBytes 4 payload.credentialVersion.toNat ++
    leBytes 8 payload.pairingExpiresAtEpoch.toNat ++ leBytes 8 payload.pairingRetryAtEpoch.toNat ++
    [payload.pairingRetryAttempt] ++ slotBytes payload.scheduleSlots.toList
  if kMaxConfigPayloadBytes < output.length then .error "PAIRING-NVS-001" else .ok output

def takeSlots : Nat → Reader (List ScheduleSlot)
  | 0 => pure []
  | count + 1 => do
    let hour ← takeByte
    let minute ← takeByte
    let rest ← takeSlots count
    pure (⟨hour, minute⟩ :: rest)

/-- Slots that the schema does not carry are zero. -/
def padSlots (slots : List ScheduleSlot) : Vector ScheduleSlot kMaxConfigSlots :=
  Vector.ofFn fun index => slots.getD index.val {}

/-- Groups that appeared in later schemas; the other branch is the migration default. -/
def takeSync (schema : UInt8) : Reader (Bytes × Bytes) :=
  if 4 ≤ schema then do
    let syncStrategy ← takeString kMaxSyncStrategyBytes
    let syncTime ← takeString kMaxSyncTimeBytes
    pure (syncStrategy, syncTime)
  else pure (ascii "first_display_lead", [])

def takeIdentity (schema : UInt8) (deviceToken : Bytes) : Reader (Bytes × Bytes × Bytes) :=
  if 2 ≤ schema then do
    let deviceSecret ← takeString kMaxDeviceSecretBytes
    let deviceId ← takeString kMaxDeviceIdBytes
    let authState ← takeString kMaxAuthStateBytes
    pure (deviceSecret, deviceId, authState)
  else pure ([], [], if deviceToken.isEmpty then ascii "unpaired" else ascii "paired")

def takePairing (schema : UInt8) : Reader (Bytes × Bytes) :=
  if 3 ≤ schema then do
    let pairingId ← takeString kMaxPairingIdBytes
    let pairingNonce ← takeString kMaxPairingNonceBytes
    pure (pairingId, pairingNonce)
  else pure ([], [])

def takeCredentialVersion (schema : UInt8) : Reader Nat :=
  if 2 ≤ schema then takeWord 4 else pure 0

def takePairingRetry (schema : UInt8) : Reader (Nat × Nat × UInt8) :=
  if 3 ≤ schema then do
    let expires ← takeWord 8
    let retryAt ← takeWord 8
    let attempt ← takeByte
    pure (expires, retryAt, attempt)
  else pure (0, 0, 0)

def readPayload : Reader ConfigPayload := do
  let schema ← takeByte
  guard (validPayloadSchema schema = true)
  let wifiSsid ← takeString kMaxWifiSsidBytes
  let wifiPass ← takeString kMaxWifiPasswordBytes
  let backendHostport ← takeString kMaxBackendHostportBytes
  let caPem ← takeString kMaxCaPemBytes
  let deviceToken ← takeString kMaxDeviceTokenBytes
  let tzOffset ← takeWord 4
  let refreshHour ← takeByte
  let refreshMinute ← takeByte
  let rotate ← takeByte
  guard (rotate = 0 ∨ rotate = 1)
  let scheduleCount ← takeByte
  let prefetchLead ← takeWord 2
  let deliveryMode ← takeString kMaxDeliveryModeBytes
  let buttonWakeAction ← takeString kMaxButtonWakeActionBytes
  let sync ← takeSync schema
  let identity ← takeIdentity schema deviceToken
  let pairing ← takePairing schema
  let configVersion ← takeWord 4
  let credentialVersion ← takeCredentialVersion schema
  let retry ← takePairingRetry schema
  guard (scheduleCount ≠ 0 ∧ scheduleCount.toNat ≤ configSlotCountForSchema schema)
  let slots ← takeSlots (configSlotCountForSchema schema)
  pure {
    wifiSsid, wifiPass, backendHostport, caPem, deviceToken
    deviceSecret := identity.1, deviceId := identity.2.1, authState := identity.2.2
    credentialVersion := UInt32.ofNat credentialVersion
    pairingId := pairing.1, pairingNonce := pairing.2
    pairingExpiresAtEpoch := UInt64.ofNat retry.1, pairingRetryAtEpoch := UInt64.ofNat retry.2.1
    pairingRetryAttempt := retry.2.2
    tzOffsetMinutes := (UInt32.ofNat tzOffset).toInt32
    refreshHour, refreshMinute, rotate180 := rotate != 0
    scheduleSlots := padSlots slots, scheduleCount
    prefetchLeadMinutes := UInt16.ofNat prefetchLead
    deliveryMode, buttonWakeAction, syncStrategy := sync.1, syncTime := sync.2
    configVersion := UInt32.ofNat configVersion }

/-- Trailing bytes leave the caller's error text untouched, which starts out empty. -/
def deserializePayload (input : Bytes) : Except String ConfigPayload :=
  match readPayload input with
  | none => .error "PAIRING-NVS-004"
  | some (payload, rest) =>
    if rest ≠ [] then .error ""
    else do
      validatePayload payload
      .ok payload

/-! ### Slot envelope -/

def slotEnvelope (generation : UInt64) (serialized : Bytes) : Bytes :=
  leBytes 4 kConfigSlotMagic.toNat ++ [kEnvelopeVersion, kPayloadSchemaVersion] ++
    leBytes 8 generation.toNat ++ leBytes 4 (UInt32.ofNat serialized.length).toNat ++
    leBytes 4 (crc32 serialized).toNat ++ serialized

/-- The size branch at the end returns false without an error text of its own. -/
def encodeSlot (payload : ConfigPayload) (generation : UInt64) : Except String Bytes := do
  let serialized ← serializePayload payload
  let output := slotEnvelope generation serialized
  if output.length ≤ kMaxConfigPayloadBytes + 32 then .ok output else .error ""

structure SlotHeader where
  magic : UInt32
  envelope : UInt8
  schema : UInt8
  generation : UInt64
  length : UInt32
  expectedCrc : UInt32

def readSlotHeader : Reader SlotHeader := do
  let magic ← takeWord 4
  let envelope ← takeByte
  let schema ← takeByte
  let generation ← takeWord 8
  let length ← takeWord 4
  let expectedCrc ← takeWord 4
  pure ⟨UInt32.ofNat magic, envelope, schema, UInt64.ofNat generation, UInt32.ofNat length,
    UInt32.ofNat expectedCrc⟩

def slotHeaderOk (header : SlotHeader) (serialized : Bytes) : Bool :=
  header.magic == kConfigSlotMagic && header.envelope == kEnvelopeVersion &&
    validPayloadSchema header.schema && header.length.toNat ≤ kMaxConfigPayloadBytes &&
    header.length.toNat == serialized.length

def decodeSlot (input : Bytes) : Except String (ConfigPayload × UInt64) :=
  match readSlotHeader input with
  | none => .error "PAIRING-NVS-004"
  | some (header, serialized) =>
    if !slotHeaderOk header serialized then .error "PAIRING-NVS-004"
    else if crc32 serialized ≠ header.expectedCrc then .error "PAIRING-NVS-004"
    else match deserializePayload serialized with
      | .error _ => .error "PAIRING-NVS-004"
      | .ok payload => .ok (payload, header.generation)

/-! ### Pointer and recovery journal -/

/-- The two slot names that `valid_slot_name` admits. -/
inductive SlotName where
  | A
  | B
  deriving DecidableEq

def SlotName.code : SlotName → UInt8
  | .A => 65
  | .B => 66

def slotNameOfCode (code : UInt8) : Option SlotName :=
  if code = 65 then some .A else if code = 66 then some .B else none

def encodePointer (activeSlot : SlotName) (generation : UInt64) : Bytes :=
  let output := leBytes 4 kConfigPointerMagic.toNat ++ [kPointerVersion, activeSlot.code] ++
    leBytes 8 generation.toNat
  output ++ leBytes 4 (crc32 output).toNat

structure PointerFields where
  magic : UInt32
  version : UInt8
  rawSlot : UInt8
  generation : UInt64
  actualCrc : UInt32

def readPointerFields : Reader PointerFields := do
  let magic ← takeWord 4
  let version ← takeByte
  let rawSlot ← takeByte
  let generation ← takeWord 8
  let actualCrc ← takeWord 4
  pure ⟨UInt32.ofNat magic, version, rawSlot, UInt64.ofNat generation, UInt32.ofNat actualCrc⟩

def decodePointer (input : Bytes) : Except String (SlotName × UInt64) :=
  if input.length ≠ 18 then .error "PAIRING-NVS-005"
  else match readPointerFields input with
    | none => .error "PAIRING-NVS-005"
    | some (fields, _) =>
      match slotNameOfCode fields.rawSlot with
      | none => .error "PAIRING-NVS-005"
      | some activeSlot =>
        if fields.magic = kConfigPointerMagic ∧ fields.version = kPointerVersion ∧
            fields.actualCrc = crc32 (input.take 14) then .ok (activeSlot, fields.generation)
        else .error "PAIRING-NVS-005"

inductive JournalPhase where
  | none
  | prepared
  | schedulePromoted
  | configCommitted
  | aborted
  deriving DecidableEq

def JournalPhase.code : JournalPhase → UInt8
  | .none => 0
  | .prepared => 1
  | .schedulePromoted => 2
  | .configCommitted => 3
  | .aborted => 4

def journalPhaseOfCode (code : UInt8) : Option JournalPhase :=
  if code = 1 then some .prepared else if code = 2 then some .schedulePromoted
  else if code = 3 then some .configCommitted else if code = 4 then some .aborted else none

structure RecoveryJournal where
  phase : JournalPhase := .none
  targetScheduleId : Bytes := []
  previousActiveSlot : Option SlotName := none
  previousGeneration : UInt64 := 0
  preparedSlot : SlotName
  preparedGeneration : UInt64 := 0
  deriving DecidableEq

def journalBody (journal : RecoveryJournal) : Bytes :=
  leBytes 4 kScheduleJournalMagic.toNat ++
    [kJournalVersion, journal.phase.code, (journal.previousActiveSlot.map SlotName.code).getD 0,
      journal.preparedSlot.code] ++
    leBytes 8 journal.previousGeneration.toNat ++ leBytes 8 journal.preparedGeneration.toNat ++
    (appendString journal.targetScheduleId kMaxScheduleIdBytes).getD []

def encodeJournal (journal : RecoveryJournal) : Except String Bytes :=
  if journal.phase = .none then .error "PAIRING-NVS-005"
  else if journal.targetScheduleId = [] ∨ kMaxScheduleIdBytes < journal.targetScheduleId.length then
    .error "PAIRING-NVS-005"
  else .ok (journalBody journal ++ leBytes 4 (crc32 (journalBody journal)).toNat)

structure JournalFields where
  magic : UInt32
  version : UInt8
  phase : UInt8
  previousSlot : UInt8
  preparedSlot : UInt8
  previousGeneration : UInt64
  preparedGeneration : UInt64
  targetScheduleId : Bytes
  actualCrc : UInt32

def readJournalFields : Reader JournalFields := do
  let magic ← takeWord 4
  let version ← takeByte
  let phase ← takeByte
  let previousSlot ← takeByte
  let preparedSlot ← takeByte
  let previousGeneration ← takeWord 8
  let preparedGeneration ← takeWord 8
  let targetScheduleId ← takeString kMaxScheduleIdBytes
  let actualCrc ← takeWord 4
  pure ⟨UInt32.ofNat magic, version, phase, previousSlot, preparedSlot, UInt64.ofNat previousGeneration,
    UInt64.ofNat preparedGeneration, targetScheduleId, UInt32.ofNat actualCrc⟩

/-- A zero byte is "no previous slot"; any other byte has to name a slot. -/
def previousSlotOfCode (code : UInt8) : Option (Option SlotName) :=
  if code = 0 then some none else (slotNameOfCode code).map some

def decodeJournal (input : Bytes) : Except String RecoveryJournal :=
  if input.length < 30 then .error "PAIRING-NVS-005"
  else match readJournalFields input with
    | none => .error "PAIRING-NVS-005"
    | some (fields, rest) =>
      match journalPhaseOfCode fields.phase, previousSlotOfCode fields.previousSlot,
          slotNameOfCode fields.preparedSlot with
      | some phase, some previousActiveSlot, some preparedSlot =>
        if rest = [] ∧ fields.magic = kScheduleJournalMagic ∧ fields.version = kJournalVersion ∧
            fields.actualCrc = crc32 (input.take (input.length - 4)) then
          .ok { phase, targetScheduleId := fields.targetScheduleId, previousActiveSlot
                previousGeneration := fields.previousGeneration, preparedSlot
                preparedGeneration := fields.preparedGeneration }
        else .error "PAIRING-NVS-005"
      | _, _, _ => .error "PAIRING-NVS-005"

end InkTime.Firmware
