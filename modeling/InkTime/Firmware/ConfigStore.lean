import InkTime.Firmware.ConfigRoundTrip
import InkTime.Library.FaultProgram

/-!
# The A/B configuration store

`DeviceConfigStore` over the `Preferences` library: two slots, the active pointer and the recovery
journal live under their own keys of the namespace `cfgstore`, and the settings of older firmware
under typed keys of `dashcfg`. Opening a namespace, writing a key and removing a key are storage
operations of `FaultProgram`; `isKey` and the getters only read.
-/

namespace InkTime.Firmware
open WireFormat FaultProgram FaultProgram.Program

/-! ### Storage -/

/-- Formal keys of the legacy namespace; `slot i` is the key `s<i>`. -/
inductive LegacyKey where
  | ssid | pass | hostport | caPem | devtoken | tzmin | tz | hour | minute | rot180 | prefetch
  | delivery | button | cfgver | scnt
  | slot (index : Fin kMaxConfigSlots)
  deriving DecidableEq

/-- A stored entry keeps the type it was written with; a getter of another type misses it. -/
inductive LegacyValue where
  | text (value : Bytes)
  | int (value : Int32)
  | uchar (value : UInt8)
  | ushort (value : UInt16)
  | ulong (value : UInt32)
  deriving DecidableEq

structure Nvs where
  slotA : Option Bytes := none
  slotB : Option Bytes := none
  pointer : Option Bytes := none
  journal : Option Bytes := none
  legacyJournal : Option Bytes := none
  legacy : LegacyKey → Option LegacyValue := fun _ => none

namespace Nvs

def slot (store : Nvs) : SlotName → Option Bytes
  | .A => store.slotA
  | .B => store.slotB

def setSlot (store : Nvs) (name : SlotName) (value : Option Bytes) : Nvs :=
  match name with
  | .A => { store with slotA := value }
  | .B => { store with slotB := value }

def setPointer (store : Nvs) (value : Option Bytes) : Nvs := { store with pointer := value }

def setJournal (store : Nvs) (value : Option Bytes) : Nvs := { store with journal := value }

def eraseLegacyJournal (store : Nvs) : Nvs := { store with legacyJournal := none }

def eraseLegacy (store : Nvs) (key : LegacyKey) : Nvs :=
  { store with legacy := Function.update store.legacy key none }

end Nvs

/-- `Preferences::begin` on either namespace. -/
def beginStore : Program Nvs Bool := attempt id

/-! ### Reading -/

/-- An absent or empty entry is "not present". -/
def readBlob (entry : Option Bytes) : Except String (Option Bytes) :=
  match entry with
  | none => .ok none
  | some [] => .ok none
  | some bytes =>
    if kMaxConfigPayloadBytes + 64 < bytes.length then .error "PAIRING-NVS-004" else .ok (some bytes)

structure SlotValue where
  payload : ConfigPayload
  slot : SlotName
  generation : UInt64
  deriving DecidableEq

def readSlot (store : Nvs) (slot : SlotName) : Except String SlotValue :=
  match readBlob (store.slot slot) with
  | .error text => .error text
  | .ok none => .error ""
  | .ok (some bytes) =>
    match decodeSlot bytes with
    | .error text => .error text
    | .ok (payload, generation) => .ok ⟨payload, slot, generation⟩

/-- An unreadable blob counts as an absent pointer; only a blob that does not decode is an error. -/
def readPointer (store : Nvs) : Except String (Option (SlotName × UInt64)) :=
  match readBlob store.pointer with
  | .error _ => .ok none
  | .ok none => .ok none
  | .ok (some bytes) =>
    match decodePointer bytes with
    | .error _ => .error "PAIRING-NVS-005"
    | .ok pointer => .ok (some pointer)

/-- Without a valid pointer or journal the older complete slot is the fail-safe choice. -/
def findNewest (store : Nvs) : Option SlotValue :=
  match readSlot store .A, readSlot store .B with
  | .error _, .error _ => none
  | .ok candidateA, .error _ => some candidateA
  | .error _, .ok candidateB => some candidateB
  | .ok candidateA, .ok candidateB =>
    if candidateA.generation ≤ candidateB.generation then some candidateA else some candidateB

/-- `none` is `present = false`; the source function itself never fails. -/
def readCurrent (store : Nvs) : Option SlotValue :=
  match readPointer store with
  | .error _ => findNewest store
  | .ok none => findNewest store
  | .ok (some (slot, generation)) =>
    match readSlot store slot with
    | .ok pointed => if pointed.generation = generation then some pointed else findNewest store
    | .error _ => findNewest store

def readActive : Program Nvs (Except String SlotValue) := do
  if !(← beginStore) then pure (.error "PAIRING-NVS-002")
  else
    match ← observe readCurrent with
    | none => pure (.error "")
    | some current => pure (.ok current)

/-- The slot has to carry the expected generation. -/
def readSlotAt (store : Nvs) (slot : SlotName) (generation : UInt64) : Except String ConfigPayload :=
  match readSlot store slot with
  | .error text => .error text
  | .ok value => if value.generation = generation then .ok value.payload else .error ""

def readPrepared (preparedSlot : SlotName) (preparedGeneration : UInt64) :
    Program Nvs (Except String ConfigPayload) := do
  if !(← beginStore) then pure (.error "PAIRING-NVS-002")
  else
    match ← observe (readSlotAt · preparedSlot preparedGeneration) with
    | .ok payload => pure (.ok payload)
    | .error text => pure (.error (if text.isEmpty then "PAIRING-NVS-003" else text))

/-- The canonical key first, then the key older firmware used. -/
def findJournal (store : Nvs) : Except String (Option RecoveryJournal) :=
  match readBlob store.journal with
  | .error text => .error text
  | .ok (some bytes) =>
    match decodeJournal bytes with
    | .error _ => .error "PAIRING-NVS-005"
    | .ok journal => .ok (some journal)
  | .ok none =>
    match readBlob store.legacyJournal with
    | .error text => .error text
    | .ok none => .ok none
    | .ok (some bytes) =>
      match decodeJournal bytes with
      | .error _ => .error "PAIRING-NVS-005"
      | .ok journal => .ok (some journal)

def readJournal : Program Nvs (Except String (Option RecoveryJournal)) := do
  if !(← beginStore) then pure (.error "PAIRING-NVS-002") else observe findJournal

/-! ### Single writes and their readback -/

def putPointer (slot : SlotName) (generation : UInt64) : Program Nvs Bool :=
  attempt (·.setPointer (some (encodePointer slot generation)))

/-- Bytes just written to the journal key are there, decode, and no legacy journal is left. -/
def journalReadback (bytes : Bytes) (store : Nvs) : Bool :=
  match readBlob store.journal with
  | .ok (some readback) =>
    readback == bytes && (decodeJournal readback).isOk && store.legacyJournal.isNone
  | _ => false

/-- `ok = true; if (store.isKey(key)) ok = store.remove(key);` -/
def removeIfPresent (isKey : Nvs → Bool) (erase : Nvs → Nvs) : Program Nvs Bool := do
  if ← observe isKey then attempt erase else pure true

def writeJournal (journal : RecoveryJournal) : Program Nvs (Except String Unit) :=
  match encodeJournal journal with
  | .error _ => pure (.error "PAIRING-NVS-005")
  | .ok bytes => do
    if !(← beginStore) then pure (.error "PAIRING-NVS-002")
    else if !(← attempt (·.setJournal (some bytes))) then pure (.error "PAIRING-NVS-005")
    else if !(← removeIfPresent (·.legacyJournal.isSome) Nvs.eraseLegacyJournal) then
      pure (.error "PAIRING-NVS-006")
    else if !(← beginStore) then pure (.error "PAIRING-NVS-006")
    else if ← observe (journalReadback bytes) then pure (.ok ())
    else pure (.error "PAIRING-NVS-006")

def clearJournal : Program Nvs (Except String Unit) := do
  if !(← beginStore) then pure (.error "PAIRING-NVS-002")
  else if !(← removeIfPresent (·.journal.isSome) (·.setJournal none)) then pure (.error "PAIRING-NVS-006")
  else if !(← removeIfPresent (·.legacyJournal.isSome) Nvs.eraseLegacyJournal) then
    pure (.error "PAIRING-NVS-006")
  else if !(← beginStore) then pure (.error "PAIRING-NVS-006")
  else if ← observe (fun store => store.journal.isNone && store.legacyJournal.isNone) then pure (.ok ())
  else pure (.error "PAIRING-NVS-006")

def clearSlot (slot : SlotName) : Program Nvs (Except String Unit) := do
  if !(← beginStore) then pure (.error "PAIRING-NVS-006")
  else if !(← removeIfPresent (fun store => (store.slot slot).isSome) (·.setSlot slot none)) then
    pure (.error "PAIRING-NVS-006")
  else if !(← beginStore) then pure (.error "PAIRING-NVS-006")
  else if ← observe (fun store => (store.slot slot).isNone) then pure (.ok ())
  else pure (.error "PAIRING-NVS-006")

/-! ### Prepare and commit -/

structure Prepared where
  payload : ConfigPayload
  preparedSlot : SlotName
  preparedGeneration : UInt64
  previous : Option (SlotName × UInt64)

def maxGeneration : UInt64 := 0xffffffffffffffff

/-- Slot, generation and predecessor of the next candidate; `none` when generations are used up. -/
def nextCandidate (current : Option SlotValue) : Option (SlotName × UInt64 × Option (SlotName × UInt64)) :=
  match current with
  | none => some (.A, 1, none)
  | some value =>
    if value.generation = maxGeneration then none
    else some (if value.slot = .A then .B else .A, value.generation + 1, some (value.slot, value.generation))

def prepare (payload : ConfigPayload) : Program Nvs (Except String Prepared) :=
  match encodeSlot payload 1 with
  | .error text => pure (.error text)
  | .ok _ => do
    if !(← beginStore) then pure (.error "PAIRING-NVS-002")
    else
      match nextCandidate (← observe readCurrent) with
      | none => pure (.error "PAIRING-NVS-001")
      | some (preparedSlot, preparedGeneration, previous) =>
        match encodeSlot payload preparedGeneration with
        | .error _ => pure (.error "PAIRING-NVS-001")
        | .ok encoded =>
          if !(← attempt (·.setSlot preparedSlot (some encoded))) then pure (.error "PAIRING-NVS-001")
          else if !(← beginStore) then pure (.error "PAIRING-NVS-002")
          else if (← observe (readSlotAt · preparedSlot preparedGeneration)).toOption = some payload then
            pure (.ok ⟨payload, preparedSlot, preparedGeneration, previous⟩)
          else pure (.error "PAIRING-NVS-003")

/-- The pointer reads back as `previous`, and the slot it names is complete. -/
def pointerRestored (previous : Option (SlotName × UInt64)) (store : Nvs) : Bool :=
  match readPointer store, previous with
  | .ok none, none => true
  | .ok (some restored), some (slot, generation) =>
    restored == (slot, generation) && (readSlotAt store slot generation).isOk
  | _, _ => false

/-- Writes the pointer back, or removes it when there was none. -/
def rewritePointer : Option (SlotName × UInt64) → Program Nvs Bool
  | some (slot, generation) => putPointer slot generation
  | none => removeIfPresent (·.pointer.isSome) (·.setPointer none)

def restorePreviousPointer (previous : Option (SlotName × UInt64)) : Program Nvs Bool := do
  if !(← beginStore) then pure false
  else if !(← rewritePointer previous) then pure false
  else if !(← beginStore) then pure false
  else observe (pointerRestored previous)

def preparedPointerOk (slot : SlotName) (generation : UInt64) (payload : ConfigPayload) (store : Nvs) : Bool :=
  match readPointer store with
  | .ok (some pointer) =>
    pointer == (slot, generation) && (readSlotAt store slot generation).toOption == some payload
  | _ => false

def verifyPreparedPointer (slot : SlotName) (generation : UInt64) (payload : ConfigPayload) :
    Program Nvs Bool := do
  if !(← beginStore) then pure false else observe (preparedPointerOk slot generation payload)

/-- Without a previous configuration the candidate slot must not survive the undo. -/
def clearOrphanCandidate (previous : Option (SlotName × UInt64)) (slot : SlotName) :
    Program Nvs (Except String Unit) :=
  if previous.isNone then clearSlot slot else pure (.ok ())

/-- Second half of the undo. The journal goes last, and stays when anything before it failed. -/
def restoreAndClear (journalAborted : Bool) (preparedSlot : SlotName)
    (previous : Option (SlotName × UInt64)) (primaryError : String) : Program Nvs (Except String Unit) := do
  if !(← restorePreviousPointer previous) then pure (.error "PAIRING-NVS-007")
  else if !journalAborted then pure (.error "PAIRING-NVS-006")
  else if !(← clearOrphanCandidate previous preparedSlot).isOk then pure (.error "PAIRING-NVS-006")
  else if !(← clearJournal).isOk then pure (.error "PAIRING-NVS-006")
  else pure (.error primaryError)

/-- Undo of a commit: mark the journal, restore the pointer, and only then drop the journal. -/
def abortCommit (journal : RecoveryJournal) (previous : Option (SlotName × UInt64)) (primaryError : String) :
    Program Nvs (Except String Unit) := do
  let journalAborted ← writeJournal { journal with phase := .aborted }
  restoreAndClear journalAborted.isOk journal.preparedSlot previous primaryError

/-- A committed journal is finished forward: the candidate wins. -/
def finishCommitted (slot : SlotName) (generation : UInt64) (payload : ConfigPayload) :
    Program Nvs (Except String Unit) := do
  if ← verifyPreparedPointer slot generation payload then clearJournal
  else if !(← beginStore) then pure (.error "PAIRING-NVS-002")
  else if !(← putPointer slot generation) then pure (.error "PAIRING-NVS-005")
  else if ← verifyPreparedPointer slot generation payload then clearJournal
  else pure (.error "PAIRING-NVS-005")

/-- Pointer promotion under a journal that is not yet committed. -/
def promoteCandidate (journal : RecoveryJournal) (previous : Option (SlotName × UInt64))
    (payload : ConfigPayload) : Program Nvs (Except String Unit) := do
  let slot := journal.preparedSlot
  let generation := journal.preparedGeneration
  if !(← beginStore) then pure (.error "PAIRING-NVS-002")
  else if (← observe (readSlotAt · slot generation)).toOption ≠ some payload then
    abortCommit journal previous "PAIRING-NVS-003"
  else if !(← beginStore) then abortCommit journal previous "PAIRING-NVS-002"
  else if !(← putPointer slot generation) then abortCommit journal previous "PAIRING-NVS-005"
  else if !(← verifyPreparedPointer slot generation payload) then
    abortCommit journal previous "PAIRING-NVS-005"
  else
    let committed := { journal with phase := .configCommitted }
    if !(← writeJournal committed).isOk then abortCommit committed previous "PAIRING-NVS-006"
    else if !(← clearJournal).isOk then abortCommit committed previous "PAIRING-NVS-006"
    else pure (.ok ())

def journalRefuses (journal : RecoveryJournal) (slot : SlotName) (generation : UInt64) : Bool :=
  journal.preparedSlot != slot || journal.preparedGeneration != generation ||
    journal.phase == .aborted ||
    (journal.phase == .prepared && journal.targetScheduleId != kGenericCommitTargetScheduleId &&
      !journal.targetScheduleId.isEmpty)

def commitPreparedSlot (slot : SlotName) (generation : UInt64) (payload : ConfigPayload) :
    Program Nvs (Except String Unit) := do
  match ← readJournal with
  | .error _ => pure (.error "PAIRING-NVS-005")
  | .ok (some journal) =>
    if journalRefuses journal slot generation then pure (.error "PAIRING-NVS-005")
    else
      let previous := journal.previousActiveSlot.map (·, journal.previousGeneration)
      if journal.phase = .configCommitted then finishCommitted slot generation payload
      else promoteCandidate journal previous payload
  | .ok none =>
    if !(← beginStore) then pure (.error "PAIRING-NVS-002")
    else
      match ← observe readPointer with
      | .error _ => pure (.error "PAIRING-NVS-005")
      | .ok previous =>
        let journal : RecoveryJournal :=
          { phase := .prepared, targetScheduleId := kGenericCommitTargetScheduleId
            previousActiveSlot := previous.map Prod.fst
            previousGeneration := (previous.map Prod.snd).getD 0
            preparedSlot := slot, preparedGeneration := generation }
        match ← writeJournal journal with
        | .error text => pure (.error text)
        | .ok () => promoteCandidate journal previous payload

def commit (prepared : Prepared) : Program Nvs (Except String Unit) :=
  commitPreparedSlot prepared.preparedSlot prepared.preparedGeneration prepared.payload

def save (payload : ConfigPayload) : Program Nvs (Except String Unit) := do
  match ← prepare payload with
  | .error text => pure (.error text)
  | .ok prepared => commit prepared

/-! ### Settings of older firmware -/

def formalKeys : List LegacyKey :=
  [.ssid, .pass, .hostport, .caPem, .devtoken, .tzmin, .tz, .hour, .minute, .rot180, .prefetch,
    .delivery, .button, .cfgver, .scnt]

def slotKeys : List LegacyKey := List.ofFn LegacyKey.slot

def getText (store : Nvs) (key : LegacyKey) (fallback : Bytes) : Bytes :=
  match store.legacy key with
  | some (.text value) => value
  | _ => fallback

def getInt (store : Nvs) (key : LegacyKey) (fallback : Int32) : Int32 :=
  match store.legacy key with
  | some (.int value) => value
  | _ => fallback

def getUChar (store : Nvs) (key : LegacyKey) (fallback : UInt8) : UInt8 :=
  match store.legacy key with
  | some (.uchar value) => value
  | _ => fallback

def getUShort (store : Nvs) (key : LegacyKey) (fallback : UInt16) : UInt16 :=
  match store.legacy key with
  | some (.ushort value) => value
  | _ => fallback

def getULong (store : Nvs) (key : LegacyKey) (fallback : UInt32) : UInt32 :=
  match store.legacy key with
  | some (.ulong value) => value
  | _ => fallback

def parseLegacyClock (value : Bytes) : Option ScheduleSlot :=
  match value with
  | [h1, h0, colon, m1, m0] =>
    let slot : ScheduleSlot := ⟨clockField h1 h0, clockField m1 m0⟩
    if colon = 58 ∧ isDigit h1 ∧ isDigit h0 ∧ isDigit m1 ∧ isDigit m0 ∧ validSlot slot then some slot else none
  | _ => none

def legacySlots (store : Nvs) (count : Nat) : Option (List ScheduleSlot) :=
  ((slotKeys.take count).mapM fun key => parseLegacyClock (getText store key []))

def legacyBase (store : Nvs) : ConfigPayload :=
  let deviceToken := getText store .devtoken []
  let refreshHour := getUChar store .hour 8
  let refreshMinute := getUChar store .minute 0
  { wifiSsid := getText store .ssid [], wifiPass := getText store .pass []
    backendHostport := getText store .hostport [], caPem := getText store .caPem [], deviceToken
    authState := if deviceToken.isEmpty then ascii "unpaired" else ascii "paired"
    tzOffsetMinutes := getInt store .tzmin (getInt store .tz 8 * 60)
    refreshHour, refreshMinute
    -- `putBool` stores an unsigned char
    rotate180 := getUChar store .rot180 0 == 1
    prefetchLeadMinutes := getUShort store .prefetch 5
    deliveryMode := getText store .delivery (ascii "legacy_online")
    buttonWakeAction := getText store .button (ascii "check_new")
    configVersion := getULong store .cfgver 0
    scheduleCount := 1, scheduleSlots := padSlots [⟨refreshHour, refreshMinute⟩] }

/-- The stored slot list replaces the single refresh time only when the result validates. -/
def legacyPayload (store : Nvs) : ConfigPayload :=
  let base := legacyBase store
  let count := getUChar store .scnt 0
  let chosen :=
    if 0 < count.toNat ∧ count.toNat ≤ kMaxConfigSlots then
      match legacySlots store count.toNat with
      | some (first :: rest) =>
        let candidate := { base with
          scheduleCount := count, scheduleSlots := padSlots (first :: rest)
          refreshHour := first.hour, refreshMinute := first.minute }
        if (validatePayload candidate).isOk then candidate else base
      | _ => base
    else base
  { chosen with scheduleSlots := padSlots (chosen.scheduleSlots.toList.take chosen.scheduleCount.toNat) }

def loadLegacy : Program Nvs (Except String (Option ConfigPayload)) := do
  if !(← beginStore) then pure (.error "PAIRING-NVS-002")
  else if !(← observe fun store => formalKeys.any fun key => (store.legacy key).isSome) then pure (.ok none)
  else
    let payload ← observe legacyPayload
    if (validatePayload payload).isOk then pure (.ok (some payload)) else pure (.error "PAIRING-NVS-001")

/-- Removal stops at the first key that cannot be removed. -/
def removeLegacyKeys : List LegacyKey → Program Nvs Bool
  | [] => pure true
  | key :: rest => do
    if ← observe (fun store => (store.legacy key).isSome) then
      if ← attempt (·.eraseLegacy key) then removeLegacyKeys rest else pure false
    else removeLegacyKeys rest

def removeLegacyFormalKeys : Program Nvs (Except String Unit) := do
  if !(← beginStore) then pure (.error "PAIRING-NVS-002")
  else if !(← removeLegacyKeys (formalKeys ++ slotKeys)) then pure (.error "PAIRING-NVS-006")
  else if !(← beginStore) then pure (.error "PAIRING-NVS-006")
  else if ← observe (fun store => (formalKeys ++ slotKeys).any fun key => (store.legacy key).isSome) then
    pure (.error "PAIRING-NVS-006")
  else pure (.ok ())

/-! ### Loading -/

/-- What a successful load hands out; a non-empty warning is a failed cleanup. -/
structure Loaded where
  payload : ConfigPayload
  warning : String
  deriving DecidableEq

/-- Re-reads the slot, points to it and checks that both stuck. -/
def loadAndRepairCanonicalSlot (slot : SlotName) (generation : UInt64) :
    Program Nvs (Except String ConfigPayload) := do
  if !(← beginStore) then pure (.error "PAIRING-NVS-002")
  else
    match ← observe (readSlotAt · slot generation) with
    | .error _ => pure (.error "PAIRING-NVS-003")
    | .ok selected =>
      if !(← putPointer slot generation) then pure (.error "PAIRING-NVS-005")
      else if !(← beginStore) then pure (.error "PAIRING-NVS-005")
      else if ← observe (preparedPointerOk slot generation selected) then pure (.ok selected)
      else pure (.error "PAIRING-NVS-005")

/-- The canonical value stays active when cleanup fails; the failure becomes a warning. -/
def finishLoad (payload : ConfigPayload) : Program Nvs (Except String Loaded) := do
  match ← removeLegacyFormalKeys with
  | .error cleanupError => pure (.ok ⟨payload, cleanupError⟩)
  | .ok () => pure (.ok ⟨payload, ""⟩)

/-- The slot an interrupted transaction has to fall back to or to complete. -/
def recoveryTarget (journal : RecoveryJournal) : Option (SlotName × UInt64) :=
  if journal.phase = .configCommitted then some (journal.preparedSlot, journal.preparedGeneration)
  else journal.previousActiveSlot.map (·, journal.previousGeneration)

/-- A journal is authoritative. A promoted schedule keeps it for the cross-domain recovery. -/
def recoverFromJournal (journal : RecoveryJournal) : Program Nvs (Except String Loaded) :=
  match recoveryTarget journal with
  | none =>
    if journal.phase = .schedulePromoted then pure (.error "PAIRING-NVS-005")
    else do
      match ← clearSlot journal.preparedSlot with
      | .error text => pure (.error text)
      | .ok () =>
        match ← clearJournal with
        | .error text => pure (.error text)
        | .ok () => pure (.error "")
  | some (slot, generation) => do
    match ← loadAndRepairCanonicalSlot slot generation with
    | .error text => pure (.error text)
    | .ok payload =>
      if journal.phase = .schedulePromoted then finishLoad payload
      else
        match ← clearJournal with
        | .error text => pure (.error text)
        | .ok () => finishLoad payload

def load : Program Nvs (Except String Loaded) := do
  match ← readJournal with
  | .error _ => pure (.error "PAIRING-NVS-005")
  | .ok (some journal) => recoverFromJournal journal
  | .ok none =>
    if !(← beginStore) then pure (.error "PAIRING-NVS-002")
    else
      match ← observe readCurrent with
      | some current =>
        match ← loadAndRepairCanonicalSlot current.slot current.generation with
        | .error text => pure (.error text)
        | .ok payload => finishLoad payload
      | none =>
        match ← loadLegacy with
        | .error text => pure (.error text)
        | .ok none => pure (.error "")
        | .ok (some payload) =>
          match ← save payload with
          | .error text => pure (.error text)
          | .ok () => finishLoad payload

end InkTime.Firmware
