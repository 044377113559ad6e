import InkTime.Firmware.ConfigStorePowerLoss

/-!
# Schedule and configuration as one transaction

The active schedule is a file, the configuration lives in the NVS store, and the recovery journal
ties the two. `commitActiveScheduleAndConfig` and the promotion of a staged schedule run the same
sequence; a boot loads the configuration and then reconciles what an interruption left behind.
-/

namespace InkTime.Firmware
open WireFormat FaultProgram FaultProgram.Program

/-! ### The device's persistent state -/

def kMaxScheduleBytes : Nat := 32768

structure Device where
  nvs : Nvs
  activeSchedule : Option Bytes := none
  stagedNext : Option Bytes := none

namespace Device

def setNvs (device : Device) (nvs : Nvs) : Device := { device with nvs }

end Device

/-- A `DeviceConfigStore` call. -/
def onStore {α : Type} (program : Program Nvs α) : Program Device α := within Device.nvs Device.setNvs program

section Schedules

-- the text under `schedule_id` in a JSON document; the JSON library is not part of the firmware
variable (idText : Bytes → Option Bytes)

def scheduleIdFromJson (json : Bytes) : Bytes :=
  if json = [] then []
  else
    match idText json with
    | none => []
    | some scheduleId => if scheduleId = [] ∨ 128 < scheduleId.length then [] else scheduleId

def readActiveSchedule (device : Device) : Option Bytes :=
  match device.activeSchedule with
  | some json => if json = [] ∨ kMaxScheduleBytes < json.length then none else some json
  | none => none

def activeScheduleId (device : Device) : Bytes :=
  match readActiveSchedule device with
  | some json => scheduleIdFromJson idText json
  | none => []

/-- Replaces the active file in one step. -/
def writeActiveSchedule (json : Bytes) : Program Device Bool :=
  if json = [] ∨ kMaxScheduleBytes < json.length then pure false
  else attempt fun device => { device with activeSchedule := some json }

def promoteStagedNextSchedule : Program Device Bool := do
  match ← observe Device.stagedNext with
  | none => pure false
  | some json => attempt fun device => { device with activeSchedule := some json, stagedNext := none }

/-! ### The transaction -/

/-- `blocked` is `failOfflineScheduleTransaction`, which also fences later schedule work. -/
inductive TxnResult where
  | committed
  | refused (persistError : String)
  | blocked (persistError message : String)
  deriving DecidableEq

/-- Messages of the three failures that fence the transaction. -/
structure TxnMessages where
  install : String
  journal : String
  commit : String

def txnJournal (phase : JournalPhase) (scheduleId : Bytes) (prepared : Prepared) : RecoveryJournal :=
  { phase, targetScheduleId := scheduleId
    previousActiveSlot := prepared.previous.map Prod.fst
    previousGeneration := (prepared.previous.map Prod.snd).getD 0
    preparedSlot := prepared.preparedSlot, preparedGeneration := prepared.preparedGeneration }

/-- The sequence both callers run; `install` makes the new schedule the active one. -/
def installScheduleAndCommit (install : Program Device Bool) (messages : TxnMessages)
    (candidate : ConfigPayload) (scheduleId : Bytes) : Program Device TxnResult := do
  match ← onStore (prepare candidate) with
  | .error text => pure (.refused text)
  | .ok prepared =>
    match ← onStore (writeJournal (txnJournal .prepared scheduleId prepared)) with
    | .error text => pure (.refused text)
    | .ok () =>
      if !(← install) then pure (.blocked "" messages.install)
      else if (← observe (activeScheduleId idText)) ≠ scheduleId then pure (.blocked "" messages.install)
      else
        match ← onStore (writeJournal (txnJournal .schedulePromoted scheduleId prepared)) with
        | .error text => pure (.blocked text messages.journal)
        | .ok () =>
          match ← onStore (commit prepared) with
          | .error text => pure (.blocked text messages.commit)
          | .ok () => pure .committed

def commitActiveScheduleAndConfig (candidate : ConfigPayload) (scheduleId scheduleJson : Bytes) :
    Program Device TxnResult :=
  installScheduleAndCommit idText (writeActiveSchedule scheduleJson)
    ⟨"離線排程 active schedule 寫入或身分驗證失敗", "離線排程 promotion journal 無法寫入",
      "離線排程 Config A/B pointer 無法 commit"⟩ candidate scheduleId

/-- The promotion sequence of `promoteStagedNextIfDue`, once the staged schedule is found due. -/
def promoteStagedNext (candidate : ConfigPayload) (scheduleId : Bytes) : Program Device TxnResult :=
  installScheduleAndCommit idText promoteStagedNextSchedule
    ⟨"離線排程 staged next promote 或身分驗證失敗", "離線排程 midnight Config commit 失敗",
      "離線排程 midnight Config commit 失敗"⟩ candidate scheduleId

/-! ### Boot -/

/-- `nothing` and `applied` return true; `applied` also replaces the configuration in memory. -/
inductive Reconciled where
  | nothing
  | applied (payload : ConfigPayload)
  | blocked (message : String)
  deriving DecidableEq

/-- The active slot and generation are the ones the journal calls previous. -/
def previousPointer (journal : RecoveryJournal) (active : Except String SlotValue) : Bool :=
  match journal.previousActiveSlot, active with
  | some slot, .ok value => value.slot == slot && value.generation == journal.previousGeneration
  | _, _ => false

/-- A prepared journal whose schedule never became active. -/
def stalePrepared (journal : RecoveryJournal) (active : Except String SlotValue) (scheduleId : Bytes) : Bool :=
  journal.phase == .prepared && scheduleId != journal.targetScheduleId &&
    (previousPointer journal active || (!active.isOk && journal.previousActiveSlot.isNone))

def reconcileJournal (journal : RecoveryJournal) : Program Device Reconciled := do
  match ← onStore (readPrepared journal.preparedSlot journal.preparedGeneration) with
  | .error _ => pure (.blocked "離線排程 recovery 的 prepared Config 不存在或損壞")
  | .ok preparedPayload =>
    let active ← onStore readActive
    let scheduleId ← observe (activeScheduleId idText)
    if stalePrepared journal active scheduleId then
      match ← onStore clearJournal with
      | .error _ => pure (.blocked "離線排程 stale prepared journal 無法清除")
      | .ok () => pure .nothing
    else if journal.phase ≠ .schedulePromoted then
      pure (.blocked "離線排程 transaction 未完成 promotion，已 fail-closed")
    else if scheduleId = [] ∨ scheduleId ≠ journal.targetScheduleId then
      pure (.blocked "離線排程 active 身分與 recovery target 不一致")
    else if !active.isOk then pure (.blocked "離線排程 active schedule 存在但 Config pointer 遺失")
    else
      match ← onStore (commitPreparedSlot journal.preparedSlot journal.preparedGeneration preparedPayload) with
      | .error _ => pure (.blocked "離線排程 recovery 無法 commit prepared Config")
      | .ok () => pure (.applied preparedPayload)

def reconcilePendingScheduleConfigTransaction : Program Device Reconciled := do
  match ← onStore readJournal with
  | .error _ => pure (.blocked "離線排程 recovery journal 損壞，已 fail-closed")
  | .ok none => pure .nothing
  | .ok (some journal) => reconcileJournal idText journal

/-- Configuration in memory after a boot, and whether schedule work is fenced. -/
structure BootState where
  config : Option ConfigPayload
  blocked : Bool
  deriving DecidableEq

/-- `DeviceConfigStore::load`, then the reconciliation. The fence is clear when the device starts. -/
def boot : Program Device BootState := do
  let loaded ← onStore load
  let config := loaded.toOption.map Loaded.payload
  match ← reconcilePendingScheduleConfigTransaction idText with
  | .nothing => pure ⟨config, false⟩
  | .applied payload => pure ⟨some payload, false⟩
  | .blocked _ => pure ⟨config, true⟩

end Schedules

end InkTime.Firmware
