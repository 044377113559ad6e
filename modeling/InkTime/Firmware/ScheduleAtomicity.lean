import InkTime.Firmware.ScheduleTransaction

/-!
# Power loss between schedule and configuration

Every store of the transaction but one boots into the old pair or the new pair. The exception is the
store in which the schedule is already replaced and the journal still says prepared: the load drops
that journal before the reconciliation can see it.
-/

namespace InkTime.Firmware
open WireFormat FaultProgram FaultProgram.Program

section Atomicity

variable {idText : Bytes → Option Bytes}

/-- A schedule that the device can store and identify. -/
structure Schedule (idText : Bytes → Option Bytes) where
  json : Bytes
  id : Bytes
  fits : json.length ≤ kMaxScheduleBytes
  identified : scheduleIdFromJson idText json = id
  named : id ≠ []

lemma Schedule.json_ne_nil (schedule : Schedule idText) : schedule.json ≠ [] := by
  intro hnil
  apply schedule.named
  rw [← schedule.identified, scheduleIdFromJson, if_pos hnil]

lemma Schedule.id_length_le (schedule : Schedule idText) : schedule.id.length ≤ 128 := by
  rw [← schedule.identified, scheduleIdFromJson, if_neg schedule.json_ne_nil]
  cases idText schedule.json with
  | none => simp
  | some text =>
    dsimp only
    split_ifs with hsize
    · simp
    · omega

lemma activeScheduleId_of_active {device : Device} (schedule : Schedule idText)
    (h : device.activeSchedule = some schedule.json) : activeScheduleId idText device = schedule.id := by
  have hread : readActiveSchedule device = some schedule.json := by
    simp [readActiveSchedule, h, schedule.json_ne_nil, schedule.fits]
  rw [activeScheduleId, hread]
  exact schedule.identified

/-! ### Store calls on the device -/

lemma onStore_traces {α : Type} {program : Program Nvs α} {device : Device} {value : α} {steps : List Nvs}
    (h : Traces program device.nvs value steps) :
    Traces (onStore program) device value (steps.map device.setNvs) :=
  Traces.within rfl h

lemma onStore_traces_final {α : Type} {program : Program Nvs α} {device : Device} {value : α}
    {steps : List Nvs} (h : Traces program device.nvs value steps) :
    ∃ steps', Traces (onStore program) device value steps' ∧
      finalStore device steps' = device.setNvs (finalStore device.nvs steps) :=
  ⟨_, onStore_traces h, finalStore_map device.setNvs device.nvs steps⟩

/-! ### Boot -/

/-- A fault-free boot ends unblocked with this schedule and this configuration, and no journal. -/
def BootsInto (idText : Bytes → Option Bytes) (device : Device) (schedule : Option Bytes)
    (config : ConfigPayload) : Prop :=
  ∃ device' slot generation, clean (boot idText) device = (some ⟨some config, false⟩, device') ∧
    device'.activeSchedule = schedule ∧ Settled device'.nvs slot generation config

/-- The reconciliation after a load that left no journal. -/
lemma reconcile_traces_nothing {device : Device} (h : NoJournal device.nvs) :
    Traces (reconcilePendingScheduleConfigTransaction idText) device .nothing [device] := by
  have hjournal := (readJournal_unfolds device.nvs).toTraces
  rw [findJournal_of_noJournal h] at hjournal
  exact (onStore_traces hjournal).bind (Traces.pure _ _)

/-- A store that the load resolves by itself leaves nothing to reconcile. -/
theorem bootsInto_of_recovers {device : Device} {slot : SlotName} {generation : UInt64}
    {config : ConfigPayload} (h : Recovers device.nvs slot generation config) :
    BootsInto idText device device.activeSchedule config := by
  obtain ⟨steps, hload, hsettled⟩ := h
  obtain ⟨loadSteps, hload', hfinal⟩ := onStore_traces_final hload
  have hreconcile : Traces (reconcilePendingScheduleConfigTransaction idText) (finalStore device loadSteps)
      .nothing [finalStore device loadSteps] := by
    apply reconcile_traces_nothing
    rw [hfinal]
    exact hsettled.noJournal
  have hboot : Traces (boot idText) device ⟨some config, false⟩
      (loadSteps ++ ([finalStore device loadSteps] ++ [])) :=
    hload'.bind (hreconcile.bind (Traces.pure _ _))
  refine ⟨_, slot, generation, clean_of_traces hboot, ?_, ?_⟩
  · rw [finalStore_append, hfinal]
    rfl
  · rw [finalStore_append, hfinal]
    exact hsettled

/-! ### Recovery of a promoted schedule -/

/-- Stores of a commit under a journal that is already on flash. -/
def promoteSteps (store : Nvs) (journal : RecoveryJournal) : List Nvs :=
  let promoted := withPointer store journal
  let committed := withJournal promoted (journalCommitted journal)
  let cleared := committed.setJournal none
  [store, store, store, promoted, promoted, promoted, committed, committed, committed, cleared, cleared]

/-- A promoted journal is completed by the commit it was written for. -/
lemma commitPreparedSlot_traces_promoted {store : Nvs} {journal : RecoveryJournal} {payload : ConfigPayload}
    (h : JournalIs store journal) (hphase : journal.phase = .schedulePromoted)
    (hslot : SlotHolds store journal.preparedSlot journal.preparedGeneration payload) :
    Traces (commitPreparedSlot journal.preparedSlot journal.preparedGeneration payload) store (.ok ())
      (promoteSteps store journal) := by
  have hjournal := (readJournal_unfolds store).toTraces
  rw [findJournal_of_journalIs h] at hjournal
  have haccepted : journalRefuses journal journal.preparedSlot journal.preparedGeneration = false := by
    simp [journalRefuses, hphase]
  have hcommitted : ¬journal.phase = .configCommitted := by simp [hphase]
  refine hjournal.bind ?_
  dsimp only
  rw [haccepted, if_neg (by simp), if_neg hcommitted]
  exact (promoteCandidate_unfolds h hslot).toTraces

lemma clearedJournal_settled {store : Nvs} {journal : RecoveryJournal} {payload : ConfigPayload}
    (hlegacy : store.legacyJournal = none)
    (hslot : SlotHolds store journal.preparedSlot journal.preparedGeneration payload) :
    Settled (finalStore store (promoteSteps store journal)) journal.preparedSlot journal.preparedGeneration
      payload where
  noJournal := ⟨rfl, hlegacy⟩
  pointsTo := (pointsTo_setPointer store _ _).congr rfl
  slotHolds := ((hslot.setPointer _).setJournal _).setJournal _

lemma readActive_traces {store : Nvs} {slot : SlotName} {generation : UInt64} {payload : ConfigPayload}
    (hpointer : PointsTo store slot generation) (hslot : SlotHolds store slot generation payload) :
    Traces readActive store (.ok ⟨payload, slot, generation⟩) [store] := by
  refine beginStore_traces (Traces.observe_bind ?_)
  rw [readCurrent_of_settled hpointer hslot]
  exact Traces.pure _ _

lemma readPrepared_traces {store : Nvs} {slot : SlotName} {generation : UInt64} {payload : ConfigPayload}
    (hslot : SlotHolds store slot generation payload) :
    Traces (readPrepared slot generation) store (.ok payload) [store] := by
  refine beginStore_traces (Traces.observe_bind ?_)
  rw [show readSlotAt store slot generation = .ok payload from hslot]
  exact Traces.pure _ _

lemma reconcileJournal_traces_applied {device : Device} {journal : RecoveryJournal} {slot : SlotName}
    {generation : UInt64} {old payload : ConfigPayload} (hjournal : JournalIs device.nvs journal)
    (hphase : journal.phase = .schedulePromoted) (hpointer : PointsTo device.nvs slot generation)
    (hold : SlotHolds device.nvs slot generation old)
    (hnew : SlotHolds device.nvs journal.preparedSlot journal.preparedGeneration payload)
    (hactive : activeScheduleId idText device = journal.targetScheduleId) :
    Traces (reconcileJournal idText journal) device (.applied payload)
      (device :: device :: (promoteSteps device.nvs journal).map device.setNvs) := by
  have hstale : ∀ active, stalePrepared journal active journal.targetScheduleId = false := by
    intro active
    simp [stalePrepared, hphase]
  have hnamed : ¬(journal.targetScheduleId = [] ∨ journal.targetScheduleId ≠ journal.targetScheduleId) := by
    simpa using hjournal.valid.2.1
  have hcommit := onStore_traces (commitPreparedSlot_traces_promoted hjournal hphase hnew)
  have hprepared : Traces (onStore (readPrepared journal.preparedSlot journal.preparedGeneration)) device
      (.ok payload) [device] := onStore_traces (readPrepared_traces hnew)
  have hread : Traces (onStore readActive) device (.ok ⟨old, slot, generation⟩) [device] :=
    onStore_traces (readActive_traces hpointer hold)
  refine hprepared.bind (hread.bind (Traces.observe_bind ?_))
  simp only [finalStore_cons, finalStore_nil, hactive, hstale]
  rw [if_neg (by simp), if_neg (by simp [hphase]), if_neg hnamed]
  exact hcommit.bind_last (Traces.pure _ _)

lemma reconcile_traces_applied {device : Device} {journal : RecoveryJournal} {slot : SlotName}
    {generation : UInt64} {old payload : ConfigPayload} (hjournal : JournalIs device.nvs journal)
    (hphase : journal.phase = .schedulePromoted) (hpointer : PointsTo device.nvs slot generation)
    (hold : SlotHolds device.nvs slot generation old)
    (hnew : SlotHolds device.nvs journal.preparedSlot journal.preparedGeneration payload)
    (hactive : activeScheduleId idText device = journal.targetScheduleId) :
    ∃ steps, Traces (reconcilePendingScheduleConfigTransaction idText) device (.applied payload) steps ∧
      finalStore device steps = device.setNvs (finalStore device.nvs (promoteSteps device.nvs journal)) := by
  have hread := onStore_traces (readJournal_unfolds device.nvs).toTraces
  rw [findJournal_of_journalIs hjournal] at hread
  exact ⟨_, hread.bind (reconcileJournal_traces_applied hjournal hphase hpointer hold hnew hactive), rfl⟩

/-- A promoted schedule pulls its configuration forward. -/
theorem bootsInto_of_promoted {device : Device} {journal : RecoveryJournal} {slot : SlotName}
    {generation : UInt64} {old payload : ConfigPayload} (hjournal : JournalIs device.nvs journal)
    (hphase : journal.phase = .schedulePromoted) (htarget : recoveryTarget journal = some (slot, generation))
    (hold : SlotHolds device.nvs slot generation old)
    (hnew : SlotHolds device.nvs journal.preparedSlot journal.preparedGeneration payload)
    (hactive : activeScheduleId idText device = journal.targetScheduleId) :
    BootsInto idText device device.activeSchedule payload := by
  obtain ⟨steps, hload, hsame⟩ := load_traces_of_promoted hjournal hphase htarget hold
  obtain ⟨loadSteps, hload', hfinal⟩ := onStore_traces_final hload
  have hjournal' : JournalIs (finalStore device.nvs steps) journal :=
    hsame.journalIs (hjournal.setPointer _)
  have hpointer : PointsTo (finalStore device.nvs steps) slot generation :=
    (pointsTo_setPointer device.nvs slot generation).congr hsame.pointer
  have hold' : SlotHolds (finalStore device.nvs steps) slot generation old :=
    (hold.setPointer _).congr (hsame.slot slot)
  have hnew' : SlotHolds (finalStore device.nvs steps) journal.preparedSlot journal.preparedGeneration payload :=
    (hnew.setPointer _).congr (hsame.slot journal.preparedSlot)
  obtain ⟨recSteps, hreconcile, hdone⟩ := reconcile_traces_applied
    (show JournalIs (device.setNvs (finalStore device.nvs steps)).nvs journal from hjournal')
    hphase hpointer hold' hnew' hactive
  rw [← hfinal] at hreconcile hdone
  have hboot : Traces (boot idText) device ⟨some payload, false⟩ (loadSteps ++ recSteps) :=
    hload'.bind (hreconcile.bind_last (Traces.pure _ _))
  have hend : finalStore device (loadSteps ++ recSteps) = device.setNvs
      (finalStore (finalStore device.nvs steps) (promoteSteps (finalStore device.nvs steps) journal)) := by
    rw [finalStore_append, hdone, hfinal]
    rfl
  refine ⟨_, journal.preparedSlot, journal.preparedGeneration, clean_of_traces hboot, ?_, ?_⟩
  · rw [hend]
    rfl
  · rw [hend]
    exact clearedJournal_settled hjournal'.noLegacy hnew'

/-! ### The stores of the transaction -/

variable {device : Device} {slot : SlotName} {generation : UInt64} {old candidate : ConfigPayload}

/-- The journal of the transaction that replaces the configuration in `slot`. -/
def pairJournal (phase : JournalPhase) (schedule : Schedule idText) (slot : SlotName) (generation : UInt64)
    (candidate : ConfigPayload) : RecoveryJournal :=
  txnJournal phase schedule.id ⟨candidate, slot.other, generation + 1, some (slot, generation)⟩

lemma pairJournal_valid {phase : JournalPhase} (hphase : phase ≠ .none) (schedule : Schedule idText)
    (slot : SlotName) (generation : UInt64) (candidate : ConfigPayload) :
    ValidJournal (pairJournal phase schedule slot generation candidate) := by
  have hlen := schedule.id_length_le
  exact ⟨hphase, schedule.named, by simp only [pairJournal, txnJournal, kMaxScheduleIdBytes]; omega⟩

/-- Candidate written, journal prepared. -/
def preparedStore (store : Nvs) (schedule : Schedule idText) (slot : SlotName) (generation : UInt64)
    (candidate : ConfigPayload) : Nvs :=
  withJournal (candidateStore store slot generation candidate)
    (pairJournal .prepared schedule slot generation candidate)

/-- Journal moved on to the promoted schedule. -/
def scheduledStore (store : Nvs) (schedule : Schedule idText) (slot : SlotName) (generation : UInt64)
    (candidate : ConfigPayload) : Nvs :=
  withJournal (preparedStore store schedule slot generation candidate)
    (pairJournal .schedulePromoted schedule slot generation candidate)

/-- The devices the transaction passes through; `installed` is the device with the new schedule. -/
def pairSteps (device installed : Device) (schedule : Schedule idText) (slot : SlotName) (generation : UInt64)
    (candidate : ConfigPayload) : List Device :=
  let written := candidateStore device.nvs slot generation candidate
  let prepared := preparedStore device.nvs schedule slot generation candidate
  let scheduled := scheduledStore device.nvs schedule slot generation candidate
  let journal := pairJournal .schedulePromoted schedule slot generation candidate
  [device.nvs, written, written].map device.setNvs ++ ([written, prepared, prepared].map device.setNvs ++
    ([installed.setNvs prepared] ++ ([prepared, scheduled, scheduled].map installed.setNvs ++
      (promoteSteps scheduled journal).map installed.setNvs)))

/-- `install` replaces the schedule of `device` in one operation, whatever the store holds. -/
structure Installs (install : Program Device Bool) (device installed : Device) (schedule : Schedule idText) :
    Prop where
  traces : ∀ nvs, Traces install (device.setNvs nvs) true [installed.setNvs nvs]
  active : installed.activeSchedule = some schedule.json

lemma preparedStore_new (schedule : Schedule idText) (hvalid : validatePayload candidate = .ok ())
    (store : Nvs) (slot : SlotName) (generation : UInt64) :
    SlotHolds (preparedStore store schedule slot generation candidate) slot.other (generation + 1) candidate :=
  (candidateStore_new store slot generation hvalid).setJournal _

lemma scheduledStore_new (schedule : Schedule idText) (hvalid : validatePayload candidate = .ok ())
    (store : Nvs) (slot : SlotName) (generation : UInt64) :
    SlotHolds (scheduledStore store schedule slot generation candidate) slot.other (generation + 1) candidate :=
  (preparedStore_new schedule hvalid store slot generation).setJournal _

lemma preparedStore_journal (h : Settled device.nvs slot generation old) (schedule : Schedule idText)
    (candidate : ConfigPayload) :
    JournalIs (preparedStore device.nvs schedule slot generation candidate)
      (pairJournal .prepared schedule slot generation candidate) :=
  journalIs_withJournal (pairJournal_valid (by decide) schedule slot generation candidate)
    (candidateStore_settled h candidate).noJournal.2

lemma scheduledStore_journal (h : Settled device.nvs slot generation old) (schedule : Schedule idText)
    (candidate : ConfigPayload) :
    JournalIs (scheduledStore device.nvs schedule slot generation candidate)
      (pairJournal .schedulePromoted schedule slot generation candidate) :=
  journalIs_withJournal (pairJournal_valid (by decide) schedule slot generation candidate)
    (preparedStore_journal h schedule candidate).noLegacy

theorem installScheduleAndCommit_traces {install : Program Device Bool} {installed : Device}
    {schedule : Schedule idText} (h : Settled device.nvs slot generation old)
    (hgeneration : generation ≠ maxGeneration) (hvalid : validatePayload candidate = .ok ())
    (hinstall : Installs install device installed schedule) (messages : TxnMessages) :
    Traces (installScheduleAndCommit idText install messages candidate schedule.id) device .committed
      (pairSteps device installed schedule slot generation candidate) := by
  have hprepare := onStore_traces (prepare_unfolds h.pointsTo h.slotHolds hgeneration hvalid).toTraces
  have hwrite : Traces (onStore (writeJournal (pairJournal .prepared schedule slot generation candidate)))
      (device.setNvs (candidateStore device.nvs slot generation candidate)) (.ok ()) _ :=
    onStore_traces (writeJournal_unfolds (pairJournal_valid (by decide) schedule slot generation candidate)
      (candidateStore_settled h candidate).noJournal.2).toTraces
  have hpromote : Traces
      (onStore (writeJournal (pairJournal .schedulePromoted schedule slot generation candidate)))
      (installed.setNvs (preparedStore device.nvs schedule slot generation candidate)) (.ok ()) _ :=
    onStore_traces (writeJournal_unfolds (pairJournal_valid (by decide) schedule slot generation candidate)
      (preparedStore_journal h schedule candidate).noLegacy).toTraces
  have hcommit := onStore_traces
    (show Traces _ (installed.setNvs (scheduledStore device.nvs schedule slot generation candidate)).nvs _ _ from
      commitPreparedSlot_traces_promoted (scheduledStore_journal h schedule candidate) rfl
        (scheduledStore_new schedule hvalid device.nvs slot generation))
  have hactive : activeScheduleId idText
      (installed.setNvs (preparedStore device.nvs schedule slot generation candidate)) = schedule.id :=
    activeScheduleId_of_active schedule hinstall.active
  have hsame := not_not.mpr hactive
  have hinstalled := hinstall.traces (preparedStore device.nvs schedule slot generation candidate)
  refine hprepare.bind (hwrite.bind (hinstalled.bind (Traces.observe_bind ?_)))
  dsimp only [finalStore_cons, finalStore_nil]
  rw [if_neg hsame]
  exact hpromote.bind (hcommit.bind_last (Traces.pure _ _))

/-! ### What each store boots into -/

section Pairs

variable {installed : Device} {schedule : Schedule idText}

lemma setNvs_boots {nvs : Nvs} {config : ConfigPayload} (h : Recovers nvs slot generation config)
    (device : Device) : BootsInto idText (device.setNvs nvs) device.activeSchedule config :=
  bootsInto_of_recovers h

lemma preparedStore_recovers (h : Settled device.nvs slot generation old) (schedule : Schedule idText)
    (candidate : ConfigPayload) :
    Recovers (preparedStore device.nvs schedule slot generation candidate) slot generation old :=
  recovers_of_journal (preparedStore_journal h schedule candidate) (by simp [pairJournal, txnJournal]) rfl
    ((candidateStore_old h candidate).setJournal _)

/-- The new schedule under a journal that only says prepared: the load drops the journal, and the
configuration stays behind. -/
lemma preparedStore_boots_apart (h : Settled device.nvs slot generation old)
    (hactive : installed.activeSchedule = some schedule.json) (candidate : ConfigPayload) :
    BootsInto idText (installed.setNvs (preparedStore device.nvs schedule slot generation candidate))
      (some schedule.json) old := by
  rw [← hactive]
  exact setNvs_boots (preparedStore_recovers h schedule candidate) installed

/-- With the promoted journal on flash the reconciliation completes the pair, wherever the pointer is. -/
lemma scheduledStore_boots (h : Settled device.nvs slot generation old)
    (hvalid : validatePayload candidate = .ok ()) (hactive : installed.activeSchedule = some schedule.json)
    {nvs : Nvs} (hjournal : JournalIs nvs (pairJournal .schedulePromoted schedule slot generation candidate))
    (hslot : ∀ name, nvs.slot name = (candidateStore device.nvs slot generation candidate).slot name) :
    BootsInto idText (installed.setNvs nvs) (some schedule.json) candidate := by
  rw [← hactive]
  have hold : SlotHolds nvs slot generation old := (candidateStore_old h candidate).congr (hslot _)
  have hnew : SlotHolds nvs slot.other (generation + 1) candidate :=
    (candidateStore_new device.nvs slot generation hvalid).congr (hslot _)
  have hid : activeScheduleId idText (installed.setNvs nvs) = schedule.id :=
    activeScheduleId_of_active schedule hactive
  exact bootsInto_of_promoted (show JournalIs (installed.setNvs nvs).nvs _ from hjournal) rfl rfl hold hnew hid

lemma scheduledStore_slot (name : SlotName) :
    (scheduledStore device.nvs schedule slot generation candidate).slot name =
      (candidateStore device.nvs slot generation candidate).slot name := by
  simp [scheduledStore, preparedStore, withJournal]

/-- The device during the commit, once the pointer names the candidate. -/
def pairPromoted (store : Nvs) (schedule : Schedule idText) (slot : SlotName) (generation : UInt64)
    (candidate : ConfigPayload) : Nvs :=
  withPointer (scheduledStore store schedule slot generation candidate)
    (pairJournal .schedulePromoted schedule slot generation candidate)

def pairCommitted (store : Nvs) (schedule : Schedule idText) (slot : SlotName) (generation : UInt64)
    (candidate : ConfigPayload) : Nvs :=
  withJournal (pairPromoted store schedule slot generation candidate)
    (journalCommitted (pairJournal .schedulePromoted schedule slot generation candidate))

def pairCleared (store : Nvs) (schedule : Schedule idText) (slot : SlotName) (generation : UInt64)
    (candidate : ConfigPayload) : Nvs :=
  (pairCommitted store schedule slot generation candidate).setJournal none

lemma pairPromoted_boots (h : Settled device.nvs slot generation old)
    (hvalid : validatePayload candidate = .ok ()) (hactive : installed.activeSchedule = some schedule.json) :
    BootsInto idText (installed.setNvs (pairPromoted device.nvs schedule slot generation candidate))
      (some schedule.json) candidate := by
  apply scheduledStore_boots h hvalid hactive ((scheduledStore_journal h schedule candidate).setPointer _)
  intro name
  rw [Nvs.slot_setPointer, scheduledStore_slot]

lemma pairCommitted_recovers (h : Settled device.nvs slot generation old)
    (hvalid : validatePayload candidate = .ok ()) (schedule : Schedule idText) :
    Recovers (pairCommitted device.nvs schedule slot generation candidate) slot.other (generation + 1)
      candidate := by
  have hjournal := scheduledStore_journal h schedule candidate
  have hnew := scheduledStore_new schedule hvalid device.nvs slot generation
  exact recovers_of_journal (journalIs_withJournal (journalCommitted_valid hjournal.valid)
    (hjournal.setPointer _).noLegacy) (by simp [journalCommitted]) rfl ((hnew.setPointer _).setJournal _)

lemma pairCleared_recovers (h : Settled device.nvs slot generation old)
    (hvalid : validatePayload candidate = .ok ()) (schedule : Schedule idText) :
    Recovers (pairCleared device.nvs schedule slot generation candidate) slot.other (generation + 1)
      candidate :=
  recovers_of_settled (clearedJournal_settled (scheduledStore_journal h schedule candidate).noLegacy
    (scheduledStore_new schedule hvalid device.nvs slot generation))

lemma BootsInto.of_eq {found found' : Device} {active : Option Bytes} {config : ConfigPayload}
    (h : BootsInto idText found' active config) (heq : found = found') :
    BootsInto idText found active config := heq ▸ h

/-- Before the new schedule is installed the old pair comes back. -/
lemma pairSteps_boots_old (h : Settled device.nvs slot generation old) (installed : Device)
    (schedule : Schedule idText) (candidate : ConfigPayload) {cut : Nat} (hcut : cut < 7) :
    BootsInto idText (storeAfter device (pairSteps device installed schedule slot generation candidate) cut)
      device.activeSchedule old := by
  have hstart : BootsInto idText device device.activeSchedule old :=
    bootsInto_of_recovers (recovers_of_settled h)
  have hwritten : BootsInto idText (device.setNvs (candidateStore device.nvs slot generation candidate))
      device.activeSchedule old :=
    setNvs_boots (recovers_of_settled (candidateStore_settled h candidate)) device
  have hprepared : BootsInto idText
      (device.setNvs (preparedStore device.nvs schedule slot generation candidate)) device.activeSchedule old :=
    setNvs_boots (preparedStore_recovers h schedule candidate) device
  interval_cases cut
  · exact hstart.of_eq rfl
  · exact hstart.of_eq rfl
  · exact hwritten.of_eq rfl
  · exact hwritten.of_eq rfl
  · exact hwritten.of_eq rfl
  · exact hprepared.of_eq rfl
  · exact hprepared.of_eq rfl

/-- Between the installation and the next journal write the two come apart. -/
lemma pairSteps_boots_apart (h : Settled device.nvs slot generation old)
    (hactive : installed.activeSchedule = some schedule.json) (candidate : ConfigPayload) {cut : Nat}
    (hcut : cut = 7 ∨ cut = 8) :
    BootsInto idText (storeAfter device (pairSteps device installed schedule slot generation candidate) cut)
      (some schedule.json) old := by
  have hapart := preparedStore_boots_apart h hactive candidate
  rcases hcut with rfl | rfl
  · exact hapart.of_eq rfl
  · exact hapart.of_eq rfl

/-- From then on the new pair is completed. -/
lemma pairSteps_boots_new (h : Settled device.nvs slot generation old)
    (hvalid : validatePayload candidate = .ok ()) (hactive : installed.activeSchedule = some schedule.json)
    {cut : Nat} (hge : 9 ≤ cut) (hle : cut ≤ 21) :
    BootsInto idText (storeAfter device (pairSteps device installed schedule slot generation candidate) cut)
      (some schedule.json) candidate := by
  have hscheduled := scheduledStore_boots h hvalid hactive (scheduledStore_journal h schedule candidate)
    scheduledStore_slot
  have hpromoted := pairPromoted_boots h hvalid hactive
  have hcommitted : BootsInto idText
      (installed.setNvs (pairCommitted device.nvs schedule slot generation candidate)) (some schedule.json)
      candidate := by
    rw [← hactive]
    exact setNvs_boots (pairCommitted_recovers h hvalid schedule) installed
  have hcleared : BootsInto idText
      (installed.setNvs (pairCleared device.nvs schedule slot generation candidate)) (some schedule.json)
      candidate := by
    rw [← hactive]
    exact setNvs_boots (pairCleared_recovers h hvalid schedule) installed
  interval_cases cut
  · exact hscheduled.of_eq rfl
  · exact hscheduled.of_eq rfl
  · exact hscheduled.of_eq rfl
  · exact hscheduled.of_eq rfl
  · exact hscheduled.of_eq rfl
  · exact hpromoted.of_eq rfl
  · exact hpromoted.of_eq rfl
  · exact hpromoted.of_eq rfl
  · exact hcommitted.of_eq rfl
  · exact hcommitted.of_eq rfl
  · exact hcommitted.of_eq rfl
  · exact hcleared.of_eq rfl
  · exact hcleared.of_eq rfl

end Pairs

/-! ### The transaction under power loss -/

/-- The device a transaction leaves behind when the power goes at operation `cut`. -/
def txnCutAt (txn : Program Device TxnResult) (cut : Nat) (device : Device) : Device :=
  (txn (cutAt cut) ⟨device, 0⟩).2.store

/-- The device boots into the old pair or into the new pair. -/
def PairsUp (device' device : Device) (old : ConfigPayload) (schedule : Schedule idText)
    (candidate : ConfigPayload) : Prop :=
  BootsInto idText device' device.activeSchedule old ∨
    BootsInto idText device' (some schedule.json) candidate

lemma BootsInto.unique {device' : Device} {active active' : Option Bytes} {config config' : ConfigPayload}
    (h : BootsInto idText device' active config) (h' : BootsInto idText device' active' config') :
    active = active' ∧ config = config' := by
  obtain ⟨found, slot, generation, hboot, hactive, -⟩ := h
  obtain ⟨found', slot', generation', hboot', hactive', -⟩ := h'
  rw [hboot] at hboot'
  obtain ⟨hstate, rfl⟩ := Prod.mk.inj hboot'
  refine ⟨hactive.symm.trans hactive', ?_⟩
  simpa using hstate

/-- A configuration that cannot be prepared leaves the device alone. -/
lemma installScheduleAndCommit_refused {schedule : Schedule idText} (h : Settled device.nvs slot generation old)
    (hunstarted : validatePayload candidate ≠ .ok () ∨ generation = maxGeneration)
    (install : Program Device Bool) (messages : TxnMessages) (cut : Nat) :
    txnCutAt (installScheduleAndCommit idText install messages candidate schedule.id) cut device = device := by
  by_cases hvalid : validatePayload candidate = .ok ()
  · obtain rfl := hunstarted.resolve_left (fun hne => hne hvalid)
    have hprepare := onStore_traces (prepare_unfolds_exhausted h.pointsTo h.slotHolds hvalid).toTraces
    have htxn : Traces (installScheduleAndCommit idText install messages candidate schedule.id) device
        (.refused "PAIRING-NVS-001") [device] := hprepare.bind_last (Traces.pure _ _)
    have hmem := storeAfter_mem device [device] (min cut 1)
    rw [txnCutAt, cutAt_of_traces htxn]
    simpa using hmem
  · obtain ⟨text, hprepare⟩ := prepare_unfolds_invalid device.nvs hvalid
    have htxn : Traces (installScheduleAndCommit idText install messages candidate schedule.id) device
        (.refused text) [] := (onStore_traces hprepare.toTraces).bind_last (Traces.pure _ _)
    rw [txnCutAt, cutAt_of_traces htxn]
    rfl

/-- Schedule and configuration stay together unless the power goes between the two writes. -/
theorem installScheduleAndCommit_pairsUp_iff {install : Program Device Bool} {installed : Device}
    {schedule : Schedule idText} (h : Settled device.nvs slot generation old)
    (hother : activeScheduleId idText device ≠ schedule.id)
    (hinstall : Installs install device installed schedule) (messages : TxnMessages) (cut : Nat) :
    PairsUp (txnCutAt (installScheduleAndCommit idText install messages candidate schedule.id) cut device)
        device old schedule candidate ↔
      (cut ≠ 7 ∧ cut ≠ 8) ∨ candidate = old ∨ validatePayload candidate ≠ .ok () ∨
        generation = maxGeneration := by
  by_cases hunstarted : validatePayload candidate ≠ .ok () ∨ generation = maxGeneration
  · rw [installScheduleAndCommit_refused h hunstarted]
    exact ⟨fun _ => .inr (.inr hunstarted), fun _ => .inl (bootsInto_of_recovers (recovers_of_settled h))⟩
  obtain ⟨hinvalid, hgeneration⟩ := not_or.mp hunstarted
  have hvalid : validatePayload candidate = .ok () := not_not.mp hinvalid
  have htxn := installScheduleAndCommit_traces h hgeneration hvalid hinstall messages
  have hfound : txnCutAt (installScheduleAndCommit idText install messages candidate schedule.id) cut device =
      storeAfter device (pairSteps device installed schedule slot generation candidate) (min cut 21) :=
    cutAt_of_traces htxn cut
  rw [hfound]
  by_cases hapart : cut = 7 ∨ cut = 8
  · have hmin : min cut 21 = cut := Nat.min_eq_left (by omega)
    have hboots := pairSteps_boots_apart h hinstall.active candidate hapart
    rw [hmin]
    constructor
    · rintro (hold | hnew)
      · have hsame := (hboots.unique hold).1
        exact absurd (activeScheduleId_of_active schedule hsame.symm) hother
      · exact .inr (.inl (hboots.unique hnew).2.symm)
    · rintro (⟨hne7, hne8⟩ | rfl | hne | hmax)
      · exact absurd hapart (by omega)
      · exact .inr hboots
      · exact absurd hvalid hne
      · exact absurd hmax hgeneration
  · refine ⟨fun _ => .inl (by omega), fun _ => ?_⟩
    by_cases hearly : cut < 7
    · rw [Nat.min_eq_left (by omega)]
      exact .inl (pairSteps_boots_old h installed schedule candidate hearly)
    · exact .inr (pairSteps_boots_new h hvalid hinstall.active (by omega) (by omega))

lemma writeActiveSchedule_installs (device : Device) (schedule : Schedule idText) :
    Installs (writeActiveSchedule schedule.json) device { device with activeSchedule := some schedule.json }
      schedule where
  traces := by
    intro nvs
    have hfits : ¬(schedule.json = [] ∨ kMaxScheduleBytes < schedule.json.length) := by
      rintro (hnil | hlong)
      · exact schedule.json_ne_nil hnil
      · exact absurd schedule.fits (Nat.not_le.mpr hlong)
    rw [writeActiveSchedule, if_neg hfits]
    exact Traces.attempt _ _
  active := rfl

lemma promoteStagedNextSchedule_installs {schedule : Schedule idText}
    (hstaged : device.stagedNext = some schedule.json) :
    Installs promoteStagedNextSchedule device
      { device with activeSchedule := some schedule.json, stagedNext := none } schedule where
  traces := by
    intro nvs
    refine Traces.observe_bind ?_
    rw [show (device.setNvs nvs).stagedNext = some schedule.json from hstaged]
    exact Traces.attempt _ _
  active := rfl

/-- Both transactions come apart exactly when the power goes after the schedule is replaced and
before the journal says so, with a configuration that differs and was prepared. -/
theorem schedule_and_config_commit_together_iff {schedule : Schedule idText}
    (h : Settled device.nvs slot generation old) (hother : activeScheduleId idText device ≠ schedule.id)
    (cut : Nat) :
    (PairsUp (txnCutAt (commitActiveScheduleAndConfig idText candidate schedule.id schedule.json) cut device)
        device old schedule candidate ↔
      (cut ≠ 7 ∧ cut ≠ 8) ∨ candidate = old ∨ validatePayload candidate ≠ .ok () ∨
        generation = maxGeneration) ∧
    (device.stagedNext = some schedule.json →
      (PairsUp (txnCutAt (promoteStagedNext idText candidate schedule.id) cut device) device old schedule
          candidate ↔
        (cut ≠ 7 ∧ cut ≠ 8) ∨ candidate = old ∨ validatePayload candidate ≠ .ok () ∨
          generation = maxGeneration)) := by
  constructor
  · exact installScheduleAndCommit_pairsUp_iff h hother (writeActiveSchedule_installs device schedule) _ cut
  · intro hstaged
    exact installScheduleAndCommit_pairsUp_iff h hother (promoteStagedNextSchedule_installs hstaged) _ cut

end Atomicity

/-! ### A device that comes apart -/

/-- The identifier of a document whose only member is `schedule_id`. -/
def bareIdText (json : Bytes) : Option Bytes :=
  let head := ascii "\x7b\"schedule_id\":\""
  let tail := ascii "\"\x7d"
  let text := (json.drop head.length).take (json.length - head.length - tail.length)
  if json = head ++ text ++ tail ∧ 34 ∉ text ∧ 92 ∉ text then some text else none

def mondaySchedule : Schedule bareIdText where
  json := ascii "\x7b\"schedule_id\":\"mon\"\x7d"
  id := ascii "mon"
  fits := by decide
  identified := by decide
  named := by decide

/-- Sunday's schedule is active, Monday's is staged, and the default configuration is in slot A. -/
def sundayDevice : Device where
  nvs := storeWith {} 7
  activeSchedule := some (ascii "\x7b\"schedule_id\":\"sun\"\x7d")
  stagedNext := some mondaySchedule.json

lemma sundayDevice_other : activeScheduleId bareIdText sundayDevice ≠ mondaySchedule.id := by
  have hid : activeScheduleId bareIdText sundayDevice = ascii "sun" := by
    simp only [activeScheduleId, readActiveSchedule, sundayDevice]
    decide
  rw [hid]
  decide

theorem schedule_and_config_commit_together_iff_monday :
    Settled sundayDevice.nvs .A 7 {} ∧ activeScheduleId bareIdText sundayDevice ≠ mondaySchedule.id ∧
      (PairsUp (txnCutAt (commitActiveScheduleAndConfig bareIdText nineOClock mondaySchedule.id
          mondaySchedule.json) 7 sundayDevice) sundayDevice {} mondaySchedule nineOClock ↔
        (7 ≠ 7 ∧ 7 ≠ 8) ∨ nineOClock = {} ∨ validatePayload nineOClock ≠ .ok () ∨
          (7 : UInt64) = maxGeneration) ∧
      (PairsUp (txnCutAt (promoteStagedNext bareIdText nineOClock mondaySchedule.id) 7 sundayDevice)
          sundayDevice {} mondaySchedule nineOClock ↔
        (7 ≠ 7 ∧ 7 ≠ 8) ∨ nineOClock = {} ∨ validatePayload nineOClock ≠ .ok () ∨
          (7 : UInt64) = maxGeneration) := by
  have hsettled : Settled sundayDevice.nvs .A 7 {} := storeWith_settled default_valid 7
  obtain ⟨hcommit, hpromote⟩ := schedule_and_config_commit_together_iff hsettled sundayDevice_other 7
  exact ⟨hsettled, sundayDevice_other, hcommit, hpromote rfl⟩

/-- Power lost right after the schedule file is replaced: both transactions boot into Monday's schedule
with Sunday's configuration. -/
theorem schedule_promoted_without_config :
    Settled sundayDevice.nvs .A 7 {} ∧ activeScheduleId bareIdText sundayDevice ≠ mondaySchedule.id ∧
      ¬PairsUp (txnCutAt (commitActiveScheduleAndConfig bareIdText nineOClock mondaySchedule.id
        mondaySchedule.json) 7 sundayDevice) sundayDevice {} mondaySchedule nineOClock ∧
      ¬PairsUp (txnCutAt (promoteStagedNext bareIdText nineOClock mondaySchedule.id) 7 sundayDevice)
        sundayDevice {} mondaySchedule nineOClock := by
  have hsettled : Settled sundayDevice.nvs .A 7 {} := storeWith_settled default_valid 7
  have hnot : ¬((7 ≠ 7 ∧ 7 ≠ 8) ∨ nineOClock = {} ∨ validatePayload nineOClock ≠ .ok () ∨
      (7 : UInt64) = maxGeneration) := by
    rintro (⟨hne, -⟩ | hsame | hinvalid | hmax)
    · exact hne rfl
    · exact absurd hsame (by decide)
    · exact hinvalid nineOClock_valid
    · exact absurd hmax (by decide)
  refine ⟨hsettled, sundayDevice_other, ?_, ?_⟩
  · exact fun hpairs => hnot ((installScheduleAndCommit_pairsUp_iff hsettled sundayDevice_other
      (writeActiveSchedule_installs _ _) _ 7).mp hpairs)
  · exact fun hpairs => hnot ((installScheduleAndCommit_pairsUp_iff hsettled sundayDevice_other
      (promoteStagedNextSchedule_installs rfl) _ 7).mp hpairs)

end InkTime.Firmware
