import InkTime.Firmware.ConfigStoreRuns

/-!
# Loading after an interruption

A load that finds a journal follows it, and one that finds none follows the pointer. In both cases
the slot it returns is active afterwards, and only a journal of a promoted schedule is kept.
-/

namespace InkTime.Firmware
open WireFormat FaultProgram FaultProgram.Program

/-- The two stores differ at most in the keys of older firmware. -/
structure SameConfig (store store' : Nvs) : Prop where
  slotA : store'.slotA = store.slotA
  slotB : store'.slotB = store.slotB
  pointer : store'.pointer = store.pointer
  journal : store'.journal = store.journal
  legacyJournal : store'.legacyJournal = store.legacyJournal

lemma SameConfig.refl (store : Nvs) : SameConfig store store := ⟨rfl, rfl, rfl, rfl, rfl⟩

lemma SameConfig.trans {store store' store'' : Nvs} (h : SameConfig store store')
    (h' : SameConfig store' store'') : SameConfig store store'' where
  slotA := h'.slotA.trans h.slotA
  slotB := h'.slotB.trans h.slotB
  pointer := h'.pointer.trans h.pointer
  journal := h'.journal.trans h.journal
  legacyJournal := h'.legacyJournal.trans h.legacyJournal

lemma SameConfig.slot {store store' : Nvs} (h : SameConfig store store') (name : SlotName) :
    store'.slot name = store.slot name := by
  cases name with
  | A => exact h.slotA
  | B => exact h.slotB

lemma sameConfig_eraseLegacy (store : Nvs) (key : LegacyKey) : SameConfig store (store.eraseLegacy key) :=
  ⟨rfl, rfl, rfl, rfl, rfl⟩

lemma SameConfig.settled {store store' : Nvs} {slot : SlotName} {generation : UInt64}
    {payload : ConfigPayload} (h : SameConfig store store') (hs : Settled store slot generation payload) :
    Settled store' slot generation payload where
  noJournal := ⟨h.journal.trans hs.noJournal.1, h.legacyJournal.trans hs.noJournal.2⟩
  pointsTo := hs.pointsTo.congr h.pointer
  slotHolds := hs.slotHolds.congr (h.slot slot)

lemma SameConfig.journalIs {store store' : Nvs} {journal : RecoveryJournal} (h : SameConfig store store')
    (hj : JournalIs store journal) : JournalIs store' journal where
  valid := hj.valid
  stored := h.journal.trans hj.stored
  noLegacy := h.legacyJournal.trans hj.noLegacy

lemma beginStore_traces {α : Type} {next : Bool → Program Nvs α} {store : Nvs} {out : α} {steps : List Nvs}
    (h : Traces (next true) store out steps) : Traces (beginStore >>= next) store out (store :: steps) :=
  Traces.attempt_bind h

/-! ### Cleanup of older settings -/

lemma removeLegacyKeys_traces (keys : List LegacyKey) (store : Nvs) :
    ∃ steps, Traces (removeLegacyKeys keys) store true steps ∧ SameConfig store (finalStore store steps) ∧
      (∀ key, store.legacy key = none → (finalStore store steps).legacy key = none) ∧
      ∀ key ∈ keys, (finalStore store steps).legacy key = none := by
  induction keys generalizing store with
  | nil => exact ⟨[], Traces.pure true store, SameConfig.refl store, fun _ h => h, by simp⟩
  | cons key rest ih =>
    by_cases hpresent : (store.legacy key).isSome = true
    · obtain ⟨steps, htraces, hsame, hkept, hgone⟩ := ih (store.eraseLegacy key)
      have herased : (store.eraseLegacy key).legacy key = none := by simp [Nvs.eraseLegacy]
      refine ⟨store.eraseLegacy key :: steps, ?_, (sameConfig_eraseLegacy store key).trans hsame, ?_, ?_⟩
      · refine Traces.observe_bind ?_
        rw [if_pos hpresent]
        exact Traces.attempt_bind htraces
      · intro other hother
        apply hkept
        by_cases heq : other = key
        · rw [heq, herased]
        · simp [Nvs.eraseLegacy, heq, hother]
      · intro other hmem
        rcases List.mem_cons.mp hmem with rfl | hrest
        · exact hkept other herased
        · exact hgone other hrest
    · obtain ⟨steps, htraces, hsame, hkept, hgone⟩ := ih store
      have hnone : store.legacy key = none := by simpa using hpresent
      refine ⟨steps, ?_, hsame, hkept, ?_⟩
      · refine Traces.observe_bind ?_
        rw [if_neg hpresent]
        exact htraces
      · intro other hmem
        rcases List.mem_cons.mp hmem with rfl | hrest
        · exact hkept other hnone
        · exact hgone other hrest

/-- With a working flash the cleanup leaves no warning. -/
lemma finishLoad_traces (store : Nvs) (payload : ConfigPayload) :
    ∃ steps, Traces (finishLoad payload) store (.ok ⟨payload, ""⟩) steps ∧
      SameConfig store (finalStore store steps) := by
  obtain ⟨steps, htraces, hsame, -, hgone⟩ := removeLegacyKeys_traces (formalKeys ++ slotKeys) store
  have habsent : ((formalKeys ++ slotKeys).any fun key =>
      ((finalStore store steps).legacy key).isSome) = false := by
    rw [List.any_eq_false]
    intro key hkey
    simp [hgone key hkey]
  have hremove : Traces removeLegacyFormalKeys store (.ok ())
      (store :: (steps ++ [finalStore store steps])) := by
    refine beginStore_traces (htraces.bind ?_)
    refine beginStore_traces (Traces.observe_bind ?_)
    rw [habsent]
    exact Traces.pure _ _
  refine ⟨_, hremove.bind (Traces.pure _ _), ?_⟩
  rw [List.append_nil, finalStore_cons, finalStore_append]
  exact hsame

/-! ### The canonical slot -/

/-- The store once the pointer names the slot that the load selected. -/
def repaired (store : Nvs) (slot : SlotName) (generation : UInt64) : Nvs :=
  store.setPointer (some (encodePointer slot generation))

lemma loadAndRepairCanonicalSlot_traces {store : Nvs} {slot : SlotName} {generation : UInt64}
    {payload : ConfigPayload} (h : SlotHolds store slot generation payload) :
    Traces (loadAndRepairCanonicalSlot slot generation) store (.ok payload)
      [store, repaired store slot generation, repaired store slot generation] := by
  have hok := preparedPointerOk_of_pointsTo (pointsTo_setPointer store slot generation) (h.setPointer _)
  refine beginStore_traces (Traces.observe_bind ?_)
  rw [show readSlotAt store slot generation = .ok payload from h]
  refine Traces.attempt_bind (beginStore_traces (Traces.observe_bind ?_))
  rw [hok]
  exact Traces.pure _ _

/-- Without a journal the pointer decides. -/
lemma load_traces_of_settled {store : Nvs} {slot : SlotName} {generation : UInt64} {payload : ConfigPayload}
    (h : Settled store slot generation payload) :
    ∃ steps, Traces load store (.ok ⟨payload, ""⟩) steps ∧
      SameConfig (repaired store slot generation) (finalStore store steps) := by
  obtain ⟨steps, hfinish, hsame⟩ :=
    finishLoad_traces (repaired store slot generation) payload
  have hrepair := loadAndRepairCanonicalSlot_traces h.slotHolds
  have hload : Traces load store (.ok ⟨payload, ""⟩)
      ([store] ++ (store :: ([store, repaired store slot generation, repaired store slot generation] ++
        steps))) := by
    refine (readJournal_unfolds store).toTraces.bind ?_
    rw [findJournal_of_noJournal h.noJournal]
    refine beginStore_traces (Traces.observe_bind ?_)
    rw [show readCurrent (finalStore store [store]) = _ from readCurrent_of_settled h.pointsTo h.slotHolds]
    exact hrepair.bind hfinish
  exact ⟨_, hload, hsame⟩

/-- A journal that is not waiting for the schedule is resolved and dropped. -/
lemma load_traces_of_journal {store : Nvs} {journal : RecoveryJournal} {slot : SlotName}
    {generation : UInt64} {payload : ConfigPayload} (h : JournalIs store journal)
    (hphase : journal.phase ≠ .schedulePromoted) (htarget : recoveryTarget journal = some (slot, generation))
    (hslot : SlotHolds store slot generation payload) :
    ∃ steps, Traces load store (.ok ⟨payload, ""⟩) steps ∧
      SameConfig ((repaired store slot generation).setJournal none)
        (finalStore store steps) := by
  obtain ⟨steps, hfinish, hsame⟩ :=
    finishLoad_traces ((repaired store slot generation).setJournal none) payload
  have hrepair := loadAndRepairCanonicalSlot_traces hslot
  have hclear := (clearJournal_unfolds
    (show JournalIs (repaired store slot generation) journal from h.setPointer _)).toTraces
  have hrecover : Traces (recoverFromJournal journal) store (.ok ⟨payload, ""⟩)
      ([store, repaired store slot generation, repaired store slot generation] ++
        ([repaired store slot generation, (repaired store slot generation).setJournal none,
          (repaired store slot generation).setJournal none] ++ steps)) := by
    rw [recoverFromJournal, htarget]
    refine hrepair.bind ?_
    dsimp only
    rw [if_neg hphase]
    exact hclear.bind hfinish
  have hload := (readJournal_unfolds store).toTraces
  rw [findJournal_of_journalIs h] at hload
  exact ⟨_, hload.bind hrecover, hsame⟩

/-- The configuration side of a promoted schedule falls back, and the journal waits. -/
lemma load_traces_of_promoted {store : Nvs} {journal : RecoveryJournal} {slot : SlotName}
    {generation : UInt64} {payload : ConfigPayload} (h : JournalIs store journal)
    (hphase : journal.phase = .schedulePromoted) (htarget : recoveryTarget journal = some (slot, generation))
    (hslot : SlotHolds store slot generation payload) :
    ∃ steps, Traces load store (.ok ⟨payload, ""⟩) steps ∧
      SameConfig (repaired store slot generation) (finalStore store steps) := by
  obtain ⟨steps, hfinish, hsame⟩ :=
    finishLoad_traces (repaired store slot generation) payload
  have hrepair := loadAndRepairCanonicalSlot_traces hslot
  have hrecover : Traces (recoverFromJournal journal) store (.ok ⟨payload, ""⟩)
      ([store, repaired store slot generation, repaired store slot generation] ++ steps) := by
    rw [recoverFromJournal, htarget]
    refine hrepair.bind ?_
    dsimp only
    rw [if_pos hphase]
    exact hfinish
  have hload := (readJournal_unfolds store).toTraces
  rw [findJournal_of_journalIs h] at hload
  exact ⟨_, hload.bind hrecover, hsame⟩

/-! ### Recoverable stores -/

/-- A fault-free load returns `payload` and leaves it active with no transaction open. -/
def Recovers (store : Nvs) (slot : SlotName) (generation : UInt64) (payload : ConfigPayload) : Prop :=
  ∃ steps, Traces load store (.ok ⟨payload, ""⟩) steps ∧
    Settled (finalStore store steps) slot generation payload

theorem recovers_of_settled {store : Nvs} {slot : SlotName} {generation : UInt64} {payload : ConfigPayload}
    (h : Settled store slot generation payload) : Recovers store slot generation payload := by
  obtain ⟨steps, htraces, hsame⟩ := load_traces_of_settled h
  refine ⟨steps, htraces, hsame.settled ⟨h.noJournal, ?_, h.slotHolds.setPointer _⟩⟩
  exact pointsTo_setPointer store slot generation

theorem recovers_of_journal {store : Nvs} {journal : RecoveryJournal} {slot : SlotName}
    {generation : UInt64} {payload : ConfigPayload} (h : JournalIs store journal)
    (hphase : journal.phase ≠ .schedulePromoted) (htarget : recoveryTarget journal = some (slot, generation))
    (hslot : SlotHolds store slot generation payload) : Recovers store slot generation payload := by
  obtain ⟨steps, htraces, hsame⟩ := load_traces_of_journal h hphase htarget hslot
  refine ⟨steps, htraces, hsame.settled ⟨⟨rfl, h.noLegacy⟩, ?_, ?_⟩⟩
  · exact pointsTo_setPointer store slot generation
  · exact (hslot.setPointer _).setJournal _

lemma Recovers.clean {store : Nvs} {slot : SlotName} {generation : UInt64} {payload : ConfigPayload}
    (h : Recovers store slot generation payload) :
    ∃ store', clean load store = (some (.ok ⟨payload, ""⟩), store') ∧
      Settled store' slot generation payload := by
  obtain ⟨steps, htraces, hsettled⟩ := h
  exact ⟨_, clean_of_traces htraces, hsettled⟩

/-- Only one payload can come back. -/
lemma Recovers.load_eq {store : Nvs} {slot : SlotName} {generation : UInt64} {payload : ConfigPayload}
    (h : Recovers store slot generation payload) : (Program.clean load store).1 = some (.ok ⟨payload, ""⟩) := by
  obtain ⟨store', hload, -⟩ := h.clean
  rw [hload]

end InkTime.Firmware
