import InkTime.Firmware.ConfigStoreLoad

/-!
# Power loss during a save

The six stores that a save passes through, and what a load makes of each. The journal turns the
outcome at one write, the one that marks it committed.
-/

namespace InkTime.Firmware
open WireFormat FaultProgram FaultProgram.Program

/-! ### The stores of a save -/

section Stores

variable {store : Nvs} {slot : SlotName} {generation : UInt64} {old payload : ConfigPayload}

/-- Slot written, nothing else. -/
def candidateStore (store : Nvs) (slot : SlotName) (generation : UInt64) (payload : ConfigPayload) : Nvs :=
  withCandidate store slot.other (generation + 1) payload

/-- Journal opened over the candidate. -/
def openedStore (store : Nvs) (slot : SlotName) (generation : UInt64) (payload : ConfigPayload) : Nvs :=
  withJournal (candidateStore store slot generation payload) (saveJournal slot generation)

/-- Pointer moved to the candidate. -/
def promotedStore (store : Nvs) (slot : SlotName) (generation : UInt64) (payload : ConfigPayload) : Nvs :=
  withPointer (openedStore store slot generation payload) (saveJournal slot generation)

/-- Journal marked committed. -/
def committedStore (store : Nvs) (slot : SlotName) (generation : UInt64) (payload : ConfigPayload) : Nvs :=
  withJournal (promotedStore store slot generation payload) (journalCommitted (saveJournal slot generation))

def clearedStore (store : Nvs) (slot : SlotName) (generation : UInt64) (payload : ConfigPayload) : Nvs :=
  (committedStore store slot generation payload).setJournal none

lemma saveJournal_valid (slot : SlotName) (generation : UInt64) : ValidJournal (saveJournal slot generation) :=
  commitJournal_valid _ _ _

lemma journalCommitted_valid {journal : RecoveryJournal} (h : ValidJournal journal) :
    ValidJournal (journalCommitted journal) := ⟨by simp [journalCommitted], h.2⟩

lemma candidateStore_old (h : Settled store slot generation old) (payload : ConfigPayload) :
    SlotHolds (candidateStore store slot generation payload) slot generation old :=
  h.slotHolds.withCandidate _ _

lemma candidateStore_new (store : Nvs) (slot : SlotName) (generation : UInt64)
    (hvalid : validatePayload payload = .ok ()) :
    SlotHolds (candidateStore store slot generation payload) slot.other (generation + 1) payload :=
  slotHolds_setSlot store slot.other (generation + 1) hvalid

lemma candidateStore_settled (h : Settled store slot generation old) (payload : ConfigPayload) :
    Settled (candidateStore store slot generation payload) slot generation old where
  noJournal := by simpa [NoJournal, candidateStore, withCandidate] using h.noJournal
  pointsTo := h.pointsTo.congr (by simp [candidateStore, withCandidate])
  slotHolds := candidateStore_old h payload

lemma openedStore_journal (h : Settled store slot generation old) (payload : ConfigPayload) :
    JournalIs (openedStore store slot generation payload) (saveJournal slot generation) :=
  journalIs_withJournal (saveJournal_valid slot generation) (candidateStore_settled h payload).noJournal.2

lemma openedStore_old (h : Settled store slot generation old) (payload : ConfigPayload) :
    SlotHolds (openedStore store slot generation payload) slot generation old :=
  (candidateStore_old h payload).setJournal _

lemma promotedStore_journal (h : Settled store slot generation old) (payload : ConfigPayload) :
    JournalIs (promotedStore store slot generation payload) (saveJournal slot generation) :=
  (openedStore_journal h payload).setPointer _

lemma promotedStore_old (h : Settled store slot generation old) (payload : ConfigPayload) :
    SlotHolds (promotedStore store slot generation payload) slot generation old :=
  (openedStore_old h payload).setPointer _

lemma committedStore_journal (h : Settled store slot generation old) (payload : ConfigPayload) :
    JournalIs (committedStore store slot generation payload) (journalCommitted (saveJournal slot generation)) :=
  journalIs_withJournal (journalCommitted_valid (saveJournal_valid slot generation))
    (promotedStore_journal h payload).noLegacy

lemma committedStore_old (h : Settled store slot generation old) (payload : ConfigPayload) :
    SlotHolds (committedStore store slot generation payload) slot generation old :=
  (promotedStore_old h payload).setJournal _

lemma committedStore_new (store : Nvs) (slot : SlotName) (generation : UInt64)
    (hvalid : validatePayload payload = .ok ()) :
    SlotHolds (committedStore store slot generation payload) slot.other (generation + 1) payload :=
  (((candidateStore_new store slot generation hvalid).setJournal _).setPointer _).setJournal _

lemma clearedStore_old (h : Settled store slot generation old) (payload : ConfigPayload) :
    SlotHolds (clearedStore store slot generation payload) slot generation old :=
  (committedStore_old h payload).setJournal _

lemma clearedStore_settled (h : Settled store slot generation old) (hvalid : validatePayload payload = .ok ()) :
    Settled (clearedStore store slot generation payload) slot.other (generation + 1) payload where
  noJournal := ⟨rfl, (committedStore_journal h payload).noLegacy⟩
  pointsTo := (pointsTo_setPointer (openedStore store slot generation payload) _ _).congr rfl
  slotHolds := (committedStore_new store slot generation hvalid).setJournal _

/-- Until the journal is committed the previous configuration comes back. -/
theorem openedStore_recovers (h : Settled store slot generation old) (payload : ConfigPayload) :
    Recovers (openedStore store slot generation payload) slot generation old :=
  recovers_of_journal (openedStore_journal h payload) (by simp [saveJournal, commitJournal]) rfl
    (openedStore_old h payload)

theorem promotedStore_recovers (h : Settled store slot generation old) (payload : ConfigPayload) :
    Recovers (promotedStore store slot generation payload) slot generation old :=
  recovers_of_journal (promotedStore_journal h payload) (by simp [saveJournal, commitJournal]) rfl
    (promotedStore_old h payload)

/-- From then on the candidate does. -/
theorem committedStore_recovers (h : Settled store slot generation old)
    (hvalid : validatePayload payload = .ok ()) :
    Recovers (committedStore store slot generation payload) slot.other (generation + 1) payload :=
  recovers_of_journal (committedStore_journal h payload) (by simp [journalCommitted]) rfl
    (committedStore_new store slot generation hvalid)

lemma saveSteps_eq (store : Nvs) (slot : SlotName) (generation : UInt64) (payload : ConfigPayload) :
    saveSteps store slot generation payload =
      let candidate := candidateStore store slot generation payload
      let opened := openedStore store slot generation payload
      let promoted := promotedStore store slot generation payload
      let committed := committedStore store slot generation payload
      let cleared := clearedStore store slot generation payload
      [store, candidate, candidate, candidate, candidate, candidate, opened, opened, opened, opened,
        promoted, promoted, promoted, committed, committed, committed, cleared, cleared] := rfl

/-- Wherever the power goes, a load finds the previous configuration or the new one. -/
theorem saveSteps_recovers (h : Settled store slot generation old) (hvalid : validatePayload payload = .ok ()) :
    ∀ found ∈ store :: saveSteps store slot generation payload,
      Recovers found slot generation old ∨ Recovers found slot.other (generation + 1) payload := by
  have hstart : Recovers store slot generation old := recovers_of_settled h
  have hcandidate : Recovers (candidateStore store slot generation payload) slot generation old :=
    recovers_of_settled (candidateStore_settled h payload)
  have hopened := openedStore_recovers h payload
  have hpromoted := promotedStore_recovers h payload
  have hcommitted := committedStore_recovers h hvalid
  have hcleared : Recovers (clearedStore store slot generation payload) slot.other (generation + 1) payload :=
    recovers_of_settled (clearedStore_settled h hvalid)
  rw [saveSteps_eq]
  simp only [List.forall_mem_cons, List.not_mem_nil, false_imp_iff, implies_true, and_true]
  exact ⟨.inl hstart, .inl hstart, .inl hcandidate, .inl hcandidate, .inl hcandidate, .inl hcandidate,
    .inl hcandidate, .inl hopened, .inl hopened, .inl hopened, .inl hopened, .inl hpromoted, .inl hpromoted,
    .inl hpromoted, .inr hcommitted, .inr hcommitted, .inr hcommitted, .inr hcleared, .inr hcleared⟩

/-- A save without faults makes its payload the active configuration. -/
theorem save_clean (h : Settled store slot generation old) (hgeneration : generation ≠ maxGeneration)
    (hvalid : validatePayload payload = .ok ()) :
    clean (save payload) store = (some (.ok ()), clearedStore store slot generation payload) :=
  clean_of_traces (save_unfolds h hgeneration hvalid).toTraces

end Stores

/-! ### Atomicity -/

/-- The store a save leaves behind when the power goes at operation `cut`. -/
def saveCutAt (payload : ConfigPayload) (cut : Nat) (store : Nvs) : Nvs :=
  (save payload (cutAt cut) ⟨store, 0⟩).2.store

lemma saveCutAt_recovers {store : Nvs} {slot : SlotName} {generation : UInt64} {old payload : ConfigPayload}
    (h : Settled store slot generation old) (hvalid : validatePayload payload = .ok ()) (cut : Nat) :
    Recovers (saveCutAt payload cut store) slot generation old ∨
      Recovers (saveCutAt payload cut store) slot.other (generation + 1) payload := by
  by_cases hgeneration : generation = maxGeneration
  · subst hgeneration
    have hcut := cutAt_of_traces (save_unfolds_exhausted h hvalid).toTraces cut
    have hmem := storeAfter_mem store [store] (min cut 1)
    have hsame : saveCutAt payload cut store = store := by
      rw [saveCutAt, hcut]
      simpa using hmem
    rw [hsame]
    exact .inl (recovers_of_settled h)
  · rw [saveCutAt, cutAt_of_traces (save_unfolds h hgeneration hvalid).toTraces cut]
    exact saveSteps_recovers h hvalid _ (storeAfter_mem _ _ _)

/-- A save cut off at any point is followed by a load of the old or the new configuration, which is
then active with no transaction open, and can be replaced while generations last. -/
theorem save_atomic_under_power_loss {store : Nvs} {slot : SlotName} {generation : UInt64}
    {old payload : ConfigPayload} (h : Settled store slot generation old)
    (hvalid : validatePayload payload = .ok ()) (cut : Nat) :
    ∃ loaded store' slot' generation',
      clean load (saveCutAt payload cut store) = (some (.ok ⟨loaded, ""⟩), store') ∧
      (loaded = old ∨ loaded = payload) ∧ Settled store' slot' generation' loaded ∧
      ∀ next, validatePayload next = .ok () → generation' ≠ maxGeneration →
        ∃ saved, clean (save next) store' = (some (.ok ()), saved) ∧
          (clean load saved).1 = some (.ok ⟨next, ""⟩) := by
  have hresave : ∀ {store' slot' generation' loaded}, Settled store' slot' generation' loaded →
      ∀ next, validatePayload next = .ok () → generation' ≠ maxGeneration →
        ∃ saved, clean (save next) store' = (some (.ok ()), saved) ∧
          (clean load saved).1 = some (.ok ⟨next, ""⟩) := by
    intro store' slot' generation' loaded hsettled next hnext hmax
    exact ⟨_, save_clean hsettled hmax hnext, (recovers_of_settled (clearedStore_settled hsettled hnext)).load_eq⟩
  rcases saveCutAt_recovers h hvalid cut with hrecovers | hrecovers
  · obtain ⟨store', hload, hsettled⟩ := hrecovers.clean
    exact ⟨old, store', slot, generation, hload, .inl rfl, hsettled, hresave hsettled⟩
  · obtain ⟨store', hload, hsettled⟩ := hrecovers.clean
    exact ⟨payload, store', slot.other, generation + 1, hload, .inr rfl, hsettled, hresave hsettled⟩

/-- A store whose slot A holds `payload` at `generation`. -/
def storeWith (payload : ConfigPayload) (generation : UInt64) : Nvs :=
  { slotA := some (slotEnvelope generation (payloadBytes payload))
    pointer := some (encodePointer .A generation) }

lemma storeWith_settled {payload : ConfigPayload} (hvalid : validatePayload payload = .ok ())
    (generation : UInt64) : Settled (storeWith payload generation) .A generation payload where
  noJournal := ⟨rfl, rfl⟩
  pointsTo := pointsTo_setPointer (storeWith payload generation) .A generation
  slotHolds := slotHolds_setSlot (storeWith payload generation) .A generation hvalid

/-- A configuration that differs from the default in its refresh hour. -/
def nineOClock : ConfigPayload := { refreshHour := 9 }

lemma nineOClock_valid : validatePayload nineOClock = .ok () := by decide

theorem save_atomic_at_first_write :
    Settled (storeWith {} 7) .A 7 {} ∧ validatePayload nineOClock = .ok () ∧
      ∃ loaded store' slot' generation',
        clean load (saveCutAt nineOClock 1 (storeWith {} 7)) = (some (.ok ⟨loaded, ""⟩), store') ∧
        (loaded = {} ∨ loaded = nineOClock) ∧ Settled store' slot' generation' loaded ∧
        ∀ next, validatePayload next = .ok () → generation' ≠ maxGeneration →
          ∃ saved, clean (save next) store' = (some (.ok ()), saved) ∧
            (clean load saved).1 = some (.ok ⟨next, ""⟩) :=
  ⟨storeWith_settled default_valid 7, nineOClock_valid,
    save_atomic_under_power_loss (storeWith_settled default_valid 7) nineOClock_valid 1⟩

/-- At the last generation the configuration can be loaded, but no longer replaced. -/
theorem save_refused_at_last_generation :
    Settled (storeWith {} maxGeneration) .A maxGeneration {} ∧ validatePayload {} = .ok () ∧
      validatePayload nineOClock = .ok () ∧
      ∃ store', clean load (saveCutAt {} 0 (storeWith {} maxGeneration)) = (some (.ok ⟨{}, ""⟩), store') ∧
        (clean load (clean (save nineOClock) store').2).1 = some (.ok ⟨{}, ""⟩) ∧
        (clean load (clean (save nineOClock) store').2).1 ≠ some (.ok ⟨nineOClock, ""⟩) := by
  have hsettled := storeWith_settled default_valid maxGeneration
  refine ⟨hsettled, default_valid, nineOClock_valid, ?_⟩
  have hcut : saveCutAt {} 0 (storeWith {} maxGeneration) = storeWith {} maxGeneration := by
    rw [saveCutAt, cutAt_of_traces (save_unfolds_exhausted hsettled default_valid).toTraces 0]
    rfl
  obtain ⟨store', hload, hsettled'⟩ := (recovers_of_settled hsettled).clean
  have hsave : (clean (save nineOClock) store').2 = store' := by
    rw [clean_of_traces (save_unfolds_exhausted hsettled' nineOClock_valid).toTraces]
    rfl
  have hreload := (recovers_of_settled hsettled').load_eq
  refine ⟨store', by rw [hcut, hload], by rw [hsave, hreload], ?_⟩
  rw [hsave, hreload]
  intro hsame
  have hpayload : ({} : ConfigPayload) = nineOClock := by simpa using hsame
  exact absurd hpayload (by decide)

end InkTime.Firmware
