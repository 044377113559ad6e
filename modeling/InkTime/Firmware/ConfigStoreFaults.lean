import InkTime.Firmware.ConfigStorePowerLoss

/-!
# Storage faults during a save

A save that meets a failing operation undoes its commit, and the operations of the undo can fail as
well. The undo keeps the previous configuration recoverable once its journal entry is written; a
committed journal that it cannot overwrite, or a pointer that it cannot move back after the journal
is gone, lets the refused candidate through.
-/

namespace InkTime.Firmware
open WireFormat FaultProgram FaultProgram.Program

section Undo

variable {slot : SlotName} {generation : UInt64} {old : ConfigPayload}

/-! ### The previous configuration stays recoverable -/

/-- The next load falls back to `slot`, by the journal or by the pointer. -/
structure FallsBack (slot : SlotName) (generation : UInt64) (old : ConfigPayload) (store : Nvs) : Prop where
  slotHolds : SlotHolds store slot generation old
  noLegacy : store.legacyJournal = none
  target : (∃ journal, JournalIs store journal ∧ journal.phase ≠ .schedulePromoted ∧
      recoveryTarget journal = some (slot, generation)) ∨
    store.journal = none ∧ PointsTo store slot generation

lemma FallsBack.recovers {store : Nvs} (h : FallsBack slot generation old store) :
    Recovers store slot generation old := by
  rcases h.target with ⟨journal, hjournal, hphase, htarget⟩ | ⟨hnone, hpointer⟩
  · exact recovers_of_journal hjournal hphase htarget h.slotHolds
  · exact recovers_of_settled ⟨⟨hnone, h.noLegacy⟩, hpointer, h.slotHolds⟩

/-- A journal marked aborted falls back, whatever the pointer says. -/
lemma fallsBack_of_aborted {store : Nvs} {journal : RecoveryJournal} (hvalid : ValidJournal journal)
    (hphase : journal.phase = .aborted)
    (htarget : journal.previousActiveSlot = some slot ∧ journal.previousGeneration = generation)
    (hslot : SlotHolds store slot generation old) (hlegacy : store.legacyJournal = none) :
    FallsBack slot generation old (withJournal store journal) where
  slotHolds := hslot.setJournal _
  noLegacy := hlegacy
  target := by
    refine .inl ⟨journal, journalIs_withJournal hvalid hlegacy, by simp [hphase], ?_⟩
    simp [recoveryTarget, hphase, htarget]

lemma FallsBack.setPointer {store : Nvs} (h : FallsBack slot generation old store) :
    FallsBack slot generation old (store.setPointer (some (encodePointer slot generation))) where
  slotHolds := h.slotHolds.setPointer _
  noLegacy := h.noLegacy
  target := by
    rcases h.target with ⟨journal, hjournal, hphase, htarget⟩ | ⟨hnone, -⟩
    · exact .inl ⟨journal, hjournal.setPointer _, hphase, htarget⟩
    · exact .inr ⟨hnone, pointsTo_setPointer store slot generation⟩

lemma FallsBack.dropJournal {store : Nvs} (h : FallsBack slot generation old store)
    (hpointer : PointsTo store slot generation) : FallsBack slot generation old (store.setJournal none) where
  slotHolds := h.slotHolds.setJournal _
  noLegacy := h.noLegacy
  target := .inr ⟨rfl, hpointer.congr rfl⟩

lemma beginStore_ensures (keep : Nvs → Prop) : Ensures keep beginStore fun _ => keep :=
  Ensures.attempt_keeps fun _ h => h

lemma removeIfPresent_ensures {keep : Nvs → Prop} {isKey : Nvs → Bool} {erase : Nvs → Nvs}
    (h : ∀ store, keep store → keep (erase store)) : Ensures keep (removeIfPresent isKey erase) fun _ => keep := by
  refine (Ensures.observe_keeps keep isKey).bind_bool ?_ ?_
  · exact Ensures.attempt_keeps h
  · exact Ensures.pure fun _ hkeep => hkeep

lemma clearJournal_ensures {keep : Nvs → Prop} (hjournal : ∀ store, keep store → keep (store.setJournal none))
    (hlegacy : ∀ store, keep store → keep store.eraseLegacyJournal) :
    Ensures keep clearJournal fun _ => keep := by
  refine (beginStore_ensures keep).bind_bool ?_ (Ensures.pure fun _ h => h)
  refine (removeIfPresent_ensures hjournal).bind_bool ?_ (Ensures.pure fun _ h => h)
  refine (removeIfPresent_ensures hlegacy).bind_bool ?_ (Ensures.pure fun _ h => h)
  refine (beginStore_ensures keep).bind_bool ?_ (Ensures.pure fun _ h => h)
  exact (Ensures.observe_keeps keep _).bind_bool (Ensures.pure fun _ h => h) (Ensures.pure fun _ h => h)

lemma pointsTo_of_pointerRestored {store : Nvs} (h : pointerRestored (some (slot, generation)) store = true) :
    PointsTo store slot generation := by
  rcases hread : readPointer store with text | _ | restored
  · simp [pointerRestored, hread] at h
  · simp [pointerRestored, hread] at h
  · simp only [pointerRestored, hread, Bool.and_eq_true, beq_iff_eq] at h
    rw [PointsTo, hread, h.1]

/-- Restoring the pointer keeps what does not depend on it, and when it reports success the pointer
is back. -/
lemma restorePreviousPointer_ensures {keep : Nvs → Prop}
    (hset : ∀ store, keep store → keep (store.setPointer (some (encodePointer slot generation)))) :
    Ensures keep (restorePreviousPointer (some (slot, generation))) fun restored store =>
      keep store ∧ (restored = true → PointsTo store slot generation) := by
  have hfalse : Ensures keep (pure false : Program Nvs Bool) fun restored store =>
      keep store ∧ (restored = true → PointsTo store slot generation) :=
    Ensures.pure fun _ h => ⟨h, by simp⟩
  refine (beginStore_ensures keep).bind_bool ?_ hfalse
  refine (Ensures.attempt_keeps hset).bind_bool ?_ hfalse
  refine (beginStore_ensures keep).bind_bool ?_ hfalse
  exact Ensures.observe fun store h => ⟨h, pointsTo_of_pointerRestored⟩

/-- The undo never loses a previous configuration that is already the fallback. -/
lemma restoreAndClear_fallsBack (journalAborted : Bool) (preparedSlot : SlotName) (primaryError : String) :
    Ensures (FallsBack slot generation old)
      (restoreAndClear journalAborted preparedSlot (some (slot, generation)) primaryError)
      fun result store => (∃ text, result = .error text) ∧ FallsBack slot generation old store := by
  have hclear : Ensures (fun store => FallsBack slot generation old store ∧ PointsTo store slot generation)
      clearJournal fun _ store => FallsBack slot generation old store ∧ PointsTo store slot generation := by
    apply clearJournal_ensures
    · exact fun store h => ⟨h.1.dropJournal h.2, h.2.congr rfl⟩
    · exact fun store h => ⟨⟨h.1.slotHolds.congr rfl, rfl, h.1.target.imp
        (fun ⟨journal, hjournal, hrest⟩ => ⟨journal, ⟨hjournal.valid, hjournal.stored, rfl⟩, hrest⟩)
        fun hnone => ⟨hnone.1, hnone.2.congr rfl⟩⟩, h.2.congr rfl⟩
  refine (restorePreviousPointer_ensures fun _ h => h.setPointer).bind_bool ?_ ?_
  · cases journalAborted with
    | false => exact Ensures.pure fun _ h => ⟨⟨_, rfl⟩, h.1⟩
    | true =>
      -- with a previous configuration there is no orphan candidate to clear
      show Ensures _ (do
        if !(← clearJournal).isOk then pure (Except.error "PAIRING-NVS-006")
        else pure (Except.error primaryError)) _
      refine Ensures.of_pre (fun _ h => ⟨h.1, h.2 rfl⟩) (hclear.bind fun cleared => ?_)
      cases cleared.isOk with
      | true => exact Ensures.pure fun _ h => ⟨⟨_, rfl⟩, h.1⟩
      | false => exact Ensures.pure fun _ h => ⟨⟨_, rfl⟩, h.1⟩
  · exact Ensures.pure fun _ h => ⟨⟨_, rfl⟩, h.1⟩

/-- An undo that could not mark the journal only touches the pointer. -/
lemma restoreAndClear_unmarked {keep : Nvs → Prop} (preparedSlot : SlotName) (primaryError : String)
    (hset : ∀ store, keep store → keep (store.setPointer (some (encodePointer slot generation)))) :
    Ensures keep (restoreAndClear false preparedSlot (some (slot, generation)) primaryError)
      fun result store => (∃ text, result = .error text) ∧ keep store := by
  refine (restorePreviousPointer_ensures hset).bind_bool ?_ ?_
  · exact Ensures.pure fun _ h => ⟨⟨_, rfl⟩, h.1⟩
  · exact Ensures.pure fun _ h => ⟨⟨_, rfl⟩, h.1⟩

/-! ### The three ways to mark the journal aborted -/

variable {store : Nvs} {journal : RecoveryJournal} {plan : Plan} {ticks : Nat}

lemma writeJournal_begin_fails (hvalid : ValidJournal journal) (hlegacy : store.legacyJournal = none)
    (hop : plan ticks = .fails) :
    writeJournal journal plan ⟨store, ticks⟩ = (some (.error "PAIRING-NVS-002"), ⟨store, ticks + 1⟩) :=
  (writeJournal_unfolds hvalid hlegacy).failed plan ticks 0 _ rfl (worksFor_zero plan ticks) hop

lemma writeJournal_put_fails (hvalid : ValidJournal journal) (hlegacy : store.legacyJournal = none)
    (hbegin : plan ticks = .works) (hop : plan (ticks + 1) = .fails) :
    writeJournal journal plan ⟨store, ticks⟩ = (some (.error "PAIRING-NVS-005"), ⟨store, ticks + 2⟩) :=
  (writeJournal_unfolds hvalid hlegacy).failed plan ticks 1 _ rfl ((worksFor_zero plan ticks).succ hbegin) hop

lemma writeJournal_written (hvalid : ValidJournal journal) (hlegacy : store.legacyJournal = none)
    (hplan : NoPowerLoss plan) (hbegin : plan ticks = .works) (hput : plan (ticks + 1) = .works) :
    ∃ result, writeJournal journal plan ⟨store, ticks⟩ =
      (some result, ⟨withJournal store journal, ticks + 3⟩) := by
  have hunfolds := writeJournal_unfolds hvalid hlegacy
  have htwo : WorksFor plan ticks 2 := ((worksFor_zero plan ticks).succ hbegin).succ hput
  by_cases hlast : plan (ticks + 2) = .works
  · exact ⟨_, hunfolds.completes plan ticks (htwo.succ hlast)⟩
  · exact ⟨_, hunfolds.failed plan ticks 2 _ rfl htwo (hplan.fails hlast)⟩

/-! ### The undo as a whole -/

/-- Opening the namespace at `tick` and the write after it both take effect. -/
def BothWork (plan : Plan) (tick : Nat) : Prop := plan tick = .works ∧ plan (tick + 1) = .works

def journalAborted (journal : RecoveryJournal) : RecoveryJournal := { journal with phase := .aborted }

lemma journalAborted_valid (hvalid : ValidJournal journal) : ValidJournal (journalAborted journal) :=
  ⟨by simp [journalAborted], hvalid.2⟩

/-- The journal names `slot` as the configuration to return to. -/
def ReturnsTo (journal : RecoveryJournal) (slot : SlotName) (generation : UInt64) : Prop :=
  journal.previousActiveSlot = some slot ∧ journal.previousGeneration = generation

lemma abortCommit_run (previous : Option (SlotName × UInt64)) (primaryError : String)
    {result : Except String Unit} {world : World Nvs}
    (h : writeJournal (journalAborted journal) plan ⟨store, ticks⟩ = (some result, world)) :
    abortCommit journal previous primaryError plan ⟨store, ticks⟩ =
      restoreAndClear result.isOk journal.preparedSlot previous primaryError plan world :=
  bind_of_some h

/-- Once the mark is written the undo ends with the previous configuration as the fallback. -/
lemma abortCommit_marked (hvalid : ValidJournal journal) (hreturns : ReturnsTo journal slot generation)
    (hslot : SlotHolds store slot generation old) (hlegacy : store.legacyJournal = none)
    (hplan : NoPowerLoss plan) (hmark : BothWork plan ticks) (primaryError : String) :
    ∃ text world, abortCommit journal (some (slot, generation)) primaryError plan ⟨store, ticks⟩ =
      (some (.error text), world) ∧ FallsBack slot generation old world.store := by
  obtain ⟨result, hwrite⟩ :=
    writeJournal_written (journalAborted_valid hvalid) hlegacy hplan hmark.1 hmark.2
  have hfalls : FallsBack slot generation old (withJournal store (journalAborted journal)) :=
    fallsBack_of_aborted (journalAborted_valid hvalid) rfl hreturns hslot hlegacy
  obtain ⟨_, world, hrun, ⟨text, rfl⟩, hpost⟩ :=
    restoreAndClear_fallsBack result.isOk journal.preparedSlot primaryError plan
      ⟨withJournal store (journalAborted journal), ticks + 3⟩ hplan hfalls
  exact ⟨text, world, by rw [abortCommit_run _ _ hwrite, hrun], hpost⟩

/-- Where the mark fails the undo is left with the pointer alone. -/
lemma abortCommit_unmarked (hvalid : ValidJournal journal) (hlegacy : store.legacyJournal = none)
    (hplan : NoPowerLoss plan) (hmark : ¬BothWork plan ticks)
    (previous : Option (SlotName × UInt64)) (primaryError : String) :
    abortCommit journal previous primaryError plan ⟨store, ticks⟩ =
      restoreAndClear false journal.preparedSlot previous primaryError plan
        ⟨store, if plan ticks = .works then ticks + 2 else ticks + 1⟩ := by
  by_cases hbegin : plan ticks = .works
  · have hput : plan (ticks + 1) = .fails := hplan.fails fun h => hmark ⟨hbegin, h⟩
    rw [if_pos hbegin]
    exact abortCommit_run _ _ (writeJournal_put_fails (journalAborted_valid hvalid) hlegacy hbegin hput)
  · rw [if_neg hbegin]
    exact abortCommit_run _ _ (writeJournal_begin_fails (journalAborted_valid hvalid) hlegacy (hplan.fails hbegin))

lemma abortCommit_unmarked_keeps {keep : Nvs → Prop} (hvalid : ValidJournal journal)
    (hlegacy : store.legacyJournal = none) (hplan : NoPowerLoss plan) (hmark : ¬BothWork plan ticks)
    (hset : ∀ store, keep store → keep (store.setPointer (some (encodePointer slot generation))))
    (hkeep : keep store) (primaryError : String) :
    ∃ text world, abortCommit journal (some (slot, generation)) primaryError plan ⟨store, ticks⟩ =
      (some (.error text), world) ∧ keep world.store := by
  obtain ⟨_, world, hrun, ⟨text, rfl⟩, hpost⟩ := restoreAndClear_unmarked journal.preparedSlot primaryError
    hset plan ⟨store, if plan ticks = .works then ticks + 2 else ticks + 1⟩ hplan hkeep
  exact ⟨text, world, by rw [abortCommit_unmarked hvalid hlegacy hplan hmark, hrun], hpost⟩

/-- A store that falls back already keeps falling back through any undo. -/
lemma abortCommit_fallsBack (hvalid : ValidJournal journal) (hreturns : ReturnsTo journal slot generation)
    (hplan : NoPowerLoss plan) (h : FallsBack slot generation old store) (primaryError : String) :
    ∃ text world, abortCommit journal (some (slot, generation)) primaryError plan ⟨store, ticks⟩ =
      (some (.error text), world) ∧ FallsBack slot generation old world.store := by
  by_cases hmark : BothWork plan ticks
  · exact abortCommit_marked hvalid hreturns h.slotHolds h.noLegacy hplan hmark primaryError
  · exact abortCommit_unmarked_keeps hvalid h.noLegacy hplan hmark (fun _ hfalls => hfalls.setPointer) h
      primaryError

lemma restorePreviousPointer_unfolds (store : Nvs) (slot : SlotName) (generation : UInt64) :
    let restored := store.setPointer (some (encodePointer slot generation))
    Unfolds (restorePreviousPointer (some (slot, generation))) store
      (pointerRestored (some (slot, generation)) restored) [store, restored, restored]
      [pure false, pure false, pure false] := by
  intro restored
  have hput : Unfolds (rewritePointer (some (slot, generation))) store true [restored] [pure false] :=
    Unfolds.attempt (fun store : Nvs => store.setPointer (some (encodePointer slot generation))) store
  refine beginStore_bind (hput.bind (beginStore_bind ?_))
  exact Unfolds.observe _ _

lemma restoreAndClear_false_run {restored : Bool} {world : World Nvs} (preparedSlot : SlotName)
    (primaryError : String)
    (h : restorePreviousPointer (some (slot, generation)) plan ⟨store, ticks⟩ = (some restored, world)) :
    ∃ text, restoreAndClear false preparedSlot (some (slot, generation)) primaryError plan ⟨store, ticks⟩ =
      (some (.error text), world) := by
  cases restored with
  | true => exact ⟨"PAIRING-NVS-006", bind_of_some h⟩
  | false => exact ⟨"PAIRING-NVS-007", bind_of_some h⟩

/-- An unmarked undo moves the pointer back when its two operations work, and is idle otherwise. -/
lemma restoreAndClear_false_outcome (hplan : NoPowerLoss plan) (preparedSlot : SlotName)
    (primaryError : String) :
    ∃ text world, restoreAndClear false preparedSlot (some (slot, generation)) primaryError plan
        ⟨store, ticks⟩ = (some (.error text), world) ∧
      (BothWork plan ticks → world.store = store.setPointer (some (encodePointer slot generation))) ∧
      (¬BothWork plan ticks → world.store = store) := by
  have hunfolds := restorePreviousPointer_unfolds store slot generation
  by_cases hboth : BothWork plan ticks
  · have htwo : WorksFor plan ticks 2 := ((worksFor_zero plan ticks).succ hboth.1).succ hboth.2
    by_cases hlast : plan (ticks + 2) = .works
    · have hrun := hunfolds.completes plan ticks (htwo.succ hlast)
      obtain ⟨text, hrun'⟩ := restoreAndClear_false_run preparedSlot primaryError hrun
      exact ⟨text, _, hrun', fun _ => rfl, fun h => absurd hboth h⟩
    · have hrun := hunfolds.failed plan ticks 2 _ rfl htwo (hplan.fails hlast)
      obtain ⟨text, hrun'⟩ := restoreAndClear_false_run preparedSlot primaryError hrun
      exact ⟨text, _, hrun', fun _ => rfl, fun h => absurd hboth h⟩
  · by_cases hbegin : plan ticks = .works
    · have hput : plan (ticks + 1) = .fails := hplan.fails fun h => hboth ⟨hbegin, h⟩
      have hone : WorksFor plan ticks 1 := (worksFor_zero plan ticks).succ hbegin
      obtain ⟨text, hrun'⟩ := restoreAndClear_false_run preparedSlot primaryError
        (hunfolds.failed plan ticks 1 _ rfl hone hput)
      exact ⟨text, _, hrun', fun h => absurd h hboth, fun _ => rfl⟩
    · obtain ⟨text, hrun'⟩ := restoreAndClear_false_run preparedSlot primaryError
        (hunfolds.failed plan ticks 0 _ rfl (worksFor_zero plan ticks) (hplan.fails hbegin))
      exact ⟨text, _, hrun', fun h => absurd h hboth, fun _ => rfl⟩

end Undo

/-! ### A save under faults -/

/-- The undo that follows the failure of operation `failed` leaves the candidate in force: a committed
journal could not be overwritten, or the journal was gone and the pointer could not be moved back. -/
def CandidateSurvives (plan : Plan) (failed : Nat) : Prop :=
  (14 ≤ failed ∧ failed ≤ 16 ∧ ¬BothWork plan (failed + 1)) ∨
    (failed = 17 ∧ ¬BothWork plan 18 ∧ ¬BothWork plan (if plan 18 = .works then 20 else 19))

section Save

variable {store : Nvs} {slot : SlotName} {generation : UInt64} {old payload : ConfigPayload} {plan : Plan}

/-- How a save that is reported as failed ends. -/
structure RefusedSave (store : Nvs) (payload : ConfigPayload) (plan : Plan) (slot : SlotName)
    (generation : UInt64) (found : ConfigPayload) : Prop where
  refused : ∃ text world, save payload plan ⟨store, 0⟩ = (some (.error text), world) ∧
    Recovers world.store slot generation found

lemma refusedSave_of_failed {found : ConfigPayload} {slot' : SlotName} {generation' : UInt64} {failed : Nat}
    {handler : Program Nvs (Except String Unit)} (h : Settled store slot generation old)
    (hgeneration : generation ≠ maxGeneration) (hvalid : validatePayload payload = .ok ())
    (hhandler : (saveHandlers slot generation)[failed]? = some handler) (hworks : WorksFor plan 0 failed)
    (hfails : plan failed = .fails)
    (hrun : ∃ text world, handler plan
        ⟨storeAfter store (saveSteps store slot generation payload) failed, failed + 1⟩ =
      (some (.error text), world) ∧ Recovers world.store slot' generation' found) :
    RefusedSave store payload plan slot' generation' found := by
  have hsave := (save_unfolds h hgeneration hvalid).failed plan 0 failed handler hhandler hworks
    (by rwa [Nat.zero_add])
  rw [Nat.zero_add] at hsave
  exact ⟨by rwa [hsave]⟩

lemma refusedSave_of_refusal {failed : Nat} {text : String} {found : Nvs}
    (h : Settled store slot generation old) (hgeneration : generation ≠ maxGeneration)
    (hvalid : validatePayload payload = .ok ()) (hworks : WorksFor plan 0 failed)
    (hfails : plan failed = .fails) (hrecovers : Recovers found slot generation old)
    (hfound : storeAfter store (saveSteps store slot generation payload) failed = found)
    (hhandler : (saveHandlers slot generation)[failed]? = some (pure (.error text))) :
    RefusedSave store payload plan slot generation old :=
  refusedSave_of_failed h hgeneration hvalid hhandler hworks hfails ⟨text, _, rfl, by rwa [hfound]⟩

/-- A failure up to the opening of the candidate is a plain refusal. -/
lemma save_refused_early (h : Settled store slot generation old) (hgeneration : generation ≠ maxGeneration)
    (hvalid : validatePayload payload = .ok ()) {failed : Nat} (hlt : failed < 9)
    (hworks : WorksFor plan 0 failed) (hfails : plan failed = .fails) :
    RefusedSave store payload plan slot generation old := by
  have hstart : Recovers store slot generation old := recovers_of_settled h
  have hcandidate : Recovers (candidateStore store slot generation payload) slot generation old :=
    recovers_of_settled (candidateStore_settled h payload)
  have hopened := openedStore_recovers h payload
  interval_cases failed
  · exact refusedSave_of_refusal h hgeneration hvalid hworks hfails hstart rfl rfl
  · exact refusedSave_of_refusal h hgeneration hvalid hworks hfails hstart rfl rfl
  · exact refusedSave_of_refusal h hgeneration hvalid hworks hfails hcandidate rfl rfl
  · exact refusedSave_of_refusal h hgeneration hvalid hworks hfails hcandidate rfl rfl
  · exact refusedSave_of_refusal h hgeneration hvalid hworks hfails hcandidate rfl rfl
  · exact refusedSave_of_refusal h hgeneration hvalid hworks hfails hcandidate rfl rfl
  · exact refusedSave_of_refusal h hgeneration hvalid hworks hfails hcandidate rfl rfl
  · exact refusedSave_of_refusal h hgeneration hvalid hworks hfails hopened rfl rfl
  · exact refusedSave_of_refusal h hgeneration hvalid hworks hfails hopened rfl rfl

lemma refusedSave_of_undo {failed : Nat} {text : String} {found : Nvs} {journal : RecoveryJournal}
    {slot' : SlotName} {generation' : UInt64} {active : ConfigPayload}
    (h : Settled store slot generation old) (hgeneration : generation ≠ maxGeneration)
    (hvalid : validatePayload payload = .ok ()) (hworks : WorksFor plan 0 failed)
    (hfails : plan failed = .fails)
    (hundo : ∃ text' world, abortCommit journal (some (slot, generation)) text plan ⟨found, failed + 1⟩ =
      (some (.error text'), world) ∧ Recovers world.store slot' generation' active)
    (hfound : storeAfter store (saveSteps store slot generation payload) failed = found)
    (hhandler : (saveHandlers slot generation)[failed]? =
      some (abortCommit journal (some (slot, generation)) text)) :
    RefusedSave store payload plan slot' generation' active :=
  refusedSave_of_failed h hgeneration hvalid hhandler hworks hfails (by rwa [hfound])

lemma saveJournal_returnsTo (slot : SlotName) (generation : UInt64) :
    ReturnsTo (saveJournal slot generation) slot generation := ⟨rfl, rfl⟩

lemma openedStore_fallsBack (h : Settled store slot generation old) (payload : ConfigPayload) :
    FallsBack slot generation old (openedStore store slot generation payload) where
  slotHolds := openedStore_old h payload
  noLegacy := (openedStore_journal h payload).noLegacy
  target := .inl ⟨_, openedStore_journal h payload, by simp [saveJournal, commitJournal], rfl⟩

lemma promotedStore_fallsBack (h : Settled store slot generation old) (payload : ConfigPayload) :
    FallsBack slot generation old (promotedStore store slot generation payload) where
  slotHolds := promotedStore_old h payload
  noLegacy := (promotedStore_journal h payload).noLegacy
  target := .inl ⟨_, promotedStore_journal h payload, by simp [saveJournal, commitJournal], rfl⟩

/-- Up to the write that commits the journal the undo cannot go wrong. -/
lemma save_refused_before_commit (h : Settled store slot generation old)
    (hgeneration : generation ≠ maxGeneration) (hvalid : validatePayload payload = .ok ())
    (hplan : NoPowerLoss plan) {failed : Nat} (hge : 9 ≤ failed) (hlt : failed < 14)
    (hworks : WorksFor plan 0 failed) (hfails : plan failed = .fails) :
    RefusedSave store payload plan slot generation old := by
  have hundo : ∀ journal found text ticks, ValidJournal journal → ReturnsTo journal slot generation →
      FallsBack slot generation old found →
      ∃ text' world, abortCommit journal (some (slot, generation)) text plan ⟨found, ticks⟩ =
        (some (.error text'), world) ∧ Recovers world.store slot generation old := by
    intro journal found text ticks hjournal hreturns hfalls
    obtain ⟨text', world, hrun, hpost⟩ := abortCommit_fallsBack hjournal hreturns hplan hfalls text
    exact ⟨text', world, hrun, hpost.recovers⟩
  have hjournal := saveJournal_valid slot generation
  have hcommitted := journalCommitted_valid hjournal
  have hreturns := saveJournal_returnsTo slot generation
  have hopened := openedStore_fallsBack h payload
  have hpromoted := promotedStore_fallsBack h payload
  interval_cases failed
  · exact refusedSave_of_undo h hgeneration hvalid hworks hfails (hundo _ _ _ _ hjournal hreturns hopened) rfl rfl
  · exact refusedSave_of_undo h hgeneration hvalid hworks hfails (hundo _ _ _ _ hjournal hreturns hopened) rfl rfl
  · exact refusedSave_of_undo h hgeneration hvalid hworks hfails (hundo _ _ _ _ hjournal hreturns hpromoted) rfl rfl
  · exact refusedSave_of_undo h hgeneration hvalid hworks hfails (hundo _ _ _ _ hcommitted hreturns hpromoted) rfl rfl
  · exact refusedSave_of_undo h hgeneration hvalid hworks hfails (hundo _ _ _ _ hcommitted hreturns hpromoted) rfl rfl

/-- A journal found committed decides for the candidate, whatever the pointer says. -/
structure CandidateWins (slot : SlotName) (generation : UInt64) (payload : ConfigPayload) (store : Nvs) :
    Prop where
  journal : ∃ journal, JournalIs store journal ∧ journal.phase = .configCommitted ∧
    journal.preparedSlot = slot ∧ journal.preparedGeneration = generation
  slotHolds : SlotHolds store slot generation payload

lemma CandidateWins.recovers {store : Nvs} (h : CandidateWins slot generation payload store) :
    Recovers store slot generation payload := by
  obtain ⟨journal, hjournal, hphase, hslot, hgeneration⟩ := h.journal
  refine recovers_of_journal hjournal (by simp [hphase]) ?_ h.slotHolds
  rw [recoveryTarget, if_pos hphase, hslot, hgeneration]

lemma CandidateWins.setPointer {store : Nvs} (h : CandidateWins slot generation payload store)
    (value : Option Bytes) : CandidateWins slot generation payload (store.setPointer value) where
  journal := by
    obtain ⟨journal, hjournal, hrest⟩ := h.journal
    exact ⟨journal, hjournal.setPointer value, hrest⟩
  slotHolds := h.slotHolds.setPointer value

/-- What the undo of a committed journal leaves, by whether its mark was written. -/
lemma undo_of_committed (h : Settled store slot generation old) (hvalid : validatePayload payload = .ok ())
    (hplan : NoPowerLoss plan) (ticks : Nat) (text : String) :
    let undo := abortCommit (journalCommitted (saveJournal slot generation)) (some (slot, generation)) text
      plan ⟨committedStore store slot generation payload, ticks⟩
    (BothWork plan ticks → ∃ text' world, undo = (some (.error text'), world) ∧
      Recovers world.store slot generation old) ∧
    (¬BothWork plan ticks → ∃ text' world, undo = (some (.error text'), world) ∧
      Recovers world.store slot.other (generation + 1) payload) := by
  have hjournal := journalCommitted_valid (saveJournal_valid slot generation)
  have hlegacy := (committedStore_journal h payload).noLegacy
  constructor
  · intro hmark
    obtain ⟨text', world, hrun, hpost⟩ := abortCommit_marked hjournal (saveJournal_returnsTo slot generation)
      (committedStore_old h payload) hlegacy hplan hmark text
    exact ⟨text', world, hrun, hpost.recovers⟩
  · intro hmark
    have hwins : CandidateWins slot.other (generation + 1) payload
        (committedStore store slot generation payload) :=
      ⟨⟨_, committedStore_journal h payload, rfl, rfl, rfl⟩, committedStore_new store slot generation hvalid⟩
    obtain ⟨text', world, hrun, hpost⟩ := abortCommit_unmarked_keeps hjournal hlegacy hplan hmark
      (fun _ hkeep => hkeep.setPointer _) hwins text
    exact ⟨text', world, hrun, hpost.recovers⟩

/-- What the undo leaves once the journal is gone: only a mark or the pointer can bring `old` back. -/
lemma undo_of_cleared (h : Settled store slot generation old) (hvalid : validatePayload payload = .ok ())
    (hplan : NoPowerLoss plan) (ticks : Nat) (text : String) :
    let undo := abortCommit (journalCommitted (saveJournal slot generation)) (some (slot, generation)) text
      plan ⟨clearedStore store slot generation payload, ticks⟩
    let restoreAt := if plan ticks = .works then ticks + 2 else ticks + 1
    (BothWork plan ticks ∨ BothWork plan restoreAt → ∃ text' world, undo = (some (.error text'), world) ∧
      Recovers world.store slot generation old) ∧
    (¬BothWork plan ticks → ¬BothWork plan restoreAt → ∃ text' world, undo = (some (.error text'), world) ∧
      Recovers world.store slot.other (generation + 1) payload) := by
  intro undo restoreAt
  have hjournal := journalCommitted_valid (saveJournal_valid slot generation)
  have hcleared := clearedStore_settled h hvalid
  have hold := clearedStore_old h payload
  have hunmarked : ¬BothWork plan ticks → ∃ text' world, undo = (some (.error text'), world) ∧
      (BothWork plan restoreAt → world.store =
        (clearedStore store slot generation payload).setPointer (some (encodePointer slot generation))) ∧
      (¬BothWork plan restoreAt → world.store = clearedStore store slot generation payload) := by
    intro hmark
    obtain ⟨text', world, hrun, hpost⟩ := restoreAndClear_false_outcome hplan
      (journalCommitted (saveJournal slot generation)).preparedSlot text
    refine ⟨text', world, ?_, hpost⟩
    rw [show undo = _ from abortCommit_unmarked hjournal hcleared.noJournal.2 hplan hmark _ text]
    exact hrun
  constructor
  · intro hor
    by_cases hmark : BothWork plan ticks
    · obtain ⟨text', world, hrun, hpost⟩ := abortCommit_marked hjournal
        (saveJournal_returnsTo slot generation) hold hcleared.noJournal.2 hplan hmark text
      exact ⟨text', world, hrun, hpost.recovers⟩
    · obtain ⟨text', world, hrun, hstore, -⟩ := hunmarked hmark
      refine ⟨text', world, hrun, ?_⟩
      rw [hstore (hor.resolve_left hmark)]
      exact recovers_of_settled ⟨hcleared.noJournal.setPointer _, pointsTo_setPointer _ _ _, hold.setPointer _⟩
  · intro hmark hrestore
    obtain ⟨text', world, hrun, -, hstore⟩ := hunmarked hmark
    refine ⟨text', world, hrun, ?_⟩
    rw [hstore hrestore]
    exact recovers_of_settled hcleared

/-- Outcome of a save whose first failing operation is `failed`. -/
lemma save_refused (h : Settled store slot generation old) (hgeneration : generation ≠ maxGeneration)
    (hvalid : validatePayload payload = .ok ()) (hplan : NoPowerLoss plan) {failed : Nat}
    (hlt : failed < 18) (hworks : WorksFor plan 0 failed) (hfails : plan failed = .fails) :
    (¬CandidateSurvives plan failed → RefusedSave store payload plan slot generation old) ∧
    (CandidateSurvives plan failed → RefusedSave store payload plan slot.other (generation + 1) payload) := by
  by_cases hearly : failed < 14
  · have hnot : ¬CandidateSurvives plan failed := by
      rintro (⟨hge, -⟩ | ⟨rfl, -⟩) <;> omega
    refine ⟨fun _ => ?_, fun hsurvives => absurd hsurvives hnot⟩
    by_cases hplain : failed < 9
    · exact save_refused_early h hgeneration hvalid hplain hworks hfails
    · exact save_refused_before_commit h hgeneration hvalid hplan (Nat.le_of_not_lt hplain) hearly hworks hfails
  by_cases hlast : failed = 17
  · subst hlast
    have hundo := undo_of_cleared h hvalid hplan 18 "PAIRING-NVS-006"
    constructor
    · intro hnot
      refine refusedSave_of_undo h hgeneration hvalid hworks hfails (hundo.1 ?_) rfl rfl
      by_contra hneither
      rw [not_or] at hneither
      exact hnot (.inr ⟨rfl, hneither⟩)
    · rintro (⟨-, hle, -⟩ | ⟨-, hmark, hrestore⟩)
      · omega
      · exact refusedSave_of_undo h hgeneration hvalid hworks hfails (hundo.2 hmark hrestore) rfl rfl
  · have hundo := undo_of_committed h hvalid hplan (failed + 1) "PAIRING-NVS-006"
    have hrange : 14 ≤ failed ∧ failed ≤ 16 := by omega
    constructor
    · intro hnot
      have hmark : BothWork plan (failed + 1) := by
        by_contra hmark
        exact hnot (.inl ⟨hrange.1, hrange.2, hmark⟩)
      obtain rfl | rfl | rfl : failed = 14 ∨ failed = 15 ∨ failed = 16 := by omega
      · exact refusedSave_of_undo h hgeneration hvalid hworks hfails (hundo.1 hmark) rfl rfl
      · exact refusedSave_of_undo h hgeneration hvalid hworks hfails (hundo.1 hmark) rfl rfl
      · exact refusedSave_of_undo h hgeneration hvalid hworks hfails (hundo.1 hmark) rfl rfl
    · rintro (⟨-, -, hmark⟩ | ⟨heq, -⟩)
      · obtain rfl | rfl | rfl : failed = 14 ∨ failed = 15 ∨ failed = 16 := by omega
        · exact refusedSave_of_undo h hgeneration hvalid hworks hfails (hundo.2 hmark) rfl rfl
        · exact refusedSave_of_undo h hgeneration hvalid hworks hfails (hundo.2 hmark) rfl rfl
        · exact refusedSave_of_undo h hgeneration hvalid hworks hfails (hundo.2 hmark) rfl rfl
      · exact absurd heq hlast

/-! ### The reported-failure law -/

/-- The save returns, and what it reports is what the next load finds. -/
def ReportsTruly (store : Nvs) (old payload : ConfigPayload) (plan : Plan) : Prop :=
  match save payload plan ⟨store, 0⟩ with
  | (some (.ok ()), world) => (clean load world.store).1 = some (.ok ⟨payload, ""⟩)
  | (some (.error _), world) => (clean load world.store).1 = some (.ok ⟨old, ""⟩)
  | (none, _) => False

lemma reportsTruly_of_refused {slot' : SlotName} {generation' : UInt64} {found : ConfigPayload}
    (h : RefusedSave store payload plan slot' generation' found) :
    ReportsTruly store old payload plan ↔ found = old := by
  obtain ⟨text, world, hsave, hrecovers⟩ := h.refused
  unfold ReportsTruly
  rw [hsave]
  dsimp only
  rw [hrecovers.load_eq]
  simp only [Option.some.injEq, Except.ok.injEq, Loaded.mk.injEq, and_true]

/-- A save that the store never begins leaves everything as it was. -/
lemma refusedSave_of_unstarted (h : Settled store slot generation old)
    (hunstarted : validatePayload payload ≠ .ok () ∨ generation = maxGeneration) (hplan : NoPowerLoss plan) :
    RefusedSave store payload plan slot generation old := by
  have hrecovers := recovers_of_settled h
  by_cases hvalid : validatePayload payload = .ok ()
  · obtain rfl := hunstarted.resolve_left (fun hne => hne hvalid)
    have hunfolds := save_unfolds_exhausted h hvalid
    by_cases hop : plan 0 = .works
    · exact ⟨_, _, hunfolds.completes plan 0 ((worksFor_zero plan 0).succ hop), hrecovers⟩
    · exact ⟨_, _, hunfolds.failed plan 0 0 _ rfl (worksFor_zero plan 0) (hplan.fails hop), hrecovers⟩
  · obtain ⟨text, hunfolds⟩ := save_unfolds_invalid store hvalid
    exact ⟨text, _, hunfolds.completes plan 0 (worksFor_zero plan 0), hrecovers⟩

/-- A save reports truly exactly when its first failing operation, if any, starts an undo that gets
rid of the candidate, or there is no candidate that could differ. -/
theorem save_reports_truly_iff (h : Settled store slot generation old) (hplan : NoPowerLoss plan) :
    ReportsTruly store old payload plan ↔
      payload = old ∨ validatePayload payload ≠ .ok () ∨ generation = maxGeneration ∨
        ∀ failed < 18, WorksFor plan 0 failed → plan failed = .fails → ¬CandidateSurvives plan failed := by
  by_cases hunstarted : validatePayload payload ≠ .ok () ∨ generation = maxGeneration
  · have hrefused := refusedSave_of_unstarted h hunstarted hplan
    have htrue : ReportsTruly store old payload plan := (reportsTruly_of_refused hrefused).mpr rfl
    exact ⟨fun _ => .inr (hunstarted.imp_right .inl), fun _ => htrue⟩
  obtain ⟨hinvalid, hgeneration⟩ := not_or.mp hunstarted
  have hvalid : validatePayload payload = .ok () := not_not.mp hinvalid
  rcases worksFor_or_first plan 0 18 with hall | ⟨failed, hlt, hworks, hop⟩
  · have hsave := (save_unfolds h hgeneration hvalid).completes plan 0 hall
    have hrecovers := recovers_of_settled (clearedStore_settled h hvalid)
    have htrue : ReportsTruly store old payload plan := by
      unfold ReportsTruly
      rw [hsave]
      exact hrecovers.load_eq
    refine ⟨fun _ => .inr (.inr (.inr ?_)), fun _ => htrue⟩
    intro failed hlt _ hfails
    have hworks := hall failed hlt
    rw [Nat.zero_add, hfails] at hworks
    cases hworks
  · rw [Nat.zero_add] at hop
    have hfails := hplan.fails hop
    obtain ⟨hkept, hlost⟩ := save_refused h hgeneration hvalid hplan hlt hworks hfails
    by_cases hsurvives : CandidateSurvives plan failed
    · rw [reportsTruly_of_refused (hlost hsurvives)]
      constructor
      · exact .inl
      · rintro (hsame | hne | hmax | hnone)
        · exact hsame
        · exact absurd hvalid hne
        · exact absurd hmax hgeneration
        · exact absurd hsurvives (hnone failed hlt hworks hfails)
    · refine ⟨fun _ => .inr (.inr (.inr ?_)), fun _ => (reportsTruly_of_refused (hkept hsurvives)).mpr rfl⟩
      intro other hother hworks' hfails'
      -- the first failing operation is unique
      obtain rfl : other = failed := by
        rcases Nat.lt_trichotomy other failed with hlt' | heq | hlt'
        · have hcontra := hworks other hlt'
          rw [Nat.zero_add, hfails'] at hcontra
          cases hcontra
        · exact heq
        · have hcontra := hworks' failed hlt'
          rw [Nat.zero_add, hfails] at hcontra
          cases hcontra
      exact hsurvives

end Save

/-- The operations in `failing` fail, all others work. -/
def failingAt (failing : List Nat) : Plan := fun tick => if tick ∈ failing then .fails else .works

lemma failingAt_noPowerLoss (failing : List Nat) : NoPowerLoss (failingAt failing) := by
  intro tick
  unfold failingAt
  split <;> simp

/-- Reopening the namespace to check the committed journal fails, and so does opening it for the undo. -/
theorem save_reports_truly_iff_nineOClock :
    Settled (storeWith {} 7) .A 7 {} ∧ NoPowerLoss (failingAt [14, 15]) ∧
      (ReportsTruly (storeWith {} 7) {} nineOClock (failingAt [14, 15]) ↔
        nineOClock = {} ∨ validatePayload nineOClock ≠ .ok () ∨ (7 : UInt64) = maxGeneration ∨
          ∀ failed < 18, WorksFor (failingAt [14, 15]) 0 failed → failingAt [14, 15] failed = .fails →
            ¬CandidateSurvives (failingAt [14, 15]) failed) :=
  ⟨storeWith_settled default_valid 7, failingAt_noPowerLoss _,
    save_reports_truly_iff (storeWith_settled default_valid 7) (failingAt_noPowerLoss _)⟩

/-- With these two faults the save is refused and its candidate is loaded at the next boot. -/
theorem refused_candidate_becomes_active :
    Settled (storeWith {} 7) .A 7 {} ∧ NoPowerLoss (failingAt [14, 15]) ∧
      ∃ text world, save nineOClock (failingAt [14, 15]) ⟨storeWith {} 7, 0⟩ = (some (.error text), world) ∧
        (clean load world.store).1 = some (.ok ⟨nineOClock, ""⟩) ∧
        (clean load world.store).1 ≠ some (.ok ⟨{}, ""⟩) := by
  have hsettled := storeWith_settled default_valid 7
  have hplan := failingAt_noPowerLoss [14, 15]
  have hworks : WorksFor (failingAt [14, 15]) 0 14 := by decide
  have hsurvives : CandidateSurvives (failingAt [14, 15]) 14 :=
    .inl ⟨by decide, by decide, fun hboth => absurd hboth.1 (by decide)⟩
  obtain ⟨text, world, hsave, hrecovers⟩ :=
    ((save_refused hsettled (by decide) nineOClock_valid hplan (by decide) hworks (by decide)).2 hsurvives).refused
  refine ⟨hsettled, hplan, text, world, hsave, hrecovers.load_eq, ?_⟩
  rw [hrecovers.load_eq]
  intro hsame
  have hpayload : nineOClock = {} := by simpa using hsame
  exact absurd hpayload (by decide)

end InkTime.Firmware
