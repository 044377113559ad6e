import InkTime.Firmware.ConfigStore

/-!
# Runs of the configuration store

What the store's functions do on a store in good order: which stores a run passes through, what it
does when one of its operations fails, and what a load makes of the store it finds.
-/

namespace InkTime.Firmware
open WireFormat FaultProgram FaultProgram.Program

/-! ### States of the store -/

def NoJournal (store : Nvs) : Prop := store.journal = none ∧ store.legacyJournal = none

/-- `journal` is the journal on flash. -/
structure JournalIs (store : Nvs) (journal : RecoveryJournal) : Prop where
  valid : ValidJournal journal
  stored : store.journal = some (journalBytes journal)
  noLegacy : store.legacyJournal = none

def PointsTo (store : Nvs) (slot : SlotName) (generation : UInt64) : Prop :=
  readPointer store = .ok (some (slot, generation))

def SlotHolds (store : Nvs) (slot : SlotName) (generation : UInt64) (payload : ConfigPayload) : Prop :=
  readSlotAt store slot generation = .ok payload

/-- No transaction is open and `payload` is the active configuration. -/
structure Settled (store : Nvs) (slot : SlotName) (generation : UInt64) (payload : ConfigPayload) : Prop where
  noJournal : NoJournal store
  pointsTo : PointsTo store slot generation
  slotHolds : SlotHolds store slot generation payload

namespace Nvs

@[simp] lemma slot_setSlot_self (store : Nvs) (name : SlotName) (value : Option Bytes) :
    (store.setSlot name value).slot name = value := by
  cases name <;> rfl

lemma slot_setSlot_of_ne (store : Nvs) {name other : SlotName} (value : Option Bytes) (h : other ≠ name) :
    (store.setSlot name value).slot other = store.slot other := by
  cases name <;> cases other <;> first | rfl | exact absurd rfl h

@[simp] lemma slot_setPointer (store : Nvs) (value : Option Bytes) (name : SlotName) :
    (store.setPointer value).slot name = store.slot name := by
  cases name <;> rfl

@[simp] lemma slot_setJournal (store : Nvs) (value : Option Bytes) (name : SlotName) :
    (store.setJournal value).slot name = store.slot name := by
  cases name <;> rfl

@[simp] lemma pointer_setSlot (store : Nvs) (name : SlotName) (value : Option Bytes) :
    (store.setSlot name value).pointer = store.pointer := by
  cases name <;> rfl

@[simp] lemma journal_setSlot (store : Nvs) (name : SlotName) (value : Option Bytes) :
    (store.setSlot name value).journal = store.journal := by
  cases name <;> rfl

@[simp] lemma legacyJournal_setSlot (store : Nvs) (name : SlotName) (value : Option Bytes) :
    (store.setSlot name value).legacyJournal = store.legacyJournal := by
  cases name <;> rfl

end Nvs

/-- Reading a slot depends on that slot alone. -/
lemma SlotHolds.congr {store store' : Nvs} {slot : SlotName} {generation : UInt64} {payload : ConfigPayload}
    (h : SlotHolds store slot generation payload) (hslot : store'.slot slot = store.slot slot) :
    SlotHolds store' slot generation payload := by
  rw [SlotHolds, readSlotAt, readSlot, hslot]
  exact h

lemma PointsTo.congr {store store' : Nvs} {slot : SlotName} {generation : UInt64}
    (h : PointsTo store slot generation) (hpointer : store'.pointer = store.pointer) :
    PointsTo store' slot generation := by
  rw [PointsTo, readPointer, hpointer]
  exact h

lemma SlotHolds.setPointer {store : Nvs} {slot : SlotName} {generation : UInt64} {payload : ConfigPayload}
    (h : SlotHolds store slot generation payload) (value : Option Bytes) :
    SlotHolds (store.setPointer value) slot generation payload := h.congr (by simp)

lemma SlotHolds.setJournal {store : Nvs} {slot : SlotName} {generation : UInt64} {payload : ConfigPayload}
    (h : SlotHolds store slot generation payload) (value : Option Bytes) :
    SlotHolds (store.setJournal value) slot generation payload := h.congr (by simp)

lemma NoJournal.setPointer {store : Nvs} (h : NoJournal store) (value : Option Bytes) :
    NoJournal (store.setPointer value) := h

/-- The store once `journal` is written. -/
def withJournal (store : Nvs) (journal : RecoveryJournal) : Nvs :=
  store.setJournal (some (journalBytes journal))

lemma journalIs_withJournal {store : Nvs} {journal : RecoveryJournal} (hvalid : ValidJournal journal)
    (hlegacy : store.legacyJournal = none) : JournalIs (withJournal store journal) journal :=
  ⟨hvalid, rfl, hlegacy⟩

lemma JournalIs.setPointer {store : Nvs} {journal : RecoveryJournal} (h : JournalIs store journal)
    (value : Option Bytes) : JournalIs (store.setPointer value) journal :=
  ⟨h.valid, h.stored, h.noLegacy⟩

lemma readBlob_of_size {bytes : Bytes} (hne : bytes ≠ []) (hlen : bytes.length ≤ kMaxConfigPayloadBytes + 64) :
    readBlob (some bytes) = .ok (some bytes) := by
  cases bytes with
  | nil => exact absurd rfl hne
  | cons byte rest => rw [readBlob, if_neg (Nat.not_lt.mpr hlen)]; simp

/-- A slot just written holds its payload. -/
lemma slotHolds_setSlot (store : Nvs) (slot : SlotName) (generation : UInt64) {payload : ConfigPayload}
    (h : validatePayload payload = .ok ()) :
    SlotHolds (store.setSlot slot (some (slotEnvelope generation (payloadBytes payload)))) slot generation
      payload := by
  have hlen : (slotEnvelope generation (payloadBytes payload)).length = (payloadBytes payload).length + 22 := by
    simp only [slotEnvelope, List.length_append, leBytes_length, List.length_cons, List.length_nil]
    omega
  have hbound := payloadBytes_length_le (validatePayload_sizes h)
  have hblob := readBlob_of_size (List.ne_nil_of_length_pos (by omega))
    (show (slotEnvelope generation (payloadBytes payload)).length ≤ kMaxConfigPayloadBytes + 64 by
      rw [hlen, kMaxConfigPayloadBytes]
      omega)
  simp only [SlotHolds, readSlotAt, readSlot, Nvs.slot_setSlot_self, hblob, decodeSlot_slotEnvelope h, if_true]

lemma pointsTo_setPointer (store : Nvs) (slot : SlotName) (generation : UInt64) :
    PointsTo (store.setPointer (some (encodePointer slot generation))) slot generation := by
  have hlen : (encodePointer slot generation).length = 18 := by simp [encodePointer]
  have hblob := readBlob_of_size (List.ne_nil_of_length_pos (by omega))
    (show (encodePointer slot generation).length ≤ kMaxConfigPayloadBytes + 64 by
      rw [hlen, kMaxConfigPayloadBytes]
      omega)
  simp only [PointsTo, readPointer, Nvs.setPointer, hblob, decodePointer_encodePointer]

lemma readBlob_journalBytes {journal : RecoveryJournal} (h : ValidJournal journal) :
    readBlob (some (journalBytes journal)) = .ok (some (journalBytes journal)) := by
  obtain ⟨-, -, hid⟩ := h
  have happend := appendString_of_le hid (by decide)
  have hlen : (journalBytes journal).length = journal.targetScheduleId.length + 30 := by
    simp only [journalBytes, journalBody, happend, Option.getD_some, stringBytes, List.length_append,
      leBytes_length, List.length_cons, List.length_nil]
    omega
  rw [kMaxScheduleIdBytes] at hid
  apply readBlob_of_size (List.ne_nil_of_length_pos (by omega))
  rw [hlen, kMaxConfigPayloadBytes]
  omega

lemma findJournal_of_noJournal {store : Nvs} (h : NoJournal store) : findJournal store = .ok none := by
  simp only [findJournal, h.1, h.2, readBlob]

lemma findJournal_of_journalIs {store : Nvs} {journal : RecoveryJournal} (h : JournalIs store journal) :
    findJournal store = .ok (some journal) := by
  simp only [findJournal, h.stored, readBlob_journalBytes h.valid, decodeJournal_journalBytes h.valid]

/-- The candidate and the configuration it replaces never share a slot. -/
def SlotName.other : SlotName → SlotName
  | .A => .B
  | .B => .A

lemma SlotName.other_ne (slot : SlotName) : slot.other ≠ slot := by
  cases slot <;> decide

/-! ### Writing and clearing the journal -/

lemma beginStore_bind {α : Type} {next : Bool → Program Nvs α} {store : Nvs} {out : α} {steps : List Nvs}
    {handlers : List (Program Nvs α)} (h : Unfolds (next true) store out steps handlers) :
    Unfolds (beginStore >>= next) store out (store :: steps) (next false :: handlers) :=
  Unfolds.attempt_bind h

lemma removeIfPresent_unfolds_absent {store : Nvs} {isKey : Nvs → Bool} (erase : Nvs → Nvs)
    (h : isKey store = false) : Unfolds (removeIfPresent isKey erase) store true [] [] := by
  refine Unfolds.observe_bind ?_
  rw [h]
  exact Unfolds.pure true store

lemma removeIfPresent_unfolds_present {store : Nvs} {isKey : Nvs → Bool} (erase : Nvs → Nvs)
    (h : isKey store = true) : Unfolds (removeIfPresent isKey erase) store true [erase store] [pure false] := by
  refine Unfolds.observe_bind ?_
  rw [h]
  exact Unfolds.attempt erase store

lemma readJournal_unfolds (store : Nvs) :
    Unfolds readJournal store (findJournal store) [store] [pure (.error "PAIRING-NVS-002")] :=
  beginStore_bind (Unfolds.observe findJournal store)

lemma writeJournal_unfolds {store : Nvs} {journal : RecoveryJournal} (hvalid : ValidJournal journal)
    (hlegacy : store.legacyJournal = none) :
    Unfolds (writeJournal journal) store (.ok ())
      [store, store.setJournal (some (journalBytes journal)), store.setJournal (some (journalBytes journal))]
      [pure (.error "PAIRING-NVS-002"), pure (.error "PAIRING-NVS-005"), pure (.error "PAIRING-NVS-006")] := by
  have hreadback : journalReadback (journalBytes journal)
      (store.setJournal (some (journalBytes journal))) = true := by
    simp [journalReadback, Nvs.setJournal, readBlob_journalBytes hvalid, decodeJournal_journalBytes hvalid,
      hlegacy, Except.isOk, Except.toBool]
  have habsent : (store.setJournal (some (journalBytes journal))).legacyJournal.isSome = false := by
    simp [Nvs.setJournal, hlegacy]
  rw [writeJournal, encodeJournal_of_valid hvalid]
  refine beginStore_bind (Unfolds.attempt_bind ?_)
  refine (removeIfPresent_unfolds_absent Nvs.eraseLegacyJournal habsent).bind ?_
  refine beginStore_bind (Unfolds.observe_bind ?_)
  simp only [finalStore_nil, hreadback]
  exact Unfolds.pure _ _

lemma clearJournal_unfolds {store : Nvs} {journal : RecoveryJournal} (h : JournalIs store journal) :
    Unfolds clearJournal store (.ok ())
      [store, store.setJournal none, store.setJournal none]
      [pure (.error "PAIRING-NVS-002"), pure (.error "PAIRING-NVS-006"), pure (.error "PAIRING-NVS-006")] := by
  have hpresent : store.journal.isSome = true := by rw [h.stored]; rfl
  have habsent : (store.setJournal none).legacyJournal.isSome = false := by
    simp [Nvs.setJournal, h.noLegacy]
  have hgone : ((store.setJournal none).journal.isNone && (store.setJournal none).legacyJournal.isNone) =
      true := by simp [Nvs.setJournal, h.noLegacy]
  refine beginStore_bind ?_
  refine (removeIfPresent_unfolds_present (·.setJournal none) hpresent).bind ?_
  refine (removeIfPresent_unfolds_absent Nvs.eraseLegacyJournal habsent).bind ?_
  refine beginStore_bind (Unfolds.observe_bind ?_)
  simp only [finalStore_nil, finalStore_cons, hgone]
  exact Unfolds.pure _ _

/-! ### Saving -/

lemma readSlot_slot {store : Nvs} {slot : SlotName} {value : SlotValue}
    (h : readSlot store slot = .ok value) : value.slot = slot := by
  simp only [readSlot] at h
  generalize readBlob (store.slot slot) = blob at h
  rcases blob with text | _ | bytes
  · cases h
  · cases h
  · dsimp only at h
    generalize decodeSlot bytes = decoded at h
    rcases decoded with text | ⟨payload, generation⟩
    · cases h
    · rw [← Except.ok.inj h]

lemma readSlot_of_slotHolds {store : Nvs} {slot : SlotName} {generation : UInt64} {payload : ConfigPayload}
    (h : SlotHolds store slot generation payload) : readSlot store slot = .ok ⟨payload, slot, generation⟩ := by
  rw [SlotHolds, readSlotAt] at h
  cases hread : readSlot store slot with
  | error text => simp [hread] at h
  | ok value =>
    have hslot := readSlot_slot hread
    simp only [hread] at h
    split at h
    · next hgeneration =>
      obtain rfl := Except.ok.inj h
      rw [← hslot, ← hgeneration]
    · cases h

lemma readCurrent_of_settled {store : Nvs} {slot : SlotName} {generation : UInt64} {payload : ConfigPayload}
    (hpointer : PointsTo store slot generation) (hslot : SlotHolds store slot generation payload) :
    readCurrent store = some ⟨payload, slot, generation⟩ := by
  rw [readCurrent, hpointer]
  simp only [readSlot_of_slotHolds hslot, if_true]

lemma nextCandidate_of_lt {payload : ConfigPayload} {slot : SlotName} {generation : UInt64}
    (h : generation ≠ maxGeneration) :
    nextCandidate (some ⟨payload, slot, generation⟩) =
      some (slot.other, generation + 1, some (slot, generation)) := by
  cases slot <;> simp [nextCandidate, h, SlotName.other]

/-- The store once the candidate slot is written. -/
def withCandidate (store : Nvs) (slot : SlotName) (generation : UInt64) (payload : ConfigPayload) : Nvs :=
  store.setSlot slot (some (slotEnvelope generation (payloadBytes payload)))

lemma prepare_unfolds {store : Nvs} {slot : SlotName} {generation : UInt64} {old payload : ConfigPayload}
    (hpointer : PointsTo store slot generation) (hold : SlotHolds store slot generation old)
    (hgeneration : generation ≠ maxGeneration) (hvalid : validatePayload payload = .ok ()) :
    Unfolds (prepare payload) store (.ok ⟨payload, slot.other, generation + 1, some (slot, generation)⟩)
      [store, withCandidate store slot.other (generation + 1) payload,
        withCandidate store slot.other (generation + 1) payload]
      [pure (.error "PAIRING-NVS-002"), pure (.error "PAIRING-NVS-001"), pure (.error "PAIRING-NVS-002")] := by
  have hholds : readSlotAt (withCandidate store slot.other (generation + 1) payload) slot.other
      (generation + 1) = .ok payload := slotHolds_setSlot store slot.other (generation + 1) hvalid
  unfold prepare
  rw [encodeSlot_of_valid hvalid 1]
  refine beginStore_bind (Unfolds.observe_bind ?_)
  rw [readCurrent_of_settled hpointer hold, nextCandidate_of_lt hgeneration]
  dsimp only
  rw [encodeSlot_of_valid hvalid (generation + 1)]
  refine Unfolds.attempt_bind (beginStore_bind (Unfolds.observe_bind ?_))
  rw [withCandidate] at hholds
  rw [hholds, if_pos (by rfl)]
  exact Unfolds.pure _ _

lemma preparedPointerOk_of_pointsTo {store : Nvs} {slot : SlotName} {generation : UInt64}
    {payload : ConfigPayload} (hpointer : PointsTo store slot generation)
    (hslot : SlotHolds store slot generation payload) :
    preparedPointerOk slot generation payload store = true := by
  rw [preparedPointerOk, hpointer]
  simp only [show readSlotAt store slot generation = .ok payload from hslot]
  simp [Except.toOption]

lemma verifyPreparedPointer_unfolds {store : Nvs} {slot : SlotName} {generation : UInt64}
    {payload : ConfigPayload} (hpointer : PointsTo store slot generation)
    (hslot : SlotHolds store slot generation payload) :
    Unfolds (verifyPreparedPointer slot generation payload) store true [store] [pure false] := by
  refine beginStore_bind ?_
  have hobserve := Unfolds.observe (preparedPointerOk slot generation payload) store
  rw [preparedPointerOk_of_pointsTo hpointer hslot] at hobserve
  exact hobserve

def journalCommitted (journal : RecoveryJournal) : RecoveryJournal := { journal with phase := .configCommitted }

/-- The store once the pointer names the candidate of `journal`. -/
def withPointer (store : Nvs) (journal : RecoveryJournal) : Nvs :=
  store.setPointer (some (encodePointer journal.preparedSlot journal.preparedGeneration))

lemma promoteCandidate_unfolds {store : Nvs} {journal : RecoveryJournal}
    {previous : Option (SlotName × UInt64)} {payload : ConfigPayload} (hjournal : JournalIs store journal)
    (hslot : SlotHolds store journal.preparedSlot journal.preparedGeneration payload) :
    let promoted := withPointer store journal
    let committed := withJournal promoted (journalCommitted journal)
    let cleared := committed.setJournal none
    let undo := abortCommit journal previous
    let undoCommitted := abortCommit (journalCommitted journal) previous "PAIRING-NVS-006"
    Unfolds (promoteCandidate journal previous payload) store (.ok ())
      [store, store, promoted, promoted, promoted, committed, committed, committed, cleared, cleared]
      [pure (.error "PAIRING-NVS-002"), undo "PAIRING-NVS-002", undo "PAIRING-NVS-005", undo "PAIRING-NVS-005",
        undoCommitted, undoCommitted, undoCommitted, undoCommitted, undoCommitted, undoCommitted] := by
  intro promoted committed cleared undo undoCommitted
  have hcandidate : ¬(readSlotAt store journal.preparedSlot journal.preparedGeneration).toOption ≠
      some payload := by
    rw [show readSlotAt store _ _ = .ok payload from hslot]
    simp [Except.toOption]
  have hvalid : ValidJournal (journalCommitted journal) := ⟨by simp [journalCommitted], hjournal.valid.2⟩
  have hverify := verifyPreparedPointer_unfolds
    (pointsTo_setPointer store journal.preparedSlot journal.preparedGeneration) (hslot.setPointer _)
  have hwrite := writeJournal_unfolds hvalid (show promoted.legacyJournal = none from hjournal.noLegacy)
  have hclear := clearJournal_unfolds (journalIs_withJournal hvalid
    (show promoted.legacyJournal = none from hjournal.noLegacy))
  refine beginStore_bind (Unfolds.observe_bind ?_)
  rw [if_neg hcandidate]
  refine beginStore_bind (Unfolds.attempt_bind (hverify.bind ?_))
  refine hwrite.bind (hclear.bind ?_)
  exact Unfolds.pure _ _

/-- The journal a commit writes for itself when no transaction is open. -/
def commitJournal (slot : SlotName) (generation : UInt64) (previous : SlotName × UInt64) : RecoveryJournal :=
  { phase := .prepared, targetScheduleId := kGenericCommitTargetScheduleId
    previousActiveSlot := some previous.1, previousGeneration := previous.2
    preparedSlot := slot, preparedGeneration := generation }

lemma commitJournal_valid (slot : SlotName) (generation : UInt64) (previous : SlotName × UInt64) :
    ValidJournal (commitJournal slot generation previous) :=
  ⟨by simp [commitJournal], by simp only [commitJournal]; decide, by simp only [commitJournal]; decide⟩

/-- Stores a commit passes through, from the prepared candidate to the cleared journal. -/
def commitSteps (store : Nvs) (journal : RecoveryJournal) : List Nvs :=
  let opened := withJournal store journal
  let promoted := withPointer opened journal
  let committed := withJournal promoted (journalCommitted journal)
  let cleared := committed.setJournal none
  [store, store, store, opened, opened, opened, opened, promoted, promoted, promoted, committed,
    committed, committed, cleared, cleared]

/-- Failures before the promotion are refusals; later ones start the undo. -/
def commitHandlers (journal : RecoveryJournal) (previous : SlotName × UInt64) :
    List (Program Nvs (Except String Unit)) :=
  let undo := abortCommit journal (some previous)
  let undoCommitted := abortCommit (journalCommitted journal) (some previous) "PAIRING-NVS-006"
  [pure (.error "PAIRING-NVS-005"), pure (.error "PAIRING-NVS-002"), pure (.error "PAIRING-NVS-002"),
    pure (.error "PAIRING-NVS-005"), pure (.error "PAIRING-NVS-006"), pure (.error "PAIRING-NVS-002"),
    undo "PAIRING-NVS-002", undo "PAIRING-NVS-005", undo "PAIRING-NVS-005", undoCommitted, undoCommitted,
    undoCommitted, undoCommitted, undoCommitted, undoCommitted]

lemma commitPreparedSlot_unfolds {store : Nvs} {slot : SlotName} {generation : UInt64}
    {previous : SlotName × UInt64} {payload : ConfigPayload} (hjournal : NoJournal store)
    (hpointer : PointsTo store previous.1 previous.2) (hslot : SlotHolds store slot generation payload) :
    Unfolds (commitPreparedSlot slot generation payload) store (.ok ())
      (commitSteps store (commitJournal slot generation previous))
      (commitHandlers (commitJournal slot generation previous) previous) := by
  have hvalid := commitJournal_valid slot generation previous
  have hwrite := writeJournal_unfolds hvalid hjournal.2
  have hopened := journalIs_withJournal hvalid hjournal.2
  refine (readJournal_unfolds store).bind ?_
  rw [findJournal_of_noJournal hjournal]
  refine beginStore_bind (Unfolds.observe_bind ?_)
  rw [show readPointer (finalStore store [store]) = .ok (some previous) from hpointer]
  exact hwrite.bind (promoteCandidate_unfolds hopened (hslot.setJournal _))

lemma SlotHolds.withCandidate {store : Nvs} {slot : SlotName} {generation : UInt64} {old : ConfigPayload}
    (h : SlotHolds store slot generation old) (candidate : UInt64) (payload : ConfigPayload) :
    SlotHolds (withCandidate store slot.other candidate payload) slot generation old :=
  h.congr (store.slot_setSlot_of_ne _ slot.other_ne.symm)

/-- The journal under which `save` replaces the configuration in `slot`. -/
def saveJournal (slot : SlotName) (generation : UInt64) : RecoveryJournal :=
  commitJournal slot.other (generation + 1) (slot, generation)

def saveSteps (store : Nvs) (slot : SlotName) (generation : UInt64) (payload : ConfigPayload) : List Nvs :=
  let candidate := withCandidate store slot.other (generation + 1) payload
  store :: candidate :: candidate :: commitSteps candidate (saveJournal slot generation)

def saveHandlers (slot : SlotName) (generation : UInt64) : List (Program Nvs (Except String Unit)) :=
  pure (.error "PAIRING-NVS-002") :: pure (.error "PAIRING-NVS-001") :: pure (.error "PAIRING-NVS-002") ::
    commitHandlers (saveJournal slot generation) (slot, generation)

/-- Eighteen storage operations replace the active configuration. -/
theorem save_unfolds {store : Nvs} {slot : SlotName} {generation : UInt64} {old payload : ConfigPayload}
    (h : Settled store slot generation old) (hgeneration : generation ≠ maxGeneration)
    (hvalid : validatePayload payload = .ok ()) :
    Unfolds (save payload) store (.ok ()) (saveSteps store slot generation payload)
      (saveHandlers slot generation) := by
  have hnone : NoJournal (withCandidate store slot.other (generation + 1) payload) := by
    simpa [NoJournal, withCandidate] using h.noJournal
  have hpointer : PointsTo (withCandidate store slot.other (generation + 1) payload) slot generation :=
    h.pointsTo.congr (by simp [withCandidate])
  have hcommit := commitPreparedSlot_unfolds (show NoJournal _ from hnone)
    (show PointsTo _ (slot, generation).1 (slot, generation).2 from hpointer)
    (slotHolds_setSlot store slot.other (generation + 1) hvalid)
  exact (prepare_unfolds h.pointsTo h.slotHolds hgeneration hvalid).bind hcommit

lemma encodeSlot_of_invalid {payload : ConfigPayload} (h : validatePayload payload ≠ .ok ())
    (generation : UInt64) : ∃ text, encodeSlot payload generation = .error text := by
  cases hvalid : validatePayload payload with
  | ok _ => exact absurd hvalid h
  | error text =>
    refine ⟨text, ?_⟩
    simp only [encodeSlot, serializePayload, hvalid]
    rfl

lemma prepare_unfolds_invalid (store : Nvs) {payload : ConfigPayload} (h : validatePayload payload ≠ .ok ()) :
    ∃ text, Unfolds (prepare payload) store (.error text) [] [] := by
  obtain ⟨text, htext⟩ := encodeSlot_of_invalid h 1
  refine ⟨text, ?_⟩
  unfold prepare
  rw [htext]
  exact Unfolds.pure _ _

lemma prepare_unfolds_exhausted {store : Nvs} {slot : SlotName} {old payload : ConfigPayload}
    (hpointer : PointsTo store slot maxGeneration) (hold : SlotHolds store slot maxGeneration old)
    (hvalid : validatePayload payload = .ok ()) :
    Unfolds (prepare payload) store (.error "PAIRING-NVS-001") [store] [pure (.error "PAIRING-NVS-002")] := by
  unfold prepare
  rw [encodeSlot_of_valid hvalid 1]
  refine beginStore_bind (Unfolds.observe_bind ?_)
  rw [readCurrent_of_settled hpointer hold]
  exact Unfolds.pure _ _

/-- A payload that does not validate is refused before the store is opened. -/
lemma save_unfolds_invalid (store : Nvs) {payload : ConfigPayload} (h : validatePayload payload ≠ .ok ()) :
    ∃ text, Unfolds (save payload) store (.error text) [] [] := by
  obtain ⟨text, hprepare⟩ := prepare_unfolds_invalid store h
  exact ⟨text, hprepare.bind (Unfolds.pure _ _)⟩

/-- Generations are never reused: at the last one every save is refused. -/
lemma save_unfolds_exhausted {store : Nvs} {slot : SlotName} {old payload : ConfigPayload}
    (h : Settled store slot maxGeneration old) (hvalid : validatePayload payload = .ok ()) :
    Unfolds (save payload) store (.error "PAIRING-NVS-001") [store] [pure (.error "PAIRING-NVS-002")] :=
  (prepare_unfolds_exhausted h.pointsTo h.slotHolds hvalid).bind (Unfolds.pure _ _)

end InkTime.Firmware
