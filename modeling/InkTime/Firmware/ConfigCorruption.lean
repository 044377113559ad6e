import InkTime.Firmware.ConfigRoundTrip
import InkTime.Library.CyclicRedundancy

/-!
# Corrupted config records

What the checksums of pointer, recovery journal and config slot detect. Pointer and journal end in the checksum of
all the bytes before it; a slot has the checksum of its payload in its header.
-/

namespace InkTime.Firmware

open WireFormat CyclicRedundancy

/-! ### The checksum -/

/-- `0xedb88320` -/
def crc32Polynomial : BitVec 32 := 0xedb88320

lemma crc32Bit_toBitVec (crc : UInt32) : (crc32Bit crc).toBitVec = shiftBit crc32Polynomial crc.toBitVec := by
  have hlow : crc &&& 1 ≠ 0 ↔ crc.toBitVec.getLsbD 0 = true := by
    rw [ne_eq, ← UInt32.toBitVec_inj, UInt32.toBitVec_and]
    change ¬ crc.toBitVec &&& 1#32 = 0#32 ↔ _
    rw [BitVec.and_one_eq_setWidth_ofBool_getLsbD]
    cases crc.toBitVec.getLsbD 0 with
    | false => simp
    | true => simp
  unfold crc32Bit shiftBit
  by_cases h : crc &&& 1 ≠ 0
  · rw [if_pos h, if_pos (hlow.mp h)]
    rfl
  · rw [if_neg h, if_neg fun hset => h (hlow.mpr hset)]
    rfl

lemma iterate_crc32Bit_toBitVec (count : Nat) (crc : UInt32) :
    (Nat.iterate crc32Bit count crc).toBitVec = (shiftBit crc32Polynomial)^[count] crc.toBitVec := by
  induction count generalizing crc with
  | zero => rfl
  | succ count ih => rw [Function.iterate_succ_apply, Function.iterate_succ_apply, ih, crc32Bit_toBitVec]

lemma foldl_crc32Byte_toBitVec (crc : UInt32) (value : Bytes) :
    (value.foldl crc32Byte crc).toBitVec = shiftAll crc32Polynomial crc.toBitVec value := by
  induction value generalizing crc with
  | nil => rfl
  | cons byte value ih =>
    have hbyte : (crc32Byte crc byte).toBitVec = shiftByte crc32Polynomial crc.toBitVec byte := by
      rw [crc32Byte, iterate_crc32Bit_toBitVec, UInt32.toBitVec_xor, shiftByte]
      have hword : byte.toUInt32.toBitVec = BitVec.ofNat 32 byte.toNat := BitVec.eq_of_toNat_eq (by simp)
      rw [hword]
    rw [List.foldl_cons, ih, hbyte]
    rfl

lemma crc32_toBitVec (value : Bytes) :
    (crc32 value).toBitVec = ~~~ shiftAll crc32Polynomial (BitVec.allOnes 32) value := by
  rw [crc32, UInt32.toBitVec_not, foldl_crc32Byte_toBitVec]
  rfl

/-- A record that ends in the checksum of the bytes before it. -/
def Checked (input : Bytes) : Prop := ∃ body, input = body ++ leBytes 4 (crc32 body).toNat

lemma Checked.shiftAll_eq {input : Bytes} (h : Checked input) :
    shiftAll crc32Polynomial (BitVec.allOnes 32) input = (shiftBit crc32Polynomial)^[32] (BitVec.allOnes 32) := by
  obtain ⟨body, rfl⟩ := h
  apply shiftAll_checked (by simp)
  rw [← crc32_toBitVec, leValue_leBytes]
  apply BitVec.eq_of_toNat_eq
  rw [BitVec.toNat_ofNat, UInt32.toNat_toBitVec]
  have := (crc32 body).toNat_lt
  omega

lemma Checked.not_burst {input input' : Bytes} (h : Checked input) (h' : Checked input') : ¬ Burst 4 input input' := by
  intro hburst
  apply hburst.shiftAll_ne (by decide) (by decide) (by decide : crc32Polynomial.msb = true) (BitVec.allOnes 32)
  rw [h.shiftAll_eq, h'.shiftAll_eq]

lemma crc32_ne_of_burst {value value' : Bytes} (h : Burst 4 value value') : crc32 value ≠ crc32 value' := by
  intro heq
  apply h.shiftAll_ne (by decide) (by decide) (by decide : crc32Polynomial.msb = true) (BitVec.allOnes 32)
  have hnot := congrArg UInt32.toBitVec heq
  rw [crc32_toBitVec, crc32_toBitVec] at hnot
  exact BitVec.not_inj.mp hnot

/-! ### Pointer and journal -/

lemma checked_of_last {input before : Bytes} {actual : Nat} (hactual : actual < 256 ^ 4)
    (hinput : input = before ++ leBytes 4 actual)
    (hcrc : UInt32.ofNat actual = crc32 (input.take (input.length - 4))) : Checked input := by
  have hbefore : input.take (input.length - 4) = before := by
    rw [hinput]
    simp
  have hword : (crc32 before).toNat = actual := by
    rw [← hbefore, ← hcrc]
    exact UInt32.toNat_ofNat_of_lt hactual
  exact ⟨before, by rw [hword, hinput]⟩

lemma checked_of_decodePointer {input : Bytes} {out : SlotName × UInt64} (h : decodePointer input = .ok out) :
    Checked input := by
  unfold decodePointer at h
  split at h
  · cases h
  · next hlength =>
    rw [ne_eq, not_not] at hlength
    split at h
    · cases h
    · next fields rest hread =>
      split at h
      · cases h
      · split at h
        · next hchecks =>
          obtain ⟨-, -, hcrc⟩ := hchecks
          obtain ⟨magic, rest1, h1, hread⟩ := reader_bind_eq_some hread
          obtain ⟨version, rest2, h2, hread⟩ := reader_bind_eq_some hread
          obtain ⟨rawSlot, rest3, h3, hread⟩ := reader_bind_eq_some hread
          obtain ⟨generation, rest4, h4, hread⟩ := reader_bind_eq_some hread
          obtain ⟨actual, rest5, h5, hread⟩ := reader_bind_eq_some hread
          obtain ⟨rfl, rfl⟩ := Prod.mk.inj (Option.some.inj hread)
          obtain ⟨e1, -⟩ := takeWord_eq_some h1
          have e2 := takeByte_eq_some h2
          have e3 := takeByte_eq_some h3
          obtain ⟨e4, -⟩ := takeWord_eq_some h4
          obtain ⟨e5, hactual⟩ := takeWord_eq_some h5
          dsimp only at e1 e2 e3 e4 e5 hcrc
          have hinput : input = (leBytes 4 magic ++ [version, rawSlot] ++ leBytes 8 generation) ++ leBytes 4 actual ++ rest5 := by
            rw [e1, e2, e3, e4, e5]
            simp
          have hrest : rest5 = [] := by
            apply List.eq_nil_of_length_eq_zero
            rw [hinput] at hlength
            simp at hlength
            omega
          rw [hrest, List.append_nil] at hinput
          exact checked_of_last hactual hinput (by rw [hlength]; exact hcrc)
        · cases h

lemma checked_of_decodeJournal {input : Bytes} {journal : RecoveryJournal} (h : decodeJournal input = .ok journal) :
    Checked input := by
  unfold decodeJournal at h
  split at h
  · cases h
  · split at h
    · cases h
    · next fields rest hread =>
      split at h
      · split at h
        · next hchecks =>
          obtain ⟨hrest, -, -, hcrc⟩ := hchecks
          obtain ⟨magic, rest1, h1, hread⟩ := reader_bind_eq_some hread
          obtain ⟨version, rest2, h2, hread⟩ := reader_bind_eq_some hread
          obtain ⟨phase, rest3, h3, hread⟩ := reader_bind_eq_some hread
          obtain ⟨previousSlot, rest4, h4, hread⟩ := reader_bind_eq_some hread
          obtain ⟨preparedSlot, rest5, h5, hread⟩ := reader_bind_eq_some hread
          obtain ⟨previousGeneration, rest6, h6, hread⟩ := reader_bind_eq_some hread
          obtain ⟨preparedGeneration, rest7, h7, hread⟩ := reader_bind_eq_some hread
          obtain ⟨targetScheduleId, rest8, h8, hread⟩ := reader_bind_eq_some hread
          obtain ⟨actual, rest9, h9, hread⟩ := reader_bind_eq_some hread
          obtain ⟨rfl, rfl⟩ := Prod.mk.inj (Option.some.inj hread)
          obtain ⟨e1, -⟩ := takeWord_eq_some h1
          have e2 := takeByte_eq_some h2
          have e3 := takeByte_eq_some h3
          have e4 := takeByte_eq_some h4
          have e5 := takeByte_eq_some h5
          obtain ⟨e6, -⟩ := takeWord_eq_some h6
          obtain ⟨e7, -⟩ := takeWord_eq_some h7
          obtain ⟨e8, -⟩ := takeString_eq_some h8
          obtain ⟨e9, hactual⟩ := takeWord_eq_some h9
          dsimp only at e1 e2 e3 e4 e5 e6 e7 e8 e9 hcrc
          have hinput : input = (leBytes 4 magic ++ [version, phase, previousSlot, preparedSlot] ++
              leBytes 8 previousGeneration ++ leBytes 8 preparedGeneration ++ stringBytes targetScheduleId) ++
              leBytes 4 actual := by
            rw [e1, e2, e3, e4, e5, e6, e7, e8, e9, hrest]
            simp
          exact checked_of_last hactual hinput hcrc
        · cases h
      · cases h

lemma encodePointer_checked (activeSlot : SlotName) (generation : UInt64) : Checked (encodePointer activeSlot generation) :=
  ⟨_, rfl⟩

lemma encodeJournal_checked {journal : RecoveryJournal} {bytes : Bytes} (h : encodeJournal journal = .ok bytes) :
    Checked bytes := by
  unfold encodeJournal at h
  split at h
  · cases h
  · split at h
    · cases h
    · exact ⟨_, (Except.ok.inj h).symm⟩

/-- A pointer or a journal in which at most four consecutive bytes were changed is rejected. -/
theorem corrupted_commit_record_rejected (corrupted : Bytes) :
    (∀ (activeSlot : SlotName) (generation : UInt64), Burst 4 (encodePointer activeSlot generation) corrupted →
      ∃ error, decodePointer corrupted = .error error) ∧
    ∀ (journal : RecoveryJournal) (bytes : Bytes), encodeJournal journal = .ok bytes → Burst 4 bytes corrupted →
      ∃ error, decodeJournal corrupted = .error error := by
  constructor
  · intro activeSlot generation hburst
    cases hdecoded : decodePointer corrupted with
    | error error => exact ⟨error, rfl⟩
    | ok out =>
      exact absurd hburst ((encodePointer_checked activeSlot generation).not_burst (checked_of_decodePointer hdecoded))
  · intro journal bytes hbytes hburst
    cases hdecoded : decodeJournal corrupted with
    | error error => exact ⟨error, rfl⟩
    | ok out => exact absurd hburst ((encodeJournal_checked hbytes).not_burst (checked_of_decodeJournal hdecoded))

/-- A journal as `prepare` writes it for the first schedule. -/
def preparedJournal : RecoveryJournal where
  phase := .prepared
  targetScheduleId := ascii "s"
  preparedSlot := .A

theorem corrupted_commit_record_rejected_flipped :
    (Burst 4 (encodePointer .A 1) ((encodePointer .A 1).set 6 0) ∧
      ∃ error, decodePointer ((encodePointer .A 1).set 6 0) = .error error) ∧
    encodeJournal preparedJournal = .ok (journalBytes preparedJournal) ∧
      Burst 4 (journalBytes preparedJournal) ((journalBytes preparedJournal).set 24 2) ∧
      ∃ error, decodeJournal ((journalBytes preparedJournal).set 24 2) = .error error := by
  have hpointer : Burst 4 (encodePointer .A 1) ((encodePointer .A 1).set 6 0) :=
    ⟨(encodePointer .A 1).take 6, [1], [0], (encodePointer .A 1).drop 7, by decide +kernel, by decide +kernel, rfl, by decide,
      by decide⟩
  have hjournal : Burst 4 (journalBytes preparedJournal) ((journalBytes preparedJournal).set 24 2) :=
    ⟨(journalBytes preparedJournal).take 24, [1], [2], (journalBytes preparedJournal).drop 25, by decide +kernel,
      by decide +kernel, rfl, by decide, by decide⟩
  have hencoded : encodeJournal preparedJournal = .ok (journalBytes preparedJournal) :=
    encodeJournal_of_valid ⟨by decide, by decide, by decide⟩
  exact ⟨⟨hpointer, (corrupted_commit_record_rejected _).1 .A 1 hpointer⟩, hencoded, hjournal,
    (corrupted_commit_record_rejected _).2 preparedJournal _ hencoded hjournal⟩

/-! ### Slots -/

/-- An envelope by its fields, whether they fit together or not. -/
def envelopeOf (magic : Bytes) (envelope schema : UInt8) (generation length crc serialized : Bytes) : Bytes :=
  magic ++ (envelope :: schema :: (generation ++ (length ++ (crc ++ serialized))))

lemma slotEnvelope_eq (generation : UInt64) (serialized : Bytes) :
    slotEnvelope generation serialized = envelopeOf (leBytes 4 kConfigSlotMagic.toNat) kEnvelopeVersion kPayloadSchemaVersion
      (leBytes 8 generation.toNat) (leBytes 4 (UInt32.ofNat serialized.length).toNat) (leBytes 4 (crc32 serialized).toNat)
      serialized := by
  simp [slotEnvelope, envelopeOf]

lemma Reads.takeWord_leValue {width : Nat} (bytes : Bytes) (h : bytes.length = width) :
    Reads (takeWord width) bytes (leValue bytes) := by
  have hread := Reads.takeWord (leValue_lt bytes)
  rwa [leBytes_leValue, h] at hread

section Envelope

variable {magic generation length crc serialized : Bytes} {envelope schema : UInt8}

lemma set_envelopeOf (hmagic : magic.length = 4) (hgeneration : generation.length = 8) (hlength : length.length = 4)
    (hcrc : crc.length = 4) (index : Nat) (byte : UInt8) :
    (envelopeOf magic envelope schema generation length crc serialized).set index byte =
      if index < 4 then envelopeOf (magic.set index byte) envelope schema generation length crc serialized
      else if index = 4 then envelopeOf magic byte schema generation length crc serialized
      else if index = 5 then envelopeOf magic envelope byte generation length crc serialized
      else if index < 14 then envelopeOf magic envelope schema (generation.set (index - 6) byte) length crc serialized
      else if index < 18 then envelopeOf magic envelope schema generation (length.set (index - 14) byte) crc serialized
      else if index < 22 then envelopeOf magic envelope schema generation length (crc.set (index - 18) byte) serialized
      else envelopeOf magic envelope schema generation length crc (serialized.set (index - 22) byte) := by
  unfold envelopeOf
  split_ifs with h4 heq4 heq5 h14 h18 h22
  · exact List.set_append_left index byte (by omega)
  · rw [List.set_append_right index byte (by omega), heq4, hmagic]
    rfl
  · rw [List.set_append_right index byte (by omega), heq5, hmagic]
    rfl
  all_goals
    rw [List.set_append_right index byte (by omega), hmagic, show index - 4 = index - 6 + 2 from by omega,
      List.set_cons_succ, List.set_cons_succ]
  · rw [List.set_append_left _ byte (by omega)]
  all_goals
    rw [List.set_append_right _ byte (by omega), hgeneration, show index - 6 - 8 = index - 14 from by omega]
  · rw [List.set_append_left _ byte (by omega)]
  all_goals
    rw [List.set_append_right _ byte (by omega), hlength, show index - 14 - 4 = index - 18 from by omega]
  · rw [List.set_append_left _ byte (by omega)]
  · rw [List.set_append_right _ byte (by omega), hcrc, show index - 18 - 4 = index - 22 from by omega]

lemma readSlotHeader_envelopeOf (hmagic : magic.length = 4) (hgeneration : generation.length = 8) (hlength : length.length = 4)
    (hcrc : crc.length = 4) :
    readSlotHeader (envelopeOf magic envelope schema generation length crc serialized) =
      some (⟨UInt32.ofNat (leValue magic), envelope, schema, UInt64.ofNat (leValue generation), UInt32.ofNat (leValue length),
        UInt32.ofNat (leValue crc)⟩, serialized) := by
  have hreads : Reads readSlotHeader (magic ++ ([envelope] ++ ([schema] ++ (generation ++ (length ++ crc)))))
      ⟨UInt32.ofNat (leValue magic), envelope, schema, UInt64.ofNat (leValue generation), UInt32.ofNat (leValue length),
        UInt32.ofNat (leValue crc)⟩ := by
    refine Reads.bind (Reads.takeWord_leValue magic hmagic) ?_
    refine Reads.bind (Reads.takeByte _) (Reads.bind (Reads.takeByte _) ?_)
    refine Reads.bind (Reads.takeWord_leValue generation hgeneration) ?_
    refine Reads.bind (Reads.takeWord_leValue length hlength) ?_
    exact Reads.bind_last (Reads.takeWord_leValue crc hcrc) (Reads.pure _)
  have hrun := hreads serialized
  simp only [List.append_assoc, List.cons_append, List.nil_append] at hrun
  exact hrun

lemma leBytes_ofNat_leValue {width : Nat} {bytes : Bytes} {word : Nat} (h : bytes.length = width) (hword : word < 256 ^ width) :
    leValue bytes = word ↔ bytes = leBytes width word := by
  constructor
  · rintro rfl
    rw [← h, leBytes_leValue]
  · rintro rfl
    rw [leValue_leBytes, Nat.mod_eq_of_lt hword]

lemma word_eq_iff {bytes : Bytes} {word : UInt32} (h : bytes.length = 4) :
    UInt32.ofNat (leValue bytes) = word ↔ bytes = leBytes 4 word.toNat := by
  have hvalue : leValue bytes < UInt32.size := by
    have := leValue_lt bytes
    rwa [h] at this
  rw [← leBytes_ofNat_leValue h word.toNat_lt, ← UInt32.toNat_inj, UInt32.toNat_ofNat_of_lt' hvalue]

lemma longWord_eq_iff {bytes : Bytes} {word : UInt64} (h : bytes.length = 8) :
    UInt64.ofNat (leValue bytes) = word ↔ bytes = leBytes 8 word.toNat := by
  have hvalue : leValue bytes < UInt64.size := by
    have := leValue_lt bytes
    rwa [h] at this
  rw [← leBytes_ofNat_leValue h word.toNat_lt, ← UInt64.toNat_inj, UInt64.toNat_ofNat_of_lt' hvalue]

/-- What `decode_slot` asks of the fields, and what it returns. -/
lemma decodeSlot_envelopeOf (hmagic : magic.length = 4) (hgeneration : generation.length = 8) (hlength : length.length = 4)
    (hcrc : crc.length = 4) (out : ConfigPayload × UInt64) :
    decodeSlot (envelopeOf magic envelope schema generation length crc serialized) = .ok out ↔
      (magic = leBytes 4 kConfigSlotMagic.toNat ∧ envelope = kEnvelopeVersion ∧ validPayloadSchema schema = true ∧
        (UInt32.ofNat (leValue length)).toNat = serialized.length ∧ serialized.length ≤ kMaxConfigPayloadBytes) ∧
      crc = leBytes 4 (crc32 serialized).toNat ∧ deserializePayload serialized = .ok out.1 ∧
        out.2 = UInt64.ofNat (leValue generation) := by
  obtain ⟨payload, decoded⟩ := out
  rw [← word_eq_iff hmagic, ← word_eq_iff hcrc]
  unfold decodeSlot
  rw [readSlotHeader_envelopeOf hmagic hgeneration hlength hcrc]
  dsimp only
  split
  · next hbad =>
    constructor
    · exact fun h => nomatch h
    · rintro ⟨⟨h1, h2, h3, h4, h5⟩, -⟩
      simp [slotHeaderOk, h1, h2, h3, h4, h5] at hbad
  · next hgood =>
    have hfields : (((UInt32.ofNat (leValue magic) = kConfigSlotMagic ∧ envelope = kEnvelopeVersion) ∧
        validPayloadSchema schema = true) ∧ (UInt32.ofNat (leValue length)).toNat ≤ kMaxConfigPayloadBytes) ∧
        (UInt32.ofNat (leValue length)).toNat = serialized.length := by
      simpa [slotHeaderOk] using hgood
    obtain ⟨⟨⟨⟨h1, h2⟩, h3⟩, h4⟩, h5⟩ := hfields
    split
    · next hne =>
      constructor
      · exact fun h => nomatch h
      · rintro ⟨-, heq, -⟩
        exact absurd heq.symm hne
    · next heq =>
      rw [ne_eq, not_not] at heq
      split
      · next error herror =>
        constructor
        · exact fun h => nomatch h
        · rintro ⟨-, -, hok, -⟩
          rw [herror] at hok
          cases hok
      · next read hread =>
        rw [hread]
        constructor
        · intro h
          obtain ⟨rfl, rfl⟩ := Prod.mk.inj (Except.ok.inj h)
          exact ⟨⟨h1, h2, h3, h5, h5 ▸ h4⟩, heq.symm, rfl, rfl⟩
        · rintro ⟨-, -, hpayload, rfl⟩
          rw [Except.ok.inj hpayload]

end Envelope

/-- The corruption of a slot is rejected, or changes nothing. -/
def SlotCorruptionDetected (payload : ConfigPayload) (generation : UInt64) (corrupted : Bytes) : Prop :=
  (∃ error, decodeSlot corrupted = .error error) ∨ decodeSlot corrupted = .ok (payload, generation)

/-- The bytes of the generation, which no checksum covers. -/
def inGeneration (index : Nat) : Prop := 6 ≤ index ∧ index < 14

section Slot

variable {payload : ConfigPayload} {generation : UInt64} {corrupted : Bytes}

lemma slotCorruptionDetected_iff : SlotCorruptionDetected payload generation corrupted ↔
    ∀ out, decodeSlot corrupted = .ok out → out = (payload, generation) := by
  unfold SlotCorruptionDetected
  cases decodeSlot corrupted with
  | error error => simp
  | ok out => simp

lemma set_ne_burst {value : Bytes} {index : Nat} {byte : UInt8} (h : value.set index byte ≠ value) :
    Burst 4 value (value.set index byte) := by
  have hindex : index < value.length := by
    by_contra hbeyond
    exact h (List.set_eq_of_length_le (by omega))
  have hsplit : value = value.take index ++ [value[index]] ++ value.drop (index + 1) := by simp
  refine ⟨value.take index, [value[index]], [byte], value.drop (index + 1), hsplit, ?_, rfl, by simp, ?_⟩
  · rw [List.set_eq_take_append_cons_drop, if_pos hindex]
    simp
  · intro heq
    rw [List.singleton_inj] at heq
    exact h (by rw [← heq, List.set_getElem_self])

/-- Where payload and generation are the written ones, nothing else can come out. -/
lemma decoded_eq (h : validatePayload payload = .ok ()) {magic length crc : Bytes} {envelope schema : UInt8}
    (hmagic : magic.length = 4) (hlength : length.length = 4) (hcrc : crc.length = 4) {out : ConfigPayload × UInt64}
    (hout : decodeSlot (envelopeOf magic envelope schema (leBytes 8 generation.toNat) length crc (payloadBytes payload)) =
      .ok out) : out = (payload, generation) := by
  obtain ⟨-, -, hpayload, hgeneration⟩ := (decodeSlot_envelopeOf hmagic (by simp) hlength hcrc out).mp hout
  rw [deserializePayload_payloadBytes h] at hpayload
  have hword : UInt64.ofNat (leValue (leBytes 8 generation.toNat)) = generation := (longWord_eq_iff (by simp)).mpr rfl
  exact Prod.ext (Except.ok.inj hpayload).symm (hgeneration.trans hword)

lemma decoded_serialized_eq (h : validatePayload payload = .ok ()) {serialized : Bytes}
    (hchecked : crc32 serialized = crc32 (payloadBytes payload) → serialized = payloadBytes payload) {magic length : Bytes}
    {envelope schema : UInt8} (hmagic : magic.length = 4) (hlength : length.length = 4)
    {out : ConfigPayload × UInt64}
    (hout : decodeSlot (envelopeOf magic envelope schema (leBytes 8 generation.toNat) length
      (leBytes 4 (crc32 (payloadBytes payload)).toNat) serialized) = .ok out) : out = (payload, generation) := by
  obtain ⟨-, hcrc, -⟩ := (decodeSlot_envelopeOf hmagic (by simp) hlength (by simp) out).mp hout
  have hsame : crc32 (payloadBytes payload) = crc32 serialized :=
    ((word_eq_iff (by simp)).mpr rfl).symm.trans ((word_eq_iff (by simp)).mpr hcrc)
  rw [hchecked hsame.symm] at hout
  exact decoded_eq h hmagic hlength (by simp) hout

lemma envelopeOf_generation_inj {magic generation generation' length crc serialized : Bytes} {envelope schema : UInt8}
    (h : generation.length = generation'.length) :
    envelopeOf magic envelope schema generation length crc serialized =
      envelopeOf magic envelope schema generation' length crc serialized ↔ generation = generation' := by
  unfold envelopeOf
  rw [List.append_cancel_left_eq, List.cons.injEq, List.cons.injEq]
  constructor
  · rintro ⟨-, -, heq⟩
    exact (List.append_inj heq h).1
  · rintro rfl
    exact ⟨rfl, rfl, rfl⟩

/-- Nothing is asked of the bytes of the generation. -/
lemma decodeSlot_of_generation (h : validatePayload payload = .ok ()) (generation : UInt64) {generation' : Bytes}
    (hlength : generation'.length = 8) :
    decodeSlot (envelopeOf (leBytes 4 kConfigSlotMagic.toNat) kEnvelopeVersion kPayloadSchemaVersion generation'
      (leBytes 4 (UInt32.ofNat (payloadBytes payload).length).toNat) (leBytes 4 (crc32 (payloadBytes payload)).toNat)
      (payloadBytes payload)) = .ok (payload, UInt64.ofNat (leValue generation')) := by
  have hround := decodeSlot_slotEnvelope h generation
  rw [slotEnvelope_eq] at hround
  have hfields := (decodeSlot_envelopeOf (by simp) (by simp) (by simp) (by simp) (payload, generation)).mp hround
  exact (decodeSlot_envelopeOf (by simp) hlength (by simp) (by simp) _).mpr ⟨hfields.1, hfields.2.1, hfields.2.2.1, rfl⟩

/-- One changed byte of a slot is detected unless it belongs to the generation. -/
theorem slot_corruption_detected_iff (payload : ConfigPayload) (generation : UInt64) (h : validatePayload payload = .ok ()) :
    ∃ bytes, encodeSlot payload generation = .ok bytes ∧ ∀ (index : Nat) (byte : UInt8),
      SlotCorruptionDetected payload generation (bytes.set index byte) ↔
        (inGeneration index → bytes.set index byte = bytes) := by
  refine ⟨_, encodeSlot_of_valid h generation, fun index byte => ?_⟩
  rw [slotEnvelope_eq, slotCorruptionDetected_iff, set_envelopeOf (by simp) (by simp) (by simp) (by simp)]
  by_cases hindex : inGeneration index
  · obtain ⟨hfirst, hlast⟩ := hindex
    rw [if_neg (by omega), if_neg (by omega), if_neg (by omega), if_pos hlast]
    have hset : ((leBytes 8 generation.toNat).set (index - 6) byte).length = 8 := by simp
    rw [envelopeOf_generation_inj (by simp), ← longWord_eq_iff hset]
    constructor
    · intro hdetected _
      exact congrArg Prod.snd (hdetected _ (decodeSlot_of_generation h generation hset))
    · intro hsame out hout
      rw [(longWord_eq_iff hset).mp (hsame ⟨hfirst, hlast⟩)] at hout
      exact decoded_eq h (by simp) (by simp) (by simp) hout
  · refine ⟨fun _ hin => absurd hin hindex, fun _ out => ?_⟩
    split_ifs with h4 heq4 heq5 h14 h18 h22
    · exact decoded_eq h (by simp) (by simp) (by simp)
    · exact decoded_eq h (by simp) (by simp) (by simp)
    · exact decoded_eq h (by simp) (by simp) (by simp)
    · exact absurd ⟨by omega, h14⟩ hindex
    · exact decoded_eq h (by simp) (by simp) (by simp)
    · exact decoded_eq h (by simp) (by simp) (by simp)
    · refine decoded_serialized_eq h ?_ (by simp) (by simp)
      intro hcrc
      by_contra hne
      exact crc32_ne_of_burst (set_ne_burst hne) hcrc.symm

theorem slot_corruption_detected_iff_default : validatePayload {} = .ok () ∧
    ∃ bytes, encodeSlot {} 9 = .ok bytes ∧ ∀ (index : Nat) (byte : UInt8),
      SlotCorruptionDetected {} 9 (bytes.set index byte) ↔ (inGeneration index → bytes.set index byte = bytes) :=
  ⟨default_valid, slot_corruption_detected_iff {} 9 default_valid⟩

/-- A flipped bit of the generation goes unnoticed. -/
theorem corrupted_generation_accepted :
    ∃ bytes, encodeSlot {} 9 = .ok bytes ∧ decodeSlot (bytes.set 6 8) = .ok ({}, 8) ∧
      ¬ SlotCorruptionDetected {} 9 (bytes.set 6 8) := by
  have hdecoded : decodeSlot ((slotEnvelope 9 (payloadBytes {})).set 6 8) = .ok ({}, 8) := by
    rw [slotEnvelope_eq, set_envelopeOf (by simp) (by simp) (by simp) (by simp)]
    exact decodeSlot_of_generation default_valid 9 (rfl : ((leBytes 8 9).set 0 8).length = 8)
  refine ⟨_, encodeSlot_of_valid default_valid 9, hdecoded, ?_⟩
  rw [slotCorruptionDetected_iff]
  intro hdetected
  cases hdetected _ hdecoded

end Slot

end InkTime.Firmware
