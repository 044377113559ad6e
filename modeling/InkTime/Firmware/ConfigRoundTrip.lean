import InkTime.Firmware.ConfigCodec

/-!
# The configuration codec loses nothing

Writing a valid payload and reading it back is the identity, and at the current schema the reader
accepts nothing but what the writer produces. Older schemas are read into payloads that the writer
then keeps.
-/

namespace InkTime.Firmware
open WireFormat

/-! ### Strings and slots -/

def stringBytes (value : Bytes) : Bytes := leBytes 2 value.length ++ value

lemma appendString_of_le {value : Bytes} {maximum : Nat} (h : value.length ≤ maximum)
    (hmax : maximum ≤ 0xffff) : appendString value maximum = some (stringBytes value) := by
  have hsize : ¬(maximum < value.length ∨ 0xffff < value.length) := by omega
  rw [appendString, if_neg hsize, stringBytes]

lemma Reads.takeString {value : Bytes} {maximum : Nat} (h : value.length ≤ maximum)
    (hmax : maximum ≤ 0xffff) : Reads (takeString maximum) (stringBytes value) value := by
  unfold InkTime.Firmware.takeString stringBytes
  apply Reads.bind (Reads.takeWord (by norm_num; omega))
  exact Reads.guard_bind h (Reads.takeCount value)

lemma takeString_eq_some {maximum : Nat} {input : Bytes} {out : Bytes × Bytes}
    (h : takeString maximum input = some out) :
    input = stringBytes out.1 ++ out.2 ∧ out.1.length ≤ maximum := by
  obtain ⟨length, rest, hlength, h⟩ := reader_bind_eq_some h
  obtain ⟨_, rest', hguard, h⟩ := reader_bind_eq_some h
  obtain ⟨hinput, -⟩ := takeWord_eq_some hlength
  obtain ⟨hle, hrest⟩ := guard_eq_some hguard
  obtain ⟨hbytes, hlen⟩ := takeCount_eq_some h
  dsimp only at hinput hrest
  subst hrest hlen
  refine ⟨?_, hle⟩
  rw [stringBytes, List.append_assoc, ← hbytes, hinput]

lemma Reads.takeSlots (slots : List ScheduleSlot) :
    Reads (takeSlots slots.length) (slotBytes slots) slots := by
  induction slots with
  | nil => exact Reads.pure []
  | cons slot slots ih =>
    have htail : Reads (InkTime.Firmware.takeSlots slots.length >>= fun rest => pure (slot :: rest)) (slotBytes slots)
        (slot :: slots) := Reads.bind_last ih (Reads.pure _)
    exact (Reads.takeByte slot.hour).bind ((Reads.takeByte slot.minute).bind htail)

lemma takeSlots_eq_some {count : Nat} {input : Bytes} {out : List ScheduleSlot × Bytes}
    (h : takeSlots count input = some out) :
    input = slotBytes out.1 ++ out.2 ∧ out.1.length = count := by
  induction count generalizing input out with
  | zero =>
    obtain rfl := Option.some.inj h
    exact ⟨rfl, rfl⟩
  | succ count ih =>
    obtain ⟨hour, rest1, hhour, h⟩ := reader_bind_eq_some h
    obtain ⟨minute, rest2, hminute, h⟩ := reader_bind_eq_some h
    obtain ⟨slots, rest3, hslots, h⟩ := reader_bind_eq_some h
    obtain rfl := Option.some.inj h
    obtain ⟨htail, hlen⟩ := ih hslots
    have h1 := takeByte_eq_some hhour
    have h2 := takeByte_eq_some hminute
    dsimp only at h1 h2 htail hlen
    refine ⟨?_, by simp [hlen]⟩
    rw [h1, h2, htail]
    rfl

lemma padSlots_toList (slots : Vector ScheduleSlot kMaxConfigSlots) : padSlots slots.toList = slots := by
  apply Vector.ext
  intro index hindex
  simp [padSlots]

lemma padSlots_full {slots : List ScheduleSlot} (h : slots.length = kMaxConfigSlots) :
    (padSlots slots).toList = slots := by
  apply List.ext_getElem
  · simp [h]
  · intro index h1 h2
    simp [padSlots, h2]

/-! ### What validation grants -/

structure PayloadSizes (payload : ConfigPayload) : Prop where
  wifiSsid : payload.wifiSsid.length ≤ kMaxWifiSsidBytes
  wifiPass : payload.wifiPass.length ≤ kMaxWifiPasswordBytes
  backendHostport : payload.backendHostport.length ≤ kMaxBackendHostportBytes
  caPem : payload.caPem.length ≤ kMaxCaPemBytes
  deviceToken : payload.deviceToken.length ≤ kMaxDeviceTokenBytes
  deviceSecret : payload.deviceSecret.length ≤ kMaxDeviceSecretBytes
  deviceId : payload.deviceId.length ≤ kMaxDeviceIdBytes
  authState : payload.authState.length ≤ kMaxAuthStateBytes
  pairingId : payload.pairingId.length ≤ kMaxPairingIdBytes
  pairingNonce : payload.pairingNonce.length ≤ kMaxPairingNonceBytes
  deliveryMode : payload.deliveryMode.length ≤ kMaxDeliveryModeBytes
  buttonWakeAction : payload.buttonWakeAction.length ≤ kMaxButtonWakeActionBytes
  syncStrategy : payload.syncStrategy.length ≤ kMaxSyncStrategyBytes
  syncTime : payload.syncTime.length ≤ kMaxSyncTimeBytes

lemma validatePayload_eq_ok {payload : ConfigPayload} : validatePayload payload = .ok () ↔
    payloadSizesOk payload = true ∧ payloadFieldsOk payload = true ∧ payloadPairingOk payload = true ∧
      payloadSlotsOk payload = true := by
  unfold validatePayload
  cases payloadSizesOk payload <;> cases payloadFieldsOk payload <;> cases payloadPairingOk payload <;>
    cases payloadSlotsOk payload <;> simp

lemma validatePayload_sizes {payload : ConfigPayload} (h : validatePayload payload = .ok ()) :
    PayloadSizes payload := by
  obtain ⟨hsizes, -, -, -⟩ := validatePayload_eq_ok.mp h
  simp only [payloadSizesOk, Bool.and_eq_true, decide_eq_true_eq] at hsizes
  obtain ⟨⟨⟨⟨⟨⟨⟨⟨⟨⟨⟨⟨⟨h1, h2⟩, h3⟩, h4⟩, h5⟩, h6⟩, h7⟩, h8⟩, h9⟩, h10⟩, h11⟩, h12⟩, h13⟩, h14⟩ := hsizes
  exact ⟨h1, h2, h3, h4, h5, h6, h7, h8, h9, h10, h11, h12, h13, h14⟩

lemma validatePayload_count {payload : ConfigPayload} (h : validatePayload payload = .ok ()) :
    payload.scheduleCount ≠ 0 ∧ payload.scheduleCount.toNat ≤ kMaxConfigSlots := by
  obtain ⟨-, hfields, -, -⟩ := validatePayload_eq_ok.mp h
  simp only [payloadFieldsOk, Bool.and_eq_true, decide_eq_true_eq, bne_iff_ne] at hfields
  exact ⟨hfields.1.1.1.1.1.1.2, hfields.1.1.1.1.1.2⟩

/-! ### Writing -/

/-- The current layout, one field after the other. -/
def payloadBytes (payload : ConfigPayload) : Bytes :=
  [kPayloadSchemaVersion] ++ (stringBytes payload.wifiSsid ++ (stringBytes payload.wifiPass ++
  (stringBytes payload.backendHostport ++ (stringBytes payload.caPem ++
  (stringBytes payload.deviceToken ++ (leBytes 4 payload.tzOffsetMinutes.toUInt32.toNat ++
  ([payload.refreshHour] ++ ([payload.refreshMinute] ++
  ([if payload.rotate180 then 1 else 0] ++ ([payload.scheduleCount] ++
  (leBytes 2 payload.prefetchLeadMinutes.toNat ++ (stringBytes payload.deliveryMode ++
  (stringBytes payload.buttonWakeAction ++
  ((stringBytes payload.syncStrategy ++ stringBytes payload.syncTime) ++
  ((stringBytes payload.deviceSecret ++ (stringBytes payload.deviceId ++ stringBytes payload.authState)) ++
  ((stringBytes payload.pairingId ++ stringBytes payload.pairingNonce) ++
  (leBytes 4 payload.configVersion.toNat ++ (leBytes 4 payload.credentialVersion.toNat ++
  ((leBytes 8 payload.pairingExpiresAtEpoch.toNat ++ (leBytes 8 payload.pairingRetryAtEpoch.toNat ++
    [payload.pairingRetryAttempt])) ++
  slotBytes payload.scheduleSlots.toList)))))))))))))))))))

lemma slotBytes_length (slots : List ScheduleSlot) : (slotBytes slots).length = 2 * slots.length := by
  induction slots with
  | nil => rfl
  | cons slot slots ih =>
    simp only [slotBytes, List.flatMap_cons, List.length_append, List.length_cons, List.length_nil] at ih ⊢
    omega

lemma payloadBytes_length_le {payload : ConfigPayload} (h : PayloadSizes payload) :
    (payloadBytes payload).length ≤ 6308 := by
  obtain ⟨h1, h2, h3, h4, h5, h6, h7, h8, h9, h10, h11, h12, h13, h14⟩ := h
  simp only [payloadBytes, stringBytes, List.length_append, leBytes_length, List.length_cons,
    List.length_nil, slotBytes_length, Vector.length_toList]
  simp only [kMaxWifiSsidBytes, kMaxWifiPasswordBytes, kMaxBackendHostportBytes, kMaxCaPemBytes,
    kMaxDeviceTokenBytes, kMaxDeviceSecretBytes, kMaxDeviceIdBytes, kMaxAuthStateBytes,
    kMaxPairingIdBytes, kMaxPairingNonceBytes, kMaxDeliveryModeBytes, kMaxButtonWakeActionBytes,
    kMaxSyncStrategyBytes, kMaxSyncTimeBytes] at h1 h2 h3 h4 h5 h6 h7 h8 h9 h10 h11 h12 h13 h14
  have hslots : kMaxConfigSlots = 24 := rfl
  linarith

lemma appendStrings_of_le (values : List (Bytes × Nat))
    (h : ∀ entry ∈ values, entry.1.length ≤ entry.2 ∧ entry.2 ≤ 0xffff) :
    appendStrings values = .ok (values.flatMap fun entry => stringBytes entry.1) := by
  induction values with
  | nil => rfl
  | cons entry values ih =>
    obtain ⟨hle, hmax⟩ := h entry (by simp)
    have htail := ih fun other hother => h other (by simp [hother])
    rw [appendStrings, appendString_of_le hle hmax, htail]
    rfl

lemma serializePayload_of_valid {payload : ConfigPayload} (h : validatePayload payload = .ok ()) :
    serializePayload payload = .ok (payloadBytes payload) := by
  have hs := validatePayload_sizes h
  have hlen := payloadBytes_length_le hs
  have hfits : ¬kMaxConfigPayloadBytes < (payloadBytes payload).length := by
    unfold kMaxConfigPayloadBytes
    omega
  unfold serializePayload
  rw [h, appendStrings_of_le, appendStrings_of_le]
  · simp only [bind, Except.bind, List.flatMap_cons, List.flatMap_nil, List.append_nil,
      List.append_assoc, List.cons_append, List.nil_append]
    simp only [payloadBytes, List.append_assoc, List.cons_append, List.nil_append] at hfits ⊢
    rw [if_neg hfits]
  · simp only [List.forall_mem_cons, List.not_mem_nil, false_implies, implies_true, and_true]
    exact ⟨⟨hs.deliveryMode, by decide⟩, ⟨hs.buttonWakeAction, by decide⟩, ⟨hs.syncStrategy, by decide⟩,
      ⟨hs.syncTime, by decide⟩, ⟨hs.deviceSecret, by decide⟩, ⟨hs.deviceId, by decide⟩,
      ⟨hs.authState, by decide⟩, ⟨hs.pairingId, by decide⟩, ⟨hs.pairingNonce, by decide⟩⟩
  · simp only [List.forall_mem_cons, List.not_mem_nil, false_implies, implies_true, and_true]
    exact ⟨⟨hs.wifiSsid, by decide⟩, ⟨hs.wifiPass, by decide⟩, ⟨hs.backendHostport, by decide⟩,
      ⟨hs.caPem, by decide⟩, ⟨hs.deviceToken, by decide⟩⟩

/-! ### Reading back -/

lemma Reads.takeSync {strategy time : Bytes} (hs : strategy.length ≤ kMaxSyncStrategyBytes)
    (ht : time.length ≤ kMaxSyncTimeBytes) :
    Reads (takeSync kPayloadSchemaVersion) (stringBytes strategy ++ stringBytes time) (strategy, time) :=
  Reads.bind (Reads.takeString hs (by decide))
    (Reads.bind_last (Reads.takeString ht (by decide)) (Reads.pure _))

lemma Reads.takeIdentity {secret deviceId authState token : Bytes} (h1 : secret.length ≤ kMaxDeviceSecretBytes)
    (h2 : deviceId.length ≤ kMaxDeviceIdBytes) (h3 : authState.length ≤ kMaxAuthStateBytes) :
    Reads (takeIdentity kPayloadSchemaVersion token)
      (stringBytes secret ++ (stringBytes deviceId ++ stringBytes authState)) (secret, deviceId, authState) :=
  Reads.bind (Reads.takeString h1 (by decide)) (Reads.bind (Reads.takeString h2 (by decide))
    (Reads.bind_last (Reads.takeString h3 (by decide)) (Reads.pure _)))

lemma Reads.takePairing {pairingId nonce : Bytes} (h1 : pairingId.length ≤ kMaxPairingIdBytes)
    (h2 : nonce.length ≤ kMaxPairingNonceBytes) :
    Reads (takePairing kPayloadSchemaVersion) (stringBytes pairingId ++ stringBytes nonce)
      (pairingId, nonce) :=
  Reads.bind (Reads.takeString h1 (by decide))
    (Reads.bind_last (Reads.takeString h2 (by decide)) (Reads.pure _))

lemma Reads.takePairingRetry (expires retryAt : UInt64) (attempt : UInt8) :
    Reads (takePairingRetry kPayloadSchemaVersion)
      (leBytes 8 expires.toNat ++ (leBytes 8 retryAt.toNat ++ [attempt]))
      (expires.toNat, retryAt.toNat, attempt) :=
  Reads.bind (Reads.takeWord expires.toNat_lt) (Reads.bind (Reads.takeWord retryAt.toNat_lt)
    (Reads.bind_last (Reads.takeByte attempt) (Reads.pure _)))

/-- A valid payload is read back field by field from the bytes written for it. -/
theorem readPayload_payloadBytes {payload : ConfigPayload} (h : validatePayload payload = .ok ()) :
    Reads readPayload (payloadBytes payload) payload := by
  have hs := validatePayload_sizes h
  have hcount := validatePayload_count h
  have hslots := Reads.takeSlots payload.scheduleSlots.toList
  rw [Vector.length_toList] at hslots
  unfold readPayload payloadBytes
  refine Reads.bind (Reads.takeByte _) (Reads.guard_bind (by decide) ?_)
  refine Reads.bind (Reads.takeString hs.wifiSsid (by decide)) ?_
  refine Reads.bind (Reads.takeString hs.wifiPass (by decide)) ?_
  refine Reads.bind (Reads.takeString hs.backendHostport (by decide)) ?_
  refine Reads.bind (Reads.takeString hs.caPem (by decide)) ?_
  refine Reads.bind (Reads.takeString hs.deviceToken (by decide)) ?_
  refine Reads.bind (Reads.takeWord payload.tzOffsetMinutes.toUInt32.toNat_lt) ?_
  refine Reads.bind (Reads.takeByte _) (Reads.bind (Reads.takeByte _) (Reads.bind (Reads.takeByte _) ?_))
  refine Reads.guard_bind (by cases payload.rotate180 <;> decide) ?_
  refine Reads.bind (Reads.takeByte _) (Reads.bind (Reads.takeWord payload.prefetchLeadMinutes.toNat_lt) ?_)
  refine Reads.bind (Reads.takeString hs.deliveryMode (by decide)) ?_
  refine Reads.bind (Reads.takeString hs.buttonWakeAction (by decide)) ?_
  refine Reads.bind (Reads.takeSync hs.syncStrategy hs.syncTime) ?_
  refine Reads.bind (Reads.takeIdentity hs.deviceSecret hs.deviceId hs.authState) ?_
  refine Reads.bind (Reads.takePairing hs.pairingId hs.pairingNonce) ?_
  refine Reads.bind (Reads.takeWord payload.configVersion.toNat_lt) ?_
  refine Reads.bind (Reads.takeWord payload.credentialVersion.toNat_lt) ?_
  refine Reads.bind (Reads.takePairingRetry _ _ _) (Reads.guard_bind hcount ?_)
  refine Reads.bind_last hslots ?_
  have hrotate : ((if payload.rotate180 then 1 else 0 : UInt8) != 0) = payload.rotate180 := by
    cases payload.rotate180 <;> rfl
  simp only [UInt32.ofNat_toNat, UInt64.ofNat_toNat, UInt16.ofNat_toNat, hrotate, padSlots_toList]
  exact Reads.pure payload

theorem deserializePayload_payloadBytes {payload : ConfigPayload} (h : validatePayload payload = .ok ()) :
    deserializePayload (payloadBytes payload) = .ok payload := by
  have hread := readPayload_payloadBytes h []
  rw [List.append_nil] at hread
  simp only [deserializePayload, hread, h]
  rfl

/-! ### The current schema is canonical -/

lemma takeSync_eq_some {input : Bytes} {out : (Bytes × Bytes) × Bytes}
    (h : takeSync kPayloadSchemaVersion input = some out) :
    input = (stringBytes out.1.1 ++ stringBytes out.1.2) ++ out.2 := by
  obtain ⟨strategy, rest1, h1, h⟩ := reader_bind_eq_some h
  obtain ⟨time, rest2, h2, h⟩ := reader_bind_eq_some h
  obtain rfl := Option.some.inj h
  rw [(takeString_eq_some h1).1, (takeString_eq_some h2).1, List.append_assoc]

lemma takeIdentity_eq_some {token input : Bytes} {out : (Bytes × Bytes × Bytes) × Bytes}
    (h : takeIdentity kPayloadSchemaVersion token input = some out) :
    input = (stringBytes out.1.1 ++ (stringBytes out.1.2.1 ++ stringBytes out.1.2.2)) ++ out.2 := by
  obtain ⟨secret, rest1, h1, h⟩ := reader_bind_eq_some h
  obtain ⟨deviceId, rest2, h2, h⟩ := reader_bind_eq_some h
  obtain ⟨authState, rest3, h3, h⟩ := reader_bind_eq_some h
  obtain rfl := Option.some.inj h
  rw [(takeString_eq_some h1).1, (takeString_eq_some h2).1, (takeString_eq_some h3).1, List.append_assoc,
    List.append_assoc]

lemma takePairing_eq_some {input : Bytes} {out : (Bytes × Bytes) × Bytes}
    (h : takePairing kPayloadSchemaVersion input = some out) :
    input = (stringBytes out.1.1 ++ stringBytes out.1.2) ++ out.2 := by
  obtain ⟨pairingId, rest1, h1, h⟩ := reader_bind_eq_some h
  obtain ⟨nonce, rest2, h2, h⟩ := reader_bind_eq_some h
  obtain rfl := Option.some.inj h
  rw [(takeString_eq_some h1).1, (takeString_eq_some h2).1, List.append_assoc]

lemma takePairingRetry_eq_some {input : Bytes} {out : (Nat × Nat × UInt8) × Bytes}
    (h : takePairingRetry kPayloadSchemaVersion input = some out) :
    input = (leBytes 8 out.1.1 ++ (leBytes 8 out.1.2.1 ++ [out.1.2.2])) ++ out.2 ∧
      out.1.1 < 256 ^ 8 ∧ out.1.2.1 < 256 ^ 8 := by
  obtain ⟨expires, rest1, h1, h⟩ := reader_bind_eq_some h
  obtain ⟨retryAt, rest2, h2, h⟩ := reader_bind_eq_some h
  obtain ⟨attempt, rest3, h3, h⟩ := reader_bind_eq_some h
  obtain rfl := Option.some.inj h
  refine ⟨?_, (takeWord_eq_some h1).2, (takeWord_eq_some h2).2⟩
  rw [(takeWord_eq_some h1).1, (takeWord_eq_some h2).1, takeByte_eq_some h3, List.append_assoc,
    List.append_assoc]
  rfl

/-- At the current schema the reader accepts exactly the bytes the writer produces. -/
theorem readPayload_canonical {input : Bytes} {out : ConfigPayload × Bytes}
    (hschema : input.head? = some kPayloadSchemaVersion) (h : readPayload input = some out) :
    input = payloadBytes out.1 ++ out.2 := by
  obtain ⟨schema, r1, h1, h⟩ := reader_bind_eq_some h
  have e1 := takeByte_eq_some h1
  have hcurrent : schema = kPayloadSchemaVersion := by simpa [e1] using hschema
  subst hcurrent
  obtain ⟨_, r2, h2, h⟩ := reader_bind_eq_some h
  obtain ⟨wifiSsid, r3, h3, h⟩ := reader_bind_eq_some h
  obtain ⟨wifiPass, r4, h4, h⟩ := reader_bind_eq_some h
  obtain ⟨backendHostport, r5, h5, h⟩ := reader_bind_eq_some h
  obtain ⟨caPem, r6, h6, h⟩ := reader_bind_eq_some h
  obtain ⟨deviceToken, r7, h7, h⟩ := reader_bind_eq_some h
  obtain ⟨tzOffset, r8, h8, h⟩ := reader_bind_eq_some h
  obtain ⟨refreshHour, r9, h9, h⟩ := reader_bind_eq_some h
  obtain ⟨refreshMinute, r10, h10, h⟩ := reader_bind_eq_some h
  obtain ⟨rotate, r11, h11, h⟩ := reader_bind_eq_some h
  obtain ⟨_, r12, h12, h⟩ := reader_bind_eq_some h
  obtain ⟨scheduleCount, r13, h13, h⟩ := reader_bind_eq_some h
  obtain ⟨prefetchLead, r14, h14, h⟩ := reader_bind_eq_some h
  obtain ⟨deliveryMode, r15, h15, h⟩ := reader_bind_eq_some h
  obtain ⟨buttonWakeAction, r16, h16, h⟩ := reader_bind_eq_some h
  obtain ⟨sync, r17, h17, h⟩ := reader_bind_eq_some h
  obtain ⟨identity, r18, h18, h⟩ := reader_bind_eq_some h
  obtain ⟨pairing, r19, h19, h⟩ := reader_bind_eq_some h
  obtain ⟨configVersion, r20, h20, h⟩ := reader_bind_eq_some h
  obtain ⟨credentialVersion, r21, h21, h⟩ := reader_bind_eq_some h
  obtain ⟨retry, r22, h22, h⟩ := reader_bind_eq_some h
  obtain ⟨_, r23, h23, h⟩ := reader_bind_eq_some h
  obtain ⟨slots, r24, h24, h⟩ := reader_bind_eq_some h
  obtain rfl := Option.some.inj h
  obtain ⟨-, e2⟩ := guard_eq_some h2
  obtain ⟨hrotate, e12⟩ := guard_eq_some h12
  obtain ⟨-, e23⟩ := guard_eq_some h23
  obtain ⟨e8, b8⟩ := takeWord_eq_some h8
  obtain ⟨e14, b14⟩ := takeWord_eq_some h14
  obtain ⟨e20, b20⟩ := takeWord_eq_some h20
  obtain ⟨e21, b21⟩ := takeWord_eq_some h21
  obtain ⟨e22, b22, b22'⟩ := takePairingRetry_eq_some h22
  obtain ⟨e24, hslots⟩ := takeSlots_eq_some h24
  have hrotate' : (if rotate != 0 then 1 else 0 : UInt8) = rotate := by
    rcases hrotate with rfl | rfl <;> rfl
  have htz : (UInt32.ofNat tzOffset).toInt32.toUInt32.toNat = tzOffset := UInt32.toNat_ofNat_of_lt b8
  have hlead : (UInt16.ofNat prefetchLead).toNat = prefetchLead := UInt16.toNat_ofNat_of_lt b14
  have hversion : (UInt32.ofNat configVersion).toNat = configVersion := UInt32.toNat_ofNat_of_lt b20
  have hcredential : (UInt32.ofNat credentialVersion).toNat = credentialVersion :=
    UInt32.toNat_ofNat_of_lt b21
  have hexpires : (UInt64.ofNat retry.1).toNat = retry.1 := UInt64.toNat_ofNat_of_lt b22
  have hretry : (UInt64.ofNat retry.2.1).toNat = retry.2.1 := UInt64.toNat_ofNat_of_lt b22'
  simp only [payloadBytes, padSlots_full hslots, htz, hlead, hversion, hcredential, hexpires, hretry,
    hrotate', List.append_assoc, List.singleton_append]
  dsimp only at e2 e12 e23
  subst e2 e12 e23
  rw [e1, (takeString_eq_some h3).1, (takeString_eq_some h4).1, (takeString_eq_some h5).1,
    (takeString_eq_some h6).1, (takeString_eq_some h7).1, e8, takeByte_eq_some h9, takeByte_eq_some h10,
    takeByte_eq_some h11, takeByte_eq_some h13, e14, (takeString_eq_some h15).1,
    (takeString_eq_some h16).1, takeSync_eq_some h17, takeIdentity_eq_some h18, takePairing_eq_some h19,
    e20, e21, e22, e24]
  simp only [List.append_assoc, List.cons_append, List.nil_append]

/-- An accepted input left no bytes behind and passed validation. -/
lemma deserializePayload_eq_ok {input : Bytes} {payload : ConfigPayload}
    (h : deserializePayload input = .ok payload) :
    readPayload input = some (payload, []) ∧ validatePayload payload = .ok () := by
  unfold deserializePayload at h
  split at h
  · cases h
  · rename_i value rest hread
    split at h
    · cases h
    · rename_i hrest
      have hrest' : rest = [] := by simpa using hrest
      cases hv : validatePayload value with
      | error text =>
        rw [hv] at h
        cases h
      | ok _ =>
        rw [hv] at h
        obtain rfl := Except.ok.inj h
        exact ⟨by rw [hread, hrest'], hv⟩

/-! ### Slot envelope -/

theorem encodeSlot_of_valid {payload : ConfigPayload} (h : validatePayload payload = .ok ())
    (generation : UInt64) :
    encodeSlot payload generation = .ok (slotEnvelope generation (payloadBytes payload)) := by
  have hlen := payloadBytes_length_le (validatePayload_sizes h)
  have hfits : (slotEnvelope generation (payloadBytes payload)).length ≤ kMaxConfigPayloadBytes + 32 := by
    simp only [slotEnvelope, List.length_append, leBytes_length, List.length_cons, List.length_nil]
    unfold kMaxConfigPayloadBytes
    omega
  unfold encodeSlot
  rw [serializePayload_of_valid h]
  simp only [bind, Except.bind]
  rw [if_pos hfits]

lemma readSlotHeader_slotEnvelope (generation : UInt64) (serialized : Bytes) :
    readSlotHeader (slotEnvelope generation serialized) =
      some (⟨kConfigSlotMagic, kEnvelopeVersion, kPayloadSchemaVersion, generation,
        UInt32.ofNat serialized.length, crc32 serialized⟩, serialized) := by
  have hreads : Reads readSlotHeader
      (leBytes 4 kConfigSlotMagic.toNat ++ ([kEnvelopeVersion] ++ ([kPayloadSchemaVersion] ++
        (leBytes 8 generation.toNat ++ (leBytes 4 (UInt32.ofNat serialized.length).toNat ++
          leBytes 4 (crc32 serialized).toNat)))))
      ⟨kConfigSlotMagic, kEnvelopeVersion, kPayloadSchemaVersion, generation,
        UInt32.ofNat serialized.length, crc32 serialized⟩ := by
    refine Reads.bind (Reads.takeWord kConfigSlotMagic.toNat_lt) ?_
    refine Reads.bind (Reads.takeByte _) (Reads.bind (Reads.takeByte _) ?_)
    refine Reads.bind (Reads.takeWord generation.toNat_lt) ?_
    refine Reads.bind (Reads.takeWord (UInt32.toNat_lt _)) ?_
    refine Reads.bind_last (Reads.takeWord (UInt32.toNat_lt _)) ?_
    simp only [UInt32.ofNat_toNat, UInt64.ofNat_toNat]
    exact Reads.pure _
  have hrun := hreads serialized
  simp only [List.append_assoc, List.cons_append, List.nil_append] at hrun
  simp only [slotEnvelope, List.append_assoc, List.cons_append, List.nil_append]
  exact hrun

theorem decodeSlot_slotEnvelope {payload : ConfigPayload} (h : validatePayload payload = .ok ())
    (generation : UInt64) :
    decodeSlot (slotEnvelope generation (payloadBytes payload)) = .ok (payload, generation) := by
  have hlen := payloadBytes_length_le (validatePayload_sizes h)
  have hword : (UInt32.ofNat (payloadBytes payload).length).toNat = (payloadBytes payload).length := by
    apply UInt32.toNat_ofNat_of_lt
    show _ < 4294967296
    omega
  have hok : slotHeaderOk ⟨kConfigSlotMagic, kEnvelopeVersion, kPayloadSchemaVersion, generation,
      UInt32.ofNat (payloadBytes payload).length, crc32 (payloadBytes payload)⟩
      (payloadBytes payload) = true := by
    have hmax : (payloadBytes payload).length ≤ kMaxConfigPayloadBytes := by
      unfold kMaxConfigPayloadBytes
      omega
    simp only [slotHeaderOk, hword, hmax, beq_self_eq_true, decide_true, Bool.and_true, Bool.true_and]
    decide
  simp only [decodeSlot, readSlotHeader_slotEnvelope, hok, deserializePayload_payloadBytes h,
    Bool.not_true, Bool.false_eq_true, if_false, ne_eq, not_true_eq_false]

/-- Every valid payload survives its slot at every generation, and every payload accepted from any
schema survives being rewritten at the current one; current bytes are rewritten unchanged. -/
theorem config_codec_lossless :
    (∀ (payload : ConfigPayload) (generation : UInt64), validatePayload payload = .ok () →
      ∃ bytes, encodeSlot payload generation = .ok bytes ∧ decodeSlot bytes = .ok (payload, generation)) ∧
    ∀ (input : Bytes) (payload : ConfigPayload), deserializePayload input = .ok payload →
      ∃ output, serializePayload payload = .ok output ∧ deserializePayload output = .ok payload ∧
        (input.head? = some kPayloadSchemaVersion → output = input) := by
  constructor
  · intro payload generation h
    exact ⟨_, encodeSlot_of_valid h generation, decodeSlot_slotEnvelope h generation⟩
  · intro input payload h
    obtain ⟨hread, hvalid⟩ := deserializePayload_eq_ok h
    refine ⟨_, serializePayload_of_valid hvalid, deserializePayload_payloadBytes hvalid, ?_⟩
    intro hschema
    have hinput := readPayload_canonical hschema hread
    rw [List.append_nil] at hinput
    exact hinput.symm

lemma default_valid : validatePayload {} = .ok () := by decide

/-- A paired device as schema 1 stores it, with two of the twelve slots in use. -/
def firstSchemaBytes : Bytes :=
  [1] ++ stringBytes (ascii "home") ++ stringBytes (ascii "secret") ++ stringBytes (ascii "10.0.0.2:8765") ++
    stringBytes [] ++ stringBytes (ascii "token") ++ leBytes 4 540 ++ [8, 0, 1, 2] ++ leBytes 2 15 ++
    stringBytes (ascii "inktime_offline_schedule") ++ stringBytes (ascii "local_next") ++ leBytes 4 7 ++
    slotBytes (⟨8, 0⟩ :: ⟨20, 30⟩ :: List.replicate 10 {})

/-- The same device at the current schema. -/
def migratedPayload : ConfigPayload :=
  { wifiSsid := ascii "home", wifiPass := ascii "secret", backendHostport := ascii "10.0.0.2:8765",
    deviceToken := ascii "token", authState := ascii "paired", tzOffsetMinutes := 540, rotate180 := true,
    scheduleSlots := padSlots [⟨8, 0⟩, ⟨20, 30⟩], scheduleCount := 2, prefetchLeadMinutes := 15,
    deliveryMode := ascii "inktime_offline_schedule", buttonWakeAction := ascii "local_next", configVersion := 7 }

lemma migrated_valid : validatePayload migratedPayload = .ok () := by decide

lemma deserializePayload_firstSchemaBytes : deserializePayload firstSchemaBytes = .ok migratedPayload := by
  decide +kernel

theorem config_codec_lossless_migrated :
    (∃ bytes, encodeSlot migratedPayload 41 = .ok bytes ∧ decodeSlot bytes = .ok (migratedPayload, 41)) ∧
    (∃ output, serializePayload migratedPayload = .ok output ∧ deserializePayload output = .ok migratedPayload ∧
      (firstSchemaBytes.head? = some kPayloadSchemaVersion → output = firstSchemaBytes)) ∧
    ∃ output, serializePayload migratedPayload = .ok output ∧ deserializePayload output = .ok migratedPayload ∧
      ((payloadBytes migratedPayload).head? = some kPayloadSchemaVersion → output = payloadBytes migratedPayload) :=
  ⟨config_codec_lossless.1 migratedPayload 41 migrated_valid,
    config_codec_lossless.2 firstSchemaBytes migratedPayload deserializePayload_firstSchemaBytes,
    config_codec_lossless.2 (payloadBytes migratedPayload) migratedPayload
      (deserializePayload_payloadBytes migrated_valid)⟩

/-! ### Pointer and journal -/

lemma slotNameOfCode_code (slot : SlotName) : slotNameOfCode slot.code = some slot := by
  cases slot <;> rfl

theorem decodePointer_encodePointer (slot : SlotName) (generation : UInt64) :
    decodePointer (encodePointer slot generation) = .ok (slot, generation) := by
  let body := leBytes 4 kConfigPointerMagic.toNat ++ [kPointerVersion, slot.code] ++
    leBytes 8 generation.toNat
  have hbody : body.length = 14 := by simp [body]
  have hreads : Reads readPointerFields
      (leBytes 4 kConfigPointerMagic.toNat ++ ([kPointerVersion] ++ ([slot.code] ++
        (leBytes 8 generation.toNat ++ leBytes 4 (crc32 body).toNat))))
      ⟨kConfigPointerMagic, kPointerVersion, slot.code, generation, crc32 body⟩ := by
    refine Reads.bind (Reads.takeWord kConfigPointerMagic.toNat_lt) ?_
    refine Reads.bind (Reads.takeByte _) (Reads.bind (Reads.takeByte _) ?_)
    refine Reads.bind (Reads.takeWord generation.toNat_lt) ?_
    refine Reads.bind_last (Reads.takeWord (UInt32.toNat_lt _)) ?_
    simp only [UInt32.ofNat_toNat, UInt64.ofNat_toNat]
    exact Reads.pure _
  have hencoded : encodePointer slot generation = body ++ leBytes 4 (crc32 body).toNat := rfl
  have hread : readPointerFields (encodePointer slot generation) =
      some (⟨kConfigPointerMagic, kPointerVersion, slot.code, generation, crc32 body⟩, []) := by
    have hrun := hreads []
    rw [List.append_nil] at hrun
    rw [hencoded, ← hrun]
    simp only [body, List.append_assoc, List.cons_append, List.nil_append]
  have hlen : (encodePointer slot generation).length = 18 := by simp [hencoded, hbody]
  have hcrc : (encodePointer slot generation).take 14 = body := by
    rw [hencoded, List.take_append_of_le_length (by omega), ← hbody, List.take_length]
  simp [decodePointer, hlen, hread, slotNameOfCode_code, hcrc]

lemma journalPhaseOfCode_code {phase : JournalPhase} (h : phase ≠ .none) :
    journalPhaseOfCode phase.code = some phase := by
  cases phase with
  | none => exact absurd rfl h
  | prepared => rfl
  | schedulePromoted => rfl
  | configCommitted => rfl
  | aborted => rfl

lemma previousSlotOfCode_code (slot : Option SlotName) :
    previousSlotOfCode ((slot.map SlotName.code).getD 0) = some slot := by
  rcases slot with _ | _ | _ <;> rfl

/-- A journal that `encode_journal` accepts. -/
def ValidJournal (journal : RecoveryJournal) : Prop :=
  journal.phase ≠ .none ∧ journal.targetScheduleId ≠ [] ∧
    journal.targetScheduleId.length ≤ kMaxScheduleIdBytes

def journalBytes (journal : RecoveryJournal) : Bytes :=
  journalBody journal ++ leBytes 4 (crc32 (journalBody journal)).toNat

lemma encodeJournal_of_valid {journal : RecoveryJournal} (h : ValidJournal journal) :
    encodeJournal journal = .ok (journalBytes journal) := by
  obtain ⟨hphase, hid, hlen⟩ := h
  simp [encodeJournal, hphase, hid, Nat.not_lt.mpr hlen, journalBytes]

theorem decodeJournal_journalBytes {journal : RecoveryJournal} (h : ValidJournal journal) :
    decodeJournal (journalBytes journal) = .ok journal := by
  obtain ⟨hphase, -, hid⟩ := h
  have happend : appendString journal.targetScheduleId kMaxScheduleIdBytes =
      some (stringBytes journal.targetScheduleId) := appendString_of_le hid (by decide)
  have hlen : 30 ≤ (journalBytes journal).length := by
    simp only [journalBytes, journalBody, happend, Option.getD_some, stringBytes, List.length_append,
      leBytes_length, List.length_cons, List.length_nil]
    omega
  have hreads : Reads readJournalFields
      (leBytes 4 kScheduleJournalMagic.toNat ++ ([kJournalVersion] ++ ([journal.phase.code] ++
        ([(journal.previousActiveSlot.map SlotName.code).getD 0] ++ ([journal.preparedSlot.code] ++
        (leBytes 8 journal.previousGeneration.toNat ++ (leBytes 8 journal.preparedGeneration.toNat ++
        (stringBytes journal.targetScheduleId ++ leBytes 4 (crc32 (journalBody journal)).toNat))))))))
      ⟨kScheduleJournalMagic, kJournalVersion, journal.phase.code,
        (journal.previousActiveSlot.map SlotName.code).getD 0, journal.preparedSlot.code,
        journal.previousGeneration, journal.preparedGeneration, journal.targetScheduleId,
        crc32 (journalBody journal)⟩ := by
    refine Reads.bind (Reads.takeWord kScheduleJournalMagic.toNat_lt) ?_
    refine Reads.bind (Reads.takeByte _) (Reads.bind (Reads.takeByte _) ?_)
    refine Reads.bind (Reads.takeByte _) (Reads.bind (Reads.takeByte _) ?_)
    refine Reads.bind (Reads.takeWord journal.previousGeneration.toNat_lt) ?_
    refine Reads.bind (Reads.takeWord journal.preparedGeneration.toNat_lt) ?_
    refine Reads.bind (Reads.takeString hid (by decide)) ?_
    refine Reads.bind_last (Reads.takeWord (UInt32.toNat_lt _)) ?_
    simp only [UInt32.ofNat_toNat, UInt64.ofNat_toNat]
    exact Reads.pure _
  have hread : readJournalFields (journalBytes journal) =
      some (⟨kScheduleJournalMagic, kJournalVersion, journal.phase.code,
        (journal.previousActiveSlot.map SlotName.code).getD 0, journal.preparedSlot.code,
        journal.previousGeneration, journal.preparedGeneration, journal.targetScheduleId,
        crc32 (journalBody journal)⟩, []) := by
    have hrun := hreads []
    rw [List.append_nil] at hrun
    rw [← hrun]
    simp only [journalBytes, journalBody, happend, Option.getD_some, List.append_assoc, List.cons_append,
      List.nil_append]
  have hcrc : (journalBytes journal).take ((journalBytes journal).length - 4) = journalBody journal := by
    simp [journalBytes]
  simp [decodeJournal, Nat.not_lt.mpr hlen, hread, journalPhaseOfCode_code hphase,
    previousSlotOfCode_code, slotNameOfCode_code, hcrc]

end InkTime.Firmware
