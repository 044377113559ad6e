import InkTime.Firmware.ConfigCodec
import InkTime.Library.Delimited

/-!
# Identities of queue acknowledgements

The parts of `queue_client_core.h` that name a queue event to the server.
-/

namespace InkTime.Firmware

open WireFormat Delimited

/-- The bytes of a C string, before its terminator. -/
structure CText where
  bytes : Bytes
  terminated : 0 ∉ bytes
  deriving DecidableEq

def kQueueIdentifierMaxBytes : Nat := 128

inductive QueueEvent where
  | manifestReceived | downloadStarted | downloadCompleted | hashVerified | displayStarted | displayCompleted | displayFailed
  deriving DecidableEq

def queueEventName : QueueEvent → Bytes
  | .manifestReceived => ascii "MANIFEST_RECEIVED"
  | .downloadStarted => ascii "DOWNLOAD_STARTED"
  | .downloadCompleted => ascii "DOWNLOAD_COMPLETED"
  | .hashVerified => ascii "HASH_VERIFIED"
  | .displayStarted => ascii "DISPLAY_STARTED"
  | .displayCompleted => ascii "DISPLAY_COMPLETED"
  | .displayFailed => ascii "DISPLAY_FAILED"

def strnlen (value : CText) (maximum : Nat) : Nat := min value.bytes.length maximum

def boundedText (value : Option CText) (maximum : Nat) : Bool :=
  match value with
  | none => false
  | some text =>
    let length := strnlen text (maximum + 1)
    0 < length && length ≤ maximum

/-- The conversion `%lld`. -/
def longLong (value : Int64) : Bytes :=
  if value < 0 then 45 :: decimal value.toInt.natAbs else decimal value.toInt.natAbs

/-- What `snprintf` returns, and the text it leaves in a buffer of `size` bytes. -/
def snprintf (size : Nat) (text : Bytes) : Nat × Bytes := (text.length, text.take (size - 1))

/-- `"inktime-queue-v1|%s|%lld|%s"` -/
def materialText (queueItemId : CText) (queueVersion : Int64) (event : QueueEvent) : Bytes :=
  ascii "inktime-queue-v1|" ++ queueItemId.bytes ++ 124 :: (longLong queueVersion ++ 124 :: queueEventName event)

/-- The buffer is the text in it, or `none` for a null pointer. -/
def idempotencyMaterial (queueItemId : Option CText) (queueVersion : Int64) (event : QueueEvent) (output : Option Bytes)
    (outputSize : Nat) : Bool × Option Bytes :=
  match queueItemId, output with
  | some id, some _ =>
    if !boundedText (some id) kQueueIdentifierMaxBytes || queueVersion < 0 || outputSize < 32 then (false, output)
    else
      let (written, text) := snprintf outputSize (materialText id queueVersion event)
      (0 < written && written < outputSize, some text)
  | _, _ => (false, output)

variable {id id' : CText} {version version' : Int64} {event event' : QueueEvent}

lemma boundedText_iff {maximum : Nat} : boundedText (some id) maximum = true ↔ 0 < id.bytes.length ∧ id.bytes.length ≤ maximum := by
  unfold boundedText strnlen
  rw [Bool.and_eq_true, decide_eq_true_eq, decide_eq_true_eq]
  omega

lemma separator_notMem_name (event : QueueEvent) : 124 ∉ queueEventName event := by
  cases event with
  | manifestReceived => decide
  | downloadStarted => decide
  | downloadCompleted => decide
  | hashVerified => decide
  | displayStarted => decide
  | displayCompleted => decide
  | displayFailed => decide

lemma queueEventName_injective : Function.Injective queueEventName := by
  intro event event' h
  cases event <;> cases event' <;> first | rfl | exact absurd h (by decide)

lemma separator_notMem_longLong (version : Int64) : 124 ∉ longLong version := by
  have hdecimal : ∀ number, 124 ∉ decimal number := by
    intro number hmem
    obtain ⟨digit, hdigit, heq⟩ := mem_decimal hmem
    have hvalue := congrArg UInt8.toNat heq
    rw [digitByte, UInt8.toNat_ofNat', Nat.mod_eq_of_lt (by omega)] at hvalue
    change 124 = 48 + digit at hvalue
    omega
  unfold longLong
  split
  · simp [hdecimal]
  · exact hdecimal _

lemma longLong_inj (h : 0 ≤ version) (h' : 0 ≤ version') (heq : longLong version = longLong version') : version = version' := by
  have hvalue : 0 ≤ version.toInt := Int64.le_iff_toInt_le.mp h
  have hvalue' : 0 ≤ version'.toInt := Int64.le_iff_toInt_le.mp h'
  rw [longLong, longLong, if_neg (Int64.not_lt.mpr h), if_neg (Int64.not_lt.mpr h')] at heq
  have habs := decimal_injective heq
  exact Int64.toInt_inj.mp (by omega)

/-- Read from its end, the material gives back what it was made of. -/
lemma materialText_inj (h : 0 ≤ version) (h' : 0 ≤ version') (heq : materialText id version event = materialText id' version' event') :
    id = id' ∧ version = version' ∧ event = event' := by
  unfold materialText at heq
  rw [← List.cons_append, ← List.append_assoc, ← List.cons_append, ← List.append_assoc] at heq
  obtain ⟨hrest, hname⟩ := append_separator_inj (separator_notMem_name event) (separator_notMem_name event') heq
  obtain ⟨hid, hversion⟩ := append_separator_inj (separator_notMem_longLong version) (separator_notMem_longLong version') hrest
  have hbytes := List.append_cancel_left hid
  cases id with
  | mk bytes terminated =>
    cases id' with
    | mk bytes' terminated' =>
      obtain rfl : bytes = bytes' := hbytes
      exact ⟨rfl, longLong_inj h h' hversion, queueEventName_injective hname⟩

/-- No material is shorter than the least buffer. -/
lemma materialText_length (hid : 0 < id.bytes.length) (version : Int64) (event : QueueEvent) :
    32 ≤ (materialText id version event).length := by
  have hprefix : (ascii "inktime-queue-v1|").length = 17 := by decide
  have hname : 13 ≤ (queueEventName event).length := by
    cases event with
    | manifestReceived => decide
    | downloadStarted => decide
    | downloadCompleted => decide
    | hashVerified => decide
    | displayStarted => decide
    | displayCompleted => decide
    | displayFailed => decide
  simp only [materialText, List.length_append, List.length_cons]
  omega

lemma idempotencyMaterial_ok (hid : 0 < id.bytes.length ∧ id.bytes.length ≤ kQueueIdentifierMaxBytes) (h : 0 ≤ version)
    (buffer : Bytes) (size : Nat) :
    (idempotencyMaterial (some id) version event (some buffer) size).1 = true ↔ (materialText id version event).length < size := by
  have hlength := materialText_length hid.1 version event
  unfold idempotencyMaterial
  simp only [boundedText_iff.mpr hid, Int64.not_lt.mpr h, decide_false, Bool.not_true, Bool.or_false, Bool.false_or, decide_eq_true_eq]
  split
  · constructor
    · exact fun hfalse => nomatch hfalse
    · intro hfits
      omega
  · rw [Bool.and_eq_true, decide_eq_true_eq, decide_eq_true_eq]
    change 0 < (materialText id version event).length ∧ (materialText id version event).length < size ↔ _
    omega

lemma idempotencyMaterial_text {buffer : Bytes} {size : Nat}
    (h : (idempotencyMaterial (some id) version event (some buffer) size).1 = true) :
    (idempotencyMaterial (some id) version event (some buffer) size).2 = some (materialText id version event) := by
  unfold idempotencyMaterial at h ⊢
  dsimp only at h ⊢
  split at h
  · cases h
  · next hguard =>
    rw [if_neg hguard]
    rw [Bool.and_eq_true, decide_eq_true_eq, decide_eq_true_eq] at h
    have hfits : (materialText id version event).length < size := h.2
    change some ((materialText id version event).take (size - 1)) = _
    rw [List.take_of_length_le (by omega)]

/-- The material of an acknowledgement succeeds exactly where it fits, and no two acknowledgements share it. -/
theorem idempotency_material_identifies (id : CText) (version : Int64) (event : QueueEvent) (buffer : Bytes) (size : Nat)
    (hid : 0 < id.bytes.length ∧ id.bytes.length ≤ kQueueIdentifierMaxBytes) (hversion : 0 ≤ version) :
    ((idempotencyMaterial (some id) version event (some buffer) size).1 = true ↔ (materialText id version event).length < size) ∧
    ∀ (id' : CText) (version' : Int64) (event' : QueueEvent) (buffer' : Bytes) (size' : Nat),
      0 < id'.bytes.length ∧ id'.bytes.length ≤ kQueueIdentifierMaxBytes → 0 ≤ version' →
      (idempotencyMaterial (some id) version event (some buffer) size).1 = true →
      (idempotencyMaterial (some id') version' event' (some buffer') size').1 = true →
      (idempotencyMaterial (some id) version event (some buffer) size).2 =
        (idempotencyMaterial (some id') version' event' (some buffer') size').2 →
      id = id' ∧ version = version' ∧ event = event' := by
  refine ⟨idempotencyMaterial_ok hid hversion buffer size, ?_⟩
  intro id' version' event' buffer' size' _ hversion' hok hok' hsame
  rw [idempotencyMaterial_text hok, idempotencyMaterial_text hok', Option.some.injEq] at hsame
  exact materialText_inj hversion hversion' hsame

/-- An id that looks like the end of another material. -/
def separatorId : CText := ⟨ascii "a|7", by decide⟩

theorem idempotency_material_identifies_separator :
    (0 < separatorId.bytes.length ∧ separatorId.bytes.length ≤ kQueueIdentifierMaxBytes) ∧ (0 : Int64) ≤ 3 ∧
    ((idempotencyMaterial (some separatorId) 3 .hashVerified (some []) 320).1 = true ↔
      (materialText separatorId 3 .hashVerified).length < 320) ∧
    (idempotencyMaterial (some separatorId) 3 .hashVerified (some []) 320).1 = true ∧
    separatorId = separatorId ∧ (3 : Int64) = 3 ∧ QueueEvent.hashVerified = .hashVerified := by
  have hid : 0 < separatorId.bytes.length ∧ separatorId.bytes.length ≤ kQueueIdentifierMaxBytes := by decide
  have hversion : (0 : Int64) ≤ 3 := by decide
  obtain ⟨hfits, hsame⟩ := idempotency_material_identifies separatorId 3 .hashVerified [] 320 hid hversion
  have hok : (idempotencyMaterial (some separatorId) 3 .hashVerified (some []) 320).1 = true := hfits.mpr (by decide)
  exact ⟨hid, hversion, hfits, hok, hsame separatorId 3 .hashVerified [] 320 hid hversion hok hok rfl⟩

end InkTime.Firmware
