import InkTime.Devices.Update
import InkTime.Pairing.Moves

/-!
# Rows under the writes

What a write makes of each request row and of each device row, and that a device has one open request at most.
-/

namespace InkTime.Pairing

open Texts (strip)
open Devices (Device Settings Runtime)
open Relation (ReflTransGen)

variable {runtime : Runtime} {trustedLan : Bool} {act : Act} {answer : Answer} {db db' : Db}

/-! ### Request rows -/

/-- A row after a write that found it. -/
inductive Became (runtime : Runtime) (trustedLan : Bool) (act : Act) (db : Db) (before : Request) : Request → Prop
  | same : Became runtime trustedLan act db before before
  | moved {after : Request} (hmove : Move runtime trustedLan act db before after) : Became runtime trustedLan act db before after
  | ended {status : Status} (hactive : before.status.active = true) (hended : status.active = false) :
      Became runtime trustedLan act db before (before.end status)

/-- A row that a write brought in. -/
structure Entered (runtime : Runtime) (trustedLan : Bool) (act : Act) (db db' : Db) (row : Request) : Prop where
  act : ∃ now payload ipAddress accepted, act = .requestPairing now payload ipAddress row.id ∧
    acceptCapabilities payload.capabilities = .ok accepted ∧ row.capabilities = Capabilities.mark accepted trustedLan ∧
    validateDeviceId payload.deviceId = .ok row.deviceId
  pending : row.status = .pending
  free : activeRequest db row.deviceId = none
  opened : Opened runtime db row
  others : ∀ other ∈ db'.requests, other = row ∨ other ∈ db.requests
  devices : db'.store = db.store

lemma Move.id {row after : Request} (h : Move runtime trustedLan act db row after) : after.id = row.id := by
  cases h <;> rfl

lemma Move.deviceId {row after : Request} (h : Move runtime trustedLan act db row after) : after.deviceId = row.deviceId := by
  cases h <;> rfl

lemma Move.active {row after : Request} (h : Move runtime trustedLan act db row after) : row.status.active = true := by
  cases h with
  | counted _ hactive => exact hactive
  | rejected _ hactive => exact hactive
  | approved _ _ _ hpending =>
    rw [hpending]
    rfl
  | issued _ happroved =>
    rw [happroved]
    rfl

lemma Became.id {before after : Request} (h : Became runtime trustedLan act db before after) : after.id = before.id := by
  cases h with
  | same => rfl
  | moved hmove => exact hmove.id
  | ended => rfl

lemma Became.deviceId {before after : Request} (h : Became runtime trustedLan act db before after) :
    after.deviceId = before.deviceId := by
  cases h with
  | same => rfl
  | moved hmove => exact hmove.deviceId
  | ended => rfl

lemma Became.active {before after : Request} (h : Became runtime trustedLan act db before after)
    (hactive : after.status.active = true) : before.status.active = true := by
  cases h with
  | same => exact hactive
  | moved hmove => exact hmove.active
  | ended hbefore => exact hbefore

theorem Effect.row (h : Effect runtime trustedLan act answer db db') {after : Request} (hafter : after ∈ db'.requests) :
    (∃ before ∈ db.requests, Became runtime trustedLan act db before after) ∨
      Entered runtime trustedLan act db db' after := by
  cases h with
  | expired =>
    obtain ⟨before, hbefore, ⟨-, rfl⟩ | ⟨hexpires, rfl⟩⟩ := mem_expired hafter
    · exact .inl ⟨after, hbefore, .same⟩
    · exact .inl ⟨before, hbefore, .ended ((Bool.and_eq_true _ _ ▸ hexpires).1) rfl⟩
  | opened hact haccepted hcapabilities hpayload hstatus hfree hopened hinsert =>
    obtain hold | rfl := (Table.mem_insert hinsert).mp hafter
    · exact .inl ⟨after, hold, .same⟩
    · exact .inr ⟨⟨_, _, _, _, hact, haccepted, hcapabilities, hpayload⟩, hstatus, hfree, hopened,
        fun other hother => ((Table.mem_insert hinsert).mp hother).symm, rfl⟩
  | moved hrow hmove =>
    obtain ⟨rfl, -⟩ | ⟨hold, -⟩ := Table.mem_put hafter
    · exact .inl ⟨_, hrow, .moved hmove⟩
    · exact .inl ⟨after, hold, .same⟩
  | closed deviceId =>
    have hkey : ∀ row : Request, (row.end .rejected).id = row.id := fun _ => rfl
    obtain ⟨before, hbefore, hrevise⟩ := (Table.mem_update (h := hkey)).mp hafter
    unfold Table.revise at hrevise
    split at hrevise
    · next hmatch =>
      subst hrevise
      exact .inl ⟨before, hbefore, .ended (Bool.and_eq_true _ _ ▸ hmatch).2 rfl⟩
    · subst hrevise
      exact .inl ⟨before, hbefore, .same⟩
  | confirmed _ _ hfound =>
    obtain ⟨rfl, -⟩ | ⟨hold, -⟩ := Table.mem_put hafter
    · exact .inl ⟨_, hfound.mem, .ended (by rw [hfound.issued]; rfl) rfl⟩
    · exact .inl ⟨after, hold, .same⟩
  | counted | touched | updated | failed => exact .inl ⟨after, hafter, .same⟩

/-! ### Device rows -/

/-- What a write makes of the row of a device. -/
inductive DeviceChange (runtime : Runtime) (trustedLan : Bool) (act : Act) (answer : Answer) (db db' : Db) (deviceId : String) : Prop
  | same (h : db'.device deviceId = db.device deviceId)
  | kept {before after : Device} (hbefore : db.device deviceId = some before) (hafter : db'.device deviceId = some after)
      (hkeeps : Keeps before after)
  | updated {before after : Device} {now : Nat} {changes : Devices.Changes} (hact : act = .update now deviceId changes)
      (hbefore : db.device deviceId = some before) (hafter : db'.device deviceId = some after)
      (hupdated : Devices.updatedDevice before changes now = .ok (after, true))
  | confirmed {row : Request} {envelope : Envelope} {now : Nat} {pairingId device nonce secret placeholder : String}
      {credentialVersion : Int} (hact : act = .confirm now pairingId device nonce secret credentialVersion placeholder)
      (hanswer : answer = .confirmed .confirmed) (howner : row.deviceId = deviceId)
      (hended : row.end .confirmed ∈ db'.requests)
      (hfound : Confirmation runtime trustedLan db pairingId device secret credentialVersion row envelope db'.store)

lemma device_put {device : Device} {before : Device} (hbefore : before ∈ db.store.devices) (hid : device.id = before.id)
    (deviceId : String) :
    (db.putDevice device).device deviceId = if before.id = deviceId then some device else db.device deviceId := by
  have hsome : (db.store.devices.find device.id).isSome = true := by
    rw [hid, Table.find_of_mem hbefore]
    rfl
  rw [Db.device, Db.putDevice, Table.find_put hsome, hid]
  rfl

lemma device_put_self {device : Device} {before : Device} {deviceId : String} (hbefore : db.device deviceId = some before)
    (hid : device.id = before.id) : (db.putDevice device).device deviceId = some device := by
  obtain ⟨hmem, rfl⟩ := Table.find_eq_some hbefore
  rw [device_put hmem hid, if_pos rfl]

lemma expireDevice_keeps (now : Nat) (device : Device) : Keeps device (expireDevice now device) := by
  refine ⟨rfl, rfl, rfl, rfl, rfl, rfl, rfl, ?_⟩
  unfold expireDevice
  dsimp only
  split
  · exact .inr fun heq => by cases heq
  · exact .inl rfl

lemma Confirms.other {envelope : Envelope} {store : Devices.Store} {deviceId other : String}
    (h : Confirms runtime db deviceId envelope store) (hne : deviceId ≠ other) :
    store.devices.find other = db.store.devices.find other := by
  cases h with
  | inserted now placeholder settings hdevice =>
    have hnone : db.store.devices.find (insertedDevice runtime now deviceId envelope settings placeholder).id = none := hdevice
    rw [Table.find_add hnone]
    exact if_neg hne
  | @updated now device settings hdevice =>
    obtain ⟨hmem, rfl⟩ := Table.find_eq_some hdevice
    have hkey : (confirmedDevice runtime now envelope settings device).id = device.id := rfl
    exact (device_put hmem hkey other).trans (if_neg hne)

theorem Effect.device (h : Effect runtime trustedLan act answer db db') (deviceId : String) :
    DeviceChange runtime trustedLan act answer db db' deviceId := by
  cases h with
  | expired now =>
    have hfind := Table.find_update db.store.devices
      (fun device => device.pairingState == .pairingPending &&
        db.requests.any fun row => expires trustedLan now row && row.deviceId == device.id)
      (expireDevice now) (fun _ => rfl) deviceId
    cases hbefore : db.device deviceId with
    | none => exact .same (hfind.trans (by rw [hbefore]; exact congrArg (Option.map _) hbefore))
    | some before =>
      have hafter := hfind.trans (congrArg (Option.map _) hbefore)
      rw [Option.map_some, Table.revise] at hafter
      split at hafter
      · exact .kept hbefore hafter (expireDevice_keeps now before)
      · exact .same (hafter.trans hbefore.symm)
  | counted | opened | moved | closed | failed => exact .same rfl
  | touched hbefore hkeeps =>
    have hput := device_put hbefore hkeeps.id deviceId
    split at hput
    · next hid => exact .kept (hid ▸ Table.find_of_mem hbefore) hput hkeeps
    · exact .same hput
  | updated hact hbefore hupdated =>
    have hput := device_put hbefore (Devices.updatedDevice_keeps hupdated).id deviceId
    split at hput
    · next hid => exact .updated (hid ▸ hact) (hid ▸ Table.find_of_mem hbefore) hput hupdated
    · exact .same hput
  | @confirmed row envelope store _ _ _ _ _ _ _ hact hanswer hfound =>
    by_cases hdevice : row.deviceId = deviceId
    · have hkey : row.id = (row.end .confirmed).id := rfl
      exact .confirmed hact hanswer hdevice ((Table.mem_put_iff hfound.mem hkey).mpr (.inl rfl)) hfound
    · exact .same (hfound.devices.other hdevice)

/-! ### One open request -/

/-- No device has two open requests. -/
def OneOpen (db : Db) : Prop :=
  ∀ row ∈ db.requests, ∀ other ∈ db.requests, row.status.active = true → other.status.active = true →
    row.deviceId = other.deviceId → row = other

lemma inactive_of_free {deviceId : String} (h : activeRequest db deviceId = none) {row : Request} (hrow : row ∈ db.requests)
    (hdevice : row.deviceId = deviceId) : row.status.active = false := by
  by_contra hactive
  have hmem : row ∈ (db.requests.rows.filter fun row => row.deviceId == deviceId && row.status.active).insertionSort laterFirst := by
    rw [List.mem_insertionSort, List.mem_filter]
    exact ⟨hrow, by simpa [hdevice] using hactive⟩
  rw [List.head?_eq_none_iff.mp h] at hmem
  cases hmem

theorem Effect.oneOpen (h : Effect runtime trustedLan act answer db db') (hone : OneOpen db) : OneOpen db' := by
  intro row hrow other hother hactive hactive' hdevice
  -- a row that entered found no open request of its device
  have hentered : ∀ {entered old : Request}, Entered runtime trustedLan act db db' entered → old ∈ db'.requests →
      old.status.active = true → old.deviceId = entered.deviceId → old = entered := by
    intro entered old hentered hold hopen hsame
    obtain heq | hmem := hentered.others old hold
    · exact heq
    · rw [inactive_of_free hentered.free hmem hsame] at hopen
      cases hopen
  obtain ⟨before, hbefore, hbecame⟩ | henters := h.row hrow
  · obtain ⟨before', hbefore', hbecame'⟩ | henters' := h.row hother
    · have hsame : before = before' := by
        apply hone before hbefore before' hbefore' (hbecame.active hactive) (hbecame'.active hactive')
        rw [← hbecame.deviceId, ← hbecame'.deviceId, hdevice]
      subst hsame
      exact Table.eq_of_key_eq hrow hother (hbecame.id.trans hbecame'.id.symm)
    · exact hentered henters' hrow hactive hdevice
  · exact (hentered henters hother hactive' hdevice.symm).symm

lemma Effects.oneOpen (h : Effects runtime trustedLan act answer db db') (hone : OneOpen db) : OneOpen db' := by
  induction h with
  | refl => exact hone
  | tail _ heffect ih => exact heffect.oneOpen ih

theorem step_oneOpen {w : World} (act : Act) (h : OneOpen w.db) : OneOpen (step runtime w act).db := by
  unfold step
  split
  · next next_ _ hexec => exact (exec_effects hexec).oneOpen h
  · exact h

end InkTime.Pairing
