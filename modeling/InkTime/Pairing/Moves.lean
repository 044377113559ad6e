import InkTime.Pairing.Model

/-!
# What the pairing calls write

`Effect` lists the writes of a call that returned, with the checks that let them through. Later proofs go by cases on it and do
not open the calls again.
-/

namespace InkTime.Pairing

open Texts (strip)
open Checked (require orError)
open Devices (Device Settings Runtime)
open Relation (ReflTransGen)

/-- The version that the next credential of a device gets. -/
def nextVersion (db : Db) (deviceId : String) : Nat := ((db.device deviceId).map fun device => device.credentialVersion + 1).getD 1

/-- A row as far as credentials and settings go. -/
structure Keeps (before after : Device) : Prop where
  id : after.id = before.id
  settings : after.settings = before.settings
  authMode : after.authMode = before.authMode
  credentialVersion : after.credentialVersion = before.credentialVersion
  deviceSecretHash : after.deviceSecretHash = before.deviceSecretHash
  offlineScheduleMaxSlots : after.offlineScheduleMaxSlots = before.offlineScheduleMaxSlots
  offlineSchedule : after.offlineSchedule = before.offlineSchedule
  pairingState : after.pairingState = before.pairingState ∨ after.pairingState ≠ .paired

/-- A request row after a write of its own. -/
inductive Move (runtime : Runtime) (trustedLan : Bool) (act : Act) (db : Db) (row : Request) : Request → Prop
  | counted (attempts : Nat) (hactive : row.status.active = true) :
      Move runtime trustedLan act db row { row with claimAttempts := attempts }
  | rejected (attempts : Nat) (hactive : row.status.active = true) :
      Move runtime trustedLan act db row (Request.end { row with claimAttempts := attempts } .rejected)
  /-- By an administrator, or by the trusted LAN. -/
  | approved (approvedAt : Option Nat) (approvedBy : Option String) (deviceConfig : Fields) {settings : Settings}
      (hpending : row.status = .pending)
      (hconfig : normalizeConfig runtime (mergedConfig row deviceConfig (db.device row.deviceId)) (fallbackName row.deviceId)
        (capabilityMaxSlots row.capabilities) = .ok settings)
      (hby : (∃ now pairingId administratorId, act = .approve now pairingId administratorId deviceConfig ∧
        row.id = strip pairingId) ∨ (trustedLan = true ∧ deviceConfig = [])) :
      Move runtime trustedLan act db row { row with
        status := .approved
        approvedAt
        approvedBy
        config := configFields settings (capabilityMaxSlots row.capabilities)
        capabilities := Capabilities.mark row.capabilities trustedLan }
  | issued (envelopeExpiresAt : Option Nat) {envelope : Envelope} {settings : Settings} (happroved : row.status = .approved)
      (hconfig : normalizeConfig runtime row.config (fallbackName row.deviceId) (capabilityMaxSlots row.capabilities) =
        .ok settings)
      (hdevice : envelope.deviceId = row.deviceId)
      (hversion : envelope.credentialVersion = nextVersion db row.deviceId)
      (henvelope : envelope.config = configFields settings (capabilityMaxSlots row.capabilities))
      (hslots : envelope.offlineScheduleMaxSlots = capabilityMaxSlots row.capabilities) :
      Move runtime trustedLan act db row { row with status := .credentialIssued, envelope := some envelope, envelopeExpiresAt }

/-- The configuration of a new request. -/
inductive Opened (runtime : Runtime) (db : Db) (row : Request) : Prop
  /-- What is stored does not fit the slots that are announced. -/
  | conflict {device : Device} (hdevice : db.device row.deviceId = some device)
      (hconflict : capabilityConflict (Schedule.resolveOfflineScheduleMaxSlots (.int device.offlineScheduleMaxSlots))
        (capabilityMaxSlots row.capabilities) (storedSlots (Devices.existingSchedule device)) = true)
  | normalized {device : Device} {fallback : String} {settings : Settings} (hdevice : db.device row.deviceId = some device)
      (hconfig : normalizeConfig runtime (configSource device) fallback (capabilityMaxSlots row.capabilities) = .ok settings)
      (hrow : row.config = configFields settings (capabilityMaxSlots row.capabilities))
  | enrolled (hdevice : db.device row.deviceId = none)

/-- The device rows after a confirmed credential. -/
inductive Confirms (runtime : Runtime) (db : Db) (deviceId : String) (envelope : Envelope) : Devices.Store → Prop
  | inserted (now : Nat) (placeholder : String) (settings : Settings) (hdevice : db.device deviceId = none) :
      Confirms runtime db deviceId envelope { db.store with
        devices := db.store.devices.add (insertedDevice runtime now deviceId envelope settings placeholder) }
  | updated (now : Nat) {device : Device} {settings : Settings} (hdevice : db.device deviceId = some device)
      (hautomatic : device.authMode = .automatic)
      (hconfig : normalizeConfig runtime envelope.config (fallbackName deviceId)
        (Schedule.resolveOfflineScheduleMaxSlots (.int envelope.offlineScheduleMaxSlots)) = .ok settings) :
      Confirms runtime db deviceId envelope { db.store with
        devices := db.store.devices.put (confirmedDevice runtime now envelope settings device) }

/-- What a confirmation finds and writes. -/
structure Confirmation (runtime : Runtime) (trustedLan : Bool) (db : Db) (pairingId deviceId secret : String)
    (credentialVersion : Int) (row : Request) (envelope : Envelope) (store : Devices.Store) : Prop where
  mem : row ∈ db.requests
  issued : row.status = .credentialIssued
  holds : row.envelope = some envelope
  id : row.id = strip pairingId
  deviceId : row.deviceId = strip deviceId
  version : (envelope.credentialVersion : Int) = credentialVersion
  named : envelope.deviceSecret = strip secret
  lan : trustedLan = true ∨ storedLanRequest row = false
  devices : Confirms runtime db row.deviceId envelope store

inductive Effect (runtime : Runtime) (trustedLan : Bool) (act : Act) (answer : Answer) : Db → Db → Prop
  | expired (db : Db) (now : Nat) : Effect runtime trustedLan act answer db (expireRequests trustedLan now db)
  | counted (db : Db) (rateLimits : List RateLimit) : Effect runtime trustedLan act answer db { db with rateLimits }
  | opened {db : Db} {row : Request} {requests : Table Request.id} {now : Nat} {payload : Payload} {ipAddress : String}
      {accepted : Capabilities} (hact : act = .requestPairing now payload ipAddress row.id)
      (haccepted : acceptCapabilities payload.capabilities = .ok accepted)
      (hcapabilities : row.capabilities = Capabilities.mark accepted trustedLan)
      (hpayload : validateDeviceId payload.deviceId = .ok row.deviceId)
      (hstatus : row.status = .pending) (hfree : activeRequest db row.deviceId = none) (hopened : Opened runtime db row)
      (hinsert : db.requests.insert row = some requests) : Effect runtime trustedLan act answer db { db with requests }
  | moved {db : Db} {row after : Request} (hrow : row ∈ db.requests) (hmove : Move runtime trustedLan act db row after) :
      Effect runtime trustedLan act answer db (db.putRequest after)
  | touched {db : Db} {before after : Device} (hbefore : before ∈ db.store.devices) (hkeeps : Keeps before after) :
      Effect runtime trustedLan act answer db (db.putDevice after)
  | updated {db : Db} {before after : Device} {now : Nat} {changes : Devices.Changes} (hact : act = .update now before.id changes)
      (hbefore : before ∈ db.store.devices) (hupdated : Devices.updatedDevice before changes now = .ok (after, true)) :
      Effect runtime trustedLan act answer db (db.putDevice after)
  | closed (db : Db) (deviceId : String) : Effect runtime trustedLan act answer db (rejectRequests db deviceId)
  | failed (db : Db) (authFailures : List Devices.Failure) :
      Effect runtime trustedLan act answer db { db with store := { db.store with authFailures } }
  | confirmed {db : Db} {row : Request} {envelope : Envelope} {store : Devices.Store} {now : Nat}
      {pairingId deviceId nonce secret placeholder : String} {credentialVersion : Int}
      (hact : act = .confirm now pairingId deviceId nonce secret credentialVersion placeholder)
      (hanswer : answer = .confirmed .confirmed)
      (hfound : Confirmation runtime trustedLan db pairingId deviceId secret credentialVersion row envelope store) :
      Effect runtime trustedLan act answer db { db with store, requests := db.requests.put (row.end .confirmed) }

abbrev Effects (runtime : Runtime) (trustedLan : Bool) (act : Act) (answer : Answer) : Db → Db → Prop :=
  ReflTransGen (Effect runtime trustedLan act answer)

/-! ### Texts -/

lemma validateText_ofText {text result : String} {maximum : Nat} {required : Bool}
    (h : validateText (ofText text) maximum required = .ok result) : result = strip text := by
  unfold validateText at h
  obtain ⟨stripped, hstripped, h⟩ := Checked.bind_eq_ok.mp h
  obtain ⟨-, -, h⟩ := Checked.bind_eq_ok.mp h
  obtain ⟨-, -, h⟩ := Checked.bind_eq_ok.mp h
  obtain rfl := Except.ok.inj h
  exact (Except.ok.inj hstripped).symm

lemma validateDeviceId_ofText {text result : String} (h : validateDeviceId (ofText text) = .ok result) : result = strip text := by
  unfold validateDeviceId at h
  obtain ⟨deviceId, hdeviceId, h⟩ := Checked.bind_eq_ok.mp h
  obtain ⟨-, -, h⟩ := Checked.bind_eq_ok.mp h
  obtain rfl := Except.ok.inj h
  exact validateText_ofText hdeviceId

/-! ### Expiry -/

section Expiry

variable {trustedLan : Bool} {now : Nat} {db : Db}

/-- An expiry that no longer finds the row open has ended it. -/
lemma mem_expired {row : Request} (h : row ∈ (expireRequests trustedLan now db).requests) :
    ∃ before ∈ db.requests, (expires trustedLan now before = false ∧ row = before) ∨
      (expires trustedLan now before = true ∧ row = before.end .expired) := by
  obtain ⟨hrow, -⟩ := Table.mem_delete.mp h
  obtain ⟨before, hbefore, hrevise⟩ := Table.mem_update.mp hrow
  refine ⟨before, hbefore, ?_⟩
  unfold Table.revise at hrevise
  split at hrevise
  · next hexpires => exact .inr ⟨hexpires, hrevise.symm⟩
  · next hexpires => exact .inl ⟨by simpa using hexpires, hrevise.symm⟩

/-- What is open after an expiry was not due. -/
lemma active_of_expired {row : Request} (h : row ∈ (expireRequests trustedLan now db).requests) (hactive : row.status.active = true) :
    row ∈ db.requests ∧ expires trustedLan now row = false := by
  obtain ⟨before, hbefore, ⟨hexpires, rfl⟩ | ⟨-, rfl⟩⟩ := mem_expired h
  · exact ⟨hbefore, hexpires⟩
  · cases hactive

lemma lan_of_not_expires {row : Request} (h : expires trustedLan now row = false) (hactive : row.status.active = true) :
    trustedLan = true ∨ storedLanRequest row = false := by
  unfold expires at h
  rw [hactive] at h
  cases trustedLan with
  | true => exact .inl rfl
  | false =>
    simp only [Bool.not_false, Bool.true_and, Bool.or_eq_false_iff] at h
    exact .inr h.2

end Expiry

/-! ### Calls -/

section Calls

variable {runtime : Runtime} {trustedLan : Bool} {now : Nat} {db db' : Db} {act : Act} {answer : Answer}

lemma find_mem {pairingId : String} {row : Request} (h : db.requests.find pairingId = some row) :
    row ∈ db.requests ∧ row.id = pairingId := Table.find_eq_some h

lemma approveRequest_put {row : Request} {administratorId : Option String} {deviceConfig : Fields}
    (h : approveRequest runtime trustedLan now db row administratorId deviceConfig = .ok db') :
    ∃ after settings, db' = db.putRequest after ∧
      normalizeConfig runtime (mergedConfig row deviceConfig (db.device row.deviceId)) (fallbackName row.deviceId)
        (capabilityMaxSlots row.capabilities) = .ok settings ∧
      after = { row with
        status := .approved
        approvedAt := some now
        approvedBy := administratorId.map take128
        config := configFields settings (capabilityMaxSlots row.capabilities)
        capabilities := Capabilities.mark row.capabilities trustedLan } := by
  unfold approveRequest at h
  obtain ⟨-, -, h⟩ := Checked.bind_eq_ok.mp h
  obtain ⟨-, -, h⟩ := Checked.bind_eq_ok.mp h
  obtain ⟨-, -, h⟩ := Checked.bind_eq_ok.mp h
  obtain ⟨settings, hsettings, h⟩ := Checked.bind_eq_ok.mp h
  obtain ⟨-, -, h⟩ := Checked.bind_eq_ok.mp h
  obtain rfl := Except.ok.inj h
  exact ⟨_, settings, rfl, hsettings, rfl⟩

lemma approveRequest_effect {row : Request} {administratorId : Option String} {deviceConfig : Fields}
    (h : approveRequest runtime trustedLan now db row administratorId deviceConfig = .ok db') (hrow : row ∈ db.requests)
    (hpending : row.status = .pending)
    (hby : (∃ now pairingId administratorId, act = .approve now pairingId administratorId deviceConfig ∧
      row.id = strip pairingId) ∨ (trustedLan = true ∧ deviceConfig = [])) : Effect runtime trustedLan act answer db db' := by
  obtain ⟨after, settings, rfl, hsettings, rfl⟩ := approveRequest_put h
  exact .moved hrow (.approved _ _ deviceConfig hpending hsettings hby)

lemma issueCredential_effects {row : Request} {secret : String} {reply : Claimed}
    (h : issueCredential runtime trustedLan now db row secret = .ok (db', reply)) (hrow : row ∈ db.requests)
    (happroved : row.status = .approved) : Effects runtime trustedLan act answer db db' := by
  unfold issueCredential at h
  obtain ⟨-, -, h⟩ := Checked.bind_eq_ok.mp h
  obtain ⟨settings, hsettings, h⟩ := Checked.bind_eq_ok.mp h
  have hmoved : ∀ (envelope : Envelope) (deadline : Option Nat), envelope.deviceId = row.deviceId →
      envelope.credentialVersion = nextVersion db row.deviceId →
      envelope.config = configFields settings (capabilityMaxSlots row.capabilities) →
      envelope.offlineScheduleMaxSlots = capabilityMaxSlots row.capabilities →
      Effect runtime trustedLan act answer db (db.putRequest { row with
        status := .credentialIssued
        envelope := some envelope
        envelopeExpiresAt := deadline }) :=
    fun _ deadline hdevice hversion hconfig hslots => .moved hrow (.issued deadline happroved hsettings hdevice hversion hconfig hslots)
  cases hdevice : db.device row.deviceId with
  | none =>
    rw [hdevice] at h
    obtain ⟨rfl, -⟩ := Prod.mk.inj (Except.ok.inj h)
    refine .single (hmoved _ _ rfl ?_ rfl rfl)
    rw [nextVersion, hdevice]
  | some device =>
    rw [hdevice] at h
    obtain ⟨rfl, -⟩ := Prod.mk.inj (Except.ok.inj h)
    refine .tail (.single (hmoved _ _ rfl ?_ rfl rfl)) (.touched (show device ∈ _ from ?_) ?_)
    · rw [nextVersion, hdevice]
    · exact (Table.find_eq_some hdevice).1
    · exact ⟨rfl, rfl, rfl, rfl, rfl, rfl, rfl, .inr fun heq => by cases heq⟩

lemma claim_effects {pairingId nonce secret : String} {reply : Claimed}
    (h : claim runtime trustedLan now db pairingId nonce secret = .ok (db', reply)) :
    Effects runtime trustedLan act answer db db' := by
  unfold claim at h
  obtain ⟨id, -, h⟩ := Checked.bind_eq_ok.mp h
  obtain ⟨nonce, -, h⟩ := Checked.bind_eq_ok.mp h
  obtain ⟨row, hfound, h⟩ := Checked.bind_eq_ok.mp h
  obtain ⟨-, -, h⟩ := Checked.bind_eq_ok.mp h
  obtain ⟨_, hactive, h⟩ := Checked.bind_eq_ok.mp h
  have hexpired : Effects runtime trustedLan act answer db (expireRequests trustedLan now db) := .single (.expired db now)
  obtain ⟨hrow, hid⟩ := find_mem (Checked.orError_eq_ok.mp hfound)
  have hactive : row.status.active = true := Checked.require_eq_ok.mp hactive
  dsimp only at h
  split at h
  · obtain ⟨rfl, -⟩ := Prod.mk.inj (Except.ok.inj h)
    refine .tail hexpired (.moved hrow ?_)
    split
    · exact .rejected _ hactive
    · exact .counted _ hactive
  · split at h
    · obtain ⟨envelope, -, h⟩ := Checked.bind_eq_ok.mp h
      obtain ⟨rfl, -⟩ := Prod.mk.inj (Except.ok.inj h)
      exact hexpired
    · next hpending =>
      split at h
      · next hlan =>
        obtain ⟨approved, happrove, h⟩ := Checked.bind_eq_ok.mp h
        obtain ⟨current, hcurrent, h⟩ := Checked.bind_eq_ok.mp h
        have heffect : Effect runtime trustedLan act answer _ approved :=
          approveRequest_effect happrove hrow hpending (.inr ⟨hlan, rfl⟩)
        obtain ⟨after, settings, rfl, -, hafter⟩ := approveRequest_put happrove
        have hfind := Checked.orError_eq_ok.mp hcurrent
        have hkey : after.id = row.id := by rw [hafter]
        have hstatus : after.status = .approved := by rw [hafter]
        have hsome : ((expireRequests trustedLan now db).requests.find after.id).isSome = true := by
          rw [hkey, Table.find_of_mem hrow]
          rfl
        rw [Db.putRequest, Table.find_put hsome, hkey, hid, if_pos rfl] at hfind
        obtain rfl := Option.some.inj hfind
        refine .trans (.tail hexpired heffect) (issueCredential_effects h ?_ hstatus)
        exact (Table.mem_put_iff hrow hkey.symm).mpr (.inl rfl)
      · obtain ⟨rfl, -⟩ := Prod.mk.inj (Except.ok.inj h)
        exact hexpired
    · next hissued hpending =>
      have happroved : row.status = .approved := by
        cases hstatus : row.status with
        | approved => rfl
        | pending => exact absurd hstatus hpending
        | credentialIssued => exact absurd hstatus hissued
        | confirmed | rejected | expired =>
          rw [hstatus] at hactive
          cases hactive
      exact .trans hexpired (issueCredential_effects h hrow happroved)

lemma updateConfirmedDevice_confirms {deviceId placeholder : String} {envelope : Envelope}
    (h : updateConfirmedDevice runtime now db deviceId envelope placeholder = .ok db') :
    ∃ store, db' = { db with store } ∧ Confirms runtime db deviceId envelope store := by
  unfold updateConfirmedDevice at h
  dsimp only at h
  split at h
  · next hdevice =>
    obtain ⟨settings, -, h⟩ := Checked.bind_eq_ok.mp h
    obtain rfl := Except.ok.inj h
    exact ⟨_, rfl, .inserted now placeholder settings hdevice⟩
  · next device hdevice =>
    obtain ⟨_, hmode, h⟩ := Checked.bind_eq_ok.mp h
    obtain ⟨settings, hsettings, h⟩ := Checked.bind_eq_ok.mp h
    obtain rfl := Except.ok.inj h
    have hmode := Checked.require_eq_ok.mp hmode
    rw [Bool.and_eq_true, beq_iff_eq] at hmode
    exact ⟨_, rfl, .updated now hdevice hmode.1 hsettings⟩

lemma confirm_cases {pairingId deviceId nonce secret placeholder : String} {credentialVersion : Int} {reply : Confirmed}
    (h : confirm runtime trustedLan now db pairingId deviceId nonce secret credentialVersion placeholder = .ok (db', reply)) :
    (reply ≠ .confirmed ∧ db' = expireRequests trustedLan now db) ∨
      (reply = .confirmed ∧ ∃ row envelope store, Confirmation runtime trustedLan (expireRequests trustedLan now db) pairingId
        deviceId secret credentialVersion row envelope store ∧
        db' = { expireRequests trustedLan now db with
          store
          requests := (expireRequests trustedLan now db).requests.put (row.end .confirmed) }) := by
  unfold confirm at h
  obtain ⟨_, hid, h⟩ := Checked.bind_eq_ok.mp h
  obtain rfl := validateText_ofText hid
  obtain ⟨_, hdevice, h⟩ := Checked.bind_eq_ok.mp h
  obtain rfl := validateDeviceId_ofText hdevice
  obtain ⟨nonce', -, h⟩ := Checked.bind_eq_ok.mp h
  obtain ⟨_, hsecret, h⟩ := Checked.bind_eq_ok.mp h
  obtain rfl := validateText_ofText hsecret
  obtain ⟨-, -, h⟩ := Checked.bind_eq_ok.mp h
  obtain ⟨-, -, h⟩ := Checked.bind_eq_ok.mp h
  obtain ⟨row, hfound, h⟩ := Checked.bind_eq_ok.mp h
  obtain ⟨-, -, h⟩ := Checked.bind_eq_ok.mp h
  obtain ⟨hfind, howner⟩ := Option.filter_eq_some_iff.mp (Checked.orError_eq_ok.mp hfound)
  obtain ⟨hrow, hrowId⟩ := find_mem hfind
  split at h
  · obtain ⟨-, -, h⟩ := Checked.bind_eq_ok.mp h
    obtain ⟨rfl, rfl⟩ := Prod.mk.inj (Except.ok.inj h)
    exact .inl ⟨fun heq => (by cases heq), rfl⟩
  · cases h
  · cases h
  · obtain ⟨rfl, rfl⟩ := Prod.mk.inj (Except.ok.inj h)
    exact .inl ⟨fun heq => (by cases heq), rfl⟩
  · cases h
  · next hissued =>
    obtain ⟨envelope, henvelope, h⟩ := Checked.bind_eq_ok.mp h
    obtain ⟨_, hmatch, h⟩ := Checked.bind_eq_ok.mp h
    obtain ⟨updated, hupdated, h⟩ := Checked.bind_eq_ok.mp h
    obtain ⟨rfl, rfl⟩ := Prod.mk.inj (Except.ok.inj h)
    obtain ⟨store, rfl, hstore⟩ := updateConfirmedDevice_confirms hupdated
    unfold decodeEnvelope at henvelope
    obtain ⟨-, -, henvelope⟩ := Checked.bind_eq_ok.mp henvelope
    have hmatch := Checked.require_eq_ok.mp hmatch
    simp only [Bool.and_eq_true, beq_iff_eq] at hmatch howner
    obtain ⟨⟨-, hversion⟩, hsecret⟩ := hmatch
    have hactive : row.status.active = true := by
      rw [hissued]
      rfl
    have hlan := lan_of_not_expires (active_of_expired hrow hactive).2 hactive
    exact .inr ⟨rfl, row, envelope, store, ⟨hrow, hissued, Checked.orError_eq_ok.mp henvelope, hrowId, howner, hversion, hsecret,
      hlan, howner.symm ▸ hstore⟩, rfl⟩

lemma confirm_effects {pairingId deviceId nonce secret placeholder : String} {credentialVersion : Int} {reply : Confirmed}
    (h : confirm runtime trustedLan now db pairingId deviceId nonce secret credentialVersion placeholder = .ok (db', reply)) :
    Effects runtime trustedLan (.confirm now pairingId deviceId nonce secret credentialVersion placeholder) (.confirmed reply)
      db db' := by
  obtain ⟨-, rfl⟩ | ⟨rfl, row, envelope, store, hfound, rfl⟩ := confirm_cases h
  · exact .single (.expired db now)
  · exact .tail (.single (.expired db now)) (.confirmed rfl rfl hfound)

lemma approve_effects {pairingId administratorId : String} {deviceConfig : Fields} {status : Status}
    (h : approve runtime trustedLan now db pairingId administratorId deviceConfig = .ok (db', status)) :
    Effects runtime trustedLan (.approve now pairingId administratorId deviceConfig) answer db db' := by
  unfold approve at h
  obtain ⟨_, hid, h⟩ := Checked.bind_eq_ok.mp h
  obtain rfl := validateText_ofText hid
  obtain ⟨row, hfound, h⟩ := Checked.bind_eq_ok.mp h
  obtain ⟨hrow, hrowId⟩ := find_mem (Checked.orError_eq_ok.mp hfound)
  split at h
  · obtain ⟨rfl, -⟩ := Prod.mk.inj (Except.ok.inj h)
    exact .single (.expired db now)
  · obtain ⟨rfl, -⟩ := Prod.mk.inj (Except.ok.inj h)
    exact .single (.expired db now)
  · obtain ⟨rfl, -⟩ := Prod.mk.inj (Except.ok.inj h)
    exact .single (.expired db now)
  · next hpending =>
    obtain ⟨approved, happrove, h⟩ := Checked.bind_eq_ok.mp h
    obtain ⟨rfl, -⟩ := Prod.mk.inj (Except.ok.inj h)
    exact .tail (.single (.expired db now))
      (approveRequest_effect happrove hrow hpending (.inl ⟨now, pairingId, administratorId, rfl, hrowId⟩))
  · cases h

/-! ### Requests -/

lemma repeatRequest_effects {row : Request} {nonce : String} {reply : Requested}
    (h : repeatRequest runtime trustedLan now db row nonce = .ok (db', reply)) (hrow : row ∈ db.requests) :
    Effects runtime trustedLan act answer db db' := by
  unfold repeatRequest at h
  obtain ⟨-, -, h⟩ := Checked.bind_eq_ok.mp h
  dsimp only at h
  split at h
  · next hcondition =>
    rw [Bool.and_eq_true, Bool.and_eq_true, beq_iff_eq] at hcondition
    obtain ⟨approved, happrove, h⟩ := Checked.bind_eq_ok.mp h
    obtain ⟨rfl, -⟩ := Prod.mk.inj (Except.ok.inj h)
    exact .single (approveRequest_effect happrove hrow hcondition.1.2 (.inr ⟨hcondition.1.1, rfl⟩))
  · obtain ⟨rfl, -⟩ := Prod.mk.inj (Except.ok.inj h)
    exact .refl

lemma openRequest_effects {payload : Payload} {ipAddress deviceId nonce firmwareIdentity firmwareVersion panelProfile deviceName
    pairingId : String} {accepted : Capabilities} {reply : Requested}
    (h : openRequest runtime trustedLan now db deviceId nonce firmwareIdentity firmwareVersion panelProfile deviceName
      (Capabilities.mark accepted trustedLan) pairingId = .ok (db', reply))
    (haccepted : acceptCapabilities payload.capabilities = .ok accepted)
    (hpayload : validateDeviceId payload.deviceId = .ok deviceId) (hfree : activeRequest db deviceId = none) :
    Effects runtime trustedLan (.requestPairing now payload ipAddress pairingId) answer db db' := by
  unfold openRequest at h
  obtain ⟨-, -, h⟩ := Checked.bind_eq_ok.mp h
  dsimp only at h
  split at h
  · next hconflict =>
    obtain ⟨requests, hinsert, h⟩ := Checked.bind_eq_ok.mp h
    obtain ⟨rfl, -⟩ := Prod.mk.inj (Except.ok.inj h)
    refine .single (.opened rfl haccepted rfl hpayload rfl hfree ?_ (Checked.orError_eq_ok.mp hinsert))
    cases hdevice : db.device deviceId with
    | none => exact .enrolled hdevice
    | some device =>
      rw [hdevice] at hconflict
      exact .conflict hdevice hconflict
  · obtain ⟨settings, hsettings, h⟩ := Checked.bind_eq_ok.mp h
    obtain ⟨requests, hinsert, h⟩ := Checked.bind_eq_ok.mp h
    obtain ⟨approved, happrove, h⟩ := Checked.bind_eq_ok.mp h
    have hinsert := Checked.orError_eq_ok.mp hinsert
    have hopened : Effect runtime trustedLan (.requestPairing now payload ipAddress pairingId) answer db { db with requests } := by
      refine .opened rfl haccepted rfl hpayload rfl hfree ?_ hinsert
      cases hdevice : db.device deviceId with
      | none => exact .enrolled hdevice
      | some device =>
        rw [hdevice] at hsettings
        exact .normalized hdevice hsettings rfl
    unfold approveOnLan at happrove
    have happroved : Effects runtime trustedLan (.requestPairing now payload ipAddress pairingId) answer db approved := by
      split at happrove
      · next hlan =>
        refine .tail (.single hopened) (approveRequest_effect happrove ?_ rfl (.inr ⟨hlan, rfl⟩))
        exact (Table.mem_insert hinsert).mpr (.inr rfl)
      · obtain rfl := Except.ok.inj happrove
        exact .single hopened
    have hstore : approved.store = db.store := by
      split at happrove
      · obtain ⟨after, _, rfl, -⟩ := approveRequest_put happrove
        rfl
      · obtain rfl := Except.ok.inj happrove
        rfl
    cases hdevice : db.device deviceId with
    | none =>
      rw [hdevice] at h
      obtain ⟨rfl, -⟩ := Prod.mk.inj (Except.ok.inj h)
      exact happroved
    | some device =>
      rw [hdevice] at h
      dsimp only at h
      obtain ⟨rfl, -⟩ := Prod.mk.inj (Except.ok.inj h)
      split
      · next hstate =>
        refine .tail happroved (.touched (show device ∈ _ from ?_) ?_)
        · rw [hstore]
          exact (Table.find_eq_some hdevice).1
        · exact ⟨rfl, rfl, rfl, rfl, rfl, rfl, rfl, .inl rfl⟩
      · exact happroved

lemma requestPairing_effects {payload : Payload} {ipAddress pairingId : String} {reply : Requested}
    (h : requestPairing runtime trustedLan now db payload ipAddress pairingId = .ok (db', reply)) :
    Effects runtime trustedLan (.requestPairing now payload ipAddress pairingId) answer db db' := by
  unfold requestPairing at h
  obtain ⟨deviceId, hdevice, h⟩ := Checked.bind_eq_ok.mp h
  obtain ⟨nonce, -, h⟩ := Checked.bind_eq_ok.mp h
  obtain ⟨-, -, h⟩ := Checked.bind_eq_ok.mp h
  obtain ⟨firmwareIdentity, -, h⟩ := Checked.bind_eq_ok.mp h
  obtain ⟨firmwareVersion, -, h⟩ := Checked.bind_eq_ok.mp h
  obtain ⟨panelProfile, -, h⟩ := Checked.bind_eq_ok.mp h
  obtain ⟨deviceName, -, h⟩ := Checked.bind_eq_ok.mp h
  obtain ⟨accepted, haccepted, h⟩ := Checked.bind_eq_ok.mp h
  dsimp only at h
  split at h
  · next row hactive =>
    refine .trans (.single (.expired db now)) (repeatRequest_effects h ?_)
    have hmem := List.mem_of_mem_head? (Option.mem_def.mpr hactive)
    exact (List.mem_filter.mp ((List.mem_insertionSort _).mp hmem)).1
  · next hfree =>
    obtain ⟨-, -, h⟩ := Checked.bind_eq_ok.mp h
    obtain ⟨limited, hlimited, h⟩ := Checked.bind_eq_ok.mp h
    obtain ⟨rows, rfl⟩ : ∃ rows, limited = { expireRequests trustedLan now db with rateLimits := rows } := by
      unfold rateLimit at hlimited
      obtain ⟨afterIp, -, hlimited⟩ := Checked.bind_eq_ok.mp hlimited
      obtain ⟨rows, -, hlimited⟩ := Checked.bind_eq_ok.mp hlimited
      exact ⟨rows, (Except.ok.inj hlimited).symm⟩
    exact .trans (.tail (.single (.expired db now)) (.counted _ rows)) (openRequest_effects h haccepted hdevice hfree)

/-! ### Administration -/

lemma reject_effects {pairingId : String} (h : reject now db pairingId = .ok db') :
    Effects runtime trustedLan act answer db db' := by
  unfold reject at h
  obtain ⟨id, -, h⟩ := Checked.bind_eq_ok.mp h
  obtain ⟨row, hfound, h⟩ := Checked.bind_eq_ok.mp h
  obtain ⟨_, hactive, h⟩ := Checked.bind_eq_ok.mp h
  obtain ⟨hrow, -⟩ := find_mem (Checked.orError_eq_ok.mp hfound)
  have hrejected : Effect runtime trustedLan act answer db (db.putRequest (row.end .rejected)) :=
    .moved hrow (.rejected row.claimAttempts (Checked.require_eq_ok.mp hactive))
  obtain rfl := Except.ok.inj h
  split
  · next device hdevice =>
    refine .tail (.single hrejected) (.touched (show device ∈ _ from ?_) ?_)
    · exact (Table.find_eq_some (Option.filter_eq_some_iff.mp hdevice).1).1
    · refine ⟨rfl, rfl, rfl, rfl, rfl, rfl, rfl, .inr ?_⟩
      dsimp only
      split <;> exact fun heq => by cases heq
  · exact .single hrejected

lemma revoke_effects {deviceId : String} (h : revoke now db deviceId = .ok db') :
    Effects runtime trustedLan act answer db db' := by
  unfold revoke at h
  obtain ⟨id, -, h⟩ := Checked.bind_eq_ok.mp h
  obtain ⟨device, hdevice, h⟩ := Checked.bind_eq_ok.mp h
  obtain ⟨-, -, h⟩ := Checked.bind_eq_ok.mp h
  obtain rfl := Except.ok.inj h
  refine .tail (.single (.touched (show device ∈ _ from ?_) ?_)) (.closed _ id)
  · exact (Table.find_eq_some (Checked.orError_eq_ok.mp hdevice)).1
  · exact ⟨rfl, rfl, rfl, rfl, rfl, rfl, rfl, .inr fun heq => by cases heq⟩

lemma startRepair_effects {deviceId : String} (h : startRepair now db deviceId = .ok db') :
    Effects runtime trustedLan act answer db db' := by
  unfold startRepair at h
  obtain ⟨id, -, h⟩ := Checked.bind_eq_ok.mp h
  obtain ⟨device, hdevice, h⟩ := Checked.bind_eq_ok.mp h
  obtain ⟨-, -, h⟩ := Checked.bind_eq_ok.mp h
  obtain rfl := Except.ok.inj h
  refine .tail (.single (.touched (show device ∈ _ from ?_) ?_)) (.closed _ id)
  · exact (Table.find_eq_some (Checked.orError_eq_ok.mp hdevice)).1
  · exact ⟨rfl, rfl, rfl, rfl, rfl, rfl, rfl, .inr fun heq => by cases heq⟩

lemma update_effects {deviceId : String} {changes : Devices.Changes} {store : Devices.Store} {written : Bool}
    (h : Devices.update db.store now deviceId changes = .ok (store, written)) :
    Effects runtime trustedLan (.update now deviceId changes) answer db { db with store } := by
  unfold Devices.update at h
  obtain ⟨current, hcurrent, h⟩ := Checked.bind_eq_ok.mp h
  obtain ⟨⟨updated, changed⟩, hupdated, h⟩ := Checked.bind_eq_ok.mp h
  obtain ⟨rfl, rfl⟩ := Prod.mk.inj (Except.ok.inj h)
  obtain ⟨hmem, rfl⟩ := Table.find_eq_some (Checked.orError_eq_ok.mp hcurrent)
  cases changed with
  | true => exact .single (.updated rfl hmem hupdated)
  | false => exact .refl

lemma authenticate_effects {token ipAddress : String} {credentialVersion : Option Int} {allowRepair : Bool}
    {store : Devices.Store} {device : Option Device}
    (h : Devices.authenticate runtime db.store now token ipAddress credentialVersion allowRepair = .ok (store, device)) :
    Effects runtime trustedLan act answer db { db with store } := by
  unfold Devices.authenticate at h
  split at h
  · next row hfound =>
    obtain ⟨rfl, -⟩ := Prod.mk.inj (Except.ok.inj h)
    refine .single (.touched (show row ∈ _ from ?_) ?_)
    · exact (List.mem_filter.mp ((List.mem_insertionSort _).mp (List.mem_of_find?_eq_some hfound))).1
    · exact ⟨rfl, rfl, rfl, rfl, rfl, rfl, rfl, .inl rfl⟩
  · obtain ⟨-, -, h⟩ := Checked.bind_eq_ok.mp h
    obtain ⟨rfl, -⟩ := Prod.mk.inj (Except.ok.inj h)
    exact .single (.failed db _)

end Calls

/-! ### Steps -/

/-- A call that returned wrote what `Effect` lists. -/
theorem exec_effects {runtime : Runtime} {w w' : World} {act : Act} {answer : Answer}
    (h : w.exec runtime act = .ok (w', answer)) : Effects runtime w.trustedLan act answer w.db w'.db := by
  cases act with
  | restart trustedLan =>
    obtain ⟨rfl, -⟩ := Prod.mk.inj (Except.ok.inj h)
    exact .refl
  | requestPairing now payload ipAddress pairingId =>
    obtain ⟨⟨db, reply⟩, hcall, h⟩ := Checked.bind_eq_ok.mp h
    obtain ⟨rfl, -⟩ := Prod.mk.inj (Except.ok.inj h)
    exact requestPairing_effects hcall
  | approve now pairingId administratorId deviceConfig =>
    obtain ⟨⟨db, status⟩, hcall, h⟩ := Checked.bind_eq_ok.mp h
    obtain ⟨rfl, -⟩ := Prod.mk.inj (Except.ok.inj h)
    exact approve_effects hcall
  | claim now pairingId nonce secret =>
    obtain ⟨⟨db, reply⟩, hcall, h⟩ := Checked.bind_eq_ok.mp h
    obtain ⟨rfl, -⟩ := Prod.mk.inj (Except.ok.inj h)
    exact claim_effects hcall
  | confirm now pairingId deviceId nonce secret credentialVersion placeholder =>
    obtain ⟨⟨db, reply⟩, hcall, h⟩ := Checked.bind_eq_ok.mp h
    obtain ⟨rfl, rfl⟩ := Prod.mk.inj (Except.ok.inj h)
    exact confirm_effects hcall
  | reject now pairingId =>
    obtain ⟨db, hcall, h⟩ := Checked.bind_eq_ok.mp h
    obtain ⟨rfl, -⟩ := Prod.mk.inj (Except.ok.inj h)
    exact reject_effects hcall
  | revoke now deviceId =>
    obtain ⟨db, hcall, h⟩ := Checked.bind_eq_ok.mp h
    obtain ⟨rfl, -⟩ := Prod.mk.inj (Except.ok.inj h)
    exact revoke_effects hcall
  | startRepair now deviceId =>
    obtain ⟨db, hcall, h⟩ := Checked.bind_eq_ok.mp h
    obtain ⟨rfl, -⟩ := Prod.mk.inj (Except.ok.inj h)
    exact startRepair_effects hcall
  | pendingForAdmin now =>
    obtain ⟨rfl, -⟩ := Prod.mk.inj (Except.ok.inj h)
    exact .single (.expired w.db now)
  | update now deviceId changes =>
    simp only [World.exec] at h
    split at h
    · next store written hcall =>
      obtain ⟨rfl, -⟩ := Prod.mk.inj (Except.ok.inj h)
      exact update_effects hcall
    · cases h
  | authenticate now token ipAddress credentialVersion allowRepair =>
    simp only [World.exec] at h
    split at h
    · next store device hcall =>
      obtain ⟨rfl, -⟩ := Prod.mk.inj (Except.ok.inj h)
      exact authenticate_effects hcall
    · cases h

end InkTime.Pairing
