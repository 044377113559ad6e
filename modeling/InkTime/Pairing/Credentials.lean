import InkTime.Pairing.Requests

/-!
# The life of a credential

A device that authenticates presents what its latest confirmation installed. Versions rise from one confirmation to the next,
and a request hands out one credential.
-/

namespace InkTime.Pairing

open Texts (strip)
open Devices (Device Runtime)
open Relation (ReflTransGen)

variable {runtime : Runtime} {trustedLan : Bool} {act : Act} {a : Answer} {db db' : Db} {w : World}

/-! ### Versions -/

/-- An issued credential has the version that comes next for its device. -/
def Versioned (db : Db) : Prop :=
  ∀ row ∈ db.requests, row.status = .credentialIssued →
    ∃ envelope, row.envelope = some envelope ∧ envelope.credentialVersion = nextVersion db row.deviceId

lemma nextVersion_congr {deviceId : String} {before after : Device} (hbefore : db.device deviceId = some before)
    (hafter : db'.device deviceId = some after) (h : after.credentialVersion = before.credentialVersion) :
    nextVersion db' deviceId = nextVersion db deviceId := by
  rw [nextVersion, nextVersion, hbefore, hafter, Option.map_some, Option.map_some, h]

lemma Effect.nextVersion (h : Effect runtime trustedLan act a db db') (deviceId : String) :
    Pairing.nextVersion db' deviceId = Pairing.nextVersion db deviceId ∨
      ∃ row ∈ db.requests, row.deviceId = deviceId ∧ row.status.active = true ∧ row.end .confirmed ∈ db'.requests := by
  cases h.device deviceId with
  | same hsame => exact .inl (by rw [Pairing.nextVersion, Pairing.nextVersion, hsame])
  | kept hbefore hafter hkeeps => exact .inl (nextVersion_congr hbefore hafter hkeeps.credentialVersion)
  | updated _ hbefore hafter hupdated =>
    exact .inl (nextVersion_congr hbefore hafter (Devices.updatedDevice_keeps hupdated).credentialVersion)
  | confirmed _ _ howner hended hfound =>
    exact .inr ⟨_, hfound.mem, howner, by rw [hfound.issued]; rfl, hended⟩

theorem Effect.versioned (h : Effect runtime trustedLan act a db db') (hone : OneOpen db) (hversioned : Versioned db) :
    Versioned db' := by
  intro row hrow hissued
  have hactive : row.status.active = true := by
    rw [hissued]
    rfl
  obtain ⟨before, hbefore, hbecame⟩ | hentered := h.row hrow
  · have hnext : Pairing.nextVersion db' row.deviceId = Pairing.nextVersion db row.deviceId := by
      obtain hsame | ⟨ended, hended, hdevice, hopen, hmem⟩ := h.nextVersion row.deviceId
      · exact hsame
      · -- the confirmed row would be this one, and it is no longer open
        have hsame := hone before hbefore ended hended (hbecame.active hactive) hopen (hbecame.deviceId.symm.trans hdevice.symm)
        subst hsame
        have heq := Table.eq_of_key_eq hrow hmem hbecame.id
        rw [heq] at hissued
        cases hissued
    rw [hnext]
    cases hbecame with
    | same => exact hversioned row hbefore hissued
    | ended _ hended =>
      have hclosed : (before.end _).status.active = false := hended
      rw [hclosed] at hactive
      cases hactive
    | moved hmove =>
      cases hmove with
      | counted => exact hversioned before hbefore hissued
      | rejected => cases hissued
      | approved => cases hissued
      | issued _ _ _ _ hversion => exact ⟨_, rfl, hversion⟩
  · rw [hentered.pending] at hissued
    cases hissued

/-- What every state of a run has. -/
structure Sound (db : Db) : Prop where
  oneOpen : OneOpen db
  versioned : Versioned db

lemma Effects.sound (h : Effects runtime trustedLan act a db db') (hsound : Sound db) : Sound db' := by
  induction h with
  | refl => exact hsound
  | tail _ heffect ih => exact ⟨heffect.oneOpen ih.oneOpen, heffect.versioned ih.oneOpen ih.versioned⟩

lemma exec_or_stays (runtime : Runtime) (w : World) (act : Act) :
    (∃ w' a, w.exec runtime act = .ok (w', a) ∧ step runtime w act = w' ∧ answer runtime w act = some a) ∨
      (step runtime w act = w ∧ answer runtime w act = none) := by
  unfold step answer
  cases w.exec runtime act with
  | error failure => exact .inr ⟨rfl, rfl⟩
  | ok result => exact .inl ⟨result.1, result.2, rfl, rfl, rfl⟩

lemma exec_of_answer (h : answer runtime w act = some a) : w.exec runtime act = .ok (step runtime w act, a) := by
  obtain ⟨w', a', hexec, hstep, hanswer⟩ | ⟨-, hanswer⟩ := exec_or_stays runtime w act
  · rw [hanswer] at h
    obtain rfl := Option.some.inj h
    rw [hexec, hstep]
  · rw [hanswer] at h
    cases h

theorem step_sound (act : Act) (h : Sound w.db) : Sound (step runtime w act).db := by
  obtain ⟨w', a, hexec, hstep, -⟩ | ⟨hstep, -⟩ := exec_or_stays runtime w act
  · rw [hstep]
    exact (exec_effects hexec).sound h
  · rwa [hstep]

/-! ### What a device presents -/

/-- The credential of a row. -/
structure Presents (runtime : Runtime) (secret : String) (version : Int) (device : Device) : Prop where
  hash : device.deviceSecretHash = some (Devices.hashDeviceSecret runtime secret)
  version : (device.credentialVersion : Int) = version

/-- A confirmation that installs a credential. -/
def Installing (act : Act) (a : Answer) (deviceId secret : String) (version : Int) : Prop :=
  ∃ now pairingId named nonce sent placeholder, act = .confirm now pairingId named nonce sent version placeholder ∧
    strip named = deviceId ∧ strip sent = secret ∧ a = .confirmed .confirmed

lemma Confirms.presents {deviceId : String} {envelope : Envelope} {store : Devices.Store}
    (h : Confirms runtime db deviceId envelope store) :
    ∃ device, store.devices.find deviceId = some device ∧
      Presents runtime envelope.deviceSecret envelope.credentialVersion device := by
  cases h with
  | inserted now placeholder settings hdevice =>
    have hnone : db.store.devices.find (insertedDevice runtime now deviceId envelope settings placeholder).id = none := hdevice
    exact ⟨_, (Table.find_add hnone deviceId).trans (if_pos rfl), rfl, rfl⟩
  | @updated now device settings hdevice =>
    exact ⟨confirmedDevice runtime now envelope settings device, device_put_self hdevice rfl, rfl, rfl⟩

lemma Confirmation.presents {pairingId deviceId secret : String} {version : Int} {row : Request} {envelope : Envelope}
    {store : Devices.Store} (h : Confirmation runtime trustedLan db pairingId deviceId secret version row envelope store) :
    ∃ device, store.devices.find (strip deviceId) = some device ∧ Presents runtime (strip secret) version device := by
  obtain ⟨device, hfind, hpresents⟩ := h.devices.presents
  rw [h.deviceId] at hfind
  rw [h.named, h.version] at hpresents
  exact ⟨device, hfind, hpresents⟩

/-- A device that may authenticate. -/
structure Live (device : Device) : Prop where
  automatic : device.authMode = .automatic
  paired : device.pairingState = .paired

/-- A live row that presents what another does. -/
structure SameCredential (before after : Device) : Prop where
  live : Live before
  hash : after.deviceSecretHash = before.deviceSecretHash
  version : after.credentialVersion = before.credentialVersion

lemma SameCredential.presents {before after : Device} (h : SameCredential before after) {secret : String} {version : Int}
    (hpresents : Presents runtime secret version before) : Presents runtime secret version after :=
  ⟨h.hash.trans hpresents.hash, by rw [h.version, hpresents.version]⟩

lemma Effect.credential (h : Effect runtime trustedLan act a db db') {deviceId : String} {device : Device}
    (hdevice : db'.device deviceId = some device) (hlive : Live device) :
    (∃ before, db.device deviceId = some before ∧ SameCredential before device) ∨
      ∃ secret version, Installing act a deviceId secret version ∧ Presents runtime secret version device := by
  cases h.device deviceId with
  | same hsame => exact .inl ⟨device, hsame ▸ hdevice, hlive, rfl, rfl⟩
  | @kept before _ hbefore hafter hkeeps =>
    obtain rfl := Option.some.inj (hafter.symm.trans hdevice)
    have hpaired : before.pairingState = .paired := by
      obtain hsame | hne := hkeeps.pairingState
      · rw [← hsame, hlive.paired]
      · exact absurd hlive.paired hne
    exact .inl ⟨before, hbefore, ⟨hkeeps.authMode ▸ hlive.automatic, hpaired⟩, hkeeps.deviceSecretHash, hkeeps.credentialVersion⟩
  | @updated before _ _ _ _ hbefore hafter hupdated =>
    obtain rfl := Option.some.inj (hafter.symm.trans hdevice)
    have hkeeps := Devices.updatedDevice_keeps hupdated
    have hautomatic := hkeeps.automatic.mp hlive.automatic
    exact .inl ⟨before, hbefore, ⟨hautomatic, hkeeps.pairingState hautomatic ▸ hlive.paired⟩, hkeeps.deviceSecretHash,
      hkeeps.credentialVersion⟩
  | confirmed hact hanswer howner _ hfound =>
    obtain ⟨installed, hfind, hpresents⟩ := hfound.presents
    rw [← hfound.deviceId, howner] at hfind
    obtain rfl := Option.some.inj (hfind.symm.trans hdevice)
    exact .inr ⟨_, _, ⟨_, _, _, _, _, _, hact, hfound.deviceId.symm.trans howner, rfl, hanswer⟩, hpresents⟩

/-- A live device presents what it did, or what the call installs. -/
theorem Effects.credential (h : Effects runtime trustedLan act a db db') {deviceId : String} {device : Device}
    (hdevice : db'.device deviceId = some device) (hlive : Live device) :
    (∃ before, db.device deviceId = some before ∧ SameCredential before device) ∨
      ∃ secret version, Installing act a deviceId secret version ∧ Presents runtime secret version device := by
  induction h generalizing device with
  | refl => exact .inl ⟨device, hdevice, hlive, rfl, rfl⟩
  | tail _ heffect ih =>
    obtain ⟨middle, hmiddle, hsame⟩ | hinstalled := heffect.credential hdevice hlive
    · obtain ⟨before, hbefore, hsame'⟩ | ⟨secret, version, hinstalling, hpresents⟩ := ih hmiddle hsame.live
      · exact .inl ⟨before, hbefore, hsame'.live, hsame.hash.trans hsame'.hash, hsame.version.trans hsame'.version⟩
      · exact .inr ⟨secret, version, hinstalling, hsame.presents hpresents⟩
    · exact .inr hinstalled

/-! ### The latest confirmation -/

/-- A call that newly confirms this credential. -/
def Installs (runtime : Runtime) (deviceId secret : String) (version : Int) (w : World) (act : Act) : Prop :=
  ∃ a, answer runtime w act = some a ∧ Installing act a deviceId secret version

/-- A revocation or a repair that succeeds. -/
def Revokes (runtime : Runtime) (deviceId : String) (w : World) (act : Act) : Prop :=
  (answer runtime w act).isSome = true ∧ ∃ now named, (act = .revoke now named ∨ act = .startRepair now named) ∧ strip named = deviceId

/-- A call after which the credential that was installed is no longer the latest. -/
def Ends (runtime : Runtime) (deviceId : String) (w : World) (act : Act) : Prop :=
  Revokes runtime deviceId w act ∨ ∃ secret version, Installs runtime deviceId secret version w act

lemma Installs.presents {deviceId secret : String} {version : Int} (h : Installs runtime deviceId secret version w act) :
    ∃ device, (step runtime w act).db.device deviceId = some device ∧ Presents runtime secret version device := by
  obtain ⟨a, hanswer, now, pairingId, named, nonce, sent, placeholder, rfl, rfl, rfl, rfl⟩ := h
  have hexec := exec_of_answer hanswer
  obtain ⟨⟨db', reply⟩, hconfirm, hexec⟩ := Checked.bind_eq_ok.mp hexec
  obtain ⟨hstep, hreply⟩ := Prod.mk.inj (Except.ok.inj hexec)
  obtain ⟨hne, -⟩ | ⟨-, row, envelope, store, hfound, rfl⟩ := confirm_cases hconfirm
  · exact absurd (Answer.confirmed.inj hreply) hne
  · rw [← hstep]
    exact hfound.presents

lemma rejectRequests_device (db : Db) (named deviceId : String) : (rejectRequests db named).device deviceId = db.device deviceId := rfl

lemma revoke_device {now : Nat} {named : String} (h : revoke now db named = .ok db') {device : Device}
    (hdevice : db'.device (strip named) = some device) : device.pairingState = .revoked := by
  unfold revoke at h
  obtain ⟨_, hid, h⟩ := Checked.bind_eq_ok.mp h
  obtain rfl := validateDeviceId_ofText hid
  obtain ⟨before, hfind, h⟩ := Checked.bind_eq_ok.mp h
  obtain ⟨-, -, h⟩ := Checked.bind_eq_ok.mp h
  obtain rfl := Except.ok.inj h
  rw [rejectRequests_device, device_put_self (Checked.orError_eq_ok.mp hfind)] at hdevice
  · obtain rfl := Option.some.inj hdevice
    rfl
  · rfl

lemma startRepair_device {now : Nat} {named : String} (h : startRepair now db named = .ok db') {device : Device}
    (hdevice : db'.device (strip named) = some device) : device.pairingState = .pairingPending := by
  unfold startRepair at h
  obtain ⟨_, hid, h⟩ := Checked.bind_eq_ok.mp h
  obtain rfl := validateDeviceId_ofText hid
  obtain ⟨before, hfind, h⟩ := Checked.bind_eq_ok.mp h
  obtain ⟨-, -, h⟩ := Checked.bind_eq_ok.mp h
  obtain rfl := Except.ok.inj h
  rw [rejectRequests_device, device_put_self (Checked.orError_eq_ok.mp hfind)] at hdevice
  · obtain rfl := Option.some.inj hdevice
    rfl
  · rfl

lemma Revokes.unpaired {deviceId : String} (h : Revokes runtime deviceId w act) {device : Device}
    (hdevice : (step runtime w act).db.device deviceId = some device) : device.pairingState ≠ .paired := by
  obtain ⟨hdone, now, named, hact, rfl⟩ := h
  obtain ⟨a, hanswer⟩ := Option.isSome_iff_exists.mp hdone
  have hexec := exec_of_answer hanswer
  obtain rfl | rfl := hact
  · obtain ⟨db', hrevoke, hexec⟩ := Checked.bind_eq_ok.mp hexec
    obtain ⟨hstep, -⟩ := Prod.mk.inj (Except.ok.inj hexec)
    rw [← hstep] at hdevice
    rw [revoke_device hrevoke hdevice]
    decide
  · obtain ⟨db', hrepair, hexec⟩ := Checked.bind_eq_ok.mp hexec
    obtain ⟨hstep, -⟩ := Prod.mk.inj (Except.ok.inj hexec)
    rw [← hstep] at hdevice
    rw [startRepair_device hrepair hdevice]
    decide

/-- Every live device presents what its latest confirmation installed. -/
def Latest (runtime : Runtime) (start : World) (acts : List Act) (w : World) : Prop :=
  ∀ deviceId device, w.db.device deviceId = some device → Live device → ∃ secret version,
    Runs.Since (step runtime) (Installs runtime deviceId secret version) (fun w act => ¬ Ends runtime deviceId w act) start acts ∧
      Presents runtime secret version device

theorem run_latest {start : World} (hstart : ∀ device ∈ start.db.store.devices, device.authMode ≠ .automatic) (acts : List Act) :
    Latest runtime start acts (run runtime start acts) := by
  apply Runs.invariant_of_history (I := Latest runtime start)
  · intro deviceId device hdevice hlive
    exact absurd hlive.automatic (hstart device (Table.find_eq_some hdevice).1)
  · intro acts act hlatest deviceId device hdevice hlive
    by_cases hinstalls : ∃ secret version, Installs runtime deviceId secret version (Runs.run (step runtime) start acts) act
    · obtain ⟨secret, version, hinstalls⟩ := hinstalls
      obtain ⟨installed, hfind, hpresents⟩ := hinstalls.presents
      obtain rfl := Option.some.inj (hfind.symm.trans hdevice)
      exact ⟨secret, version, .of_last hinstalls, hpresents⟩
    · have hends : ¬ Ends runtime deviceId (Runs.run (step runtime) start acts) act := by
        rintro (hrevokes | hreplaced)
        · exact hrevokes.unpaired hdevice hlive.paired
        · exact hinstalls hreplaced
      obtain ⟨w', a, hexec, hstep, hanswer⟩ | ⟨hstep, -⟩ := exec_or_stays runtime (Runs.run (step runtime) start acts) act
      · rw [hstep] at hdevice
        obtain ⟨before, hbefore, hsame⟩ | ⟨secret, version, hinstalling, -⟩ := (exec_effects hexec).credential hdevice hlive
        · obtain ⟨secret, version, hsince, hpresents⟩ := hlatest deviceId before hbefore hsame.live
          exact ⟨secret, version, hsince.snoc hends, hsame.presents hpresents⟩
        · exact absurd ⟨secret, version, a, hanswer, hinstalling⟩ hinstalls
      · rw [hstep] at hdevice
        obtain ⟨secret, version, hsince, hpresents⟩ := hlatest deviceId device hdevice hlive
        exact ⟨secret, version, hsince.snoc hends, hpresents⟩

end InkTime.Pairing
