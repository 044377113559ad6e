import InkTime.Pairing.Credentials

/-!
# Whole histories of a credential

Versions rise from one confirmation of a device to the next, a request hands out one credential, and what authenticates is
the latest credential that was confirmed.
-/

namespace InkTime.Pairing

open Texts (strip)
open Devices (Device Runtime)
open Relation (ReflTransGen)

variable {runtime : Runtime} {trustedLan : Bool} {act : Act} {a : Answer} {db db' : Db} {w start : World} {acts : List Act}

/-! ### Versions rise -/

lemma Confirmation.version_next {pairingId deviceId secret : String} {version : Int} {row : Request} {envelope : Envelope}
    {store : Devices.Store} (h : Confirmation runtime trustedLan db pairingId deviceId secret version row envelope store)
    (hversioned : Versioned db) : version = nextVersion db row.deviceId := by
  obtain ⟨other, hother, hnext⟩ := hversioned row h.mem h.issued
  obtain rfl := Option.some.inj (hother.symm.trans h.holds)
  rw [← h.version, hnext]

/-- The device has had a credential of this version or a later one. -/
def Reached (deviceId : String) (version : Int) (db : Db) : Prop :=
  ∃ device, db.device deviceId = some device ∧ version ≤ (device.credentialVersion : Int)

lemma Reached.lt_next {deviceId : String} {version : Int} (h : Reached deviceId version db) :
    version < nextVersion db deviceId := by
  obtain ⟨device, hdevice, hle⟩ := h
  rw [nextVersion, hdevice, Option.map_some, Option.getD_some]
  omega

lemma Effect.reached (h : Effect runtime trustedLan act a db db') (hversioned : Versioned db) {deviceId : String} {version : Int}
    (hreached : Reached deviceId version db) : Reached deviceId version db' := by
  obtain ⟨device, hdevice, hle⟩ := id hreached
  cases h.device deviceId with
  | same hsame => exact ⟨device, hsame.trans hdevice, hle⟩
  | kept hbefore hafter hkeeps =>
    obtain rfl := Option.some.inj (hbefore.symm.trans hdevice)
    exact ⟨_, hafter, hkeeps.credentialVersion ▸ hle⟩
  | updated _ hbefore hafter hupdated =>
    obtain rfl := Option.some.inj (hbefore.symm.trans hdevice)
    exact ⟨_, hafter, (Devices.updatedDevice_keeps hupdated).credentialVersion ▸ hle⟩
  | confirmed _ _ howner _ hfound =>
    obtain ⟨installed, hfind, hpresents⟩ := hfound.presents
    have hnext := hfound.version_next hversioned
    rw [← hfound.deviceId, howner] at hfind
    rw [howner, ← hpresents.version] at hnext
    have hlt := hreached.lt_next
    exact ⟨installed, hfind, by omega⟩

lemma Effects.reached (h : Effects runtime trustedLan act a db db') (hsound : Sound db) {deviceId : String} {version : Int}
    (hreached : Reached deviceId version db) : Reached deviceId version db' := by
  induction h with
  | refl => exact hreached
  | tail hfirst heffect ih => exact heffect.reached (Effects.sound hfirst hsound).versioned ih

lemma step_reached (hsound : Sound w.db) {deviceId : String} {version : Int} (hreached : Reached deviceId version w.db) :
    Reached deviceId version (step runtime w act).db := by
  obtain ⟨w', a, hexec, hstep, -⟩ | ⟨hstep, -⟩ := exec_or_stays runtime w act
  · rw [hstep]
    exact (exec_effects hexec).reached hsound hreached
  · rwa [hstep]

lemma Installs.reached {deviceId secret : String} {version : Int} (h : Installs runtime deviceId secret version w act) :
    Reached deviceId version (step runtime w act).db := by
  obtain ⟨device, hdevice, hpresents⟩ := h.presents
  exact ⟨device, hdevice, hpresents.version.ge⟩

lemma Installs.lt {deviceId secret : String} {version earlier : Int} (h : Installs runtime deviceId secret version w act)
    (hsound : Sound w.db) (hreached : Reached deviceId earlier w.db) : earlier < version := by
  obtain ⟨a, hanswer, now, pairingId, named, nonce, sent, placeholder, rfl, rfl, rfl, rfl⟩ := h
  obtain ⟨⟨db', reply⟩, hconfirm, hexec⟩ := Checked.bind_eq_ok.mp (exec_of_answer hanswer)
  obtain ⟨-, hreply⟩ := Prod.mk.inj (Except.ok.inj hexec)
  have hexpired : Effects runtime w.trustedLan (.restart false) .done w.db (expireRequests w.trustedLan now w.db) :=
    .single (.expired w.db now)
  obtain ⟨hne, -⟩ | ⟨-, row, envelope, store, hfound, rfl⟩ := confirm_cases hconfirm
  · exact absurd (Answer.confirmed.inj hreply) hne
  · rw [hfound.version_next (hexpired.sound hsound).versioned, hfound.deviceId]
    exact (hexpired.reached hsound hreached).lt_next

/-! ### One credential for a request -/

/-- A claim that hands out an envelope. -/
def Issues (runtime : Runtime) (pairingId : String) (envelope : Envelope) (w : World) (act : Act) : Prop :=
  ∃ now named nonce secret, act = .claim now named nonce secret ∧ strip named = pairingId ∧
    answer runtime w act = some (.claimed (.issued envelope))

/-- The row has handed out the envelope, or is over. -/
def Passed (envelope : Envelope) (row : Request) : Prop :=
  (row.status = .credentialIssued ∧ row.envelope = some envelope) ∨ row.status.active = false

def Passes (pairingId : String) (envelope : Envelope) (db : Db) : Prop :=
  ∀ row ∈ db.requests, row.id = pairingId → Passed envelope row

lemma Became.passed {before after : Request} (h : Became runtime trustedLan act db before after) {envelope : Envelope}
    (hpassed : Passed envelope before) : Passed envelope after := by
  cases h with
  | same => exact hpassed
  | ended _ hended => exact .inr hended
  | moved hmove =>
    obtain ⟨hissued, henvelope⟩ | hclosed := hpassed
    · cases hmove with
      | counted => exact .inl ⟨hissued, henvelope⟩
      | rejected => exact .inr rfl
      | approved _ _ _ hpending =>
        rw [hissued] at hpending
        cases hpending
      | issued _ happroved =>
        rw [hissued] at happroved
        cases happroved
    · rw [hmove.active] at hclosed
      cases hclosed

/-- The pairing ids that are drawn at random. -/
def drawn (acts : List Act) : List String :=
  acts.filterMap fun
    | .requestPairing _ _ _ pairingId => some pairingId
    | _ => none

lemma mem_drawn {pairingId : String} : pairingId ∈ drawn acts ↔
    ∃ now payload ipAddress, Act.requestPairing now payload ipAddress pairingId ∈ acts := by
  unfold drawn
  rw [List.mem_filterMap]
  constructor
  · rintro ⟨act, hact, hid⟩
    cases act with
    | requestPairing now payload ipAddress id =>
      obtain rfl := Option.some.inj hid
      exact ⟨now, payload, ipAddress, hact⟩
    | _ => cases hid
  · rintro ⟨now, payload, ipAddress, hact⟩
    exact ⟨_, hact, rfl⟩

lemma drawn_append (acts more : List Act) : drawn (acts ++ more) = drawn acts ++ drawn more := List.filterMap_append

lemma Effects.passes (h : Effects runtime trustedLan act a db db') {pairingId : String} {envelope : Envelope}
    (hdrawn : pairingId ∉ drawn [act]) (hpasses : Passes pairingId envelope db) : Passes pairingId envelope db' := by
  induction h with
  | refl => exact hpasses
  | tail _ heffect ih =>
    intro row hrow hid
    obtain ⟨before, hbefore, hbecame⟩ | hentered := heffect.row hrow
    · exact hbecame.passed (ih before hbefore (hbecame.id ▸ hid))
    · obtain ⟨now, payload, ipAddress, accepted, rfl, -⟩ := hentered.act
      exact absurd (mem_drawn.mpr ⟨now, payload, ipAddress, hid ▸ List.mem_singleton.mpr rfl⟩) hdrawn

lemma Effects.drawn (h : Effects runtime trustedLan act a db db') {ids : List String} (hids : ∀ row ∈ db.requests, row.id ∈ ids)
    {row : Request} (hrow : row ∈ db'.requests) : row.id ∈ ids ++ Pairing.drawn [act] := by
  induction h generalizing row with
  | refl => exact List.mem_append_left _ (hids row hrow)
  | tail _ heffect ih =>
    obtain ⟨before, hbefore, hbecame⟩ | hentered := heffect.row hrow
    · rw [hbecame.id]
      exact ih hbefore
    · obtain ⟨now, payload, ipAddress, accepted, rfl, -⟩ := hentered.act
      exact List.mem_append_right _ (mem_drawn.mpr ⟨now, payload, ipAddress, List.mem_singleton.mpr rfl⟩)

lemma run_drawn (hstart : start.db.requests.rows = []) (acts : List Act) :
    ∀ row ∈ (run runtime start acts).db.requests, row.id ∈ drawn acts := by
  apply Runs.invariant_of_history (I := fun acts (w : World) => ∀ row ∈ w.db.requests, row.id ∈ drawn acts)
  · intro row hrow
    rw [Table.mem_iff, hstart] at hrow
    cases hrow
  · intro acts act hids row hrow
    rw [drawn_append]
    obtain ⟨w', a, hexec, hstep, -⟩ | ⟨hstep, -⟩ := exec_or_stays runtime (Runs.run (step runtime) start acts) act
    · rw [hstep] at hrow
      exact (exec_effects hexec).drawn hids hrow
    · rw [hstep] at hrow
      exact List.mem_append_left _ (hids row hrow)

/-- The row that holds an envelope. -/
def Holds (pairingId : String) (envelope : Envelope) (db : Db) : Prop :=
  ∃ row ∈ db.requests, row.id = pairingId ∧ row.status = .credentialIssued ∧ row.envelope = some envelope

lemma Holds.passes {pairingId : String} {envelope : Envelope} (h : Holds pairingId envelope db) : Passes pairingId envelope db := by
  obtain ⟨row, hrow, hid, hissued, henvelope⟩ := h
  intro other hother hotherId
  obtain rfl := Table.eq_of_key_eq hother hrow (hotherId.trans hid.symm)
  exact .inl ⟨hissued, henvelope⟩

lemma issueCredential_holds {now : Nat} {row : Request} {secret : String} {envelope : Envelope}
    (h : issueCredential runtime trustedLan now db row secret = .ok (db', .issued envelope)) (hrow : row ∈ db.requests) :
    Holds row.id envelope db' := by
  unfold issueCredential at h
  obtain ⟨-, -, h⟩ := Checked.bind_eq_ok.mp h
  obtain ⟨settings, -, h⟩ := Checked.bind_eq_ok.mp h
  have hput : ∀ after : Request, row.id = after.id → after ∈ (db.putRequest after).requests :=
    fun after hid => (Table.mem_put_iff hrow hid).mpr (.inl rfl)
  cases hdevice : db.device row.deviceId with
  | none =>
    rw [hdevice] at h
    obtain ⟨rfl, henvelope⟩ := Prod.mk.inj (Except.ok.inj h)
    exact ⟨_, hput _ rfl, rfl, rfl, congrArg some (Claimed.issued.inj henvelope)⟩
  | some device =>
    rw [hdevice] at h
    obtain ⟨rfl, henvelope⟩ := Prod.mk.inj (Except.ok.inj h)
    exact ⟨_, hput _ rfl, rfl, rfl, congrArg some (Claimed.issued.inj henvelope)⟩

lemma claim_issued {now : Nat} {pairingId nonce secret : String} {envelope : Envelope}
    (h : claim runtime trustedLan now db pairingId nonce secret = .ok (db', .issued envelope)) :
    Holds (strip pairingId) envelope db' ∧ ∀ other, Passes (strip pairingId) other db → other = envelope := by
  unfold claim at h
  obtain ⟨_, hid, h⟩ := Checked.bind_eq_ok.mp h
  obtain rfl := validateText_ofText hid
  obtain ⟨nonce, -, h⟩ := Checked.bind_eq_ok.mp h
  obtain ⟨row, hfound, h⟩ := Checked.bind_eq_ok.mp h
  obtain ⟨-, -, h⟩ := Checked.bind_eq_ok.mp h
  obtain ⟨_, hactive, h⟩ := Checked.bind_eq_ok.mp h
  obtain ⟨hrow, hrowId⟩ := find_mem (Checked.orError_eq_ok.mp hfound)
  have hactive : row.status.active = true := Checked.require_eq_ok.mp hactive
  have hpassed : ∀ other, Passes (strip pairingId) other db → row.status = .credentialIssued ∧ row.envelope = some other := by
    intro other hpasses
    obtain hissued | hclosed := hpasses row (active_of_expired hrow hactive).1 hrowId
    · exact hissued
    · rw [hactive] at hclosed
      cases hclosed
  rw [← hrowId]
  dsimp only at h
  split at h
  · obtain ⟨-, hreply⟩ := Prod.mk.inj (Except.ok.inj h)
    cases hreply
  · split at h
    · next hissued =>
      obtain ⟨sealed, hdecode, h⟩ := Checked.bind_eq_ok.mp h
      obtain ⟨rfl, hreply⟩ := Prod.mk.inj (Except.ok.inj h)
      obtain rfl := Claimed.issued.inj hreply
      unfold decodeEnvelope at hdecode
      obtain ⟨-, -, hdecode⟩ := Checked.bind_eq_ok.mp hdecode
      have henvelope := Checked.orError_eq_ok.mp hdecode
      refine ⟨⟨row, hrow, rfl, hissued, henvelope⟩, fun other hpasses => ?_⟩
      exact Option.some.inj ((hpassed other (hrowId ▸ hpasses)).2.symm.trans henvelope)
    · next hpending =>
      refine ⟨?_, fun other hpasses => ?_⟩
      · split at h
        · obtain ⟨approved, happrove, h⟩ := Checked.bind_eq_ok.mp h
          obtain ⟨current, hcurrent, h⟩ := Checked.bind_eq_ok.mp h
          obtain ⟨hmem, hcurrentId⟩ := find_mem (Checked.orError_eq_ok.mp hcurrent)
          rw [hrowId, ← hcurrentId]
          exact issueCredential_holds h hmem
        · obtain ⟨-, hreply⟩ := Prod.mk.inj (Except.ok.inj h)
          cases hreply
      · rw [(hpassed other (hrowId ▸ hpasses)).1] at hpending
        cases hpending
    · next hissued _ =>
      exact ⟨issueCredential_holds h hrow, fun other hpasses => absurd (hpassed other (hrowId ▸ hpasses)).1 hissued⟩

lemma Issues.claimed {pairingId : String} {envelope : Envelope} (h : Issues runtime pairingId envelope w act) :
    Holds pairingId envelope (step runtime w act).db ∧ ∀ other, Passes pairingId other w.db → other = envelope := by
  obtain ⟨now, named, nonce, secret, rfl, rfl, hanswer⟩ := h
  obtain ⟨⟨db', reply⟩, hclaim, hexec⟩ := Checked.bind_eq_ok.mp (exec_of_answer hanswer)
  obtain ⟨hstep, hreply⟩ := Prod.mk.inj (Except.ok.inj hexec)
  obtain rfl := Answer.claimed.inj hreply
  rw [← hstep]
  exact claim_issued hclaim

/-! ### Histories -/

/-- What a history tells of credentials. -/
structure Lifecycle (runtime : Runtime) (start : World) (acts : List Act) : Prop where
  /-- What authenticates was installed by the latest confirmation, and nothing has ended it since. -/
  authenticated : ∀ {now : Nat} {token ipAddress : String} {credentialVersion : Option Int} {device : Device},
    answer runtime (run runtime start acts) (.authenticate now token ipAddress credentialVersion false) =
      some (.authenticated (some device)) → device.authMode = .automatic →
    ∃ secret version, Runs.Since (step runtime) (Installs runtime device.id secret version)
      (fun w act => ¬ Ends runtime device.id w act) start acts ∧
      (token = secret ∨ token = Devices.secretAlias secret) ∧ credentialVersion = some version
  claims : ∀ {pairingId : String} {envelope envelope' : Envelope},
    Runs.Then (step runtime) (Issues runtime pairingId envelope) (Issues runtime pairingId envelope') start acts →
    envelope.deviceSecret = envelope'.deviceSecret ∧ envelope.credentialVersion = envelope'.credentialVersion
  versions : ∀ {deviceId secret secret' : String} {version version' : Int},
    Runs.Then (step runtime) (Installs runtime deviceId secret version) (Installs runtime deviceId secret' version') start acts →
    version < version'
  oneOpen : OneOpen (run runtime start acts).db

/-- Nothing has been requested or paired yet. -/
structure Unpaired (start : World) : Prop where
  requests : start.db.requests.rows = []
  devices : ∀ device ∈ start.db.store.devices, device.authMode ≠ .automatic

lemma run_sound (hstart : Unpaired start) (acts : List Act) : Sound (run runtime start acts).db := by
  have hnone : ∀ row : Request, row ∉ start.db.requests := fun row hrow => by
    rw [Table.mem_iff, hstart.requests] at hrow
    cases hrow
  have hsound : Sound start.db := ⟨fun row hrow => absurd hrow (hnone row), fun row hrow => absurd hrow (hnone row)⟩
  have hsteps : ∀ (w : World) (act : Act), Sound w.db → Sound (step runtime w act).db := fun _ act h => step_sound act h
  exact Runs.invariant_of_run hsteps hsound acts

lemma claims_agree (hstart : Unpaired start) (hdrawn : (drawn acts).Nodup) {pairingId : String} {envelope envelope' : Envelope}
    (h : Runs.Then (step runtime) (Issues runtime pairingId envelope) (Issues runtime pairingId envelope') start acts) :
    envelope = envelope' := by
  have hfirst : ∀ earlier op later, acts = earlier ++ op :: later →
      Issues runtime pairingId envelope (Runs.run (step runtime) start earlier) op → pairingId ∈ drawn (earlier ++ [op]) ∧
        Passes pairingId envelope (step runtime (Runs.run (step runtime) start earlier) op).db := by
    intro earlier op later _ hissues
    obtain ⟨hholds, -⟩ := hissues.claimed
    refine ⟨?_, hholds.passes⟩
    obtain ⟨row, hrow, rfl, -⟩ := hholds
    rw [← Runs.run_snoc (step runtime)] at hrow
    exact run_drawn hstart.requests _ row hrow
  have hstep : ∀ earlier op later, acts = earlier ++ op :: later → (pairingId ∈ drawn earlier ∧
      Passes pairingId envelope (Runs.run (step runtime) start earlier).db) → pairingId ∈ drawn (earlier ++ [op]) ∧
        Passes pairingId envelope (step runtime (Runs.run (step runtime) start earlier) op).db := by
    rintro earlier op later hacts ⟨hmem, hpasses⟩
    rw [drawn_append]
    refine ⟨List.mem_append_left _ hmem, ?_⟩
    -- the id is drawn already
    have hnew : pairingId ∉ drawn [op] := by
      intro hop
      rw [hacts, drawn_append, ← List.singleton_append, drawn_append, List.nodup_append] at hdrawn
      exact hdrawn.2.2 pairingId hmem pairingId (List.mem_append_left _ hop) rfl
    obtain ⟨w', a, hexec, hstep, -⟩ | ⟨hstep, -⟩ := exec_or_stays runtime (Runs.run (step runtime) start earlier) op
    · rw [hstep]
      exact (exec_effects hexec).passes hnew hpasses
    · rwa [hstep]
  obtain ⟨earlier, op, later, -, ⟨-, hpasses⟩, hissues⟩ :=
    h.invariant (I := fun earlier w => pairingId ∈ drawn earlier ∧ Passes pairingId envelope w.db) hfirst hstep
  exact hissues.claimed.2 envelope hpasses

lemma versions_rise (hstart : Unpaired start) {deviceId secret secret' : String} {version version' : Int}
    (h : Runs.Then (step runtime) (Installs runtime deviceId secret version) (Installs runtime deviceId secret' version') start acts) :
    version < version' := by
  obtain ⟨earlier, op, later, -, hreached, hinstalls⟩ := h.invariant (I := fun _ w => Reached deviceId version w.db)
    (fun _ _ _ _ hinstalls => hinstalls.reached)
    (fun earlier _ _ _ hreached => step_reached (run_sound hstart earlier) hreached)
  exact hinstalls.lt (run_sound hstart earlier) hreached

lemma authenticated_latest {now : Nat} {token ipAddress : String} {credentialVersion : Option Int} {device : Device}
    (hlatest : Latest runtime start acts w)
    (h : answer runtime w (.authenticate now token ipAddress credentialVersion false) = some (.authenticated (some device)))
    (hautomatic : device.authMode = .automatic) :
    ∃ secret version, Runs.Since (step runtime) (Installs runtime device.id secret version)
      (fun w act => ¬ Ends runtime device.id w act) start acts ∧
      (token = secret ∨ token = Devices.secretAlias secret) ∧ credentialVersion = some version := by
  have hexec := exec_of_answer h
  unfold World.exec at hexec
  dsimp only at hexec
  split at hexec
  · next store found hauthenticate =>
    obtain ⟨-, hreply⟩ := Prod.mk.inj (Except.ok.inj hexec)
    obtain rfl := Answer.authenticated.inj hreply
    obtain ⟨hmem, haccepts⟩ := Devices.authenticate_some hauthenticate
    obtain ⟨hpaired, hhash, hversion⟩ := Devices.accepts_automatic haccepts hautomatic
    obtain ⟨secret, version, hsince, hpresents⟩ := hlatest device.id device (Table.find_of_mem hmem) ⟨hautomatic, hpaired⟩
    rw [hpresents.hash] at hhash
    rw [hpresents.version] at hversion
    exact ⟨secret, version, hsince, Devices.token_of_secret hhash, hversion⟩
  · cases hexec

/-- A credential over any history of calls: the clock may even go back, and drawn pairing ids are distinct. -/
theorem credential_lifecycle (hstart : Unpaired start) (hdrawn : (drawn acts).Nodup) : Lifecycle runtime start acts where
  authenticated h hautomatic := authenticated_latest (run_latest hstart.devices acts) h hautomatic
  claims h := by
    obtain rfl := claims_agree hstart hdrawn h
    exact ⟨rfl, rfl⟩
  versions := versions_rise hstart
  oneOpen := (run_sound hstart acts).oneOpen

/-! ### A device on the trusted LAN -/

def plainRuntime : Runtime := ⟨id, fun _ _ h => h, fun _ => true⟩

def lanStart : World := ⟨true, { store := ⟨⟨[], .nil⟩, []⟩, requests := ⟨[], .nil⟩ }⟩

def frameSecret : String := "ids_0123456789abcdef0123456789ab"

def enrolment : List Act :=
  [.requestPairing 1 { deviceId := ofText "frame-1", pairingNonce := ofText "0123456789abcdef" } "192.168.0.2" "pair-1",
    .claim 2 "pair-1" "0123456789abcdef" frameSecret,
    .confirm 3 "pair-1" "frame-1" "0123456789abcdef" frameSecret 1 "placeholder"]

def newlyConfirmed : Option Answer → Bool
  | some (.confirmed .confirmed) => true
  | _ => false

lemma newlyConfirmed_iff {answer : Option Answer} : newlyConfirmed answer = true ↔ answer = some (.confirmed .confirmed) := by
  constructor
  · intro h
    unfold newlyConfirmed at h
    split at h
    · rfl
    · cases h
  · rintro rfl
    rfl

lemma lanStart_unpaired : Unpaired lanStart := by
  constructor
  · rfl
  · intro device hdevice
    cases hdevice

theorem credential_lifecycle_enrolment : Lifecycle plainRuntime lanStart enrolment :=
  credential_lifecycle lanStart_unpaired (by decide)

/-- The device that `authenticate` names. -/
def Answer.device : Answer → Option Device
  | .authenticated device => device
  | _ => none

lemma Answer.eq_of_device {answer : Answer} {device : Device} (h : answer.device = some device) :
    answer = .authenticated (some device) := by
  cases answer with
  | authenticated device => exact congrArg Answer.authenticated h
  | _ => cases h

/-- The hash of a secret is the token hash of its alias, and `authenticate` compares both. -/
theorem alias_authenticates : ∃ device,
    answer plainRuntime (run plainRuntime lanStart enrolment)
        (.authenticate 4 (Devices.secretAlias frameSecret) "192.168.0.2" (some 1) false) = some (.authenticated (some device)) ∧
      device.authMode = .automatic ∧ ∀ version, ¬ Runs.Since (step plainRuntime)
        (Installs plainRuntime device.id (Devices.secretAlias frameSecret) version)
        (fun w act => ¬ Ends plainRuntime device.id w act) lanStart enrolment := by
  have hshown : ((answer plainRuntime (run plainRuntime lanStart enrolment)
      (.authenticate 4 (Devices.secretAlias frameSecret) "192.168.0.2" (some 1) false)).bind Answer.device).any
        (fun device => device.authMode == .automatic) = true := by decide +kernel
  obtain ⟨device, hdevice, hmode⟩ := Option.any_eq_true _ _ |>.mp hshown
  obtain ⟨named, hanswer, hnamed⟩ := Option.bind_eq_some_iff.mp hdevice
  refine ⟨device, hanswer.trans (congrArg some (Answer.eq_of_device hnamed)), beq_iff_eq.mp hmode, ?_⟩
  rintro version ⟨earlier, op, later, hacts, ⟨a, -, now, pairingId, other, nonce, sent, placeholder, rfl, -, hsent, -⟩, -⟩
  have hmem : Act.confirm now pairingId other nonce sent version placeholder ∈ enrolment := by
    rw [hacts]
    exact List.mem_append_right _ List.mem_cons_self
  -- the only confirmation sends the secret itself
  simp only [enrolment, List.mem_cons, List.not_mem_nil, or_false, reduceCtorEq, false_or, Act.confirm.injEq] at hmem
  rw [hmem.2.2.2.2.1] at hsent
  exact absurd hsent (by decide +kernel)

end InkTime.Pairing
