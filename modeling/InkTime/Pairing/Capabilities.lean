import InkTime.Pairing.Admission
import InkTime.Pairing.Lifecycle

/-!
# Capabilities

Requests that differ in what their devices announce, with the same number of slots, are handled alike: every call answers the
same, and so the same requests are admitted.
-/

namespace InkTime.Pairing

open Texts (strip)
open Checked (Alike require orError)
open Devices (Device Runtime)

/-! ### Rows and tables -/

/-- Rows that differ in their capabilities, but not in the slots or the policy these name. -/
def AlikeRow (row row' : Request) : Prop :=
  ∃ capabilities, row' = { row with capabilities } ∧ capabilityMaxSlots capabilities = capabilityMaxSlots row.capabilities ∧
    storedLanRequest { row with capabilities } = storedLanRequest row

def AlikeDb (db db' : Db) : Prop := ∃ requests, db' = { db with requests } ∧ Table.Related AlikeRow db.requests requests

lemma AlikeRow.refl (row : Request) : AlikeRow row row := ⟨row.capabilities, rfl, rfl, rfl⟩

lemma AlikeRow.id {row row' : Request} (h : AlikeRow row row') : row.id = row'.id := by
  obtain ⟨capabilities, rfl, -⟩ := h
  rfl

lemma capabilityMaxSlots_mark_congr {capabilities capabilities' : Capabilities} (trustedLan : Bool)
    (h : capabilityMaxSlots capabilities = capabilityMaxSlots capabilities') :
    capabilityMaxSlots (Capabilities.mark capabilities trustedLan) = capabilityMaxSlots (Capabilities.mark capabilities' trustedLan) := by
  rw [capabilityMaxSlots_mark, capabilityMaxSlots_mark, h]

lemma AlikeRow.fields {row row' : Request} (h : AlikeRow row row') :
    row'.status = row.status ∧ row'.pairingNonceHash = row.pairingNonceHash := by
  obtain ⟨capabilities, rfl, -⟩ := h
  exact ⟨rfl, rfl⟩

lemma AlikeRow.filter {found found' : Option Request} (h : Option.Rel AlikeRow found found') (deviceId : String) :
    Option.Rel AlikeRow (found.filter fun row => row.deviceId == deviceId) (found'.filter fun row => row.deviceId == deviceId) := by
  cases h with
  | none => exact .none
  | @some row row' hrow =>
    have hdevice : row'.deviceId = row.deviceId := by
      obtain ⟨capabilities, rfl, -⟩ := hrow
      rfl
    rw [Option.filter_some, Option.filter_some, hdevice]
    split
    · exact .some hrow
    · exact .none

variable {runtime : Runtime} {trustedLan : Bool} {now : Nat} {db db' : Db}

lemma AlikeDb.put {row row' : Request} (h : AlikeDb db db') (hrow : AlikeRow row row') :
    AlikeDb (db.putRequest row) (db'.putRequest row') := by
  obtain ⟨requests, rfl, hrequests⟩ := h
  exact ⟨_, rfl, hrequests.put (fun _ _ h => h.id) hrow⟩

lemma AlikeDb.putDevice (h : AlikeDb db db') (device : Device) : AlikeDb (db.putDevice device) (db'.putDevice device) := by
  obtain ⟨requests, rfl, hrequests⟩ := h
  exact ⟨requests, rfl, hrequests⟩

lemma AlikeDb.find (h : AlikeDb db db') (pairingId : String) :
    Option.Rel AlikeRow (db.requests.find pairingId) (db'.requests.find pairingId) := by
  obtain ⟨requests, rfl, hrequests⟩ := h
  exact hrequests.find (fun _ _ h => h.id) pairingId

lemma AlikeDb.device (h : AlikeDb db db') (deviceId : String) : db'.device deviceId = db.device deviceId := by
  obtain ⟨requests, rfl, -⟩ := h
  rfl

lemma AlikeRow.expires {row row' : Request} (h : AlikeRow row row') (trustedLan : Bool) (now : Nat) :
    expires trustedLan now row = expires trustedLan now row' := by
  obtain ⟨capabilities, rfl, -, hlan⟩ := h
  unfold Pairing.expires
  rw [hlan]

lemma AlikeRow.end {row row' : Request} (h : AlikeRow row row') (status : Status) : AlikeRow (row.end status) (row'.end status) := by
  obtain ⟨capabilities, rfl, hslots, hlan⟩ := h
  exact ⟨capabilities, rfl, hslots, hlan⟩

lemma expireRequests_alike (trustedLan : Bool) (now : Nat) (h : AlikeDb db db') :
    AlikeDb (expireRequests trustedLan now db) (expireRequests trustedLan now db') := by
  obtain ⟨requests, rfl, hrequests⟩ := h
  have hany : ∀ deviceId : String, db.requests.any (fun row => expires trustedLan now row && row.deviceId == deviceId) =
      requests.any fun row => expires trustedLan now row && row.deviceId == deviceId := by
    intro deviceId
    apply hrequests.any
    intro row row' hrow
    rw [hrow.expires]
    obtain ⟨capabilities, rfl, -⟩ := hrow
    rfl
  refine ⟨(expireRequests trustedLan now { db with requests }).requests, ?_, ?_⟩
  · unfold expireRequests
    simp only [hany]
  · apply Table.Related.delete
    · exact hrequests.update (fun row row' hrow => hrow.expires trustedLan now) fun row row' hrow => hrow.end .expired
    · rintro row row' ⟨capabilities, rfl, -⟩
      rfl

lemma activeRequest_alike (h : AlikeDb db db') (deviceId : String) :
    Option.Rel AlikeRow (activeRequest db deviceId) (activeRequest db' deviceId) := by
  obtain ⟨requests, rfl, hrequests⟩ := h
  apply Table.head?_related
  apply Table.insertionSort_related
  · rintro _ _ _ _ ⟨_, rfl, -⟩ ⟨_, rfl, -⟩
    rfl
  · apply Table.filter_related hrequests
    rintro _ _ ⟨_, rfl, -⟩
    rfl

/-! ### Calls -/

/-- The same error, or alike tables and the same answer. -/
abbrev SameAnswer {α : Type} : Except Failure (Db × α) → Except Failure (Db × α) → Prop :=
  Alike fun result result' => AlikeDb result.1 result'.1 ∧ result.2 = result'.2

lemma approveRequest_alike (h : AlikeDb db db') {row row' : Request} (hrow : AlikeRow row row') (administratorId : Option String)
    (deviceConfig : Fields) :
    Alike AlikeDb (approveRequest runtime trustedLan now db row administratorId deviceConfig)
      (approveRequest runtime trustedLan now db' row' administratorId deviceConfig) := by
  have hput := h
  obtain ⟨requests, rfl, hrequests⟩ := h
  obtain ⟨capabilities, rfl, hslots, hlan⟩ := hrow
  unfold approveRequest
  rw [hslots]
  refine .same fun _ _ => .same fun _ _ => .same fun _ _ => .same fun settings _ => .same fun _ _ => .ok (hput.put ?_)
  exact ⟨_, rfl, capabilityMaxSlots_mark_congr trustedLan hslots, (storedLanRequest_mark rfl).trans (storedLanRequest_mark rfl).symm⟩

lemma approve_alike (h : AlikeDb db db') (pairingId administratorId : String) (deviceConfig : Fields) :
    SameAnswer (approve runtime trustedLan now db pairingId administratorId deviceConfig)
      (approve runtime trustedLan now db' pairingId administratorId deviceConfig) := by
  have hexpired := expireRequests_alike trustedLan now h
  unfold approve
  refine .same fun pairingId _ => .bind (.orError (hexpired.find pairingId) _) fun row row' hrow => ?_
  rw [hrow.fields.1]
  cases row.status with
  | approved | credentialIssued | confirmed => exact .ok ⟨hexpired, rfl⟩
  | rejected | expired => exact .error _
  | pending => exact .bind (approveRequest_alike hexpired hrow _ _) fun _ _ happroved => .ok ⟨happroved, rfl⟩

lemma issueCredential_alike (h : AlikeDb db db') {row row' : Request} (hrow : AlikeRow row row') (secret : String) :
    SameAnswer (issueCredential runtime trustedLan now db row secret) (issueCredential runtime trustedLan now db' row' secret) := by
  have hput := h
  obtain ⟨requests, rfl, hrequests⟩ := h
  obtain ⟨capabilities, rfl, hslots, hlan⟩ := hrow
  unfold issueCredential
  rw [hslots]
  refine .same fun _ _ => .same fun settings _ => ?_
  have hrow : ∀ (envelope : Envelope) (deadline : Option Nat), AlikeDb
      (db.putRequest { row with status := .credentialIssued, envelope := some envelope, envelopeExpiresAt := deadline })
      (Db.putRequest { db with requests }
        { row with status := .credentialIssued, envelope := some envelope, envelopeExpiresAt := deadline, capabilities }) :=
    fun envelope deadline => hput.put ⟨capabilities, rfl, hslots, hlan⟩
  cases hdevice : db.device row.deviceId with
  | none =>
    have hdevice' : Db.device { db with requests } row.deviceId = none := hdevice
    rw [hdevice']
    exact .ok ⟨hrow _ _, rfl⟩
  | some device =>
    have hdevice' : Db.device { db with requests } row.deviceId = some device := hdevice
    rw [hdevice']
    exact .ok ⟨(hrow _ _).putDevice _, rfl⟩

lemma AlikeRow.decodeEnvelope {row row' : Request} (h : AlikeRow row row') : decodeEnvelope now row' = decodeEnvelope now row := by
  obtain ⟨capabilities, rfl, -⟩ := h
  rfl

lemma AlikeRow.counted {row row' : Request} (h : AlikeRow row row') :
    AlikeRow (if 5 ≤ row.claimAttempts + 1 then Request.end { row with claimAttempts := row.claimAttempts + 1 } .rejected
        else { row with claimAttempts := row.claimAttempts + 1 })
      (if 5 ≤ row'.claimAttempts + 1 then Request.end { row' with claimAttempts := row'.claimAttempts + 1 } .rejected
        else { row' with claimAttempts := row'.claimAttempts + 1 }) := by
  obtain ⟨capabilities, rfl, hslots, hlan⟩ := h
  dsimp only
  split
  · exact ⟨capabilities, rfl, hslots, hlan⟩
  · exact ⟨capabilities, rfl, hslots, hlan⟩

lemma claim_alike (h : AlikeDb db db') (pairingId nonce secret : String) :
    SameAnswer (claim runtime trustedLan now db pairingId nonce secret) (claim runtime trustedLan now db' pairingId nonce secret) := by
  have hexpired := expireRequests_alike trustedLan now h
  unfold claim
  refine .same fun pairingId _ => .same fun nonce _ => .bind (.orError (hexpired.find pairingId) _) fun row row' hrow => ?_
  obtain ⟨hstatus, hnonce⟩ := hrow.fields
  have hcounted := hrow.counted
  rw [hstatus, hnonce] at hcounted ⊢
  refine .same fun _ _ => .same fun _ _ => ?_
  dsimp only
  split
  · exact .ok ⟨hexpired.put hcounted, rfl⟩
  · cases row.status with
    | credentialIssued =>
      dsimp only
      rw [hrow.decodeEnvelope]
      exact .same fun envelope _ => .ok ⟨hexpired, rfl⟩
    | pending =>
      dsimp only
      split
      · exact (approveRequest_alike hexpired hrow none []).bind fun _ _ happroved =>
          .bind (.orError (happroved.find pairingId) _) fun _ _ hrow => issueCredential_alike happroved hrow secret
      · exact .ok ⟨hexpired, rfl⟩
    | approved | confirmed | rejected | expired => exact issueCredential_alike hexpired hrow secret

lemma updateConfirmedDevice_alike (h : AlikeDb db db') (deviceId : String) (envelope : Envelope) (placeholder : String) :
    Alike AlikeDb (updateConfirmedDevice runtime now db deviceId envelope placeholder)
      (updateConfirmedDevice runtime now db' deviceId envelope placeholder) := by
  unfold updateConfirmedDevice
  rw [h.device]
  cases db.device deviceId with
  | none =>
    refine .same fun settings _ => .ok ?_
    obtain ⟨requests, rfl, hrequests⟩ := h
    exact ⟨requests, rfl, hrequests⟩
  | some device => exact .same fun _ _ => .same fun settings _ => .ok (h.putDevice _)

lemma confirm_alike (h : AlikeDb db db') (pairingId deviceId nonce secret : String) (credentialVersion : Int) (placeholder : String) :
    SameAnswer (confirm runtime trustedLan now db pairingId deviceId nonce secret credentialVersion placeholder)
      (confirm runtime trustedLan now db' pairingId deviceId nonce secret credentialVersion placeholder) := by
  have hexpired := expireRequests_alike trustedLan now h
  unfold confirm
  refine .same fun pairingId _ => .same fun deviceId _ => .same fun nonce _ => .same fun secret _ => .same fun _ _ => .same fun _ _ =>
    .bind (.orError (AlikeRow.filter (hexpired.find pairingId) deviceId) _) fun row row' hrow => ?_
  obtain ⟨hstatus, hnonce⟩ := hrow.fields
  rw [hstatus, hnonce]
  refine .same fun _ _ => ?_
  cases row.status with
  | confirmed =>
    dsimp only
    rw [hexpired.device]
    exact .same fun _ _ => .ok ⟨hexpired, rfl⟩
  | rejected | expired | approved => exact .error _
  | pending => exact .ok ⟨hexpired, rfl⟩
  | credentialIssued =>
    dsimp only
    rw [hrow.decodeEnvelope]
    exact .same fun envelope _ => .same fun _ _ => .bind (updateConfirmedDevice_alike hexpired deviceId envelope placeholder)
      fun _ _ hdevice => .ok ⟨hdevice.put (hrow.end .confirmed), rfl⟩

/-! ### Requests -/

lemma repeatRequest_alike (h : AlikeDb db db') {row row' : Request} (hrow : AlikeRow row row') (nonce : String) :
    SameAnswer (repeatRequest runtime trustedLan now db row nonce) (repeatRequest runtime trustedLan now db' row' nonce) := by
  have happrove : Alike AlikeDb (approveRequest runtime trustedLan now db row none [])
      (approveRequest runtime trustedLan now db' row' none []) := approveRequest_alike h hrow none []
  unfold repeatRequest
  obtain ⟨capabilities, rfl, hslots, hlan⟩ := hrow
  refine .same fun _ _ => ?_
  dsimp only
  split
  · exact happrove.bind fun _ _ happroved => .ok ⟨happroved, rfl⟩
  · exact .ok ⟨h, rfl⟩

lemma approveOnLan_alike (h : AlikeDb db db') {row row' : Request} (hrow : AlikeRow row row') :
    Alike AlikeDb (approveOnLan runtime trustedLan now db row) (approveOnLan runtime trustedLan now db' row') := by
  unfold approveOnLan
  split
  · exact approveRequest_alike h hrow none []
  · exact .ok h

lemma insert_alike (h : AlikeDb db db') {row row' : Request} (hrow : AlikeRow row row') :
    Option.Rel (Table.Related AlikeRow) (db.requests.insert row) (db'.requests.insert row') := by
  obtain ⟨requests, rfl, hrequests⟩ := h
  exact hrequests.insert (fun _ _ h => h.id) hrow

lemma AlikeDb.withRequests (h : AlikeDb db db') {requests requests' : Table Request.id}
    (hrequests : Table.Related AlikeRow requests requests') :
    AlikeDb { db with requests } { db' with requests := requests' } := by
  obtain ⟨_, rfl, -⟩ := h
  exact ⟨requests', rfl, hrequests⟩

lemma openRequest_alike (h : AlikeDb db db') {capabilities capabilities' : Capabilities}
    (hslots : capabilityMaxSlots capabilities' = capabilityMaxSlots capabilities)
    (deviceId nonce firmwareIdentity firmwareVersion panelProfile deviceName pairingId : String) :
    SameAnswer (openRequest runtime trustedLan now db deviceId nonce firmwareIdentity firmwareVersion panelProfile deviceName
        (Capabilities.mark capabilities trustedLan) pairingId)
      (openRequest runtime trustedLan now db' deviceId nonce firmwareIdentity firmwareVersion panelProfile deviceName
        (Capabilities.mark capabilities' trustedLan) pairingId) := by
  have hmarked := capabilityMaxSlots_mark_congr trustedLan hslots
  have hrow : ∀ row : Request, row.capabilities = Capabilities.mark capabilities trustedLan →
      AlikeRow row { row with capabilities := Capabilities.mark capabilities' trustedLan } := fun row hcapabilities =>
    ⟨_, rfl, hcapabilities ▸ hmarked, (storedLanRequest_mark rfl).trans (storedLanRequest_mark hcapabilities).symm⟩
  unfold openRequest
  rw [h.device, hmarked]
  refine .same fun _ _ => ?_
  dsimp only
  split
  · exact .bind (.orError (insert_alike h (hrow _ rfl)) _) fun _ _ hrequests => .ok ⟨h.withRequests hrequests, rfl⟩
  · refine .same fun settings _ => .bind (.orError (insert_alike h (hrow _ rfl)) _) fun _ _ hrequests =>
      .bind (approveOnLan_alike (h.withRequests hrequests) (hrow _ rfl)) fun _ _ happroved => .ok ⟨?_, rfl⟩
    cases db.device deviceId with
    | none => exact happroved
    | some device =>
      dsimp only
      split
      · exact happroved.putDevice _
      · exact happroved

/-- Capabilities that are refused alike, or are accepted with the same slots. -/
abbrev SameSlots (capabilities capabilities' : Option Capabilities) : Prop :=
  Alike (fun accepted accepted' => capabilityMaxSlots accepted' = capabilityMaxSlots accepted) (acceptCapabilities capabilities)
    (acceptCapabilities capabilities')

lemma rateLimit_alike (h : AlikeDb db db') (ipAddress deviceId : String) :
    Alike AlikeDb (rateLimit runtime now db ipAddress deviceId) (rateLimit runtime now db' ipAddress deviceId) := by
  obtain ⟨requests, rfl, hrequests⟩ := h
  unfold rateLimit
  exact .same fun _ _ => .same fun rows _ => .ok ⟨requests, rfl, hrequests⟩

lemma requestPairing_alike (h : AlikeDb db db') {payload : Payload} {capabilities : Option Capabilities}
    (hslots : SameSlots payload.capabilities capabilities) (ipAddress pairingId : String) :
    SameAnswer (requestPairing runtime trustedLan now db payload ipAddress pairingId)
      (requestPairing runtime trustedLan now db' { payload with capabilities } ipAddress pairingId) := by
  have hexpired := expireRequests_alike trustedLan now h
  unfold requestPairing
  refine .same fun deviceId _ => .same fun nonce _ => .same fun _ _ => .same fun firmwareIdentity _ => .same fun firmwareVersion _ =>
    .same fun panelProfile _ => .same fun deviceName _ => .bind hslots fun accepted accepted' hsame => ?_
  dsimp only
  have hactive := activeRequest_alike hexpired deviceId
  have hcount : (expireRequests trustedLan now db).requests.count (fun row => row.status.active) =
      (expireRequests trustedLan now db').requests.count fun row => row.status.active := by
    obtain ⟨requests, heq, hrequests⟩ := hexpired
    rw [heq]
    exact hrequests.count fun row row' hrow => by rw [hrow.fields.1]
  generalize activeRequest (expireRequests trustedLan now db) deviceId = found at hactive ⊢
  generalize activeRequest (expireRequests trustedLan now db') deviceId = found' at hactive ⊢
  cases hactive with
  | some hrow => exact repeatRequest_alike hexpired hrow nonce
  | none =>
    dsimp only
    rw [hcount]
    exact .same fun _ _ => .bind (rateLimit_alike hexpired ipAddress deviceId) fun _ _ hlimited =>
      openRequest_alike hlimited hsame deviceId nonce firmwareIdentity firmwareVersion panelProfile deviceName pairingId

/-! ### Administration -/

lemma reject_alike (h : AlikeDb db db') (pairingId : String) : Alike AlikeDb (reject now db pairingId) (reject now db' pairingId) := by
  unfold reject
  refine .same fun pairingId _ => .bind (.orError (h.find pairingId) _) fun row row' hrow => ?_
  have hdevice : row'.deviceId = row.deviceId := by
    obtain ⟨capabilities, rfl, -⟩ := hrow
    rfl
  have hput := h.put (hrow.end .rejected)
  rw [hrow.fields.1]
  refine .same fun _ _ => .ok ?_
  rw [hput.device, hdevice]
  cases (Db.device (db.putRequest (row.end .rejected)) row.deviceId).filter fun device => device.pairingState == .pairingPending with
  | none => exact hput
  | some device => exact hput.putDevice _

lemma rejectRequests_alike (h : AlikeDb db db') (deviceId : String) :
    AlikeDb (rejectRequests db deviceId) (rejectRequests db' deviceId) := by
  obtain ⟨requests, rfl, hrequests⟩ := h
  refine ⟨(rejectRequests { db with requests } deviceId).requests, rfl, ?_⟩
  unfold rejectRequests
  dsimp only
  apply Table.Related.update hrequests
  · rintro row row' ⟨capabilities, rfl, -⟩
    rfl
  · exact fun row row' hrow => AlikeRow.end hrow .rejected

lemma revoke_alike (h : AlikeDb db db') (deviceId : String) : Alike AlikeDb (revoke now db deviceId) (revoke now db' deviceId) := by
  unfold revoke
  refine .same fun deviceId _ => ?_
  rw [h.device]
  exact .same fun device _ => .same fun _ _ => .ok (rejectRequests_alike (h.putDevice _) deviceId)

lemma startRepair_alike (h : AlikeDb db db') (deviceId : String) :
    Alike AlikeDb (startRepair now db deviceId) (startRepair now db' deviceId) := by
  unfold startRepair
  refine .same fun deviceId _ => ?_
  rw [h.device]
  exact .same fun device _ => .same fun _ _ => .ok (rejectRequests_alike (h.putDevice _) deviceId)

/-! ### Runs -/

/-- Calls that differ in the capabilities of a request, where these name the same slots. -/
inductive AlikeAct : Act → Act → Prop
  | same (act : Act) : AlikeAct act act
  | request (now : Nat) (payload : Payload) (ipAddress pairingId : String) {capabilities : Option Capabilities}
      (hslots : SameSlots payload.capabilities capabilities) :
      AlikeAct (.requestPairing now payload ipAddress pairingId)
        (.requestPairing now { payload with capabilities } ipAddress pairingId)

def AlikeWorld (w w' : World) : Prop := w'.trustedLan = w.trustedLan ∧ AlikeDb w.db w'.db

theorem exec_alike {w w' : World} {act act' : Act} (h : AlikeWorld w w') (hact : AlikeAct act act') :
    Alike (fun result result' => AlikeWorld result.1 result'.1 ∧ result.2 = result'.2) (w.exec runtime act) (w'.exec runtime act') := by
  obtain ⟨trustedLan, db⟩ := w
  obtain ⟨trustedLan', db'⟩ := w'
  obtain ⟨hpolicy, hdb⟩ := h
  have hdb : AlikeDb db db' := hdb
  obtain rfl : trustedLan' = trustedLan := hpolicy
  have hok : ∀ {db db' : Db} {a a' : Answer}, AlikeDb db db' → a = a' →
      AlikeWorld ⟨trustedLan', db⟩ ⟨trustedLan', db'⟩ ∧ a = a' := fun hdb ha => ⟨⟨rfl, hdb⟩, ha⟩
  cases hact with
  | request now payload ipAddress pairingId hslots =>
    exact (requestPairing_alike hdb hslots ipAddress pairingId).bind fun _ _ hsame =>
        .ok (hok hsame.1 (congrArg Answer.requested hsame.2))
  | same =>
    cases act with
    | restart trustedLan => exact .ok ⟨⟨rfl, hdb⟩, rfl⟩
    | requestPairing now payload ipAddress pairingId =>
      have hslots : SameSlots payload.capabilities payload.capabilities := (Alike.refl _).mono fun _ _ heq => by rw [heq]
      exact (requestPairing_alike hdb hslots ipAddress pairingId).bind fun _ _ hsame =>
        .ok (hok hsame.1 (congrArg Answer.requested hsame.2))
    | approve now pairingId administratorId deviceConfig =>
      exact (approve_alike hdb pairingId administratorId deviceConfig).bind fun _ _ hsame =>
        .ok (hok hsame.1 (congrArg Answer.approved hsame.2))
    | claim now pairingId nonce secret =>
      exact (claim_alike hdb pairingId nonce secret).bind fun _ _ hsame =>
        .ok (hok hsame.1 (congrArg Answer.claimed hsame.2))
    | confirm now pairingId deviceId nonce secret credentialVersion placeholder =>
      exact (confirm_alike hdb pairingId deviceId nonce secret credentialVersion placeholder).bind fun _ _ hsame =>
        .ok (hok hsame.1 (congrArg Answer.confirmed hsame.2))
    | reject now pairingId => exact (reject_alike hdb pairingId).bind fun _ _ hsame => .ok (hok hsame rfl)
    | revoke now deviceId => exact (revoke_alike hdb deviceId).bind fun _ _ hsame => .ok (hok hsame rfl)
    | startRepair now deviceId => exact (startRepair_alike hdb deviceId).bind fun _ _ hsame => .ok (hok hsame rfl)
    | pendingForAdmin now =>
      exact .ok (hok (expireRequests_alike trustedLan' now hdb) rfl)
    | update now deviceId changes =>
      obtain ⟨requests, heq, hrequests⟩ := hdb
      unfold World.exec
      rw [heq]
      dsimp only
      split
      · exact .ok (hok ⟨requests, rfl, hrequests⟩ rfl)
      · exact .error _
    | authenticate now token ipAddress credentialVersion allowRepair =>
      obtain ⟨requests, heq, hrequests⟩ := hdb
      unfold World.exec
      rw [heq]
      dsimp only
      split
      · exact .ok (hok ⟨requests, rfl, hrequests⟩ rfl)
      · exact .error _

/-- What the calls of a run answer. -/
def answers (runtime : Runtime) : World → List Act → List (Option Answer)
  | _, [] => []
  | w, act :: rest => answer runtime w act :: answers runtime (step runtime w act) rest

lemma step_alike {w w' : World} {act act' : Act} (h : AlikeWorld w w') (hact : AlikeAct act act') :
    AlikeWorld (step runtime w act) (step runtime w' act') ∧ answer runtime w act = answer runtime w' act' := by
  have hexec : Alike _ (w.exec runtime act) (w'.exec runtime act') := exec_alike h hact
  unfold step answer
  generalize w.exec runtime act = result at hexec ⊢
  generalize w'.exec runtime act' = result' at hexec ⊢
  cases hexec with
  | error failure => exact ⟨h, rfl⟩
  | ok hsame => exact ⟨hsame.1, congrArg some hsame.2⟩

theorem answers_alike {w w' : World} {acts acts' : List Act} (h : AlikeWorld w w') (hacts : List.Forall₂ AlikeAct acts acts') :
    answers runtime w acts = answers runtime w' acts' := by
  induction hacts generalizing w w' with
  | nil => rfl
  | cons hact _ ih =>
    obtain ⟨hstep, hanswer⟩ := step_alike h hact
    rw [answers, answers, hanswer, ih hstep]

/-- Which requests are admitted. -/
structure AdmissionPolicy (runtime : Runtime) (start : World) : Prop where
  /-- What is newly confirmed outside the trusted LAN was approved by an administrator outside it. -/
  administrator : ∀ {acts : List Act} {now : Nat} {named deviceId nonce secret placeholder : String} {version : Int},
    (run runtime start acts).trustedLan = false →
    answer runtime (run runtime start acts) (.confirm now named deviceId nonce secret version placeholder) =
      some (.confirmed .confirmed) →
    Runs.Since (step runtime) (Approves runtime (strip named)) (fun w _ => Admitted (strip named) w.db) start acts
  /-- Capabilities count through their slots only. -/
  capabilities : ∀ {acts acts' : List Act}, List.Forall₂ AlikeAct acts acts' →
    answers runtime start acts = answers runtime start acts'

theorem admission {start : World} (hstart : start.db.requests.rows = []) : AdmissionPolicy runtime start where
  administrator := confirmed_vouched hstart
  capabilities := answers_alike ⟨rfl, start.db.requests, rfl, Table.Related.refl AlikeRow.refl _⟩

/-! ### A device with thirteen slots -/

def thirteenTimes : List (Option String) :=
  ["00:00", "01:00", "02:00", "03:00", "04:00", "05:00", "06:00", "07:00", "08:00", "09:00", "10:00", "11:00", "12:00"].map some

def wallFrame : Device where
  id := "frame-1"
  settings := {
    name := "Wall"
    timezone := "Asia/Taipei"
    schedule := "08:00"
    scheduleTimes := some thirteenTimes
    rotation := 0
    panelProfile := "safe_4c"
    deliveryMode := .legacyOnline
    prefetchLeadMinutes := 5
    buttonWakeAction := .checkNew
    minimumScheduleGapMinutes := 60
    syncStrategy := .firstDisplayLead
    syncTime := none
    frameOrientation := none
    layoutMode := none
    fitMode := none }
  tokenHash := ""
  enabled := true
  offlineSchedule := none
  offlinePrefetchAllowed := false
  offlineScheduleVersion := 0
  offlineScheduleMaxSlots := 24
  offlineScheduleCapabilityState := .confirmed24
  authMode := .automatic
  pairingState := .unpaired
  updatedAt := 0

def wallStart : World :=
  ⟨false, { store := ⟨⟨[wallFrame], List.nodup_singleton _⟩, []⟩, requests := .empty, users := ["admin"] }⟩

def announced (capabilities : Capabilities) : List Act :=
  [.requestPairing 1
      { deviceId := ofText "frame-1", pairingNonce := ofText "0123456789abcdef", capabilities := some capabilities }
      "192.168.0.2" "pair-1",
    .approve 2 "pair-1" "admin" [], .claim 3 "pair-1" "0123456789abcdef" frameSecret,
    .confirm 4 "pair-1" "frame-1" "0123456789abcdef" frameSecret 1 "placeholder"]

/-- No device is known yet. -/
def officeStart : World := ⟨false, { store := ⟨.empty, []⟩, requests := .empty, users := ["admin"] }⟩

theorem admission_office : Runs.Since (step plainRuntime) (Approves plainRuntime (strip "pair-1"))
    (fun w _ => Admitted (strip "pair-1") w.db) officeStart ((announced []).take 3) :=
  (admission rfl).administrator (by decide +kernel)
    (newlyConfirmed_iff.mp (by decide +kernel :
      newlyConfirmed (answer plainRuntime (run plainRuntime officeStart ((announced []).take 3))
        (.confirm 4 "pair-1" "frame-1" "0123456789abcdef" frameSecret 1 "placeholder")) = true))

/-- The slots a client announces decide whether its schedule fits, and so whether its request is admitted. -/
theorem slots_decide_admission : ¬ ∀ capabilities capabilities' : Capabilities,
    (answers plainRuntime wallStart (announced capabilities)).map newlyConfirmed =
      (answers plainRuntime wallStart (announced capabilities')).map newlyConfirmed := by
  intro h
  have hsame := h [("offline_schedule_max_slots", .int 24)] []
  have hdiffer : (answers plainRuntime wallStart (announced [("offline_schedule_max_slots", .int 24)])).map newlyConfirmed ≠
      (answers plainRuntime wallStart (announced [])).map newlyConfirmed := by decide +kernel
  exact hdiffer hsame

end InkTime.Pairing
