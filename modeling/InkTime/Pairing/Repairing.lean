import InkTime.Pairing.Admission
import InkTime.Pairing.Lifecycle
import InkTime.Pairing.Settings

/-!
# Pairing again

A request takes a snapshot of the settings of its device, and the confirmation writes the snapshot back. The settings survive
where nobody changes them in between.
-/

namespace InkTime.Pairing

open Texts (strip)
open Devices (Device Settings Runtime)
open Json (Value Text)
open Relation (ReflTransGen)

variable {runtime : Runtime} {trustedLan : Bool} {act : Act} {a : Answer} {db db' : Db} {w start : World} {acts : List Act}
  {deviceId : String} {slots : Nat}

/-! ### Snapshots -/

def slotsOf (device : Device) : Nat := Schedule.resolveOfflineScheduleMaxSlots (.int device.offlineScheduleMaxSlots)

lemma resolve_resolve (value : Value) :
    Schedule.resolveOfflineScheduleMaxSlots (.int (Schedule.resolveOfflineScheduleMaxSlots value)) =
      Schedule.resolveOfflineScheduleMaxSlots value := by
  have hint : ∀ n : Int, Schedule.resolveOfflineScheduleMaxSlots (.int (Schedule.resolveOfflineScheduleMaxSlots (.int n))) =
      Schedule.resolveOfflineScheduleMaxSlots (.int n) := by
    intro n
    by_cases hn : n = 16 ∨ n = 24
    · obtain rfl | rfl := hn <;> rfl
    · have hlegacy : Schedule.resolveOfflineScheduleMaxSlots (.int n) = Schedule.legacyMaxOfflineSlots := if_neg hn
      rw [hlegacy]
      rfl
  cases value with
  | int n => exact hint n
  | _ => rfl

lemma resolve_capabilityMaxSlots (capabilities : Capabilities) :
    Schedule.resolveOfflineScheduleMaxSlots (.int (capabilityMaxSlots capabilities)) = capabilityMaxSlots capabilities :=
  resolve_resolve _

/-- What an open request of a device holds of its settings. The name and the panel are read again at the approval. -/
inductive Snapshot (settings : Settings) (slots : Nat) (row : Request) : Prop
  | pending (hstatus : row.status = .pending) (name panelProfile : String)
      (hconfig : Shows row.config { settings with name, panelProfile })
  | approved (hstatus : row.status = .approved) (hconfig : Shows row.config settings)
  | issued (hstatus : row.status = .credentialIssued) {envelope : Envelope} (henvelope : row.envelope = some envelope)
      (hconfig : Shows envelope.config settings) (hslots : envelope.offlineScheduleMaxSlots = slots)

lemma shows_merged {row : Request} {device : Device} {name panelProfile : String}
    (h : Shows row.config { device.settings with name, panelProfile }) (hname : device.settings.name ≠ "")
    (hpanel : device.settings.panelProfile ≠ "") : Shows (mergedConfig row [] (some device)) device.settings := by
  intro key hkey
  have hconfig := h key hkey
  simp only [mergedConfig, List.append_nil]
  rw [if_neg hname, if_neg hpanel, field_append, hconfig]
  simp only [configKeys, List.mem_cons, List.not_mem_nil, or_false] at hkey
  rcases hkey with rfl | rfl | rfl | rfl | rfl | rfl | rfl | rfl | rfl | rfl | rfl | rfl | rfl | rfl | rfl <;> rfl

lemma shows_configSource {device : Device} (hvalid : Valid runtime slots device.settings) :
    Shows (configSource device) device.settings := by
  obtain ⟨times, htimes, hschedule, -⟩ := hvalid.times
  have hexisting : Devices.existingSchedule device = times.map some := by
    cases times with
    | nil => cases hschedule
    | cons first rest => rw [Devices.existingSchedule, htimes, List.map_cons]
  have hne : times.map some ≠ [] := by
    intro hnil
    rw [List.map_eq_nil_iff.mp hnil] at hschedule
    cases hschedule
  have hsource : configSource device = settingsFields device.settings ++ [(.utf8 "schedule_times", scheduleArray (times.map some))] := by
    rw [configSource, hexisting, if_neg hne, orDefault, if_neg hvalid.timezone.2.1, orDefault, if_neg hvalid.schedule.2.1, orDefault,
      if_neg hvalid.panelProfile.2.1]
  intro key hkey
  rw [hsource, configFields, htimes, Option.getD_some, field_append, field_append]
  simp only [configKeys, List.mem_cons, List.not_mem_nil, or_false] at hkey
  rcases hkey with rfl | rfl | rfl | rfl | rfl | rfl | rfl | rfl | rfl | rfl | rfl | rfl | rfl | rfl | rfl <;> rfl

/-! ### The invariant -/

/-- The device is an automatic one with valid settings. -/
structure Administered (runtime : Runtime) (slots : Nat) (device : Device) : Prop where
  automatic : device.authMode = .automatic
  capability : slotsOf device = slots
  valid : Valid runtime slots device.settings

/-- Every open request of the device holds its settings. -/
structure Kept (runtime : Runtime) (deviceId : String) (slots : Nat) (db : Db) : Prop where
  device : ∃ device, db.device deviceId = some device ∧ Administered runtime slots device
  rows : ∀ device, db.device deviceId = some device → ∀ row ∈ db.requests, row.deviceId = deviceId → row.status.active = true →
    capabilityMaxSlots row.capabilities = slots ∧ Snapshot device.settings slots row

/-- Calls other than updates, with the slots of the device unchanged and approvals that bring no configuration. -/
structure Fair (deviceId : String) (slots : Nat) (act : Act) : Prop where
  slots : ∀ now payload ipAddress pairingId accepted, act = .requestPairing now payload ipAddress pairingId →
    validateDeviceId payload.deviceId = .ok deviceId → acceptCapabilities payload.capabilities = .ok accepted →
    capabilityMaxSlots accepted = slots
  config : ∀ now pairingId administratorId deviceConfig, act = .approve now pairingId administratorId deviceConfig →
    deviceConfig = []
  update : ∀ now named changes, act ≠ .update now named changes

/-- The normalization of a snapshot gives the settings back. -/
lemma Administered.normalized {device : Device} (h : Administered runtime slots device) {source : Fields} {fallback : String}
    {maximum : Nat} {settings : Settings} (hshows : Shows source device.settings)
    (hmaximum : Schedule.resolveOfflineScheduleMaxSlots (.int maximum) = slots)
    (hconfig : normalizeConfig runtime source fallback maximum = .ok settings) : settings = device.settings := by
  have hkeeps : normalizeConfig runtime source fallback maximum = .ok device.settings :=
    normalizeConfig_valid hshows (hmaximum.symm ▸ h.valid)
  exact Except.ok.inj (hconfig.symm.trans hkeeps)

/-- A confirmation writes the settings back that the row has. -/
lemma Confirmation.settings {pairingId named secret : String} {version : Int} {row : Request} {envelope : Envelope}
    {store : Devices.Store} (h : Confirmation runtime trustedLan db pairingId named secret version row envelope store)
    (hkept : Kept runtime deviceId slots db) (hdevice : row.deviceId = deviceId) {before after : Device}
    (hbefore : db.device deviceId = some before) (hafter : store.devices.find deviceId = some after) :
    after.settings = before.settings ∧ Administered runtime slots after := by
  obtain ⟨device, hfind, hadministered⟩ := hkept.device
  obtain rfl := Option.some.inj (hfind.symm.trans hbefore)
  have hactive : row.status.active = true := by
    rw [h.issued]
    rfl
  obtain ⟨-, hsnapshot⟩ := hkept.rows device hbefore row h.mem hdevice hactive
  cases hsnapshot with
  | pending hstatus | approved hstatus =>
    rw [h.issued] at hstatus
    cases hstatus
  | @issued _ sealed henvelope hconfig hslots =>
    obtain rfl := Option.some.inj (henvelope.symm.trans h.holds)
    have hdevices := h.devices
    rw [hdevice] at hdevices
    cases hdevices with
    | inserted _ _ _ hnone =>
      rw [hbefore] at hnone
      cases hnone
    | @updated now current settings hcurrent hautomatic hnormalized =>
      obtain rfl := Option.some.inj (hcurrent.symm.trans hbefore)
      have hput : (db.putDevice (confirmedDevice runtime now sealed settings current)).device deviceId =
          some (confirmedDevice runtime now sealed settings current) := device_put_self hcurrent rfl
      obtain rfl := Option.some.inj (hput.symm.trans hafter)
      have hmaximum : Schedule.resolveOfflineScheduleMaxSlots (.int sealed.offlineScheduleMaxSlots) = slots := by
        rw [hslots, ← hadministered.capability]
        exact resolve_resolve _
      obtain rfl := hadministered.normalized hconfig ((resolve_resolve _).trans hmaximum) hnormalized
      exact ⟨rfl, rfl, (resolve_resolve _).trans hmaximum, hadministered.valid⟩

/-- A write of such a call leaves the settings of the device alone. -/
lemma Effect.settings (h : Effect runtime trustedLan act a db db') (hfair : Fair deviceId slots act)
    (hkept : Kept runtime deviceId slots db) {before : Device} (hbefore : db.device deviceId = some before) :
    ∃ after, db'.device deviceId = some after ∧ after.settings = before.settings ∧ Administered runtime slots after := by
  obtain ⟨device, hfind, hadministered⟩ := hkept.device
  obtain rfl := Option.some.inj (hfind.symm.trans hbefore)
  cases h.device deviceId with
  | same hsame => exact ⟨_, hsame.trans hfind, rfl, hadministered⟩
  | @kept _ after hbefore hafter hkeeps =>
    obtain rfl := Option.some.inj (hbefore.symm.trans hfind)
    refine ⟨after, hafter, hkeeps.settings, hkeeps.authMode.trans hadministered.automatic, ?_, hkeeps.settings ▸ hadministered.valid⟩
    rw [← hadministered.capability, slotsOf, slotsOf, hkeeps.offlineScheduleMaxSlots]
  | updated hact => exact absurd hact (hfair.update _ _ _)
  | confirmed _ _ howner _ hfound =>
    obtain ⟨after, hafter, -⟩ := hfound.presents
    rw [← hfound.deviceId, howner] at hafter
    exact ⟨after, hafter, hfound.settings hkept howner hbefore hafter⟩

lemma Move.snapshot {before after : Request} (h : Move runtime trustedLan act db before after) (hfair : Fair deviceId slots act)
    {device : Device} (hdevice : db.device deviceId = some device) (hadministered : Administered runtime slots device)
    (howner : before.deviceId = deviceId) (hslots : capabilityMaxSlots before.capabilities = slots)
    (hsnapshot : Snapshot device.settings slots before) (hactive : after.status.active = true) :
    capabilityMaxSlots after.capabilities = slots ∧ Snapshot device.settings slots after := by
  have hmaximum : Schedule.resolveOfflineScheduleMaxSlots (.int (capabilityMaxSlots before.capabilities)) = slots :=
    (resolve_capabilityMaxSlots _).trans hslots
  cases h with
  | rejected => cases hactive
  | counted =>
    refine ⟨hslots, ?_⟩
    cases hsnapshot with
    | pending hstatus name panelProfile hconfig => exact .pending hstatus name panelProfile hconfig
    | approved hstatus hconfig => exact .approved hstatus hconfig
    | issued hstatus henvelope hconfig hslots => exact .issued hstatus henvelope hconfig hslots
  | approved _ _ deviceConfig hpending hconfig hby =>
    refine ⟨(capabilityMaxSlots_mark _ _).trans hslots, ?_⟩
    have hnone : deviceConfig = [] := by
      obtain ⟨now, pairingId, administratorId, hact, -⟩ | ⟨-, hnone⟩ := hby
      · exact hfair.config _ _ _ _ hact
      · exact hnone
    subst hnone
    rw [howner, hdevice] at hconfig
    cases hsnapshot with
    | pending _ name panelProfile hshows =>
      have hmerged := shows_merged hshows hadministered.valid.name.2.1 hadministered.valid.panelProfile.2.1
      obtain rfl := hadministered.normalized hmerged hmaximum hconfig
      exact .approved rfl (shows_configFields _ _)
    | approved hstatus | issued hstatus =>
      rw [hpending] at hstatus
      cases hstatus
  | issued deadline happroved hconfig _ _ henvelope henvelopeSlots =>
    refine ⟨hslots, ?_⟩
    cases hsnapshot with
    | approved _ hshows =>
      obtain rfl := hadministered.normalized hshows hmaximum hconfig
      exact .issued rfl rfl (henvelope ▸ shows_configFields _ _) (henvelopeSlots.trans hslots)
    | pending hstatus | issued hstatus =>
      rw [happroved] at hstatus
      cases hstatus

lemma Opened.snapshot {row : Request} (h : Opened runtime db row) {device : Device} (hdevice : db.device deviceId = some device)
    (hadministered : Administered runtime slots device) (howner : row.deviceId = deviceId) (hpending : row.status = .pending)
    (hslots : capabilityMaxSlots row.capabilities = slots) : Snapshot device.settings slots row := by
  cases h with
  | conflict hfind hconflict =>
    rw [howner, hdevice] at hfind
    obtain rfl := Option.some.inj hfind
    -- the slots are those of the device
    have hsame : Schedule.resolveOfflineScheduleMaxSlots (.int device.offlineScheduleMaxSlots) = slots := hadministered.capability
    rw [hsame, hslots] at hconflict
    simp [capabilityConflict] at hconflict
  | normalized hfind hconfig hrow =>
    rw [howner, hdevice] at hfind
    obtain rfl := Option.some.inj hfind
    have hmaximum : Schedule.resolveOfflineScheduleMaxSlots (.int (capabilityMaxSlots row.capabilities)) = slots :=
      (resolve_capabilityMaxSlots _).trans hslots
    obtain rfl := hadministered.normalized (shows_configSource hadministered.valid) hmaximum hconfig
    exact .pending hpending device.settings.name device.settings.panelProfile (hrow ▸ shows_configFields _ _)
  | enrolled hnone =>
    rw [howner, hdevice] at hnone
    cases hnone

theorem Effect.kept (h : Effect runtime trustedLan act a db db') (hfair : Fair deviceId slots act)
    (hkept : Kept runtime deviceId slots db) : Kept runtime deviceId slots db' := by
  obtain ⟨before, hbefore, hadministered⟩ := hkept.device
  obtain ⟨after, hafter, hsettings, hadministered'⟩ := h.settings hfair hkept hbefore
  refine ⟨⟨after, hafter, hadministered'⟩, ?_⟩
  intro device hdevice row hrow howner hactive
  obtain rfl := Option.some.inj (hafter.symm.trans hdevice)
  rw [hsettings]
  obtain ⟨old, hold, hbecame⟩ | hentered := h.row hrow
  · obtain ⟨hslots, hsnapshot⟩ := hkept.rows before hbefore old hold (hbecame.deviceId ▸ howner) (hbecame.active hactive)
    cases hbecame with
    | same => exact ⟨hslots, hsnapshot⟩
    | moved hmove => exact hmove.snapshot hfair hbefore hadministered (hmove.deviceId ▸ howner) hslots hsnapshot hactive
    | ended _ hended =>
      have hclosed : (old.end _).status.active = false := hended
      rw [hclosed] at hactive
      cases hactive
  · obtain ⟨now, payload, ipAddress, accepted, hact, haccepted, hcapabilities, hpayload⟩ := hentered.act
    have hslots : capabilityMaxSlots row.capabilities = slots := by
      rw [hcapabilities, capabilityMaxSlots_mark]
      exact hfair.slots _ _ _ _ _ hact (howner ▸ hpayload) haccepted
    exact ⟨hslots, hentered.opened.snapshot hbefore hadministered howner hentered.pending hslots⟩

lemma Effects.kept (h : Effects runtime trustedLan act a db db') (hfair : Fair deviceId slots act)
    (hkept : Kept runtime deviceId slots db) : Kept runtime deviceId slots db' := by
  induction h with
  | refl => exact hkept
  | tail _ heffect ih => exact heffect.kept hfair ih

lemma Effects.settings (h : Effects runtime trustedLan act a db db') (hfair : Fair deviceId slots act)
    (hkept : Kept runtime deviceId slots db) {before : Device} (hbefore : db.device deviceId = some before) :
    ∃ after, db'.device deviceId = some after ∧ after.settings = before.settings := by
  induction h with
  | refl => exact ⟨before, hbefore, rfl⟩
  | tail hfirst heffect ih =>
    obtain ⟨middle, hmiddle, hsettings⟩ := ih
    obtain ⟨after, hafter, hsame, -⟩ := heffect.settings hfair (Effects.kept hfirst hfair hkept) hmiddle
    exact ⟨after, hafter, hsame.trans hsettings⟩

/-! ### Updates -/

/-- An update that leaves valid settings. While a request is open it changes no setting, but for the name and the panel as
long as the request waits for its approval. -/
structure Harmless (runtime : Runtime) (deviceId : String) (slots : Nat) (db : Db) (before after : Device) : Prop where
  valid : Valid runtime slots after.settings
  pending : ∀ row ∈ db.requests, row.deviceId = deviceId → row.status = .pending →
    after.settings = { before.settings with name := after.settings.name, panelProfile := after.settings.panelProfile }
  granted : ∀ row ∈ db.requests, row.deviceId = deviceId → row.status.active = true → row.status ≠ .pending →
    after.settings = before.settings

/-- The calls between which the settings survive. -/
def Considerate (runtime : Runtime) (deviceId : String) (slots : Nat) (w : World) : Act → Prop
  | .update now named changes => named = deviceId → ∀ before after, w.db.device deviceId = some before →
      Devices.updatedDevice before changes now = .ok (after, true) → Harmless runtime deviceId slots w.db before after
  | act => Fair deviceId slots act

lemma Harmless.snapshot {before after : Device} (h : Harmless runtime deviceId slots db before after) {row : Request}
    (hrow : row ∈ db.requests) (howner : row.deviceId = deviceId) (hsnapshot : Snapshot before.settings slots row) :
    Snapshot after.settings slots row := by
  have hgranted : row.status = .approved ∨ row.status = .credentialIssued → after.settings = before.settings := by
    intro hstatus
    apply h.granted row hrow howner
    · obtain hstatus | hstatus := hstatus <;> rw [hstatus] <;> rfl
    · obtain hstatus | hstatus := hstatus <;> rw [hstatus] <;> decide
  cases hsnapshot with
  | pending hstatus name panelProfile hconfig =>
    refine .pending hstatus name panelProfile ?_
    rw [h.pending row hrow howner hstatus]
    exact hconfig
  | approved hstatus hconfig => exact .approved hstatus (hgranted (.inl hstatus) ▸ hconfig)
  | issued hstatus henvelope hconfig hslots => exact .issued hstatus henvelope (hgranted (.inr hstatus) ▸ hconfig) hslots

lemma updated_kept {before after : Device} {now : Nat} {changes : Devices.Changes} (hkept : Kept runtime deviceId slots db)
    (hbefore : before ∈ db.store.devices) (hupdated : Devices.updatedDevice before changes now = .ok (after, true))
    (hharmless : before.id = deviceId → Harmless runtime deviceId slots db before after) :
    Kept runtime deviceId slots (db.putDevice after) := by
  have hkeeps := Devices.updatedDevice_keeps hupdated
  obtain ⟨device, hdevice, hadministered⟩ := hkept.device
  have hput := device_put hbefore hkeeps.id deviceId
  by_cases hid : before.id = deviceId
  · rw [if_pos hid] at hput
    have hfind : db.device deviceId = some before := hid ▸ Table.find_of_mem hbefore
    obtain rfl := Option.some.inj (hfind.symm.trans hdevice)
    refine ⟨⟨after, hput, hkeeps.automatic.mpr hadministered.automatic, ?_, (hharmless hid).valid⟩, ?_⟩
    · rw [← hadministered.capability, slotsOf, slotsOf, hkeeps.offlineScheduleMaxSlots]
    · intro current hcurrent row hrow howner hactive
      obtain rfl := Option.some.inj (hput.symm.trans hcurrent)
      obtain ⟨hslots, hsnapshot⟩ := hkept.rows before hfind row hrow howner hactive
      exact ⟨hslots, (hharmless hid).snapshot hrow howner hsnapshot⟩
  · rw [if_neg hid] at hput
    refine ⟨⟨device, hput.trans hdevice, hadministered⟩, ?_⟩
    intro current hcurrent row hrow howner hactive
    exact hkept.rows current (hput.symm.trans hcurrent) row hrow howner hactive

theorem step_kept (hkept : Kept runtime deviceId slots w.db) (hconsiderate : Considerate runtime deviceId slots w act) :
    Kept runtime deviceId slots (step runtime w act).db := by
  obtain ⟨w', a, hexec, hstep, -⟩ | ⟨hstep, -⟩ := exec_or_stays runtime w act
  · rw [hstep]
    cases act with
    | update now named changes =>
      unfold World.exec at hexec
      dsimp only at hexec
      split at hexec
      · next store written hupdate =>
        obtain ⟨rfl, -⟩ := Prod.mk.inj (Except.ok.inj hexec)
        unfold Devices.update at hupdate
        obtain ⟨current, hcurrent, hupdate⟩ := Checked.bind_eq_ok.mp hupdate
        obtain ⟨⟨updated, changed⟩, hupdated, hupdate⟩ := Checked.bind_eq_ok.mp hupdate
        obtain ⟨rfl, rfl⟩ := Prod.mk.inj (Except.ok.inj hupdate)
        obtain ⟨hmem, rfl⟩ := Table.find_eq_some (Checked.orError_eq_ok.mp hcurrent)
        cases changed with
        | true =>
          exact updated_kept hkept hmem hupdated fun hid =>
            hconsiderate hid current updated (hid ▸ Table.find_of_mem hmem) hupdated
        | false => exact hkept
      · cases hexec
    | _ => exact (exec_effects hexec).kept hconsiderate hkept
  · rwa [hstep]

/-- The act leaves the settings of the device as they were. -/
def KeepsSettings (runtime : Runtime) (deviceId : String) (w : World) (act : Act) : Prop :=
  ∃ before after, w.db.device deviceId = some before ∧ (step runtime w act).db.device deviceId = some after ∧
    after.settings = before.settings

/-- No request of the device is open yet. -/
structure Settled (runtime : Runtime) (deviceId : String) (slots : Nat) (start : World) : Prop where
  device : ∃ device, start.db.device deviceId = some device ∧ Administered runtime slots device
  free : ∀ row ∈ start.db.requests, row.deviceId = deviceId → row.status.active = false

theorem confirm_keeps_settings (hstart : Settled runtime deviceId slots start)
    (halong : Runs.Along (step runtime) (Considerate runtime deviceId slots) start acts) (now : Nat)
    (pairingId named nonce secret : String) (version : Int) (placeholder : String) :
    KeepsSettings runtime deviceId (run runtime start acts) (.confirm now pairingId named nonce secret version placeholder) := by
  have hinitial : Kept runtime deviceId slots start.db := by
    refine ⟨hstart.device, fun device _ row hrow howner hactive => ?_⟩
    rw [hstart.free row hrow howner] at hactive
    cases hactive
  have hsteps : ∀ (w : World) (act : Act), Kept runtime deviceId slots w.db → Considerate runtime deviceId slots w act →
      Kept runtime deviceId slots (step runtime w act).db := fun _ _ hkept hconsiderate => step_kept hkept hconsiderate
  have hkept : Kept runtime deviceId slots (run runtime start acts).db := Runs.invariant_of_along hsteps hinitial halong
  obtain ⟨before, hbefore, -⟩ := hkept.device
  have hfair : Fair deviceId slots (.confirm now pairingId named nonce secret version placeholder) :=
    ⟨fun _ _ _ _ _ heq => (by cases heq), fun _ _ _ _ heq => (by cases heq), fun _ _ _ heq => (by cases heq)⟩
  obtain ⟨w', a, hexec, hstep, -⟩ | ⟨hstep, -⟩ :=
    exec_or_stays runtime (run runtime start acts) (.confirm now pairingId named nonce secret version placeholder)
  · obtain ⟨after, hafter, hsettings⟩ := (exec_effects hexec).settings hfair hkept hbefore
    refine ⟨before, after, hbefore, ?_, hsettings⟩
    rw [hstep]
    exact hafter
  · refine ⟨before, before, hbefore, ?_, rfl⟩
    rw [hstep]
    exact hbefore

/-! ### A frame that is turned meanwhile -/

def deskFrame : Device where
  id := "frame-1"
  settings := {
    name := "Desk"
    timezone := "Asia/Taipei"
    schedule := "08:00"
    scheduleTimes := some [some "08:00"]
    rotation := 0
    panelProfile := "safe_4c"
    deliveryMode := .legacyOnline
    prefetchLeadMinutes := 5
    buttonWakeAction := .checkNew
    minimumScheduleGapMinutes := 60
    syncStrategy := .firstDisplayLead
    syncTime := none
    frameOrientation := none
    layoutMode := none
    fitMode := none }
  tokenHash := ""
  enabled := true
  offlineSchedule := none
  offlinePrefetchAllowed := false
  offlineScheduleVersion := 0
  offlineScheduleMaxSlots := 12
  offlineScheduleCapabilityState := .unknown12
  authMode := .automatic
  pairingState := .unpaired
  updatedAt := 0

def deskStart : World :=
  ⟨false, { store := ⟨⟨[deskFrame], List.nodup_singleton _⟩, []⟩, requests := .empty, users := ["admin"] }⟩

lemma deskStart_settled : Settled plainRuntime "frame-1" 12 deskStart where
  device := by
    refine ⟨deskFrame, rfl, rfl, rfl, ?_⟩
    exact {
      name := by decide +kernel
      timezone := by decide +kernel
      zone := rfl
      schedule := by decide +kernel
      gap := by decide
      sync := .inl ⟨rfl, rfl⟩
      times := ⟨["08:00"], rfl, by decide, by decide, by decide +kernel, by decide +kernel, by decide +kernel⟩
      rotation := .inl rfl
      panelProfile := by decide +kernel
      deliveryMode := by decide
      lead := by decide }
  free row hrow := by cases hrow

def requestAct : Act :=
  .requestPairing 1 { deviceId := ofText "frame-1", pairingNonce := ofText "0123456789abcdef" } "192.168.0.2" "pair-1"

def approveAct : Act := .approve 2 "pair-1" "admin" []

def claimAct : Act := .claim 4 "pair-1" "0123456789abcdef" frameSecret

def confirmAct : Act := .confirm 5 "pair-1" "frame-1" "0123456789abcdef" frameSecret 1 "placeholder"

/-- The administrator turns the frame between the approval and the claim. -/
def turnAct : Act :=
  .update 3 "frame-1"
    { name := "Desk", enabled := true, timezoneName := "Asia/Taipei", schedule := "08:00", rotation := 180, panelProfile := "safe_4c" }

/-- The frame is turned before it asks for a pairing, and renamed before the administrator approves. -/
def earlyTurn : Act :=
  .update 0 "frame-1"
    { name := "Desk", enabled := true, timezoneName := "Asia/Taipei", schedule := "08:00", rotation := 180, panelProfile := "safe_4c" }

def renameAct : Act :=
  .update 1 "frame-1"
    { name := "Shelf", enabled := true, timezoneName := "Asia/Taipei", schedule := "08:00", rotation := 180, panelProfile := "safe_4c" }

lemma considerate_update {now : Nat} {changes : Devices.Changes} {old new : Settings}
    (hold : (w.db.device deviceId).map (fun device => device.settings) = some old)
    (hnew : ((w.db.device deviceId).bind fun device => (Devices.updatedDevice device changes now).toOption).map
      (fun updated => updated.1.settings) = some new) (hvalid : Valid runtime slots new)
    (hopen : w.db.requests.rows.all (fun row => row.status = .pending ∧
      new = { old with name := new.name, panelProfile := new.panelProfile }) = true) :
    Considerate runtime deviceId slots w (.update now deviceId changes) := by
  intro _ before after hbefore hupdated
  rw [hbefore] at hold hnew
  obtain rfl := Option.some.inj hold
  rw [Option.bind_some, hupdated] at hnew
  obtain rfl := Option.some.inj hnew
  have hrow : ∀ row ∈ w.db.requests, row.status = .pending ∧
      after.settings = { before.settings with name := after.settings.name, panelProfile := after.settings.panelProfile } :=
    fun row hrow => of_decide_eq_true (List.all_eq_true.mp hopen row hrow)
  exact ⟨hvalid, fun row hmem _ _ => (hrow row hmem).2, fun row hmem _ _ hgranted => absurd (hrow row hmem).1 hgranted⟩

lemma fair_considerate (hfair : Fair deviceId slots act) : Considerate runtime deviceId slots w act := by
  cases act with
  | update now named changes => exact absurd rfl (hfair.update now named changes)
  | _ => exact hfair

/-- The settings of the frame under another name, turned. -/
def turnedSettings (name : String) : Settings := { deskFrame.settings with name, rotation := 180 }

lemma turnedSettings_valid {name : String} (hname : strip name = name ∧ name ≠ "" ∧ name.length ≤ 100) :
    Valid plainRuntime 12 (turnedSettings name) := by
  obtain ⟨device, hdevice, -, -, hvalid⟩ := deskStart_settled.device
  obtain rfl : deskFrame = device := Option.some.inj hdevice
  exact { hvalid with name := hname, rotation := .inr rfl }

def deskActs : List Act := [earlyTurn, requestAct, renameAct, approveAct, claimAct]

theorem confirm_keeps_settings_renamed :
    answer plainRuntime (run plainRuntime deskStart deskActs) confirmAct = some (.confirmed .confirmed) ∧
      ((run plainRuntime deskStart deskActs).db.device "frame-1").map (fun device => device.settings) =
        some (turnedSettings "Shelf") ∧
      KeepsSettings plainRuntime "frame-1" (run plainRuntime deskStart deskActs) confirmAct := by
  have hturn : Considerate plainRuntime "frame-1" 12 deskStart earlyTurn :=
    considerate_update rfl (by decide +kernel : _ = some (turnedSettings "Desk")) (turnedSettings_valid (by decide +kernel)) rfl
  have hrequest : Fair "frame-1" 12 requestAct := by
    refine ⟨?_, fun _ _ _ _ heq => (by cases heq), fun _ _ _ heq => (by cases heq)⟩
    intro now payload ipAddress pairingId accepted heq _ haccepted
    obtain ⟨rfl, rfl, rfl, rfl⟩ := Act.requestPairing.inj heq
    obtain rfl := Except.ok.inj haccepted
    rfl
  have hrename : Considerate plainRuntime "frame-1" 12 (run plainRuntime deskStart [earlyTurn, requestAct]) renameAct :=
    considerate_update (by decide +kernel : _ = some (turnedSettings "Desk")) (by decide +kernel : _ = some (turnedSettings "Shelf"))
      (turnedSettings_valid (by decide +kernel)) (by decide +kernel)
  have happrove : Fair "frame-1" 12 approveAct :=
    ⟨fun _ _ _ _ _ heq => (by cases heq), fun _ _ _ _ heq => (Act.approve.inj heq).2.2.2.symm, fun _ _ _ heq => (by cases heq)⟩
  have hclaim : Fair "frame-1" 12 claimAct :=
    ⟨fun _ _ _ _ _ heq => (by cases heq), fun _ _ _ _ heq => (by cases heq), fun _ _ _ heq => (by cases heq)⟩
  have halong : Runs.Along (step plainRuntime) (Considerate plainRuntime "frame-1" 12) deskStart deskActs :=
    ⟨hturn, fair_considerate hrequest, hrename, fair_considerate happrove, fair_considerate hclaim, trivial⟩
  exact ⟨newlyConfirmed_iff.mp (by decide +kernel), by decide +kernel,
    confirm_keeps_settings deskStart_settled halong 5 "pair-1" "frame-1" "0123456789abcdef" frameSecret 1 "placeholder"⟩

/-- The confirmation turns the frame back. -/
theorem turn_is_overwritten : Settled plainRuntime "frame-1" 12 deskStart ∧
    answer plainRuntime (run plainRuntime deskStart [requestAct, approveAct, turnAct, claimAct]) confirmAct =
      some (.confirmed .confirmed) ∧
    ¬ KeepsSettings plainRuntime "frame-1" (run plainRuntime deskStart [requestAct, approveAct, turnAct, claimAct]) confirmAct := by
  refine ⟨deskStart_settled, newlyConfirmed_iff.mp (by decide +kernel), ?_⟩
  rintro ⟨before, after, hbefore, hafter, hsettings⟩
  have hturned : ((run plainRuntime deskStart [requestAct, approveAct, turnAct, claimAct]).db.device "frame-1").map
      (fun device => device.settings.rotation) = some 180 := by decide +kernel
  have hback : ((step plainRuntime (run plainRuntime deskStart [requestAct, approveAct, turnAct, claimAct]) confirmAct).db.device
      "frame-1").map (fun device => device.settings.rotation) = some 0 := by decide +kernel
  rw [hbefore, Option.map_some, Option.some.injEq] at hturned
  rw [hafter, Option.map_some, Option.some.injEq, hsettings, hturned] at hback
  exact absurd hback (by decide)

end InkTime.Pairing
