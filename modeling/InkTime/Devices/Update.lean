import InkTime.Devices.Model

/-!
# What an update keeps and a token shows

An administrator's update leaves the credential of a device alone, and no device becomes automatic or paired by it. A token
that is accepted shows the credential of the row.
-/

namespace InkTime.Devices

open Checked (require orError)

/-- What an update leaves as it was. -/
structure SameCredential (before after : Device) : Prop where
  id : after.id = before.id
  credentialVersion : after.credentialVersion = before.credentialVersion
  deviceSecretHash : after.deviceSecretHash = before.deviceSecretHash
  offlineScheduleMaxSlots : after.offlineScheduleMaxSlots = before.offlineScheduleMaxSlots
  automatic : after.authMode = .automatic ↔ before.authMode = .automatic
  pairingState : before.authMode = .automatic → after.pairingState = before.pairingState

theorem updatedDevice_keeps {before after : Device} {changes : Changes} {now : Nat} {written : Bool}
    (h : updatedDevice before changes now = .ok (after, written)) : SameCredential before after := by
  unfold updatedDevice at h
  obtain ⟨-, -, h⟩ := Checked.bind_eq_ok.mp h
  obtain ⟨-, -, h⟩ := Checked.bind_eq_ok.mp h
  obtain ⟨mode, -, h⟩ := Checked.bind_eq_ok.mp h
  obtain ⟨prefetchAllowed, -, h⟩ := Checked.bind_eq_ok.mp h
  obtain ⟨_, hstock, h⟩ := Checked.bind_eq_ok.mp h
  obtain ⟨-, -, h⟩ := Checked.bind_eq_ok.mp h
  obtain ⟨-, -, h⟩ := Checked.bind_eq_ok.mp h
  obtain ⟨stored, -, h⟩ := Checked.bind_eq_ok.mp h
  obtain ⟨-, -, h⟩ := Checked.bind_eq_ok.mp h
  obtain ⟨button, -, h⟩ := Checked.bind_eq_ok.mp h
  obtain ⟨sync, -, h⟩ := Checked.bind_eq_ok.mp h
  obtain ⟨rfl, -⟩ := Prod.mk.inj (Except.ok.inj h)
  have hstock : ¬ (mode = .stockCompat ∧ before.authMode = .automatic) := by
    rw [not_and_or]
    simpa using Checked.require_eq_ok.mp hstock
  have hauto : (if mode = .stockCompat then AuthMode.stock else if before.authMode = .stock then .legacyToken else before.authMode) =
      .automatic ↔ before.authMode = .automatic := by
    constructor
    · intro heq
      split at heq
      · cases heq
      · split at heq
        · cases heq
        · exact heq
    · intro hbefore
      rw [if_neg fun hmode => hstock ⟨hmode, hbefore⟩, hbefore, if_neg (by decide)]
  refine ⟨rfl, rfl, rfl, rfl, hauto, ?_⟩
  intro hbefore
  exact if_neg fun hne => hne (hauto.mpr hbefore)

/-! ### Tokens -/

section Tokens

variable {runtime : Runtime} {store store' : Store} {device : Device} {now : Nat} {token ipAddress : String}
  {credentialVersion : Option Int} {allowRepair : Bool}

lemma authenticate_some (h : authenticate runtime store now token ipAddress credentialVersion allowRepair = .ok (store', some device)) :
    device ∈ store.devices ∧ accepts runtime now token credentialVersion allowRepair device = true := by
  unfold authenticate at h
  split at h
  · next row hfind =>
    obtain ⟨-, hrow⟩ := Prod.mk.inj (Except.ok.inj h)
    obtain rfl := Option.some.inj hrow
    have hmem := List.mem_of_find?_eq_some hfind
    rw [candidates, List.mem_insertionSort, List.mem_filter] at hmem
    exact ⟨hmem.1, List.find?_some hfind⟩
  · obtain ⟨-, -, h⟩ := Checked.bind_eq_ok.mp h
    obtain ⟨-, hrow⟩ := Prod.mk.inj (Except.ok.inj h)
    cases hrow

/-- Outside a repair, an automatic device is paired and shows its secret and its version. -/
lemma accepts_automatic (h : accepts runtime now token credentialVersion false device = true) (hautomatic : device.authMode = .automatic) :
    device.pairingState = .paired ∧ (device.deviceSecretHash = some (hashDeviceSecret runtime token) ∨
      device.deviceSecretHash = some (hashDeviceToken runtime token)) ∧ credentialVersion = some (device.credentialVersion : Int) := by
  simp only [accepts, hautomatic, bne_self_eq_false, Bool.and_false, Bool.false_and, Bool.not_false,
    Bool.false_eq_true, if_false, ne_eq, not_true_eq_false] at h
  split at h
  · cases h
  · next hpaired =>
    simp only [Bool.and_true, decide_eq_true_eq, not_not] at hpaired
    rw [Bool.and_eq_true, Bool.or_eq_true, beq_iff_eq, beq_iff_eq, beq_iff_eq] at h
    exact ⟨hpaired, h⟩

/-- The other text that has the digest of a secret. -/
def secretAlias (secret : String) : String := "device-secret-v1" ++ "\x00" ++ secret

lemma token_of_secret {secret : String} (h : some (hashDeviceSecret runtime secret) = some (hashDeviceSecret runtime token) ∨
    some (hashDeviceSecret runtime secret) = some (hashDeviceToken runtime token)) : token = secret ∨ token = secretAlias secret := by
  obtain h | h := h
  · left
    have happended := runtime.mac_injective (Option.some.inj h)
    exact ((String.append_right_inj _).mp happended).symm
  · exact .inr (runtime.mac_injective (Option.some.inj h)).symm

end Tokens

end InkTime.Devices
