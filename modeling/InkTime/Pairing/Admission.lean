import InkTime.Library.Related
import InkTime.Pairing.Credentials

/-!
# Admission

Outside the trusted LAN a request that is confirmed was approved by an administrator. What a device announces as its
capabilities counts only through the number of slots.
-/

namespace InkTime.Pairing

open Texts (strip)
open Checked (Alike require orError)
open Devices (Device Runtime)
open Relation (ReflTransGen)

variable {runtime : Runtime} {trustedLan : Bool} {act : Act} {a : Answer} {db db' : Db} {w start : World} {acts : List Act}

/-! ### The marker -/

lemma get_mark (capabilities : Capabilities) (trustedLan : Bool) (name : String) :
    Capabilities.get (Capabilities.mark capabilities trustedLan) name =
      if name = "_enrollment_mode" then some (.text (if trustedLan then "trusted_lan" else "administrator"))
      else Capabilities.get capabilities name := by
  rw [Capabilities.get, Capabilities.mark, List.reverse_append, List.reverse_singleton, List.singleton_append, List.find?_cons]
  by_cases hname : name = "_enrollment_mode"
  · rw [if_pos hname, hname, beq_self_eq_true]
    rfl
  · rw [if_neg hname, beq_false_of_ne fun heq => hname heq.symm]
    rfl

lemma storedLanRequest_mark {row : Request} {capabilities : Capabilities}
    (h : row.capabilities = Capabilities.mark capabilities trustedLan) :
    storedLanRequest row = trustedLan := by
  rw [storedLanRequest, h, get_mark, if_pos rfl]
  cases trustedLan <;> decide

lemma capabilityMaxSlots_mark (capabilities : Capabilities) (trustedLan : Bool) :
    capabilityMaxSlots (Capabilities.mark capabilities trustedLan) = capabilityMaxSlots capabilities := by
  rw [capabilityMaxSlots, get_mark, if_neg (by decide), capabilityMaxSlots]

/-! ### The administrator -/

/-- Approved, and perhaps handed out. -/
def Request.admitted (row : Request) : Prop := row.status = .approved ∨ row.status = .credentialIssued

/-- A request under the administrator's policy that is admitted. -/
def Request.vouched (row : Request) : Prop := row.admitted ∧ storedLanRequest row = false

def Admitted (pairingId : String) (db : Db) : Prop := ∃ row ∈ db.requests, row.id = pairingId ∧ row.admitted

/-- An administrator's call, outside the trusted LAN, that approves the pending request. -/
structure Approves (runtime : Runtime) (pairingId : String) (w : World) (act : Act) : Prop where
  administrator : ∃ now named administratorId deviceConfig, act = .approve now named administratorId deviceConfig ∧
    strip named = pairingId
  policy : w.trustedLan = false
  pending : ∃ row ∈ w.db.requests, row.id = pairingId ∧ row.status = .pending
  approved : Admitted pairingId (step runtime w act).db

lemma Effects.pending (h : Effects runtime trustedLan act a db db') (hdrawn : ∀ now payload ipAddress pairingId,
    act ≠ .requestPairing now payload ipAddress pairingId) {row : Request} (hrow : row ∈ db'.requests)
    (hpending : row.status = .pending) : ∃ before ∈ db.requests, before.id = row.id ∧ before.status = .pending := by
  induction h generalizing row with
  | refl => exact ⟨row, hrow, rfl, hpending⟩
  | tail _ heffect ih =>
    obtain ⟨middle, hmiddle, hbecame⟩ | hentered := heffect.row hrow
    · have hmiddlePending : middle.status = .pending := by
        cases hbecame with
        | same => exact hpending
        | ended _ hended =>
          have hended : (middle.end _).status.active = false := hended
          rw [hpending] at hended
          cases hended
        | moved hmove =>
          cases hmove with
          | counted => exact hpending
          | rejected | approved | issued => cases hpending
      obtain ⟨before, hbefore, hid, hstatus⟩ := ih hmiddle hmiddlePending
      exact ⟨before, hbefore, hid.trans hbecame.id.symm, hstatus⟩
    · obtain ⟨now, payload, ipAddress, _, hact, -⟩ := hentered.act
      exact absurd hact (hdrawn _ _ _ _)

/-- A request that is vouched for after a call was so before it, or an administrator approves it by the call. -/
theorem Effects.vouched (h : Effects runtime trustedLan act a db db') {row : Request} (hrow : row ∈ db'.requests)
    (hvouched : row.vouched) : (∃ before ∈ db.requests, before.id = row.id ∧ before.vouched) ∨
      (trustedLan = false ∧ (∃ now named administratorId deviceConfig, act = .approve now named administratorId deviceConfig ∧
        strip named = row.id) ∧ ∃ before ∈ db.requests, before.id = row.id ∧ before.status = .pending) := by
  induction h generalizing row with
  | refl => exact .inl ⟨row, hrow, rfl, hvouched⟩
  | tail hfirst heffect ih =>
    obtain ⟨middle, hmiddle, hbecame⟩ | hentered := heffect.row hrow
    · rw [hbecame.id]
      cases hbecame with
      | same => exact ih hmiddle hvouched
      | ended _ hended =>
        have hended : (middle.end _).status.active = false := hended
        obtain ⟨hstatus | hstatus, -⟩ := hvouched
        · rw [hstatus] at hended
          cases hended
        · rw [hstatus] at hended
          cases hended
      | moved hmove =>
        cases hmove with
        | counted => exact ih hmiddle hvouched
        | rejected => obtain ⟨hstatus | hstatus, -⟩ := hvouched <;> cases hstatus
        | issued _ happroved => exact ih hmiddle ⟨.inl happroved, hvouched.2⟩
        | approved _ _ deviceConfig hpending _ hby =>
          have hpolicy : trustedLan = false := (storedLanRequest_mark rfl).symm.trans hvouched.2
          obtain ⟨now, named, administratorId, rfl, hid⟩ | ⟨hlan, -⟩ := hby
          · have hbefore := Effects.pending hfirst (fun _ _ _ _ heq => by cases heq) hmiddle hpending
            exact .inr ⟨hpolicy, ⟨now, named, administratorId, deviceConfig, rfl, hid.symm⟩, hbefore⟩
          · rw [hpolicy] at hlan
            cases hlan
    · obtain ⟨hstatus | hstatus, -⟩ := hvouched
      · rw [hentered.pending] at hstatus
        cases hstatus
      · rw [hentered.pending] at hstatus
        cases hstatus

/-- Every request that is vouched for has been approved by an administrator, and has been admitted ever since. -/
def Vouched (runtime : Runtime) (start : World) (acts : List Act) (w : World) : Prop :=
  ∀ row ∈ w.db.requests, row.vouched →
    Runs.Since (step runtime) (Approves runtime row.id) (fun w _ => Admitted row.id w.db) start acts

theorem run_vouched (hstart : start.db.requests.rows = []) (acts : List Act) : Vouched runtime start acts (run runtime start acts) := by
  apply Runs.invariant_of_history (I := Vouched runtime start)
  · intro row hrow
    rw [Table.mem_iff, hstart] at hrow
    cases hrow
  · intro acts act hvouched row hrow hrowVouched
    obtain ⟨w', a, hexec, hstep, -⟩ | ⟨hstep, -⟩ := exec_or_stays runtime (Runs.run (step runtime) start acts) act
    · have hafter := hrow
      rw [hstep] at hrow
      obtain ⟨before, hbefore, hid, hbeforeVouched⟩ | ⟨hpolicy, hadministrator, hpending⟩ :=
        (exec_effects hexec).vouched hrow hrowVouched
      · rw [← hid]
        exact (hvouched before hbefore hbeforeVouched).snoc ⟨before, hbefore, rfl, hbeforeVouched.1⟩
      · exact .of_last ⟨hadministrator, hpolicy, hpending, row, hafter, rfl, hrowVouched.1⟩
    · rw [hstep] at hrow
      exact (hvouched row hrow hrowVouched).snoc ⟨row, hrow, rfl, hrowVouched.1⟩

/-- A confirmation outside the trusted LAN is of a request that an administrator approved outside it. -/
lemma confirmed_vouched {now : Nat} {named deviceId nonce secret placeholder : String} {version : Int}
    (hstart : start.db.requests.rows = []) (hpolicy : (run runtime start acts).trustedLan = false)
    (h : answer runtime (run runtime start acts) (.confirm now named deviceId nonce secret version placeholder) =
      some (.confirmed .confirmed)) :
    Runs.Since (step runtime) (Approves runtime (strip named)) (fun w _ => Admitted (strip named) w.db) start acts := by
  obtain ⟨⟨db', reply⟩, hconfirm, hexec⟩ := Checked.bind_eq_ok.mp (exec_of_answer h)
  obtain ⟨-, hreply⟩ := Prod.mk.inj (Except.ok.inj hexec)
  obtain ⟨hne, -⟩ | ⟨-, row, envelope, store, hfound, -⟩ := confirm_cases hconfirm
  · exact absurd (Answer.confirmed.inj hreply) hne
  · have hactive : row.status.active = true := by
      rw [hfound.issued]
      rfl
    have hlan : storedLanRequest row = false := by
      obtain hlan | hlan := hfound.lan
      · rw [hpolicy] at hlan
        cases hlan
      · exact hlan
    rw [← hfound.id]
    exact run_vouched hstart acts row (active_of_expired hfound.mem hactive).1 ⟨.inr hfound.issued, hlan⟩

end InkTime.Pairing
