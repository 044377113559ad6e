import InkTime.Releases.Contracts

/-!
# Crash consistency of a rollback

Wherever a rollback is left, the next successful recovery ends in the state before it or in the state it was to reach.
-/

namespace InkTime.Releases

open Checked (require orError)
open Durable (Cell)
open Interrupted Interrupted.Program

/-! ### The state a rollback is to reach -/

/-- `releaseId` published, the other published releases of its profile superseded. -/
def rolledBackRow (profile releaseId now : String) (row : ReleaseRow) : ReleaseRow :=
  if row.id = releaseId then { row with status := .published, publishedAt := some now }
  else if row.renderProfile = profile ∧ row.status = .published then { row with status := .superseded }
  else row

/-- The rows so, and both pointers activated for `releaseId`. -/
def ReleaseState.rolledBack (before : ReleaseState) (profile releaseId now : String) : ReleaseState where
  releases := before.releases.map (rolledBackRow profile releaseId now)
  pointers := fun name => if name = .latest ∨ name = .profile profile then some releaseId else before.pointers name

lemma rollbackStatements_eq (profile releaseId now : String) (releases : List ReleaseRow) :
    rollbackStatements profile releaseId now releases = releases.map (rolledBackRow profile releaseId now) := by
  rw [rollbackStatements, List.map_map]
  apply List.map_congr_left
  intro row _
  simp only [Function.comp_apply, supersedeOthers, publishAt, rolledBackRow]
  by_cases hid : row.id = releaseId
  · simp [hid]
  · by_cases hother : row.renderProfile = profile ∧ row.status = .published
    · simp [hid, hother]
    · have hkept : ¬(row.renderProfile = profile ∧ row.status = .published ∧ row.id ≠ releaseId) := fun h => hother ⟨h.1, h.2.1⟩
      simp only [if_neg hkept, if_neg hid, if_neg hother]

lemma rolledBackRow_id (profile releaseId now : String) (row : ReleaseRow) :
    (rolledBackRow profile releaseId now row).id = row.id := by
  unfold rolledBackRow
  split
  · rfl
  · split <;> rfl

lemma findRelease_map {profile releaseId now : String} {releases : List ReleaseRow} {row : ReleaseRow}
    (h : findRelease releaseId releases = some row) :
    findRelease releaseId (releases.map (rolledBackRow profile releaseId now)) = some (rolledBackRow profile releaseId now row) := by
  have hsame : ((fun row : ReleaseRow => row.id == releaseId) ∘ rolledBackRow profile releaseId now) = fun row => row.id == releaseId := by
    funext row
    simp [rolledBackRow_id]
  rw [findRelease, List.find?_map, hsame]
  rw [findRelease] at h
  rw [h, Option.map_some]

lemma findRelease_id {releaseId : String} {releases : List ReleaseRow} {row : ReleaseRow}
    (h : findRelease releaseId releases = some row) : row.id = releaseId := by
  simpa using List.find?_some h

/-! ### After the intent is written -/

section

variable {power leaving : Bool} {before : ReleaseState} {row : ReleaseRow} {manifest : Manifest} {releaseId now : String}
  {directories : String → Option ReleaseDirectory} {s : Store}

/-- The values of the covered pointers before the rollback. -/
def ReleaseState.snapshot (before : ReleaseState) (profile : String) : List (PointerName × Option String) :=
  [(.profile profile, before.pointers (.profile profile)), (.latest, before.pointers .latest)]

/-- The intent of a rollback from `before`. -/
def ReleaseState.intentFor (before : ReleaseState) (row : ReleaseRow) (releaseId now : String) : Intent :=
  rollbackIntent row releaseId now (before.snapshot row.renderProfile)

/-- Both pointers name the target, or the token is new and nothing raises between the commit and `committed = True`. -/
def Harmless (leaving : Bool) (before : ReleaseState) (row : ReleaseRow) (releaseId now : String) : Prop :=
  (before.pointers .latest = some releaseId ∧ before.pointers (.profile row.renderProfile) = some releaseId)
    ∨ (leaving = false ∧ ¬(row.status = .published ∧ row.publishedAt = some now))

lemma intentFor_committed_iff (hrow : findRelease releaseId before.releases = some row) :
    (before.intentFor row releaseId now).committed (findRelease (before.intentFor row releaseId now).releaseId before.releases) = true
      ↔ row.status = .published ∧ row.publishedAt = some now := by
  change Intent.committed _ (findRelease releaseId before.releases) = true ↔ _
  simp [Intent.committed, hrow, ReleaseState.intentFor, rollbackIntent]

lemma covers_intentFor {name : PointerName} :
    (before.intentFor row releaseId now).covers name = true ↔ name = .latest ∨ name = .profile row.renderProfile := covers_iff

lemma lookup_snapshot {name : PointerName} (h : name = .latest ∨ name = .profile row.renderProfile) :
    (before.snapshot row.renderProfile).lookup name = some (before.pointers name) := by
  rcases h with rfl | rfl
  · rfl
  · exact List.lookup_cons_self

/-- Before the commit, the intent leads back. -/
lemma intentFor_aim_before (hrow : findRelease releaseId before.releases = some row)
    (hsafe : Harmless leaving before row releaseId now) {name : PointerName}
    (hcovers : (before.intentFor row releaseId now).covers name = true) :
    (before.intentFor row releaseId now).aim before.releases name = before.pointers name := by
  have hname := covers_intentFor.mp hcovers
  rw [Intent.aim]
  by_cases hcommitted : row.status = .published ∧ row.publishedAt = some now
  · rw [if_pos ((intentFor_committed_iff hrow).mpr hcommitted)]
    rcases hsafe with hboth | ⟨-, hnew⟩
    · rcases hname with rfl | rfl
      · exact hboth.1.symm
      · exact hboth.2.symm
    · exact absurd hcommitted hnew
  · rw [if_neg fun h => hcommitted ((intentFor_committed_iff hrow).mp h)]
    change ((before.snapshot row.renderProfile).lookup name).getD none = _
    rw [lookup_snapshot hname, Option.getD_some]

/-- After the commit, it leads to the target. -/
lemma intentFor_aim_after (hrow : findRelease releaseId before.releases = some row) {name : PointerName}
    (hcovers : (before.intentFor row releaseId now).covers name = true) :
    (before.intentFor row releaseId now).aim (before.rolledBack row.renderProfile releaseId now).releases name
      = (before.rolledBack row.renderProfile releaseId now).pointers name := by
  have hfound : findRelease releaseId (before.rolledBack row.renderProfile releaseId now).releases
      = some { row with status := .published, publishedAt := some now } := by
    rw [ReleaseState.rolledBack, findRelease_map hrow, rolledBackRow, if_pos (findRelease_id hrow)]
  have hcommitted : (before.intentFor row releaseId now).committed
      (findRelease releaseId (before.rolledBack row.renderProfile releaseId now).releases) = true := by
    rw [hfound]
    simp [Intent.committed, ReleaseState.intentFor, rollbackIntent]
  rw [Intent.aim]
  exact (if_pos hcommitted).trans (if_pos (covers_intentFor.mp hcovers)).symm

abbrev ArmedBefore (power : Bool) (before : ReleaseState) (row : ReleaseRow) (releaseId now : String)
    (directories : String → Option ReleaseDirectory) (s : Store) : Prop :=
  s.Armed power (before.intentFor row releaseId now) directories before.pointers

lemma ArmedBefore.leads_before (h : ArmedBefore power before row releaseId now directories s)
    (hreleases : s.releases = before.releases) (hrow : findRelease releaseId before.releases = some row)
    (hsafe : Harmless leaving before row releaseId now) : s.Leads power before :=
  Store.Armed.leads h hreleases fun _ _ hcovers => intentFor_aim_before hrow hsafe hcovers

lemma ArmedBefore.elsewhere_after (h : ArmedBefore power before row releaseId now directories s) :
    s.Armed power (before.intentFor row releaseId now) directories (before.rolledBack row.renderProfile releaseId now).pointers where
  armed := h.armed
  unmoved := h.unmoved
  elsewhere := by
    intro name hname
    have hother : ¬(name = .latest ∨ name = .profile row.renderProfile) := by
      intro h
      rw [covers_intentFor.mpr h] at hname
      cases hname
    change Reads power _ (if name = .latest ∨ name = .profile row.renderProfile then some releaseId else before.pointers name)
    rw [if_neg hother]
    exact h.elsewhere name hname

lemma ArmedBefore.leads_after (h : ArmedBefore power before row releaseId now directories s)
    (hreleases : s.releases = (before.rolledBack row.renderProfile releaseId now).releases)
    (hrow : findRelease releaseId before.releases = some row) :
    s.Leads power (before.rolledBack row.renderProfile releaseId now) :=
  h.elsewhere_after.leads hreleases fun _ _ hcovers => intentFor_aim_after hrow hcovers

/-! ### The rollback -/

/-- The rollback can be followed to one of its two sides. -/
def Sided (power : Bool) (before : ReleaseState) (row : ReleaseRow) (releaseId now : String) (s : Store) : Prop :=
  s.Leads power before ∨ s.Leads power (before.rolledBack row.renderProfile releaseId now)

/-- Once the intent is durable: the rows of `state`, and only covered pointers away from `before`. -/
abbrev Between (power : Bool) (before : ReleaseState) (row : ReleaseRow) (releaseId now : String)
    (directories : String → Option ReleaseDirectory) (releases : List ReleaseRow) (s : Store) : Prop :=
  ArmedBefore power before row releaseId now directories s ∧ s.releases = releases

/-- The store with the intent written, synchronised or not. -/
structure Intended (power : Bool) (before : ReleaseState) (row : ReleaseRow) (releaseId now : String)
    (directories : String → Option ReleaseDirectory) (s : Store) : Prop where
  leads : s.Leads power before
  current : s.intent.current = some (.record (before.intentFor row releaseId now))
  pointers : s.pointer = before.pointers
  unmoved : s.directories = directories

lemma Intended.of_settled (h : s.Leads power before) (hnone : s.intent.current = none) (hdirectories : s.directories = directories)
    (hrow : findRelease releaseId before.releases = some row) (hsafe : Harmless leaving before row releaseId now) :
    Intended power before row releaseId now directories
      (s.setIntent (some (.record (before.intentFor row releaseId now)))) where
  leads := by
    refine ⟨h.releases, fun file pointers hmay out hout => ?_⟩
    rcases hmay.of_setIntent with ⟨rfl, hold⟩ | hold
    · have hpointers := h.pointers_eq hnone hold
      change recovered s.directories s.releases _ pointers = some out at hout
      rw [recovered] at hout
      split at hout
      · rw [← Option.some.inj hout, hpointers, h.releases]
        funext name
        by_cases hcovers : (before.intentFor row releaseId now).covers name = true
        · rw [if_pos hcovers, intentFor_aim_before hrow hsafe hcovers]
        · rw [if_neg hcovers]
      · cases hout
    · exact h.pointers file pointers hold out hout
  current := rfl
  pointers := h.pointer_eq hnone
  unmoved := hdirectories

lemma Intended.sync (h : Intended power before row releaseId now directories s) :
    Intended power before row releaseId now directories s.sync := ⟨h.leads.sync, h.current, h.pointers, h.unmoved⟩

lemma Intended.between (h : Intended power before row releaseId now directories s) (hsynced : power = true → s.Synced) :
    Between power before row releaseId now directories before.releases s := by
  refine ⟨⟨?_, h.unmoved, fun name _ => ?_⟩, h.leads.releases⟩
  · rw [← h.current]
    exact Reads.of_synced fun hpower => (hsynced hpower).2
  · rw [← congrFun h.pointers name]
    exact Reads.of_synced fun hpower => (hsynced hpower).1 name

lemma writeRollbackIntent_contract (hrow : findRelease releaseId before.releases = some row)
    (hsafe : Harmless leaving before row releaseId now) :
    Contract (Faults power leaving)
      (fun s => (s.Leads power before ∧ s.intent.current = none) ∧ s.directories = directories)
      (writeRollbackIntent (before.intentFor row releaseId now))
      (fun _ => Between power before row releaseId now directories before.releases)
      (Sided power before row releaseId now) (Sided power before row releaseId now) := by
  have hsided : ∀ s, ((s.Leads power before ∧ s.intent.current = none) ∧ s.directories = directories)
      ∨ Intended power before row releaseId now directories s → Sided power before row releaseId now s := by
    rintro s (h | h)
    · exact .inl h.1.1
    · exact .inl h.leads
  exact (replaceFile_contract (fun s h => Intended.of_settled h.1.1 h.1.2 h.2 hrow hsafe) fun _ h => h.sync).mono
    (fun _ h => h) (fun _ _ h => h.1.between h.2) hsided hsided

/-- The transaction has committed and both pointers name the target. -/
def Committed (power : Bool) (before : ReleaseState) (row : ReleaseRow) (releaseId now : String)
    (directories : String → Option ReleaseDirectory) (s : Store) : Prop :=
  Between power before row releaseId now directories (before.rolledBack row.renderProfile releaseId now).releases s
    ∧ ∀ name, Reads power (s.pointers name) ((before.rolledBack row.renderProfile releaseId now).pointers name)

lemma activated_contract (hmanifest : manifest.releaseId = releaseId) (hformal : manifest.isFormal row.renderProfile = true) :
    Contract (Faults power leaving) (Between power before row releaseId now directories before.releases)
      (activateManifests [manifest])
      (fun _ s => Between power before row releaseId now directories before.releases s
        ∧ ∀ name, Reads power (s.pointers name) ((before.rolledBack row.renderProfile releaseId now).pointers name))
      (Between power before row releaseId now directories before.releases)
      (Between power before row releaseId now directories before.releases) := by
  refine (activateManifest_contract (Manifest.isFormal_profile hformal) ?_ fun _ h => ⟨h.1.sync, h.2⟩).weaken ?_
  · intro name hname s h
    exact ⟨h.1.setPointer (covers_intentFor.mpr hname), h.2⟩
  · rintro _ s ⟨⟨h, hactivated⟩, hsynced⟩
    refine ⟨h, fun name => ?_⟩
    by_cases hname : name = .latest ∨ name = .profile row.renderProfile
    · have hcurrent : (s.pointers name).current = (before.rolledBack row.renderProfile releaseId now).pointers name := by
        rw [← hmanifest]
        exact (hactivated name hname).trans (if_pos hname).symm
      rw [← hcurrent]
      exact Reads.of_synced fun hpower => (hsynced hpower).1 name
    · refine h.1.elsewhere_after.elsewhere name ?_
      rw [Bool.eq_false_iff]
      exact fun hcovers => hname (covers_intentFor.mp hcovers)

/-- Where the transaction may be left by an exception. -/
def Unfinished (power leaving : Bool) (before : ReleaseState) (row : ReleaseRow) (releaseId now : String)
    (directories : String → Option ReleaseDirectory) (s : Store) : Prop :=
  Between power before row releaseId now directories before.releases s
    ∨ (leaving = true ∧ Committed power before row releaseId now directories s)

lemma transaction_contract (hrow : findRelease releaseId before.releases = some row)
    (hsafe : Harmless leaving before row releaseId now) (hmanifest : manifest.releaseId = releaseId)
    (hformal : manifest.isFormal row.renderProfile = true) :
    Contract (Faults power leaving) (Between power before row releaseId now directories before.releases)
      (transaction (rollbackStatements row.renderProfile releaseId now) (activateManifests [manifest]))
      (fun _ => Committed power before row releaseId now directories)
      (Unfinished power leaving before row releaseId now directories) (Sided power before row releaseId now) := by
  have hopen : ∀ s, Between power before row releaseId now directories before.releases s →
      Sided power before row releaseId now s := fun s h => .inl (h.1.leads_before h.2 hrow hsafe)
  have hidle : ∀ operation, Contract (Faults power leaving) (Between power before row releaseId now directories before.releases)
      (perform operation id) (fun _ => Between power before row releaseId now directories before.releases)
      (Unfinished power leaving before row releaseId now directories) (Sided power before row releaseId now) :=
    fun operation => Contract.step (fun _ h => h) (fun _ _ h => .inl h) hopen
  have hinside : Contract (Faults power leaving) (Between power before row releaseId now directories before.releases)
      (activateManifests [manifest])
      (fun _ s => Between power before row releaseId now directories before.releases s
        ∧ ∀ name, Reads power (s.pointers name) ((before.rolledBack row.renderProfile releaseId now).pointers name))
      (Unfinished power leaving before row releaseId now directories) (Sided power before row releaseId now) :=
    (activated_contract hmanifest hformal).mono (fun _ h => h) (fun _ _ h => h) (fun _ h => .inl h) hopen
  have hcommit : Contract (Faults power leaving)
      (fun s => Between power before row releaseId now directories before.releases s
        ∧ ∀ name, Reads power (s.pointers name) ((before.rolledBack row.renderProfile releaseId now).pointers name))
      (perform .commit fun s => { s with releases := rollbackStatements row.renderProfile releaseId now s.releases })
      (fun _ => Committed power before row releaseId now directories)
      (Unfinished power leaving before row releaseId now directories) (Sided power before row releaseId now) := by
    refine Contract.step ?_ (fun _ _ h => .inl h.1) fun s h => hopen s h.1
    rintro s ⟨⟨h, hreleases⟩, hreads⟩
    refine ⟨⟨⟨h.armed, h.unmoved, h.elsewhere⟩, ?_⟩, hreads⟩
    change rollbackStatements row.renderProfile releaseId now s.releases = _
    rw [rollbackStatements_eq, hreleases]
    rfl
  have hleave : Contract (Faults power leaving) (Committed power before row releaseId now directories)
      (perform .closeTransaction id) (fun _ => Committed power before row releaseId now directories)
      (Unfinished power leaving before row releaseId now directories) (Sided power before row releaseId now) := by
    refine Contract.step (fun _ h => h) ?_ fun s h => .inr (h.1.1.leads_after h.1.2 hrow)
    intro hfault s h
    cases leaving with
    | false => exact absurd rfl (hfault.2 rfl rfl)
    | true => exact .inr ⟨rfl, h⟩
  exact (hidle .begin).bind fun _ => (hidle .update).bind fun _ => hinside.bind fun _ => hcommit.bind fun _ => hleave

/-- The handler of a failed transaction, where the pointers it restores are those the store leads to. -/
lemma restored_contract {goal : ReleaseState} (hpointers : goal.pointers = before.pointers)
    (hleads : ∀ s, Between power before row releaseId now directories goal.releases s → s.Leads power goal) :
    Contract (Faults power leaving) (Between power before row releaseId now directories goal.releases)
      (restorePointers (before.snapshot row.renderProfile) >>= fun _ => clearRollbackIntent)
      (fun _ s => s.Leads power goal) (fun s => s.Leads power goal) (fun s => s.Leads power goal) := by
  have hnodup : ((before.snapshot row.renderProfile).map (·.1)).Nodup := by simp [ReleaseState.snapshot]
  have hrestore : Contract (Faults power leaving) (Between power before row releaseId now directories goal.releases)
      (restorePointers (before.snapshot row.renderProfile))
      (fun _ s => Between power before row releaseId now directories goal.releases s
        ∧ ∀ name, Reads power (s.pointers name) (goal.pointers name))
      (fun s => s.Leads power goal) (fun s => s.Leads power goal) := by
    refine (restorePointers_contract hnodup ?_ fun _ h => ⟨h.1.sync, h.2⟩).mono (fun _ h => h) ?_ hleads hleads
    · intro entry hentry s h
      have hname : entry.1 = .latest ∨ entry.1 = .profile row.renderProfile := by
        rcases List.mem_pair.mp hentry with rfl | rfl
        · exact .inr rfl
        · exact .inl rfl
      exact ⟨h.1.setPointer (covers_intentFor.mpr hname), h.2⟩
    · rintro _ s ⟨⟨h, hrestored⟩, hsynced⟩
      refine ⟨h, fun name => ?_⟩
      rw [hpointers]
      by_cases hname : name = .latest ∨ name = .profile row.renderProfile
      · have hentry : (name, before.pointers name) ∈ before.snapshot row.renderProfile := by
          rcases hname with rfl | rfl
          · simp [ReleaseState.snapshot]
          · simp [ReleaseState.snapshot]
        have hcurrent : (s.pointers name).current = before.pointers name := hrestored _ hentry
        rw [← hcurrent]
        exact Reads.of_synced fun hpower => (hsynced hpower).1 name
      · refine h.1.elsewhere name ?_
        rw [Bool.eq_false_iff]
        exact fun hcovers => hname (covers_intentFor.mp hcovers)
  have hclear : Contract (Faults power leaving)
      (fun s => Between power before row releaseId now directories goal.releases s
        ∧ ∀ name, Reads power (s.pointers name) (goal.pointers name))
      clearRollbackIntent (fun _ s => s.Leads power goal) (fun s => s.Leads power goal) (fun s => s.Leads power goal) := by
    have hboth : ∀ s, (Between power before row releaseId now directories goal.releases s
        ∧ ∀ name, Reads power (s.pointers name) (goal.pointers name)) ∨ s.Leads power goal → s.Leads power goal := by
      rintro s (h | h)
      · exact hleads s h.1
      · exact h
    exact (clearRollbackIntent_contract (fun s h => (hleads s h.1).clear h.2) fun _ h => h.sync).mono (fun _ h => h)
      (fun _ _ h => h) hboth hboth
  exact hrestore.bind fun _ => hclear

lemma rolledBack_pointers_eq (hlatest : before.pointers .latest = some releaseId)
    (hprofile : before.pointers (.profile row.renderProfile) = some releaseId) :
    (before.rolledBack row.renderProfile releaseId now).pointers = before.pointers := by
  funext name
  change (if name = .latest ∨ name = .profile row.renderProfile then some releaseId else before.pointers name) = _
  split
  · rename_i hname
    rcases hname with rfl | rfl
    · exact hlatest.symm
    · exact hprofile.symm
  · rfl

lemma handler_contract (hrow : findRelease releaseId before.releases = some row)
    (hsafe : Harmless leaving before row releaseId now) :
    Contract (Faults power leaving) (Unfinished power leaving before row releaseId now directories)
      (restorePointers (before.snapshot row.renderProfile) >>= fun _ => clearRollbackIntent)
      (fun _ => Sided power before row releaseId now) (Sided power before row releaseId now)
      (Sided power before row releaseId now) := by
  refine Contract.of_or ?_ ?_
  · exact (restored_contract rfl fun s h => h.1.leads_before h.2 hrow hsafe).mono (fun _ h => h) (fun _ _ h => .inl h)
      (fun _ h => .inl h) fun _ h => .inl h
  · by_cases hleaving : leaving = true
    swap
    · exact Contract.of_false fun s h => hleaving h.1
    rcases hsafe with ⟨hlatest, hprofile⟩ | ⟨hsafe, -⟩
    · exact (restored_contract (rolledBack_pointers_eq hlatest hprofile) fun s h => h.1.leads_after h.2 hrow).mono
        (fun _ h => h.2.1) (fun _ _ h => .inr h) (fun _ h => .inr h) fun _ h => .inr h
    · rw [hsafe] at hleaving
      cases hleaving

lemma rollbackTo_contract (hrow : findRelease releaseId before.releases = some row)
    (hsafe : Harmless leaving before row releaseId now) (hmanifest : manifest.releaseId = releaseId)
    (hformal : manifest.isFormal row.renderProfile = true) :
    Contract (Faults power leaving)
      (fun s => (s.Leads power before ∧ s.intent.current = none) ∧ s.directories = directories)
      (rollbackTo row manifest releaseId now (before.snapshot row.renderProfile))
      (fun _ => Sided power before row releaseId now) (Sided power before row releaseId now)
      (Sided power before row releaseId now) := by
  have hafter : ∀ s, Committed power before row releaseId now directories s
      ∨ s.Leads power (before.rolledBack row.renderProfile releaseId now) → Sided power before row releaseId now s := by
    rintro s (h | h)
    · exact .inr (h.1.1.leads_after h.1.2 hrow)
    · exact .inr h
  have hclear : Contract (Faults power leaving) (Committed power before row releaseId now directories) clearRollbackIntent
      (fun _ => Sided power before row releaseId now) (Sided power before row releaseId now)
      (Sided power before row releaseId now) :=
    (clearRollbackIntent_contract (fun s h => (h.1.1.leads_after h.1.2 hrow).clear h.2) fun _ h => h.sync).mono
      (fun _ h => h) (fun _ _ h => .inr h) hafter hafter
  exact (writeRollbackIntent_contract hrow hsafe).bind fun _ =>
    ((transaction_contract hrow hsafe hmanifest hformal).onError (handler_contract hrow hsafe)).bind fun _ => hclear

/-- On one of the two sides of a rollback to `releaseId`. -/
def Sides (power : Bool) (before : ReleaseState) (releaseId now : String) (s : Store) : Prop :=
  s.Leads power before ∨ ∃ row, findRelease releaseId before.releases = some row
    ∧ s.Leads power (before.rolledBack row.renderProfile releaseId now)

lemma Sided.sides (hrow : findRelease releaseId before.releases = some row)
    (h : Sided power before row releaseId now s) : Sides power before releaseId now s := by
  rcases h with h | h
  · exact .inl h
  · exact .inr ⟨row, hrow, h⟩

/-- Wherever a rollback is left, a recovery leads back or to its target. -/
theorem rollback_contract
    (hsafe : ∀ row, findRelease releaseId before.releases = some row → Harmless leaving before row releaseId now) :
    Contract (Faults power leaving) (fun s => s.Leads power before) (rollback now releaseId)
      (fun _ => Sides power before releaseId now) (Sides power before releaseId now) (Sides power before releaseId now) := by
  have hlock : Contract (Faults power leaving) (fun s => s.Leads power before) (perform .lock id)
      (fun _ s => s.Leads power before) (Sides power before releaseId now) (Sides power before releaseId now) :=
    Contract.step (fun _ h => h) (fun _ _ h => .inl h) fun _ h => .inl h
  have hrecover : Contract (Faults power leaving) (fun s => s.Leads power before) recoverRollbackLocked
      (fun _ s => s.Leads power before ∧ s.intent.current = none) (Sides power before releaseId now)
      (Sides power before releaseId now) :=
    recoverRollbackLocked_contract.mono (fun _ h => h) (fun _ _ h => h) (fun _ h => .inl h) fun _ h => .inl h
  have hreading : ∀ {α : Type} {operation : Operation} {read : Store → α},
      Contract (Faults power leaving) (fun s => s.Leads power before ∧ s.intent.current = none) (reading operation read)
        (fun value s => (s.Leads power before ∧ s.intent.current = none) ∧ value = read s)
        (Sides power before releaseId now) (Sides power before releaseId now) :=
    reading_contract.mono (fun _ h => h) (fun _ _ h => h) (fun _ h => .inl h.1) fun _ h => .inl h.1
  have hvalidating : Contract (Faults power leaving) (fun s => s.Leads power before ∧ s.intent.current = none)
      (validating releaseId)
      (fun manifest s => (s.Leads power before ∧ s.intent.current = none) ∧ validate s.directories releaseId = .ok manifest)
      (Sides power before releaseId now) (Sides power before releaseId now) :=
    validating_contract.mono (fun _ h => h) (fun _ _ h => h) (fun _ h => .inl h.1) fun _ h => .inl h.1
  refine hlock.bind fun _ => Contract.ensuring (hrecover.bind fun _ => hreading.bind fun found => ?_)
    (Contract.step_keeps fun _ h => h) fun _ => Contract.step_keeps fun _ h => h
  refine Contract.ofExcept_bind (fun row hfound => ?_) fun _ h => .inl h.1.1
  by_cases hread : found = findRelease releaseId before.releases
  swap
  · exact Contract.of_false fun s h => hread (by rw [h.2, h.1.1.releases])
  have hrow : findRelease releaseId before.releases = some row := hread ▸ Checked.orError_eq_ok.mp hfound
  refine Contract.ofExcept_bind (fun _ _ => ?_) fun _ h => .inl h.1.1
  refine (hvalidating.of_pre fun _ h => h.1).bind fun manifest => ?_
  by_cases hmanifest : manifest.releaseId = releaseId
  swap
  · exact Contract.of_false fun s h => hmanifest (validate_releaseId h.2)
  refine Contract.ofExcept_bind (fun _ hrequire => ?_) fun _ h => .inl h.1.1
  have hformal := Checked.require_eq_ok.mp hrequire
  refine (hreading.of_pre fun _ h => h.1).bind fun snapshot => ?_
  by_cases hsnapshot : snapshot = before.snapshot row.renderProfile
  swap
  · refine Contract.of_false fun s h => hsnapshot ?_
    rw [h.2, pointerSnapshot, h.1.1.pointer_eq h.1.2, ReleaseState.snapshot]
  subst hsnapshot
  apply Contract.fix Store.directories
  intro directories
  exact (rollbackTo_contract hrow (hsafe row hrow) hmanifest hformal).mono (fun _ h => ⟨h.1.1, h.2⟩)
    (fun _ _ h => h.sides hrow) (fun _ h => h.sides hrow) fun _ h => h.sides hrow

end

/-! ### Crashes and the recoveries after them -/

/-- What lies in the directory and the database while no process runs. -/
structure Disk where
  releases : List ReleaseRow
  directories : String → Option ReleaseDirectory
  pointers : PointerName → Option String
  intent : Option IntentFile

def Disk.store (disk : Disk) : Store where
  releases := disk.releases
  directories := disk.directories
  pointers := fun name => Cell.synced (disk.pointers name)
  intent := Cell.synced disk.intent

/-- The state once an intent left by an earlier rollback is dealt with; the rollback itself begins with that. -/
def Disk.settled (disk : Disk) : ReleaseState where
  releases := disk.releases
  pointers := (recovered disk.directories disk.releases disk.intent disk.pointers).getD disk.pointers

/-- From `s`, the attempts at a recovery up to the first that returns. Each of them, and each crash between them, may leave
what `Store.Image` allows. -/
inductive Recovery (power : Bool) : Store → Store → Prop where
  | returned {s found : Store} {plan : Plan Operation} {value : Bool} (himage : s.Image power found)
      (hplan : Within (Faults power true) plan) (hreturned : (recoverRollbackLocked plan ⟨found, 0⟩).1 = .returned value) :
      Recovery power s (recoverRollbackLocked plan ⟨found, 0⟩).2.store
  | again {s found final : Store} {plan : Plan Operation} (himage : s.Image power found) (hplan : Within (Faults power true) plan)
      (hnext : Recovery power (recoverRollbackLocked plan ⟨found, 0⟩).2.store final) : Recovery power s final

/-- What the next successful recovery is to leave of a rollback. -/
structure CrashConsistent (before : ReleaseState) (releaseId now : String) (final : Store) : Prop where
  sides : final.state = before ∨ ∃ row, findRelease releaseId before.releases = some row
    ∧ final.state = before.rolledBack row.renderProfile releaseId now
  cleared : final.intent.current = none
  idempotent : ∀ plan ticks, (recoverRollbackLocked plan ⟨final, ticks⟩).2.store = final

section

variable {power leaving : Bool} {disk : Disk} {s final : Store} {goal : ReleaseState} {releaseId now : String}

lemma Disk.leads (disk : Disk) (power : Bool) : disk.store.Leads power disk.settled where
  releases := rfl
  pointers := by
    intro file pointers hmay out hout
    have hfile : file = disk.intent := by
      rcases hmay.file_eq with hfile | ⟨-, hfile⟩
      · exact hfile
      · exact Cell.survivor_synced.mp hfile
    have hpointers : pointers = disk.pointers := by
      funext name
      rcases hmay.pointer name with hpointer | ⟨-, hpointer⟩
      · exact hpointer
      · exact Cell.survivor_synced.mp hpointer
    rw [hfile, hpointers] at hout
    change out = (recovered disk.directories disk.releases disk.intent disk.pointers).getD disk.pointers
    have hsome : recovered disk.directories disk.releases disk.intent disk.pointers = some out := hout
    rw [hsome, Option.getD_some]

lemma Store.Leads.state_eq (h : s.Leads power goal) (hnone : s.intent.current = none) : s.state = goal := by
  rw [Store.state, h.releases, h.pointer_eq hnone]

lemma Recovery.reaches (h : Recovery power s final) (hleads : s.Leads power goal) :
    final.state = goal ∧ final.intent.current = none := by
  induction h with
  | returned himage hplan hreturned =>
    have hends := recoverRollbackLocked_contract _ ⟨_, 0⟩ hplan (hleads.image himage)
    have hsettled := hends.of_returned hreturned
    exact ⟨hsettled.1.state_eq hsettled.2, hsettled.2⟩
  | again himage hplan _ ih =>
    have hends := recoverRollbackLocked_contract _ ⟨_, 0⟩ hplan (hleads.image himage)
    exact ih ((hends.mono (fun _ _ h => h.1) (fun _ h => h) fun _ h => h).of_same)

/-- Without an intent a recovery changes nothing. -/
lemma recover_idle (hnone : s.intent.current = none) (plan : Plan Operation) (ticks : Nat) :
    (recoverRollbackLocked plan ⟨s, ticks⟩).2.store = s := by
  have hcontract : Contract (fun _ _ => True) (fun s' => s' = s) recoverRollbackLocked (fun _ s' => s' = s) (fun s' => s' = s)
      (fun s' => s' = s) := by
    have hreading : Contract (fun _ _ => True) (fun s' => s' = s)
        (reading Operation.readFile fun s => s.intent.current)
        (fun file s' => s' = s ∧ file = none) (fun s' => s' = s) (fun s' => s' = s) :=
      (Contract.step_keeps fun _ h => h).bind fun _ => Contract.observe fun s' h => ⟨h, by rw [h, hnone]⟩
    refine hreading.bind fun file => ?_
    cases file with
    | none => exact Contract.pure fun _ h => h.1
    | some file => exact Contract.of_false fun _ h => nomatch h.2
  exact (hcontract plan ⟨s, ticks⟩ (fun _ _ => trivial) rfl).of_same

theorem rollback_crash_consistent {plan : Plan Operation} (hplan : Within (Faults power leaving) plan)
    (hharmless : ∀ row, findRelease releaseId disk.settled.releases = some row → Harmless leaving disk.settled row releaseId now)
    (hrecovery : Recovery power (rollback now releaseId plan ⟨disk.store, 0⟩).2.store final) :
    CrashConsistent disk.settled releaseId now final := by
  have hends := rollback_contract hharmless plan ⟨disk.store, 0⟩ hplan (disk.leads power)
  rcases hends.of_same with hleads | ⟨row, hrow, hleads⟩
  · have hreaches := hrecovery.reaches hleads
    exact ⟨.inl hreaches.1, hreaches.2, recover_idle hreaches.2⟩
  · have hreaches := hrecovery.reaches hleads
    exact ⟨.inr ⟨row, hrow, hreaches.1⟩, hreaches.2, recover_idle hreaches.2⟩

end

/-- Rows that changed come with the pointer that goes with them. -/
lemma CrashConsistent.latest_of_releases_ne {before : ReleaseState} {releaseId now : String} {final : Store}
    (h : CrashConsistent before releaseId now final) (hne : final.releases ≠ before.releases) :
    final.pointer .latest = some releaseId := by
  rcases h.sides with hstate | ⟨row, -, hstate⟩
  · exact absurd (congrArg ReleaseState.releases hstate) hne
  · exact congrFun (congrArg ReleaseState.pointers hstate) .latest

/-! ### Two releases of one profile -/

def oneFileRelease (releaseId : String) : ReleaseDirectory where
  manifest := .object ⟨releaseId, some "safe_4c", none, some [some ⟨"photo.bin", some 96000, some "digest"⟩]⟩
  files := [("photo.bin", ⟨96000, "digest"⟩)]

/-- `first` and then `second` were published. -/
def publishedTwice : Disk where
  releases := [⟨"first", "safe_4c", .published, some "2026-08-01", .ok⟩, ⟨"second", "safe_4c", .published, some "2026-08-02", .ok⟩]
  directories := fun releaseId => if releaseId = "first" ∨ releaseId = "second" then some (oneFileRelease releaseId) else none
  pointers := fun name => if name = .latest ∨ name = .profile "safe_4c" then some "second" else none
  intent := none

/-- Everything works but the release of the writer lock after the commit. -/
def leavingRaises : Plan Operation := fun _ operation => if operation = .closeTransaction then .raises else .works

def allWorks : Plan Operation := fun _ _ => .works

/-- The process dies at the commit. -/
def diesAtCommit : Plan Operation := fun _ operation => if operation = .commit then .dies else .works

/-- What a rollback from `second` to `first` leaves. -/
def rolledBackUnder (plan : Plan Operation) : Store := (rollback "2026-08-03" "first" plan ⟨publishedTwice.store, 0⟩).2.store

/-- A recovery without faults. -/
def recoveredAfter (s : Store) : Ending ReleaseError Bool × World Store := recoverRollbackLocked allWorks ⟨s, 0⟩

lemma recovery_recoveredAfter {power value : Bool} {s : Store} (h : (recoveredAfter s).1 = .returned value) :
    Recovery power s (recoveredAfter s).2.store := by
  have hplan : Within (Faults power true) allWorks := by simp [Within, Faults, allWorks]
  exact Recovery.returned (.inl rfl) hplan h

theorem rollback_crash_consistent_cut :
    CrashConsistent publishedTwice.settled "first" "2026-08-03" (recoveredAfter (rolledBackUnder diesAtCommit)).2.store := by
  have hcut : Within (Faults true false) diesAtCommit := by
    intro tick operation
    cases operation <;> simp [Faults, diesAtCommit]
  have hreturns : (recoveredAfter (rolledBackUnder diesAtCommit)).1 = .returned true := by decide +kernel
  have hharmless : ∀ row, findRelease "first" publishedTwice.settled.releases = some row →
      Harmless false publishedTwice.settled row "first" "2026-08-03" := by
    intro row hrow
    obtain rfl : row = ⟨"first", "safe_4c", .published, some "2026-08-01", .ok⟩ := by
      simpa [findRelease, Disk.settled, publishedTwice] using hrow.symm
    exact .inr ⟨rfl, by decide⟩
  exact rollback_crash_consistent hcut hharmless (recovery_recoveredAfter hreturns)

/-- An exception between the commit and `committed = True` puts the old pointers beside the new rows, for good. -/
theorem leaving_splits_state :
    publishedTwice.intent = none
      ∧ Recovery false (rolledBackUnder leavingRaises) (recoveredAfter (rolledBackUnder leavingRaises)).2.store
      ∧ ¬CrashConsistent publishedTwice.settled "first" "2026-08-03" (recoveredAfter (rolledBackUnder leavingRaises)).2.store := by
  have hreturns : (recoveredAfter (rolledBackUnder leavingRaises)).1 = .returned false := by decide +kernel
  refine ⟨rfl, recovery_recoveredAfter hreturns, fun h => ?_⟩
  have hreleases : (recoveredAfter (rolledBackUnder leavingRaises)).2.store.releases
      ≠ publishedTwice.settled.releases := by
    decide +kernel
  have hlatest : (recoveredAfter (rolledBackUnder leavingRaises)).2.store.pointer .latest = some "second" := by decide +kernel
  rw [h.latest_of_releases_ne hreleases] at hlatest
  exact absurd (Option.some.inj hlatest) (by decide)

end InkTime.Releases
