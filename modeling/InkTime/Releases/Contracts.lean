import InkTime.Releases.Recovery

/-!
# The operations of a recovery

What `fsync_directory`, `_write_pointer`, `restore_pointers`, `activate_manifests` and `_recover_rollback_locked` do to the
store, whichever of their operations raises or is the last before a crash.
-/

namespace InkTime.Releases

open Checked (require orError)
open Durable (Cell)
open Interrupted Interrupted.Program

/-- The faults under consideration: with a loss of `power`, `os.fsync` of the directory works; unless `leaving`, so does what
follows the commit of the transaction. -/
def Faults (power leaving : Bool) (operation : Operation) (outcome : Outcome) : Prop :=
  (power = true → operation = .sync → outcome ≠ .raises) ∧ (leaving = false → operation = .closeTransaction → outcome ≠ .raises)

def Store.Synced (s : Store) : Prop := (∀ name, (s.pointers name).unsynced = []) ∧ s.intent.unsynced = []

variable {power leaving : Bool} {goal : ReleaseState} {name : PointerName} {value : Option String}
  {intent : Intent} {keep before after : Store → Prop}

lemma synced_sync (s : Store) : s.sync.Synced := ⟨fun _ => rfl, rfl⟩

lemma reading_contract {α : Type} {operation : Operation} {read : Store → α} :
    Contract (Faults power leaving) keep (reading operation read) (fun value s => keep s ∧ value = read s) keep keep :=
  (Contract.step_keeps fun _ hkeep => hkeep).bind fun _ => Contract.observe fun _ hkeep => ⟨hkeep, rfl⟩

lemma fsyncDirectory_contract (hsync : ∀ s, keep s → keep s.sync) :
    Contract (Faults power leaving) keep fsyncDirectory (fun _ s => keep s ∧ (power = true → s.Synced)) keep keep := by
  have hfsync : Contract (Faults power leaving) keep (perform .sync Store.sync).ignoring
      (fun _ s => keep s ∧ (power = true → s.Synced)) keep keep := by
    apply Contract.ignoring
    apply Contract.step
    · exact fun s hkeep => ⟨hsync s hkeep, fun _ => synced_sync s⟩
    · exact fun hfault s hkeep => ⟨hkeep, fun hpower => absurd rfl (hfault.1 hpower rfl)⟩
    · exact fun _ hkeep => hkeep
  refine hfsync.bind fun _ => Contract.step ?_ ?_ ?_
  · exact fun _ hsynced => hsynced
  · exact fun _ _ hsynced => hsynced.1
  · exact fun _ hsynced => hsynced.1

lemma replaceFile_contract {effect : Store → Store} (heffect : ∀ s, before s → after (effect s))
    (hsync : ∀ s, after s → after s.sync) :
    Contract (Faults power leaving) before (replaceFile effect) (fun _ s => after s ∧ (power = true → s.Synced))
      (fun s => before s ∨ after s) (fun s => before s ∨ after s) := by
  have hcreate : Contract (Faults power leaving) before (perform .createTemporary id) (fun _ => before)
      (fun s => before s ∨ after s) (fun s => before s ∨ after s) :=
    Contract.step (fun _ h => h) (fun _ _ h => .inl h) fun _ h => .inl h
  have hwrite : Contract (Faults power leaving) before (perform .writeTemporary id) (fun _ => before)
      (fun s => before s ∨ after s) (fun s => before s ∨ after s) :=
    Contract.step (fun _ h => h) (fun _ _ h => .inl h) fun _ h => .inl h
  have hreplace : Contract (Faults power leaving) before (perform .replace effect) (fun _ => after)
      (fun s => before s ∨ after s) (fun s => before s ∨ after s) :=
    Contract.step heffect (fun _ _ h => .inl h) fun _ h => .inl h
  have hfsync : Contract (Faults power leaving) after fsyncDirectory (fun _ s => after s ∧ (power = true → s.Synced))
      (fun s => before s ∨ after s) (fun s => before s ∨ after s) :=
    (fsyncDirectory_contract hsync).mono (fun _ h => h) (fun _ _ h => h) (fun _ h => .inr h) fun _ h => .inr h
  refine hcreate.bind fun _ => Contract.ensuring
    (hwrite.bind fun _ => hreplace.bind fun _ => hfsync) (Contract.step_keeps fun _ h => h) fun _ => Contract.step ?_ ?_ ?_
  · exact fun _ h => h
  · exact fun _ _ h => .inr h.1
  · exact fun _ h => .inr h.1

/-- A file written where `keep` allows it. -/
lemma replaceFile_keeps {effect : Store → Store} {written : Store → Prop}
    (heffect : ∀ s, keep s → keep (effect s)) (hwritten : ∀ s, written (effect s)) (hsync : ∀ s, keep s → keep s.sync)
    (hwrittenSync : ∀ s, written s → written s.sync) :
    Contract (Faults power leaving) keep (replaceFile effect)
      (fun _ s => (keep s ∧ written s) ∧ (power = true → s.Synced)) keep keep := by
  have hreplace : Contract (Faults power leaving) keep (replaceFile effect)
      (fun _ s => (keep s ∧ written s) ∧ (power = true → s.Synced))
      (fun s => keep s ∨ keep s ∧ written s) (fun s => keep s ∨ keep s ∧ written s) :=
    replaceFile_contract (fun s hkeep => ⟨heffect s hkeep, hwritten s⟩) fun s h => ⟨hsync s h.1, hwrittenSync s h.2⟩
  have hkeep : ∀ s, keep s ∨ keep s ∧ written s → keep s := by
    rintro s (h | h)
    · exact h
    · exact h.1
  exact hreplace.mono (fun _ h => h) (fun _ _ h => h) hkeep hkeep

lemma pointer_setPointer_self (s : Store) : (s.setPointer name value).pointer name = value := by
  rw [pointer_setPointer, Function.update_self]

lemma writePointer_contract {releaseId : String} (hset : ∀ s, keep s → keep (s.setPointer name (some releaseId)))
    (hsync : ∀ s, keep s → keep s.sync) :
    Contract (Faults power leaving) keep (writePointer name releaseId)
      (fun _ s => (keep s ∧ s.pointer name = some releaseId) ∧ (power = true → s.Synced)) keep keep := by
  have hcheck : Contract (Faults power leaving) keep (ofExcept (checkPointer name releaseId)) (fun _ => keep) keep keep :=
    Contract.ofExcept (fun _ _ _ hkeep => hkeep) fun _ hkeep => hkeep
  exact hcheck.bind fun _ => replaceFile_keeps hset (fun s => pointer_setPointer_self s) hsync fun _ hwritten => hwritten

/-- A pointer written keeps what holds of another one. -/
lemma pointer_setPointer_of_ne {s : Store} {name' : PointerName} (h : name' ≠ name) :
    (s.setPointer name value).pointer name' = s.pointer name' := by
  rw [pointer_setPointer, Function.update_of_ne h]

lemma restoreEach_contract {snapshot : List (PointerName × Option String)} (hnodup : (snapshot.map (·.1)).Nodup)
    (hset : ∀ entry ∈ snapshot, ∀ s, keep s → keep (s.setPointer entry.1 entry.2)) (hsync : ∀ s, keep s → keep s.sync) :
    Contract (Faults power leaving) keep (restoreEach snapshot)
      (fun _ s => keep s ∧ ∀ entry ∈ snapshot, s.pointer entry.1 = entry.2) keep keep := by
  induction snapshot generalizing keep with
  | nil => exact Contract.pure fun s hkeep => ⟨hkeep, by simp⟩
  | cons entry rest ih =>
    obtain ⟨name, value⟩ := entry
    rw [List.map_cons, List.nodup_cons] at hnodup
    have hrest : Contract (Faults power leaving) (fun s => keep s ∧ s.pointer name = value) (restoreEach rest)
        (fun _ s => keep s ∧ ∀ entry ∈ (name, value) :: rest, s.pointer entry.1 = entry.2) keep keep := by
      refine (ih hnodup.2 ?_ ?_).mono (fun _ h => h) ?_ (fun _ h => h.1) fun _ h => h.1
      · intro entry hentry s hkeep
        have hne : name ≠ entry.1 := by
          rintro rfl
          exact hnodup.1 (List.mem_map.mpr ⟨entry, hentry, rfl⟩)
        exact ⟨hset entry (List.mem_cons_of_mem _ hentry) s hkeep.1, by rw [pointer_setPointer_of_ne hne, hkeep.2]⟩
      · exact fun s hkeep => ⟨hsync s hkeep.1, hkeep.2⟩
      · intro _ s hrestored
        refine ⟨hrestored.1.1, fun entry hentry => ?_⟩
        rcases List.mem_cons.mp hentry with rfl | hentry
        · exact hrestored.1.2
        · exact hrestored.2 entry hentry
    have hfirst := hset (name, value) List.mem_cons_self
    cases value with
    | none =>
      have hunlink : Contract (Faults power leaving) keep (perform .unlink (·.setPointer name none))
          (fun _ s => keep s ∧ s.pointer name = none) keep keep :=
        Contract.step (fun s hkeep => ⟨hfirst s hkeep, pointer_setPointer_self s⟩) (fun _ _ hkeep => hkeep) fun _ hkeep => hkeep
      exact hunlink.bind fun _ => hrest
    | some releaseId =>
      exact ((writePointer_contract hfirst hsync).weaken fun _ _ h => h.1).bind fun _ => hrest

lemma restorePointers_contract {snapshot : List (PointerName × Option String)} (hnodup : (snapshot.map (·.1)).Nodup)
    (hset : ∀ entry ∈ snapshot, ∀ s, keep s → keep (s.setPointer entry.1 entry.2)) (hsync : ∀ s, keep s → keep s.sync) :
    Contract (Faults power leaving) keep (restorePointers snapshot)
      (fun _ s => (keep s ∧ ∀ entry ∈ snapshot, s.pointer entry.1 = entry.2) ∧ (power = true → s.Synced)) keep keep := by
  have hfsync : Contract (Faults power leaving) (fun s => keep s ∧ ∀ entry ∈ snapshot, s.pointer entry.1 = entry.2)
      fsyncDirectory
      (fun _ s => (keep s ∧ ∀ entry ∈ snapshot, s.pointer entry.1 = entry.2) ∧ (power = true → s.Synced)) keep keep :=
    (fsyncDirectory_contract fun s h => ⟨hsync s h.1, h.2⟩).mono (fun _ h => h) (fun _ _ h => h) (fun _ h => h.1) fun _ h => h.1
  exact (restoreEach_contract hnodup hset hsync).bind fun _ => hfsync

lemma validating_contract {releaseId : String} :
    Contract (Faults power leaving) keep (validating releaseId)
      (fun manifest s => keep s ∧ validate s.directories releaseId = .ok manifest) keep keep := by
  refine reading_contract.bind fun directories => Contract.ofExcept ?_ fun _ h => h.1
  rintro manifest s hvalid ⟨hkeep, rfl⟩
  exact ⟨hkeep, hvalid⟩

lemma activateManifest_contract {manifest : Manifest} {profile : String} (hprofile : manifest.renderProfile = some profile)
    (hset : ∀ name, name = .latest ∨ name = .profile profile → ∀ s, keep s → keep (s.setPointer name (some manifest.releaseId)))
    (hsync : ∀ s, keep s → keep s.sync) :
    Contract (Faults power leaving) keep (activateManifests [manifest])
      (fun _ s => (keep s ∧ ∀ name, name = .latest ∨ name = .profile profile → s.pointer name = some manifest.releaseId)
        ∧ (power = true → s.Synced)) keep keep := by
  have hkey : manifest.renderProfile.getD "None" = profile := by rw [hprofile]; rfl
  have hvalidating : Contract (Faults power leaving) keep (validating manifest.releaseId) (fun _ => keep) keep keep :=
    validating_contract.weaken fun _ _ h => h.1
  have hprofilePointer : Contract (Faults power leaving) keep (activateEach [manifest])
      (fun _ s => keep s ∧ s.pointer (.profile profile) = some manifest.releaseId) keep keep := by
    refine hvalidating.bind fun _ => ?_
    rw [hkey]
    exact (writePointer_contract (hset _ (.inr rfl)) hsync).bind fun _ => Contract.pure fun _ h => h.1
  have hlatest : Contract (Faults power leaving) (fun s => keep s ∧ s.pointer (.profile profile) = some manifest.releaseId)
      (writePointer .latest manifest.releaseId)
      (fun _ s => (keep s ∧ ∀ name, name = .latest ∨ name = .profile profile → s.pointer name = some manifest.releaseId)
        ∧ (power = true → s.Synced)) keep keep := by
    refine (writePointer_contract ?_ ?_).mono (fun _ h => h) ?_ (fun _ h => h.1) fun _ h => h.1
    · intro s h
      exact ⟨hset _ (.inl rfl) s h.1, by rw [pointer_setPointer_of_ne (by simp), h.2]⟩
    · exact fun s h => ⟨hsync s h.1, h.2⟩
    · rintro _ s ⟨⟨hkeep, hlatest⟩, hsynced⟩
      refine ⟨⟨hkeep.1, ?_⟩, hsynced⟩
      rintro name (rfl | rfl)
      · exact hlatest
      · exact hkeep.2
  exact hprofilePointer.bind fun _ => hlatest

lemma clearRollbackIntent_contract (hclear : ∀ s, before s → after (s.setIntent none)) (hsync : ∀ s, after s → after s.sync) :
    Contract (Faults power leaving) before clearRollbackIntent (fun _ => after) (fun s => before s ∨ after s)
      (fun s => before s ∨ after s) := by
  have hunlink : Contract (Faults power leaving) before (perform .unlink (·.setIntent none)) (fun _ => after)
      (fun s => before s ∨ after s) (fun s => before s ∨ after s) :=
    Contract.step hclear (fun _ _ h => .inl h) fun _ h => .inl h
  exact hunlink.bind fun _ => (fsyncDirectory_contract hsync).mono (fun _ h => h) (fun _ _ h => h.1) (fun _ h => .inr h)
    fun _ h => .inr h

/-! ### A recovery -/

lemma covers_iff : intent.covers name = true ↔ name = .latest ∨ name = .profile intent.profile := by
  simp [Intent.covers]

lemma Intent.valid_keys (h : intent.valid = true) :
    intent.pointers.map (·.1) = [.profile intent.profile, .latest] ∨ intent.pointers.map (·.1) = [.latest, .profile intent.profile] := by
  simp only [Intent.valid, Bool.and_eq_true, Bool.or_eq_true, beq_iff_eq] at h
  exact h.1.1.2

lemma Intent.valid_nodup (h : intent.valid = true) : (intent.pointers.map (·.1)).Nodup := by
  rcases Intent.valid_keys h with hkeys | hkeys
  · simp [hkeys]
  · simp [hkeys]

lemma Intent.covers_of_mem (h : intent.valid = true) {entry : PointerName × Option String} (hentry : entry ∈ intent.pointers) :
    intent.covers entry.1 = true := by
  have hkey := List.mem_map_of_mem (f := (·.1)) hentry
  rw [covers_iff]
  rcases Intent.valid_keys h with hkeys | hkeys
  · rw [hkeys] at hkey
    simpa [or_comm] using hkey
  · rw [hkeys] at hkey
    simpa using hkey

lemma Intent.mem_of_covers (h : intent.valid = true) (hcovers : intent.covers name = true) :
    ∃ entry ∈ intent.pointers, entry.1 = name := by
  have hkey : name ∈ intent.pointers.map (·.1) := by
    rcases Intent.valid_keys h with hkeys | hkeys
    · rw [hkeys]
      simpa [or_comm] using covers_iff.mp hcovers
    · rw [hkeys]
      simpa using covers_iff.mp hcovers
  exact List.mem_map.mp hkey

lemma lookup_eq_some_of_mem {snapshot : List (PointerName × Option String)} (hnodup : (snapshot.map (·.1)).Nodup)
    {entry : PointerName × Option String} (hentry : entry ∈ snapshot) : snapshot.lookup entry.1 = some entry.2 := by
  induction snapshot with
  | nil => cases hentry
  | cons first rest ih =>
    rw [List.map_cons, List.nodup_cons] at hnodup
    rcases List.mem_cons.mp hentry with rfl | hentry
    · exact List.lookup_cons_self
    · have hne : entry.1 ≠ first.1 := by
        intro heq
        exact hnodup.1 (List.mem_map.mpr ⟨entry, hentry, heq⟩)
      rw [List.lookup_cons, beq_eq_false_iff_ne.mpr hne]
      exact ih hnodup.2 hentry

/-- Under way in the recovery of `intent`. -/
structure Recovering (power : Bool) (goal : ReleaseState) (intent : Intent) (directories : String → Option ReleaseDirectory)
    (s : Store) : Prop where
  leads : s.Leads power goal
  current : s.intent.current = some (.record intent)
  unmoved : s.directories = directories

variable {directories : String → Option ReleaseDirectory} {s : Store}

lemma Recovering.setPointer (h : Recovering power goal intent directories s) (hvalue : value = goal.pointers name) :
    Recovering power goal intent directories (s.setPointer name value) :=
  ⟨h.leads.setPointer hvalue, h.current, h.unmoved⟩

lemma Recovering.sync (h : Recovering power goal intent directories s) : Recovering power goal intent directories s.sync :=
  ⟨h.leads.sync, h.current, h.unmoved⟩

lemma Recovering.recovered_eq (h : Recovering power goal intent directories s)
    (happlies : intent.applies directories goal.releases = true) {pointers : PointerName → Option String}
    (hold : s.MayHold power s.intent.current pointers) (name : PointerName) :
    goal.pointers name = if intent.covers name then intent.aim goal.releases name else pointers name := by
  have hout := h.leads.pointers _ _ hold fun name => if intent.covers name then intent.aim goal.releases name else pointers name
  rw [h.current, h.unmoved, h.leads.releases, recovered, if_pos happlies] at hout
  rw [← hout rfl]

lemma Recovering.aim_eq (h : Recovering power goal intent directories s)
    (happlies : intent.applies directories goal.releases = true) (hcovers : intent.covers name = true) :
    goal.pointers name = intent.aim goal.releases name := by
  rw [h.recovered_eq happlies (Store.MayHold.current s power) name, if_pos hcovers]

/-- Every pointer reads what it leads to once the covered ones are written and synchronised. -/
lemma Recovering.reads (h : Recovering power goal intent directories s)
    (happlies : intent.applies directories goal.releases = true)
    (hwritten : ∀ name, intent.covers name = true → s.pointer name = goal.pointers name)
    (hsynced : power = true → s.Synced) (name : PointerName) : Reads power (s.pointers name) (goal.pointers name) := by
  have hcurrent : s.pointer name = goal.pointers name := by
    by_cases hcovers : intent.covers name = true
    · exact hwritten name hcovers
    · rw [h.recovered_eq happlies (Store.MayHold.current s power) name, if_neg hcovers]
  rw [← hcurrent]
  exact Reads.of_synced fun hpower => (hsynced hpower).1 name

/-- The covered pointers as the recovery of `intent` writes them. -/
def Written (power : Bool) (goal : ReleaseState) (intent : Intent) (directories : String → Option ReleaseDirectory)
    (s : Store) : Prop :=
  Recovering power goal intent directories s ∧ ∀ name, Reads power (s.pointers name) (goal.pointers name)

lemma validate_releaseId {releaseId : String} {manifest : Manifest} (h : validate directories releaseId = .ok manifest) :
    manifest.releaseId = releaseId := by
  obtain ⟨_, -, h⟩ := Checked.bind_eq_ok.mp h
  obtain ⟨directory, -, h⟩ := Checked.bind_eq_ok.mp h
  obtain ⟨found, -, h⟩ := Checked.bind_eq_ok.mp h
  obtain ⟨_, hid, h⟩ := Checked.bind_eq_ok.mp h
  obtain ⟨_, -, h⟩ := Checked.bind_eq_ok.mp h
  obtain ⟨files, -, h⟩ := Checked.bind_eq_ok.mp h
  obtain ⟨_, -, h⟩ := Checked.bind_eq_ok.mp h
  obtain ⟨_, -, h⟩ := Checked.bind_eq_ok.mp h
  obtain rfl : found = manifest := by simpa [pure, Except.pure] using h
  simpa using Checked.require_eq_ok.mp hid

lemma Manifest.isFormal_profile {manifest : Manifest} {profile : String} (h : manifest.isFormal profile = true) :
    manifest.renderProfile = some profile := by
  simp only [Manifest.isFormal, Bool.and_eq_true, beq_iff_eq] at h
  exact h.2

lemma Intent.applies_of_validated {manifest : Manifest} {releases : List ReleaseRow} (hvalid : intent.valid = true)
    (hmanifest : validate directories intent.releaseId = .ok manifest) (hformal : manifest.isFormal intent.profile = true) :
    intent.applies directories releases = true := by
  simp [Intent.applies, hvalid, hmanifest, Except.toOption, hformal]

lemma recoverCommitted_contract (hvalid : intent.valid = true)
    (hcommitted : intent.committed (findRelease intent.releaseId goal.releases) = true) :
    Contract (Faults power leaving) (Recovering power goal intent directories)
      (validating intent.releaseId >>= fun manifest =>
        ofExcept (require (manifest.isFormal intent.profile) (.valueError "RENDER-010 回復目標不符，保留待人工核對")) >>= fun _ =>
          activateManifests [manifest])
      (fun _ => Written power goal intent directories) (Recovering power goal intent directories)
      (Recovering power goal intent directories) := by
  refine validating_contract.bind fun manifest => ?_
  -- what the manifest is known to be no longer depends on the store
  by_cases hmanifest : validate directories intent.releaseId = .ok manifest
  swap
  · exact Contract.of_false fun s h => hmanifest (h.1.unmoved ▸ h.2)
  refine Contract.ofExcept_bind (fun _ hrequire => ?_) fun _ h => h.1
  have hformal := Checked.require_eq_ok.mp hrequire
  have happlies : intent.applies directories goal.releases = true := Intent.applies_of_validated hvalid hmanifest hformal
  have haim : ∀ name, name = .latest ∨ name = .profile intent.profile → ∀ s, Recovering power goal intent directories s →
      some manifest.releaseId = goal.pointers name := by
    intro name hname s hs
    rw [hs.aim_eq happlies (covers_iff.mpr hname), Intent.aim, if_pos hcommitted, validate_releaseId hmanifest]
  refine (activateManifest_contract (Manifest.isFormal_profile hformal) ?_ fun _ h => h.sync).mono (fun _ h => h.1) ?_
    (fun _ h => h) fun _ h => h
  · intro name hname s hs
    exact hs.setPointer (haim name hname s hs)
  · rintro _ s ⟨⟨hs, hwritten⟩, hsynced⟩
    refine ⟨hs, hs.reads happlies ?_ hsynced⟩
    intro name hcovers
    rw [hwritten name (covers_iff.mp hcovers), haim name (covers_iff.mp hcovers) s hs]

lemma recoverRestored_contract (hvalid : intent.valid = true)
    (hcommitted : intent.committed (findRelease intent.releaseId goal.releases) = false) :
    Contract (Faults power leaving) (Recovering power goal intent directories) (restorePointers intent.pointers)
      (fun _ => Written power goal intent directories) (Recovering power goal intent directories)
      (Recovering power goal intent directories) := by
  have happlies : intent.applies directories goal.releases = true := by simp [Intent.applies, hvalid, hcommitted]
  have haim : ∀ entry ∈ intent.pointers, ∀ s, Recovering power goal intent directories s → entry.2 = goal.pointers entry.1 := by
    intro entry hentry s hs
    rw [hs.aim_eq happlies (Intent.covers_of_mem hvalid hentry), Intent.aim, if_neg (by simp [hcommitted]),
      lookup_eq_some_of_mem (Intent.valid_nodup hvalid) hentry, Option.getD_some]
  refine (restorePointers_contract (Intent.valid_nodup hvalid) ?_ fun _ h => h.sync).weaken ?_
  · intro entry hentry s hs
    exact hs.setPointer (haim entry hentry s hs)
  · rintro _ s ⟨⟨hs, hwritten⟩, hsynced⟩
    refine ⟨hs, hs.reads happlies ?_ hsynced⟩
    intro name hcovers
    obtain ⟨entry, hentry, rfl⟩ := Intent.mem_of_covers hvalid hcovers
    rw [hwritten entry hentry, haim entry hentry s hs]

lemma recoverIntent_contract (hvalid : intent.valid = true) :
    Contract (Faults power leaving) (Recovering power goal intent directories) (recoverIntent intent)
      (fun _ => Written power goal intent directories) (Recovering power goal intent directories)
      (Recovering power goal intent directories) := by
  refine reading_contract.bind fun row => ?_
  by_cases hrow : row = findRelease intent.releaseId goal.releases
  swap
  · exact Contract.of_false fun s h => hrow (by rw [h.2, h.1.leads.releases])
  subst hrow
  cases hcommitted : intent.committed (findRelease intent.releaseId goal.releases) with
  | true => exact (recoverCommitted_contract hvalid hcommitted).of_pre fun _ h => h.1
  | false => exact (recoverRestored_contract hvalid hcommitted).of_pre fun _ h => h.1

/-- A recovery keeps where the store leads, and has arrived there when it returns. -/
theorem recoverRollbackLocked_contract :
    Contract (Faults power leaving) (fun s => s.Leads power goal) recoverRollbackLocked
      (fun _ s => s.Leads power goal ∧ s.intent.current = none) (fun s => s.Leads power goal) (fun s => s.Leads power goal) := by
  refine reading_contract.bind fun file => ?_
  cases file with
  | none => exact Contract.pure fun s h => ⟨h.1, h.2.symm⟩
  | some file =>
    cases file with
    | irregular => exact Contract.raise fun _ h => h.1
    | malformed => exact Contract.raise fun _ h => h.1
    | record intent =>
      refine Contract.ofExcept_bind (fun _ hrequire => ?_) fun _ h => h.1
      have hvalid := Checked.require_eq_ok.mp hrequire
      apply Contract.fix Store.directories
      intro directories
      have hrecover : Contract (Faults power leaving) (Recovering power goal intent directories) (recoverIntent intent)
          (fun _ => Written power goal intent directories) (fun s => s.Leads power goal) (fun s => s.Leads power goal) :=
        (recoverIntent_contract hvalid).mono (fun _ h => h) (fun _ _ h => h) (fun _ h => h.leads) fun _ h => h.leads
      have hclear : Contract (Faults power leaving) (Written power goal intent directories) clearRollbackIntent
          (fun _ s => s.Leads power goal ∧ s.intent.current = none) (fun s => s.Leads power goal) (fun s => s.Leads power goal) := by
        have hleads : ∀ s, Written power goal intent directories s ∨ s.Leads power goal ∧ s.intent.current = none →
            s.Leads power goal := by
          rintro s (h | h)
          · exact h.1.leads
          · exact h.1
        exact (clearRollbackIntent_contract (fun s h => ⟨h.1.leads.clear h.2, rfl⟩) fun s h => ⟨h.1.sync, h.2⟩).mono
          (fun _ h => h) (fun _ _ h => h) hleads hleads
      refine Contract.of_pre (hrecover.bind fun _ => hclear.bind fun _ => Contract.pure fun _ h => h) fun s h => ?_
      exact ⟨h.1.1, h.1.2.symm, h.2⟩

end InkTime.Releases
