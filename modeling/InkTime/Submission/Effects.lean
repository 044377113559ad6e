import InkTime.Submission.Machine

/-!
# What an effect does to a row

`Wrote` lists what an effect may do to one row of `analysis_batches`. The invariants go by cases on it and never
open a repository call again.
-/

namespace InkTime.Submission

open Batches (Batch BatchState BatchStatus Remote RemoteStatus CleanupStatus CleanupAction truthy SameIds)

/-- The claim on the row, its status and what it has sent are as they were. -/
structure SameClaim (before after : BatchState) : Prop where
  status : after.status = before.status
  attempt : after.submissionAttemptId = before.submissionAttemptId
  owner : after.sideEffectOwner = before.sideEffectOwner
  remote : after.remoteBatchId = before.remoteBatchId
  input : after.inputFileId = before.inputFileId

lemma SameClaim.refl (state : BatchState) : SameClaim state state := ⟨rfl, rfl, rfl, rfl, rfl⟩

inductive Wrote (id : String) (state : BatchState) : Effect → BatchState → Prop
  | kept {effect : Effect} {after : BatchState} (same : SameClaim state after) : Wrote id state effect after
  | released {owner : String} (owned : state.sideEffectOwner = some owner) :
      Wrote id state (.repository (.releaseSideEffectClaim id owner)) state.released
  | polled {now : Nat} {owner : String} {leaseUntil : Nat} {version : Int} (free : state.pollFree now version = true) :
      Wrote id state (.repository (.claimPoll now id owner leaseUntil version)) (state.claimed owner leaseUntil)
  | uploadClaimed {now : Nat} {owner attempt : String} {leaseUntil : Nat} (free : state.uploadFree now = true) :
      Wrote id state (.repository (.claimUpload now id owner attempt leaseUntil))
        (state.uploadClaimed now owner attempt leaseUntil)
  | uploaded {now : Nat} {attempt owner fileId : String} (holds : state.holdsUpload attempt owner = true) :
      Wrote id state (.repository (.completeUpload now id attempt owner fileId)) (state.uploadCompleted now fileId)
  | uploadLost {now : Nat} {attempt owner code : String} (holds : state.holdsUpload attempt owner = true) :
      Wrote id state (.repository (.markUploadUnknown now id attempt owner code)) (state.uploadLost now code)
  | submissionClaimed {now : Nat} {owner attempt : String} {leaseUntil : Nat} (free : state.submissionFree now = true) :
      Wrote id state (.repository (.claimSubmission now id owner attempt leaseUntil))
        (state.submissionClaimed now owner attempt leaseUntil)
  | bound {now : Nat} {attempt owner remoteId : String} {remote : Remote} {status : RemoteStatus}
      (holds : state.holdsSubmission attempt owner = true) (identity : remote.identity = some remoteId) :
      Wrote id state (.repository (.completeSubmission now id attempt owner remote)) (state.bound now remoteId status remote)
  | submissionLost {now : Nat} {attempt owner code : String} (holds : state.holdsSubmission attempt owner = true) :
      Wrote id state (.repository (.markSubmissionUnknown now id attempt owner code)) (state.submissionLost now code)
  | cancelClaimed {now : Nat} {owner : String} {leaseUntil : Nat} (free : state.cancelFree now = true) :
      Wrote id state (.repository (.claimCancel now id owner leaseUntil)) (state.cancelClaimed now owner leaseUntil)
  | reported {remote : Remote} {expected : Option Int} {owner : Option String} (status : RemoteStatus) :
      Wrote id state (.repository (.setStatusFromRemote id remote expected owner)) (state.reported status remote)
  | failed {code : String} {jobStatus : Jobs.JobStatus} (remote : state.remoteBatchId = none) (input : state.inputFileId = none) :
      Wrote id state (.repository (.failLocalBatch id code jobStatus false)) (state.locallyFailed code)
  | finalized {status : BatchStatus} {action : Option CleanupAction} {code : Option String} {after : BatchState}
      (input : state.inputFileId = none) (ids : SameIds state after) (terminal : after.status.terminal = true) :
      Wrote id state (.repository (.finalizeBatchResult id status action (some .notRequired) code)) after
  | abandoned {now : Nat} {confirmed : Bool} {after : BatchState} (lost : state.status = .uploadUnknown)
      (ids : SameIds state after) (terminal : after.status.terminal = true) :
      Wrote id state (.repository (.abandonUnknownUpload now id confirmed)) after
  | written {change : Change} : Wrote id state (.write id change) (change.apply state)

/-- The same, of a row and the row that follows it. -/
def Follows (effect : Effect) (before after : Batch) : Prop := Wrote before.id before.state effect after.state

/-- The repository calls the service makes here. -/
def Effect.serves : Effect → Bool
  | .repository (.failLocalBatch _ _ _ siblings) => !siblings
  | .repository (.finalizeBatchResult _ _ _ cleanupStatus _) => cleanupStatus == some .notRequired
  | .repository (.createChildBatch ..) | .repository (.claimCleanupFile ..) | .repository (.completeCleanupFile ..)
  | .repository (.recoverUploadedFile ..) | .repository (.bindRecoveredRemote ..) | .repository (.finalizeCleanup ..) => false
  | _ => true

lemma follows_refl (effect : Effect) (batch : Batch) : Follows effect batch batch := .kept (.refl _)

section Calls

variable {db : Batches.Db}

/-- A guarded update that is allowed one row at a time. -/
lemma compareAndSet_wrote {effect : Effect} {batchId : String} {guard : BatchState → Bool} {set : BatchState → BatchState}
    (h : ∀ state, guard state = true → Wrote batchId state effect (set state)) :
    Table.Follows (Follows effect) db.batches (Batches.compareAndSet db batchId guard set).1.batches := by
  apply Batches.compareAndSet_follows (follows_refl effect)
  intro batch _ hid hguard
  subst hid
  exact h batch.state hguard

/-- What the constraint on `cleanup_status` leaves of a row that needs no cleanup. -/
lemma input_none_of_constraints {batch : Batch} (hmem : batch ∈ db.batches) (hholds : db.constraintsHold = true)
    (hcleanup : batch.state.cleanupStatus = .notRequired) : batch.state.inputFileId = none := by
  simp only [Batches.Db.constraintsHold, Bool.and_eq_true, List.all_eq_true] at hholds
  have hrow := hholds.2 batch hmem
  simp only [BatchState.cleanupConsistent, hcleanup, bne_self_eq_false, Bool.false_or, Bool.and_eq_true,
    Option.isNone_iff_eq_none] at hrow
  exact hrow.1.1

/-- A finalization closes the row it names. -/
lemma finalizeBatchLocked_named {db' : Batches.Db} {batchId : String} {status result : BatchStatus}
    {action : Option CleanupAction} {cleanupStatus : Option CleanupStatus} {code : Option String}
    (h : Batches.finalizeBatchLocked db batchId status action cleanupStatus code = .ok (db', result)) :
    Table.Follows (fun before after : Batch => after = before ∨ before.id = batchId ∧ SameIds before.state after.state ∧
      after.state.status.terminal = true ∧
      (cleanupStatus = some .notRequired → before.state.inputFileId = none)) db.batches db'.batches := by
  obtain ⟨hterminal, -, -, ⟨-, rfl⟩ | ⟨-, -, hholds, -, hbatches⟩⟩ := Batches.finalizeBatchLocked_cases h
  · exact Table.Follows.refl (fun _ => .inl rfl) _
  · intro batch hbatch
    have hstands : Table.revise (fun batch : Batch => batch.id == batchId)
        (fun batch => { batch with
          state := BatchState.finalized (Batches.settledItems db batchId status) batchId status action cleanupStatus code
            batch.state }) batch ∈ db'.batches := by
      rw [hbatches]
      apply Batches.Db.mem_setBatches.mpr
      exact ⟨batch, by rwa [Batches.settledItems_batches], rfl⟩
    by_cases hid : batch.id = batchId
    · simp only [Table.revise, hid, beq_self_eq_true, if_true] at hstands
      refine ⟨_, hstands, hid.symm, .inr ⟨hid, ⟨rfl, rfl, rfl, rfl⟩, hterminal, ?_⟩⟩
      -- the written row stands in the checked tables
      rintro rfl
      have hinput := input_none_of_constraints hstands hholds rfl
      exact hinput
    · simp only [Table.revise, beq_eq_false_iff_ne.mpr hid, Bool.false_eq_true, if_false] at hstands
      exact ⟨batch, hstands, rfl, .inl rfl⟩

lemma finalizeBatchResult_wrote {db' : Batches.Db} {batchId : String} {status result : BatchStatus}
    {action : Option CleanupAction} {code : Option String}
    (h : Batches.finalizeBatchLocked db batchId status action (some .notRequired) code = .ok (db', result)) :
    Table.Follows (Follows (.repository (.finalizeBatchResult batchId status action (some .notRequired) code)))
      db.batches db'.batches := by
  apply (finalizeBatchLocked_named h).mono
  rintro before after (rfl | ⟨rfl, hids, hterminal, hinput⟩)
  · exact follows_refl _ _
  · exact .finalized (hinput rfl) hids hterminal

lemma abandonUnknownUpload_wrote {db' : Batches.Db} {now : Nat} {batchId : String} {confirmed changed : Bool}
    (h : Batches.abandonUnknownUpload db now batchId confirmed = .ok (db', changed)) :
    Table.Follows (Follows (.repository (.abandonUnknownUpload now batchId confirmed))) db.batches db'.batches := by
  obtain ⟨-, result, hclosed⟩ := Batches.abandonUnknownUpload_ok h
  obtain ⟨-, -, h⟩ := Checked.bind_eq_ok.mp h
  obtain ⟨found, hfound, h⟩ := Checked.bind_eq_ok.mp h
  obtain ⟨_, hstatus, -⟩ := Checked.bind_eq_ok.mp h
  rw [Checked.require_eq_ok, beq_iff_eq] at hstatus
  obtain ⟨hmem, rfl⟩ := Table.find_eq_some (Checked.orError_eq_ok.mp hfound)
  have hmarked : Table.Follows (fun before after : Batch => SameClaim before.state after.state ∧
      SameIds before.state after.state) db.batches (Batches.compareAndSet db found.id
        (fun state => state.status == .uploadUnknown) (BatchState.uploadAbandoned now)).1.batches := by
    apply Batches.compareAndSet_follows
    · exact fun batch => ⟨.refl _, .refl _⟩
    · exact fun batch _ _ _ => ⟨⟨rfl, rfl, rfl, rfl, rfl⟩, ⟨rfl, rfl, rfl, rfl⟩⟩
  intro before hbefore
  obtain ⟨middle, hmiddle, hkey, hclaim, hids⟩ := hmarked before hbefore
  obtain ⟨after, hafter, hkey', rfl | ⟨hnamed, hids', hterminal, -⟩⟩ := finalizeBatchLocked_named hclosed middle hmiddle
  · exact ⟨after, hafter, hkey, .kept hclaim⟩
  · obtain rfl := Table.eq_of_key_eq hbefore hmem (hkey.symm.trans hnamed)
    exact ⟨after, hafter, hkey'.trans hkey, .abandoned hstatus (hids.trans hids') hterminal⟩

lemma failLocalBatch_wrote {db' : Batches.Db} {batchId code : String} {jobStatus : Jobs.JobStatus} {changed : Bool}
    (h : Batches.failLocalBatch db batchId code jobStatus false = .ok (db', changed)) :
    Table.Follows (Follows (.repository (.failLocalBatch batchId code jobStatus false))) db.batches db'.batches := by
  obtain ⟨asked, hasked, -, -, hbatches, -⟩ := Batches.failLocalBatch_ok h
  obtain ⟨-, rfl⟩ := Table.find_eq_some hasked
  rw [hbatches]
  apply Batches.Db.setBatches_follows (follows_refl _)
  intro batch _ hmatch
  simp only [Batches.unsentTarget, Batches.localTargets, Bool.false_and, Bool.false_eq_true, if_false, Bool.and_eq_true,
    beq_iff_eq, Option.isNone_iff_eq_none] at hmatch
  obtain ⟨⟨hid, hremote⟩, hinput⟩ := hmatch
  rw [← hid]
  exact .failed hremote hinput

lemma step_wrote {op : Batches.Op} (hserves : Effect.serves (.repository op) = true) :
    Table.Follows (Follows (.repository op)) db.batches (Batches.step db op).batches := by
  cases hcall : Batches.call db op with
  | error error =>
    rw [Batches.step, hcall, Batches.after_error]
    exact Table.Follows.refl (follows_refl _) _
  | ok result =>
    obtain ⟨db', answer⟩ := result
    rw [Batches.step, hcall, Batches.after_ok]
    cases op with
    | createChildBatch | claimCleanupFile | completeCleanupFile | recoverUploadedFile | bindRecoveredRemote
    | finalizeCleanup => cases hserves
    | createWithItems batchId jobId status items =>
      obtain ⟨count, h, -⟩ := Batches.answered_eq_ok hcall
      obtain ⟨batches, hbatches, hitems⟩ := Batches.createWithItems_ok h
      rw [Batches.insertItems_batches hitems]
      exact Table.Follows.insert (follows_refl _) hbatches
    | claimPoll now batchId owner leaseUntil version =>
      obtain ⟨rfl, -⟩ := Prod.mk.inj (Except.ok.inj hcall)
      exact compareAndSet_wrote fun state hfree => .polled hfree
    | claimUpload now batchId owner attempt leaseUntil =>
      obtain ⟨rfl, -⟩ := Prod.mk.inj (Except.ok.inj hcall)
      exact compareAndSet_wrote fun state hfree => .uploadClaimed hfree
    | claimSubmission now batchId owner attempt leaseUntil =>
      obtain ⟨rfl, -⟩ := Prod.mk.inj (Except.ok.inj hcall)
      exact compareAndSet_wrote fun state hfree => .submissionClaimed hfree
    | claimCancel now batchId owner leaseUntil =>
      obtain ⟨rfl, -⟩ := Prod.mk.inj (Except.ok.inj hcall)
      exact compareAndSet_wrote fun state hfree => .cancelClaimed hfree
    | releaseSideEffectClaim batchId owner =>
      obtain ⟨rfl, -⟩ := Prod.mk.inj (Except.ok.inj hcall)
      exact compareAndSet_wrote (show ∀ state : BatchState, (state.sideEffectOwner == some owner) = true → _ from
        fun state hown => .released (by simpa using hown))
    | completeUpload now batchId attempt owner fileId =>
      obtain ⟨rfl, -⟩ := Prod.mk.inj (Batches.completeUpload_ok hcall).1
      exact compareAndSet_wrote fun state hholds => .uploaded hholds
    | markUploadUnknown now batchId attempt owner code =>
      have hdb : (Batches.markUploadUnknown db now batchId attempt owner code).1 = db' :=
        (Prod.mk.inj (Except.ok.inj hcall)).1
      rw [← hdb, Batches.markUploadUnknown, Batches.thenItems_batches]
      exact compareAndSet_wrote fun state hholds => .uploadLost hholds
    | markSubmissionUnknown now batchId attempt owner code =>
      have hdb : (Batches.markSubmissionUnknown db now batchId attempt owner code).1 = db' :=
        (Prod.mk.inj (Except.ok.inj hcall)).1
      rw [← hdb, Batches.markSubmissionUnknown, Batches.thenItems_batches]
      exact compareAndSet_wrote fun state hholds => .submissionLost hholds
    | completeSubmission now batchId attempt owner remote =>
      obtain ⟨result, h, -⟩ := Batches.answered_eq_ok hcall
      obtain ⟨rfl, -⟩ | ⟨_, _, _, -, -, hidentity, -, -, -, -, rfl⟩ := Batches.completeSubmission_cases h
      · exact Table.Follows.refl (follows_refl _) _
      · exact compareAndSet_wrote fun state hholds => .bound hholds hidentity
    | setStatusFromRemote batchId remote expected owner =>
      obtain ⟨result, h, -⟩ := Batches.answered_eq_ok hcall
      obtain ⟨rfl, -⟩ | ⟨_, status, -, -, -, -, -, -, rfl⟩ := Batches.setStatusFromRemote_cases h
      · exact Table.Follows.refl (follows_refl _) _
      · rw [Batches.Db.setItems_batches]
        apply compareAndSet_wrote
        intro state _
        exact .reported status
    | failLocalBatch batchId code jobStatus siblings =>
      obtain rfl : siblings = false := by simpa [Effect.serves] using hserves
      exact failLocalBatch_wrote hcall
    | finalizeBatchResult batchId status action cleanupStatus code =>
      obtain rfl : cleanupStatus = some .notRequired := by simpa [Effect.serves] using hserves
      obtain ⟨result, h, -⟩ := Batches.answered_eq_ok hcall
      exact finalizeBatchResult_wrote h
    | abandonUnknownUpload now batchId confirmed => exact abandonUnknownUpload_wrote hcall

lemma updateBatch_wrote (batchId : String) (change : Change) :
    Table.Follows (Follows (.write batchId change)) db.batches ((updateBatch db batchId change).after db).batches := by
  cases h : updateBatch db batchId change with
  | error error =>
    rw [Batches.after_error]
    exact Table.Follows.refl (follows_refl _) _
  | ok result =>
    obtain ⟨db', answer⟩ := result
    rw [Batches.after_ok]
    unfold updateBatch at h
    dsimp only at h
    split at h
    · cases h
    · obtain ⟨rfl, -, -⟩ := Batches.commit_eq_ok h
      apply Batches.Db.setBatches_follows (follows_refl _)
      intro batch _ hmatch
      obtain rfl : batch.id = batchId := by simpa using hmatch
      exact .written

/-- What any effect of the service does to the rows. -/
theorem effect_wrote {effect : Effect} (hserves : effect.serves = true) :
    Table.Follows (Follows effect) db.batches (effect.db db).batches := by
  cases effect with
  | repository op => exact step_wrote hserves
  | write batchId change => exact updateBatch_wrote batchId change
  | hold jobId code =>
    apply Batches.Db.setBatches_follows (follows_refl _)
    intro batch _ _
    exact .kept ⟨rfl, rfl, rfl, rfl, rfl⟩
  | none | setItem | failJobItem | pause | reserve | release | called | start =>
    exact Table.Follows.refl (follows_refl _) _

/-- New rows come from `create_with_items` alone. -/
theorem effect_stems {effect : Effect} (hserves : effect.serves = true) :
    Table.Stems (fun batch => batch.state.remoteBatchId = none ∧ batch.state.inputFileId = none) db.batches
      (effect.db db).batches := by
  cases effect with
  | repository op =>
    intro after hafter
    obtain hnew | hold := Batches.step_stems db op after hafter
    · cases op with
      | createWithItems => exact .inl hnew.2.2
      | createChildBatch => cases hserves
      | _ => exact hnew.elim
    · exact .inr hold
  | write batchId change =>
    cases h : updateBatch db batchId change with
    | error error =>
      rw [Effect.db, h, Batches.after_error]
      exact Table.Stems.refl _
    | ok result =>
      rw [Effect.db, h]
      unfold updateBatch at h
      dsimp only at h
      split at h
      · cases h
      · obtain ⟨hdb, -, -⟩ := Batches.commit_eq_ok h
        rw [Batches.Outcome.after, hdb]
        exact Batches.Db.setBatches_stems _ _
  | hold jobId code => exact Batches.Db.setBatches_stems _ _
  | none | setItem | failJobItem | pause | reserve | release | called | start => exact Table.Stems.refl _

end Calls

end InkTime.Submission
