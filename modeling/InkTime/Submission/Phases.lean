import InkTime.Submission.Turns

/-!
# Phases of a batch

`_submit_one` claims a row before it calls `create_batch` and records the answer under that claim. Other calls read
the status of the row first and write it later without a condition, and a poll may take a claim over. A run of the
machine is orderly when no such write and no such claim meets a submission between its claim and its record. In
orderly runs no remote batch is made twice or forgotten.
-/

namespace InkTime.Submission

open Batches (Batch BatchState BatchStatus Remote RemoteStatus truthy)

def exposedOn (w : World) (batchId : String) : Bool := w.submits.any fun run => run.batchId == batchId && run.exposed

/-- `create_batch` succeeded for the batch, or its answer was lost. -/
def calledOn (w : World) (batchId : String) : Bool :=
  w.calls.any fun call => call.batchId == batchId && call.reply != .rejected

/-- Every remote batch that was returned for the batch is on its row. -/
def recorded (w : World) (batchId : String) : Bool :=
  w.calls.all fun call => call.batchId != batchId ||
    match call.reply with
    | .created remoteId => (w.db.batches.find batchId).any fun batch => batch.state.remoteBatchId == some remoteId
    | _ => true

/-- Statuses from which a submission may still be claimed. -/
def unsent : BatchStatus → Bool
  | .preparing | .uploading | .uploaded => true
  | _ => false

/-- An unconditional status meets no exposed submission; it does not reopen a batch after a call that was not
rejected, nor hide a remote batch the row does not know. A poll does not take over an exposed submission. -/
def orderlyEffect (w : World) : Effect → Bool
  | .write batchId change =>
    match change.status with
    | none | some .submissionUnknown => true
    | some status => !exposedOn w batchId && if unsent status then !calledOn w batchId else recorded w batchId
  | .repository (.claimPoll now batchId owner leaseUntil version) =>
    Batches.refused w.db (.claimPoll now batchId owner leaseUntil version) || !exposedOn w batchId
  | _ => true

def orderly (w : World) : Act → Bool
  | .submitStep id answer => (w.submits.find id).all fun run => orderlyEffect w (run.next w answer).1
  | .pollStep id answer => (w.polls.find id).all fun run => orderlyEffect w (run.next w answer).1
  | .cancelStep id answer => (w.cancels.find id).all fun run => orderlyEffect w (run.next w answer).1
  | .abandonStep id answer => (w.abandons.find id).all fun run => orderlyEffect w (run.next w answer).1
  | _ => true

/-! ### The row under a submission -/

/-- The row is claimed by the run, or set aside for the operator. -/
def HeldBy (id : String) (state : BatchState) : Prop :=
  state.holdsSubmission id ("submit:" ++ id) = true ∨ state.status = .submissionUnknown

/-- A row on which nothing is sent twice or forgotten: claimed by the run, with its file and without remote batch. -/
structure Claimed (id : String) (state : BatchState) : Prop where
  held : HeldBy id state
  unbound : state.remoteBatchId = none
  input : truthy state.inputFileId = true

/-- The row after a call that was not rejected. -/
structure Rests (reply : Reply) (state : BatchState) : Prop where
  input : truthy state.inputFileId = true
  sent : unsent state.status = false
  bound : ∀ remoteId, reply = .created remoteId → state.remoteBatchId = some remoteId ∨ state.status = .submissionUnknown
  known : ∀ remoteId, state.remoteBatchId = some remoteId → reply = .created remoteId

/-- What the actor of an effect on the row owes to the exposed submissions `holders`. -/
def Innocent (id : String) (state : BatchState) (holders : String → Prop) : Effect → Prop
  | .repository (.completeSubmission _ batchId _ _ _) => batchId ≠ id
  | .repository (.completeUpload _ _ _ _ fileId) => fileId ≠ ""
  | .repository (.markSubmissionUnknown _ batchId attempt _ _) => batchId = id → ¬holders attempt
  | .repository (.releaseSideEffectClaim batchId owner) => batchId = id → ∀ holder, holders holder → owner ≠ "submit:" ++ holder
  | .repository (.setStatusFromRemote batchId remote _ _) =>
    batchId = id → remote.remoteBatchId = none ∧ state.remoteBatchId.isSome = true
  | _ => True

lemma HeldBy.status {id : String} {state : BatchState} (h : HeldBy id state) :
    state.status = .submitting ∨ state.status = .submissionUnknown := by
  obtain hholds | hunknown := h
  · exact .inl (Batches.holdsSubmission_status hholds)
  · exact .inr hunknown

lemma HeldBy.kept {id : String} {state after : BatchState} (h : HeldBy id state) (same : SameClaim state after) :
    HeldBy id after := by
  obtain hholds | hunknown := h
  · left
    simpa only [BatchState.holdsSubmission, same.status, same.attempt, same.owner] using hholds
  · right
    rw [same.status, hunknown]

lemma truthy_isSome {value : Option String} (h : truthy value = true) : value.isSome = true := by
  cases value with
  | none => cases h
  | some text => rfl

lemma Change.apply_ids (change : Change) (state : BatchState) :
    (change.apply state).inputFileId = state.inputFileId ∧ (change.apply state).remoteBatchId = state.remoteBatchId ∧
      (change.apply state).submissionAttemptId = state.submissionAttemptId ∧
      (change.apply state).sideEffectOwner = state.sideEffectOwner := by
  cases change <;> exact ⟨rfl, rfl, rfl, rfl⟩

lemma Change.apply_status (change : Change) (state : BatchState) :
    (change.apply state).status = change.status.getD state.status := by
  cases change <;> rfl

section Rows

variable {w : World} {batch : Batch} {effect : Effect} {after : BatchState}

/-- The guard of a poll that went through. -/
lemma claimPoll_accepted (hrow : batch ∈ w.db.batches) {now : Nat} {owner : String} {leaseUntil : Nat} {version : Int}
    (hfree : batch.state.pollFree now version = true) :
    Batches.refused w.db (.claimPoll now batch.id owner leaseUntil version) = false := by
  have hcount : w.db.batches.affected (fun row : Batch => row.id == batch.id && row.state.pollFree now version) ≠ 0 := by
    apply Nat.ne_of_gt
    exact List.countP_pos_iff.mpr ⟨batch, hrow, by simp [hfree]⟩
  simp [Batches.refused, Batches.call, Batches.claimPoll, Batches.compareAndSet, hcount]

/-- A write meets an exposed submission only to set it aside. -/
lemma write_of_exposed {change : Change} (horderly : orderlyEffect w (.write batch.id change) = true)
    (hexposed : exposedOn w batch.id = true) : change.status = none ∨ change.status = some .submissionUnknown := by
  unfold orderlyEffect at horderly
  dsimp only at horderly
  split at horderly
  · next h => exact .inl h
  · next h => exact .inr h
  · rw [hexposed] at horderly
    cases horderly

/-- Nobody else takes the row from an exposed submission. -/
theorem Claimed.wrote {id : String} {holders : String → Prop} (h : Wrote batch.id batch.state effect after)
    (hrow : batch ∈ w.db.batches) (hclaimed : Claimed id batch.state) (hexposed : exposedOn w batch.id = true)
    (hholds : holders id) (hinnocent : Innocent batch.id batch.state holders effect)
    (horderly : orderlyEffect w effect = true) : Claimed id after := by
  obtain ⟨hheld, hunbound, hinput⟩ := hclaimed
  have hstatus := hheld.status
  cases h with
  | kept same => exact ⟨hheld.kept same, by rw [same.remote, hunbound], by rw [same.input, hinput]⟩
  | released owned =>
    -- the owner of the claim is the submission itself, which does not release here
    refine ⟨?_, hunbound, hinput⟩
    obtain hown | hunknown := hheld
    · simp only [BatchState.holdsSubmission, Bool.and_eq_true, beq_iff_eq] at hown
      rw [hown.2, Option.some.injEq] at owned
      exact absurd owned.symm (hinnocent rfl id hholds)
    · exact .inr hunknown
  | polled free =>
    simp only [orderlyEffect, claimPoll_accepted hrow free, hexposed] at horderly
    cases horderly
  | uploadClaimed free =>
    simp only [BatchState.uploadFree, Bool.and_eq_true, beq_iff_eq] at free
    simp [free.1.1] at hstatus
  | uploaded holds | uploadLost holds =>
    simp [Batches.holdsUpload_status holds] at hstatus
  | submissionClaimed free =>
    simp only [BatchState.submissionFree, Bool.and_eq_true, beq_iff_eq] at free
    simp [free.1.1] at hstatus
  | bound => exact absurd rfl hinnocent
  | submissionLost holds => exact ⟨.inr rfl, hunbound, hinput⟩
  | cancelClaimed free =>
    simp [BatchState.cancelFree, hunbound] at free
  | reported status =>
    have hbound := (hinnocent rfl).2
    rw [hunbound] at hbound
    cases hbound
  | failed _ input | finalized input =>
    rw [input] at hinput
    cases hinput
  | abandoned lost =>
    simp [lost] at hstatus
  | @written change =>
    obtain ⟨hinput', hremote', hattempt', howner'⟩ := change.apply_ids batch.state
    refine ⟨?_, by rw [hremote', hunbound], by rw [hinput', hinput]⟩
    have hwritten := change.apply_status batch.state
    obtain hnone | hunknown := write_of_exposed horderly hexposed
    · rw [hnone] at hwritten
      exact hheld.kept ⟨hwritten, hattempt', howner', hremote', hinput'⟩
    · rw [hunknown] at hwritten
      exact .inr hwritten

lemma localStatus_sent (status : RemoteStatus) : unsent status.localStatus = false := by
  cases status <;> rfl

/-- After a call that was not rejected the row is neither reopened nor forgotten. -/
theorem Rests.wrote {call : Call} {holders : String → Prop} (h : Wrote batch.id batch.state effect after)
    (hrests : Rests call.reply batch.state) (hrow : w.db.batches.find batch.id = some batch)
    (hcall : call ∈ w.calls) (hbatch : call.batchId = batch.id) (hstands : call.reply ≠ .rejected)
    (hinnocent : Innocent batch.id batch.state holders effect) (horderly : orderlyEffect w effect = true) :
    Rests call.reply after := by
  obtain ⟨hinput, hsent, hbound, hknown⟩ := hrests
  cases h with
  | kept same =>
    refine ⟨by rw [same.input, hinput], by rw [same.status, hsent], ?_, ?_⟩
    · rw [same.remote, same.status]
      exact hbound
    · rw [same.remote]
      exact hknown
  | released owned => exact ⟨hinput, hsent, hbound, hknown⟩
  | polled free => exact ⟨hinput, hsent, hbound, hknown⟩
  | uploadClaimed free =>
    simp only [BatchState.uploadFree, Bool.and_eq_true, beq_iff_eq] at free
    rw [free.1.1] at hsent
    cases hsent
  | uploaded holds | uploadLost holds =>
    rw [Batches.holdsUpload_status holds] at hsent
    cases hsent
  | submissionClaimed free =>
    simp only [BatchState.submissionFree, Bool.and_eq_true, beq_iff_eq] at free
    rw [free.1.1] at hsent
    cases hsent
  | bound => exact absurd rfl hinnocent
  | submissionLost holds => exact ⟨hinput, rfl, fun _ _ => .inr rfl, hknown⟩
  | cancelClaimed free =>
    refine ⟨hinput, rfl, ?_, hknown⟩
    intro remoteId hreply
    simp only [BatchState.cancelFree, Bool.and_eq_true, Option.isSome_iff_exists] at free
    obtain ⟨other, hother⟩ := free.1.1
    rw [hreply] at hknown
    obtain rfl := Reply.created.inj (hknown other hother)
    exact .inl hother
  | @reported remote expected owner status =>
    obtain ⟨hnone, hsome⟩ := hinnocent rfl
    obtain ⟨other, hother⟩ := Option.isSome_iff_exists.mp hsome
    have hremote : (batch.state.reported status remote).remoteBatchId = batch.state.remoteBatchId := by
      simp [BatchState.reported, hnone]
    refine ⟨by simp [BatchState.reported, hinput], localStatus_sent status, ?_, ?_⟩
    · intro remoteId hreply
      have hreply' := hknown other hother
      rw [hreply] at hreply'
      obtain rfl := Reply.created.inj hreply'
      exact .inl (by rw [hremote, hother])
    · rw [hremote]
      exact hknown
  | failed _ input | finalized input =>
    rw [input] at hinput
    cases hinput
  | abandoned lost ids terminal =>
    refine ⟨by rw [ids.input, hinput], ?_, ?_, ?_⟩
    · revert terminal
      cases after.status <;> simp [unsent, BatchStatus.terminal]
    · intro remoteId hreply
      obtain hremote | hunknown := hbound remoteId hreply
      · exact .inl (by rw [ids.remote, hremote])
      · rw [lost] at hunknown
        cases hunknown
    · rw [ids.remote]
      exact hknown
  | @written change =>
    obtain ⟨hinput', hremote', -, -⟩ := change.apply_ids batch.state
    have hwritten := change.apply_status batch.state
    have hcalled : calledOn w batch.id = true :=
      List.any_eq_true.mpr ⟨call, hcall, by simp [hbatch, hstands]⟩
    unfold orderlyEffect at horderly
    dsimp only at horderly
    refine ⟨by rw [hinput', hinput], ?_, ?_, by rw [hremote']; exact hknown⟩
    · split at horderly
      · next hnone => rw [hwritten, hnone]; exact hsent
      · next hunknown => rw [hwritten, hunknown]; rfl
      · next status _ hstatus =>
        rw [hwritten, hstatus, Option.getD_some]
        cases hopen : unsent status with
        | false => rfl
        | true =>
          rw [hopen, hcalled] at horderly
          simp at horderly
    · intro remoteId hreply
      rw [hremote']
      split at horderly
      · next hnone =>
        rw [hwritten, hnone]
        exact hbound remoteId hreply
      · next hunknown => exact .inr (by rw [hwritten, hunknown]; rfl)
      · next status _ hstatus =>
        rw [Bool.and_eq_true] at horderly
        left
        have hrecorded := horderly.2
        split at hrecorded
        · rw [hcalled] at hrecorded
          cases hrecorded
        · have hentry := List.all_eq_true.mp hrecorded call hcall
          simpa [hbatch, hreply, hrow] using hentry

/-- Only a submission that carries an answer binds a remote batch. -/
lemma unbound_wrote {holders : String → Prop} (h : Wrote batch.id batch.state effect after)
    (hunbound : batch.state.remoteBatchId = none) (hinnocent : Innocent batch.id batch.state holders effect) :
    after.remoteBatchId = none := by
  cases h with
  | kept same => rw [same.remote, hunbound]
  | bound => exact absurd rfl hinnocent
  | reported status =>
    have hbound := (hinnocent rfl).2
    rw [hunbound] at hbound
    cases hbound
  | finalized _ ids | abandoned _ ids => rw [ids.remote, hunbound]
  | @written change => rw [(change.apply_ids batch.state).2.1, hunbound]
  | _ => exact hunbound

end Rows

/-! ### Phases of a batch -/

/-- The run is the exposed submission of the batch, and the row is its own. -/
structure Exposes (w : World) (id : String) (run : Submit) (batch : Batch) : Prop where
  member : run ∈ w.submits
  named : run.batchId = id
  alone : ∀ other ∈ w.submits, other.batchId = id → other.exposed = true → other = run
  found : w.db.batches.find id = some batch
  row : Claimed run.id batch.state

/-- The one call for the batch that was not rejected. -/
structure Standing (w : World) (id : String) (call : Call) : Prop where
  member : call ∈ w.calls
  named : call.batchId = id
  stands : call.reply ≠ .rejected
  only : ∀ other ∈ w.calls, other.batchId = id → other.reply ≠ .rejected → other = call

inductive Phase (w : World) (id : String) : Prop
  /-- Nothing is under way, and nothing was created. -/
  | idle (quiet : exposedOn w id = false) (uncalled : calledOn w id = false)
      (unbound : ∀ batch, w.db.batches.find id = some batch → batch.state.remoteBatchId = none)
  /-- A submission holds the row and has not called yet. -/
  | claimed (run : Submit) (batch : Batch) (exposes : Exposes w id run batch) (claims : run.claims = true)
      (uncalled : calledOn w id = false)
  /-- A submission holds the row and the answer. -/
  | carried (run : Submit) (batch : Batch) (call : Call) (exposes : Exposes w id run batch) (carries : run.carries = true)
      (standing : Standing w id call) (own : call.runId = run.id)
      (saves : ∀ remote, run.point = .saving remote → truthy remote.id = true ∧ call.reply = .created (remote.id.getD ""))
  /-- The answer is on the row, or the row is set aside. -/
  | settled (batch : Batch) (call : Call) (quiet : exposedOn w id = false) (standing : Standing w id call)
      (found : w.db.batches.find id = some batch) (rests : Rests call.reply batch.state)

lemma exposedOn_iff {w : World} {id : String} :
    exposedOn w id = true ↔ ∃ run ∈ w.submits, run.batchId = id ∧ run.exposed = true := by
  simp [exposedOn, Table.any, Table.mem_iff]

lemma exposedOn_false {w : World} {id : String} :
    exposedOn w id = false ↔ ∀ run ∈ w.submits, run.batchId = id → run.exposed = false := by
  simp [exposedOn, Table.any, Table.mem_iff]

lemma calledOn_false {w : World} {id : String} :
    calledOn w id = false ↔ ∀ call ∈ w.calls, call.batchId = id → call.reply = .rejected := by
  simp [calledOn]

/-- The exposed submissions of a batch. -/
def holdersOf (w : World) (id : String) (holder : String) : Prop :=
  ∃ run ∈ w.submits, run.id = holder ∧ run.batchId = id ∧ run.exposed = true

section Outside

variable {w w' : World} {id : String} {effect : Effect}

def SameExposed (w w' : World) (id : String) : Prop :=
  ∀ run : Submit, run.batchId = id → run.exposed = true → (run ∈ w'.submits ↔ run ∈ w.submits)

def SameCalls (w w' : World) (id : String) : Prop := ∀ call : Call, call.batchId = id → (call ∈ w'.calls ↔ call ∈ w.calls)

lemma SameExposed.quiet (h : SameExposed w w' id) (hquiet : exposedOn w id = false) : exposedOn w' id = false := by
  rw [exposedOn_false] at *
  intro run hrun hnamed
  by_contra hexposed
  rw [Bool.not_eq_false] at hexposed
  rw [hquiet run ((h run hnamed hexposed).mp hrun) hnamed] at hexposed
  cases hexposed

lemma SameCalls.uncalled (h : SameCalls w w' id) (huncalled : calledOn w id = false) : calledOn w' id = false := by
  rw [calledOn_false] at *
  intro call hcall hnamed
  exact huncalled call ((h call hnamed).mp hcall) hnamed

lemma SameCalls.standing (h : SameCalls w w' id) {call : Call} (hstanding : Standing w id call) : Standing w' id call := by
  obtain ⟨hmember, hnamed, hstands, honly⟩ := hstanding
  refine ⟨(h call hnamed).mpr hmember, hnamed, hstands, ?_⟩
  intro other hother hother_named
  exact honly other ((h other hother_named).mp hother) hother_named

lemma Claimed.exposed_of_claims {run : Submit} (h : run.claims = true) : run.exposed = true := by
  rw [Submit.exposed, h]
  rfl

lemma Claimed.exposed_of_carries {run : Submit} (h : run.carries = true) : run.exposed = true := by
  rw [Submit.exposed, h, Bool.or_true]

/-- The row of a batch after an effect. -/
lemma found_wrote {batch : Batch} (hfound : w.db.batches.find id = some batch) (hserves : effect.serves = true)
    (hdb : w'.db.batches = (effect.db w.db).batches) :
    ∃ after, w'.db.batches.find id = some after ∧ Wrote batch.id batch.state effect after.state := by
  rw [hdb]
  exact (effect_wrote hserves).find hfound

lemma unbound_of_outside (hserves : effect.serves = true) (hdb : w'.db.batches = (effect.db w.db).batches)
    (hinnocent : ∀ batch, w.db.batches.find id = some batch → Innocent id batch.state (holdersOf w id) effect)
    (hunbound : ∀ batch, w.db.batches.find id = some batch → batch.state.remoteBatchId = none) :
    ∀ after, w'.db.batches.find id = some after → after.state.remoteBatchId = none := by
  intro after hafter
  cases hfound : w.db.batches.find id with
  | some batch =>
    obtain ⟨after', hafter', hwrote⟩ := found_wrote hfound hserves hdb
    obtain rfl : after' = after := Option.some.inj (hafter'.symm.trans hafter)
    obtain ⟨-, rfl⟩ := Table.find_eq_some hfound
    exact unbound_wrote hwrote (hunbound batch hfound) (hinnocent batch hfound)
  | none =>
    obtain ⟨hmem, rfl⟩ := Table.find_eq_some hafter
    rw [hdb] at hmem
    obtain hnew | ⟨batch, hbatch, hid⟩ := effect_stems hserves after hmem
    · exact hnew.1
    · exact absurd hid (Table.find_eq_none hfound hbatch)

/-- An exposed submission stays exposed under what others do. -/
lemma Exposes.outside {run : Submit} {batch : Batch} (h : Exposes w id run batch) (hexposed : run.exposed = true)
    (hsubmits : SameExposed w w' id) (hserves : effect.serves = true) (hdb : w'.db.batches = (effect.db w.db).batches)
    (hinnocent : ∀ batch, w.db.batches.find id = some batch → Innocent id batch.state (holdersOf w id) effect)
    (horderly : orderlyEffect w effect = true) : ∃ after, Exposes w' id run after := by
  obtain ⟨hmember, hnamed, halone, hfound, hrow⟩ := h
  obtain ⟨after, hafter, hwrote⟩ := found_wrote hfound hserves hdb
  have hinnocent := hinnocent batch hfound
  obtain ⟨hmem, rfl⟩ := Table.find_eq_some hfound
  refine ⟨after, (hsubmits run hnamed hexposed).mpr hmember, hnamed, ?_, hafter, ?_⟩
  · intro other hother hother_named hother_exposed
    exact halone other ((hsubmits other hother_named hother_exposed).mp hother) hother_named hother_exposed
  · exact Claimed.wrote hwrote hmem hrow (exposedOn_iff.mpr ⟨run, hmember, hnamed, hexposed⟩)
      ⟨run, hmember, rfl, hnamed, hexposed⟩ hinnocent horderly

/-- What others do leaves the phase of a batch as it is. -/
theorem Phase.outside (h : Phase w id) (hsubmits : SameExposed w w' id) (hcalls : SameCalls w w' id)
    (hserves : effect.serves = true) (hdb : w'.db.batches = (effect.db w.db).batches)
    (hinnocent : ∀ batch, w.db.batches.find id = some batch → Innocent id batch.state (holdersOf w id) effect)
    (horderly : orderlyEffect w effect = true) : Phase w' id := by
  cases h with
  | idle quiet uncalled unbound =>
    exact .idle (hsubmits.quiet quiet) (hcalls.uncalled uncalled) (unbound_of_outside hserves hdb hinnocent unbound)
  | claimed run batch exposes claims uncalled =>
    obtain ⟨after, hexposes⟩ := exposes.outside (Claimed.exposed_of_claims claims) hsubmits hserves hdb hinnocent horderly
    exact .claimed run after hexposes claims (hcalls.uncalled uncalled)
  | carried run batch call exposes carries standing own saves =>
    obtain ⟨after, hexposes⟩ := exposes.outside (Claimed.exposed_of_carries carries) hsubmits hserves hdb hinnocent horderly
    exact .carried run after call hexposes carries (hcalls.standing standing) own saves
  | settled batch call quiet standing found rests =>
    obtain ⟨after, hafter, hwrote⟩ := found_wrote found hserves hdb
    have hinnocent := hinnocent batch found
    obtain ⟨-, rfl⟩ := Table.find_eq_some found
    exact .settled after call (hsubmits.quiet quiet) (hcalls.standing standing) hafter
      (Rests.wrote hwrote rests found standing.member standing.named standing.stands hinnocent horderly)

end Outside

/-! ### Turns and phases -/

lemma Submit.carries_of_claims {run : Submit} (h : run.claims = true) : run.carries = false := by
  revert h
  unfold Submit.claims Submit.carries
  cases run.point <;> simp

/-- The row a guarded update leaves. -/
lemma find_compareAndSet {db : Batches.Db} {id : String} {batch : Batch} (hfound : db.batches.find id = some batch)
    (guard : BatchState → Bool) (set : BatchState → BatchState) :
    (Batches.compareAndSet db id guard set).1.batches.find id =
      some (if guard batch.state then { batch with state := set batch.state } else batch) := by
  have hkey : ∀ batch : Batch, ({ batch with state := set batch.state } : Batch).id = batch.id := fun _ => rfl
  obtain ⟨-, hid⟩ := Table.find_eq_some hfound
  have hfind := Table.find_update db.batches (fun batch : Batch => batch.id == id && guard batch.state) _ hkey id
  rw [hfound, Option.map_some] at hfind
  simp only [Batches.compareAndSet, Batches.Db.setBatches]
  rw [hfind, Table.revise]
  simp [hid]

section Turns

variable {w : World} {run after : Submit} {effect : Effect} {id : String}

/-- The machine after a turn of a submission. -/
def turned (w : World) (effect : Effect) (after : Submit) : World := (w.apply effect).putSubmit after

lemma mem_turned (hrun : run ∈ w.submits) (hsame : Submit.Same run after) (hstart : ∀ other, effect ≠ .start other)
    {other : Submit} : other ∈ (turned w effect after).submits ↔ other = after ∨ (other ∈ w.submits ∧ other.id ≠ run.id) := by
  have hsubmits : effect.submits w.submits = w.submits := by
    cases effect with
    | start other => exact absurd rfl (hstart other)
    | _ => rfl
  have hput : (turned w effect after).submits = w.submits.put after := by
    simp only [turned, World.putSubmit, World.apply, hsubmits]
  rw [hput, Table.mem_put_iff hrun hsame.1.symm, hsame.1]

/-- Elsewhere, and where the run is not exposed before or after, the exposed submissions stay. -/
lemma turned_sameExposed (hrun : run ∈ w.submits) (hsame : Submit.Same run after) (hstart : ∀ other, effect ≠ .start other)
    (h : run.batchId = id → run.exposed = false ∧ after.exposed = false) : SameExposed w (turned w effect after) id := by
  intro other hnamed hexposed
  rw [mem_turned hrun hsame hstart]
  constructor
  · rintro (rfl | ⟨hother, -⟩)
    · rw [(h (hsame.2.symm.trans hnamed)).2] at hexposed
      cases hexposed
    · exact hother
  · intro hother
    refine .inr ⟨hother, ?_⟩
    intro hid
    obtain rfl := Table.eq_of_key_eq hother hrun hid
    rw [(h hnamed).1] at hexposed
    cases hexposed

lemma turned_sameCalls (h : ∀ call, effect = .called call → call.batchId ≠ id) : SameCalls w (turned w effect after) id := by
  intro call hnamed
  cases effect with
  | called added =>
    simp only [turned, World.putSubmit, World.apply, Effect.calls, List.mem_append, List.mem_singleton]
    constructor
    · rintro (hcall | rfl)
      · exact hcall
      · exact absurd hnamed (h call rfl)
    · exact .inl
  | _ => exact Iff.rfl

/-- A modest run outside its exposed part harms no submission. -/
lemma innocent_of_modest (hrun : run ∈ w.submits) (hexposed : run.exposed = false) (hmodest : Modest run.id effect)
    (state : BatchState) : Innocent id state (holdersOf w id) effect := by
  have hholder : ¬holdersOf w id run.id := by
    rintro ⟨other, hother, hid, -, hother_exposed⟩
    obtain rfl := Table.eq_of_key_eq hother hrun hid
    rw [hexposed] at hother_exposed
    cases hother_exposed
  cases effect with
  | repository op =>
    cases op with
    | completeSubmission | setStatusFromRemote => exact hmodest.elim
    | completeUpload => exact hmodest
    | markSubmissionUnknown now batchId attempt =>
      obtain rfl := hmodest
      exact fun _ => hholder
    | releaseSideEffectClaim batchId owner =>
      obtain rfl := hmodest
      rintro - holder hheld heq
      rw [String.append_right_inj] at heq
      subst heq
      exact hholder hheld
    | _ => trivial
  | _ => trivial

lemma Turn.not_start (h : Turn w run effect after) (other : Submit) : effect ≠ .start other := by
  rintro rfl
  cases h with
  | outside _ _ modest => exact modest.elim
  | onward _ _ inert => simp at inert

/-- A turn leaves the phases of other batches alone. -/
lemma Turn.elsewhere (h : Turn w run effect after) (hrun : run ∈ w.submits) (hsame : Submit.Same run after)
    (hserves : effect.serves = true) (horderly : orderlyEffect w effect = true) (hne : run.batchId ≠ id) (hphase : Phase w id) :
    Phase (turned w effect after) id := by
  refine hphase.outside (turned_sameExposed hrun hsame h.not_start fun heq => absurd heq hne) ?_ hserves rfl ?_ horderly
  · apply turned_sameCalls
    intro call hcall
    subst hcall
    cases h with
    | outside _ _ modest => exact modest.elim
    | onward _ _ inert => simp at inert
    | refused | carry => exact hne
  · intro batch _
    cases h with
    | outside before _ modest => exact innocent_of_modest hrun before modest _
    | onward _ _ inert =>
      obtain rfl | rfl := inert <;> trivial
    | saved | unsaved => exact hne
    | mark => exact fun heq => absurd heq hne
    | _ => trivial

/-- The submission that a phase knows is the one that takes its turn. -/
lemma Phase.of_claims (h : Phase w run.batchId) (hrun : run ∈ w.submits) (hclaims : run.claims = true) :
    ∃ batch, Exposes w run.batchId run batch ∧ calledOn w run.batchId = false := by
  have hexposed := Claimed.exposed_of_claims hclaims
  cases h with
  | idle quiet | settled _ _ quiet =>
    rw [exposedOn_false.mp quiet run hrun rfl] at hexposed
    cases hexposed
  | claimed other batch exposes _ uncalled =>
    obtain rfl := exposes.alone run hrun rfl hexposed
    exact ⟨batch, exposes, uncalled⟩
  | carried other batch call exposes carries =>
    obtain rfl := exposes.alone run hrun rfl hexposed
    rw [Submit.carries_of_claims hclaims] at carries
    cases carries

lemma Phase.of_carries (h : Phase w run.batchId) (hrun : run ∈ w.submits) (hcarries : run.carries = true) :
    ∃ batch call, Exposes w run.batchId run batch ∧ Standing w run.batchId call ∧ call.runId = run.id ∧
      ∀ remote, run.point = .saving remote → truthy remote.id = true ∧ call.reply = .created (remote.id.getD "") := by
  have hexposed := Claimed.exposed_of_carries hcarries
  cases h with
  | idle quiet | settled _ _ quiet =>
    rw [exposedOn_false.mp quiet run hrun rfl] at hexposed
    cases hexposed
  | claimed other batch exposes claims =>
    obtain rfl := exposes.alone run hrun rfl hexposed
    rw [Submit.carries_of_claims claims] at hcarries
    cases hcarries
  | carried other batch call exposes _ standing own saves =>
    obtain rfl := exposes.alone run hrun rfl hexposed
    exact ⟨batch, call, exposes, standing, own, saves⟩

/-- The row stays with the submission through its turn. -/
lemma Exposes.turned {batch row : Batch} (h : Exposes w run.batchId run batch) (hsame : Submit.Same run after)
    (hstart : ∀ other, effect ≠ .start other) (hfound : (effect.db w.db).batches.find run.batchId = some row)
    (hrow : Claimed run.id row.state) : Exposes (turned w effect after) run.batchId after row := by
  refine ⟨(mem_turned h.member hsame hstart).mpr (.inl rfl), hsame.2, ?_, hfound, ?_⟩
  · intro other hother hnamed hexposed
    obtain rfl | ⟨hmem, hne⟩ := (mem_turned h.member hsame hstart).mp hother
    · rfl
    · exact absurd (congrArg Submit.id (h.alone other hmem hnamed hexposed)) hne
  · rw [hsame.1]
    exact hrow

/-- A submission that leaves its exposed part leaves no other behind. -/
lemma Exposes.quiet {batch : Batch} (h : Exposes w run.batchId run batch) (hsame : Submit.Same run after)
    (hstart : ∀ other, effect ≠ .start other) (hafter : after.exposed = false) :
    exposedOn (Submission.turned w effect after) run.batchId = false := by
  rw [exposedOn_false]
  intro other hother hnamed
  obtain rfl | ⟨hmem, hne⟩ := (mem_turned h.member hsame hstart).mp hother
  · exact hafter
  · by_contra hexposed
    rw [Bool.not_eq_false] at hexposed
    exact hne (congrArg Submit.id (h.alone other hmem hnamed hexposed))

lemma Claimed.unsent {batch : Batch} (h : Claimed id batch.state) : unsent batch.state.status = false := by
  obtain hstatus | hstatus := h.held.status <;> rw [hstatus] <;> rfl

/-- A claim finds the batch idle: its row is still to be sent. -/
lemma claim_phase {now leaseUntil : Nat} {db : Batches.Db} (hphase : Phase w run.batchId) (hrun : run ∈ w.submits)
    (hfiles : ∀ batch ∈ w.db.batches, batch.state.inputFileId.isSome = true → truthy batch.state.inputFileId = true)
    (haccepted : Batches.call w.db (.claimSubmission now run.batchId run.owner run.id leaseUntil) = .ok (db, true)) :
    Phase (turned w (.repository (.claimSubmission now run.batchId run.owner run.id leaseUntil))
      { run with won := true, point := .reserving }) run.batchId := by
  have hanswer : (Batches.claimSubmission w.db now run.batchId run.owner run.id leaseUntil).2 = true :=
    (Prod.mk.inj (Except.ok.inj haccepted)).2
  obtain ⟨batch, hmem, hid, hfree⟩ := Batches.compareAndSet_accepted hanswer
  have hfound : w.db.batches.find run.batchId = some batch := by
    rw [← hid]
    exact Table.find_of_mem hmem
  have hrow := find_compareAndSet hfound (BatchState.submissionFree now)
    (BatchState.submissionClaimed now run.owner run.id leaseUntil)
  rw [if_pos hfree] at hrow
  have hopen : batch.state.status = .uploaded ∧ batch.state.inputFileId.isSome = true := by
    simp only [BatchState.submissionFree, Bool.and_eq_true, beq_iff_eq] at hfree
    exact hfree.1
  have hstart : ∀ other, Effect.repository (.claimSubmission now run.batchId run.owner run.id leaseUntil) ≠ .start other := by
    intro other h
    cases h
  have hsame : Submit.Same run { run with won := true, point := .reserving } := ⟨rfl, rfl⟩
  cases hphase with
  | idle quiet uncalled unbound =>
    refine .claimed { run with won := true, point := .reserving } _ ⟨?_, rfl, ?_, hrow, ?_⟩ rfl uncalled
    · exact (mem_turned hrun hsame hstart).mpr (.inl rfl)
    · intro other hother hnamed hexposed
      obtain rfl | ⟨hother, -⟩ := (mem_turned hrun hsame hstart).mp hother
      · rfl
      · rw [exposedOn_false.mp quiet other hother hnamed] at hexposed
        cases hexposed
    · refine ⟨.inl ?_, unbound batch hfound, hfiles batch hmem hopen.2⟩
      simp [BatchState.holdsSubmission, BatchState.submissionClaimed, BatchState.claimed, Submit.owner]
  | claimed other row exposes =>
    obtain rfl : row = batch := Option.some.inj (exposes.found.symm.trans hfound)
    have hunsent := exposes.row.unsent
    rw [hopen.1] at hunsent
    cases hunsent
  | carried other row call exposes =>
    obtain rfl : row = batch := Option.some.inj (exposes.found.symm.trans hfound)
    have hunsent := exposes.row.unsent
    rw [hopen.1] at hunsent
    cases hunsent
  | settled row call _ _ found rests =>
    obtain rfl : row = batch := Option.some.inj (found.symm.trans hfound)
    have hunsent := rests.sent
    rw [hopen.1] at hunsent
    cases hunsent

lemma Standing.turned {call : Call} (h : Standing w id call) (heffect : ∀ call, effect ≠ .called call) :
    Standing (Submission.turned w effect after) id call :=
  (turned_sameCalls fun call hcall => absurd hcall (heffect call)).standing h

lemma calls_turned (call : Call) : (turned w (.called call) after).calls = w.calls ++ [call] := rfl

/-- The first call that is not rejected is the only one. -/
lemma standing_turned {call : Call} (huncalled : calledOn w id = false) (hnamed : call.batchId = id)
    (hstands : call.reply ≠ .rejected) : Standing (turned w (.called call) after) id call := by
  refine ⟨by simp [calls_turned], hnamed, hstands, ?_⟩
  intro other hother hother_named hother_stands
  rw [calls_turned, List.mem_append, List.mem_singleton] at hother
  obtain hother | rfl := hother
  · exact absurd (calledOn_false.mp huncalled other hother hother_named) hother_stands
  · rfl

/-- A call that was refused leaves the batch idle, one whose answer was lost leaves it to the operator. -/
lemma refused_phase {reply : Reply} {batch : Batch} (hexposes : Exposes w run.batchId run batch)
    (huncalled : calledOn w run.batchId = false) (hsame : Submit.Same run after) (hafter : after.exposed = false)
    (hunnamed : ∀ remoteId, reply ≠ .created remoteId) :
    Phase (turned w (.called ⟨run.batchId, run.id, reply⟩) after) run.batchId := by
  have hstart : ∀ other, Effect.called ⟨run.batchId, run.id, reply⟩ ≠ .start other := by
    intro other h
    cases h
  have hquiet := hexposes.quiet hsame hstart hafter
  by_cases hrejected : reply = .rejected
  · refine .idle hquiet ?_ ?_
    · rw [calledOn_false] at huncalled ⊢
      intro call hcall hnamed
      rw [calls_turned, List.mem_append, List.mem_singleton] at hcall
      obtain hcall | rfl := hcall
      · exact huncalled call hcall hnamed
      · exact hrejected
    · intro row hfound
      obtain rfl : batch = row := Option.some.inj (hexposes.found.symm.trans hfound)
      exact hexposes.row.unbound
  · refine .settled batch ⟨run.batchId, run.id, reply⟩ hquiet (standing_turned huncalled rfl hrejected) hexposes.found ?_
    refine ⟨hexposes.row.input, hexposes.row.unsent, fun remoteId hreply => absurd hreply (hunnamed remoteId), ?_⟩
    intro remoteId hremote
    rw [hexposes.row.unbound] at hremote
    cases hremote

/-- The row of a submission that was saved. -/
lemma saved_phase {now : Nat} {remote : Remote} {db : Batches.Db} {batch : Batch} {call : Call}
    (hexposes : Exposes w run.batchId run batch) (hstanding : Standing w run.batchId call)
    (hid : truthy remote.id = true) (hreply : call.reply = .created (remote.id.getD "")) (hsame : Submit.Same run after)
    (hafter : after.exposed = false)
    (haccepted : Batches.call w.db (.completeSubmission now run.batchId run.id run.owner remote) = .ok (db, true)) :
    Phase (turned w (.repository (.completeSubmission now run.batchId run.id run.owner remote)) after) run.batchId := by
  obtain ⟨result, hcall, hsome⟩ := Batches.answered_eq_ok haccepted
  obtain ⟨-, rfl⟩ | ⟨found, remoteId, status, hfound, hholds, hidentity, -, -, -, -, rfl⟩ :=
    Batches.completeSubmission_cases hcall
  · cases hsome
  · obtain rfl : found = batch := Option.some.inj (hfound.symm.trans hexposes.found)
    have hrow := find_compareAndSet hfound (BatchState.holdsSubmission run.id run.owner)
      (BatchState.bound now remoteId status remote)
    rw [if_pos hholds] at hrow
    have hremote : remoteId = remote.id.getD "" := by
      rw [Remote.identity, Batches.orElse, if_pos hid] at hidentity
      rw [hidentity]
      rfl
    have hdb : (Effect.db w.db (.repository (.completeSubmission now run.batchId run.id run.owner remote))).batches.find
        run.batchId = some { found with state := found.state.bound now remoteId status remote } := by
      rw [Effect.db, Batches.step, haccepted]
      exact hrow
    refine .settled _ call (hexposes.quiet hsame (by intro _ h; cases h) hafter) (hstanding.turned (by intro _ h; cases h)) hdb ?_
    refine ⟨hexposes.row.input, localStatus_sent status, ?_, ?_⟩
    · intro other hother
      rw [hreply] at hother
      left
      rw [← Reply.created.inj hother, ← hremote]
      rfl
    · rintro other ⟨⟩
      rw [hreply, hremote]

/-- A save that did not go through leaves the tables alone. -/
lemma unsaved_db {now : Nat} {remote : Remote} {batchId attempt owner : String}
    (hrefused : ∀ db, Batches.call w.db (.completeSubmission now batchId attempt owner remote) ≠ .ok (db, true)) :
    Batches.step w.db (.completeSubmission now batchId attempt owner remote) = w.db := by
  rw [Batches.step]
  cases hcall : Batches.call w.db (.completeSubmission now batchId attempt owner remote) with
  | error error => rfl
  | ok result =>
    obtain ⟨db, answer⟩ := result
    obtain ⟨result, hresult, hanswer⟩ := Batches.answered_eq_ok hcall
    obtain ⟨rfl, -⟩ | ⟨_, _, _, -, -, -, -, -, -, rfl, -⟩ := Batches.completeSubmission_cases hresult
    · rfl
    · rw [← hanswer] at hcall
      exact absurd hcall (hrefused db)

/-- A submission that cannot save its answer sets the row aside. -/
lemma mark_phase {now : Nat} {code : String} {batch : Batch} {call : Call} (hexposes : Exposes w run.batchId run batch)
    (hstanding : Standing w run.batchId call) (hsame : Submit.Same run after) (hafter : after.exposed = false) :
    Phase (turned w (.repository (.markSubmissionUnknown now run.batchId run.id run.owner code)) after) run.batchId := by
  have hrow := find_compareAndSet hexposes.found (BatchState.holdsSubmission run.id run.owner) (BatchState.submissionLost now code)
  have hdb : (Effect.db w.db (.repository (.markSubmissionUnknown now run.batchId run.id run.owner code))).batches.find
      run.batchId = some (if batch.state.holdsSubmission run.id run.owner then
        { batch with state := batch.state.submissionLost now code } else batch) := by
    rw [← hrow]
    change (Batches.markSubmissionUnknown w.db now run.batchId run.id run.owner code).1.batches.find run.batchId = _
    rw [Batches.markSubmissionUnknown, Batches.thenItems_batches]
  obtain ⟨hheld, hunbound, hinput⟩ := hexposes.row
  refine .settled _ call (hexposes.quiet hsame (by intro _ h; cases h) hafter) (hstanding.turned (by intro _ h; cases h)) hdb ?_
  split
  · refine ⟨hinput, rfl, fun _ _ => .inr rfl, ?_⟩
    intro remoteId hremote
    have hnone : batch.state.remoteBatchId = some remoteId := hremote
    rw [hunbound] at hnone
    cases hnone
  · next hother =>
    have hstatus : batch.state.status = .submissionUnknown := by
      obtain hholds | hunknown := hheld
      · exact absurd hholds hother
      · exact hunknown
    refine ⟨hinput, by rw [hstatus]; rfl, fun _ _ => .inr hstatus, ?_⟩
    intro remoteId hremote
    rw [hunbound] at hremote
    cases hremote

/-- A turn of a submission keeps every batch in a phase. -/
theorem Turn.phase (h : Turn w run effect after) (hrun : run ∈ w.submits) (hsame : Submit.Same run after)
    (hfiles : ∀ batch ∈ w.db.batches, batch.state.inputFileId.isSome = true → truthy batch.state.inputFileId = true)
    (hserves : effect.serves = true) (horderly : orderlyEffect w effect = true) (hphase : Phase w id) :
    Phase (turned w effect after) id := by
  by_cases hid : run.batchId = id
  · subst hid
    cases h with
    | outside before stays modest =>
      refine hphase.outside (turned_sameExposed hrun hsame ?_ fun _ => ⟨before, stays⟩) ?_ hserves rfl
        (fun batch _ => innocent_of_modest hrun before modest _) horderly
      · rintro other rfl
        exact modest.elim
      · apply turned_sameCalls
        rintro call rfl
        exact modest.elim
    | claim before accepted => exact claim_phase hphase hrun hfiles accepted
    | onward before stays inert =>
      obtain ⟨batch, hexposes, huncalled⟩ := hphase.of_claims hrun before
      refine .claimed after batch ?_ stays ?_
      · apply hexposes.turned hsame _ _ hexposes.row
        · obtain rfl | rfl := inert <;> (intro other h; cases h)
        · obtain rfl | rfl := inert <;> exact hexposes.found
      · obtain rfl | rfl := inert <;> exact huncalled
    | giveUp before stays =>
      obtain ⟨batch, hexposes, huncalled⟩ := hphase.of_claims hrun before
      refine .idle (hexposes.quiet hsame (by intro _ h; cases h) stays) huncalled ?_
      intro row hfound
      obtain rfl : batch = row := Option.some.inj (hexposes.found.symm.trans hfound)
      exact hexposes.row.unbound
    | refused before stays unnamed =>
      obtain ⟨batch, hexposes, huncalled⟩ := hphase.of_claims hrun before
      exact refused_phase hexposes huncalled hsame stays unnamed
    | carry before stays stands saves =>
      obtain ⟨batch, hexposes, huncalled⟩ := hphase.of_claims hrun before
      exact .carried after batch _ (hexposes.turned hsame (by intro _ h; cases h) hexposes.found hexposes.row) stays
        (standing_turned huncalled rfl stands) hsame.1.symm saves
    | saved before accepted stays =>
      obtain ⟨batch, call, hexposes, hstanding, -, hsaves⟩ := hphase.of_carries hrun (by simp [Submit.carries, before])
      obtain ⟨hnamed, hreply⟩ := hsaves _ before
      exact saved_phase hexposes hstanding hnamed hreply hsame stays accepted
    | unsaved before refused stays elsewhere =>
      obtain ⟨batch, call, hexposes, hstanding, hown, -⟩ := hphase.of_carries hrun (by simp [Submit.carries, before])
      refine .carried after batch call ?_ stays (hstanding.turned (by intro _ h; cases h)) (hown.trans hsame.1.symm) ?_
      · apply hexposes.turned hsame (by intro _ h; cases h) _ hexposes.row
        rw [Effect.db, unsaved_db refused]
        exact hexposes.found
      · exact fun remote hsaving => absurd hsaving (elsewhere remote)
    | handle before stays elsewhere =>
      obtain ⟨batch, call, hexposes, hstanding, hown, -⟩ := hphase.of_carries hrun before
      refine .carried after batch call ?_ stays (hstanding.turned (by intro _ h; cases h)) (hown.trans hsame.1.symm) ?_
      · exact hexposes.turned hsame (by intro _ h; cases h) hexposes.found hexposes.row
      · exact fun remote hsaving => absurd hsaving (elsewhere remote)
    | mark before stays =>
      obtain ⟨batch, call, hexposes, hstanding, -, -⟩ := hphase.of_carries hrun before
      exact mark_phase hexposes hstanding hsame stays
  · exact h.elsewhere hrun hsame hserves horderly hid hphase

end Turns

end InkTime.Submission
