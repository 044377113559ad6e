import InkTime.Batches.Calls

/-!
# What the batch calls do to a row

`Move` lists the writes a call may make on one row of `analysis_batches`, with the checks that let it through.
Later proofs go by cases on it and do not open the calls again.
-/

namespace InkTime.Batches

open Checked
open Texts (strip)

/-- The four remote identities are as they were. -/
structure SameIds (before after : BatchState) : Prop where
  input : after.inputFileId = before.inputFileId
  remote : after.remoteBatchId = before.remoteBatchId
  output : after.outputFileId = before.outputFileId
  error : after.errorFileId = before.errorFileId

/-- The item counters are as they were. -/
structure SameCounters (before after : BatchState) : Prop where
  completed : after.completedItems = before.completedItems
  failed : after.failedItems = before.failedItems
  missing : after.missingItems = before.missingItems
  stale : after.staleItems = before.staleItems
  imported : after.importedItems = before.importedItems

/-- Before the input file is known. -/
def BatchStatus.early : BatchStatus → Bool
  | .preparing | .uploading | .uploadUnknown => true
  | _ => false

def Op.reports : Op → Bool
  | .setStatusFromRemote .. => true
  | _ => false

/-- Calls that end in `_finalize_batch_locked`. -/
def Op.closes : Op → Bool
  | .finalizeBatchResult .. | .finalizeCleanup .. | .abandonUnknownUpload .. => true
  | _ => false

lemma Op.silent_of_closes {op : Op} (h : op.closes = true) : op.reports = false := by
  cases op <;> first | rfl | cases h

inductive Move (db : Db) (op : Op) (batch : Batch) : BatchState → Prop
  /-- Owner, lease, version, totals and the marks of files. -/
  | touched {after : BatchState} (ids : SameIds batch.state after) (counters : SameCounters batch.state after)
      (status : after.status = batch.state.status)
      (remote : op.reports = true → after.remoteStatus = batch.state.remoteStatus)
      (version : batch.state.sideEffectVersion ≤ after.sideEffectVersion) : Move db op batch after
  /-- A phase of an open batch. -/
  | advanced {after : BatchState} (ids : SameIds batch.state after) (counters : SameCounters batch.state after)
      (opened : batch.state.status.terminal = false) (stays : after.status.terminal = false)
      (early : after.status.early = true → batch.state.inputFileId = none ∨ batch.state.status.early = true)
      (silent : op.reports = false)
      (version : batch.state.sideEffectVersion < after.sideEffectVersion) : Move db op batch after
  | uploaded {after : BatchState} (fileId : String) (early : batch.state.status.early = true)
      (status : after.status = .uploaded) (input : after.inputFileId = some fileId)
      (remote : after.remoteBatchId = batch.state.remoteBatchId) (output : after.outputFileId = batch.state.outputFileId)
      (error : after.errorFileId = batch.state.errorFileId) (counters : SameCounters batch.state after)
      (silent : op.reports = false)
      (version : batch.state.sideEffectVersion < after.sideEffectVersion) : Move db op batch after
  | submitted {after : BatchState} (now : Nat) (attemptId owner remoteId : String) (remote : Remote) (status : RemoteStatus)
      (named : op = .completeSubmission now batch.id attemptId owner remote)
      (holds : batch.state.holdsSubmission attemptId owner = true) (identity : remote.identity = some remoteId)
      (checked : checkSubmitted db batch remoteId remote = .ok ()) (counters : SameCounters batch.state after)
      (local_status : after.status = status.localStatus) (remote_id : after.remoteBatchId = some remoteId)
      (input : after.inputFileId = batch.state.inputFileId)
      (output : after.outputFileId = (remote.outputFileId <|> batch.state.outputFileId))
      (error : after.errorFileId = (remote.errorFileId <|> batch.state.errorFileId))
      (version : batch.state.sideEffectVersion < after.sideEffectVersion) : Move db op batch after
  | bound {after : BatchState} (now : Nat) (remoteId : String) (remote : Remote) (itemStatus : ItemStatus)
      (status : RemoteStatus) (named : op = .bindRecoveredRemote now batch.id remote itemStatus)
      (recoverable : batch.state.status.recoverable = true) (identity : remote.identity = some remoteId)
      (checked : checkRecovered db batch remoteId remote = .ok ()) (counters : SameCounters batch.state after)
      (local_status : after.status = status.localStatus) (remote_id : after.remoteBatchId = some remoteId)
      (input : after.inputFileId = batch.state.inputFileId)
      (output : after.outputFileId = (remote.outputFileId <|> batch.state.outputFileId))
      (error : after.errorFileId = (remote.errorFileId <|> batch.state.errorFileId))
      (version : batch.state.sideEffectVersion < after.sideEffectVersion) : Move db op batch after
  | reported (remote : Remote) (expected : Option Int) (owner : Option String) (status : RemoteStatus)
      (named : op = .setStatusFromRemote batch.id remote expected owner)
      (parsed : RemoteStatus.parse (strip (remote.status.getD "")) = some status)
      (fresh : staleReport batch.state status expected owner = false) (checked : checkReported batch.state remote = .ok ()) :
      Move db op batch (batch.state.reported status remote)
  | failed (batchId errorCode : String) (jobStatus : Jobs.JobStatus) (siblings : Bool) (asked : Batch)
      (named : op = .failLocalBatch batchId errorCode jobStatus siblings) (found : db.batches.find batchId = some asked)
      (target : localTargets asked siblings batch = true)
      (allowed : (db.batches.any fun other => localTargets asked siblings other && other.state.hasSideEffect) = false)
      (remote : batch.state.remoteBatchId = none) (input : batch.state.inputFileId = none) :
      Move db op batch (batch.state.locallyFailed errorCode)
  | finalized {after : BatchState} (ids : SameIds batch.state after) (opened : batch.state.status.terminal = false)
      (terminal : after.status.terminal = true) (closes : op.closes = true)
      (version : batch.state.sideEffectVersion < after.sideEffectVersion) : Move db op batch after

def Moved (db : Db) (op : Op) (before after : Batch) : Prop :=
  after.jobId = before.jobId ∧ Move db op before after.state

lemma SameIds.refl (state : BatchState) : SameIds state state := ⟨rfl, rfl, rfl, rfl⟩

lemma SameIds.trans {a b c : BatchState} (h : SameIds a b) (h' : SameIds b c) : SameIds a c :=
  ⟨h'.input.trans h.input, h'.remote.trans h.remote, h'.output.trans h.output, h'.error.trans h.error⟩

lemma SameCounters.refl (state : BatchState) : SameCounters state state := ⟨rfl, rfl, rfl, rfl, rfl⟩

lemma Moved.kept (db : Db) (op : Op) (batch : Batch) : Moved db op batch batch :=
  ⟨rfl, .touched (.refl _) (.refl _) rfl (fun _ => rfl) le_rfl⟩

/-! ### Statements -/

namespace Db

lemma setBatches_follows {R : Batch → Batch → Prop} (hrefl : ∀ batch, R batch batch) {db : Db} {matching : Batch → Bool}
    {set : BatchState → BatchState}
    (h : ∀ batch ∈ db.batches, matching batch = true → R batch { batch with state := set batch.state }) :
    Table.Follows R db.batches (db.setBatches matching set).batches := by
  have hkey : ∀ batch : Batch, ({ batch with state := set batch.state } : Batch).id = batch.id := fun _ => rfl
  exact Table.Follows.update hrefl hkey h

lemma mem_setBatches {db : Db} {matching : Batch → Bool} {set : BatchState → BatchState} {after : Batch} :
    after ∈ (db.setBatches matching set).batches ↔ ∃ before ∈ db.batches,
      Table.revise matching (fun batch : Batch => { batch with state := set batch.state }) before = after := by
  have hkey : ∀ batch : Batch, ({ batch with state := set batch.state } : Batch).id = batch.id := fun _ => rfl
  exact @Table.mem_update _ _ _ _ _ _ hkey _

lemma mem_setItems {db : Db} {matching : Item → Bool} {status : ItemStatus} {after : Item} :
    after ∈ (db.setItems matching status).items ↔ ∃ before ∈ db.items,
      Table.revise matching (fun item : Item => { item with status }) before = after := by
  have hkey : ∀ item : Item, ({ item with status } : Item).id = item.id := fun _ => rfl
  exact @Table.mem_update _ _ _ _ _ _ hkey _

lemma mem_moveItems {db : Db} {matching : Item → Bool} {batchId : String} {after : Item} :
    after ∈ (db.moveItems matching batchId).items ↔ ∃ before ∈ db.items,
      Table.revise matching (fun item : Item => { item with batchId }) before = after := by
  have hkey : ∀ item : Item, ({ item with batchId } : Item).id = item.id := fun _ => rfl
  exact @Table.mem_update _ _ _ _ _ _ hkey _

@[simp] lemma setBatches_items (db : Db) (matching : Batch → Bool) (set : BatchState → BatchState) :
    (db.setBatches matching set).items = db.items := rfl

@[simp] lemma setItems_batches (db : Db) (matching : Item → Bool) (status : ItemStatus) :
    (db.setItems matching status).batches = db.batches := rfl

@[simp] lemma moveItems_batches (db : Db) (matching : Item → Bool) (batchId : String) :
    (db.moveItems matching batchId).batches = db.batches := rfl

end Db

@[simp] lemma settleJob_batches (db : Db) (jobId : String) (status : Jobs.JobStatus) :
    (settleJob db jobId status).batches = db.batches := by
  simp only [settleJob]
  split <;> rfl

@[simp] lemma settleJob_items (db : Db) (jobId : String) (status : Jobs.JobStatus) :
    (settleJob db jobId status).items = db.items := by
  simp only [settleJob]
  split <;> rfl

@[simp] lemma failJobItems_batches (db : Db) (targets : Batch → Bool) (jobId : String) (status : Jobs.JobStatus) :
    (failJobItems db targets jobId status).batches = db.batches := by
  simp only [failJobItems, settleJob_batches]
  rfl

@[simp] lemma failJobItems_items (db : Db) (targets : Batch → Bool) (jobId : String) (status : Jobs.JobStatus) :
    (failJobItems db targets jobId status).items = db.items := by
  simp only [failJobItems, settleJob_items]
  rfl

@[simp] lemma closeJobItems_batches (db : Db) (batchId jobId : String) (status : BatchStatus) :
    (closeJobItems db batchId jobId status).batches = db.batches := by
  simp only [closeJobItems, settleJob_batches]
  rfl

@[simp] lemma closeJobItems_items (db : Db) (batchId jobId : String) (status : BatchStatus) :
    (closeJobItems db batchId jobId status).items = db.items := by
  simp only [closeJobItems, settleJob_items]
  rfl

lemma commit_eq_ok {α : Type} {db db' : Db} {result result' : α} (h : commit db result = .ok (db', result')) :
    db' = db ∧ result' = result ∧ db'.constraintsHold = true := by
  unfold commit at h
  split at h
  · next hholds =>
    obtain ⟨rfl, rfl⟩ := Prod.mk.inj (Except.ok.inj h)
    exact ⟨rfl, rfl, hholds⟩
  · cases h

lemma answered_eq_ok {α : Type} {accepted : α → Bool} {outcome : Outcome α} {db' : Db} {answer : Bool}
    (h : answered accepted outcome = .ok (db', answer)) : ∃ result, outcome = .ok (db', result) ∧ accepted result = answer := by
  cases outcome with
  | error error => cases h
  | ok pair =>
    obtain ⟨rfl, rfl⟩ := Prod.mk.inj (Except.ok.inj h)
    exact ⟨pair.2, rfl, rfl⟩

/-! ### Guarded updates -/

section CompareAndSet

variable {db : Db} {batchId : String} {guard : BatchState → Bool} {set : BatchState → BatchState}

lemma compareAndSet_follows {R : Batch → Batch → Prop} (hrefl : ∀ batch, R batch batch)
    (h : ∀ batch ∈ db.batches, batch.id = batchId → guard batch.state = true → R batch { batch with state := set batch.state }) :
    Table.Follows R db.batches (compareAndSet db batchId guard set).1.batches := by
  apply Db.setBatches_follows hrefl
  intro batch hbatch hmatch
  rw [Bool.and_eq_true, beq_iff_eq] at hmatch
  exact h batch hbatch hmatch.1 hmatch.2

@[simp] lemma compareAndSet_items : (compareAndSet db batchId guard set).1.items = db.items := rfl

/-- A guarded update that answers `False` changed nothing. -/
lemma compareAndSet_refused (h : (compareAndSet db batchId guard set).2 = false) :
    (compareAndSet db batchId guard set).1 = db := by
  simp only [compareAndSet, bne_eq_false_iff_eq] at h ⊢
  simp only [Db.setBatches, Table.update_eq_self h]

lemma compareAndSet_eq_refused {db' : Db} (h : compareAndSet db batchId guard set = (db', false)) : db' = db := by
  have hrefused := compareAndSet_refused (congrArg Prod.snd h)
  rwa [h] at hrefused

lemma compareAndSet_accepted (h : (compareAndSet db batchId guard set).2 = true) :
    ∃ batch ∈ db.batches, batch.id = batchId ∧ guard batch.state = true := by
  have hcount : 0 < db.batches.rows.countP fun batch : Batch => batch.id == batchId && guard batch.state := by
    simp only [compareAndSet, bne_iff_ne] at h
    exact Nat.pos_of_ne_zero h
  obtain ⟨batch, hbatch, hmatch⟩ := List.countP_pos_iff.mp hcount
  rw [Bool.and_eq_true, beq_iff_eq] at hmatch
  exact ⟨batch, hbatch, hmatch.1, hmatch.2⟩

end CompareAndSet

@[simp] lemma thenItems_batches (written : Db × Bool) (matching : Item → Bool) (status : ItemStatus) :
    (thenItems written matching status).1.batches = written.1.batches := by
  unfold thenItems
  split <;> rfl

@[simp] lemma thenItems_answer (written : Db × Bool) (matching : Item → Bool) (status : ItemStatus) :
    (thenItems written matching status).2 = written.2 := by
  unfold thenItems
  split
  · next h => exact h.symm
  · rfl

/-! ### Creating batches -/

section Calls

variable {db db' : Db}

lemma insertBatch_ok {batch : Batch} (h : insertBatch db batch = .ok db') :
    ∃ batches, db.batches.insert batch = some batches ∧ db' = { db with batches } := by
  obtain ⟨-, -, h⟩ := bind_eq_ok.mp h
  obtain ⟨batches, hbatches, h⟩ := bind_eq_ok.mp h
  exact ⟨batches, orError_eq_ok.mp hbatches, (Except.ok.inj h).symm⟩

lemma insertItem_ok {item : Item} (h : insertItem db item = .ok db') :
    ∃ items, db.items.insert item = some items ∧ db' = { db with items } := by
  obtain ⟨-, -, h⟩ := bind_eq_ok.mp h
  obtain ⟨items, hitems, h⟩ := bind_eq_ok.mp h
  exact ⟨items, orError_eq_ok.mp hitems, (Except.ok.inj h).symm⟩

lemma insertItems_batches {batchId : String} {items : List NewItem} (h : insertItems batchId db items = .ok db') :
    db'.batches = db.batches := by
  induction items generalizing db with
  | nil => rw [← Except.ok.inj h]
  | cons item rest ih =>
    obtain ⟨next, hnext, h⟩ := bind_eq_ok.mp h
    obtain ⟨items, -, rfl⟩ := insertItem_ok hnext
    have hrest := ih h
    exact hrest

/-- A new batch and its items. -/
lemma createWithItems_ok {batchId : String} {jobId : Option String} {status : BatchStatus} {items : List NewItem} {count : Nat}
    (h : createWithItems db batchId jobId status items = .ok (db', count)) :
    ∃ batches, db.batches.insert { id := batchId, jobId, state := { status, totalItems := items.length } } = some batches ∧
      insertItems batchId { db with batches } items = .ok db' := by
  obtain ⟨middle, hmiddle, h⟩ := bind_eq_ok.mp h
  obtain ⟨batches, hbatches, rfl⟩ := insertBatch_ok hmiddle
  obtain ⟨last, hlast, h⟩ := bind_eq_ok.mp h
  obtain ⟨rfl, -⟩ := Prod.mk.inj (Except.ok.inj h)
  exact ⟨batches, hbatches, hlast⟩

lemma createWithItems_moved {batchId : String} {jobId : Option String} {status : BatchStatus} {items : List NewItem} {count : Nat}
    (h : createWithItems db batchId jobId status items = .ok (db', count)) (op : Op) :
    Table.Follows (Moved db op) db.batches db'.batches := by
  obtain ⟨batches, hbatches, hitems⟩ := createWithItems_ok h
  rw [insertItems_batches hitems]
  exact Table.Follows.insert (Moved.kept db op) hbatches

/-- A child in `preparing` with the selected items of its parent. -/
lemma createChildBatch_ok {parentId childId : String} {itemIds : List String} {totalItems : Int} {count : Nat}
    (h : createChildBatch db parentId childId itemIds totalItems = .ok (db', count)) :
    ∃ parent batches, db.batches.find parentId = some parent ∧
      (∀ item ∈ db.items, itemIds.contains item.id = true → item.batchId = parentId) ∧
      db.batches.insert { id := childId, jobId := parent.jobId, state := { totalItems := totalItems.toNat } } = some batches ∧
      db' = (({ db with batches } : Db).moveItems (fun item => itemIds.contains item.id) childId).setBatches
        (fun batch => batch.id == parentId) (BatchState.resized (parent.state.totalItems - itemIds.length)) := by
  obtain ⟨-, -, h⟩ := bind_eq_ok.mp h
  obtain ⟨parent, hparent, h⟩ := bind_eq_ok.mp h
  obtain ⟨_, hselected, h⟩ := bind_eq_ok.mp h
  obtain ⟨-, -, h⟩ := bind_eq_ok.mp h
  obtain ⟨middle, hmiddle, h⟩ := bind_eq_ok.mp h
  obtain ⟨batches, hbatches, rfl⟩ := insertBatch_ok hmiddle
  obtain ⟨rfl, -⟩ := Prod.mk.inj (Except.ok.inj h)
  refine ⟨parent, batches, orError_eq_ok.mp hparent, ?_, hbatches, rfl⟩
  rw [require_eq_ok, beq_iff_eq] at hselected
  intro item hitem hnamed
  have hcount := Table.count_contains_le db.items itemIds
  rw [← hselected] at hcount
  simpa using Table.holds_of_count_le hcount hitem hnamed

lemma createChildBatch_moved {parentId childId : String} {itemIds : List String} {totalItems : Int} {count : Nat}
    (h : createChildBatch db parentId childId itemIds totalItems = .ok (db', count)) (op : Op) :
    Table.Follows (Moved db op) db.batches db'.batches := by
  obtain ⟨parent, batches, -, -, hbatches, rfl⟩ := createChildBatch_ok h
  intro batch hbatch
  have hold : batch ∈ batches := (Table.mem_insert hbatches).mpr (.inl hbatch)
  refine Db.setBatches_follows (Moved.kept db op) ?_ batch hold
  intro row _ _
  exact ⟨rfl, .touched ⟨rfl, rfl, rfl, rfl⟩ ⟨rfl, rfl, rfl, rfl, rfl⟩ rfl (fun _ => rfl) le_rfl⟩

/-! ### Claims -/

lemma claimPoll_moved (now : Nat) (batchId owner : String) (leaseUntil : Nat) (expectedVersion : Int) (op : Op) :
    Table.Follows (Moved db op) db.batches (claimPoll db now batchId owner leaseUntil expectedVersion).1.batches := by
  apply compareAndSet_follows (Moved.kept db op)
  intro batch _ _ _
  exact ⟨rfl, .touched ⟨rfl, rfl, rfl, rfl⟩ ⟨rfl, rfl, rfl, rfl, rfl⟩ rfl (fun _ => rfl) (Nat.le_succ _)⟩

lemma releaseSideEffectClaim_moved (batchId owner : String) (op : Op) :
    Table.Follows (Moved db op) db.batches (releaseSideEffectClaim db batchId owner).1.batches := by
  apply compareAndSet_follows (Moved.kept db op)
  intro batch _ _ _
  exact ⟨rfl, .touched ⟨rfl, rfl, rfl, rfl⟩ ⟨rfl, rfl, rfl, rfl, rfl⟩ rfl (fun _ => rfl) (Nat.le_succ _)⟩

lemma completeCleanupFile_moved (batchId : String) (kind : FileKind) (owner : String) (op : Op) :
    Table.Follows (Moved db op) db.batches (completeCleanupFile db batchId kind owner).1.batches := by
  apply compareAndSet_follows (Moved.kept db op)
  intro batch _ _ _
  cases kind <;>
    exact ⟨rfl, .touched ⟨rfl, rfl, rfl, rfl⟩ ⟨rfl, rfl, rfl, rfl, rfl⟩ rfl (fun _ => rfl) (Nat.le_succ _)⟩

lemma claimCleanupFile_moved (now : Nat) (batchId : String) (kind : FileKind) (owner : String) (leaseUntil : Nat) (op : Op) :
    Table.Follows (Moved db op) db.batches (claimCleanupFile db now batchId kind owner leaseUntil).1.batches := by
  unfold claimCleanupFile
  split
  · exact Table.Follows.refl (Moved.kept db op) _
  · dsimp only
    apply compareAndSet_follows (Moved.kept db op)
    intro batch _ _ _
    cases kind <;>
      exact ⟨rfl, .touched ⟨rfl, rfl, rfl, rfl⟩ ⟨rfl, rfl, rfl, rfl, rfl⟩ rfl (fun _ => rfl) (Nat.le_succ _)⟩

/-- A claim that finds `before` and leaves `after` moves an open batch on. -/
lemma Move.of_phase {op : Op} {batch : Batch} {after : BatchState} {old : BatchStatus} (hold : batch.state.status = old)
    (ids : SameIds batch.state after) (counters : SameCounters batch.state after)
    (opened : old.terminal = false) (stays : after.status.terminal = false)
    (early : after.status.early = true → batch.state.inputFileId = none ∨ old.early = true)
    (silent : op.reports = false)
    (version : batch.state.sideEffectVersion < after.sideEffectVersion) : Move db op batch after := by
  subst hold
  exact .advanced ids counters opened stays early silent version

lemma claimUpload_moved (now : Nat) (batchId owner attemptId : String) (leaseUntil : Nat) {op : Op}
    (hsilent : op.reports = false) :
    Table.Follows (Moved db op) db.batches (claimUpload db now batchId owner attemptId leaseUntil).1.batches := by
  apply compareAndSet_follows (Moved.kept db op)
  intro batch _ _ hguard
  simp only [BatchState.uploadFree, Bool.and_eq_true, beq_iff_eq, Option.isNone_iff_eq_none] at hguard
  exact ⟨rfl, .of_phase hguard.1.1 ⟨rfl, rfl, rfl, rfl⟩ ⟨rfl, rfl, rfl, rfl, rfl⟩ rfl rfl (fun _ => .inl hguard.1.2) hsilent
    (Nat.lt_succ_self _)⟩

lemma claimSubmission_moved (now : Nat) (batchId owner attemptId : String) (leaseUntil : Nat) {op : Op}
    (hsilent : op.reports = false) :
    Table.Follows (Moved db op) db.batches (claimSubmission db now batchId owner attemptId leaseUntil).1.batches := by
  apply compareAndSet_follows (Moved.kept db op)
  intro batch _ _ hguard
  simp only [BatchState.submissionFree, Bool.and_eq_true, beq_iff_eq] at hguard
  exact ⟨rfl, .of_phase hguard.1.1 ⟨rfl, rfl, rfl, rfl⟩ ⟨rfl, rfl, rfl, rfl, rfl⟩ rfl rfl (fun h => by cases h) hsilent
    (Nat.lt_succ_self _)⟩

lemma BatchStatus.not_terminal_of_cancellable {status : BatchStatus} (h : status.cancellable = true) :
    status.terminal = false := by
  cases status <;> first | rfl | cases h

lemma BatchStatus.not_terminal_of_recoverable {status : BatchStatus} (h : status.recoverable = true) :
    status.terminal = false := by
  cases status <;> first | rfl | cases h

lemma claimCancel_moved (now : Nat) (batchId owner : String) (leaseUntil : Nat) {op : Op}
    (hsilent : op.reports = false) :
    Table.Follows (Moved db op) db.batches (claimCancel db now batchId owner leaseUntil).1.batches := by
  apply compareAndSet_follows (Moved.kept db op)
  intro batch _ _ hguard
  simp only [BatchState.cancelFree, Bool.and_eq_true] at hguard
  exact ⟨rfl, .advanced ⟨rfl, rfl, rfl, rfl⟩ ⟨rfl, rfl, rfl, rfl, rfl⟩ (BatchStatus.not_terminal_of_cancellable hguard.1.2) rfl
    (fun h => by cases h) hsilent (Nat.lt_succ_self _)⟩

lemma holdsUpload_status {attemptId owner : String} {state : BatchState} (h : state.holdsUpload attemptId owner = true) :
    state.status = .uploading := by
  simp only [BatchState.holdsUpload, Bool.and_eq_true, beq_iff_eq] at h
  exact h.1.1

lemma holdsSubmission_status {attemptId owner : String} {state : BatchState}
    (h : state.holdsSubmission attemptId owner = true) : state.status = .submitting := by
  simp only [BatchState.holdsSubmission, Bool.and_eq_true, beq_iff_eq] at h
  exact h.1.1

lemma markUploadUnknown_moved (now : Nat) (batchId attemptId owner errorCode : String) {op : Op} (hsilent : op.reports = false) :
    Table.Follows (Moved db op) db.batches (markUploadUnknown db now batchId attemptId owner errorCode).1.batches := by
  rw [markUploadUnknown, thenItems_batches]
  apply compareAndSet_follows (Moved.kept db op)
  intro batch _ _ hguard
  exact ⟨rfl, .of_phase (holdsUpload_status hguard) ⟨rfl, rfl, rfl, rfl⟩ ⟨rfl, rfl, rfl, rfl, rfl⟩ rfl rfl (fun _ => .inr rfl)
    hsilent (Nat.lt_succ_self _)⟩

lemma markSubmissionUnknown_moved (now : Nat) (batchId attemptId owner errorCode : String) {op : Op}
    (hsilent : op.reports = false) :
    Table.Follows (Moved db op) db.batches (markSubmissionUnknown db now batchId attemptId owner errorCode).1.batches := by
  rw [markSubmissionUnknown, thenItems_batches]
  apply compareAndSet_follows (Moved.kept db op)
  intro batch _ _ hguard
  exact ⟨rfl, .of_phase (holdsSubmission_status hguard) ⟨rfl, rfl, rfl, rfl⟩ ⟨rfl, rfl, rfl, rfl, rfl⟩ rfl rfl
    (fun h => by cases h) hsilent (Nat.lt_succ_self _)⟩

/-! ### Uploads and submissions -/

lemma Move.of_upload {op : Op} {batch : Batch} {after : BatchState} {old : BatchStatus} (hold : batch.state.status = old)
    (hearly : old.early = true) (fileId : String) (status : after.status = .uploaded) (input : after.inputFileId = some fileId)
    (remote : after.remoteBatchId = batch.state.remoteBatchId) (output : after.outputFileId = batch.state.outputFileId)
    (error : after.errorFileId = batch.state.errorFileId) (counters : SameCounters batch.state after)
    (silent : op.reports = false) (version : batch.state.sideEffectVersion < after.sideEffectVersion) :
    Move db op batch after := by
  subst hold
  exact .uploaded fileId hearly status input remote output error counters silent version

lemma completeUpload_ok {now : Nat} {batchId attemptId owner inputFileId : String} {changed : Bool}
    (h : completeUpload db now batchId attemptId owner inputFileId = .ok (db', changed)) :
    (db', changed) = compareAndSet db batchId (BatchState.holdsUpload attemptId owner)
      (BatchState.uploadCompleted now inputFileId) ∧ db'.constraintsHold = true := by
  obtain ⟨rfl, rfl, hholds⟩ := commit_eq_ok h
  exact ⟨rfl, hholds⟩

lemma completeUpload_moved {now : Nat} {batchId attemptId owner inputFileId : String} {changed : Bool} {op : Op}
    (hsilent : op.reports = false) (h : completeUpload db now batchId attemptId owner inputFileId = .ok (db', changed)) :
    Table.Follows (Moved db op) db.batches db'.batches := by
  obtain ⟨rfl, -⟩ := Prod.mk.inj (completeUpload_ok h).1
  apply compareAndSet_follows (Moved.kept db op)
  intro batch _ _ hguard
  exact ⟨rfl, .of_upload (holdsUpload_status hguard) rfl inputFileId rfl rfl rfl rfl rfl ⟨rfl, rfl, rfl, rfl, rfl⟩ hsilent
    (Nat.lt_succ_self _)⟩

lemma recoverUploadedFile_moved (now : Nat) (batchId inputFileId : String) {op : Op} (hsilent : op.reports = false) :
    Table.Follows (Moved db op) db.batches (recoverUploadedFile db now batchId inputFileId).1.batches := by
  rw [recoverUploadedFile, thenItems_batches]
  apply compareAndSet_follows (Moved.kept db op)
  intro batch _ _ hguard
  simp only [BatchState.uploadLostAlone, Bool.and_eq_true, beq_iff_eq] at hguard
  exact ⟨rfl, .of_upload hguard.1 rfl inputFileId rfl rfl rfl rfl rfl ⟨rfl, rfl, rfl, rfl, rfl⟩ hsilent (Nat.lt_succ_self _)⟩

lemma identity_of_nonempty {remote : Remote} (h : (remote.identity.getD "" != "") = true) :
    remote.identity = some (remote.identity.getD "") := by
  cases hidentity : remote.identity with
  | none =>
    rw [hidentity] at h
    cases h
  | some text => rfl

/-- A submission that was bound, or found its claim gone. -/
lemma completeSubmission_cases {now : Nat} {batchId attemptId owner : String} {remote : Remote} {result : Option BatchStatus}
    (h : completeSubmission db now batchId attemptId owner remote = .ok (db', result)) :
    (db' = db ∧ result = none) ∨ ∃ batch remoteId status, db.batches.find batchId = some batch ∧
      batch.state.holdsSubmission attemptId owner = true ∧ remote.identity = some remoteId ∧ remoteId ≠ "" ∧
      checkSubmitted db batch remoteId remote = .ok () ∧ db'.constraintsHold = true ∧ result = some status.localStatus ∧
      db' = (compareAndSet db batchId (BatchState.holdsSubmission attemptId owner)
        (BatchState.bound now remoteId status remote)).1.setItems
          (fun item => item.batchId == batchId && item.status.awaitsSubmission) .submitted := by
  obtain ⟨_, hid, h⟩ := bind_eq_ok.mp h
  rw [require_eq_ok] at hid
  obtain ⟨status, -, h⟩ := bind_eq_ok.mp h
  obtain ⟨batch, hbatch, h⟩ := bind_eq_ok.mp h
  rw [orError_eq_ok] at hbatch
  split at h
  · obtain ⟨rfl, rfl⟩ := Prod.mk.inj (Except.ok.inj h)
    exact .inl ⟨rfl, rfl⟩
  · obtain ⟨_, hchecked, h⟩ := bind_eq_ok.mp h
    dsimp only at h
    split at h
    · next hchanged =>
      obtain ⟨rfl, rfl, hholds⟩ := commit_eq_ok h
      obtain ⟨found, hfound, hkey, hguard⟩ := compareAndSet_accepted hchanged
      obtain ⟨hmem, hbatch_key⟩ := Table.find_eq_some hbatch
      obtain rfl := Table.eq_of_key_eq hfound hmem (hkey.trans hbatch_key.symm)
      exact .inr ⟨found, _, status, hbatch, hguard, identity_of_nonempty hid, by simpa using hid, hchecked, hholds, rfl, rfl⟩
    · next hchanged =>
      obtain ⟨rfl, rfl⟩ := Prod.mk.inj (Except.ok.inj h)
      exact .inl ⟨compareAndSet_refused (by simpa using hchanged), rfl⟩

lemma completeSubmission_moved {now : Nat} {batchId attemptId owner : String} {remote : Remote} {result : Option BatchStatus}
    (h : completeSubmission db now batchId attemptId owner remote = .ok (db', result)) :
    Table.Follows (Moved db (.completeSubmission now batchId attemptId owner remote)) db.batches db'.batches := by
  obtain ⟨rfl, -⟩ | ⟨batch, remoteId, status, hbatch, -, hidentity, -, hchecked, -, -, rfl⟩ := completeSubmission_cases h
  · exact Table.Follows.refl (Moved.kept _ _) _
  · rw [Db.setItems_batches]
    apply compareAndSet_follows (Moved.kept db _)
    intro row hrow hid hguard
    obtain ⟨hmem, hkey⟩ := Table.find_eq_some hbatch
    obtain rfl := Table.eq_of_key_eq hrow hmem (hid.trans hkey.symm)
    subst hid
    exact ⟨rfl, .submitted now attemptId owner remoteId remote status rfl hguard hidentity hchecked
      ⟨rfl, rfl, rfl, rfl, rfl⟩ rfl rfl rfl rfl rfl (Nat.lt_succ_self _)⟩

/-- A recovered remote batch was bound to a recoverable row. -/
lemma bindRecoveredRemote_ok {now : Nat} {batchId : String} {remote : Remote} {itemStatus : ItemStatus} {result : BatchStatus}
    (h : bindRecoveredRemote db now batchId remote itemStatus = .ok (db', result)) :
    ∃ batch remoteId status, db.batches.find batchId = some batch ∧ batch.state.status.recoverable = true ∧
      remote.identity = some remoteId ∧ remoteId ≠ "" ∧ checkRecovered db batch remoteId remote = .ok () ∧
      db'.constraintsHold = true ∧
      db' = (db.setBatches (fun batch => batch.id == batchId) (BatchState.recovered now remoteId status remote)).setItems
        (fun item => item.batchId == batchId && item.status.awaitsRecovery) itemStatus := by
  obtain ⟨_, hid, h⟩ := bind_eq_ok.mp h
  rw [require_eq_ok] at hid
  obtain ⟨status, -, h⟩ := bind_eq_ok.mp h
  obtain ⟨batch, hbatch, h⟩ := bind_eq_ok.mp h
  rw [orError_eq_ok] at hbatch
  obtain ⟨_, hrecoverable, h⟩ := bind_eq_ok.mp h
  rw [require_eq_ok] at hrecoverable
  obtain ⟨_, hchecked, h⟩ := bind_eq_ok.mp h
  obtain ⟨rfl, -, hholds⟩ := commit_eq_ok h
  exact ⟨batch, _, status, hbatch, hrecoverable, identity_of_nonempty hid, by simpa using hid, hchecked, hholds, rfl⟩

lemma bindRecoveredRemote_moved {now : Nat} {batchId : String} {remote : Remote} {itemStatus : ItemStatus} {result : BatchStatus}
    (h : bindRecoveredRemote db now batchId remote itemStatus = .ok (db', result)) :
    Table.Follows (Moved db (.bindRecoveredRemote now batchId remote itemStatus)) db.batches db'.batches := by
  obtain ⟨batch, remoteId, status, hbatch, hrecoverable, hidentity, -, hchecked, -, rfl⟩ := bindRecoveredRemote_ok h
  apply Db.setBatches_follows (Moved.kept db _)
  intro row hrow hmatch
  obtain ⟨hmem, rfl⟩ := Table.find_eq_some hbatch
  obtain rfl := Table.eq_of_key_eq hrow hmem (by simpa using hmatch)
  exact ⟨rfl, .bound now remoteId remote itemStatus status rfl hrecoverable hidentity hchecked
    ⟨rfl, rfl, rfl, rfl, rfl⟩ rfl rfl rfl rfl rfl (Nat.lt_succ_self _)⟩

/-! ### Reports -/

/-- A report that was applied, or ignored as stale. -/
lemma setStatusFromRemote_cases {batchId : String} {remote : Remote} {expected : Option Int} {owner : Option String}
    {result : Report} (h : setStatusFromRemote db batchId remote expected owner = .ok (db', result)) :
    (db' = db ∧ result = .ignoredStale) ∨ ∃ batch status, db.batches.find batchId = some batch ∧
      RemoteStatus.parse (strip (remote.status.getD "")) = some status ∧
      staleReport batch.state status expected owner = false ∧ checkReported batch.state remote = .ok () ∧
      db'.constraintsHold = true ∧ result = .applied status.localStatus ∧
      db' = (compareAndSet db batchId (fun state => state.sideEffectVersion == batch.state.sideEffectVersion)
        (BatchState.reported status remote)).1.setItems
          (fun item => item.batchId == batchId && item.status.awaitsSubmission) .submitted := by
  obtain ⟨status, hstatus, h⟩ := bind_eq_ok.mp h
  rw [orError_eq_ok] at hstatus
  obtain ⟨batch, hbatch, h⟩ := bind_eq_ok.mp h
  rw [orError_eq_ok] at hbatch
  split at h
  · obtain ⟨rfl, rfl⟩ := Prod.mk.inj (Except.ok.inj h)
    exact .inl ⟨rfl, rfl⟩
  · next hfresh =>
    obtain ⟨_, hchecked, h⟩ := bind_eq_ok.mp h
    dsimp only at h
    split at h
    · obtain ⟨rfl, rfl, hholds⟩ := commit_eq_ok h
      exact .inr ⟨batch, status, hbatch, hstatus, by simpa using hfresh, hchecked, hholds, rfl, rfl⟩
    · next hchanged =>
      obtain ⟨rfl, rfl⟩ := Prod.mk.inj (Except.ok.inj h)
      exact .inl ⟨compareAndSet_refused (by simpa using hchanged), rfl⟩

lemma setStatusFromRemote_moved {batchId : String} {remote : Remote} {expected : Option Int} {owner : Option String}
    {result : Report} (h : setStatusFromRemote db batchId remote expected owner = .ok (db', result)) :
    Table.Follows (Moved db (.setStatusFromRemote batchId remote expected owner)) db.batches db'.batches := by
  obtain ⟨rfl, -⟩ | ⟨batch, status, hbatch, hstatus, hfresh, hchecked, -, -, rfl⟩ := setStatusFromRemote_cases h
  · exact Table.Follows.refl (Moved.kept _ _) _
  · rw [Db.setItems_batches]
    apply compareAndSet_follows (Moved.kept db _)
    intro row hrow hid _
    obtain ⟨hmem, hkey⟩ := Table.find_eq_some hbatch
    obtain rfl := Table.eq_of_key_eq hrow hmem (hid.trans hkey.symm)
    subst hid
    exact ⟨rfl, .reported remote expected owner status rfl hstatus hfresh hchecked⟩

/-! ### Closing -/

/-- A local failure that was let through: the rows are rewritten, and their items unless a target was left out. -/
lemma failLocalBatch_ok {batchId errorCode : String} {jobStatus : Jobs.JobStatus} {siblings changed : Bool}
    (h : failLocalBatch db batchId errorCode jobStatus siblings = .ok (db', changed)) :
    ∃ asked, db.batches.find batchId = some asked ∧
      (db.batches.any fun other => localTargets asked siblings other && other.state.hasSideEffect) = false ∧
      db'.constraintsHold = true ∧
      db'.batches = (db.setBatches (unsentTarget asked siblings) (BatchState.locallyFailed errorCode)).batches ∧
      ((changed = false ∧
          db' = db.setBatches (unsentTarget asked siblings) (BatchState.locallyFailed errorCode) ∧
          db.batches.affected (unsentTarget asked siblings) ≠ db.batches.count (localTargets asked siblings)) ∨
        (changed = true ∧ db.batches.affected (unsentTarget asked siblings) = db.batches.count (localTargets asked siblings) ∧
          db'.items = (db.setItems (fun item => sweptItem db (localTargets asked siblings) item && !item.status.sparedByFailure)
            .failed).items)) := by
  obtain ⟨-, -, h⟩ := bind_eq_ok.mp h
  obtain ⟨asked, hasked, h⟩ := bind_eq_ok.mp h
  rw [orError_eq_ok] at hasked
  obtain ⟨_, hallowed, h⟩ := bind_eq_ok.mp h
  rw [require_eq_ok, Bool.not_eq_true'] at hallowed
  refine ⟨asked, hasked, hallowed, ?_⟩
  dsimp only at h
  split at h
  · next hpart =>
    obtain ⟨rfl, rfl, hholds⟩ := commit_eq_ok h
    exact ⟨hholds, rfl, .inl ⟨rfl, rfl, by simpa using hpart⟩⟩
  · next hall =>
    rw [bne_iff_ne, not_ne_iff] at hall
    split at h
    · obtain ⟨rfl, rfl, hholds⟩ := commit_eq_ok h
      exact ⟨hholds, by rw [failJobItems_batches]; rfl, .inr ⟨rfl, hall, by rw [failJobItems_items]; rfl⟩⟩
    · obtain ⟨rfl, rfl, hholds⟩ := commit_eq_ok h
      exact ⟨hholds, rfl, .inr ⟨rfl, hall, rfl⟩⟩

lemma failLocalBatch_moved {batchId errorCode : String} {jobStatus : Jobs.JobStatus} {siblings changed : Bool}
    (h : failLocalBatch db batchId errorCode jobStatus siblings = .ok (db', changed)) :
    Table.Follows (Moved db (.failLocalBatch batchId errorCode jobStatus siblings)) db.batches db'.batches := by
  obtain ⟨asked, hasked, hallowed, -, hbatches, -⟩ := failLocalBatch_ok h
  rw [hbatches]
  apply Db.setBatches_follows (Moved.kept db _)
  intro batch _ hmatch
  simp only [unsentTarget, Bool.and_eq_true, Option.isNone_iff_eq_none] at hmatch
  exact ⟨rfl, .failed batchId errorCode jobStatus siblings asked rfl hasked hmatch.1.1 hallowed hmatch.1.2 hmatch.2⟩

@[simp] lemma settledItems_batches (db : Db) (batchId : String) (status : BatchStatus) :
    (settledItems db batchId status).batches = db.batches := by
  unfold settledItems
  split <;> rfl

/-- A batch that was closed, or was closed already. -/
lemma finalizeBatchLocked_cases {batchId : String} {status : BatchStatus} {finalAction : Option CleanupAction}
    {cleanupStatus : Option CleanupStatus} {errorCode : Option String} {result : BatchStatus}
    (h : finalizeBatchLocked db batchId status finalAction cleanupStatus errorCode = .ok (db', result)) :
    status.terminal = true ∧ ∃ batch, db.batches.find batchId = some batch ∧
      ((batch.state.status.terminal = true ∧ db' = db) ∨
        (batch.state.status.terminal = false ∧ (settledItems db batchId status).itemCount batchId ItemStatus.active = 0 ∧
          db'.constraintsHold = true ∧ db'.items = (settledItems db batchId status).items ∧
          db'.batches = ((settledItems db batchId status).setBatches (fun batch => batch.id == batchId)
            (BatchState.finalized (settledItems db batchId status) batchId status finalAction cleanupStatus errorCode)).batches)) := by
  obtain ⟨_, hterminal, h⟩ := bind_eq_ok.mp h
  rw [require_eq_ok] at hterminal
  obtain ⟨batch, hbatch, h⟩ := bind_eq_ok.mp h
  rw [orError_eq_ok] at hbatch
  refine ⟨hterminal, batch, hbatch, ?_⟩
  split at h
  · next hclosed =>
    obtain ⟨rfl, -⟩ := Prod.mk.inj (Except.ok.inj h)
    exact .inl ⟨hclosed, rfl⟩
  · next hopen =>
    obtain ⟨_, hsettled, h⟩ := bind_eq_ok.mp h
    rw [require_eq_ok, beq_iff_eq] at hsettled
    refine .inr ⟨by simpa using hopen, hsettled, ?_⟩
    dsimp only at h
    split at h
    · obtain ⟨rfl, -, hholds⟩ := commit_eq_ok h
      exact ⟨hholds, closeJobItems_items _ _ _ _, closeJobItems_batches _ _ _ _⟩
    · obtain ⟨rfl, -, hholds⟩ := commit_eq_ok h
      exact ⟨hholds, rfl, rfl⟩

/-- A row that a finalization left alone or closed. -/
def Closing (before after : Batch) : Prop :=
  after = before ∨ after.jobId = before.jobId ∧ SameIds before.state after.state ∧ before.state.status.terminal = false ∧
    after.state.status.terminal = true ∧ before.state.sideEffectVersion < after.state.sideEffectVersion

lemma Closing.moved {before after : Batch} {op : Op} (hcloses : op.closes = true) (h : Closing before after) :
    Moved db op before after := by
  obtain rfl | ⟨hjob, hids, hopen, hterminal, hversion⟩ := h
  · exact Moved.kept db op after
  · exact ⟨hjob, .finalized hids hopen hterminal hcloses hversion⟩

lemma finalizeBatchLocked_closing {batchId : String} {status : BatchStatus} {finalAction : Option CleanupAction}
    {cleanupStatus : Option CleanupStatus} {errorCode : Option String} {result : BatchStatus}
    (h : finalizeBatchLocked db batchId status finalAction cleanupStatus errorCode = .ok (db', result)) :
    Table.Follows Closing db.batches db'.batches := by
  obtain ⟨hterminal, batch, hbatch, ⟨-, rfl⟩ | ⟨hopen, -, -, -, hbatches⟩⟩ := finalizeBatchLocked_cases h
  · exact Table.Follows.refl (fun _ => .inl rfl) _
  · rw [hbatches, ← settledItems_batches db batchId status]
    apply Db.setBatches_follows (fun _ => .inl rfl)
    intro row hrow hmatch
    rw [settledItems_batches] at hrow
    obtain ⟨hmem, rfl⟩ := Table.find_eq_some hbatch
    obtain rfl := Table.eq_of_key_eq hrow hmem (by simpa using hmatch)
    exact .inr ⟨rfl, ⟨rfl, rfl, rfl, rfl⟩, hopen, hterminal, Nat.lt_succ_self _⟩

/-- A cleanup closes the batch, or leaves it as it is. -/
lemma finalizeCleanup_cases {batchId : String} {result : BatchStatus} (h : finalizeCleanup db batchId = .ok (db', result)) :
    db' = db ∨ ∃ status finalAction cleanupStatus errorCode,
      finalizeBatchLocked db batchId status finalAction cleanupStatus errorCode = .ok (db', result) := by
  obtain ⟨batch, -, h⟩ := bind_eq_ok.mp h
  obtain ⟨-, -, h⟩ := bind_eq_ok.mp h
  split at h
  · exact .inl (Prod.mk.inj (Except.ok.inj h)).1.symm
  · dsimp only at h
    cases haction : batch.state.cleanupFinalAction <;> rw [haction] at h
    · exact .inl (Prod.mk.inj (Except.ok.inj h)).1.symm
    · exact .inl (Prod.mk.inj (Except.ok.inj h)).1.symm
    · exact .inr ⟨_, _, _, _, h⟩
    · exact .inr ⟨_, _, _, _, h⟩
    · exact .inr ⟨_, _, _, _, h⟩

/-- An abandoned upload is marked, then closed as failed. -/
lemma abandonUnknownUpload_ok {now : Nat} {batchId : String} {confirmed changed : Bool}
    (h : abandonUnknownUpload db now batchId confirmed = .ok (db', changed)) :
    changed = true ∧ ∃ result,
      finalizeBatchLocked (compareAndSet db batchId (fun state => state.status == .uploadUnknown)
        (BatchState.uploadAbandoned now)).1 batchId .failed (some .abandon) (some .completed) (some "abandoned") =
          .ok (db', result) := by
  obtain ⟨-, -, h⟩ := bind_eq_ok.mp h
  obtain ⟨batch, hbatch, h⟩ := bind_eq_ok.mp h
  rw [orError_eq_ok] at hbatch
  obtain ⟨_, hstatus, h⟩ := bind_eq_ok.mp h
  rw [require_eq_ok] at hstatus
  dsimp only at h
  split at h
  · obtain ⟨closed, hclosed, h⟩ := bind_eq_ok.mp h
    obtain ⟨rfl, rfl⟩ := Prod.mk.inj (Except.ok.inj h)
    exact ⟨rfl, closed.2, hclosed⟩
  · next hchanged =>
    -- the row was found in `upload_unknown` in the same transaction
    exfalso
    obtain ⟨hmem, hkey⟩ := Table.find_eq_some hbatch
    apply hchanged
    simp only [compareAndSet, bne_iff_ne]
    apply Nat.ne_of_gt
    exact List.countP_pos_iff.mpr ⟨batch, hmem, by simp [hkey, beq_iff_eq.mp hstatus]⟩

lemma abandonUnknownUpload_moved {now : Nat} {batchId : String} {confirmed changed : Bool} {op : Op}
    (hcloses : op.closes = true) (h : abandonUnknownUpload db now batchId confirmed = .ok (db', changed)) :
    Table.Follows (Moved db op) db.batches db'.batches := by
  obtain ⟨-, result, hclosed⟩ := abandonUnknownUpload_ok h
  have hmarked : Table.Follows (fun before after : Batch => after.jobId = before.jobId ∧ SameIds before.state after.state ∧
      SameCounters before.state after.state ∧ after.state.status = before.state.status ∧
      after.state.sideEffectVersion = before.state.sideEffectVersion) db.batches
      (compareAndSet db batchId (fun state => state.status == .uploadUnknown) (BatchState.uploadAbandoned now)).1.batches := by
    apply compareAndSet_follows
    · intro batch
      exact ⟨rfl, .refl _, .refl _, rfl, rfl⟩
    · intro batch _ _ _
      exact ⟨rfl, ⟨rfl, rfl, rfl, rfl⟩, ⟨rfl, rfl, rfl, rfl, rfl⟩, rfl, rfl⟩
  intro before hbefore
  obtain ⟨middle, hmiddle, hkey, hjob, hids, hcounters, hstatus, hversion⟩ := hmarked before hbefore
  obtain ⟨after, hafter, hkey', rfl | ⟨hjob', hids', hopen, hterminal, hversion'⟩⟩ :=
    finalizeBatchLocked_closing hclosed middle hmiddle
  · refine ⟨after, hafter, hkey, hjob, .touched hids hcounters hstatus ?_ hversion.ge⟩
    intro hreports
    rw [Op.silent_of_closes hcloses] at hreports
    cases hreports
  · rw [hstatus] at hopen
    rw [hversion] at hversion'
    exact ⟨after, hafter, hkey'.trans hkey, hjob'.trans hjob, .finalized (hids.trans hids') hopen hterminal hcloses hversion'⟩

/-! ### New rows -/

/-- The rows a creation adds. -/
def Created (batch : Batch) : Op → Prop
  | .createWithItems batchId _ status _ => batch.id = batchId ∧ batch.state.status = status ∧ batch.state.remoteBatchId = none ∧
      batch.state.inputFileId = none
  | .createChildBatch _ childId _ _ => batch.id = childId ∧ batch.state.status = .preparing ∧ batch.state.remoteBatchId = none ∧
      batch.state.inputFileId = none
  | _ => False

lemma Db.setBatches_stems {fresh : Batch → Prop} (matching : Batch → Bool) (set : BatchState → BatchState) :
    Table.Stems fresh db.batches (db.setBatches matching set).batches := by
  intro after hafter
  obtain ⟨before, hbefore, rfl⟩ := Db.mem_setBatches.mp hafter
  have hkey : ∀ batch : Batch, ({ batch with state := set batch.state } : Batch).id = batch.id := fun _ => rfl
  exact .inr ⟨before, hbefore, (Table.key_revise hkey before).symm⟩

lemma compareAndSet_stems {fresh : Batch → Prop} (batchId : String) (guard : BatchState → Bool) (set : BatchState → BatchState) :
    Table.Stems fresh db.batches (compareAndSet db batchId guard set).1.batches :=
  Db.setBatches_stems _ _

lemma createChildBatch_stems {parentId childId : String} {itemIds : List String} {totalItems : Int} {count : Nat}
    (h : createChildBatch db parentId childId itemIds totalItems = .ok (db', count)) :
    Table.Stems (fun batch => Created batch (.createChildBatch parentId childId itemIds totalItems)) db.batches db'.batches := by
  obtain ⟨parent, batches, -, -, hbatches, rfl⟩ := createChildBatch_ok h
  intro after hafter
  obtain ⟨before, hbefore, rfl⟩ := Db.mem_setBatches.mp hafter
  obtain hold | rfl := (Table.mem_insert hbatches).mp hbefore
  · exact .inr ⟨before, hold, by unfold Table.revise; split <;> rfl⟩
  · left
    unfold Table.revise
    split
    · exact ⟨rfl, rfl, rfl, rfl⟩
    · exact ⟨rfl, rfl, rfl, rfl⟩

lemma finalizeBatchLocked_stems {fresh : Batch → Prop} {batchId : String} {status : BatchStatus} {finalAction : Option CleanupAction}
    {cleanupStatus : Option CleanupStatus} {errorCode : Option String} {result : BatchStatus}
    (h : finalizeBatchLocked db batchId status finalAction cleanupStatus errorCode = .ok (db', result)) :
    Table.Stems fresh db.batches db'.batches := by
  obtain ⟨-, -, -, ⟨-, rfl⟩ | ⟨-, -, -, -, hbatches⟩⟩ := finalizeBatchLocked_cases h
  · exact Table.Stems.refl _
  · rw [hbatches, ← settledItems_batches db batchId status]
    exact Db.setBatches_stems _ _

/-- Every row is an old one or a created one. -/
theorem step_stems (db : Db) (op : Op) : Table.Stems (fun batch => Created batch op) db.batches (step db op).batches := by
  cases hcall : call db op with
  | error error =>
    rw [step, hcall, after_error]
    exact Table.Stems.refl _
  | ok result =>
    obtain ⟨db', answer⟩ := result
    rw [step, hcall, after_ok]
    cases op with
    | createWithItems batchId jobId status items =>
      obtain ⟨count, h, -⟩ := answered_eq_ok hcall
      obtain ⟨batches, hbatches, hitems⟩ := createWithItems_ok h
      rw [insertItems_batches hitems]
      exact Table.Stems.insert hbatches ⟨rfl, rfl, rfl, rfl⟩
    | createChildBatch parentId childId itemIds totalItems =>
      obtain ⟨count, h, -⟩ := answered_eq_ok hcall
      exact createChildBatch_stems h
    | claimPoll | claimUpload | claimSubmission | claimCancel | completeCleanupFile | releaseSideEffectClaim =>
      obtain ⟨rfl, -⟩ := Prod.mk.inj (Except.ok.inj hcall)
      exact Db.setBatches_stems _ _
    | claimCleanupFile now batchId kind owner leaseUntil =>
      obtain ⟨rfl, -⟩ := Prod.mk.inj (Except.ok.inj hcall)
      split
      · exact Table.Stems.refl _
      · exact Db.setBatches_stems _ _
    | completeUpload now batchId attemptId owner inputFileId =>
      obtain ⟨rfl, -⟩ := Prod.mk.inj (completeUpload_ok hcall).1
      exact compareAndSet_stems _ _ _
    | completeSubmission now batchId attemptId owner remote =>
      obtain ⟨result, h, -⟩ := answered_eq_ok hcall
      obtain ⟨rfl, -⟩ | ⟨-, -, -, -, -, -, -, -, -, -, rfl⟩ := completeSubmission_cases h
      · exact Table.Stems.refl _
      · exact compareAndSet_stems _ _ _
    | markUploadUnknown now batchId attemptId owner errorCode =>
      have hdb : (markUploadUnknown db now batchId attemptId owner errorCode).1 = db' := (Prod.mk.inj (Except.ok.inj hcall)).1
      rw [← hdb, markUploadUnknown, thenItems_batches]
      exact Db.setBatches_stems _ _
    | markSubmissionUnknown now batchId attemptId owner errorCode =>
      have hdb : (markSubmissionUnknown db now batchId attemptId owner errorCode).1 = db' := (Prod.mk.inj (Except.ok.inj hcall)).1
      rw [← hdb, markSubmissionUnknown, thenItems_batches]
      exact Db.setBatches_stems _ _
    | recoverUploadedFile now batchId inputFileId =>
      have hdb : (recoverUploadedFile db now batchId inputFileId).1 = db' := (Prod.mk.inj (Except.ok.inj hcall)).1
      rw [← hdb, recoverUploadedFile, thenItems_batches]
      exact Db.setBatches_stems _ _
    | abandonUnknownUpload now batchId confirmed =>
      obtain ⟨-, result, h⟩ := abandonUnknownUpload_ok hcall
      exact (compareAndSet_stems _ _ _).trans (finalizeBatchLocked_stems h)
    | failLocalBatch batchId errorCode jobStatus siblings =>
      obtain ⟨asked, -, -, -, hbatches, -⟩ := failLocalBatch_ok hcall
      rw [hbatches]
      exact Db.setBatches_stems _ _
    | setStatusFromRemote batchId remote expected owner =>
      obtain ⟨result, h, -⟩ := answered_eq_ok hcall
      obtain ⟨rfl, -⟩ | ⟨-, -, -, -, -, -, -, -, rfl⟩ := setStatusFromRemote_cases h
      · exact Table.Stems.refl _
      · rw [Db.setItems_batches]
        exact compareAndSet_stems _ _ _
    | bindRecoveredRemote now batchId remote itemStatus =>
      obtain ⟨result, h, -⟩ := answered_eq_ok hcall
      obtain ⟨-, -, -, -, -, -, -, -, -, rfl⟩ := bindRecoveredRemote_ok h
      exact Db.setBatches_stems _ _
    | finalizeBatchResult batchId status finalAction cleanupStatus errorCode =>
      obtain ⟨result, h, -⟩ := answered_eq_ok hcall
      exact finalizeBatchLocked_stems h
    | finalizeCleanup batchId =>
      obtain ⟨result, h, -⟩ := answered_eq_ok hcall
      obtain rfl | ⟨status, finalAction, cleanupStatus, errorCode, h⟩ := finalizeCleanup_cases h
      · exact Table.Stems.refl _
      · exact finalizeBatchLocked_stems h

/-! ### One step -/

/-- Every call moves the rows it finds by one of the writes. -/
theorem step_moved (db : Db) (op : Op) : Table.Follows (Moved db op) db.batches (step db op).batches := by
  cases hcall : call db op with
  | error error =>
    rw [step, hcall, after_error]
    exact Table.Follows.refl (Moved.kept db op) _
  | ok result =>
    obtain ⟨db', answer⟩ := result
    rw [step, hcall, after_ok]
    cases op with
    | createWithItems batchId jobId status items =>
      obtain ⟨count, h, -⟩ := answered_eq_ok hcall
      exact createWithItems_moved h _
    | createChildBatch parentId childId itemIds totalItems =>
      obtain ⟨count, h, -⟩ := answered_eq_ok hcall
      exact createChildBatch_moved h _
    | claimPoll now batchId owner leaseUntil expectedVersion =>
      obtain ⟨rfl, -⟩ := Prod.mk.inj (Except.ok.inj hcall)
      exact claimPoll_moved now batchId owner leaseUntil expectedVersion _
    | claimUpload now batchId owner attemptId leaseUntil =>
      obtain ⟨rfl, -⟩ := Prod.mk.inj (Except.ok.inj hcall)
      exact claimUpload_moved now batchId owner attemptId leaseUntil rfl
    | claimSubmission now batchId owner attemptId leaseUntil =>
      obtain ⟨rfl, -⟩ := Prod.mk.inj (Except.ok.inj hcall)
      exact claimSubmission_moved now batchId owner attemptId leaseUntil rfl
    | claimCancel now batchId owner leaseUntil =>
      obtain ⟨rfl, -⟩ := Prod.mk.inj (Except.ok.inj hcall)
      exact claimCancel_moved now batchId owner leaseUntil rfl
    | claimCleanupFile now batchId kind owner leaseUntil =>
      obtain ⟨rfl, -⟩ := Prod.mk.inj (Except.ok.inj hcall)
      exact claimCleanupFile_moved now batchId kind owner leaseUntil _
    | completeUpload now batchId attemptId owner inputFileId => exact completeUpload_moved rfl hcall
    | completeSubmission now batchId attemptId owner remote =>
      obtain ⟨result, h, -⟩ := answered_eq_ok hcall
      exact completeSubmission_moved h
    | completeCleanupFile batchId kind owner =>
      obtain ⟨rfl, -⟩ := Prod.mk.inj (Except.ok.inj hcall)
      exact completeCleanupFile_moved batchId kind owner _
    | markUploadUnknown now batchId attemptId owner errorCode =>
      obtain ⟨rfl, -⟩ := Prod.mk.inj (Except.ok.inj hcall)
      exact markUploadUnknown_moved now batchId attemptId owner errorCode rfl
    | markSubmissionUnknown now batchId attemptId owner errorCode =>
      obtain ⟨rfl, -⟩ := Prod.mk.inj (Except.ok.inj hcall)
      exact markSubmissionUnknown_moved now batchId attemptId owner errorCode rfl
    | releaseSideEffectClaim batchId owner =>
      obtain ⟨rfl, -⟩ := Prod.mk.inj (Except.ok.inj hcall)
      exact releaseSideEffectClaim_moved batchId owner _
    | recoverUploadedFile now batchId inputFileId =>
      obtain ⟨rfl, -⟩ := Prod.mk.inj (Except.ok.inj hcall)
      exact recoverUploadedFile_moved now batchId inputFileId rfl
    | abandonUnknownUpload now batchId confirmed => exact abandonUnknownUpload_moved rfl hcall
    | failLocalBatch batchId errorCode jobStatus siblings => exact failLocalBatch_moved hcall
    | setStatusFromRemote batchId remote expected owner =>
      obtain ⟨result, h, -⟩ := answered_eq_ok hcall
      exact setStatusFromRemote_moved h
    | bindRecoveredRemote now batchId remote itemStatus =>
      obtain ⟨result, h, -⟩ := answered_eq_ok hcall
      exact bindRecoveredRemote_moved h
    | finalizeBatchResult batchId status finalAction cleanupStatus errorCode =>
      obtain ⟨result, h, -⟩ := answered_eq_ok hcall
      exact (finalizeBatchLocked_closing h).mono fun _ _ hclosing => hclosing.moved rfl
    | finalizeCleanup batchId =>
      obtain ⟨result, h, -⟩ := answered_eq_ok hcall
      obtain rfl | ⟨status, finalAction, cleanupStatus, errorCode, h⟩ := finalizeCleanup_cases h
      · exact Table.Follows.refl (Moved.kept _ _) _
      · exact (finalizeBatchLocked_closing h).mono fun _ _ hclosing => hclosing.moved rfl

end Calls

end InkTime.Batches
