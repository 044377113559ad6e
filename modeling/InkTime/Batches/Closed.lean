import InkTime.Batches.Identity

/-!
# Closed batches

A batch in a terminal status should keep its status, its counters and its items. `_finalize_batch_locked` looks
at the status first; a local failure does not, and sweeps every batch of the job that has no remote identity. Nor
do the two creations look: a child may take items out of a closed parent, and a batch may be inserted closed with
open items. In runs without these calls closed batches stay closed.
-/

namespace InkTime.Batches

open Checked

/-- A local failure that is let through would rewrite a closed batch. -/
def sweepsClosed (db : Db) (asked : Batch) (siblings : Bool) : Bool :=
  !(db.batches.any fun other => localTargets asked siblings other && other.state.hasSideEffect) &&
    db.batches.any fun other => unsentTarget asked siblings other && other.state.status.terminal

/-- A child would take an item of a closed parent. -/
def takesFromClosed (db : Db) (parentId : String) (itemIds : List String) : Bool :=
  (db.batches.find parentId).any (fun parent => parent.state.status.terminal) &&
    db.items.any fun item => item.batchId == parentId && itemIds.contains item.id

/-- Calls that touch a closed batch, or close one over open items. -/
def reopens (db : Db) : Op → Bool
  | .createWithItems _ _ status items => status.terminal && items.any fun item => item.status.active
  | .createChildBatch parentId _ itemIds _ => takesFromClosed db parentId itemIds
  | .failLocalBatch batchId _ _ siblings =>
    (db.batches.find batchId).any fun asked => failsPartly db asked siblings || sweepsClosed db asked siblings
  | _ => false

/-- The rows of one batch. -/
def itemsOf (db : Db) (batchId : String) : List Item := db.items.rows.filter fun item => item.batchId == batchId

/-! ### The row -/

lemma not_terminal_of_early {status : BatchStatus} (h : status.early = true) : status.terminal = false := by
  cases status <;> first | rfl | cases h

lemma not_terminal_of_not_closedToReports {status : BatchStatus} (h : status.closedToReports = false) :
    status.terminal = false := by
  cases status <;> first | rfl | cases h

lemma staleReport_status {state : BatchState} {status : RemoteStatus} {expected : Option Int} {owner : Option String}
    (h : staleReport state status expected owner = false) : state.status.closedToReports = false := by
  simp only [staleReport, Bool.or_eq_false_iff] at h
  exact h.1.1.2

/-- A closed row keeps its status and its counters. -/
structure StaysClosed (before after : BatchState) : Prop where
  status : after.status = before.status
  counters : SameCounters before after

lemma Move.staysClosed {db : Db} {op : Op} {batch : Batch} {after : BatchState} (h : Move db op batch after)
    (hmem : batch ∈ db.batches) (hclean : reopens db op = false) (hclosed : batch.state.status.terminal = true) :
    StaysClosed batch.state after := by
  cases h with
  | touched ids counters status remote version => exact ⟨status, counters⟩
  | advanced ids counters opened stays early silent version =>
    rw [opened] at hclosed
    cases hclosed
  | uploaded fileId early =>
    rw [not_terminal_of_early early] at hclosed
    cases hclosed
  | submitted _ _ _ _ _ _ _ holds =>
    rw [holdsSubmission_status holds] at hclosed
    cases hclosed
  | bound _ _ _ _ _ _ recoverable =>
    rw [BatchStatus.not_terminal_of_recoverable recoverable] at hclosed
    cases hclosed
  | reported _ _ _ _ _ _ fresh =>
    rw [not_terminal_of_not_closedToReports (staleReport_status fresh)] at hclosed
    cases hclosed
  | failed batchId errorCode jobStatus siblings asked named found target allowed remote input =>
    -- a swept closed row is what the condition excludes
    subst named
    simp only [reopens, found, Option.any_some, sweepsClosed, allowed, Bool.or_eq_false_iff, Bool.not_false,
      Bool.true_and] at hclean
    have hswept := Table.any_of_mem hmem
      (p := fun other => unsentTarget asked siblings other && other.state.status.terminal)
      (by simp [unsentTarget, target, remote, input, hclosed])
    rw [hswept] at hclean
    cases hclean.2
  | finalized ids opened =>
    rw [opened] at hclosed
    cases hclosed

/-! ### The items -/

/-- The items of open batches may take a new status, all others are as they were. -/
def SweepsOpen (db db' : Db) : Prop :=
  ∃ matching status, db'.items = (db.setItems matching status).items ∧ ∀ item ∈ db.items, matching item = true →
    ∃ batch ∈ db.batches, batch.id = item.batchId ∧ batch.state.status.terminal = false

section SweepsOpen

variable {db db' : Db}

lemma sweepsOpen_of_items_eq (h : db'.items = db.items) : SweepsOpen db db' := by
  refine ⟨fun _ => false, .pending, ?_, fun item _ hmatch => by cases hmatch⟩
  rw [h, Db.setItems, Table.update_eq_self]
  exact List.countP_eq_zero.mpr fun _ _ => Bool.false_ne_true

lemma sweepsOpen_of_found {batch : Batch} (hmem : batch ∈ db.batches) (hopen : batch.state.status.terminal = false)
    {p : Item → Bool} {status : ItemStatus}
    (h : db'.items = (db.setItems (fun item => item.batchId == batch.id && p item) status).items) : SweepsOpen db db' := by
  refine ⟨_, status, h, ?_⟩
  intro item _ hmatch
  rw [Bool.and_eq_true, beq_iff_eq] at hmatch
  exact ⟨batch, hmem, hmatch.1.symm, hopen⟩

lemma thenItems_sweepsOpen {batchId : String} {guard : BatchState → Bool} {set : BatchState → BatchState} {p : Item → Bool}
    {status : ItemStatus} (hguard : ∀ state, guard state = true → state.status.terminal = false) :
    SweepsOpen db (thenItems (compareAndSet db batchId guard set) (fun item => item.batchId == batchId && p item) status).1 := by
  unfold thenItems
  split
  · next hwritten =>
    obtain ⟨batch, hmem, rfl, hheld⟩ := compareAndSet_accepted hwritten
    exact sweepsOpen_of_found hmem (hguard _ hheld) rfl
  · exact sweepsOpen_of_items_eq rfl

lemma finalizeBatchLocked_sweepsOpen {batchId : String} {status : BatchStatus} {finalAction : Option CleanupAction}
    {cleanupStatus : Option CleanupStatus} {errorCode : Option String} {result : BatchStatus}
    (h : finalizeBatchLocked db batchId status finalAction cleanupStatus errorCode = .ok (db', result)) : SweepsOpen db db' := by
  obtain ⟨-, found, hfound, ⟨-, rfl⟩ | ⟨hopen, -, -, hitems, -⟩⟩ := finalizeBatchLocked_cases h
  · exact sweepsOpen_of_items_eq rfl
  · obtain ⟨hmem, rfl⟩ := Table.find_eq_some hfound
    unfold settledItems at hitems
    split at hitems
    · exact sweepsOpen_of_items_eq hitems
    · exact sweepsOpen_of_found hmem hopen hitems

/-- A failure that is let through rewrites all its targets, and none is closed. -/
lemma failLocalBatch_sweepsOpen {batchId errorCode : String} {jobStatus : Jobs.JobStatus} {siblings changed : Bool}
    (h : failLocalBatch db batchId errorCode jobStatus siblings = .ok (db', changed))
    (hclean : reopens db (.failLocalBatch batchId errorCode jobStatus siblings) = false) : SweepsOpen db db' := by
  obtain ⟨asked, hasked, hallowed, -, -, ⟨-, rfl, -⟩ | ⟨-, hall, hitems⟩⟩ := failLocalBatch_ok h
  · exact sweepsOpen_of_items_eq rfl
  · refine ⟨_, _, hitems, ?_⟩
    intro item _ hmatch
    rw [Bool.and_eq_true] at hmatch
    obtain ⟨swept, hswept, htarget⟩ := List.any_eq_true.mp hmatch.1
    rw [Bool.and_eq_true, beq_iff_eq] at htarget
    refine ⟨swept, hswept, htarget.2, ?_⟩
    have hcount : db.batches.count (localTargets asked siblings) ≤ db.batches.count fun other =>
        (other.state.remoteBatchId.isNone && other.state.inputFileId.isNone) && localTargets asked siblings other := by
      rw [← hall]
      apply Nat.le_of_eq
      apply Table.count_congr
      intro other _
      rw [unsentTarget, Bool.and_assoc, Bool.and_comm]
    have hunsent : unsentTarget asked siblings swept = true := by
      rw [unsentTarget, Bool.and_assoc, htarget.1, Table.holds_of_count_le hcount hswept htarget.1]
      rfl
    cases hclosed : swept.state.status.terminal with
    | false => rfl
    | true =>
      simp only [reopens, hasked, Option.any_some, sweepsClosed, hallowed, Bool.or_eq_false_iff, Bool.not_false,
        Bool.true_and] at hclean
      have hany := Table.any_of_mem hswept
        (p := fun other => unsentTarget asked siblings other && other.state.status.terminal) (by simp [hunsent, hclosed])
      rw [hany] at hclean
      cases hclean.2

end SweepsOpen

/-- Calls that insert rows. -/
def Op.creates : Op → Bool
  | .createWithItems .. | .createChildBatch .. => true
  | _ => false

/-- Apart from creations, a call changes statuses of items of open batches only. -/
lemma step_sweepsOpen {db : Db} {op : Op} (hclean : reopens db op = false) (hcreates : op.creates = false) :
    SweepsOpen db (step db op) := by
  cases hcall : call db op with
  | error error =>
    rw [step, hcall, after_error]
    exact sweepsOpen_of_items_eq rfl
  | ok result =>
    obtain ⟨db', answer⟩ := result
    rw [step, hcall, after_ok]
    cases op with
    | createWithItems | createChildBatch => cases hcreates
    | claimPoll | claimUpload | claimSubmission | claimCancel | completeCleanupFile | releaseSideEffectClaim =>
      obtain ⟨rfl, -⟩ := Prod.mk.inj (Except.ok.inj hcall)
      exact sweepsOpen_of_items_eq rfl
    | claimCleanupFile now batchId kind owner leaseUntil =>
      obtain ⟨rfl, -⟩ := Prod.mk.inj (Except.ok.inj hcall)
      apply sweepsOpen_of_items_eq
      split <;> rfl
    | completeUpload now batchId attemptId owner inputFileId =>
      obtain ⟨rfl, -⟩ := Prod.mk.inj (completeUpload_ok hcall).1
      exact sweepsOpen_of_items_eq rfl
    | completeSubmission now batchId attemptId owner remote =>
      obtain ⟨result, h, -⟩ := answered_eq_ok hcall
      obtain ⟨rfl, -⟩ | ⟨found, _, _, hfound, hholds, -, -, -, -, -, rfl⟩ := completeSubmission_cases h
      · exact sweepsOpen_of_items_eq rfl
      · obtain ⟨hmem, rfl⟩ := Table.find_eq_some hfound
        have hopen : found.state.status.terminal = false := by rw [holdsSubmission_status hholds]; rfl
        exact sweepsOpen_of_found hmem hopen rfl
    | markUploadUnknown now batchId attemptId owner errorCode =>
      have hdb : (markUploadUnknown db now batchId attemptId owner errorCode).1 = db' := (Prod.mk.inj (Except.ok.inj hcall)).1
      rw [← hdb, markUploadUnknown]
      apply thenItems_sweepsOpen
      intro state hheld
      rw [holdsUpload_status hheld]
      rfl
    | markSubmissionUnknown now batchId attemptId owner errorCode =>
      have hdb : (markSubmissionUnknown db now batchId attemptId owner errorCode).1 = db' :=
        (Prod.mk.inj (Except.ok.inj hcall)).1
      rw [← hdb, markSubmissionUnknown]
      apply thenItems_sweepsOpen
      intro state hheld
      rw [holdsSubmission_status hheld]
      rfl
    | recoverUploadedFile now batchId inputFileId =>
      have hdb : (recoverUploadedFile db now batchId inputFileId).1 = db' := (Prod.mk.inj (Except.ok.inj hcall)).1
      rw [← hdb, recoverUploadedFile]
      apply thenItems_sweepsOpen
      intro state hheld
      simp only [BatchState.uploadLostAlone, Bool.and_eq_true, beq_iff_eq] at hheld
      rw [hheld.1]
      rfl
    | abandonUnknownUpload now batchId confirmed =>
      obtain ⟨-, result, h⟩ := abandonUnknownUpload_ok hcall
      obtain ⟨matching, status, hitems, hopen⟩ := finalizeBatchLocked_sweepsOpen h
      refine ⟨matching, status, hitems, ?_⟩
      intro item hitem hmatch
      obtain ⟨marked, hmarked, hid, hmarked_open⟩ := hopen item hitem hmatch
      -- the mark does not touch the status
      obtain ⟨before, hbefore, rfl⟩ := Db.mem_setBatches.mp hmarked
      refine ⟨before, hbefore, ?_, ?_⟩
      · rw [← hid]
        unfold Table.revise
        split <;> rfl
      · rw [← hmarked_open]
        unfold Table.revise
        split <;> rfl
    | failLocalBatch batchId errorCode jobStatus siblings => exact failLocalBatch_sweepsOpen hcall hclean
    | setStatusFromRemote batchId remote expected owner =>
      obtain ⟨result, h, -⟩ := answered_eq_ok hcall
      obtain ⟨rfl, -⟩ | ⟨found, _, hfound, -, hfresh, -, -, -, rfl⟩ := setStatusFromRemote_cases h
      · exact sweepsOpen_of_items_eq rfl
      · obtain ⟨hmem, rfl⟩ := Table.find_eq_some hfound
        exact sweepsOpen_of_found hmem (not_terminal_of_not_closedToReports (staleReport_status hfresh)) rfl
    | bindRecoveredRemote now batchId remote itemStatus =>
      obtain ⟨result, h, -⟩ := answered_eq_ok hcall
      obtain ⟨found, _, _, hfound, hrecoverable, -, -, -, -, rfl⟩ := bindRecoveredRemote_ok h
      obtain ⟨hmem, rfl⟩ := Table.find_eq_some hfound
      exact sweepsOpen_of_found hmem (BatchStatus.not_terminal_of_recoverable hrecoverable) rfl
    | finalizeBatchResult batchId status finalAction cleanupStatus errorCode =>
      obtain ⟨result, h, -⟩ := answered_eq_ok hcall
      exact finalizeBatchLocked_sweepsOpen h
    | finalizeCleanup batchId =>
      obtain ⟨result, h, -⟩ := answered_eq_ok hcall
      obtain rfl | ⟨_, _, _, _, h⟩ := finalizeCleanup_cases h
      · exact sweepsOpen_of_items_eq rfl
      · exact finalizeBatchLocked_sweepsOpen h

/-! ### Items of a closed batch -/

lemma SweepsOpen.itemsOf_eq {db db' : Db} (h : SweepsOpen db db') {batch : Batch} (hmem : batch ∈ db.batches)
    (hclosed : batch.state.status.terminal = true) : itemsOf db' batch.id = itemsOf db batch.id := by
  obtain ⟨matching, status, hitems, hopen⟩ := h
  have hother : ∀ item ∈ db.items, matching item = true → (item.batchId == batch.id) = false := by
    intro item hitem hmatch
    obtain ⟨found, hfound, hid, hfound_open⟩ := hopen item hitem hmatch
    rw [beq_eq_false_iff_ne]
    intro heq
    rw [Table.eq_of_key_eq hfound hmem (hid.trans heq), hclosed] at hfound_open
    cases hfound_open
  simp only [itemsOf, hitems]
  apply Table.filter_update
  · exact fun _ => rfl
  · exact hother
  · exact hother

lemma insertItem_itemsOf {db db' : Db} {item : Item} {batchId : String} (h : insertItem db item = .ok db')
    (hne : item.batchId ≠ batchId) : itemsOf db' batchId = itemsOf db batchId := by
  obtain ⟨items, hitems, rfl⟩ := insertItem_ok h
  unfold Table.insert at hitems
  split at hitems
  · cases hitems
  · obtain rfl := Option.some.inj hitems
    simp [itemsOf, List.filter_append, hne]

lemma insertItems_itemsOf {db db' : Db} {newId batchId : String} {items : List NewItem}
    (h : insertItems newId db items = .ok db') (hne : newId ≠ batchId) : itemsOf db' batchId = itemsOf db batchId := by
  induction items generalizing db with
  | nil => rw [← Except.ok.inj h]
  | cons item rest ih =>
    obtain ⟨next, hnext, h⟩ := bind_eq_ok.mp h
    rw [ih h, insertItem_itemsOf hnext hne]

lemma createWithItems_itemsOf {db db' : Db} {batchId : String} {jobId : Option String} {status : BatchStatus}
    {items : List NewItem} {count : Nat} (h : createWithItems db batchId jobId status items = .ok (db', count))
    {batch : Batch} (hmem : batch ∈ db.batches) : itemsOf db' batch.id = itemsOf db batch.id := by
  obtain ⟨batches, hbatches, hitems⟩ := createWithItems_ok h
  have hne : batchId ≠ batch.id := (Table.insert_fresh hbatches hmem).symm
  rw [insertItems_itemsOf hitems hne]
  rfl

/-- A child takes items of an open parent only. -/
lemma createChildBatch_itemsOf {db db' : Db} {parentId childId : String} {itemIds : List String} {totalItems : Int} {count : Nat}
    (h : createChildBatch db parentId childId itemIds totalItems = .ok (db', count))
    (hclean : takesFromClosed db parentId itemIds = false) {batch : Batch} (hmem : batch ∈ db.batches)
    (hclosed : batch.state.status.terminal = true) : itemsOf db' batch.id = itemsOf db batch.id := by
  obtain ⟨parent, batches, -, howned, hbatches, rfl⟩ := createChildBatch_ok h
  have hne : childId ≠ batch.id := (Table.insert_fresh hbatches hmem).symm
  apply Table.filter_update
  · exact fun _ => rfl
  · intro item hitem hnamed
    rw [beq_eq_false_iff_ne]
    intro hid
    have htaken : takesFromClosed db parentId itemIds = true := by
      rw [takesFromClosed, ← howned item hitem hnamed, hid, Table.find_of_mem hmem, Option.any_some, hclosed, Bool.true_and]
      exact Table.any_of_mem hitem (by simp [hid, List.contains_iff_mem.mp hnamed])
    rw [htaken] at hclean
    cases hclean
  · intro item _ _
    simpa using hne

lemma step_itemsOf {db : Db} {op : Op} (hclean : reopens db op = false) {batch : Batch} (hmem : batch ∈ db.batches)
    (hclosed : batch.state.status.terminal = true) : itemsOf (step db op) batch.id = itemsOf db batch.id := by
  cases hcreates : op.creates with
  | false => exact (step_sweepsOpen hclean hcreates).itemsOf_eq hmem hclosed
  | true =>
    cases hcall : call db op with
    | error error => rw [step, hcall, after_error]
    | ok result =>
      obtain ⟨db', answer⟩ := result
      rw [step, hcall, after_ok]
      cases op with
      | createWithItems batchId jobId status items =>
        obtain ⟨count, h, -⟩ := answered_eq_ok hcall
        exact createWithItems_itemsOf h hmem
      | createChildBatch parentId childId itemIds totalItems =>
        obtain ⟨count, h, -⟩ := answered_eq_ok hcall
        exact createChildBatch_itemsOf h hclean hmem hclosed
      | _ => cases hcreates

/-! ### Closing over settled items -/

/-- No row of the batch is still open. -/
def AllSettled (db : Db) (batchId : String) : Prop := ∀ item ∈ db.items, item.batchId = batchId → item.status.active = false

/-- A batch that is closed now was closed before, or has no open items. -/
def ClosesSettled (db db' : Db) : Prop :=
  ∀ after ∈ db'.batches, after.state.status.terminal = true →
    (∃ before ∈ db.batches, before.id = after.id ∧ before.state.status.terminal = true) ∨ AllSettled db' after.id

lemma allSettled_of_itemCount {db : Db} {batchId : String} (h : db.itemCount batchId ItemStatus.active = 0) :
    AllSettled db batchId := by
  intro item hitem hid
  have hnone := List.countP_eq_zero.mp h item hitem
  simpa [hid] using hnone

lemma finalizeBatchLocked_closesSettled {db db' : Db} {batchId : String} {status : BatchStatus}
    {finalAction : Option CleanupAction} {cleanupStatus : Option CleanupStatus} {errorCode : Option String} {result : BatchStatus}
    (h : finalizeBatchLocked db batchId status finalAction cleanupStatus errorCode = .ok (db', result)) :
    ClosesSettled db db' := by
  obtain ⟨-, found, hfound, ⟨-, rfl⟩ | ⟨-, hsettled, -, hitems, hbatches⟩⟩ := finalizeBatchLocked_cases h
  · exact fun after hafter hclosed => .inl ⟨after, hafter, rfl, hclosed⟩
  · intro after hafter hclosed
    rw [hbatches] at hafter
    obtain ⟨before, hbefore, rfl⟩ := Db.mem_setBatches.mp hafter
    rw [settledItems_batches] at hbefore
    unfold Table.revise at hclosed ⊢
    split at hclosed
    · next hnamed =>
      right
      rw [if_pos hnamed]
      have hall := allSettled_of_itemCount hsettled
      intro item hitem hid
      rw [hitems] at hitem
      exact hall item hitem (hid.trans (beq_iff_eq.mp hnamed))
    · next hnamed =>
      left
      rw [if_neg hnamed]
      exact ⟨before, hbefore, rfl, hclosed⟩

/-- A sweep that reaches all its targets settles their items. -/
lemma failLocalBatch_closesSettled {db db' : Db} {batchId errorCode : String} {jobStatus : Jobs.JobStatus} {siblings changed : Bool}
    (h : failLocalBatch db batchId errorCode jobStatus siblings = .ok (db', changed))
    (hclean : reopens db (.failLocalBatch batchId errorCode jobStatus siblings) = false) : ClosesSettled db db' := by
  obtain ⟨asked, hasked, hallowed, -, hbatches, hcase⟩ := failLocalBatch_ok h
  intro after hafter hclosed
  rw [hbatches] at hafter
  obtain ⟨before, hbefore, rfl⟩ := Db.mem_setBatches.mp hafter
  cases hmatch : unsentTarget asked siblings before with
  | false =>
    left
    simp only [Table.revise, hmatch] at hclosed ⊢
    exact ⟨before, hbefore, rfl, hclosed⟩
  | true =>
    right
    simp only [Table.revise, hmatch, if_true]
    -- a row was rewritten, so the sweep was not stopped half way
    have haffected : db.batches.affected (unsentTarget asked siblings) ≠ 0 :=
      Nat.ne_of_gt (List.countP_pos_iff.mpr ⟨before, hbefore, hmatch⟩)
    obtain ⟨-, -, hpart⟩ | ⟨-, -, hitems⟩ := hcase
    · simp only [reopens, hasked, Option.any_some, failsPartly, hallowed, Bool.or_eq_false_iff, Bool.not_false, Bool.true_and,
        Bool.and_eq_false_iff, bne_eq_false_iff_eq] at hclean
      obtain hnone | hall := hclean.1
      · exact absurd hnone haffected
      · exact absurd hall hpart
    · intro item hitem hid
      rw [hitems] at hitem
      obtain ⟨old, hold, rfl⟩ := Db.mem_setItems.mp hitem
      have htarget : localTargets asked siblings before = true := by
        simp only [unsentTarget, Bool.and_eq_true] at hmatch
        exact hmatch.1.1
      unfold Table.revise at hid ⊢
      split at hid
      · next hswept => rw [if_pos hswept]; rfl
      · next hspared =>
        rw [if_neg hspared]
        have hswept : sweptItem db (localTargets asked siblings) old = true :=
          Table.any_of_mem hbefore (by simp [htarget, hid])
        have hspared : old.status.sparedByFailure = true := by simpa [hswept] using hspared
        cases hstatus : old.status <;> rw [hstatus] at hspared <;> first | rfl | cases hspared

/-- A call that neither creates nor closes leaves open batches open. -/
lemma Move.terminal_before {db : Db} {op : Op} {batch : Batch} {after : BatchState} (h : Move db op batch after)
    (hcloses : op.closes = false) (hfails : ∀ batchId errorCode jobStatus siblings,
      op ≠ .failLocalBatch batchId errorCode jobStatus siblings) (hafter : after.status.terminal = true) :
    batch.state.status.terminal = true := by
  cases h with
  | touched ids counters status => rwa [status] at hafter
  | advanced ids counters opened stays =>
    rw [stays] at hafter
    cases hafter
  | uploaded fileId early status =>
    rw [status] at hafter
    cases hafter
  | submitted _ _ _ _ _ status _ _ _ _ _ local_status =>
    rw [local_status, status.localStatus_terminal] at hafter
    cases hafter
  | bound _ _ _ _ status _ _ _ _ _ local_status =>
    rw [local_status, status.localStatus_terminal] at hafter
    cases hafter
  | reported remote expected owner status =>
    rw [show (batch.state.reported status remote).status = status.localStatus from rfl, status.localStatus_terminal] at hafter
    cases hafter
  | failed batchId errorCode jobStatus siblings asked named =>
    exact absurd named (hfails batchId errorCode jobStatus siblings)
  | finalized ids opened terminal closes =>
    rw [closes] at hcloses
    cases hcloses

lemma insertItems_mem {db db' : Db} {batchId : String} {items : List NewItem} (h : insertItems batchId db items = .ok db')
    {item : Item} (hitem : item ∈ db'.items) : item ∈ db.items ∨ ∃ new ∈ items, item = new.row batchId := by
  induction items generalizing db with
  | nil =>
    rw [← Except.ok.inj h] at hitem
    exact .inl hitem
  | cons head rest ih =>
    obtain ⟨next, hnext, h⟩ := bind_eq_ok.mp h
    obtain ⟨inserted, hinserted, rfl⟩ := insertItem_ok hnext
    obtain hold | ⟨new, hnew, rfl⟩ := ih h
    · obtain hold | rfl := (Table.mem_insert hinserted).mp hold
      · exact .inl hold
      · exact .inr ⟨head, List.mem_cons_self, rfl⟩
    · exact .inr ⟨new, List.mem_cons_of_mem head hnew, rfl⟩

structure ClosedInvariant (db : Db) : Prop where
  owned : ∀ item ∈ db.items, ∃ batch ∈ db.batches, batch.id = item.batchId
  settled : ∀ batch ∈ db.batches, batch.state.status.terminal = true → AllSettled db batch.id

/-- A new batch has the items it was created with. -/
lemma createWithItems_closesSettled {db db' : Db} {batchId : String} {jobId : Option String} {status : BatchStatus}
    {items : List NewItem} {count : Nat} (h : createWithItems db batchId jobId status items = .ok (db', count))
    (howned : ∀ item ∈ db.items, ∃ batch ∈ db.batches, batch.id = item.batchId)
    (hclean : (status.terminal && items.any fun item => item.status.active) = false) : ClosesSettled db db' := by
  obtain ⟨batches, hbatches, hitems⟩ := createWithItems_ok h
  intro after hafter hclosed
  rw [insertItems_batches hitems] at hafter
  obtain hold | rfl := (Table.mem_insert hbatches).mp hafter
  · exact .inl ⟨after, hold, rfl, hclosed⟩
  · right
    intro item hitem hid
    obtain hitem | ⟨new, hnew, rfl⟩ := insertItems_mem hitems hitem
    · obtain ⟨batch, hbatch, hbatch_id⟩ := howned item hitem
      exact absurd (hbatch_id.trans hid) (Table.insert_fresh hbatches hbatch)
    · rw [show status.terminal = true from hclosed, Bool.true_and, List.any_eq_false] at hclean
      exact (Bool.not_eq_true _).mp (hclean new hnew)

lemma createChildBatch_closesSettled {db db' : Db} {parentId childId : String} {itemIds : List String} {totalItems : Int}
    {count : Nat} (h : createChildBatch db parentId childId itemIds totalItems = .ok (db', count)) : ClosesSettled db db' := by
  obtain ⟨parent, batches, -, -, hbatches, rfl⟩ := createChildBatch_ok h
  intro after hafter hclosed
  obtain ⟨before, hbefore, rfl⟩ := Db.mem_setBatches.mp hafter
  have hstatus : before.state.status.terminal = true := by
    rw [← hclosed]
    unfold Table.revise
    split <;> rfl
  obtain hold | rfl := (Table.mem_insert hbatches).mp hbefore
  · refine .inl ⟨before, hold, ?_, hstatus⟩
    unfold Table.revise
    split <;> rfl
  · cases hstatus

lemma step_closesSettled {db : Db} {op : Op} (h : ClosedInvariant db) (hclean : reopens db op = false) :
    ClosesSettled db (step db op) := by
  cases hcall : call db op with
  | error error =>
    rw [step, hcall, after_error]
    exact fun after hafter hclosed => .inl ⟨after, hafter, rfl, hclosed⟩
  | ok result =>
    obtain ⟨db', answer⟩ := result
    have hstep : step db op = db' := by rw [step, hcall, after_ok]
    cases op with
    | createWithItems batchId jobId status items =>
      obtain ⟨count, hok, -⟩ := answered_eq_ok hcall
      rw [hstep]
      exact createWithItems_closesSettled hok h.owned hclean
    | createChildBatch parentId childId itemIds totalItems =>
      obtain ⟨count, hok, -⟩ := answered_eq_ok hcall
      rw [hstep]
      exact createChildBatch_closesSettled hok
    | abandonUnknownUpload now batchId confirmed =>
      rw [hstep]
      obtain ⟨-, result, hok⟩ := abandonUnknownUpload_ok hcall
      intro after hafter hclosed
      obtain ⟨marked, hmarked, hid, hterminal⟩ | hsettled := finalizeBatchLocked_closesSettled hok after hafter hclosed
      · left
        obtain ⟨before, hbefore, rfl⟩ := Db.mem_setBatches.mp hmarked
        refine ⟨before, hbefore, ?_, ?_⟩
        · rw [← hid]
          unfold Table.revise
          split <;> rfl
        · rw [← hterminal]
          unfold Table.revise
          split <;> rfl
      · exact .inr hsettled
    | failLocalBatch batchId errorCode jobStatus siblings =>
      rw [hstep]
      exact failLocalBatch_closesSettled hcall hclean
    | finalizeBatchResult batchId status finalAction cleanupStatus errorCode =>
      obtain ⟨result, hok, -⟩ := answered_eq_ok hcall
      rw [hstep]
      exact finalizeBatchLocked_closesSettled hok
    | finalizeCleanup batchId =>
      obtain ⟨result, hok, -⟩ := answered_eq_ok hcall
      rw [hstep]
      obtain rfl | ⟨_, _, _, _, hok⟩ := finalizeCleanup_cases hok
      · exact fun after hafter hclosed => .inl ⟨after, hafter, rfl, hclosed⟩
      · exact finalizeBatchLocked_closesSettled hok
    | _ =>
      intro after hafter hclosed
      obtain hnew | ⟨before, hbefore, hkey⟩ := step_stems db _ after hafter
      · cases hnew
      · obtain ⟨-, hmove⟩ := (step_moved db _).apply hbefore hafter hkey.symm
        exact .inl ⟨before, hbefore, hkey, hmove.terminal_before rfl (by simp) hclosed⟩

/-! ### Every run -/

/-- Batches never vanish. -/
lemma step_has_batch {db : Db} (op : Op) {batch : Batch} (hmem : batch ∈ db.batches) :
    ∃ after ∈ (step db op).batches, after.id = batch.id := by
  obtain ⟨after, hafter, hkey, -⟩ := step_moved db op batch hmem
  exact ⟨after, hafter, hkey⟩

lemma step_owned {db : Db} {op : Op} (h : ClosedInvariant db) (hclean : reopens db op = false) :
    ∀ item ∈ (step db op).items, ∃ batch ∈ (step db op).batches, batch.id = item.batchId := by
  have hkept : ∀ item ∈ db.items, ∃ batch ∈ (step db op).batches, batch.id = item.batchId := by
    intro item hitem
    obtain ⟨batch, hbatch, hid⟩ := h.owned item hitem
    obtain ⟨after, hafter, hkey⟩ := step_has_batch op hbatch
    exact ⟨after, hafter, hkey.trans hid⟩
  cases hcreates : op.creates with
  | false =>
    intro item hitem
    obtain ⟨matching, status, hitems, -⟩ := step_sweepsOpen hclean hcreates
    rw [hitems] at hitem
    obtain ⟨before, hbefore, rfl⟩ := Db.mem_setItems.mp hitem
    obtain ⟨batch, hbatch, hid⟩ := hkept before hbefore
    refine ⟨batch, hbatch, hid.trans ?_⟩
    unfold Table.revise
    split <;> rfl
  | true =>
    cases hcall : call db op with
    | error error =>
      rw [step, hcall, after_error] at hkept ⊢
      exact hkept
    | ok result =>
      obtain ⟨db', answer⟩ := result
      rw [step, hcall, after_ok] at hkept ⊢
      intro item hitem
      cases op with
      | createWithItems batchId jobId status items =>
        obtain ⟨count, hok, -⟩ := answered_eq_ok hcall
        obtain ⟨batches, hbatches, hitems⟩ := createWithItems_ok hok
        obtain hold | ⟨new, -, rfl⟩ := insertItems_mem hitems hitem
        · exact hkept item hold
        · have hinserted := (Table.mem_insert hbatches).mpr (.inr rfl)
          rw [← show db'.batches = batches from insertItems_batches hitems] at hinserted
          exact ⟨_, hinserted, rfl⟩
      | createChildBatch parentId childId itemIds totalItems =>
        obtain ⟨count, hok, -⟩ := answered_eq_ok hcall
        obtain ⟨parent, batches, -, -, hbatches, rfl⟩ := createChildBatch_ok hok
        obtain ⟨before, hbefore, rfl⟩ := Db.mem_moveItems.mp hitem
        unfold Table.revise
        split
        · refine ⟨_, Db.mem_setBatches.mpr ⟨_, (Table.mem_insert hbatches).mpr (.inr rfl), rfl⟩, ?_⟩
          unfold Table.revise
          split <;> rfl
        · exact hkept before hbefore
      | _ => cases hcreates

lemma ClosedInvariant.step {db : Db} {op : Op} (h : ClosedInvariant db) (hclean : reopens db op = false) :
    ClosedInvariant (step db op) where
  owned := step_owned h hclean
  settled := by
    intro after hafter hclosed
    obtain ⟨before, hbefore, hid, hbefore_closed⟩ | hsettled := step_closesSettled h hclean after hafter hclosed
    · intro item hitem hitem_id
      have hmem : item ∈ itemsOf (Batches.step db op) before.id :=
        List.mem_filter.mpr ⟨hitem, by rw [beq_iff_eq, hid]; exact hitem_id⟩
      rw [step_itemsOf hclean hbefore hbefore_closed] at hmem
      obtain ⟨hold, hold_id⟩ := List.mem_filter.mp hmem
      exact h.settled before hbefore hbefore_closed item hold (beq_iff_eq.mp hold_id)
    · exact hsettled

/-- What a closed batch keeps: its row's status and counters, and its items. -/
def KeepsClosed (db db' : Db) : Prop :=
  ∀ before ∈ db.batches, before.state.status.terminal = true →
    (∃ after ∈ db'.batches, after.id = before.id ∧ StaysClosed before.state after.state) ∧
      itemsOf db' before.id = itemsOf db before.id

lemma KeepsClosed.refl (db : Db) : KeepsClosed db db :=
  fun before hbefore _ => ⟨⟨before, hbefore, rfl, rfl, .refl _⟩, rfl⟩

lemma SameCounters.trans {a b c : BatchState} (h : SameCounters a b) (h' : SameCounters b c) : SameCounters a c :=
  ⟨h'.completed.trans h.completed, h'.failed.trans h.failed, h'.missing.trans h.missing, h'.stale.trans h.stale,
    h'.imported.trans h.imported⟩

lemma KeepsClosed.trans {db db' db'' : Db} (h : KeepsClosed db db') (h' : KeepsClosed db' db'') : KeepsClosed db db'' := by
  intro before hbefore hclosed
  obtain ⟨⟨middle, hmiddle, hid, hstays⟩, hitems⟩ := h before hbefore hclosed
  obtain ⟨⟨after, hafter, hid', hstays'⟩, hitems'⟩ := h' middle hmiddle (by rw [hstays.status]; exact hclosed)
  refine ⟨⟨after, hafter, hid'.trans hid, hstays'.status.trans hstays.status, hstays.counters.trans hstays'.counters⟩, ?_⟩
  rw [← hitems, ← hid, hitems']

lemma step_keepsClosed {db : Db} {op : Op} (hclean : reopens db op = false) : KeepsClosed db (step db op) := by
  intro before hbefore hclosed
  obtain ⟨after, hafter, hkey, -, hmove⟩ := step_moved db op before hbefore
  exact ⟨⟨after, hafter, hkey, hmove.staysClosed hbefore hclean hclosed⟩, step_itemsOf hclean hbefore hclosed⟩

/-- No batches and no items yet, beside any jobs. -/
def Db.opening (jobs : Jobs.Db) : Db := ⟨Table.empty, Table.empty, jobs⟩

/-- Closed batches keep their status, their counters and their items, and have no open items. -/
theorem terminal_batches_closed (jobs : Jobs.Db) {earlier later : List Op}
    (hclean : Runs.Along step (fun db op => reopens db op = false) (Db.opening jobs) (earlier ++ later)) :
    KeepsClosed (run (Db.opening jobs) earlier) (run (Db.opening jobs) (earlier ++ later)) ∧
      ∀ batch ∈ (run (Db.opening jobs) (earlier ++ later)).batches, batch.state.status.terminal = true →
        AllSettled (run (Db.opening jobs) (earlier ++ later)) batch.id := by
  obtain ⟨-, hlater⟩ := Runs.along_append.mp hclean
  have hstart : ClosedInvariant (Db.opening jobs) := by
    constructor
    · intro item hitem
      cases hitem
    · intro batch hbatch
      cases hbatch
  have hinvariant : ClosedInvariant (run (Db.opening jobs) (earlier ++ later)) :=
    Runs.invariant_of_along (fun _ _ h hop => h.step hop) hstart hclean
  refine ⟨?_, hinvariant.settled⟩
  have happend : run (Db.opening jobs) (earlier ++ later) = run (run (Db.opening jobs) earlier) later :=
    Runs.run_append step _ earlier later
  rw [happend]
  exact Runs.invariant_of_along (fun _ _ h hop => h.trans (step_keepsClosed hop)) (KeepsClosed.refl _) hlater

def batchStatusOf (db : Db) (batchId : String) : Option BatchStatus :=
  (db.batches.find batchId).map fun batch => batch.state.status

def oneJob : Jobs.Db := ⟨⟨[{ id := "job", kind := .analysisBatch }], by decide⟩, Table.empty, Table.empty⟩

def photoItem (id : String) : NewItem where
  id := id
  customId := id
  contentSha256 := id
  visionRequestFingerprint := "vision"

/-- Two shards of one job, the first of them cancelled before anything was uploaded. -/
def cancelledShard : List Op :=
  [.createWithItems "a" (some "job") .preparing [photoItem "i1"], .createWithItems "b" (some "job") .preparing [photoItem "i2"],
    .finalizeBatchResult "a" .cancelled (some .cancel) (some .notRequired) (some "cancelled")]

/-- The other shard fails alone, and the first is finalized and reported again. -/
def failedAlone : List Op :=
  [.failLocalBatch "b" "BATCH-INPUT-002" .failed false, .finalizeBatchResult "a" .failed none none none,
    .setStatusFromRemote "a" { id := some "r1", status := some "completed" } none none]

theorem terminal_batches_closed_alone :
    batchStatusOf (run (Db.opening oneJob) cancelledShard) "a" = some .cancelled ∧
    KeepsClosed (run (Db.opening oneJob) cancelledShard) (run (Db.opening oneJob) (cancelledShard ++ failedAlone)) := by
  have hclean : Runs.Along step (fun db op => reopens db op = false) (Db.opening oneJob) (cancelledShard ++ failedAlone) := by
    decide
  exact ⟨by decide, (terminal_batches_closed oneJob hclean).1⟩

/-- The failure of one shard with its siblings turns a cancelled shard into a failed one. -/
theorem terminal_batch_rewritten :
    batchStatusOf (run (Db.opening oneJob) cancelledShard) "a" = some .cancelled ∧
    batchStatusOf (run (Db.opening oneJob) (cancelledShard ++ [.failLocalBatch "b" "BATCH-INPUT-002" .failed true])) "a" =
      some .failed := by
  decide

end InkTime.Batches
