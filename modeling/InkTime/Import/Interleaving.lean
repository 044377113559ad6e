import InkTime.Batches.Moves
import InkTime.Import.Model
import InkTime.Ledger.Spending
import InkTime.Library.Runs

/-!
# Imported results are final

Any number of `import_batch` runs on one batch, interleaved transaction by transaction. A run draws up its transactions from
the items it read; the errors among them are written without another look at the row. As long as such a write does not meet
an imported item, and an import meets a job item that is still open, what is imported stays.
-/

namespace InkTime.Import

open Json (Value)
open Batches (Item ItemStatus BatchState BatchStatus CleanupAction CleanupStatus)
open Ledger (Receipt)

/-! ### The machine -/

structure World where
  db : Db
  /-- What each run has still to do. -/
  pending : Nat → List Op

inductive Act where
  /-- A run has read its files and reads the items. -/
  | read (run : Nat) (runtime : Runtime) (view : Item → Freshness) (files : Files)
  | next (run : Nat)
  /-- The process of a run ends. -/
  | stop (run : Nat)
  /-- `update_batch` -/
  | writeBatch (set : BatchState → BatchState)
  /-- `finalize_batch_result` and `finalize_cleanup` -/
  | finish (status : BatchStatus) (finalAction : Option CleanupAction) (cleanupStatus : Option CleanupStatus)
  | finishCleanup

def World.setPending (w : World) (run : Nat) (ops : List Op) : World :=
  { w with pending := fun other => if other = run then ops else w.pending other }

section Machine

variable (source : Source)

def step (w : World) : Act → World
  | .read run runtime view files =>
    w.setPending run (program runtime source view (w.db.itemsOf source.id) (readFiles runtime files))
  | .next run =>
    match w.pending run with
    | [] => w
    | op :: rest =>
      match op.exec source w.db with
      | .ok db => { w with db }.setPending run rest
      | .error _ => w.setPending run []
  | .stop run => w.setPending run []
  | .writeBatch set =>
    { w with db := { w.db with store := w.db.store.setBatches (fun batch => batch.id == source.id) set } }
  | .finish status finalAction cleanupStatus =>
    match Batches.finalizeBatchResult w.db.store source.id status finalAction cleanupStatus none with
    | .ok (store, _) => { w with db := { w.db with store } }
    | .error _ => w
  | .finishCleanup =>
    match Batches.finalizeCleanup w.db.store source.id with
    | .ok (store, _) => { w with db := { w.db with store } }
    | .error _ => w

def run (w : World) (acts : List Act) : World := Runs.run (step source) w acts

/-- The write of an error meets an item that is not imported. -/
def marksOpen (db : Db) (itemId : String) : Bool := (db.store.items.find itemId).all fun item => item.status != .imported

/-- The job item of a result is open, or completed already. -/
def completes (db : Db) (jobItemId : Option String) : Bool :=
  !Batches.truthy jobItemId || (db.store.jobs.items.find (jobItemId.getD "")).any fun jobItem =>
    (jobItem.jobId == jobIdText source && jobItem.state.status.unsettled) || jobItem.state.status == .completed

def careful (w : World) : Act → Bool
  | .next run =>
    match w.pending run with
    | .mark itemId _ :: _ => marksOpen w.db itemId
    | .importItem itemId jobItemId _ _ _ :: _ =>
      completes source w.db jobItemId || (w.db.store.items.find itemId).all fun item => !importable item.status
    | _ => true
  | _ => true

end Machine

/-! ### What stays -/

def receipts (db : Db) (itemId : String) : Nat := db.usage.rows.count fun usage => usage.batchItemId == some itemId

/-- The job item of an imported item is completed, and its receipt is recorded once. -/
structure Done (db : Db) (item : Item) : Prop where
  jobItem : Batches.truthy item.jobItemId = true →
    ∃ jobItem ∈ db.store.jobs.items, jobItem.id = item.jobItemId.getD "" ∧ jobItem.state.status = .completed
  receipt : receipts db item.id = 1

/-- The index on `batch_item_id` is unique, and what is imported is done. -/
structure Final (db : Db) : Prop where
  unique : ∀ itemId, receipts db itemId ≤ 1
  done : ∀ item ∈ db.store.items, item.status = .imported → Done db item

def StaysCompleted (before after : Jobs.Item) : Prop := before.state.status = .completed → after.state.status = .completed

def StaysImported (before after : Item) : Prop := before.status = .imported → after.status = .imported

def KeepsCompleted (jobs jobs' : Jobs.Db) : Prop := Table.Follows StaysCompleted jobs.items jobs'.items

/-- What a transaction leaves of the state before it. -/
structure Keeps (db db' : Db) : Prop where
  rows : ∀ after ∈ db'.store.items, ∃ before ∈ db.store.items, before.id = after.id ∧ before.jobItemId = after.jobItemId ∧
    (after.status = .imported → before.status = .imported ∨ Done db' after)
  imported : Table.Follows StaysImported db.store.items db'.store.items
  jobItems : KeepsCompleted db.store.jobs db'.store.jobs
  receipt : ∀ itemId, receipts db itemId = 1 → receipts db' itemId = 1
  unique : (∀ itemId, receipts db itemId ≤ 1) → ∀ itemId, receipts db' itemId ≤ 1

lemma StaysCompleted.refl (item : Jobs.Item) : StaysCompleted item item := id

lemma StaysImported.refl (item : Item) : StaysImported item item := id

lemma KeepsCompleted.refl (jobs : Jobs.Db) : KeepsCompleted jobs jobs := Table.Follows.refl StaysCompleted.refl _

lemma Keeps.refl (db : Db) : Keeps db db where
  rows := fun item hitem => ⟨item, hitem, rfl, rfl, .inl⟩
  imported := Table.Follows.refl StaysImported.refl _
  jobItems := KeepsCompleted.refl _
  receipt := fun _ h => h
  unique := fun h => h

lemma Done.keeps {db db' : Db} (h : Keeps db db') {before after : Item} (hid : before.id = after.id)
    (hjobItem : before.jobItemId = after.jobItemId) (hdone : Done db before) : Done db' after where
  jobItem := by
    intro hnamed
    rw [← hjobItem] at hnamed ⊢
    obtain ⟨jobItem, hmem, hid, hcompleted⟩ := hdone.jobItem hnamed
    obtain ⟨later, hlater, hkey, hstays⟩ := h.jobItems jobItem hmem
    exact ⟨later, hlater, hkey.trans hid, hstays hcompleted⟩
  receipt := by
    rw [← hid]
    exact h.receipt before.id hdone.receipt

theorem Final.keeps {db db' : Db} (h : Final db) (hkeeps : Keeps db db') : Final db' where
  unique := hkeeps.unique h.unique
  done := by
    intro after hafter himported
    obtain ⟨before, hbefore, hid, hjobItem, horigin⟩ := hkeeps.rows after hafter
    obtain hold | hnew := horigin himported
    · exact (h.done before hbefore hold).keeps hkeeps hid hjobItem
    · exact hnew

/-! ### Job items -/

lemma setItems_keepsCompleted {jobs : Jobs.Db} {matching : Jobs.Item → Bool} {set : Jobs.Item → Jobs.ItemState}
    (h : ∀ item, matching item = true → item.state.status.unsettled = true) :
    KeepsCompleted jobs (jobs.setItems matching set) := by
  have hkey : ∀ item : Jobs.Item, ({ item with state := set item } : Jobs.Item).id = item.id := fun _ => rfl
  apply Table.Follows.update StaysCompleted.refl hkey
  intro item _ hmatch hcompleted
  have hopen := h item hmatch
  rw [hcompleted] at hopen
  cases hopen

lemma settle_keepsCompleted {jobs : Jobs.Db} {jobId : String} {matching : Jobs.Item → Bool} {set : Jobs.Item → Jobs.ItemState}
    {count : Jobs.JobState → Jobs.JobState} (h : ∀ item, matching item = true → item.state.status.unsettled = true) :
    KeepsCompleted jobs (Jobs.settle jobs jobId matching set count).1 := by
  unfold Jobs.settle
  split
  · exact setItems_keepsCompleted h
  · exact KeepsCompleted.refl _

lemma openItem_unsettled {jobId itemId : String} (item : Jobs.Item) (h : Jobs.openItem jobId itemId item = true) :
    item.state.status.unsettled = true :=
  (Bool.and_eq_true _ _ ▸ h).2

/-- A result completes its job item, unless it is closed in another way. -/
lemma completeBatchItem_completes {jobs : Jobs.Db} {jobId : String} {jobItem : Jobs.Item} (hmem : jobItem ∈ jobs.items)
    (h : (jobItem.jobId == jobId && jobItem.state.status.unsettled || jobItem.state.status == .completed) = true) :
    ∃ after ∈ (Jobs.completeBatchItem jobs jobId jobItem.id).1.items, after.id = jobItem.id ∧
      after.state.status = .completed := by
  rw [Bool.or_eq_true, beq_iff_eq] at h
  obtain hopen | hcompleted := h
  · have hmatch : Jobs.openItem jobId jobItem.id jobItem = true := by simpa [Jobs.openItem] using hopen
    unfold Jobs.completeBatchItem Jobs.settle
    rw [if_pos (Table.any_of_mem hmem hmatch)]
    refine ⟨{ jobItem with state := jobItem.state.closed .completed }, ?_, rfl, rfl⟩
    refine Jobs.mem_setItems.mpr ⟨jobItem, hmem, ?_⟩
    rw [if_pos hmatch]
  · have hkeeps : KeepsCompleted jobs (Jobs.completeBatchItem jobs jobId jobItem.id).1 :=
      settle_keepsCompleted openItem_unsettled
    obtain ⟨after, hafter, hkey, hstays⟩ := hkeeps jobItem hmem
    exact ⟨after, hafter, hkey, hstays hcompleted⟩

/-! ### Receipts -/

/-- A receipt that is recorded is the only one of its item. -/
lemma recordBatchOnce_receipts {ledger ledger' : Ledger.Db} {receipt : Receipt} {itemId : String}
    (h : recordBatchOnce ledger receipt itemId = .ok ledger') :
    ledger'.jobs = ledger.jobs ∧
      (∀ other, other ≠ itemId → ledger'.usage.rows.count (fun usage => usage.batchItemId == some other) =
        ledger.usage.rows.count fun usage => usage.batchItemId == some other) ∧
      ledger'.usage.rows.count (fun usage => usage.batchItemId == some itemId) =
        max 1 (ledger.usage.rows.count fun usage => usage.batchItemId == some itemId) := by
  unfold recordBatchOnce at h
  cases hrecord : Ledger.recordBatchOnce .binary64 ledger receipt itemId with
  | error => rw [hrecord] at h; cases h
  | ok answer =>
    rw [hrecord] at h
    obtain rfl := Except.ok.inj h
    unfold Ledger.recordBatchOnce at hrecord
    dsimp only at hrecord
    split at hrecord
    · next hstored =>
      obtain rfl := Except.ok.inj hrecord
      refine ⟨rfl, fun _ _ => rfl, ?_⟩
      have hpos : 1 ≤ ledger.usage.rows.count fun usage => usage.batchItemId == some itemId := by
        simpa [Ledger.batchItemRecorded, Table.any, Table.count] using hstored
      exact (max_eq_right hpos).symm
    · next hnew =>
      obtain ⟨-, -, hrecord⟩ := Checked.bind_eq_ok.mp hrecord
      obtain rfl := Except.ok.inj hrecord
      simp only [Ledger.appendUsage_jobs, (Ledger.appendUsage_usage _ _ _).1, Ledger.append_count]
      have hnone : (ledger.usage.rows.count fun usage => usage.batchItemId == some itemId) = 0 := by
        simpa [Ledger.batchItemRecorded, Table.any, Table.count] using hnew
      refine ⟨trivial, ?_, ?_⟩
      · intro other hother
        simp [Ledger.usageOf, Ne.symm hother]
      · simp [Ledger.usageOf, hnone]

/-! ### Transactions -/

section Transactions

variable {db db' : Db}

lemma receipts_kept (h : ∀ itemId, receipts db' itemId = receipts db itemId ∨ receipts db' itemId = max 1 (receipts db itemId)) :
    (∀ itemId, receipts db itemId = 1 → receipts db' itemId = 1) ∧
      ((∀ itemId, receipts db itemId ≤ 1) → ∀ itemId, receipts db' itemId ≤ 1) := by
  constructor
  · intro itemId hone
    obtain hsame | hmax := h itemId <;> omega
  · intro hunique itemId
    have hle := hunique itemId
    obtain hsame | hmax := h itemId <;> omega

lemma Keeps.of_items_eq (hitems : db'.store.items = db.store.items) (husage : db'.usage = db.usage)
    (hjobs : KeepsCompleted db.store.jobs db'.store.jobs) : Keeps db db' := by
  have hsame : ∀ itemId, receipts db' itemId = receipts db itemId := fun itemId => by rw [receipts, receipts, husage]
  obtain ⟨hreceipt, hunique⟩ := receipts_kept fun itemId => .inl (hsame itemId)
  refine ⟨?_, ?_, hjobs, hreceipt, hunique⟩
  · intro after hafter
    exact ⟨after, hitems ▸ hafter, rfl, rfl, .inl⟩
  · rw [hitems]
    exact Table.Follows.refl StaysImported.refl _

/-- An update of items that imports nothing, or finds done what it imports. -/
lemma Keeps.of_update {matching : Item → Bool} {set : Item → Item} (hkey : ∀ item, (set item).id = item.id)
    (hitems : db'.store.items = db.store.items.update matching set hkey)
    (hset : ∀ item ∈ db.store.items, matching item = true → (set item).jobItemId = item.jobItemId ∧
      StaysImported item (set item) ∧ ((set item).status = .imported → item.status = .imported ∨ Done db' (set item)))
    (hjobs : KeepsCompleted db.store.jobs db'.store.jobs)
    (hreceipts : ∀ itemId, receipts db' itemId = receipts db itemId ∨ receipts db' itemId = max 1 (receipts db itemId)) :
    Keeps db db' := by
  obtain ⟨hreceipt, hunique⟩ := receipts_kept hreceipts
  refine ⟨?_, ?_, hjobs, hreceipt, hunique⟩
  · intro after hafter
    rw [hitems] at hafter
    obtain ⟨before, hbefore, rfl⟩ := Table.mem_update.mp hafter
    refine ⟨before, hbefore, (Table.key_revise hkey before).symm, ?_⟩
    unfold Table.revise
    split
    · next hmatch =>
      obtain ⟨hjobItem, -, horigin⟩ := hset before hbefore hmatch
      exact ⟨hjobItem.symm, horigin⟩
    · exact ⟨rfl, .inl⟩
  · rw [hitems]
    apply Table.Follows.update StaysImported.refl hkey
    intro item hitem hmatch
    exact (hset item hitem hmatch).2.1

/-- The receipts after a receipt of an item. -/
lemma setLedger_receipts {ledger : Ledger.Db} {receipt : Receipt} {itemId : String}
    (h : recordBatchOnce db.ledger receipt itemId = .ok ledger) (husage : db'.usage = ledger.usage) (other : String) :
    receipts db' other = receipts db other ∨ receipts db' other = max 1 (receipts db other) := by
  obtain ⟨-, hothers, hitem⟩ := recordBatchOnce_receipts h
  simp only [receipts, husage]
  by_cases hsame : other = itemId
  · subst hsame
    exact .inr hitem
  · exact .inl (hothers other hsame)

lemma receipt_keeps {source : Source} {itemId : String} {requestId : Option String} {raw : String} {receipt : Receipt}
    (h : (Op.receipt itemId requestId raw receipt).exec source db = .ok db') : Keeps db db' := by
  obtain ⟨ledger, hrecord, h⟩ := Checked.bind_eq_ok.mp h
  obtain rfl := Except.ok.inj h
  have hkey : ∀ item : Item, ({ item with
      rawResponseJson := item.rawResponseJson <|> some raw, requestId := item.requestId <|> requestId } : Item).id = item.id :=
    fun _ => rfl
  refine Keeps.of_update hkey rfl (fun item _ _ => ⟨rfl, id, .inl⟩) ?_ (setLedger_receipts hrecord rfl)
  change KeepsCompleted db.store.jobs ledger.jobs
  rw [(recordBatchOnce_receipts hrecord).1]
  exact KeepsCompleted.refl _

lemma mark_keeps {source : Source} {itemId : String} {status : ItemStatus} (hopen : marksOpen db itemId = true)
    (hstatus : status ≠ .imported) (h : (Op.mark itemId status).exec source db = .ok db') : Keeps db db' := by
  obtain ⟨-, -, h⟩ := Checked.bind_eq_ok.mp h
  obtain rfl := Except.ok.inj h
  have hkey : ∀ item : Item, ({ item with status } : Item).id = item.id := fun _ => rfl
  refine Keeps.of_update hkey rfl ?_ (KeepsCompleted.refl _) fun _ => .inl rfl
  intro item hitem hmatch
  refine ⟨rfl, ?_, fun himported => absurd himported hstatus⟩
  intro himported
  rw [marksOpen, ← beq_iff_eq.mp hmatch, Table.find_of_mem hitem] at hopen
  simp [himported] at hopen

lemma importItem_keeps {source : Source} {itemId : String} {jobItemId requestId : Option String} {raw : String}
    {receipt : Receipt} (hunique : ∀ itemId, receipts db itemId ≤ 1)
    (hdrawn : ∃ item ∈ db.store.items, item.id = itemId ∧ item.jobItemId = jobItemId)
    (hopen : (completes source db jobItemId ||
      (db.store.items.find itemId).all fun item => !importable item.status) = true)
    (h : (Op.importItem itemId jobItemId requestId raw receipt).exec source db = .ok db') : Keeps db db' := by
  obtain ⟨item, hitem, rfl, rfl⟩ := hdrawn
  simp only [Op.exec, Table.find_of_mem hitem, Option.all_some] at h hopen
  split at h
  · obtain rfl := Except.ok.inj h
    exact Keeps.refl _
  · next himportable =>
    rw [Bool.not_eq_true', Bool.not_eq_false] at himportable
    rw [himportable, Bool.not_true, Bool.or_false] at hopen
    obtain ⟨ledger, hrecord, h⟩ := Checked.bind_eq_ok.mp h
    obtain ⟨hjobs, -, hcount⟩ := recordBatchOnce_receipts hrecord
    have hkey : ∀ item : Item,
        ({ item with status := .imported, requestId, rawResponseJson := some raw } : Item).id = item.id := fun _ => rfl
    have hone : max 1 (receipts db item.id) = 1 := max_eq_left (hunique item.id)
    split at h
    · next hnamed =>
      rw [completes, hnamed, Bool.not_true, Bool.false_or] at hopen
      obtain ⟨jobItem, hfound, hstate⟩ := (Option.any_eq_true _ _).mp hopen
      obtain ⟨hmem, hid⟩ := Table.find_eq_some hfound
      rw [← hid] at h
      obtain rfl := Except.ok.inj h
      refine Keeps.of_update hkey rfl ?_ ?_ (setLedger_receipts hrecord (Ledger.settleItem_usage _ _ _ _ _))
      · intro other hother hmatch
        obtain rfl := Table.eq_of_key_eq hother hitem (beq_iff_eq.mp hmatch)
        refine ⟨rfl, fun _ => rfl, fun _ => .inr ⟨fun _ => ?_, ?_⟩⟩
        · change ∃ after ∈ (Ledger.settleItem _ _ _ _ _ _).jobs.items, after.id = other.jobItemId.getD "" ∧ _
          rw [Ledger.settleItem_jobs, ← hid]
          change ∃ after ∈ (Jobs.completeBatchItem ledger.jobs _ _).1.items, _
          rw [hjobs]
          exact completeBatchItem_completes hmem hstate
        · change (Ledger.settleItem _ _ _ _ _ _).usage.rows.count _ = 1
          rw [Ledger.settleItem_usage]
          exact hcount.trans hone
      · change KeepsCompleted db.store.jobs (Ledger.settleItem _ _ _ _ _ _).jobs
        rw [Ledger.settleItem_jobs]
        change KeepsCompleted db.store.jobs (Jobs.completeBatchItem ledger.jobs _ _).1
        rw [hjobs]
        exact settle_keepsCompleted openItem_unsettled
    · next hunnamed =>
      obtain rfl := Except.ok.inj h
      refine Keeps.of_update hkey rfl ?_ ?_ (setLedger_receipts hrecord rfl)
      · intro other hother hmatch
        obtain rfl := Table.eq_of_key_eq hother hitem (beq_iff_eq.mp hmatch)
        refine ⟨rfl, fun _ => rfl, fun _ => .inr ⟨fun hnamed => absurd hnamed hunnamed, ?_⟩⟩
        exact hcount.trans hone
      · change KeepsCompleted db.store.jobs ledger.jobs
        rw [hjobs]
        exact KeepsCompleted.refl _

lemma settleJob_jobItems (store : Batches.Db) (jobId : String) (status : Jobs.JobStatus) :
    (Batches.settleJob store jobId status).jobs.items = store.jobs.items := by
  simp only [Batches.settleJob]
  split <;> rfl

lemma closeJobItems_keepsCompleted (store : Batches.Db) (batchId jobId : String) (status : BatchStatus) :
    KeepsCompleted store.jobs (Batches.closeJobItems store batchId jobId status).jobs := by
  unfold KeepsCompleted Batches.closeJobItems
  dsimp only
  rw [settleJob_jobItems]
  apply setItems_keepsCompleted
  intro item hmatch
  exact (Bool.and_eq_true _ _ ▸ hmatch).2

/-- Closing a batch leaves imported items and completed job items. -/
lemma finalizeBatchLocked_keeps {batchId : String} {status result : BatchStatus} {finalAction : Option CleanupAction}
    {cleanupStatus : Option CleanupStatus} {errorCode : Option String} {store : Batches.Db}
    (h : Batches.finalizeBatchLocked db.store batchId status finalAction cleanupStatus errorCode = .ok (store, result)) :
    Keeps db { db with store } := by
  have hjobs : KeepsCompleted db.store.jobs store.jobs := by
    obtain ⟨-, -, h⟩ := Checked.bind_eq_ok.mp h
    obtain ⟨batch, -, h⟩ := Checked.bind_eq_ok.mp h
    split at h
    · obtain ⟨rfl, -⟩ := Prod.mk.inj (Except.ok.inj h)
      exact KeepsCompleted.refl _
    · obtain ⟨-, -, h⟩ := Checked.bind_eq_ok.mp h
      have hsettled : (Batches.settledItems db.store batchId status).jobs = db.store.jobs := by
        unfold Batches.settledItems
        split <;> rfl
      split at h
      · obtain ⟨rfl, -⟩ := Batches.commit_eq_ok h
        have hclosed := closeJobItems_keepsCompleted ((Batches.settledItems db.store batchId status).setBatches
          (fun batch => batch.id == batchId)
          (BatchState.finalized (Batches.settledItems db.store batchId status) batchId status finalAction cleanupStatus errorCode))
          batchId (batch.jobId.getD "") status
        change KeepsCompleted (Batches.settledItems db.store batchId status).jobs _ at hclosed
        rwa [hsettled] at hclosed
      · obtain ⟨rfl, -⟩ := Batches.commit_eq_ok h
        change KeepsCompleted db.store.jobs (Batches.settledItems db.store batchId status).jobs
        rw [hsettled]
        exact KeepsCompleted.refl _
  obtain ⟨-, batch, -, ⟨-, rfl⟩ | ⟨-, -, -, hitems, -⟩⟩ := Batches.finalizeBatchLocked_cases h
  · exact Keeps.refl db
  · unfold Batches.settledItems at hitems
    split at hitems
    · exact Keeps.of_items_eq hitems rfl hjobs
    · next itemStatus hclosing =>
      have hkey : ∀ item : Item, ({ item with status := itemStatus } : Item).id = item.id := fun _ => rfl
      refine Keeps.of_update hkey hitems ?_ hjobs fun _ => .inl rfl
      intro item _ hmatch
      refine ⟨rfl, ?_, ?_⟩
      · intro himported
        rw [himported] at hmatch
        simp [ItemStatus.active] at hmatch
      · rintro rfl
        cases status <;> cases hclosing

end Transactions

/-! ### Programs -/

/-- No error makes an item imported, and a result is imported for the job item of its row. -/
def Op.Drawn (db : Db) : Op → Prop
  | .mark _ status => status ≠ .imported
  | .importItem itemId jobItemId _ _ _ => ∃ item ∈ db.store.items, item.id = itemId ∧ item.jobItemId = jobItemId
  | _ => True

section Programs

variable {runtime : Runtime} {source : Source} {view : Item → Freshness} {db : Db}

lemma importOutcome_marked {item : Item} {body : Value} {status : ItemStatus}
    (h : importOutcome runtime source view item body = .ok (.marked status)) : status ≠ .imported := by
  rintro rfl
  unfold importOutcome at h
  split at h
  · cases h
  · split at h
    · cases h
    · split at h
      · cases h
      · obtain ⟨reply, -, h⟩ := Checked.bind_eq_ok.mp h
        cases reply with
        | incomplete | blank => cases h
        | content text =>
          simp only [pure, Except.pure, Except.ok.injEq] at h
          split at h <;> cases h

lemma markItemError_drawn {item : Item} {status : ItemStatus} (hstatus : status ≠ .imported) :
    ∀ op ∈ markItemError source item status, op.Drawn db := by
  intro op hop
  unfold markItemError at hop
  split at hop
  · cases hop
  · obtain rfl | hop := List.mem_cons.mp hop
    · exact hstatus
    · split at hop
      · obtain rfl := List.mem_singleton.mp hop
        trivial
      · cases hop

lemma missingResult_drawn {item : Item} : ∀ op ∈ missingResult item, op.Drawn db := by
  intro op hop
  unfold missingResult at hop
  split at hop
  · cases hop
  · obtain rfl | hop := List.mem_cons.mp hop
    · exact ItemStatus.noConfusion
    · split at hop
      · obtain rfl := List.mem_singleton.mp hop
        trivial
      · cases hop

lemma persistReceipt_drawn (item : Item) (record body : Value) : (persistReceipt runtime source item record body).Drawn db := by
  unfold persistReceipt
  dsimp only
  split <;> trivial

lemma importSuccess_drawn {item : Item} (hitem : item ∈ db.store.items) (record body : Value) :
    ∀ op ∈ importSuccess runtime source view item record body, op.Drawn db := by
  intro op hop
  unfold importSuccess at hop
  obtain rfl | hop := List.mem_cons.mp hop
  · exact persistReceipt_drawn item record body
  · split at hop
    · obtain rfl := List.mem_singleton.mp hop
      trivial
    · cases hop
    · next hmarked => exact markItemError_drawn (importOutcome_marked hmarked) op hop
    · obtain rfl := List.mem_singleton.mp hop
      exact ⟨item, hitem, rfl, rfl⟩

lemma applyRecord_drawn {item : Item} (hitem : item ∈ db.store.items) (staged : Staged) :
    ∀ op ∈ applyRecord runtime source view item staged, op.Drawn db := by
  intro op hop
  unfold applyRecord at hop
  obtain hop | hop := List.mem_append.mp hop
  · obtain ⟨body, -, rfl⟩ := Option.map_eq_some_iff.mp (Option.mem_toList.mp hop)
    exact persistReceipt_drawn item staged.record body
  · split at hop
    · exact markItemError_drawn ItemStatus.noConfusion op hop
    · split at hop
      · exact markItemError_drawn ItemStatus.noConfusion op hop
      · obtain rfl := List.mem_singleton.mp hop
        trivial
    · exact markItemError_drawn ItemStatus.noConfusion op hop
    · exact importSuccess_drawn hitem _ _ op hop

theorem program_drawn (reading : Reading) :
    ∀ op ∈ program runtime source view (db.itemsOf source.id) reading, op.Drawn db := by
  intro op hop
  unfold program at hop
  dsimp only at hop
  obtain hop | hop := List.mem_append.mp hop
  · obtain ⟨code, -, rfl⟩ := List.mem_map.mp hop
    trivial
  · split at hop
    · obtain rfl := List.mem_singleton.mp hop
      trivial
    · obtain hop | hop := List.mem_append.mp hop
      · obtain hop | hop := List.mem_append.mp hop
        · split at hop
          · obtain rfl := List.mem_singleton.mp hop
            trivial
          · cases hop
        · obtain ⟨staged, -, hop⟩ := List.mem_flatMap.mp hop
          split at hop
          · cases hop
          · next item hfound =>
            have hitem := (List.mem_filter.mp (List.mem_of_find?_eq_some hfound)).1
            exact applyRecord_drawn hitem staged op hop
      · obtain ⟨item, -, hop⟩ := List.mem_flatMap.mp hop
        exact missingResult_drawn op hop

end Programs

/-! ### Steps -/

section Steps

variable {source : Source}

theorem exec_keeps {db db' : Db} {op : Op} (hunique : ∀ itemId, receipts db itemId ≤ 1) (hdrawn : op.Drawn db)
    (hmark : ∀ itemId status, op = .mark itemId status → marksOpen db itemId = true)
    (himport : ∀ itemId jobItemId requestId raw receipt, op = .importItem itemId jobItemId requestId raw receipt →
      (completes source db jobItemId || (db.store.items.find itemId).all fun item => !importable item.status) = true)
    (h : op.exec source db = .ok db') : Keeps db db' := by
  cases op with
  | problem code =>
    obtain rfl := Except.ok.inj h
    exact Keeps.of_items_eq rfl rfl (KeepsCompleted.refl _)
  | receipt => exact receipt_keeps h
  | mark itemId status => exact mark_keeps (hmark itemId status rfl) hdrawn h
  | failJobItem jobItemId =>
    obtain rfl := Except.ok.inj h
    exact Keeps.of_items_eq rfl rfl (settle_keepsCompleted openItem_unsettled)
  | importItem itemId jobItemId requestId raw receipt =>
    exact importItem_keeps hunique hdrawn (himport itemId jobItemId requestId raw receipt rfl) h
  | raise => cases h

theorem step_keeps {w : World} {act : Act} (hfinal : Final w.db) (hdrawn : ∀ run, ∀ op ∈ w.pending run, op.Drawn w.db)
    (hcareful : careful source w act = true) : Keeps w.db (step source w act).db := by
  cases act with
  | read | stop => exact Keeps.refl _
  | writeBatch set => exact Keeps.of_items_eq rfl rfl (KeepsCompleted.refl _)
  | next run =>
    simp only [step, careful] at hcareful ⊢
    cases hpending : w.pending run with
    | nil => exact Keeps.refl _
    | cons op rest =>
      rw [hpending] at hcareful
      have hop : op.Drawn w.db := hdrawn run op (by rw [hpending]; exact List.mem_cons_self)
      dsimp only
      split
      · next db' hexec =>
        refine exec_keeps hfinal.unique hop ?_ ?_ hexec
        · rintro itemId status rfl
          exact hcareful
        · rintro itemId jobItemId requestId raw receipt rfl
          exact hcareful
      · exact Keeps.refl _
  | finish status finalAction cleanupStatus =>
    simp only [step]
    split
    · next hfinalize => exact finalizeBatchLocked_keeps hfinalize
    · exact Keeps.refl _
  | finishCleanup =>
    simp only [step]
    split
    · next hfinalize =>
      obtain rfl | ⟨_, _, _, _, hlocked⟩ := Batches.finalizeCleanup_cases hfinalize
      · exact Keeps.refl _
      · exact finalizeBatchLocked_keeps hlocked
    · exact Keeps.refl _

lemma Op.Drawn.keeps {db db' : Db} (h : Keeps db db') {op : Op} (hdrawn : op.Drawn db) : op.Drawn db' := by
  cases op with
  | mark => exact hdrawn
  | importItem itemId jobItemId =>
    obtain ⟨item, hitem, rfl, rfl⟩ := hdrawn
    obtain ⟨after, hafter, hkey, -⟩ := h.imported item hitem
    obtain ⟨before, hbefore, hid, hjobItem, -⟩ := h.rows after hafter
    obtain rfl := Table.eq_of_key_eq hbefore hitem (hid.trans hkey)
    exact ⟨after, hafter, hkey, hjobItem.symm⟩
  | problem | receipt | failJobItem | raise => trivial

/-- What the runs of a batch rely on. -/
structure Sound (w : World) : Prop where
  final : Final w.db
  drawn : ∀ run, ∀ op ∈ w.pending run, op.Drawn w.db

theorem step_sound {w : World} {act : Act} (h : Sound w) (hcareful : careful source w act = true) :
    Sound (step source w act) := by
  have hkeeps := step_keeps h.final h.drawn hcareful
  refine ⟨h.final.keeps hkeeps, ?_⟩
  intro run op hop
  -- what is left of a run was there before, or has just been drawn up from the rows
  have hold : op ∈ w.pending run → op.Drawn (step source w act).db := fun hmem => (h.drawn run op hmem).keeps hkeeps
  cases act with
  | read other runtime view files =>
    simp only [step, World.setPending] at hop ⊢
    split at hop
    · exact program_drawn _ op hop
    · exact hold hop
  | stop other =>
    simp only [step, World.setPending] at hop
    split at hop
    · cases hop
    · exact hold hop
  | writeBatch set => exact hold hop
  | next other =>
    apply hold
    simp only [step] at hop
    cases hpending : w.pending other with
    | nil =>
      rw [hpending] at hop
      exact hop
    | cons first rest =>
      rw [hpending] at hop
      dsimp only at hop
      split at hop
      · simp only [World.setPending] at hop
        split at hop
        · next hsame =>
          rw [hsame, hpending]
          exact List.mem_cons_of_mem _ hop
        · exact hop
      · simp only [World.setPending] at hop
        split at hop
        · cases hop
        · exact hop
  | finish status finalAction cleanupStatus =>
    apply hold
    simp only [step] at hop
    split at hop <;> exact hop
  | finishCleanup =>
    apply hold
    simp only [step] at hop
    split at hop <;> exact hop

/-- Once an item is imported it stays so, its job item stays completed, and its receipt is recorded exactly once. -/
theorem imported_final {db : Db} (hstart : Final db) {earlier later : List Act}
    (h : Runs.Along (step source) (fun w act => careful source w act = true) ⟨db, fun _ => []⟩ (earlier ++ later)) {item : Item}
    (hitem : item ∈ (run source ⟨db, fun _ => []⟩ earlier).db.store.items) (himported : item.status = .imported) :
    ∃ after ∈ (run source ⟨db, fun _ => []⟩ (earlier ++ later)).db.store.items, after.id = item.id ∧
      after.jobItemId = item.jobItemId ∧ after.status = .imported ∧
      Done (run source ⟨db, fun _ => []⟩ (earlier ++ later)).db after := by
  obtain ⟨hearlier, hlater⟩ := Runs.along_append.mp h
  have hsound : Sound (run source ⟨db, fun _ => []⟩ earlier) :=
    Runs.invariant_of_along (fun _ _ => step_sound) ⟨hstart, fun _ _ hop => absurd hop List.not_mem_nil⟩ hearlier
  have hstep : ∀ w act, (Sound w ∧ ∃ after ∈ w.db.store.items, after.id = item.id ∧ after.jobItemId = item.jobItemId ∧
      after.status = .imported) → careful source w act = true →
      Sound (step source w act) ∧ ∃ after ∈ (step source w act).db.store.items, after.id = item.id ∧
        after.jobItemId = item.jobItemId ∧ after.status = .imported := by
    rintro w act ⟨hw, before, hbefore, hid, hjobItem, hstatus⟩ hact
    have hkeeps := step_keeps hw.final hw.drawn hact
    obtain ⟨after, hafter, hkey, hstays⟩ := hkeeps.imported before hbefore
    obtain ⟨origin, horigin, hsame, hjob, -⟩ := hkeeps.rows after hafter
    obtain rfl := Table.eq_of_key_eq horigin hbefore (hsame.trans hkey)
    exact ⟨step_sound hw hact, after, hafter, hkey.trans hid, hjob.symm.trans hjobItem, hstays hstatus⟩
  have hrun := Runs.invariant_of_along hstep ⟨hsound, item, hitem, rfl, rfl, himported⟩ hlater
  rw [run, Runs.run_append]
  obtain ⟨hend, after, hafter, hid, hjobItem, hstatus⟩ := hrun
  exact ⟨after, hafter, hid, hjobItem, hstatus, hend.final.done after hafter hstatus⟩

end Steps

/-- Texts as they are, no prices, and every answer valid. -/
def plainRuntime : Runtime where
  intText := fun _ => none
  floatInt := fun value => some (.finite value)
  floatText := fun _ => none
  str := fun value => match value with
    | .str (.utf8 text) => text
    | _ => ""
  dumps := fun _ => ""
  column := fun _ => none
  estimateBatchCost := fun _ _ => none
  accepts := fun _ => true

/-- A line of the output file with a complete answer. -/
def answerLine (customId content : String) : Value :=
  .object [(.utf8 "custom_id", .str (.utf8 customId)),
    (.utf8 "response", .object [(.utf8 "status_code", .int 200),
      (.utf8 "body", .object [(.utf8 "choices", .array [.object [(.utf8 "finish_reason", .str (.utf8 "stop")),
        (.utf8 "message", .object [(.utf8 "content", .str (.utf8 content))])]])])])]

def firstId : String := "ibt:00000000-0000-0000-0000-000000000001"

/-- A batch with one item that has been submitted. -/
def submittedItem : Db where
  store := {
    batches := ⟨[{ id := "batch", jobId := some "job", state := { status := .importing } }], by decide⟩
    items := ⟨[
      { id := "item", batchId := "batch", jobItemId := some "job item", photoId := some "photo", customId := firstId,
        contentSha256 := "", visionRequestFingerprint := "", status := .submitted }], by decide⟩
    jobs := {
      jobs := ⟨[{ id := "job", kind := .analysisBatch, state := { status := .running } }], by decide⟩
      items := ⟨[{ id := "job item", jobId := "job", photoId := some "photo" }], by decide⟩
      photos := .single { id := "photo" } } }
  spent := fun _ => 0
  usage := .empty
  archive := Table.empty

def batchSource : Source := { id := "batch", jobId := some "job" }

def oneAnswer : Files := ⟨[some (answerLine firstId "answer")], []⟩

lemma submittedItem_final : Final submittedItem where
  unique := fun _ => Nat.zero_le _
  done := by
    intro item hitem himported
    obtain rfl := List.mem_singleton.mp (Table.mem_iff.mp hitem)
    cases himported

/-- Two runs read the item, and both write its result. -/
def bothImport : List Act :=
  [.read 0 plainRuntime (fun _ => .fresh) oneAnswer, .read 1 plainRuntime (fun _ => .fresh) oneAnswer,
    .next 0, .next 1, .next 0, .next 0]

theorem imported_final_of_bothImport :
    ∃ item ∈ (run batchSource ⟨submittedItem, fun _ => []⟩ bothImport).db.store.items, item.status = .imported ∧
      ∃ after ∈ (run batchSource ⟨submittedItem, fun _ => []⟩ (bothImport ++ [.next 1, .next 1])).db.store.items,
        after.id = item.id ∧ after.jobItemId = item.jobItemId ∧ after.status = .imported ∧
        Done (run batchSource ⟨submittedItem, fun _ => []⟩ (bothImport ++ [.next 1, .next 1])).db after := by
  have hfound : ((run batchSource ⟨submittedItem, fun _ => []⟩ bothImport).db.store.items.find "item").map Item.status =
      some .imported := by decide +kernel
  obtain ⟨item, hitem, himported⟩ := Option.map_eq_some_iff.mp hfound
  have hmem := (Table.find_eq_some hitem).1
  have hcareful : Runs.Along (step batchSource) (fun w act => careful batchSource w act = true)
      ⟨submittedItem, fun _ => []⟩ (bothImport ++ [.next 1, .next 1]) := by decide +kernel
  exact ⟨item, hmem, himported, imported_final submittedItem_final hcareful hmem himported⟩

/-- The settings change after the first run: the second writes `stale` over the result. -/
theorem imported_overwritten :
    (run batchSource ⟨submittedItem, fun _ => []⟩
      [.read 0 plainRuntime (fun _ => .fresh) oneAnswer, .read 1 plainRuntime (fun _ => .fingerprintChanged) oneAnswer,
        .next 0, .next 0, .next 0]).db.store.items.rows.map (fun item => (item.id, item.status)) = [("item", .imported)] ∧
    (run batchSource ⟨submittedItem, fun _ => []⟩
      [.read 0 plainRuntime (fun _ => .fresh) oneAnswer, .read 1 plainRuntime (fun _ => .fingerprintChanged) oneAnswer,
        .next 0, .next 0, .next 0, .next 1, .next 1, .next 1]).db.store.items.rows.map (fun item => (item.id, item.status)) =
      [("item", .stale)] := by
  decide +kernel

end InkTime.Import
