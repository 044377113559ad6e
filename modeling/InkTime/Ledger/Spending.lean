import InkTime.Ledger.Model
import InkTime.Library.Runs

/-!
# Spending is backed by the ledger

Receipts, item completions and retention each keep `jobs.spent` by a rule of their own. For a job the ledger
knows, the running total is always the sum that `BudgetService.snapshot` recomputes, as long as no addition rounds.
-/

namespace InkTime.Ledger

open Checked
open Rounding (nearestDouble)

variable {arithmetic : Arithmetic}

/-- The job has a receipt, or had one that was archived. -/
def InLedger (db : Db) (jobId : String) : Prop := db.hasReceipt jobId = true ∨ db.hasArchive jobId = true

instance (db : Db) (jobId : String) : Decidable (InLedger db jobId) :=
  inferInstanceAs (Decidable (db.hasReceipt jobId = true ∨ db.hasArchive jobId = true))

/-- Every job in the ledger has spent what the ledger says. Job ids are never empty: in the archive the
empty text stands for no job. -/
def Backed (arithmetic : Arithmetic) (db : Db) : Prop :=
  ∀ jobId, jobId ≠ "" → InLedger db jobId → db.spent jobId = jobKnown arithmetic db jobId

/-- The total of the job and its being in the ledger do not depend on the job tables. -/
lemma Backed.of_jobs {db : Db} (h : Backed .exact db) (jobs : Jobs.Db) : Backed .exact { db with jobs } := h

lemma hasReceipt_iff {db : Db} {jobId : String} :
    db.hasReceipt jobId = true ↔ ∃ usage ∈ db.usage.rows, usage.jobId = some jobId := by
  simp [Db.hasReceipt, Table.any, Table.mem_iff]

lemma hasArchive_iff {db : Db} {jobId : String} :
    db.hasArchive jobId = true ↔ ∃ archive ∈ db.archive, archive.jobId = jobId := by
  simp [Db.hasArchive, Table.any, Table.mem_iff]

/-! ### Receipts -/

lemma append_total (usage : UsageTable) (row : Usage) (f : Usage → ℚ) :
    (usage.append row).rows.total f = usage.rows.total f + f { row with id := usage.lastId + 1 } := by
  simp [UsageTable.append, Table.total]

lemma mem_append {usage : UsageTable} {row other : Usage} :
    other ∈ (usage.append row).rows ↔ other ∈ usage.rows ∨ other = { row with id := usage.lastId + 1 } := by
  simp [UsageTable.append, Table.mem_iff]

lemma append_count (usage : UsageTable) (row : Usage) (p : Usage → Bool) :
    (usage.append row).rows.count p = usage.rows.count p + if p { row with id := usage.lastId + 1 } then 1 else 0 := by
  simp [UsageTable.append, Table.count, List.countP_append, List.countP_cons]

/-- The part of the sums that belongs to the job. -/
def jobCost (jobId : String) (usage : Usage) : ℚ := if usage.jobId = some jobId then usage.knownCost else 0

lemma sum_filter_map {α : Type} (rows : List α) (mine : α → Bool) (cost : α → ℚ) :
    ((rows.filter mine).map cost).sum = (rows.map fun row => if mine row = true then cost row else 0).sum := by
  induction rows with
  | nil => rfl
  | cons row rest ih =>
    rw [List.map_cons, List.sum_cons, ← ih]
    cases hmine : mine row with
    | true => rw [List.filter_cons_of_pos hmine, List.map_cons, List.sum_cons, if_pos rfl]
    | false => rw [List.filter_cons_of_neg (by simp [hmine]), if_neg (by simp), zero_add]

/-- Without rounding the order of the rows does not matter. -/
lemma jobKnown_exact (db : Db) (jobId : String) : jobKnown .exact db jobId =
    db.usage.rows.total (fun usage => if usage.jobId = some jobId then usage.knownCost else 0) +
      db.archive.total (fun archive => if archive.jobId = jobId then archive.cost else 0) := by
  unfold jobKnown Arithmetic.exact Table.total
  dsimp only
  rw [sum_filter_map, sum_filter_map]
  simp only [beq_iff_eq]

lemma jobKnown_append (db : Db) (row : Usage) (jobId : String) :
    jobKnown .exact { db with usage := db.usage.append row } jobId = jobKnown .exact db jobId + jobCost jobId row := by
  simp only [jobKnown_exact, append_total, jobCost, Usage.knownCost, Usage.cost]
  ring

lemma jobKnown_setSpent (db : Db) (jobId other : String) (cost : ℚ) :
    jobKnown arithmetic (db.setSpent other cost) jobId = jobKnown arithmetic db jobId := rfl

/-- Nothing is known of a job that is not in the ledger. -/
lemma jobKnown_eq_zero {db : Db} {jobId : String} (h : ¬ InLedger db jobId) : jobKnown .exact db jobId = 0 := by
  have hreceipts : db.usage.rows.total (fun usage => if usage.jobId = some jobId then usage.knownCost else 0) =
      db.usage.rows.total fun _ => (0 : ℚ) := by
    apply Table.total_congr
    intro usage husage
    exact if_neg fun hjob => h (.inl (hasReceipt_iff.mpr ⟨usage, husage, hjob⟩))
  have harchives : db.archive.total (fun archive => if archive.jobId = jobId then archive.cost else 0) =
      db.archive.total fun _ => (0 : ℚ) := by
    apply Table.total_congr
    intro archive harchive
    exact if_neg fun hjob => h (.inr (hasArchive_iff.mpr ⟨archive, harchive, hjob⟩))
  rw [jobKnown_exact, hreceipts, harchives]
  simp [Table.total]

/-- The test of `_add_job_cost` after the insertion: was the job in the ledger before? -/
lemma append_already {db : Db} {row : Usage} {jobId : String} :
    (((db.usage.append row).rows.any fun usage => usage.jobId == some jobId && usage.id != (db.usage.append row).lastId) ||
      ({ db with usage := db.usage.append row } : Db).hasArchive jobId) = true ↔ InLedger db jobId := by
  rw [Bool.or_eq_true, InLedger, hasReceipt_iff]
  refine or_congr_left ?_
  simp only [Table.any, List.any_eq_true, Bool.and_eq_true, beq_iff_eq, bne_iff_ne]
  constructor
  · rintro ⟨usage, husage, hjob, hother⟩
    obtain hold | rfl := mem_append.mp (Table.mem_iff.mpr husage)
    · exact ⟨usage, hold, hjob⟩
    · exact absurd rfl hother
  · rintro ⟨usage, husage, hjob⟩
    refine ⟨usage, mem_append.mpr (.inl husage), hjob, ?_⟩
    have hle := db.usage.bounded usage husage
    change usage.id ≠ db.usage.lastId + 1
    omega

/-- A job's total after a receipt: added to what the ledger had, or in place of what it had not. -/
lemma appendUsage_spent (db : Db) (receipt : Receipt) (row : Usage) {jobId : String} (hjob : jobId ≠ "") :
    (appendUsage .exact db receipt row).spent jobId =
      if receipt.jobId = some jobId then (if InLedger db jobId then db.spent jobId else 0) + receipt.addedCost
      else db.spent jobId := by
  unfold appendUsage addJobCost
  cases hreceipt : receipt.jobId with
  | none => rfl
  | some other =>
    simp only [append_already]
    by_cases hempty : other = ""
    · have hother : ¬ some other = some jobId := by simp [hempty, Ne.symm hjob]
      rw [if_pos hempty, if_neg hother]
    rw [if_neg hempty]
    by_cases hsame : other = jobId
    · subst hsame
      split <;> simp [Db.setSpent, Arithmetic.exact]
    · have hother : ¬ some other = some jobId := by simp [hsame]
      rw [if_neg hother]
      split <;> simp [Db.setSpent, Ne.symm hsame]

lemma appendUsage_usage (db : Db) (receipt : Receipt) (row : Usage) :
    (appendUsage arithmetic db receipt row).usage = db.usage.append row ∧
      (appendUsage arithmetic db receipt row).archive = db.archive := by
  unfold appendUsage addJobCost
  cases receipt.jobId with
  | none => exact ⟨rfl, rfl⟩
  | some jobId =>
    simp only
    split
    · exact ⟨rfl, rfl⟩
    · split <;> exact ⟨rfl, rfl⟩

lemma appendUsage_jobs (db : Db) (receipt : Receipt) (row : Usage) : (appendUsage arithmetic db receipt row).jobs = db.jobs := by
  unfold appendUsage addJobCost
  cases receipt.jobId with
  | none => rfl
  | some jobId =>
    simp only
    split
    · rfl
    · split <;> rfl

/-- A receipt that books its own cost keeps the ledger backed. -/
lemma appendUsage_backed {db : Db} {receipt : Receipt} {row : Usage} (h : Backed .exact db) (hjobs : row.jobId = receipt.jobId)
    (hcost : row.knownCost = receipt.addedCost) : Backed .exact (appendUsage .exact db receipt row) := by
  obtain ⟨husage, harchive⟩ := @appendUsage_usage .exact db receipt row
  intro jobId hjob hledger
  have hknown : jobKnown .exact (appendUsage .exact db receipt row) jobId = jobKnown .exact db jobId + jobCost jobId row := by
    rw [← jobKnown_append]
    simp only [jobKnown, husage, harchive]
  rw [appendUsage_spent db receipt row hjob, hknown, jobCost, hjobs, hcost]
  by_cases hmine : receipt.jobId = some jobId
  · rw [if_pos hmine, if_pos hmine]
    by_cases hbefore : InLedger db jobId
    · rw [if_pos hbefore, h jobId hjob hbefore]
    · rw [if_neg hbefore, jobKnown_eq_zero hbefore]
  · have hbefore : InLedger db jobId := by
      obtain hreceipt | harchived := hledger
      · rw [hasReceipt_iff, husage] at hreceipt
        obtain ⟨usage, hmem, hjob'⟩ := hreceipt
        obtain hold | rfl := mem_append.mp hmem
        · exact .inl (hasReceipt_iff.mpr ⟨usage, hold, hjob'⟩)
        · exact absurd (hjobs.symm.trans hjob') hmine
      · rw [Db.hasArchive, harchive] at harchived
        exact .inr harchived
    rw [if_neg hmine, if_neg hmine, h jobId hjob hbefore, add_zero]

/-! ### Completions -/

/-- Item costs are booked only for jobs the ledger does not know. -/
lemma addItemCost_backed {db : Db} (h : Backed .exact db) (jobId : String) (cost : ℚ) :
    Backed .exact (addItemCost .exact db jobId cost) := by
  unfold addItemCost
  split
  · exact h
  · next houtside =>
    intro other hother hledger
    have hledger : InLedger db other := hledger
    have hne : other ≠ jobId := by
      rintro rfl
      rw [Bool.or_eq_true] at houtside
      exact houtside hledger
    rw [jobKnown_setSpent, ← h other hother hledger]
    simp [Db.setSpent, hne]

lemma settleItem_backed {db : Db} (h : Backed .exact db) (jobId : String) (call : Jobs.Db × Bool) (counted : Bool) (cost : ℚ) :
    Backed .exact (settleItem .exact db jobId call counted cost) := by
  unfold settleItem
  simp only
  split
  · exact addItemCost_backed (h.of_jobs call.1) jobId cost
  · exact h.of_jobs call.1

/-! ### Retention -/

lemma mem_addToArchive {archive : Table Archive.key} {row other : Archive} (h : other ∈ addToArchive arithmetic archive row) :
    (∃ before ∈ archive, before.jobId = other.jobId) ∨ other.jobId = row.jobId := by
  unfold addToArchive at h
  split at h
  · next inserted hinserted =>
    obtain hold | rfl := (Table.mem_insert hinserted).mp h
    · exact .inl ⟨other, hold, rfl⟩
    · exact .inr rfl
  · obtain ⟨before, hbefore, rfl⟩ := Table.mem_update.mp h
    refine .inl ⟨before, hbefore, ?_⟩
    unfold Table.revise
    split <;> rfl

/-- Archiving adds the cost to its job, in a new row or an old one. -/
lemma addToArchive_total (archive : Table Archive.key) (row : Archive) (jobId : String) :
    (addToArchive .exact archive row).total (fun archive => if archive.jobId = jobId then archive.cost else 0) =
      archive.total (fun archive => if archive.jobId = jobId then archive.cost else 0) +
        if row.jobId = jobId then row.cost else 0 := by
  unfold addToArchive
  split
  · next inserted hinserted => rw [Table.total_insert hinserted]
  · next hconflict =>
    have hmem : row.key ∈ archive.rows.map Archive.key := by
      by_contra hfresh
      simp [Table.insert, hfresh] at hconflict
    obtain ⟨stored, hstored, hkey⟩ := List.mem_map.mp hmem
    have hjob : stored.jobId = row.jobId := congrArg Prod.fst hkey
    have hset : ∀ other : Archive, ({ other with cost := other.cost + row.cost } : Archive).key = other.key := fun _ => rfl
    have hmatching : ∀ other : Archive, (other.key == row.key) = true ↔ other.key = stored.key := by
      intro other
      rw [hkey, beq_iff_eq]
    have htotal := Table.total_update_one (Table.mem_iff.mpr hstored) hmatching hset
      fun archive => if archive.jobId = jobId then archive.cost else 0
    refine add_right_cancel (htotal.trans ?_)
    simp only [hjob]
    by_cases hmine : row.jobId = jobId
    · simp only [hmine, if_true]
      ring
    · simp only [hmine, if_false, add_zero]

/-- A receipt of known cost moves to the archive of its job. -/
lemma moveToArchive_backed {db : Db} {id : Nat} (h : Backed .exact db)
    (hknown : ∀ usage ∈ db.usage.rows, usage.id = id → usage.costSource ≠ .unknown) : Backed .exact (moveToArchive .exact db id) := by
  unfold moveToArchive
  cases hfound : db.usage.rows.find id with
  | none => exact h
  | some usage =>
    obtain ⟨hmem, hid⟩ := Table.find_eq_some hfound
    have hcost : usage.knownCost = usage.cost := if_neg (hknown usage hmem hid)
    intro jobId hjob hledger
    have hbefore : InLedger db jobId := by
      obtain hreceipt | harchived := hledger
      · obtain ⟨other, hother, hother_job⟩ := hasReceipt_iff.mp hreceipt
        exact .inl (hasReceipt_iff.mpr ⟨other, (Table.mem_delete.mp hother).1, hother_job⟩)
      · obtain ⟨archive, harchive, rfl⟩ := hasArchive_iff.mp harchived
        obtain ⟨before, hbefore, hsame⟩ | hnew := mem_addToArchive harchive
        · exact .inr (hasArchive_iff.mpr ⟨before, hbefore, hsame⟩)
        · -- the archive row of no job is not this job's
          refine .inl (hasReceipt_iff.mpr ⟨usage, hmem, ?_⟩)
          cases husage : usage.jobId with
          | none => simp [archiveOf, husage, hjob] at hnew
          | some other => simp [hnew, archiveOf, husage]
    have hmoved : (if (archiveOf usage).jobId = jobId then (archiveOf usage).cost else 0) =
        if usage.jobId = some jobId then usage.knownCost else 0 := by
      rw [hcost]
      cases husage : usage.jobId with
      | none => simp [archiveOf, husage, Ne.symm hjob]
      | some other => simp [archiveOf, husage]
    have hmatching : ∀ other : Usage, (other.id == id) = true ↔ other.id = usage.id := by
      intro other
      rw [hid, beq_iff_eq]
    have hdeleted := Table.total_delete_one hmem hmatching
      fun usage => if usage.jobId = some jobId then usage.knownCost else 0
    change db.spent jobId = _
    rw [h jobId hjob hbefore]
    simp only [jobKnown_exact, addToArchive_total, hmoved, UsageTable.delete, ← hdeleted]
    ring

lemma moveToArchive_subset {db : Db} {id : Nat} {usage : Usage} (h : usage ∈ (moveToArchive arithmetic db id).usage.rows) :
    usage ∈ db.usage.rows := by
  unfold moveToArchive at h
  split at h
  · exact h
  · exact (Table.mem_delete.mp h).1

lemma foldl_moveToArchive_backed {ids : List Nat} {db : Db} (h : Backed .exact db)
    (hknown : ∀ id ∈ ids, ∀ usage ∈ db.usage.rows, usage.id = id → usage.costSource ≠ .unknown) :
    Backed .exact (ids.foldl (moveToArchive .exact) db) := by
  induction ids generalizing db with
  | nil => exact h
  | cons id rest ih =>
    apply ih (moveToArchive_backed h (hknown id List.mem_cons_self))
    intro other hother usage husage
    exact hknown other (List.mem_cons_of_mem id hother) usage (moveToArchive_subset husage)

/-- Retention only takes receipts it may remove. -/
lemma cleanupIds_removable {db : Db} {policy : RetentionPolicy} {cutoff monthStart id : Nat}
    (h : id ∈ cleanupIds db policy cutoff monthStart) {usage : Usage} (husage : usage ∈ db.usage.rows)
    (hid : usage.id = id) : removable cutoff monthStart usage = true := by
  obtain ⟨hids, -⟩ := List.mem_filter.mp h
  obtain ⟨other, hother, hother_id⟩ := List.mem_map.mp hids
  have hcandidate := List.mem_of_mem_take hother
  rw [List.mem_insertionSort, List.mem_filter] at hcandidate
  rw [Table.eq_of_key_eq husage hcandidate.1 (hid.trans hother_id.symm)]
  exact hcandidate.2

lemma cleanup_backed {db : Db} (h : Backed .exact db) (dryRun : Bool) (policy : RetentionPolicy) (cutoff monthStart : Nat) :
    Backed .exact (cleanup .exact db dryRun policy cutoff monthStart) := by
  unfold cleanup
  split
  · exact h
  · apply foldl_moveToArchive_backed h
    intro id hid usage husage husage_id
    have hremovable := cleanupIds_removable hid husage husage_id
    simp only [removable, Bool.and_eq_true, bne_iff_ne] at hremovable
    exact hremovable.1.1.2

/-! ### Receipts that stay -/

/-- A receipt bound to an operation or a batch item is never removed. -/
def Usage.bound (usage : Usage) : Bool := usage.operationId.isSome || usage.batchItemId.isSome

lemma foldl_moveToArchive_keeps {ids : List Nat} {db : Db} {usage : Usage} (husage : usage ∈ db.usage.rows)
    (hids : usage.id ∉ ids) : usage ∈ (ids.foldl (moveToArchive arithmetic) db).usage.rows := by
  induction ids generalizing db with
  | nil => exact husage
  | cons id rest ih =>
    rw [List.mem_cons, not_or] at hids
    refine ih ?_ hids.2
    unfold moveToArchive
    split
    · exact husage
    · exact Table.mem_delete.mpr ⟨husage, by simp [hids.1]⟩

lemma appendUsage_keeps {db : Db} {receipt : Receipt} {row usage : Usage} (husage : usage ∈ db.usage.rows) :
    usage ∈ (appendUsage arithmetic db receipt row).usage.rows := by
  rw [(appendUsage_usage db receipt row).1]
  exact mem_append.mpr (.inl husage)

/-! ### One call -/

def Receipt.nonnegative (receipt : Receipt) : Prop :=
  (∀ cost ∈ receipt.actualCost, 0 ≤ cost) ∧ ∀ cost ∈ receipt.estimatedCost, 0 ≤ cost

def Op.nonnegative : Op → Prop
  | .record receipt | .recordBatchOnce receipt _ => receipt.nonnegative
  | .completeItem _ _ cost _ | .recordLateCompletion _ _ cost _ | .completeBatchItem _ _ cost => 0 ≤ cost
  | .cleanup _ _ _ _ => True

/-- The stored row is counted with the cost that was added to the job. -/
lemma usageOf_knownCost {receipt : Receipt} (h : receipt.nonnegative) :
    (usageOf receipt receipt.actualCost).knownCost = receipt.addedCost ∧
      (usageOf receipt (receipt.actualCost.map (max 0))).knownCost = receipt.addedCost := by
  unfold Usage.knownCost Receipt.addedCost Usage.cost usageOf
  obtain ⟨hactual, hestimated⟩ := h
  cases hsource : receipt.costSource with
  | unknown => exact ⟨rfl, rfl⟩
  | providerReported | estimated =>
    cases hcost : receipt.actualCost with
    | some cost =>
      have hle := hactual cost hcost
      simp [hle]
    | none =>
      cases hguess : receipt.estimatedCost with
      | some cost => simp
      | none => simp

/-- A receipt call changes nothing, or appends a row that books its cost. -/
lemma step_record_cases (db : Db) (receipt : Receipt) :
    step arithmetic db (.record receipt) = db ∨
      step arithmetic db (.record receipt) = appendUsage arithmetic db receipt (usageOf receipt receipt.actualCost) := by
  unfold step record
  simp only
  split
  · next hcall =>
    split at hcall
    · obtain ⟨rfl, -⟩ := Prod.mk.inj (Except.ok.inj hcall)
      exact .inl rfl
    · obtain ⟨_, -, hcall⟩ := bind_eq_ok.mp hcall
      obtain ⟨rfl, -⟩ := Prod.mk.inj (Except.ok.inj hcall)
      exact .inr rfl
  · exact .inl rfl

/-- The receipt `record_batch_once` stores. -/
def Receipt.ofBatchItem (receipt : Receipt) (batchItemId : String) : Receipt :=
  { receipt with operationId := none, batchItemId := some batchItemId }

lemma step_recordBatchOnce_cases (db : Db) (receipt : Receipt) (batchItemId : String) :
    step arithmetic db (.recordBatchOnce receipt batchItemId) = db ∨
      step arithmetic db (.recordBatchOnce receipt batchItemId) = appendUsage arithmetic db (receipt.ofBatchItem batchItemId)
        (usageOf (receipt.ofBatchItem batchItemId) (receipt.actualCost.map (max 0))) := by
  unfold step
  simp only
  split
  · next hcall =>
    unfold recordBatchOnce at hcall
    simp only at hcall
    split at hcall
    · obtain ⟨rfl, -⟩ := Prod.mk.inj (Except.ok.inj hcall)
      exact .inl rfl
    · obtain ⟨_, -, hcall⟩ := bind_eq_ok.mp hcall
      obtain ⟨rfl, -⟩ := Prod.mk.inj (Except.ok.inj hcall)
      exact .inr rfl
  · exact .inl rfl

theorem step_backed {db : Db} {op : Op} (h : Backed .exact db) (hcosts : op.nonnegative) : Backed .exact (step .exact db op) := by
  cases op with
  | record receipt =>
    obtain hsame | hstored := step_record_cases db receipt
    · rw [hsame]
      exact h
    · rw [hstored]
      exact appendUsage_backed h rfl (usageOf_knownCost hcosts).1
  | recordBatchOnce receipt batchItemId =>
    obtain hsame | hstored := step_recordBatchOnce_cases db receipt batchItemId
    · rw [hsame]
      exact h
    · rw [hstored]
      have hcosts' : (receipt.ofBatchItem batchItemId).nonnegative := hcosts
      exact appendUsage_backed h rfl (usageOf_knownCost hcosts').2
  | completeItem jobId itemId cost workerId => exact settleItem_backed h _ _ _ _
  | recordLateCompletion jobId itemId cost workerId => exact settleItem_backed h _ _ _ _
  | completeBatchItem jobId itemId cost => exact settleItem_backed h _ _ _ _
  | cleanup dryRun policy cutoff monthStart => exact cleanup_backed h _ _ _ _

lemma settleItem_usage (db : Db) (jobId : String) (call : Jobs.Db × Bool) (counted : Bool) (cost : ℚ) :
    (settleItem arithmetic db jobId call counted cost).usage = db.usage := by
  unfold settleItem addItemCost
  simp only
  split
  · split <;> rfl
  · rfl

lemma settleItem_jobs (db : Db) (jobId : String) (call : Jobs.Db × Bool) (counted : Bool) (cost : ℚ) :
    (settleItem arithmetic db jobId call counted cost).jobs = call.1 := by
  unfold settleItem addItemCost
  simp only
  split
  · split <;> rfl
  · rfl

/-- A bound receipt outlives every call. -/
lemma step_keeps {db : Db} (op : Op) {usage : Usage} (husage : usage ∈ db.usage.rows) (hbound : usage.bound = true) :
    usage ∈ (step arithmetic db op).usage.rows := by
  cases op with
  | record receipt =>
    obtain hsame | hstored := step_record_cases db receipt
    · rwa [hsame]
    · rw [hstored]
      exact appendUsage_keeps husage
  | recordBatchOnce receipt batchItemId =>
    obtain hsame | hstored := step_recordBatchOnce_cases db receipt batchItemId
    · rwa [hsame]
    · rw [hstored]
      exact appendUsage_keeps husage
  | completeItem jobId itemId cost workerId =>
    change usage ∈ (settleItem _ _ _ _ _ _).usage.rows
    rwa [settleItem_usage]
  | recordLateCompletion jobId itemId cost workerId =>
    change usage ∈ (settleItem _ _ _ _ _ _).usage.rows
    rwa [settleItem_usage]
  | completeBatchItem jobId itemId cost =>
    change usage ∈ (settleItem _ _ _ _ _ _).usage.rows
    rwa [settleItem_usage]
  | cleanup dryRun policy cutoff monthStart =>
    change usage ∈ (cleanup arithmetic db dryRun policy cutoff monthStart).usage.rows
    unfold cleanup
    split
    · exact husage
    · apply foldl_moveToArchive_keeps husage
      intro hid
      have hremovable := cleanupIds_removable hid husage rfl
      simp only [removable, Bool.and_eq_true, Option.isNone_iff_eq_none] at hremovable
      simp [Usage.bound, hremovable.1.2, hremovable.2] at hbound

variable (arithmetic) in
lemma run_keeps {db : Db} (ops : List Op) {usage : Usage} (husage : usage ∈ db.usage.rows) (hbound : usage.bound = true) :
    usage ∈ (Runs.run (step arithmetic) db ops).usage.rows := by
  induction ops generalizing db with
  | nil => exact husage
  | cons op rest ih => exact ih (step_keeps op husage hbound)

/-! ### Replays -/

/-- After `record` returned, the operation has a receipt. -/
lemma record_stored {db : Db} {receipt : Receipt} (hoperation : receipt.operationId.isSome = true)
    (h : (record arithmetic db receipt).isOk = true) :
    ∃ usage ∈ (step arithmetic db (.record receipt)).usage.rows, usage.operationId = receipt.operationId := by
  cases hcall : record arithmetic db receipt with
  | error error => simp [hcall, Except.isOk, Except.toBool] at h
  | ok result =>
    obtain ⟨db', id⟩ := result
    rw [step, hcall]
    simp only
    unfold record at hcall
    simp only [hoperation, if_true] at hcall
    split at hcall
    · next existing hfound =>
      obtain ⟨rfl, -⟩ := Prod.mk.inj (Except.ok.inj hcall)
      exact ⟨existing, List.mem_of_find?_eq_some hfound, by simpa using List.find?_some hfound⟩
    · obtain ⟨_, -, hcall⟩ := bind_eq_ok.mp hcall
      obtain ⟨rfl, -⟩ := Prod.mk.inj (Except.ok.inj hcall)
      refine ⟨{ usageOf receipt receipt.actualCost with id := db.usage.lastId + 1 }, ?_, rfl⟩
      rw [(appendUsage_usage db receipt _).1]
      exact mem_append.mpr (.inr rfl)

/-- An operation with a receipt is not recorded again. -/
lemma record_replay {db : Db} {usage : Usage} {receipt : Receipt} (husage : usage ∈ db.usage.rows)
    (hsame : usage.operationId = receipt.operationId) (hoperation : receipt.operationId.isSome = true) :
    step arithmetic db (.record receipt) = db := by
  have hfound : ∃ existing, (db.usage.rows.rows.find? fun usage => usage.operationId == receipt.operationId) =
      some existing := by
    rw [← Option.isSome_iff_exists, List.find?_isSome]
    exact ⟨usage, husage, by simp [hsame]⟩
  obtain ⟨existing, hexisting⟩ := hfound
  rw [step, record, if_pos hoperation, hexisting]

/-- After `record_batch_once` returned, the batch item has a receipt. -/
lemma recordBatchOnce_stored {db : Db} {receipt : Receipt} {batchItemId : String}
    (h : (recordBatchOnce arithmetic db receipt batchItemId).isOk = true) :
    ∃ usage ∈ (step arithmetic db (.recordBatchOnce receipt batchItemId)).usage.rows, usage.batchItemId = some batchItemId := by
  cases hcall : recordBatchOnce arithmetic db receipt batchItemId with
  | error error => simp [hcall, Except.isOk, Except.toBool] at h
  | ok result =>
    obtain ⟨db', stored⟩ := result
    rw [step, hcall]
    simp only
    unfold recordBatchOnce at hcall
    simp only at hcall
    split at hcall
    · next hrecorded =>
      obtain ⟨rfl, -⟩ := Prod.mk.inj (Except.ok.inj hcall)
      simpa [batchItemRecorded, Table.any, Table.mem_iff] using hrecorded
    · obtain ⟨_, -, hcall⟩ := bind_eq_ok.mp hcall
      obtain ⟨rfl, -⟩ := Prod.mk.inj (Except.ok.inj hcall)
      refine ⟨{ usageOf (receipt.ofBatchItem batchItemId) (receipt.actualCost.map (max 0)) with
        id := db.usage.lastId + 1 }, ?_, rfl⟩
      rw [(appendUsage_usage db _ _).1]
      exact mem_append.mpr (.inr rfl)

lemma recordBatchOnce_replay {db : Db} {usage : Usage} {batchItemId : String} (receipt : Receipt)
    (husage : usage ∈ db.usage.rows) (hsame : usage.batchItemId = some batchItemId) :
    step arithmetic db (.recordBatchOnce receipt batchItemId) = db := by
  have hrecorded : batchItemRecorded db (some batchItemId) = true := by
    rw [batchItemRecorded, Option.isSome_some, Bool.true_and]
    exact Table.any_of_mem husage (by simp [hsame])
  simp only [step, recordBatchOnce, hrecorded, if_true]
  rfl

/-- Where no addition rounds, every run keeps the totals of the jobs in the ledger at what the ledger says. In any
arithmetic, a receipt that was recorded once is never recorded again. -/
theorem spent_ledger_backed {start : Db} (hstart : Backed .exact start) {ops : List Op} (hcosts : ∀ op ∈ ops, op.nonnegative) :
    Backed .exact (Runs.run (step .exact) start ops) ∧ ∀ arithmetic : Arithmetic,
    (∀ earlier receipt later, ops = earlier ++ .record receipt :: later → receipt.operationId.isSome = true →
      (record arithmetic (Runs.run (step arithmetic) start earlier) receipt).isOk = true → ∀ replay : Receipt,
      replay.operationId = receipt.operationId →
      step arithmetic (Runs.run (step arithmetic) start ops) (.record replay) = Runs.run (step arithmetic) start ops) ∧
    (∀ earlier receipt batchItemId later, ops = earlier ++ .recordBatchOnce receipt batchItemId :: later →
      (recordBatchOnce arithmetic (Runs.run (step arithmetic) start earlier) receipt batchItemId).isOk = true → ∀ replay : Receipt,
      step arithmetic (Runs.run (step arithmetic) start ops) (.recordBatchOnce replay batchItemId) =
        Runs.run (step arithmetic) start ops) := by
  refine ⟨?_, fun arithmetic => ⟨?_, ?_⟩⟩
  · apply Runs.invariant_of_along (fun db op h hop => step_backed h hop) hstart
    exact Runs.Along.of_forall hcosts fun _ _ h => h
  · intro earlier receipt later hops hoperation haccepted replay hsame
    obtain ⟨usage, husage, hstored⟩ := record_stored hoperation haccepted
    have hbound : usage.bound = true := by simp [Usage.bound, hstored, hoperation]
    have hkept := run_keeps arithmetic later husage hbound
    rw [← Runs.run_cons, ← Runs.run_append, ← hops] at hkept
    exact record_replay hkept (hstored.trans hsame.symm) (by rw [hsame]; exact hoperation)
  · intro earlier receipt batchItemId later hops haccepted replay
    obtain ⟨usage, husage, hstored⟩ := recordBatchOnce_stored haccepted
    have hbound : usage.bound = true := by simp [Usage.bound, hstored]
    have hkept := run_keeps arithmetic later husage hbound
    rw [← Runs.run_cons, ← Runs.run_append, ← hops] at hkept
    exact recordBatchOnce_replay replay hkept hstored

lemma backed_of_empty {db : Db} (husage : db.usage.rows.rows = []) (harchive : db.archive.rows = []) : Backed arithmetic db := by
  intro jobId _ hledger
  simp [InLedger, Db.hasReceipt, Db.hasArchive, Table.any, husage, harchive] at hledger

/-- A job whose items were estimated at three, without receipts. -/
def estimatedJob : Db where
  jobs := {
    jobs := ⟨[{ id := "job", kind := .analysis, state := { status := .running } }], by decide⟩
    items := ⟨[{ id := "item", jobId := "job", state := { status := .running } }], by decide⟩
    photos := Table.empty }
  spent := fun _ => 3
  usage := .empty
  archive := Table.empty

/-- Two receipts, the completion of the item between them, and a cleanup that archives the first. -/
def paidRun : List Op := [
  .record { jobId := some "job", actualCost := some 1, costSource := .providerReported, startedAt := 5 },
  .completeItem "job" "item" 2 none,
  .record { jobId := some "job", estimatedCost := some 4, costSource := .estimated, startedAt := 50 },
  .cleanup false { dryRun := false } 10 10]

theorem spent_ledger_backed_archived :
    InLedger (Runs.run (step .exact) estimatedJob paidRun) "job" ∧
    (Runs.run (step .exact) estimatedJob paidRun).spent "job" = jobKnown .exact (Runs.run (step .exact) estimatedJob paidRun) "job" := by
  have hcosts : ∀ op ∈ paidRun, op.nonnegative := by
    intro op hop
    simp only [paidRun, List.mem_cons, List.not_mem_nil, or_false] at hop
    obtain rfl | rfl | rfl | rfl := hop <;> simp [Op.nonnegative, Receipt.nonnegative]
  have hledger : InLedger (Runs.run (step .exact) estimatedJob paidRun) "job" := by decide
  exact ⟨hledger, (spent_ledger_backed (backed_of_empty rfl rfl) hcosts).1 "job" (by decide) hledger⟩

/-- Receipts of 0.1, 0.2 and 0.3. -/
def roundedRun : List Op := [
  .record { jobId := some "job", actualCost := some (nearestDouble (1 / 10)), costSource := .providerReported },
  .record { jobId := some "job", actualCost := some (nearestDouble (2 / 10)), costSource := .providerReported },
  .record { jobId := some "job", actualCost := some (nearestDouble (3 / 10)), costSource := .providerReported }]

/-- The running total is 0.6000000000000001, and the sum 0.6. -/
theorem spent_differs_in_binary64 : Backed .binary64 estimatedJob ∧ (∀ op ∈ roundedRun, op.nonnegative) ∧
    InLedger (Runs.run (step .binary64) estimatedJob roundedRun) "job" ∧
    (Runs.run (step .binary64) estimatedJob roundedRun).spent "job" = 1351079888211149 / 2 ^ 51 ∧
    jobKnown .binary64 (Runs.run (step .binary64) estimatedJob roundedRun) "job" = nearestDouble (6 / 10) ∧
    ¬ Backed .binary64 (Runs.run (step .binary64) estimatedJob roundedRun) := by
  have hcosts : ∀ op ∈ roundedRun, op.nonnegative := by
    have htenth : 0 ≤ nearestDouble (1 / 10) ∧ 0 ≤ nearestDouble (2 / 10) ∧ 0 ≤ nearestDouble (3 / 10) := by decide +kernel
    intro op hop
    simp only [roundedRun, List.mem_cons, List.not_mem_nil, or_false] at hop
    obtain rfl | rfl | rfl := hop
    · exact ⟨fun _ hcost => Option.some.inj hcost ▸ htenth.1, nofun⟩
    · exact ⟨fun _ hcost => Option.some.inj hcost ▸ htenth.2.1, nofun⟩
    · exact ⟨fun _ hcost => Option.some.inj hcost ▸ htenth.2.2, nofun⟩
  have hledger : InLedger (Runs.run (step .binary64) estimatedJob roundedRun) "job" := by decide +kernel
  have hspent : (Runs.run (step .binary64) estimatedJob roundedRun).spent "job" = 1351079888211149 / 2 ^ 51 := by decide +kernel
  have hknown : jobKnown .binary64 (Runs.run (step .binary64) estimatedJob roundedRun) "job" = nearestDouble (6 / 10) := by
    decide +kernel
  have hne : (1351079888211149 / 2 ^ 51 : ℚ) ≠ nearestDouble (6 / 10) := by decide +kernel
  refine ⟨backed_of_empty rfl rfl, hcosts, hledger, hspent, hknown, fun hbacked => hne ?_⟩
  rw [← hspent, hbacked "job" (by decide) hledger, hknown]

end InkTime.Ledger
