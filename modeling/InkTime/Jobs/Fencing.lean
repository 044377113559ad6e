import InkTime.Jobs.Counters

/-!
# Leases

Workers race with each other, with the sweeper and with their own late reports. Only a claim makes an
item running, the row then carries the claimant, and every settlement checks both. So a claim is
settled at most once, and only by its own worker.
-/

namespace InkTime.Jobs

def isRunning (itemId : String) (db : Db) : Bool :=
  db.items.any fun item => item.id == itemId && item.state.status == .running

/-- The item is in a status that `completed_items` or `failed_items` counts. -/
def isCounted (itemId : String) (db : Db) : Bool :=
  db.items.any fun item => item.id == itemId && item.state.status.counted

/-- The call makes the item running. -/
def enters (itemId : String) (db : Db) (op : Op) : Bool := !isRunning itemId db && isRunning itemId (step db op)

/-- The call takes the item out of `running`. -/
def leaves (itemId : String) (db : Db) (op : Op) : Bool := isRunning itemId db && !isRunning itemId (step db op)

/-- The item a settlement call names and the worker it carries. -/
def Op.settlement : Op → Option (String × Option String)
  | .completeItem _ itemId workerId => some (itemId, workerId)
  | .recordLateCompletion _ itemId workerId => some (itemId, workerId)
  | .deferItem itemId workerId _ _ => some (itemId, workerId)
  | .failItem _ itemId _ _ workerId _ => some (itemId, workerId)
  | _ => none

def Op.claimant : Op → Option String
  | .claim _ workerId _ _ => some workerId
  | _ => none

/-- Calls of the queue: claims, leases and settlements. -/
def Op.ofQueue : Op → Bool
  | .claim _ _ _ _ | .renewLeases _ _ _ | .recoverStale _ => true
  | op => op.settlement.isSome

/-- Calls that put settled items back into the queue. -/
def Op.revives : Op → Bool
  | .retryFailed _ _ _ | .reopenBatchJob _ => true
  | _ => false

lemma isRunning_iff {itemId : String} {db : Db} :
    isRunning itemId db = true ↔ ∃ item ∈ db.items, item.id = itemId ∧ item.state.status = .running := by
  simp [isRunning, Table.any, Table.mem_iff]

lemma isCounted_iff {itemId : String} {db : Db} :
    isCounted itemId db = true ↔ ∃ item ∈ db.items, item.id = itemId ∧ item.state.status.counted = true := by
  simp [isCounted, Table.any, Table.mem_iff]

/-! ### Entering `running` -/

/-- A running item was running before, with the same worker, or was claimed just now. -/
lemma running_of_move {db db' : Db} {item : Item} {op : Op} {state : ItemState} (hmove : ItemMove db db' item op state)
    (hrunning : state.status = .running) :
    (item.state.status = .running ∧ state.workerId = item.state.workerId) ∨
      (item.state.status = .pending ∧ ∃ workerId limit env, op = .claim item.jobId workerId limit env ∧
        state.workerId = some workerId) := by
  cases hmove with
  | stay | renewed => exact .inl ⟨hrunning, rfl⟩
  | heldBack hpending =>
    rw [hpending] at hrunning
    cases hrunning
  | claimed _ _ _ hpending => exact .inr ⟨hpending, _, _, _, rfl, rfl⟩
  | completed | dropped | late | deferred | failed | requeued | givenUp | recovered | cancelled | quarantined |
    abandoned | retried | reopened | batchCompleted | batchFailed | batchCancelled => cases hrunning

lemma running_of_step {db : Db} {op : Op} {after : Item} (hafter : after ∈ (step db op).items)
    (hrunning : after.state.status = .running) :
    ∃ before ∈ db.items, before.id = after.id ∧
      ((before.state.status = .running ∧ after.state.workerId = before.state.workerId) ∨
        (before.state.status = .pending ∧ ∃ workerId limit env, op = .claim before.jobId workerId limit env ∧
          after.state.workerId = some workerId)) := by
  obtain hmoved | ⟨jobId, kind, hcreated⟩ := step_cases db op
  · obtain ⟨before, hbefore, state, rfl, hmove⟩ := hmoved.items after hafter
    exact ⟨before, hbefore, rfl, running_of_move hmove hrunning⟩
  · obtain hold | ⟨-, hpending, -⟩ := hcreated.items after hafter
    · exact ⟨after, hold, rfl, .inl ⟨hrunning, rfl⟩⟩
    · rw [hpending] at hrunning
      cases hrunning

lemma enters_claim {itemId : String} {db : Db} {op : Op} (h : enters itemId db op = true) :
    ∃ jobId workerId limit env, op = .claim jobId workerId limit env := by
  simp only [enters, Bool.and_eq_true, Bool.not_eq_true'] at h
  obtain ⟨hbefore, hafter⟩ := h
  obtain ⟨after, hmem, hid, hrunning⟩ := isRunning_iff.mp hafter
  obtain ⟨before, hbefore_mem, hbefore_id, ⟨hwas, -⟩ | ⟨-, workerId, limit, env, rfl, -⟩⟩ :=
    running_of_step hmem hrunning
  · rw [isRunning_iff.mpr ⟨before, hbefore_mem, hbefore_id.trans hid, hwas⟩] at hbefore
    cases hbefore
  · exact ⟨before.jobId, workerId, limit, env, rfl⟩

/-! ### The last claimant -/

/-- The tables, with the worker whose claim last made the item running. -/
def watch (itemId : String) (seen : Db × Option String) (op : Op) : Db × Option String :=
  (step seen.1 op, if enters itemId seen.1 op then op.claimant else seen.2)

def lastClaimant (itemId : String) (photos : Table Photo.id) (ops : List Op) : Option String :=
  (Runs.run (watch itemId) (Db.opening photos, none) ops).2

lemma watch_tables (itemId : String) (seen : Db × Option String) (ops : List Op) :
    (Runs.run (watch itemId) seen ops).1 = Runs.run step seen.1 ops := by
  induction ops generalizing seen with
  | nil => rfl
  | cons op rest ih => exact ih (watch itemId seen op)

/-- A running item carries its last claimant. -/
def Attributed (itemId : String) (seen : Db × Option String) : Prop :=
  ∀ item ∈ seen.1.items, item.id = itemId → item.state.status = .running → item.state.workerId = seen.2

lemma watch_attributed {itemId : String} (seen : Db × Option String) (op : Op) (h : Attributed itemId seen) :
    Attributed itemId (watch itemId seen op) := by
  intro after hafter hid hrunning
  obtain ⟨before, hbefore, hbefore_id, hcase⟩ := running_of_step hafter hrunning
  obtain ⟨hwas, hworker⟩ | ⟨hpending, workerId, limit, env, rfl, hworker⟩ := hcase
  · have hstays : enters itemId seen.1 op = false := by
      simp [enters, isRunning_iff.mpr ⟨before, hbefore, hbefore_id.trans hid, hwas⟩]
    rw [hworker, h before hbefore (hbefore_id.trans hid) hwas]
    simp [watch, hstays]
  · -- ids are unique, so the pending row is the only one that could have been running
    have hidle : isRunning itemId seen.1 = false := by
      by_contra hother
      obtain ⟨other, hother_mem, hother_id, hother_running⟩ := isRunning_iff.mp (by simpa using hother)
      rw [Table.eq_of_key_eq hother_mem hbefore (hother_id.trans (hbefore_id.trans hid).symm), hpending]
        at hother_running
      cases hother_running
    have hnow : isRunning itemId (step seen.1 (.claim before.jobId workerId limit env)) = true :=
      isRunning_iff.mpr ⟨after, hafter, hid, hrunning⟩
    have hentered : enters itemId seen.1 (.claim before.jobId workerId limit env) = true := by
      simp [enters, hidle, hnow]
    simp [watch, hentered, Op.claimant, hworker]

lemma run_attributed (itemId : String) (photos : Table Photo.id) (ops : List Op) {item : Item}
    (hitem : item ∈ (Runs.run step (Db.opening photos) ops).items) (hid : item.id = itemId)
    (hrunning : item.state.status = .running) : item.state.workerId = lastClaimant itemId photos ops := by
  have hstart : Attributed itemId (Db.opening photos, none) := by
    intro item hitem
    cases hitem
  have hrun := Runs.invariant_of_run (fun seen op => watch_attributed seen op) hstart ops
  refine hrun item ?_ hid hrunning
  rw [watch_tables]
  exact hitem

/-! ### Settlements -/

lemma ownedBy_some {workerId : String} {item : Item} (h : ownedBy (some workerId) item = true) :
    item.state.workerId = some workerId := by
  simpa [ownedBy] using h

/-- A settlement changes the item it names only while that runs under the worker it carries. -/
lemma settlement_fenced {db db' : Db} {op : Op} {item : Item} {state : ItemState} {workerId : String}
    (hop : op.settlement = some (item.id, some workerId)) (hmove : ItemMove db db' item op state)
    (hchanged : state ≠ item.state) : item.state.status = .running ∧ item.state.workerId = some workerId := by
  cases hmove with
  | stay => exact absurd rfl hchanged
  | heldBack _ hother =>
    simp only [Op.settlement, Option.some.injEq, Prod.mk.injEq] at hop
    exact absurd hop.1.symm hother
  | completed hrunning howner | dropped hrunning howner | late hrunning howner | deferred hrunning howner
  | failed hrunning howner | requeued hrunning howner =>
    simp only [Op.settlement, Option.some.injEq, Prod.mk.injEq] at hop
    obtain ⟨-, rfl⟩ := hop
    exact ⟨hrunning, ownedBy_some howner⟩
  | renewed | claimed | givenUp | recovered | cancelled | quarantined | abandoned | retried | reopened
  | batchCompleted | batchFailed | batchCancelled => cases hop

lemma settlement_not_create {op : Op} {settled : String × Option String} (h : op.settlement = some settled) (db : Db) :
    Moved db op (step db op) := by
  cases op with
  | completeItem jobId itemId workerId => exact completeItem_moved db jobId itemId workerId
  | recordLateCompletion jobId itemId workerId => exact recordLateCompletion_moved db jobId itemId workerId
  | deferItem itemId workerId availableAt deferPending =>
    exact deferItem_moved db itemId workerId availableAt deferPending
  | failItem jobId itemId maxAttempts retryInterval workerId now =>
    exact failItem_moved db jobId itemId maxAttempts retryInterval workerId now
  | _ => cases h

/-! ### Counting -/

/-- Without a retry, a counted item stays counted. -/
lemma counted_of_move {db db' : Db} {item : Item} {op : Op} {state : ItemState} (hrevives : op.revives = false)
    (hmove : ItemMove db db' item op state) (hcounted : item.state.status.counted = true) :
    state.status.counted = true := by
  have hnot : ∀ {status}, status.counted = false → item.state.status ≠ status := by
    intro status hstatus heq
    rw [heq, hstatus] at hcounted
    cases hcounted
  cases hmove with
  | stay => exact hcounted
  | renewed h | completed h | dropped h | late h | deferred h | failed h | requeued h => exact absurd h (hnot rfl)
  | heldBack h | claimed _ _ _ h => exact absurd h (hnot rfl)
  | givenUp h | recovered h => exact absurd (stale_running h) (hnot rfl)
  | cancelled h | quarantined h | abandoned h =>
    rw [queued_uncounted h] at hcounted
    cases hcounted
  | batchCompleted h | batchFailed h | batchCancelled h =>
    cases hs : item.state.status <;> simp_all [ItemStatus.unsettled, ItemStatus.counted]
  | retried | reopened => cases hrevives

lemma step_counted {itemId : String} (db : Db) (op : Op) (hrevives : op.revives = false)
    (h : isCounted itemId db = true) : isCounted itemId (step db op) = true := by
  obtain ⟨item, hitem, hid, hcounted⟩ := isCounted_iff.mp h
  obtain hmoved | ⟨jobId, kind, hcreated⟩ := step_cases db op
  · obtain ⟨state, hafter, hmove⟩ := hmoved.item hitem
    exact isCounted_iff.mpr ⟨_, hafter, hid, counted_of_move hrevives hmove hcounted⟩
  · exact isCounted_iff.mpr ⟨item, hcreated.kept item hitem, hid, hcounted⟩

lemma ofQueue_counts {op : Op} (h : op.ofQueue = true) (db : Db) : miscounts db op = false := by
  cases op <;> first | rfl | cases h

lemma run_countersExact {db : Db} {ops : List Op} (h : Accounted db) (hops : ∀ op ∈ ops, op.ofQueue = true) :
    Accounted (Runs.run step db ops) := by
  refine Runs.invariant_of_along ?_ h (Runs.Along.of_forall hops fun _ _ hop => hop)
  rintro db op ⟨howned, hexact⟩ hop
  exact ⟨step_itemsOwned howned op, step_countersExact howned hexact (ofQueue_counts hop db)⟩

/-- In every run, between two calls that take an item out of `running` there is a claim that made it
running again; a settlement that carries a worker changes its item only if the last claim that made
it running was that worker's; and without a retry an item is counted at most once, with the counters
of the queue calls agreeing with the items counted. -/
theorem claims_settled_once (photos : Table Photo.id) (ops : List Op) :
    (∀ itemId earlier op between op' later, ops = earlier ++ op :: (between ++ op' :: later) →
      leaves itemId (Runs.run step (Db.opening photos) earlier) op = true →
      leaves itemId (Runs.run step (Db.opening photos) (earlier ++ op :: between)) op' = true →
      ∃ start jobId workerId limit env rest, between = start ++ .claim jobId workerId limit env :: rest ∧
        enters itemId (Runs.run step (Db.opening photos) (earlier ++ op :: start))
          (.claim jobId workerId limit env) = true) ∧
    (∀ earlier op later itemId workerId, ops = earlier ++ op :: later →
      op.settlement = some (itemId, some workerId) →
      ∀ before ∈ (Runs.run step (Db.opening photos) earlier).items,
      ∀ after ∈ (Runs.run step (Db.opening photos) (earlier ++ [op])).items,
        before.id = itemId → after.id = itemId → after ≠ before →
        lastClaimant itemId photos earlier = some workerId) ∧
    (∀ itemId earlier segment later, ops = earlier ++ (segment ++ later) → (∀ op ∈ segment, op.revives = false) →
      Runs.rises step (isCounted itemId) (Runs.run step (Db.opening photos) earlier) segment ≤ 1) ∧
    ∀ earlier segment later, ops = earlier ++ (segment ++ later) → (∀ op ∈ segment, op.ofQueue = true) →
      CountersExact (Runs.run step (Db.opening photos) earlier) →
      CountersExact (Runs.run step (Db.opening photos) (earlier ++ segment)) := by
  refine ⟨?_, ?_, ?_, ?_⟩
  · intro itemId earlier op between op' later _ hleft hleft'
    simp only [leaves, Bool.and_eq_true, Bool.not_eq_true'] at hleft hleft'
    rw [Runs.run_append, Runs.run_cons] at hleft'
    obtain ⟨start, other, rest, rfl, hbefore, hafter⟩ := Runs.exists_rise hleft.2 hleft'.1
    have hentered : enters itemId (Runs.run step (Db.opening photos) (earlier ++ op :: start)) other = true := by
      rw [Runs.run_append, Runs.run_cons]
      simp [enters, hbefore, hafter]
    obtain ⟨jobId, workerId, limit, env, rfl⟩ := enters_claim hentered
    exact ⟨start, jobId, workerId, limit, env, rest, rfl, hentered⟩
  · intro earlier op later itemId workerId _ hop before hbefore after hafter hid hafter_id hchanged
    obtain rfl := hid
    rw [Runs.run_append] at hafter
    have hmoved := settlement_not_create hop (Runs.run step (Db.opening photos) earlier)
    obtain ⟨state, hmem, hmove⟩ := hmoved.item hbefore
    have hsame : after = { before with state } := Table.eq_of_key_eq hafter hmem hafter_id
    have hstate : state ≠ before.state := fun heq => hchanged (by rw [hsame, heq])
    obtain ⟨hrunning, hworker⟩ := settlement_fenced hop hmove hstate
    rw [← hworker]
    exact (run_attributed before.id photos earlier hbefore rfl hrunning).symm
  · intro itemId earlier segment later _ hsegment
    refine (Runs.rises_le_one (fun db op => step_counted db op) hsegment).trans ?_
    split <;> omega
  · intro earlier segment later _ hsegment hexact
    rw [Runs.run_append]
    have howned : ItemsOwned (Runs.run step (Db.opening photos) earlier) :=
      @Runs.invariant_of_run _ _ step ItemsOwned (fun _ op h => step_itemsOwned h op) _
        (opening_itemsOwned photos) earlier
    exact (run_countersExact ⟨howned, hexact⟩ hsegment).counters

/-- A lease that runs out: the sweeper returns the item, a second worker claims it, the first reports
late and the second completes it. -/
def lateReport : List Op :=
  [.claim "job" "first" 1 {}] ++ .recoverStale 1 :: ([.claim "job" "second" 1 { now := 1, leaseUntil := 9 },
    .completeItem "job" "item" (some "first")] ++ [.completeItem "job" "item" (some "second")])

theorem claims_settled_once_lateReport :
    leaves "item" (Runs.run step (Db.opening onePhoto) (startedRun ++ [.claim "job" "first" 1 {}]))
      (.recoverStale 1) = true ∧
    Runs.rises step (isCounted "item") (Runs.run step (Db.opening onePhoto) startedRun) lateReport = 1 ∧
    Runs.rises step (isCounted "item") (Runs.run step (Db.opening onePhoto) startedRun) lateReport ≤ 1 :=
  ⟨by decide, by decide, (claims_settled_once onePhoto (startedRun ++ (lateReport ++ []))).2.2.1 "item" startedRun
    lateReport [] rfl (by decide)⟩

end InkTime.Jobs
