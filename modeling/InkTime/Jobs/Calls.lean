import InkTime.Jobs.Moves

/-!
# Calls as moves

Each call on existing rows, read as moves of jobs and items.
-/

namespace InkTime.Jobs

/-! ### Calls on jobs -/

section Calls

variable (db : Db)

lemma jobIn_iff {jobId : String} {allowed : JobStatus → Bool} {job : Job} :
    jobIn jobId allowed job = true ↔ job.id = jobId ∧ allowed job.state.status = true := by
  simp [jobIn]

lemma itemIn_iff {jobId : String} {allowed : ItemStatus → Bool} {item : Item} :
    itemIn jobId allowed item = true ↔ item.jobId = jobId ∧ allowed item.state.status = true := by
  simp [itemIn]

lemma transition_moved (jobId : String) (fromStatuses : List JobStatus) (toStatus : JobStatus) :
    Moved db (.transition jobId fromStatuses toStatus)
      ((transition db jobId fromStatuses toStatus).after db) := by
  unfold transition
  apply Moved.of_commit
  · apply Moved.of_moveJobs (fun _ _ => rfl)
    intro job _ hm
    obtain ⟨rfl, hfrom⟩ := jobIn_iff.mp hm
    exact .transitioned hfrom
  · exact Moved.refl fun _ _ => rfl

lemma requestPause_moved (jobId : String) : Moved db (.requestPause jobId) (requestPause db jobId).1 := by
  unfold requestPause
  split
  · exact Moved.refl fun _ _ => rfl
  · next job hfind =>
    obtain ⟨hjob, rfl⟩ := Table.find_eq_some hfind
    split
    · exact Moved.refl fun _ _ => rfl
    · next hclaimable =>
      apply Moved.of_moveJobs (fun _ _ => rfl)
      intro other hother hm
      obtain rfl : other = job := Table.eq_of_key_eq hother hjob (by simpa using hm)
      have hclaimable : other.state.status.claimable = true := by simpa using hclaimable
      cases hrunning : db.hasItem other.id (· == .running) with
      | true => exact .pausing hclaimable
      | false => exact .paused hclaimable hrunning

lemma acknowledgePause_moved (jobId : String) :
    Moved db (.acknowledgePause jobId) (acknowledgePause db jobId).1 := by
  unfold acknowledgePause
  apply Moved.of_moveJobs (fun _ _ => rfl)
  intro job _ hm
  simp only [pauseSettled, Bool.and_eq_true, beq_iff_eq, Bool.not_eq_true'] at hm
  obtain ⟨rfl, hpausing, hidle⟩ := hm
  exact .acknowledged hpausing hidle

lemma finalizeIfDone_moved (jobId : String) (finalizerFails : Bool) :
    Moved db (.finalizeIfDone jobId finalizerFails) (finalizeIfDone db jobId finalizerFails).1 := by
  unfold finalizeIfDone
  split
  · exact Moved.refl fun _ _ => rfl
  · split
    · exact Moved.refl fun _ _ => rfl
    · split
      · exact Moved.refl fun _ _ => rfl
      · next hsettled =>
        apply Moved.of_moveJobs (fun _ _ => rfl)
        intro job _ hm
        obtain ⟨rfl, hclaimable⟩ := jobIn_iff.mp hm
        apply JobMove.finalized hclaimable (by simpa using hsettled)
        split
        · exact .inr rfl
        · exact .inl rfl

lemma finalizeBatchJob_moved (jobId : String) (status : JobStatus) :
    Moved db (.finalizeBatchJob jobId status) ((finalizeBatchJob db jobId status).after db) := by
  unfold finalizeBatchJob
  split
  · exact Moved.refl fun _ _ => rfl
  · next hterminal =>
    apply Moved.of_moveJobs (fun _ _ => rfl)
    intro job _ hm
    obtain ⟨rfl, hopen⟩ := jobIn_iff.mp hm
    exact .batchFinalized (by simpa using hterminal) (by simpa using hopen)

/-- A call that closes jobs and takes the queued items of one along. -/
lemma Moved.of_closing {db db' : Db} {op : Op} {jobId : String} {set : Item → ItemState}
    (hitems : db'.items = (db.setItems (itemIn jobId ItemStatus.queued) set).items)
    (hmoved : ∀ item : Item, item.jobId = jobId → item.state.status.queued = true → ItemMove db db' item op (set item))
    (hkept : ∀ item, itemIn jobId ItemStatus.queued item = false → emptied db item op = false)
    (hjobs : JobsBy (fun job status => JobMove db job op status) db db') (hframe : Frame db db') :
    Moved db op db' where
  items := by
    refine ItemsBy.of_setItems hitems ?_ fun item _ hm => .stay (hkept item hm)
    intro item _ hm
    obtain ⟨hjob, hqueued⟩ := itemIn_iff.mp hm
    exact hmoved item hjob hqueued
  jobs := hjobs
  frame := hframe

lemma cancel_moved (jobId : String) : Moved db (.cancel jobId) (cancel db jobId).1 := by
  unfold cancel
  dsimp only
  split
  · refine Moved.of_closing rfl ?_ ?_ ?_ (((Frame.refl db).moveJobs _ _).setItems _ _)
    · rintro item rfl hqueued
      exact .cancelled hqueued
    · intro item hm
      simp [emptied, hm]
    · refine JobsBy.of_moveJobs rfl ?_ fun _ _ _ => .stay
      intro job _ hm
      obtain ⟨rfl, hopen⟩ := jobIn_iff.mp hm
      exact .cancelled (by simpa using hopen)
  · next hnone =>
    apply Moved.refl
    intro item _
    simp [emptied, hnone]

lemma failInvalidSettings_moved (jobId : String) :
    Moved db (.failInvalidSettings jobId) (failInvalidSettings db jobId).1 := by
  unfold failInvalidSettings
  dsimp only
  split
  · refine Moved.of_closing rfl ?_ ?_ ?_ ((((Frame.refl db).moveJobs _ _).setItems _ _).recountFailed jobId)
    · rintro item rfl hqueued
      exact .quarantined hqueued
    · intro item hm
      simp [emptied, hm]
    · refine JobsBy.setJobs (JobsBy.of_moveJobs rfl ?_ fun _ _ _ => .stay) fun _ => rfl
      intro job _ hm
      simp only [Bool.and_eq_true, Bool.not_eq_true'] at hm
      obtain ⟨hjob, hidle⟩ := hm
      obtain ⟨rfl, hclaimable⟩ := jobIn_iff.mp hjob
      exact .quarantined hclaimable hidle
  · next hnone =>
    apply Moved.refl
    intro item _
    simp [emptied, hnone]

lemma abandonUnstarted_moved (jobId : String) :
    Moved db (.abandonUnstarted jobId) (abandonUnstarted db jobId).1 := by
  unfold abandonUnstarted
  dsimp only
  split
  · refine Moved.of_closing rfl ?_ ?_ ?_ (((Frame.refl db).moveJobs _ _).setItems _ _)
    · rintro item rfl hqueued
      exact .abandoned hqueued
    · intro item hm
      simp [emptied, hm]
    · refine JobsBy.of_moveJobs rfl ?_ fun _ _ _ => .stay
      intro job _ hm
      obtain ⟨rfl, hpending⟩ := jobIn_iff.mp hm
      exact .abandoned (by simpa using hpending)
  · next hnone =>
    apply Moved.refl
    intro item _
    simp [emptied, hnone]

/-! ### Calls on items -/

lemma mem_claimRows {jobId : String} {settings : JobSettings} {limit : Int} {env : ClaimEnv} {item : Item}
    (h : item ∈ claimRows db jobId settings limit env) :
    item ∈ db.items ∧ item.jobId = jobId ∧ item.state.status = .pending := by
  unfold claimRows limited at h
  have hmem : item ∈ db.items.rows.filter fun item => item.jobId == jobId && ready env.now item := by
    rw [← List.mem_insertionSort fun a b => claimOrder settings env a b]
    split at h
    · exact h
    · exact List.mem_of_mem_take h
  simp only [List.mem_filter, ready, Bool.and_eq_true, beq_iff_eq] at hmem
  exact ⟨hmem.1, hmem.2.1, hmem.2.2.1⟩

lemma claim_moved (jobId workerId : String) (limit : Int) (env : ClaimEnv) :
    Moved db (.claim jobId workerId limit env) ((claim db jobId workerId limit env).after db) := by
  have hrefl : Moved db (.claim jobId workerId limit env) db := Moved.refl fun _ _ => rfl
  unfold claim
  split
  · exact hrefl
  · next job hfind =>
    obtain ⟨hjob, rfl⟩ := Table.find_eq_some hfind
    split
    · exact hrefl
    · next hclaimable =>
      split
      · exact hrefl
      · next settings _ =>
        split
        · exact hrefl
        · refine Moved.of_setItems ?_ fun _ _ _ => rfl
          intro item hitem hm
          -- an id selected for the claim is the id of a selected row, and ids are unique
          obtain ⟨row, hrow, hid⟩ := List.mem_map.mp (List.contains_iff_mem.mp hm)
          obtain ⟨hmem, hjobId, hpending⟩ := mem_claimRows db hrow
          obtain rfl : row = item := Table.eq_of_key_eq hmem hitem hid
          rw [← hjobId]
          exact .claimed hjob hjobId.symm (by simpa using hclaimable) hpending

lemma renewLeases_moved (jobId workerId : String) (leaseUntil : Nat) :
    Moved db (.renewLeases jobId workerId leaseUntil) (renewLeases db jobId workerId leaseUntil).1 := by
  unfold renewLeases
  refine Moved.of_setItems ?_ fun _ _ _ => rfl
  intro item _ hm
  simp only [Bool.and_eq_true, beq_iff_eq] at hm
  obtain ⟨⟨rfl, -⟩, hrunning⟩ := hm
  exact .renewed hrunning

lemma stale_running {now : Nat} {item : Item} (h : stale now item = true) : item.state.status = .running := by
  simp only [stale, Bool.and_eq_true, beq_iff_eq] at h
  exact h.1

lemma runningItem_iff {jobId itemId : String} {workerId : Option String} {item : Item} :
    runningItem jobId itemId workerId item = true ↔
      item.id = itemId ∧ item.jobId = jobId ∧ item.state.status = .running ∧ ownedBy workerId item = true := by
  simp [runningItem, and_assoc]

lemma completeItem_moved (jobId itemId : String) (workerId : Option String) :
    Moved db (.completeItem jobId itemId workerId) (completeItem db jobId itemId workerId).1 := by
  unfold completeItem
  dsimp only
  split
  · next hcancelled =>
    refine Moved.of_setItems ?_ fun _ _ _ => rfl
    intro item _ hm
    obtain ⟨rfl, rfl, hrunning, howner⟩ := runningItem_iff.mp hm
    exact .dropped hrunning howner hcancelled
  · next hopen =>
    refine Moved.of_settle (fun _ => rfl) ?_ fun _ _ => rfl
    intro item _ hm
    obtain ⟨rfl, rfl, hrunning, howner⟩ := runningItem_iff.mp hm
    exact .completed hrunning howner (by simpa using hopen)

lemma recordLateCompletion_moved (jobId itemId : String) (workerId : Option String) :
    Moved db (.recordLateCompletion jobId itemId workerId) (recordLateCompletion db jobId itemId workerId).1 := by
  unfold recordLateCompletion
  refine Moved.of_settle (fun _ => rfl) ?_ fun _ _ => rfl
  intro item _ hm
  obtain ⟨rfl, rfl, hrunning, howner⟩ := runningItem_iff.mp hm
  exact .late hrunning howner

/-- The row a failure reads is the row it writes. -/
lemma find_runningItem {jobId itemId : String} {workerId : Option String} {found item : Item}
    (hfind : db.items.rows.find? (runningItem jobId itemId workerId) = some found) (hitem : item ∈ db.items)
    (hid : (item.id == itemId) = true) :
    item = found ∧ item.jobId = jobId ∧ item.state.status = .running ∧ ownedBy workerId item = true := by
  obtain ⟨hid', hjob, hrunning, howner⟩ := runningItem_iff.mp (List.find?_some hfind)
  have hfound : found ∈ db.items := List.mem_of_find?_eq_some hfind
  obtain rfl : item = found := by
    apply Table.eq_of_key_eq hitem hfound
    rw [hid']
    simpa using hid
  exact ⟨rfl, hjob, hrunning, howner⟩

lemma failItem_moved (jobId itemId : String) (maxAttempts : Int) (retryInterval : Option Int)
    (workerId : Option String) (now : Nat) :
    Moved db (.failItem jobId itemId maxAttempts retryInterval workerId now)
      (failItem db jobId itemId maxAttempts retryInterval workerId now).1 := by
  unfold failItem
  split
  · exact Moved.refl fun _ _ => rfl
  · next found hfind =>
    split
    · next hattempts =>
      refine Moved.of_settle (fun _ => rfl) ?_ fun _ _ => rfl
      intro item hitem hm
      obtain ⟨rfl, rfl, hrunning, howner⟩ := find_runningItem db hfind hitem hm
      obtain rfl : item.id = itemId := by simpa using hm
      exact .failed hrunning howner hattempts
    · next hattempts =>
      refine Moved.of_setItems ?_ fun _ _ _ => rfl
      intro item hitem hm
      obtain ⟨rfl, rfl, hrunning, howner⟩ := find_runningItem db hfind hitem hm
      obtain rfl : item.id = itemId := by simpa using hm
      exact .requeued hrunning howner hattempts

/-- A deferral that finds its item gives that one back and leaves the others. -/
lemma deferItem_returned {itemId : String} {workerId : Option String} (availableAt : Nat)
    (hany : db.items.any (fun item => item.id == itemId && item.state.status == .running && ownedBy workerId item)) :
    ItemsBy (fun item state =>
      (item.id = itemId ∧ item.state.status = .running ∧ ownedBy workerId item = true ∧
        state = item.state.deferred availableAt) ∨ (item.id ≠ itemId ∧ state = item.state)) db
      (db.setItems (fun item => item.id == itemId && item.state.status == .running && ownedBy workerId item)
        fun item => item.state.deferred availableAt) := by
  obtain ⟨found, hfound, hmatch⟩ := List.any_eq_true.mp hany
  refine ItemsBy.of_setItems rfl ?_ ?_
  · intro item _ hm
    simp only [Bool.and_eq_true, beq_iff_eq] at hm
    exact .inl ⟨hm.1.1, hm.1.2, hm.2, rfl⟩
  · intro item hitem hm
    refine .inr ⟨?_, rfl⟩
    intro hid
    obtain rfl : item = found := by
      apply Table.eq_of_key_eq hitem hfound
      simp only [Bool.and_eq_true, beq_iff_eq] at hmatch
      exact hid.trans hmatch.1.1.symm
    rw [hmatch] at hm
    cases hm

lemma deferItem_moved (itemId : String) (workerId : Option String) (availableAt : Nat) (deferPending : Bool) :
    Moved db (.deferItem itemId workerId availableAt deferPending)
      (deferItem db itemId workerId availableAt deferPending).1 := by
  unfold deferItem
  dsimp only
  split
  · next hany =>
    have hreturned := deferItem_returned db availableAt hany
    split
    · next hpending =>
      obtain rfl : deferPending = true := hpending
      refine ⟨?_, JobsBy.of_eq rfl fun _ _ => .stay, ((Frame.refl db).setItems _ _).setItems _ _⟩
      intro after hafter
      obtain ⟨middle, hmiddle, rfl⟩ := mem_setItems.mp hafter
      obtain ⟨before, hbefore, state, rfl, ⟨rfl, hrunning, howner, rfl⟩ | ⟨hother, rfl⟩⟩ :=
        hreturned middle hmiddle
      · refine ⟨before, hbefore, before.state.deferred availableAt, ?_, .deferred hrunning howner⟩
        split <;> simp [ItemState.deferred]
      · split
        · next hm =>
          simp only [Bool.and_eq_true, beq_iff_eq] at hm
          exact ⟨before, hbefore, _, rfl, .heldBack hm.2 hother⟩
        · exact ⟨before, hbefore, before.state, rfl, .stay rfl⟩
    · refine ⟨?_, JobsBy.of_eq rfl fun _ _ => .stay, (Frame.refl db).setItems _ _⟩
      intro after hafter
      obtain ⟨before, hbefore, state, rfl, ⟨rfl, hrunning, howner, rfl⟩ | ⟨hother, rfl⟩⟩ :=
        hreturned after hafter
      · exact ⟨before, hbefore, _, rfl, .deferred hrunning howner⟩
      · exact ⟨before, hbefore, before.state, rfl, .stay rfl⟩
  · exact Moved.refl fun _ _ => rfl

lemma retryFailed_moved (jobId : String) (batchHolds : Photo → Bool) (now : Nat) :
    Moved db (.retryFailed jobId batchHolds now) ((retryFailed db jobId batchHolds now).after db) := by
  have hrefl : Moved db (.retryFailed jobId batchHolds now) db := Moved.refl fun _ _ => rfl
  unfold retryFailed
  split
  · exact hrefl
  · next job hfind =>
    obtain ⟨hjob, hjobId⟩ := Table.find_eq_some hfind
    split
    · exact hrefl
    · next hretryable =>
      have hretryable : job.state.status.retryable = true := by simpa using hretryable
      split
      · exact hrefl
      · next hconflict =>
        dsimp only
        split
        · exact hrefl
        · rw [setJobs_setItems]
          have hrevived : JobsBy (fun other status => other.id = jobId → status = .pending) db
              (db.setJobs (jobIn jobId JobStatus.retryable) fun state =>
                { state with status := .pending, failedItems := 0 }) := by
            refine JobsBy.of_setJobs rfl (fun _ _ _ _ => rfl) ?_
            intro other hother hm hid
            obtain rfl := Table.eq_of_key_eq hother hjob (hid.trans hjobId.symm)
            simp [jobIn, hid, hretryable] at hm
          refine Moved.of_commit ⟨?_, ?_, ((Frame.refl db).setJobs _ _).setItems _ _⟩ hrefl
          · refine ItemsBy.of_setItems rfl ?_ fun item _ _ => .stay rfl
            intro item hitem hm
            obtain ⟨rfl, hfailed⟩ := itemIn_iff.mp hm
            refine .retried hjob hjobId hretryable (by simpa using hfailed) ?_ hrevived.pins
            intro hkind p hp hphoto
            by_contra hheld
            apply hconflict
            rw [Bool.and_eq_true]
            refine ⟨hkind, Table.any_of_mem hp ?_⟩
            rw [Bool.and_eq_true]
            refine ⟨Table.any_of_mem hitem ?_, by simpa using hheld⟩
            simp [hphoto, hm]
          · refine JobsBy.of_setJobs (setItems_jobs _ _ _) ?_ fun _ _ _ => .stay
            intro other _ hm
            obtain ⟨rfl, hretry⟩ := jobIn_iff.mp hm
            exact .retried hretry

lemma openItem_iff {jobId itemId : String} {item : Item} : openItem jobId itemId item = true ↔
    item.id = itemId ∧ item.jobId = jobId ∧ item.state.status.unsettled = true := by
  simp [openItem, and_assoc]

lemma completeBatchItem_moved (jobId itemId : String) :
    Moved db (.completeBatchItem jobId itemId) (completeBatchItem db jobId itemId).1 := by
  refine Moved.of_settle (fun _ => rfl) ?_ fun _ _ => rfl
  intro item _ hm
  obtain ⟨rfl, rfl, hopen⟩ := openItem_iff.mp hm
  exact .batchCompleted hopen

lemma failBatchItem_moved (jobId itemId : String) :
    Moved db (.failBatchItem jobId itemId) (failBatchItem db jobId itemId).1 := by
  refine Moved.of_settle (fun _ => rfl) ?_ fun _ _ => rfl
  intro item _ hm
  obtain ⟨rfl, rfl, hopen⟩ := openItem_iff.mp hm
  exact .batchFailed hopen

lemma cancelBatchItem_moved (jobId itemId : String) :
    Moved db (.cancelBatchItem jobId itemId) (cancelBatchItem db jobId itemId).1 := by
  refine Moved.of_settle (fun _ => rfl) ?_ fun _ _ => rfl
  intro item _ hm
  obtain ⟨rfl, rfl, hopen⟩ := openItem_iff.mp hm
  exact .batchCancelled hopen

lemma reopenBatchJob_moved (jobId : String) :
    Moved db (.reopenBatchJob jobId) ((reopenBatchJob db jobId).after db) := by
  have hrefl : Moved db (.reopenBatchJob jobId) db := Moved.refl fun _ _ => rfl
  unfold reopenBatchJob
  dsimp only
  split
  · next hany =>
    obtain ⟨job, hjob, hreopens⟩ := List.any_eq_true.mp hany
    have hrevived : JobsBy (fun other status => other.id = jobId → status = .running) db
        (db.moveJobs (jobIn jobId JobStatus.reopenable) .running) := by
      refine JobsBy.of_moveJobs rfl (fun _ _ _ _ => rfl) ?_
      intro other hother hm hid
      obtain rfl := Table.eq_of_key_eq hother hjob (hid.trans (jobIn_iff.mp hreopens).1.symm)
      simp [hreopens] at hm
    refine Moved.of_commit ⟨?_, ?_, (((Frame.refl db).moveJobs _ _).setItems _ _).setJobs _ _⟩ hrefl
    · refine ItemsBy.of_setItems rfl ?_ fun item _ _ => .stay rfl
      intro item _ hm
      obtain ⟨rfl, hclosed⟩ := itemIn_iff.mp hm
      refine .reopened (by simpa using hclosed) (JobsBy.pins (JobsBy.setJobs hrevived ?_))
      exact fun _ => rfl
    · refine JobsBy.setJobs (JobsBy.of_moveJobs rfl ?_ fun _ _ _ => .stay) fun _ => rfl
      intro job _ hm
      obtain ⟨rfl, hreopenable⟩ := jobIn_iff.mp hm
      exact .reopened hreopenable
  · exact hrefl

end Calls

end InkTime.Jobs
