import InkTime.Jobs.Recovery

/-!
# The repository refines its state machine

Creation adds a job with its items; every other call moves rows. `step_cases` says so for all calls at
once, and the invariants of the repository are derived from it.
-/

namespace InkTime.Jobs

variable (db : Db)

/-! ### Creation -/

/-- The tables gained one pending job and its pending items. -/
structure Created (db : Db) (jobId : String) (kind : JobKind) (db' : Db) : Prop where
  fresh : jobId ∉ db.jobIds
  jobs : ∀ after ∈ db'.jobs, after ∈ db.jobs ∨ (after.id = jobId ∧ after.kind = kind ∧
    after.state.status = .pending ∧ after.state.completedItems = 0 ∧ after.state.failedItems = 0)
  items : ∀ after ∈ db'.items, after ∈ db.items ∨ (after.jobId = jobId ∧ after.state.status = .pending ∧
    (kind.analyses = true → ∀ p ∈ db.photos, after.photoId = some p.id →
      reservedAnalysis db (fun _ => false) p = false))
  kept : ∀ item ∈ db.items, item ∈ db'.items
  counts : ∀ owner status, status ≠ .pending → db'.itemCount owner status = db.itemCount owner status
  jobIds : db'.jobIds = db.jobIds ++ [jobId]
  photos : db'.photos = db.photos

lemma insertJob_ok {db' : Db} {job : Job} (h : insertJob db job = .ok db') :
    ∃ jobs, db.jobs.insert job = some jobs ∧ db' = { db with jobs } := by
  unfold insertJob at h
  split at h
  · cases h
  · next jobs hinsert =>
    split at h
    · exact ⟨jobs, hinsert, (Except.ok.inj h).symm⟩
    · cases h

lemma fresh_of_insert {job : Job} {jobs : Table Job.id} (h : db.jobs.insert job = some jobs) :
    job.id ∉ db.jobIds := by
  intro hmem
  obtain ⟨other, hother, hid⟩ := List.mem_map.mp hmem
  exact Table.insert_fresh h hother hid

/-- New items are pending items of the job, for photos of the list. -/
structure ItemsAdded (db : Db) (jobId : String) (photoIds : List String) (db' : Db) : Prop where
  jobs : db'.jobs = db.jobs
  photos : db'.photos = db.photos
  items : ∀ after ∈ db'.items, after ∈ db.items ∨
    (after.jobId = jobId ∧ after.state.status = .pending ∧ ∃ photoId ∈ photoIds, after.photoId = some photoId)
  kept : ∀ item ∈ db.items, item ∈ db'.items
  counts : ∀ owner status, status ≠ .pending → db'.itemCount owner status = db.itemCount owner status

lemma ItemsAdded.cons {db db' : Db} {jobId : String} {photoIds : List String} (h : ItemsAdded db jobId photoIds db')
    (photoId : String) : ItemsAdded db jobId (photoId :: photoIds) db' where
  jobs := h.jobs
  photos := h.photos
  items := by
    intro after hafter
    obtain hold | ⟨hjob, hpending, other, hother, hphoto⟩ := h.items after hafter
    · exact .inl hold
    · exact .inr ⟨hjob, hpending, other, List.mem_cons_of_mem photoId hother, hphoto⟩
  kept := h.kept
  counts := h.counts

lemma ItemsAdded.insert {db db' : Db} {jobId photoId itemId : String} {now : Nat} {photoIds : List String}
    {items : Table Item.id} (hinsert : db.items.insert
      { id := itemId, jobId, photoId := some photoId, state := { availableAt := now } } = some items)
    (h : ItemsAdded { db with items } jobId photoIds db') : ItemsAdded db jobId (photoId :: photoIds) db' where
  jobs := h.jobs
  photos := h.photos
  items := by
    intro after hafter
    obtain hold | ⟨hjob, hpending, other, hother, hphoto⟩ := h.items after hafter
    · obtain hbefore | rfl := (Table.mem_insert hinsert).mp hold
      · exact .inl hbefore
      · exact .inr ⟨rfl, rfl, photoId, List.mem_cons_self, rfl⟩
    · exact .inr ⟨hjob, hpending, other, List.mem_cons_of_mem _ hother, hphoto⟩
  kept := by
    intro item hitem
    exact h.kept item ((Table.mem_insert hinsert).mpr (.inl hitem))
  counts := by
    intro owner status hstatus
    rw [h.counts owner status hstatus]
    unfold Db.itemCount
    rw [Table.count_insert hinsert]
    simp [Ne.symm hstatus]

lemma insertItems_added {db db' : Db} {jobId : String} {now : Nat} {rows : List (String × String)}
    (h : insertItems db jobId now rows = .ok db') : ItemsAdded db jobId (rows.map Prod.snd) db' := by
  induction rows generalizing db with
  | nil =>
    obtain rfl := Except.ok.inj h
    exact ⟨rfl, rfl, fun _ hafter => .inl hafter, fun _ hitem => hitem, fun _ _ _ => rfl⟩
  | cons row rest ih =>
    obtain ⟨itemId, photoId⟩ := row
    unfold insertItems at h
    split at h
    · cases h
    · split at h
      · exact (ih h).cons photoId
      · split at h
        · exact (ih h).cons photoId
        · next items hinsert => exact ItemsAdded.insert hinsert (ih h)

lemma newRows_photos (request : CreateRequest) : (newRows request).map Prod.snd = request.photoIds := by
  simp [newRows, List.map_map, Function.comp_def]

/-- A call that meets a job with its key changes no status. -/
lemma reuseJob_moved {op : Op} (existing : Job) (requestFingerprint : Option String)
    (hleft : ∀ item ∈ db.items, emptied db item op = false) :
    Moved db op ((reuseJob db existing requestFingerprint).after db) := by
  unfold reuseJob
  dsimp only
  split
  · exact Moved.refl hleft
  · split
    · rw [after_ok]
      exact {
        items := ItemsBy.of_eq rfl fun item hitem => .stay (hleft item hitem)
        jobs := JobsBy.setJobs (JobsBy.of_eq rfl fun _ _ => .stay) fun _ => rfl
        frame := (Frame.refl db).setJobs _ _ }
    · exact Moved.refl hleft

/-- A reservation check that passed. -/
lemma free_of_check {kind : JobKind} {photoIds : List String} {batchHolds : Photo → Bool}
    (h : ¬(kind.analyses && db.photos.any (fun p =>
      photoIds.contains p.id && reservedAnalysis db batchHolds p)) = true)
    (hkind : kind.analyses = true) {p : Photo} (hp : p ∈ db.photos) (hid : p.id ∈ photoIds) :
    reservedAnalysis db (fun _ => false) p = false := by
  by_contra hheld
  apply h
  rw [Bool.and_eq_true]
  refine ⟨hkind, Table.any_of_mem hp ?_⟩
  simp only [reservedAnalysis, Bool.or_false, Bool.not_eq_false] at hheld
  simp only [reservedAnalysis, hheld, Bool.true_or, Bool.and_true]
  exact List.contains_iff_mem.mpr hid

/-- A request is refused, answered with the job of its key, or given a new job. -/
inductive Answered (db : Db) (jobId : String) (kind : JobKind) : Db → Prop
  | refused : Answered db jobId kind db
  | reused (existing : Job) (requestFingerprint : Option String) :
      Answered db jobId kind ((reuseJob db existing requestFingerprint).after db)
  | created {db' : Db} (h : Created db jobId kind db') : Answered db jobId kind db'

lemma create_answered (request : CreateRequest) :
    Answered db request.jobId request.kind ((create db request).after db) := by
  unfold create
  dsimp only
  split
  · exact .reused _ _
  · split
    · exact .refused
    · next hfree =>
      split
      · exact .refused
      · next opened hopened =>
        split
        · exact .refused
        · next filled hfilled =>
          split
          · exact .refused
          · apply Answered.created
            obtain ⟨jobs, hinsert, rfl⟩ := insertJob_ok db hopened
            have hadded := insertItems_added hfilled
            rw [newRows_photos] at hadded
            rw [after_ok]
            refine ⟨fresh_of_insert db hinsert, ?_, ?_, hadded.kept, hadded.counts, ?_, hadded.photos⟩
            · intro after hafter
              obtain ⟨before, hbefore, rfl⟩ := mem_setJobs.mp hafter
              rw [hadded.jobs] at hbefore
              obtain hold | rfl := (Table.mem_insert hinsert).mp hbefore
              · have hne : before.id ≠ request.jobId := Table.insert_fresh hinsert hold
                exact .inl (by simpa [hne] using hold)
              · exact .inr (by simp [newJob])
            · intro after hafter
              obtain hold | ⟨hjob, hpending, photoId, hphotoId, hphoto⟩ := hadded.items after hafter
              · exact .inl hold
              · refine .inr ⟨hjob, hpending, ?_⟩
                intro hkind p hp hp_photo
                obtain rfl : p.id = photoId := by
                  rw [hphoto] at hp_photo
                  exact (Option.some.inj hp_photo).symm
                exact free_of_check db hfree hkind hp hphotoId
            · rw [((Frame.refl filled).setJobs _ _).jobIds]
              unfold Db.jobIds
              rw [hadded.jobs]
              exact Table.keys_insert hinsert

lemma after_map {α β : Type} (outcome : Outcome α) (f : α → β) :
    Outcome.after (outcome.map fun out => (out.1, f out.2)) db = outcome.after db := by
  cases outcome with
  | error error => rfl
  | ok out => rfl

lemma createMaintenance_answered (request : MaintenanceRequest) :
    Answered db request.jobId request.kind ((createMaintenance db request).after db) := by
  unfold createMaintenance
  split
  · exact .refused
  · dsimp only
    split
    · next job _ =>
      rw [after_map db (reuseJob db job request.requestFingerprint) some]
      exact .reused job _
    · split
      · exact .refused
      · split
        · exact .refused
        · next opened hopened =>
          split
          · exact .refused
          · next items hitems =>
            apply Answered.created
            obtain ⟨jobs, hinsert, rfl⟩ := insertJob_ok db hopened
            refine ⟨fresh_of_insert db hinsert, ?_, ?_, ?_, ?_, Table.keys_insert hinsert, rfl⟩
            · intro after hafter
              obtain hold | rfl := (Table.mem_insert hinsert).mp hafter
              · exact .inl hold
              · exact .inr (by simp [newMaintenanceJob])
            · intro after hafter
              obtain hold | rfl := (Table.mem_insert hitems).mp hafter
              · exact .inl hold
              · exact .inr (by simp [newMaintenanceItem])
            · intro item hitem
              exact (Table.mem_insert hitems).mpr (.inl hitem)
            · intro owner status hstatus
              simp only [after_ok, Db.itemCount]
              rw [Table.count_insert hitems]
              simp [newMaintenanceItem, Ne.symm hstatus]

lemma Answered.cases {db db' : Db} {op : Op} {jobId : String} {kind : JobKind} (h : Answered db jobId kind db')
    (hleft : ∀ item ∈ db.items, emptied db item op = false) :
    Moved db op db' ∨ ∃ jobId kind, Created db jobId kind db' := by
  cases h with
  | refused => exact .inl (Moved.refl hleft)
  | reused existing requestFingerprint => exact .inl (reuseJob_moved db existing requestFingerprint hleft)
  | created h => exact .inr ⟨jobId, kind, h⟩

/-- What a call does to the tables. -/
theorem step_cases (op : Op) : Moved db op (step db op) ∨ ∃ jobId kind, Created db jobId kind (step db op) := by
  cases op with
  | create request => exact (create_answered db request).cases fun _ _ => rfl
  | createMaintenance request => exact (createMaintenance_answered db request).cases fun _ _ => rfl
  | transition jobId fromStatuses toStatus => exact .inl (transition_moved db jobId fromStatuses toStatus)
  | requestPause jobId => exact .inl (requestPause_moved db jobId)
  | acknowledgePause jobId => exact .inl (acknowledgePause_moved db jobId)
  | cancel jobId => exact .inl (cancel_moved db jobId)
  | claim jobId workerId limit env => exact .inl (claim_moved db jobId workerId limit env)
  | renewLeases jobId workerId leaseUntil => exact .inl (renewLeases_moved db jobId workerId leaseUntil)
  | completeItem jobId itemId workerId => exact .inl (completeItem_moved db jobId itemId workerId)
  | recordLateCompletion jobId itemId workerId => exact .inl (recordLateCompletion_moved db jobId itemId workerId)
  | deferItem itemId workerId availableAt deferPending =>
    exact .inl (deferItem_moved db itemId workerId availableAt deferPending)
  | failItem jobId itemId maxAttempts retryInterval workerId now =>
    exact .inl (failItem_moved db jobId itemId maxAttempts retryInterval workerId now)
  | failInvalidSettings jobId => exact .inl (failInvalidSettings_moved db jobId)
  | finalizeIfDone jobId finalizerFails => exact .inl (finalizeIfDone_moved db jobId finalizerFails)
  | recoverStale now => exact .inl (recoverStale_moved db now)
  | retryFailed jobId batchHolds now => exact .inl (retryFailed_moved db jobId batchHolds now)
  | completeBatchItem jobId itemId => exact .inl (completeBatchItem_moved db jobId itemId)
  | failBatchItem jobId itemId => exact .inl (failBatchItem_moved db jobId itemId)
  | cancelBatchItem jobId itemId => exact .inl (cancelBatchItem_moved db jobId itemId)
  | finalizeBatchJob jobId status => exact .inl (finalizeBatchJob_moved db jobId status)
  | abandonUnstarted jobId => exact .inl (abandonUnstarted_moved db jobId)
  | reopenBatchJob jobId => exact .inl (reopenBatchJob_moved db jobId)

/-- The row of an item after a call on existing rows. -/
lemma Moved.item {db db' : Db} {op : Op} (h : Moved db op db') {item : Item} (hitem : item ∈ db.items) :
    ∃ state, { item with state } ∈ db'.items ∧ ItemMove db db' item op state := by
  have hid : item.id ∈ db'.itemIds := by
    rw [h.frame.itemIds]
    exact List.mem_map_of_mem hitem
  obtain ⟨after, hafter, hafter_id⟩ := List.mem_map.mp hid
  obtain ⟨before, hbefore, state, rfl, hmove⟩ := h.items after hafter
  obtain rfl : before = item := Table.eq_of_key_eq hbefore hitem hafter_id
  exact ⟨state, hafter, hmove⟩

/-! ### Items belong to jobs -/

/-- The foreign key from items to jobs. -/
def ItemsOwned (db : Db) : Prop := ∀ item ∈ db.items, item.jobId ∈ db.jobIds

lemma step_itemsOwned {db : Db} (h : ItemsOwned db) (op : Op) : ItemsOwned (step db op) := by
  intro after hafter
  obtain hmoved | ⟨jobId, kind, hcreated⟩ := step_cases db op
  · obtain ⟨before, hbefore, state, rfl, -⟩ := hmoved.items after hafter
    rw [hmoved.frame.jobIds]
    exact h before hbefore
  · rw [hcreated.jobIds]
    obtain hold | ⟨hjob, -⟩ := hcreated.items after hafter
    · exact List.mem_append_left _ (h after hold)
    · rw [hjob]
      exact List.mem_append_right _ (List.mem_singleton.mpr rfl)

lemma opening_itemsOwned (photos : Table Photo.id) : ItemsOwned (Db.opening photos) := by
  intro item hitem
  cases hitem

end InkTime.Jobs
