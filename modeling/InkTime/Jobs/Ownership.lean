import InkTime.Jobs.Pause

/-!
# One analysis owner per content

Creation and retry check, under the writer lock, that no analysis holds the photos they want. No other
call of an ordinary run makes an item hold a photo that did not hold it before.
-/

namespace InkTime.Jobs

/-- An analysis item that is running, or pending in a job that can still work on it. -/
def Holds (db : Db) (item : Item) : Prop :=
  ∃ job ∈ db.jobs, job.id = item.jobId ∧ job.kind.analyses = true ∧
    (item.state.status = .running ∨ (item.state.status = .pending ∧ job.state.status.ownsQueue = true))

/-- Two jobs never hold the same content. -/
def OneOwner (db : Db) : Prop :=
  ∀ a ∈ db.items, ∀ b ∈ db.items, Holds db a → Holds db b → ∀ p ∈ db.photos, ∀ q ∈ db.photos,
    a.photoId = some p.id → b.photoId = some q.id →
    (p.id = q.id ∨ ∃ hash, hash ≠ "" ∧ p.sha256 = some hash ∧ q.sha256 = some hash) → a.jobId = b.jobId

/-- Calls of an ordinary run; closing and reopening Batch parents is not among them. -/
def Op.ordinary : Op → Bool
  | .finalizeBatchJob _ _ | .abandonUnstarted _ | .reopenBatchJob _ => false
  | op => op.ofCallSite

/-! ### Reservations -/

lemma reserves_iff {db : Db} {item : Item} : db.reserves item = true ↔
    item.state.status.unsettled = true ∧ ∃ job ∈ db.jobs, job.id = item.jobId ∧ job.kind.analyses = true ∧
      (item.state.status = .running ∨ job.state.status.ownsQueue = true) := by
  simp [Db.reserves, Table.any, Table.mem_iff, and_assoc]

lemma Holds.reserves {db : Db} {item : Item} (h : Holds db item) : db.reserves item = true := by
  obtain ⟨job, hjob, hid, hkind, hrunning | ⟨hpending, howns⟩⟩ := h
  · exact reserves_iff.mpr ⟨by rw [hrunning]; rfl, job, hjob, hid, hkind, .inl hrunning⟩
  · exact reserves_iff.mpr ⟨by rw [hpending]; rfl, job, hjob, hid, hkind, .inr howns⟩

lemma sameContent_iff {p q : Photo} : sameContent p q = true ↔
    p.id = q.id ∨ ∃ hash, hash ≠ "" ∧ p.sha256 = some hash ∧ q.sha256 = some hash := by
  simp only [sameContent, Bool.or_eq_true, beq_iff_eq, Bool.and_eq_true, bne_iff_ne]
  constructor
  · rintro (hid | ⟨hne, hq⟩)
    · exact .inl hid.symm
    · cases hp : p.sha256 with
      | none => simp [hp] at hne
      | some hash => exact .inr ⟨hash, by simpa [hp] using hne, rfl, by rw [hq, hp]⟩
  · rintro (hid | ⟨hash, hne, hp, hq⟩)
    · exact .inl hid.symm
    · exact .inr ⟨by simpa [hp] using hne, by rw [hp, hq]⟩

lemma sameContent_comm (p q : Photo) : sameContent p q = sameContent q p := by
  rw [Bool.eq_iff_iff, sameContent_iff, sameContent_iff]
  constructor
  · rintro (hid | ⟨hash, hne, hp, hq⟩)
    · exact .inl hid.symm
    · exact .inr ⟨hash, hne, hq, hp⟩
  · rintro (hid | ⟨hash, hne, hp, hq⟩)
    · exact .inl hid.symm
    · exact .inr ⟨hash, hne, hq, hp⟩

/-- A reserving item with the content of `p` makes `p` reserved. -/
lemma reserved_of_item {db : Db} {batchHolds : Photo → Bool} {p q : Photo} {item : Item} (hitem : item ∈ db.items)
    (hq : q ∈ db.photos) (hphoto : item.photoId = some q.id) (hsame : sameContent p q = true)
    (hreserves : db.reserves item = true) : reservedAnalysis db batchHolds p = true := by
  unfold reservedAnalysis
  rw [Bool.or_eq_true]
  left
  refine Table.any_of_mem hitem ?_
  simp only [hphoto, hreserves, Bool.and_true]
  exact Table.any_of_mem hq (by simp [hsame])

/-- Reserving items of one content belong to one job. -/
def OneReserver (db : Db) : Prop :=
  ∀ a ∈ db.items, ∀ b ∈ db.items, db.reserves a = true → db.reserves b = true → ∀ p ∈ db.photos, ∀ q ∈ db.photos,
    a.photoId = some p.id → b.photoId = some q.id → sameContent p q = true → a.jobId = b.jobId

lemma OneReserver.oneOwner {db : Db} (h : OneReserver db) : OneOwner db := by
  intro a ha b hb hholds_a hholds_b p hp q hq hphoto_a hphoto_b hsame
  exact h a ha b hb hholds_a.reserves hholds_b.reserves p hp q hq hphoto_a hphoto_b (sameContent_iff.mpr hsame)

/-! ### Finished jobs -/

/-- Finished, but not cancelled. -/
def JobStatus.finished : JobStatus → Bool
  | .completed | .completedWithErrors | .failed => true
  | _ => false

lemma guarded_finished : Guarded JobStatus.finished ItemStatus.unsettled where
  unsettled := fun _ h => h
  pending := rfl
  claimable := by
    intro status
    cases status <;> decide
  pausing := rfl
  paused := by
    intro hclosed
    cases hclosed
  cancelled := by
    intro hclosed
    cases hclosed

lemma Op.ordinary.ofCallSite {op : Op} (h : op.ordinary = true) : op.ofCallSite = true := by
  cases op <;> first | exact h | cases h

lemma respects_of_ordinary {db : Db} {op : Op} (h : op.ordinary = true) :
    Respects JobStatus.finished ItemStatus.unsettled db op where
  requeue := fun _ _ _ _ _ _ _ _ => rfl
  transition := by
    rintro jobId fromStatuses toStatus rfl hclosed
    obtain ⟨call, -, rfl⟩ := ofCallSite_transition (Op.ordinary.ofCallSite h)
    cases call <;> cases hclosed
  finalize := by
    rintro jobId target rfl
    cases h
  abandon := by
    rintro jobId rfl
    cases h

/-! ### Steps -/

section Step

variable {db db' : Db} {op : Op}

/-- An item that did not hold its photo before and does now: a retry brought it back. -/
structure Reacquired (db : Db) (op : Op) (item : Item) : Prop where
  retry : ∃ batchHolds now, op = .retryFailed item.jobId batchHolds now
  free : ∀ p ∈ db.photos, item.photoId = some p.id → reservedAnalysis db (fun _ => false) p = false

lemma owned_of_move {job : Job} {item : Item} {status : JobStatus} (hordinary : op.ordinary = true)
    (hfinished : Excludes JobStatus.finished ItemStatus.unsettled db) (hjob : job ∈ db.jobs)
    (hitem : item ∈ db.items) (hid : item.jobId = job.id) (hunsettled : item.state.status.unsettled = true)
    (hmove : JobMove db job op status) (howns : status.ownsQueue = true) : job.state.status.ownsQueue = true := by
  cases hmove with
  | stay => exact howns
  | transitioned hfrom =>
    obtain ⟨call, rfl, rfl⟩ := ofCallSite_transition (Op.ordinary.ofCallSite hordinary)
    cases call <;> cases hs : job.state.status <;> simp_all [TransitionCall.fromStatuses, JobStatus.ownsQueue]
  | pausing hclaimable | paused hclaimable _ =>
    cases hs : job.state.status <;> simp_all [JobStatus.claimable, JobStatus.ownsQueue]
  | acknowledged hpausing _ | drained hpausing _ =>
    rw [hpausing]
    rfl
  | retried hretryable =>
    -- a finished job has nothing left that could be held
    have hfin : job.state.status.finished = true := by
      cases hs : job.state.status <;> simp_all [JobStatus.retryable, JobStatus.finished]
    rw [hfinished job hjob item hitem hid hfin] at hunsettled
    cases hunsettled
  | finalized _ _ htarget => obtain rfl | rfl := htarget <;> cases howns
  | cancelled | quarantined => cases howns
  | batchFinalized | abandoned | reopened => cases hordinary

lemma reserves_of_move (hordinary : op.ordinary = true)
    (hfinished : Excludes JobStatus.finished ItemStatus.unsettled db)
    (hjobs : JobsBy (fun job status => JobMove db job op status) db db') {item : Item} {state : ItemState}
    (hitem : item ∈ db.items) (hmove : ItemMove db db' item op state)
    (hreserves : db'.reserves { item with state } = true) :
    db.reserves item = true ∨ Reacquired db op item := by
  obtain ⟨hunsettled, after, hafter, hid, hkind, hholds⟩ := reserves_iff.mp hreserves
  obtain ⟨job, hjob, jobState, rfl, hjobMove⟩ := hjobs after hafter
  cases hmove with
  | stay | renewed | heldBack =>
    left
    refine reserves_iff.mpr ⟨hunsettled, job, hjob, hid, hkind, ?_⟩
    obtain hrunning | howns := hholds
    · exact .inl hrunning
    · exact .inr (owned_of_move hordinary hfinished hjob hitem hid.symm hunsettled hjobMove howns)
  | claimed hother hother_id hclaimable hpending =>
    left
    refine reserves_iff.mpr ⟨by rw [hpending]; rfl, _, hother, hother_id, ?_, .inr ?_⟩
    · rw [Table.eq_of_key_eq hother hjob (hother_id.trans hid.symm)]
      exact hkind
    · revert hclaimable
      generalize JobState.status _ = status
      cases status <;> decide
  | deferred hrunning _ | requeued hrunning _ _ =>
    exact .inl (reserves_iff.mpr ⟨by rw [hrunning]; rfl, job, hjob, hid, hkind, .inl hrunning⟩)
  | recovered hstale _ _ =>
    have hrunning := stale_running hstale
    exact .inl (reserves_iff.mpr ⟨by rw [hrunning]; rfl, job, hjob, hid, hkind, .inl hrunning⟩)
  | retried hother hother_id _ _ hfree _ =>
    right
    refine ⟨⟨_, _, rfl⟩, ?_⟩
    intro p hp hphoto
    have hother_eq := Table.eq_of_key_eq hother hjob (hother_id.trans hid.symm)
    have hnone := hfree (by rw [hother_eq]; exact hkind) p hp hphoto
    unfold reservedAnalysis at hnone ⊢
    rw [Bool.or_eq_false_iff] at hnone
    rw [hnone.1]
    rfl
  | reopened => cases hordinary
  | completed | dropped | late | failed | givenUp | cancelled | quarantined | abandoned | batchCompleted |
    batchFailed | batchCancelled => cases hunsettled

lemma moved_oneReserver (hordinary : op.ordinary = true)
    (hfinished : Excludes JobStatus.finished ItemStatus.unsettled db) (h : OneReserver db) (hmoved : Moved db op db') :
    OneReserver db' := by
  intro a ha b hb hreserves_a hreserves_b p hp q hq hphoto_a hphoto_b hsame
  rw [hmoved.frame.photos] at hp hq
  obtain ⟨a, hbefore_a, stateA, rfl, hmove_a⟩ := hmoved.items a ha
  obtain ⟨b, hbefore_b, stateB, rfl, hmove_b⟩ := hmoved.items b hb
  obtain hold_a | hnew_a := reserves_of_move hordinary hfinished hmoved.jobs hbefore_a hmove_a hreserves_a
  · obtain hold_b | hnew_b := reserves_of_move hordinary hfinished hmoved.jobs hbefore_b hmove_b hreserves_b
    · exact h a hbefore_a b hbefore_b hold_a hold_b p hp q hq hphoto_a hphoto_b hsame
    · have hfree := hnew_b.free q hq hphoto_b
      rw [reserved_of_item hbefore_a hp hphoto_a (by rw [sameContent_comm]; exact hsame) hold_a] at hfree
      cases hfree
  · obtain hold_b | hnew_b := reserves_of_move hordinary hfinished hmoved.jobs hbefore_b hmove_b hreserves_b
    · have hfree := hnew_a.free p hp hphoto_a
      rw [reserved_of_item hbefore_b hq hphoto_b hsame hold_b] at hfree
      cases hfree
    · -- both come back through the same retry, of one job
      obtain ⟨_, _, hretry_a⟩ := hnew_a.retry
      obtain ⟨_, _, hretry_b⟩ := hnew_b.retry
      rw [hretry_a] at hretry_b
      injection hretry_b

lemma created_reserves {jobId : String} {kind : JobKind} (howned : ItemsOwned db)
    (hcreated : Created db jobId kind db') {item : Item} (hitem : item ∈ db'.items)
    (hreserves : db'.reserves item = true) :
    (item ∈ db.items ∧ db.reserves item = true) ∨
      (item.jobId = jobId ∧ ∀ p ∈ db.photos, item.photoId = some p.id →
        reservedAnalysis db (fun _ => false) p = false) := by
  obtain ⟨hunsettled, job, hjob, hid, hkind, hholds⟩ := reserves_iff.mp hreserves
  obtain hold | ⟨hnew, -, hfree⟩ := hcreated.items item hitem
  · left
    obtain hjob_old | ⟨hjob_id, -⟩ := hcreated.jobs job hjob
    · exact ⟨hold, reserves_iff.mpr ⟨hunsettled, job, hjob_old, hid, hkind, hholds⟩⟩
    · have hknown := howned item hold
      rw [← hid, hjob_id] at hknown
      exact absurd hknown hcreated.fresh
  · right
    obtain hjob_old | ⟨-, hjob_kind, -⟩ := hcreated.jobs job hjob
    · have hknown := mem_jobIds hjob_old
      rw [hid, hnew] at hknown
      exact absurd hknown hcreated.fresh
    · exact ⟨hnew, hfree (by rw [← hjob_kind]; exact hkind)⟩

lemma created_oneReserver {jobId : String} {kind : JobKind} (howned : ItemsOwned db) (h : OneReserver db)
    (hcreated : Created db jobId kind db') : OneReserver db' := by
  intro a ha b hb hreserves_a hreserves_b p hp q hq hphoto_a hphoto_b hsame
  rw [hcreated.photos] at hp hq
  obtain ⟨hold_a, hreserved_a⟩ | ⟨hnew_a, hfree_a⟩ := created_reserves howned hcreated ha hreserves_a
  · obtain ⟨hold_b, hreserved_b⟩ | ⟨hnew_b, hfree_b⟩ := created_reserves howned hcreated hb hreserves_b
    · exact h a hold_a b hold_b hreserved_a hreserved_b p hp q hq hphoto_a hphoto_b hsame
    · have hfree := hfree_b q hq hphoto_b
      rw [reserved_of_item hold_a hp hphoto_a (by rw [sameContent_comm]; exact hsame) hreserved_a] at hfree
      cases hfree
  · obtain ⟨hold_b, hreserved_b⟩ | ⟨hnew_b, -⟩ := created_reserves howned hcreated hb hreserves_b
    · have hfree := hfree_a p hp hphoto_a
      rw [reserved_of_item hold_b hq hphoto_b hsame hreserved_b] at hfree
      cases hfree
    · rw [hnew_a, hnew_b]

end Step

/-- Ownership, with what it rests on. -/
structure ReservationsHold (db : Db) : Prop where
  owned : ItemsOwned db
  finished : Excludes JobStatus.finished ItemStatus.unsettled db
  single : OneReserver db

lemma step_reservationsHold {db : Db} {op : Op} (h : ReservationsHold db) (hordinary : op.ordinary = true) :
    ReservationsHold (step db op) where
  owned := step_itemsOwned h.owned op
  finished := step_excludes guarded_finished (respects_of_ordinary hordinary) h.finished
  single := by
    obtain hmoved | ⟨jobId, kind, hcreated⟩ := step_cases db op
    · exact moved_oneReserver hordinary h.finished h.single hmoved
    · exact created_oneReserver h.owned h.single hcreated

/-- In every state an ordinary run reaches, each content has at most one owning job. -/
theorem one_analysis_owner (photos : Table Photo.id) (ops : List Op) (hops : ∀ op ∈ ops, op.ordinary = true) :
    OneOwner (Runs.run step (Db.opening photos) ops) := by
  have hholds : ReservationsHold (Runs.run step (Db.opening photos) ops) := by
    refine Runs.invariant_of_along (fun _ _ => step_reservationsHold) ?_
      (Runs.Along.of_forall hops fun _ _ h => h)
    exact ⟨opening_itemsOwned photos, fun _ hjob => (by cases hjob), fun _ hitem => (by cases hitem)⟩
  exact hholds.single.oneOwner

/-- A second request for the photo of a running analysis, refused. -/
theorem one_analysis_owner_second_request :
    (∀ op ∈ startedRun ++ [.create { jobId := "other", photoIds := ["photo"], drawnId := fun _ => "copy" }],
      op.ordinary = true) ∧
    OneOwner (Runs.run step (Db.opening onePhoto)
      (startedRun ++ [.create { jobId := "other", photoIds := ["photo"], drawnId := fun _ => "copy" }])) :=
  ⟨by decide, one_analysis_owner onePhoto _ (by decide)⟩

end InkTime.Jobs
