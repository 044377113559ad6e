import InkTime.Submission.Turns

/-!
# The reservation of a batch

`_submit_one` reserves the budget of a batch under the id of the batch, and its handler releases it under that id for
every definite failure, whoever holds the reservation. A run of the machine is careful when a handler finds the
reservation its own, or none. In careful runs a reservation lasts until its submission is rejected or its costs are
settled, and a submission that finds the batch claimed leaves everything as it is.
-/

namespace InkTime.Submission

open Batches (Batch BatchState truthy)

/-! ### Rejected and lost submissions -/

namespace Submit

/-- The exception that `_submit_one` has caught or raised. -/
def raised (run : Submit) : Option Failure :=
  match run.point with
  | .catching failure => some failure
  | .releasing caught | .choosing caught | .holding caught _ | .holdReleasing caught _ | .holdPausing caught _
  | .holdMarking caught _ | .markingUpload caught | .markingSubmission caught _ | .cleaning caught | .listing caught
  | .retrying caught _ | .failingJobItem caught _ _ | .failingLocally caught | .pausing caught | .creditMarking caught =>
    some caught.failure
  | .finished raised => raised
  | _ => none

/-- A definite rejection before any remote batch was created. -/
def rejected (run : Submit) : Bool := run.raised.any (fun failure => !failure.uncertain) && !run.remoteCreated

/-- It raises `BATCH-ALREADY-CLAIMED`. -/
def lost (run : Submit) : Bool := run.raised.any fun failure => failure.code == .alreadyClaimed

/-- It has won no claim and raised nothing. -/
def unclaimed (run : Submit) : Bool := !run.uploadWon && !run.won && run.raised.isNone

/-- What the points say about claims, the reservation and the exception. -/
def Sound (run : Submit) : Prop :=
  match run.point with
  | .entering | .checking .first _ | .reading | .claimingUpload | .rereading | .claimingSubmission => run.reserved = false
  | .preparingUpload | .checking .upload _ | .uploading | .savingUpload _ => run.reserved = false ∧ run.uploadWon = true
  | .reserving | .checking .last _ | .creating | .saving _ => run.won = true
  | .catching failure => failure.code = .alreadyClaimed → run.reserved = false
  | .releasing caught =>
    (caught.failure.code = .alreadyClaimed → run.reserved = false) ∧ caught.failure.uncertain = false ∧ run.remoteCreated = false
  | .choosing caught => caught.failure.code = .alreadyClaimed → run.reserved = false
  | .holding caught _ | .holdReleasing caught _ | .holdPausing caught _ | .holdMarking caught _ | .markingUpload caught
  | .markingSubmission caught _ | .cleaning caught | .listing caught | .retrying caught _ | .failingJobItem caught _ _
  | .failingLocally caught | .pausing caught | .creditMarking caught => caught.failure.code ≠ .alreadyClaimed
  | .finished _ => True

lemma fail_sound {run : Submit} {code : Code} (h : code ≠ .alreadyClaimed) : (run.fail code).Sound :=
  fun hcode => absurd hcode h

lemma refusal_code (refusal : Refusal) : refusal.failure.code ≠ .alreadyClaimed := by
  cases refusal <;> simp [Refusal.failure]

lemma refusal_sound (run : Submit) (refusal : Refusal) : (run.goto (.catching refusal.failure)).Sound :=
  fun hcode => absurd hcode (refusal_code refusal)

lemma ofError_code (error : Batches.BatchError) : Code.ofError error = .submit ∨ Code.ofError error = .value := by
  cases error <;> simp [Code.ofError]

lemma ofError_sound (run : Submit) (error : Batches.BatchError) : (run.fail (Code.ofError error)).Sound := by
  apply fail_sound
  obtain h | h := ofError_code error <;> rw [h] <;> simp

lemma assertSubmissionAllowed_code {w : World} {batchId : String} {answer : Answer} {part : Part} {code : Code}
    (h : assertSubmissionAllowed w batchId answer part = some code) : code ≠ .alreadyClaimed := by
  unfold assertSubmissionAllowed at h
  rintro rfl
  cases part <;> (dsimp only at h; split_ifs at h <;> cases h)

lemma settled_sound (run : Submit) {caught : Caught} (h : caught.failure.code ≠ .alreadyClaimed) : (run.settled caught).Sound := by
  obtain heq | heq := run.settled_eq caught
  · rw [heq]
    exact h
  · rw [heq]
    trivial

lemma choose_sound (run : Submit) (w : World) (caught : Caught) : (run.choose w caught).Sound := by
  unfold choose
  dsimp only
  split_ifs with hbilling hraised
  · -- a billing rejection is not a lost claim
    intro hcode
    simp [hcode, Code.billing] at hbilling
  · trivial
  all_goals
    intro hcode
    simp [hcode] at hraised

/-- A step keeps what the points say. -/
theorem next_sound {run : Submit} (h : run.Sound) (w : World) (answer : Answer) : (run.next w answer).2.Sound := by
  cases hpoint : run.point with
  | entering =>
    simp only [Sound, hpoint] at h
    simp only [next, hpoint]
    split
    · trivial
    · split_ifs
      · trivial
      · trivial
      · exact h
  | checking round part =>
    simp only [next, hpoint]
    split
    · next code hcode => exact fail_sound (assertSubmissionAllowed_code hcode)
    · cases round <;> cases part <;> simp only [Sound, hpoint] at h <;> exact h
  | reading =>
    simp only [Sound, hpoint] at h
    simp only [next, hpoint]
    split
    · exact fail_sound (by simp)
    · split_ifs <;> exact h
  | claimingUpload =>
    simp only [Sound, hpoint] at h
    simp only [next, hpoint]
    exact asks_snd (p := Sound) ⟨h, rfl⟩ (fun _ => h) fun error => ofError_sound run error
  | preparingUpload =>
    simp only [Sound, hpoint] at h
    simp only [next, hpoint]
    split_ifs
    · exact fail_sound (by simp)
    · exact fail_sound (by simp)
    · split
      · exact refusal_sound run _
      · exact h
  | uploading =>
    simp only [Sound, hpoint] at h
    simp only [next, hpoint]
    split
    · exact refusal_sound run _
    · split_ifs
      · exact fail_sound (by simp)
      · exact h
  | savingUpload fileId =>
    simp only [Sound, hpoint] at h
    simp only [next, hpoint]
    exact asks_snd (p := Sound) h.1 (fail_sound (by simp)) fun error => ofError_sound run error
  | rereading =>
    simp only [Sound, hpoint] at h
    simp only [next, hpoint]
    split_ifs
    · exact h
    · exact fail_sound (by simp)
  | claimingSubmission =>
    simp only [Sound, hpoint] at h
    simp only [next, hpoint]
    exact asks_snd (p := Sound) rfl (fun _ => h) fun error => ofError_sound run error
  | reserving =>
    simp only [Sound, hpoint] at h
    simp only [next, hpoint]
    split
    · exact refusal_sound run _
    · split_ifs
      · exact fail_sound (by simp)
      · split
        · exact refusal_sound run _
        · exact h
  | creating =>
    simp only [Sound, hpoint] at h
    simp only [next, hpoint]
    split
    · exact refusal_sound run _
    · split_ifs
      · exact h
      · intro hcode
        cases hcode
  | saving remote =>
    simp only [next, hpoint]
    exact asks_snd (p := Sound) trivial (fail_sound (by simp)) fun error => ofError_sound run error
  | catching failure =>
    simp only [Sound, hpoint] at h
    simp only [next, hpoint]
    split_ifs with hdefinite
    · simp only [Bool.and_eq_true, Bool.not_eq_true'] at hdefinite
      exact ⟨h, hdefinite.1, hdefinite.2⟩
    · exact h
  | releasing caught =>
    simp only [Sound, hpoint] at h
    simp only [next, hpoint]
    exact h.1
  | choosing caught =>
    simp only [next, hpoint]
    exact choose_sound run w caught
  | markingUpload caught | markingSubmission caught errorCode =>
    simp only [Sound, hpoint] at h
    simp only [next, hpoint]
    exact settled_sound run h
  | retrying caught items =>
    simp only [Sound, hpoint] at h
    cases items with
    | nil =>
      simp only [next, hpoint]
      exact settled_sound run h
    | cons item rest =>
      simp only [next, hpoint]
      split_ifs <;> exact h
  | failingLocally caught =>
    simp only [Sound, hpoint] at h
    simp only [next, hpoint]
    exact asks_snd (p := Sound) (settled_sound run h) (settled_sound run h) fun _ => trivial
  | finished raised =>
    simp only [next, hpoint]
    exact h
  | holding | holdReleasing | holdPausing | cleaning | listing | failingJobItem | pausing =>
    simp only [Sound, hpoint] at h
    simp only [next, hpoint]
    exact h
  | holdMarking | creditMarking =>
    simp only [next, hpoint]
    trivial

/-- Only the handler of a definite failure releases. -/
lemma next_release {run : Submit} {w : World} {answer : Answer} {batchId : String}
    (h : (run.next w answer).1 = .release batchId) : (∃ caught, run.point = .releasing caught) ∧ batchId = run.batchId := by
  cases hpoint : run.point with
  | releasing caught =>
    simp only [next, hpoint] at h
    exact ⟨⟨caught, rfl⟩, (Effect.release.inj h).symm⟩
  | retrying caught items => cases items <;> simp [next, hpoint] at h
  | entering | checking | reading | preparingUpload | uploading | rereading | reserving | creating | catching =>
    simp only [next, hpoint] at h
    repeat' split at h
    all_goals cases h
  | _ => simp [next, hpoint, asks] at h

/-- A run reserves once, for its own batch. -/
lemma next_reserved (run : Submit) (w : World) (answer : Answer) :
    (run.next w answer).2.reserved = run.reserved ∨ (run.next w answer).1 = .reserve run.batchId := by
  cases hpoint : run.point with
  | reserving =>
    simp only [next, hpoint]
    repeat' split
    all_goals first
      | exact .inl rfl
      | exact .inr rfl
  | choosing caught =>
    left
    simp only [next, hpoint, choose]
    split_ifs <;> rfl
  | markingUpload caught | markingSubmission caught errorCode =>
    left
    simp only [next, hpoint]
    obtain heq | heq := run.settled_eq caught <;> rw [heq] <;> rfl
  | retrying caught items =>
    left
    cases items with
    | nil =>
      simp only [next, hpoint]
      obtain heq | heq := run.settled_eq caught <;> rw [heq] <;> rfl
    | cons item rest =>
      simp only [next, hpoint]
      split_ifs <;> rfl
  | failingLocally caught =>
    left
    have hsettled : (run.settled caught).reserved = run.reserved := by
      obtain heq | heq := run.settled_eq caught <;> rw [heq] <;> rfl
    simp only [next, hpoint]
    exact asks_snd (p := fun after : Submit => after.reserved = run.reserved) hsettled hsettled fun _ => rfl
  | claimingUpload | savingUpload | claimingSubmission | saving =>
    left
    simp only [next, hpoint]
    exact asks_snd (p := fun after : Submit => after.reserved = run.reserved) rfl rfl fun _ => rfl
  | entering | checking | reading | preparingUpload | uploading | rereading | creating | catching =>
    left
    simp only [next, hpoint]
    repeat' split
    all_goals rfl
  | releasing | holding | holdReleasing | holdPausing | holdMarking | cleaning | listing | failingJobItem | pausing
  | creditMarking =>
    left
    simp only [next, hpoint]
    rfl
  | finished =>
    left
    simp only [next, hpoint]

lemma rejected_iff {run : Submit} :
    run.rejected = true ↔ (∃ failure, run.raised = some failure ∧ failure.uncertain = false) ∧ run.remoteCreated = false := by
  simp [rejected, Option.any_eq_true]

lemma settled_rejected {run : Submit} {caught : Caught} (hdefinite : caught.failure.uncertain = false)
    (hcreated : run.remoteCreated = false) : (run.settled caught).rejected = true := by
  obtain heq | heq := run.settled_eq caught <;> rw [heq] <;> simp [rejected, raised, goto, hdefinite, hcreated]

/-- A rejection is final. -/
theorem next_rejected {run : Submit} (h : run.rejected = true) (w : World) (answer : Answer) :
    (run.next w answer).2.rejected = true := by
  obtain ⟨⟨failure, hraised, hdefinite⟩, hcreated⟩ := rejected_iff.mp h
  cases hpoint : run.point with
  | choosing caught =>
    simp only [raised, hpoint, Option.some.injEq] at hraised
    subst hraised
    simp only [next, hpoint, choose]
    split_ifs <;> simp [rejected, raised, goto, hdefinite, hcreated]
  | catching other =>
    simp only [raised, hpoint, Option.some.injEq] at hraised
    subst hraised
    simp only [next, hpoint]
    split_ifs <;> simp [rejected, raised, goto, hdefinite, hcreated]
  | markingUpload caught | markingSubmission caught errorCode =>
    simp only [raised, hpoint, Option.some.injEq] at hraised
    subst hraised
    simp only [next, hpoint]
    exact settled_rejected hdefinite hcreated
  | retrying caught items =>
    simp only [raised, hpoint, Option.some.injEq] at hraised
    subst hraised
    cases items with
    | nil =>
      simp only [next, hpoint]
      exact settled_rejected hdefinite hcreated
    | cons item rest =>
      simp only [next, hpoint]
      split_ifs <;> simp [rejected, raised, goto, hdefinite, hcreated]
  | failingLocally caught =>
    simp only [raised, hpoint, Option.some.injEq] at hraised
    subst hraised
    simp only [next, hpoint]
    have hsettled := settled_rejected hdefinite hcreated
    refine asks_snd (p := fun after : Submit => after.rejected = true) hsettled hsettled ?_
    intro error
    obtain heq | heq := ofError_code error <;> simp [rejected, raised, goto, Failure.uncertain, heq, hcreated]
  | finished other =>
    simp only [next, hpoint]
    exact h
  | releasing | holding | holdReleasing | holdPausing | holdMarking | cleaning | listing | failingJobItem | pausing
  | creditMarking =>
    simp only [raised, hpoint, Option.some.injEq] at hraised
    subst hraised
    simp [next, hpoint, rejected, raised, goto, hdefinite, hcreated]
  | _ => simp [raised, hpoint] at hraised

end Submit

/-! ### Careful runs -/

/-- A handler that releases an active reservation has reserved itself, and no other submission of the batch that has
reserved is still to be answered. -/
def careful (w : World) : Act → Bool
  | .submitStep id _ => (w.submits.find id).all fun run =>
    match run.point with
    | .releasing _ => !w.reservationActive run.batchId || (run.reserved &&
        !w.submits.any fun other => other.id != run.id && other.batchId == run.batchId && other.reserved && !other.rejected)
    | _ => true
  | _ => true

/-- `settle_terminal_costs` finds the batch terminal, with a known cost for every item. -/
def settledBy (w : World) (selected : List String) (batchId : String) : Bool :=
  w.db.batches.any fun batch => batch.id == batchId && selected.contains batch.id && batch.state.status.terminal &&
    costComplete w batch.id

def reservedBy (w : World) (id : String) : Bool := (w.submits.find id).any Submit.reserved

section Reservations

variable {w : World} {batchId : String}

lemma reservationActive_iff :
    w.reservationActive batchId = true ↔ ∃ row ∈ w.reservations, row.id = reservationId batchId ∧ row.active = true := by
  simp [World.reservationActive, Table.any, Table.mem_iff]

lemma reservationId_inj {a b : String} (h : reservationId a = reservationId b) : a = b :=
  (String.append_right_inj _).mp h

lemma release_stays {reservations : Table Reservation.id} {matching : Reservation → Bool} {row : Reservation}
    (hrow : row ∈ reservations) (hmatch : matching row = false) : row ∈ release reservations matching :=
  Table.mem_update.mpr ⟨row, hrow, by simp [Table.revise, hmatch]⟩

lemma reserve_stays {reservations : Table Reservation.id} {id : String} {row : Reservation} (hrow : row ∈ reservations)
    (hactive : row.active = true) : ∃ after ∈ reserve reservations id, after.id = row.id ∧ after.active = true := by
  unfold reserve
  split
  · exact ⟨row, Table.mem_add_of_mem hrow, rfl, hactive⟩
  · next old hold =>
    obtain ⟨hmem, hid⟩ := Table.find_eq_some hold
    by_cases hsame : row.id = id
    · exact ⟨⟨id, true⟩, (Table.mem_put_iff hmem hid).mpr (.inl rfl), hsame.symm, rfl⟩
    · exact ⟨row, (Table.mem_put_iff hmem hid).mpr (.inr ⟨hrow, hsame⟩), rfl, hactive⟩

lemma reserve_active (reservations : Table Reservation.id) (id : String) : (⟨id, true⟩ : Reservation) ∈ reserve reservations id := by
  unfold reserve
  split
  · next hnone =>
    have hfresh : reservations.find (⟨id, true⟩ : Reservation).id = none := hnone
    exact Table.mem_add_self hfresh
  · next old hold =>
    obtain ⟨hmem, hid⟩ := Table.find_eq_some hold
    exact (Table.mem_put_iff hmem hid).mpr (.inl rfl)

/-- Only a release under its own id ends a reservation. -/
lemma active_stays {effect : Effect} (h : w.reservationActive batchId = true)
    (hrelease : ∀ other, effect = .release other → other ≠ batchId) : (w.apply effect).reservationActive batchId = true := by
  obtain ⟨row, hrow, hid, hactive⟩ := reservationActive_iff.mp h
  rw [reservationActive_iff]
  cases effect with
  | reserve other =>
    obtain ⟨after, hafter, hsame, hstays⟩ := @reserve_stays w.reservations (reservationId other) row hrow hactive
    exact ⟨after, hafter, hsame.trans hid, hstays⟩
  | release other =>
    refine ⟨row, release_stays hrow ?_, hid, hactive⟩
    rw [hid, beq_eq_false_iff_ne]
    exact fun heq => hrelease other rfl (reservationId_inj heq).symm
  | _ => exact ⟨row, hrow, hid, hactive⟩

lemma active_of_reserve : (w.apply (.reserve batchId)).reservationActive batchId = true :=
  reservationActive_iff.mpr ⟨⟨reservationId batchId, true⟩, reserve_active _ _, rfl, rfl⟩

/-- Releasing what is not active changes nothing. -/
lemma release_idle (h : w.reservationActive batchId = false) :
    release w.reservations (fun row => row.id == reservationId batchId) = w.reservations := by
  apply Table.update_of_fixed
  intro row hrow hmatch
  have hidle : row.active = false := by
    by_contra hactive
    rw [Bool.not_eq_false] at hactive
    rw [reservationActive_iff.mpr ⟨row, hrow, beq_iff_eq.mp hmatch, hactive⟩] at h
    cases h
  rw [← hidle]

end Reservations

/-! ### Steps -/

lemma Poll.next_reservations (run : Poll) (w : World) (answer : Answer) (reservations : Table Reservation.id) :
    (run.next w answer).1.reservations reservations = reservations := by
  unfold Poll.next
  split
  all_goals first
    | rfl
    | (split <;> first | rfl | (split <;> rfl))

lemma Cancel.next_reservations (run : Cancel) (w : World) (answer : Answer) (reservations : Table Reservation.id) :
    (run.next w answer).1.reservations reservations = reservations := by
  unfold Cancel.next
  split
  all_goals first
    | rfl
    | (split <;> rfl)

lemma Abandon.next_reservations (run : Abandon) (w : World) (answer : Answer) (reservations : Table Reservation.id) :
    (run.next w answer).1.reservations reservations = reservations := by
  unfold Abandon.next
  split
  all_goals first
    | rfl
    | (split <;> first | rfl | (split <;> rfl))

/-- A call of `_submit_one` before its first step. -/
def Submit.fresh (run : Submit) : Prop :=
  ∃ id batchId responsesEndpoint, run = { id, batchId, responsesEndpoint }

/-- Everything but a turn of a submission and a settlement leaves the reservations and the submissions alone. -/
lemma step_apart (w : World) (act : Act) (hturn : ∀ id answer, act ≠ .submitStep id answer)
    (hsettle : ∀ selected, act ≠ .settle selected) :
    (step w act).reservations = w.reservations ∧ ∀ run ∈ (step w act).submits, run ∈ w.submits ∨ run.fresh := by
  cases act with
  | submitStep id answer => exact absurd rfl (hturn id answer)
  | settle selected => exact absurd rfl (hsettle selected)
  | submit id batchId responsesEndpoint =>
    refine ⟨rfl, ?_⟩
    intro run hrun
    obtain hold | ⟨rfl, -⟩ := Table.mem_add hrun
    · exact .inl hold
    · exact .inr ⟨id, batchId, responsesEndpoint, rfl⟩
  | begin =>
    simp only [step]
    split
    · exact ⟨rfl, fun run hrun => .inl hrun⟩
    · exact ⟨rfl, fun run hrun => .inl hrun⟩
  | pollStep id answer =>
    simp only [step]
    split
    · exact ⟨rfl, fun run hrun => .inl hrun⟩
    · next poll _ =>
      refine ⟨poll.next_reservations w answer _, ?_⟩
      intro run hrun
      change run ∈ (poll.next w answer).1.submits w.submits at hrun
      cases heffect : (poll.next w answer).1 with
      | start added =>
        rw [heffect] at hrun
        obtain hold | ⟨rfl, -⟩ := Table.mem_add hrun
        · exact .inl hold
        · exact .inr ⟨_, _, _, Poll.next_start heffect⟩
      | _ =>
        rw [heffect] at hrun
        exact .inl hrun
  | cancelStep id answer =>
    simp only [step]
    split
    · exact ⟨rfl, fun run hrun => .inl hrun⟩
    · next cancel _ =>
      refine ⟨cancel.next_reservations w answer _, ?_⟩
      intro run hrun
      change run ∈ (cancel.next w answer).1.submits w.submits at hrun
      cases heffect : (cancel.next w answer).1 with
      | start added => exact absurd heffect (cancel.next_start w answer added)
      | _ =>
        rw [heffect] at hrun
        exact .inl hrun
  | abandonStep id answer =>
    simp only [step]
    split
    · exact ⟨rfl, fun run hrun => .inl hrun⟩
    · next abandon _ =>
      refine ⟨abandon.next_reservations w answer _, ?_⟩
      intro run hrun
      change run ∈ (abandon.next w answer).1.submits w.submits at hrun
      cases heffect : (abandon.next w answer).1 with
      | start added => exact absurd heffect (abandon.next_start w answer added)
      | _ =>
        rw [heffect] at hrun
        exact .inl hrun
  | create | jobs | usage | send | saveResponse | finish | finishRejected | poll | cancel | abandon =>
    exact ⟨rfl, fun run hrun => .inl hrun⟩

/-- The submissions after a turn of one of them. -/
lemma mem_submitStep {w : World} {id : String} {answer : Answer} {run after : Submit} (hrun : w.submits.find id = some run)
    (hafter : after ∈ (step w (.submitStep id answer)).submits) :
    after = (run.next w answer).2 ∨ (after ∈ w.submits ∧ after.id ≠ run.id) := by
  simp only [step, hrun] at hafter
  have hmem := (Table.find_eq_some hrun).1
  have hsubmits : (run.next w answer).1.submits w.submits = w.submits := by
    cases heffect : (run.next w answer).1 with
    | start added => exact absurd heffect (run.next_not_start w answer added)
    | _ => rfl
  change after ∈ ((run.next w answer).1.submits w.submits).put (run.next w answer).2 at hafter
  rw [hsubmits] at hafter
  obtain hnew | ⟨hother, hne⟩ := (Table.mem_put_iff hmem (run.next_same w answer).1.symm).mp hafter
  · exact .inl hnew
  · exact .inr ⟨hother, by rwa [(run.next_same w answer).1] at hne⟩

def AllSound (w : World) : Prop := ∀ run ∈ w.submits, run.Sound

theorem step_sound {w : World} (h : AllSound w) (act : Act) : AllSound (step w act) := by
  intro after hafter
  cases act with
  | submitStep id answer =>
    cases hrun : w.submits.find id with
    | none =>
      simp only [step, hrun] at hafter
      exact h after hafter
    | some run =>
      obtain rfl | ⟨hother, -⟩ := mem_submitStep hrun hafter
      · exact Submit.next_sound (h run (Table.find_eq_some hrun).1) w answer
      · exact h after hother
  | settle selected => exact h after hafter
  | _ =>
    obtain hold | ⟨id, batchId, responsesEndpoint, rfl⟩ := (step_apart w _ (by simp) (by simp)).2 after hafter
    · exact h after hold
    · rfl

/-! ### A reservation lasts -/

/-- The submission lived before the step, with a reservation that was already gone and no rejection. -/
def GoneBefore (w : World) (run : Submit) : Prop :=
  ∃ before ∈ w.submits, before.id = run.id ∧ before.batchId = run.batchId ∧ before.reserved = true ∧
    before.rejected = false ∧ w.reservationActive before.batchId = false

/-- Where a handler finds an active reservation, every other submission that has reserved is rejected. -/
lemma careful_others {w : World} {id : String} {answer : Answer} {run other : Submit} {caught : Caught}
    (h : careful w (.submitStep id answer) = true) (hrun : w.submits.find id = some run) (hpoint : run.point = .releasing caught)
    (hactive : w.reservationActive run.batchId = true) (hother : other ∈ w.submits) (hne : other.id ≠ run.id)
    (hnamed : other.batchId = run.batchId) (hreserved : other.reserved = true) : other.rejected = true := by
  simp only [careful, hrun, Option.all_some, hpoint, hactive, Bool.not_true, Bool.false_or, Bool.and_eq_true,
    Bool.not_eq_true', Table.any, List.any_eq_false] at h
  have hclear := h.2 other hother
  simpa [hne, hnamed, hreserved] using hclear

lemma active_submitStep {w : World} {id : String} {answer : Answer} {run : Submit} {batchId : String}
    (hrun : w.submits.find id = some run) (hactive : w.reservationActive batchId = true)
    (hrelease : ∀ other, (run.next w answer).1 = .release other → other ≠ batchId) :
    (step w (.submitStep id answer)).reservationActive batchId = true := by
  simp only [step, hrun]
  exact active_stays hactive hrelease

/-- A turn ends a reservation only for a submission that is rejected. -/
lemma kept_submitStep {w : World} {id : String} {answer : Answer} {run after : Submit} (hsound : run.Sound)
    (hcareful : careful w (.submitStep id answer) = true) (hrun : w.submits.find id = some run)
    (hafter : after ∈ (step w (.submitStep id answer)).submits) (hreserved : after.reserved = true) :
    (step w (.submitStep id answer)).reservationActive after.batchId = true ∨ after.rejected = true ∨ GoneBefore w after := by
  have hmem := (Table.find_eq_some hrun).1
  obtain rfl | ⟨hother, hne⟩ := mem_submitStep hrun hafter
  · obtain ⟨hid, hnamed⟩ := run.next_same w answer
    obtain hkeeps | heffect := run.next_reserved w answer
    · by_cases hrejected : run.rejected = true
      · exact .inr (.inl (Submit.next_rejected hrejected w answer))
      · by_cases hactive : w.reservationActive run.batchId = true
        · left
          rw [hnamed]
          apply active_submitStep hrun hactive
          -- its own handler releases only after a rejection
          intro other heffect
          obtain ⟨⟨caught, hpoint⟩, -⟩ := Submit.next_release heffect
          simp only [Submit.Sound, hpoint] at hsound
          refine absurd ?_ hrejected
          exact Submit.rejected_iff.mpr ⟨⟨caught.failure, by simp [Submit.raised, hpoint], hsound.2.1⟩, hsound.2.2⟩
        · rw [Bool.not_eq_true] at hrejected hactive
          rw [hkeeps] at hreserved
          exact .inr (.inr ⟨run, hmem, hid.symm, hnamed.symm, hreserved, hrejected, hactive⟩)
    · left
      rw [hnamed]
      simp only [step, hrun, heffect]
      exact active_of_reserve
  · by_cases hrejected : after.rejected = true
    · exact .inr (.inl hrejected)
    · by_cases hactive : w.reservationActive after.batchId = true
      · left
        apply active_submitStep hrun hactive
        rintro other heffect rfl
        obtain ⟨⟨caught, hpoint⟩, hnamed⟩ := Submit.next_release heffect
        rw [hnamed] at hactive
        exact hrejected (careful_others hcareful hrun hpoint hactive hother hne hnamed hreserved)
      · rw [Bool.not_eq_true] at hrejected hactive
        exact .inr (.inr ⟨after, hother, rfl, rfl, hreserved, hrejected, hactive⟩)

/-- Settling releases what it has found settled. -/
lemma active_settle {w : World} {selected : List String} {batchId : String} (hactive : w.reservationActive batchId = true)
    (hsettled : settledBy w selected batchId = false) : (step w (.settle selected)).reservationActive batchId = true := by
  obtain ⟨row, hrow, hid, hactive⟩ := reservationActive_iff.mp hactive
  refine reservationActive_iff.mpr ⟨row, release_stays hrow ?_, hid, hactive⟩
  rw [hid]
  simp only [settledBy, Table.any, List.any_eq_false, Bool.and_eq_true, beq_iff_eq, not_and] at hsettled ⊢
  intro batch hbatch hselected hsettles
  obtain rfl := reservationId_inj hselected.2
  simp only [settles, Bool.and_eq_true] at hsettles
  exact hsettled batch hbatch ⟨⟨rfl, hselected.1⟩, hsettles.1.1.1.1.1.1⟩ hsettles.1.1.1.2

/-- A step ends a reservation with a rejection of its submission, or with a settlement. -/
theorem kept_step {w : World} {act : Act} {after : Submit} (hsound : AllSound w)
    (hcareful : careful w act = true) (hafter : after ∈ (step w act).submits) (hreserved : after.reserved = true) :
    (step w act).reservationActive after.batchId = true ∨ after.rejected = true ∨ GoneBefore w after ∨
      ∃ selected, act = .settle selected ∧ reservedBy w after.id = true ∧ settledBy w selected after.batchId = true := by
  have hunchanged : after ∈ w.submits → (step w act).reservations = w.reservations →
      (step w act).reservationActive after.batchId = true ∨ after.rejected = true ∨ GoneBefore w after := by
    intro hold hreservations
    by_cases hrejected : after.rejected = true
    · exact .inr (.inl hrejected)
    · by_cases hactive : w.reservationActive after.batchId = true
      · left
        rw [World.reservationActive, hreservations]
        exact hactive
      · rw [Bool.not_eq_true] at hrejected hactive
        exact .inr (.inr ⟨after, hold, rfl, rfl, hreserved, hrejected, hactive⟩)
  cases act with
  | submitStep id answer =>
    cases hrun : w.submits.find id with
    | none =>
      have hstep : step w (.submitStep id answer) = w := by simp only [step, hrun]
      rw [hstep] at hafter hunchanged ⊢
      exact (hunchanged hafter rfl).imp_right (Or.imp_right .inl)
    | some run =>
      have hturn := kept_submitStep (hsound run (Table.find_eq_some hrun).1) hcareful hrun hafter hreserved
      exact hturn.imp_right (Or.imp_right .inl)
  | settle selected =>
    have hold : after ∈ w.submits := hafter
    by_cases hsettled : settledBy w selected after.batchId = true
    · refine .inr (.inr (.inr ⟨selected, rfl, ?_, hsettled⟩))
      rw [reservedBy, Table.find_of_mem hold]
      exact hreserved
    · by_cases hrejected : after.rejected = true
      · exact .inr (.inl hrejected)
      · rw [Bool.not_eq_true] at hsettled hrejected
        by_cases hactive : w.reservationActive after.batchId = true
        · exact .inl (active_settle hactive hsettled)
        · rw [Bool.not_eq_true] at hactive
          exact .inr (.inr (.inl ⟨after, hold, rfl, rfl, hreserved, hrejected, hactive⟩))
  | _ =>
    obtain hold | ⟨id, batchId, responsesEndpoint, rfl⟩ := (step_apart w _ (by simp) (by simp)).2 after hafter
    · exact (hunchanged hold (step_apart w _ (by simp) (by simp)).1).imp_right (Or.imp_right .inl)
    · cases hreserved

/-! ### Submissions that lose -/

/-- The reservations, the batch rows and the items are as they were. -/
structure Untouched (w after : World) : Prop where
  reservations : after.reservations = w.reservations
  batches : after.db.batches = w.db.batches
  items : after.db.items = w.db.items

/-- A repository call that was not accepted changed nothing. -/
lemma asks_untouched {w : World} {op : Batches.Op} (h : ∀ db, Batches.call w.db op ≠ .ok (db, true))
    (hrefused : ∀ db, Batches.call w.db op = .ok (db, false) → db = w.db) : Batches.step w.db op = w.db := by
  rw [Batches.step]
  cases hcall : Batches.call w.db op with
  | error error => rfl
  | ok result =>
    obtain ⟨db, answer⟩ := result
    cases answer with
    | true => exact absurd hcall (h db)
    | false => exact hrefused db hcall

namespace Submit

/-- It has lost the batch, or has nothing yet. -/
def idle (run : Submit) : Bool := run.lost || run.unclaimed

lemma idle_of_raised {run : Submit} {failure : Failure} (hraised : run.raised = some failure)
    (hcode : failure.code ≠ .alreadyClaimed) : run.idle = false := by
  simp [idle, lost, unclaimed, hraised, hcode]

lemma idle_of_won {run : Submit} (hraised : run.raised = none) (hwon : run.uploadWon = true ∨ run.won = true) :
    run.idle = false := by
  obtain hwon | hwon := hwon <;> simp [idle, lost, unclaimed, hraised, hwon]

lemma fail_idle {run : Submit} {code : Code} (hcode : code ≠ .alreadyClaimed) : (run.fail code).idle = false :=
  idle_of_raised rfl hcode

lemma ofError_ne (error : Batches.BatchError) : Code.ofError error ≠ .alreadyClaimed := by
  obtain heq | heq := ofError_code error <;> rw [heq] <;> simp

lemma settled_idle {run : Submit} {caught : Caught} (hcode : caught.failure.code ≠ .alreadyClaimed) :
    (run.settled caught).idle = false := by
  obtain heq | heq := run.settled_eq caught
  · rw [heq]
    exact idle_of_raised rfl hcode
  · rw [heq]
    exact idle_of_raised rfl hcode

/-- Past its claims a submission is idle only after it has lost. -/
lemma next_idle_of_handled {run : Submit} (hsound : run.Sound) (w : World) (answer : Answer)
    (hpoint : match run.point with
      | .savingUpload _ | .reserving | .saving _ | .holding .. | .holdReleasing .. | .holdPausing .. | .holdMarking ..
      | .markingUpload _ | .markingSubmission .. | .cleaning _ | .retrying .. | .failingJobItem .. | .failingLocally _
      | .pausing _ | .creditMarking _ => True
      | _ => False) : (run.next w answer).2.idle = false := by
  cases hcase : run.point with
  | savingUpload fileId =>
    simp only [Sound, hcase] at hsound
    simp only [next, hcase]
    exact asks_snd (p := fun after : Submit => after.idle = false) (idle_of_won rfl (.inl hsound.2)) (fail_idle (by simp))
      fun error => fail_idle (ofError_ne error)
  | reserving =>
    simp only [Sound, hcase] at hsound
    simp only [next, hcase]
    split
    · exact idle_of_raised rfl (refusal_code _)
    · split_ifs
      · exact fail_idle (by simp)
      · split
        · exact idle_of_raised rfl (refusal_code _)
        · exact idle_of_won rfl (.inr hsound)
  | saving remote =>
    simp only [Sound, hcase] at hsound
    simp only [next, hcase]
    exact asks_snd (p := fun after : Submit => after.idle = false) (idle_of_won rfl (.inr hsound)) (fail_idle (by simp))
      fun error => fail_idle (ofError_ne error)
  | markingUpload caught | markingSubmission caught errorCode =>
    simp only [Sound, hcase] at hsound
    simp only [next, hcase]
    exact settled_idle hsound
  | retrying caught items =>
    simp only [Sound, hcase] at hsound
    cases items with
    | nil =>
      simp only [next, hcase]
      exact settled_idle hsound
    | cons item rest =>
      simp only [next, hcase]
      split_ifs <;> exact idle_of_raised rfl hsound
  | failingLocally caught =>
    simp only [Sound, hcase] at hsound
    simp only [next, hcase]
    exact asks_snd (p := fun after : Submit => after.idle = false) (settled_idle hsound) (settled_idle hsound)
      fun error => idle_of_raised rfl (ofError_ne error)
  | holding | holdReleasing | holdPausing | holdMarking | cleaning | failingJobItem | pausing | creditMarking =>
    simp only [Sound, hcase] at hsound
    simp only [next, hcase]
    exact idle_of_raised rfl hsound
  | _ => simp [hcase] at hpoint

end Submit

/-- A submission that has lost the batch, or has nothing yet, changes nothing. -/
theorem loser_untouched {w : World} {id : String} {answer : Answer} {run : Submit} (hsound : run.Sound)
    (hcareful : careful w (.submitStep id answer) = true) (hrun : w.submits.find id = some run)
    (h : (run.next w answer).2.idle = true) :
    Untouched w (step w (.submitStep id answer)) := by
  suffices hkept : (run.next w answer).1.reservations w.reservations = w.reservations ∧ (run.next w answer).1.db w.db = w.db by
    simp only [step, hrun]
    exact ⟨hkept.1, congrArg Batches.Db.batches hkept.2, congrArg Batches.Db.items hkept.2⟩
  cases hpoint : run.point with
  | claimingUpload =>
    simp only [Submit.next, hpoint, asks] at h ⊢
    refine ⟨rfl, asks_untouched ?_ fun db hcall => Batches.compareAndSet_eq_refused (Except.ok.inj hcall)⟩
    intro db haccepted
    simp [haccepted, Submit.idle, Submit.lost, Submit.raised, Submit.unclaimed] at h
  | claimingSubmission =>
    simp only [Submit.next, hpoint, asks] at h ⊢
    refine ⟨rfl, asks_untouched ?_ fun db hcall => Batches.compareAndSet_eq_refused (Except.ok.inj hcall)⟩
    intro db haccepted
    simp [haccepted, Submit.idle, Submit.lost, Submit.raised, Submit.unclaimed] at h
  | releasing caught =>
    simp only [Submit.Sound, hpoint] at hsound
    simp only [Submit.next, hpoint] at h ⊢
    refine ⟨release_idle ?_, rfl⟩
    -- a lost submission has not reserved, so there is nothing to release
    have hcode : caught.failure.code = .alreadyClaimed := by
      simpa [Submit.idle, Submit.lost, Submit.raised, Submit.goto, Submit.unclaimed] using h
    have hreserved := hsound.1 hcode
    simpa [careful, hrun, hpoint, hreserved] using hcareful
  | entering | checking | reading | preparingUpload | uploading | rereading | creating | catching =>
    simp only [Submit.next, hpoint]
    repeat' split
    all_goals exact ⟨rfl, rfl⟩
  | choosing | listing | finished =>
    simp only [Submit.next, hpoint]
    exact ⟨rfl, rfl⟩
  | _ =>
    rw [Submit.next_idle_of_handled hsound w answer (by simp [hpoint])] at h
    cases h

/-! ### Careful runs keep the reservation -/

/-- Since the submission has reserved, the costs of its batch were settled. -/
def Settled (jobs : Jobs.Db) (acts : List Act) (submission : Submit) : Prop :=
  ∃ earlier selected later, acts = earlier ++ .settle selected :: later ∧
    reservedBy (run (World.start jobs) earlier) submission.id = true ∧
    settledBy (run (World.start jobs) earlier) selected submission.batchId = true

/-- Budget stays reserved while a batch may cost money. -/
structure BudgetKept (jobs : Jobs.Db) (acts : List Act) : Prop where
  /-- Of every submission that has reserved, the reservation is active, or it was rejected, or its costs are settled. -/
  reserved : ∀ submission ∈ (run (World.start jobs) acts).submits, submission.reserved = true →
    (run (World.start jobs) acts).reservationActive submission.batchId = true ∨ submission.rejected = true ∨
      Settled jobs acts submission
  /-- A submission changes nothing as long as it has won nothing, and from the moment it finds the batch claimed. -/
  losers : ∀ earlier id answer later, acts = earlier ++ .submitStep id answer :: later →
    ∀ submission, (run (World.start jobs) earlier).submits.find id = some submission →
      (submission.next (run (World.start jobs) earlier) answer).2.idle = true →
      Untouched (run (World.start jobs) earlier) (step (run (World.start jobs) earlier) (.submitStep id answer))

lemma start_sound (jobs : Jobs.Db) : AllSound (World.start jobs) := fun _ h => absurd h List.not_mem_nil

lemma run_sound (jobs : Jobs.Db) (acts : List Act) : AllSound (run (World.start jobs) acts) := by
  have hstep : ∀ w act, AllSound w → AllSound (step w act) := fun _ act h => step_sound h act
  exact Runs.invariant_of_run hstep (start_sound jobs) acts

lemma Settled.snoc {jobs : Jobs.Db} {acts : List Act} {before after : Submit} (h : Settled jobs acts before)
    (hid : before.id = after.id) (hnamed : before.batchId = after.batchId) (act : Act) : Settled jobs (acts ++ [act]) after := by
  obtain ⟨earlier, selected, later, rfl, hreserved, hsettled⟩ := h
  rw [hid] at hreserved
  rw [hnamed] at hsettled
  exact ⟨earlier, selected, later ++ [act], by simp, hreserved, hsettled⟩

theorem reserved_of_careful (jobs : Jobs.Db) (acts : List Act)
    (h : Runs.Along step (fun w act => careful w act = true) (World.start jobs) acts) :
    ∀ submission ∈ (run (World.start jobs) acts).submits, submission.reserved = true →
      (run (World.start jobs) acts).reservationActive submission.batchId = true ∨ submission.rejected = true ∨
        Settled jobs acts submission := by
  induction acts using List.reverseRecOn with
  | nil => exact fun _ hmem => absurd hmem List.not_mem_nil
  | append_singleton acts act ih =>
    obtain ⟨hbefore, hact, -⟩ := Runs.along_append.mp h
    have hrun : run (World.start jobs) (acts ++ [act]) = step (run (World.start jobs) acts) act := Runs.run_append _ _ _ _
    rw [hrun]
    intro submission hmem hreserved
    obtain hactive | hrejected | ⟨before, hbefore_mem, hid, hnamed, hbefore_reserved, hunrejected, hgone⟩ |
        ⟨selected, rfl, hown, hsettled⟩ := kept_step (run_sound jobs acts) hact hmem hreserved
    · exact .inl hactive
    · exact .inr (.inl hrejected)
    · -- the reservation was gone before, and then for a reason
      obtain hactive | hrejected | hsettled := ih hbefore before hbefore_mem hbefore_reserved
      · rw [hgone] at hactive
        cases hactive
      · rw [hunrejected] at hrejected
        cases hrejected
      · exact .inr (.inr (hsettled.snoc hid hnamed act))
    · exact .inr (.inr ⟨acts, selected, [], rfl, hown, hsettled⟩)

theorem budget_kept_of_careful (jobs : Jobs.Db) (acts : List Act)
    (h : Runs.Along step (fun w act => careful w act = true) (World.start jobs) acts) : BudgetKept jobs acts := by
  refine ⟨reserved_of_careful jobs acts h, ?_⟩
  rintro earlier id answer later rfl submission hfound hidle
  obtain ⟨-, hact, -⟩ := Runs.along_append.mp h
  exact loser_untouched (run_sound jobs earlier submission (Table.find_eq_some hfound).1) hact hfound hidle

/-- The provider accepts a file and then a batch. -/
def accepting : Answer :=
  { leaseUntil := 900, fileId := "file-1", remote := { id := some "batch_r", status := some "validating" } }

/-- A submission that the provider rejects, and another one that waits. -/
def rejection : List Act :=
  [.create "b" none [], .submit "x" "b" false] ++ List.replicate 18 (.submitStep "x" accepting) ++
    List.replicate 4 (.submitStep "x" { raised := some (.other "invalid_request" false) }) ++ [.submit "y" "b" false]

theorem budget_kept_of_rejection :
    Runs.Along step (fun w act => careful w act = true) (World.start ⟨.empty, .empty, .empty⟩) rejection ∧
      BudgetKept ⟨.empty, .empty, .empty⟩ rejection :=
  ⟨by decide, budget_kept_of_careful _ rejection (by decide)⟩

/-- `y` finds the batch claimed by `x`, which has reserved and is about to call the provider. -/
def lateClaim : List Act :=
  [.create "b" none [], .submit "x" "b" false, .submit "y" "b" false] ++ List.replicate 15 (.submitStep "x" accepting) ++
    List.replicate 9 (.submitStep "y" accepting)

/-- The reservation of `x` is released, although `x` was not rejected and nothing is settled. -/
theorem reservation_released_by_loser : ¬BudgetKept ⟨.empty, .empty, .empty⟩ lateClaim := by
  intro h
  have hkept := h.reserved
    { id := "x", batchId := "b", uploadAttempt := true, submissionAttempt := true, uploadWon := true, won := true,
      reserved := true, point := .checking .last .singles } (Table.mem_iff.mpr (by decide)) rfl
  obtain hactive | hrejected | ⟨earlier, selected, later, hacts, -⟩ := hkept
  · exact absurd hactive (by decide)
  · exact absurd hrejected (by decide)
  · have hmem : Act.settle selected ∈ lateClaim := by
      rw [hacts]
      simp
    simp [lateClaim] at hmem

end InkTime.Submission
