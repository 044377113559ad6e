import InkTime.Submission.Phases

/-!
# One remote batch for a local one

Polls, cancellations and abandonments leave the phases of a batch alone as long as the run is orderly. With the turns
of the submissions this makes every orderly run keep every batch in a phase.
-/

namespace InkTime.Submission

open Batches (Batch BatchState BatchStatus Remote RemoteStatus truthy)

/-! ### Polls, cancellations and abandonments -/

/-- The row of the batch has a remote batch. -/
def boundOn (w : World) (id : String) : Prop :=
  ∃ batch, w.db.batches.find id = some batch ∧ batch.state.remoteBatchId.isSome = true

/-- A poll that asks for the remote batch has found one on the row, and the answer does not rename it. -/
def Poll.Bound (w : World) (run : Poll) : Prop :=
  match run.point with
  | .retrieving _ => boundOn w run.batchId
  | .versioning remote | .reporting remote _ => remote.remoteBatchId = none ∧ boundOn w run.batchId
  | _ => True

def Cancel.Bound (w : World) (run : Cancel) : Prop :=
  match run.point with
  | .claiming _ | .choosing _ | .cancelling _ => boundOn w run.batchId
  | .versioning remote | .reporting remote _ => remote.remoteBatchId = none ∧ boundOn w run.batchId
  | _ => True

lemma Wrote.bound_stays {id : String} {state after : BatchState} {effect : Effect} (h : Wrote id state effect after)
    (hbound : state.remoteBatchId.isSome = true) : after.remoteBatchId.isSome = true := by
  cases h with
  | kept same => rw [same.remote, hbound]
  | bound => rfl
  | @reported remote _ _ status =>
    change (remote.remoteBatchId <|> state.remoteBatchId).isSome = true
    cases remote.remoteBatchId with
    | none => simpa using hbound
    | some remoteId => rfl
  | finalized _ ids | abandoned _ ids => rw [ids.remote, hbound]
  | @written change => rw [(change.apply_ids state).2.1, hbound]
  | _ => exact hbound

lemma boundOn_stays {w w' : World} {effect : Effect} {id : String} (hserves : effect.serves = true)
    (hdb : w'.db.batches = (effect.db w.db).batches) (h : boundOn w id) : boundOn w' id := by
  obtain ⟨batch, hfound, hbound⟩ := h
  obtain ⟨after, hafter, hwrote⟩ := found_wrote hfound hserves hdb
  exact ⟨after, hafter, hwrote.bound_stays hbound⟩

lemma Poll.Bound.mono {w w' : World} {run : Poll} (h : run.Bound w) (hstays : ∀ id, boundOn w id → boundOn w' id) :
    run.Bound w' := by
  unfold Poll.Bound at *
  split
  · next hpoint => rw [hpoint] at h; exact hstays _ h
  · next hpoint => rw [hpoint] at h; exact ⟨h.1, hstays _ h.2⟩
  · next hpoint => rw [hpoint] at h; exact ⟨h.1, hstays _ h.2⟩
  · trivial

lemma Cancel.Bound.mono {w w' : World} {run : Cancel} (h : run.Bound w) (hstays : ∀ id, boundOn w id → boundOn w' id) :
    run.Bound w' := by
  unfold Cancel.Bound at *
  split
  · next hpoint => rw [hpoint] at h; exact hstays _ h
  · next hpoint => rw [hpoint] at h; exact hstays _ h
  · next hpoint => rw [hpoint] at h; exact hstays _ h
  · next hpoint => rw [hpoint] at h; exact ⟨h.1, hstays _ h.2⟩
  · next hpoint => rw [hpoint] at h; exact ⟨h.1, hstays _ h.2⟩
  · trivial

lemma owner_ne {a b : String} : "poll:" ++ a ≠ "submit:" ++ b := by
  intro h
  have hlist := congrArg String.toList h
  simp at hlist

lemma owner_ne' {a b : String} : "cancel:" ++ a ≠ "submit:" ++ b := by
  intro h
  have hlist := congrArg String.toList h
  simp at hlist

namespace Poll

def Same (run after : Poll) : Prop := after.id = run.id ∧ after.batchId = run.batchId

lemma dispatch_same (run : Poll) (w : World) (answer : Answer) (batch : Batch) :
    Same run (run.dispatch w answer batch) := by
  unfold dispatch
  dsimp only
  repeat' split
  all_goals exact ⟨rfl, rfl⟩

lemma handleFrozenPlanFailure_same (run : Poll) (batch : Batch) (code : String) :
    Same run (run.handleFrozenPlanFailure batch code) := by
  unfold handleFrozenPlanFailure
  dsimp only
  split_ifs <;> exact ⟨rfl, rfl⟩

lemma returned_same (run : Poll) (resumed : Bool) (result : Option Failure) :
    Same run (run.returned resumed result) := by
  unfold returned
  split
  · exact ⟨rfl, rfl⟩
  · split
    · exact ⟨rfl, rfl⟩
    · split <;> exact ⟨rfl, rfl⟩

theorem next_same (run : Poll) (w : World) (answer : Answer) : Same run (run.next w answer).2 := by
  cases hpoint : run.point with
  | reading =>
    simp only [next, hpoint]
    split
    · exact ⟨rfl, rfl⟩
    · exact dispatch_same _ _ _ _
  | planReading code =>
    simp only [next, hpoint]
    split
    · exact ⟨rfl, rfl⟩
    · exact handleFrozenPlanFailure_same _ _ _
  | awaiting submitId resumed =>
    simp only [next, hpoint]
    split
    · exact returned_same _ _ _
    · exact ⟨rfl, rfl⟩
  | claiming | failingLocally | reporting =>
    simp only [next, hpoint]
    exact Submit.asks_snd (p := Same run) ⟨rfl, rfl⟩ ⟨rfl, rfl⟩ fun _ => ⟨rfl, rfl⟩
  | reopening | planWriting | uploadFinding | uploadHolding | submissionFinding | submissionHolding =>
    simp only [next, hpoint, writes]
    split <;> exact ⟨rfl, rfl⟩
  | holdingItems status items =>
    cases items <;> simp only [next, hpoint] <;> exact ⟨rfl, rfl⟩
  | listing | resuming | releasing | noting | submitting | retrieving =>
    simp only [next, hpoint]
    repeat' split
    all_goals exact ⟨rfl, rfl⟩
  | holdListing | versioning | writingError | closing | finished =>
    simp only [next, hpoint]
    exact ⟨rfl, rfl⟩

theorem next_serves (run : Poll) (w : World) (answer : Answer) : (run.next w answer).1.serves = true := by
  unfold next
  split
  all_goals first
    | rfl
    | (split <;> first | rfl | (split <;> rfl))

lemma dispatch_bound (run : Poll) {w : World} (answer : Answer) {batch : Batch}
    (hfound : w.db.batches.find run.batchId = some batch) : (run.dispatch w answer batch).Bound w := by
  unfold dispatch
  dsimp only
  repeat' split
  all_goals first
    | trivial
    | (next hremote _ => exact ⟨batch, hfound, truthy_isSome (by simpa using hremote)⟩)

lemma asks_bound {accepted refused : Poll} {w : World} {op : Batches.Op} {raised : Code → Poll}
    (haccepted : accepted.Bound w) (hrefused : refused.Bound w) (hraised : ∀ code, (raised code).Bound w) :
    (asks w op accepted refused raised).2.Bound w :=
  Submit.asks_snd (p := fun run => Poll.Bound w run) haccepted hrefused fun _ => hraised _

theorem next_bound {run : Poll} {w : World} (hbound : run.Bound w) (answer : Answer) : (run.next w answer).2.Bound w := by
  unfold Bound at hbound
  cases hpoint : run.point with
  | reading =>
    simp only [next, hpoint]
    split
    · trivial
    · next batch hfound => exact dispatch_bound run answer hfound
  | retrieving remoteId =>
    rw [hpoint] at hbound
    simp only [next, hpoint]
    split
    · trivial
    · exact ⟨rfl, hbound⟩
  | versioning remote =>
    rw [hpoint] at hbound
    simp only [next, hpoint]
    exact hbound
  | planReading code =>
    simp only [next, hpoint]
    split
    · trivial
    · unfold handleFrozenPlanFailure
      dsimp only
      split_ifs <;> trivial
  | awaiting submitId resumed =>
    simp only [next, hpoint]
    split
    · unfold returned
      split
      · trivial
      · split
        · trivial
        · split <;> trivial
    · unfold Bound
      rw [hpoint]
      trivial
  | submitting resumed =>
    simp only [next, hpoint]
    split
    · trivial
    · unfold Bound
      rw [hpoint]
      trivial
  | finished =>
    simp only [next, hpoint]
    unfold Bound
    rw [hpoint]
    trivial
  | claiming | failingLocally | reporting =>
    simp only [next, hpoint]
    exact asks_bound trivial trivial fun _ => trivial
  | reopening | planWriting | uploadFinding | uploadHolding | submissionFinding | submissionHolding =>
    simp only [next, hpoint, writes]
    split <;> trivial
  | holdingItems status items =>
    cases items <;> simp only [next, hpoint] <;> trivial
  | listing | resuming | releasing | noting =>
    simp only [next, hpoint]
    repeat' split
    all_goals trivial
  | holdListing | writingError | closing =>
    simp only [next, hpoint]
    trivial

theorem next_innocent {run : Poll} {w : World} (hbound : run.Bound w) (answer : Answer) {id : String} {batch : Batch}
    (hfound : w.db.batches.find id = some batch) (holders : String → Prop) :
    Innocent id batch.state holders (run.next w answer).1 := by
  unfold Bound at hbound
  cases hpoint : run.point with
  | reporting remote version =>
    rw [hpoint] at hbound
    simp only [next, hpoint]
    rintro rfl
    obtain ⟨hnone, other, hother, hsome⟩ := hbound
    obtain rfl : other = batch := Option.some.inj (hother.symm.trans hfound)
    exact ⟨hnone, hsome⟩
  | resuming | releasing | closing =>
    simp only [next, hpoint]
    exact fun _ holder _ => owner_ne
  | holdingItems status items =>
    cases items <;> simp only [next, hpoint] <;> trivial
  | claiming | failingLocally =>
    simp only [next, hpoint]
    trivial
  | listing | reading | submitting | awaiting | planReading | retrieving | noting =>
    simp only [next, hpoint]
    repeat' split
    all_goals trivial
  | reopening | planWriting | uploadFinding | uploadHolding | submissionFinding | submissionHolding | holdListing
  | versioning | writingError | finished =>
    simp only [next, hpoint]
    trivial

theorem next_not_called (run : Poll) (w : World) (answer : Answer) (call : Call) : (run.next w answer).1 ≠ .called call := by
  unfold next
  split
  all_goals first
    | (intro h; cases h)
    | (split <;> first | (intro h; cases h) | (split <;> (intro h; cases h)))

end Poll

namespace Cancel

def Same (run after : Cancel) : Prop := after.id = run.id ∧ after.batchId = run.batchId

lemma dispatch_same (run : Cancel) (answer : Answer) (state : BatchState) : Same run (run.dispatch answer state) := by
  unfold dispatch
  split_ifs <;> exact ⟨rfl, rfl⟩

theorem next_same (run : Cancel) (w : World) (answer : Answer) : Same run (run.next w answer).2 := by
  cases hpoint : run.point with
  | entering =>
    simp only [next, hpoint]
    split
    · exact ⟨rfl, rfl⟩
    · exact dispatch_same _ _ _
  | claiming remoteId =>
    simp only [next, hpoint]
    exact Submit.asks_snd (p := Same run) ⟨rfl, rfl⟩ ⟨rfl, rfl⟩ fun _ => ⟨rfl, rfl⟩
  | cancelling remoteId =>
    simp only [next, hpoint]
    split_ifs <;> exact ⟨rfl, rfl⟩
  | cleaning | writing | finalizing | choosing | versioning | reporting | releasing | finished =>
    simp only [next, hpoint]
    exact ⟨rfl, rfl⟩

theorem next_serves (run : Cancel) (w : World) (answer : Answer) : (run.next w answer).1.serves = true := by
  unfold next
  split
  all_goals first
    | rfl
    | (split <;> rfl)

lemma dispatch_bound (run : Cancel) {w : World} (answer : Answer) {batch : Batch}
    (hfound : w.db.batches.find run.batchId = some batch) : (run.dispatch answer batch.state).Bound w := by
  unfold dispatch
  split_ifs
  all_goals first
    | trivial
    | (next hremote _ => exact ⟨batch, hfound, truthy_isSome (by simpa using hremote)⟩)

theorem next_bound {run : Cancel} {w : World} (hbound : run.Bound w) (answer : Answer) : (run.next w answer).2.Bound w := by
  unfold Bound at hbound
  cases hpoint : run.point with
  | entering =>
    simp only [next, hpoint]
    split
    · trivial
    · next batch hfound => exact dispatch_bound run answer hfound
  | claiming remoteId =>
    rw [hpoint] at hbound
    simp only [next, hpoint]
    exact Submit.asks_snd (p := fun after : Cancel => after.Bound w) hbound trivial fun _ => trivial
  | choosing remoteId =>
    rw [hpoint] at hbound
    simp only [next, hpoint]
    exact hbound
  | cancelling remoteId =>
    rw [hpoint] at hbound
    simp only [next, hpoint]
    split_ifs
    · trivial
    · exact ⟨rfl, hbound⟩
  | versioning remote =>
    rw [hpoint] at hbound
    simp only [next, hpoint]
    exact hbound
  | finished =>
    simp only [next, hpoint]
    unfold Bound
    rw [hpoint]
    trivial
  | cleaning | writing | finalizing | reporting | releasing =>
    simp only [next, hpoint]
    trivial

theorem next_innocent {run : Cancel} {w : World} (hbound : run.Bound w) (answer : Answer) {id : String} {batch : Batch}
    (hfound : w.db.batches.find id = some batch) (holders : String → Prop) :
    Innocent id batch.state holders (run.next w answer).1 := by
  unfold Bound at hbound
  cases hpoint : run.point with
  | reporting remote version =>
    rw [hpoint] at hbound
    simp only [next, hpoint]
    rintro rfl
    obtain ⟨hnone, other, hother, hsome⟩ := hbound
    obtain rfl : other = batch := Option.some.inj (hother.symm.trans hfound)
    exact ⟨hnone, hsome⟩
  | releasing =>
    simp only [next, hpoint]
    exact fun _ holder _ => owner_ne'
  | entering | cancelling =>
    simp only [next, hpoint]
    split <;> trivial
  | cleaning | writing | finalizing | claiming | choosing | versioning | finished =>
    simp only [next, hpoint]
    trivial

theorem next_not_called (run : Cancel) (w : World) (answer : Answer) (call : Call) : (run.next w answer).1 ≠ .called call := by
  unfold next
  split
  all_goals first
    | (intro h; cases h)
    | (split <;> (intro h; cases h))

end Cancel

namespace Abandon

theorem next_serves (run : Abandon) (w : World) (answer : Answer) : (run.next w answer).1.serves = true := by
  unfold next
  split
  all_goals first
    | rfl
    | (split <;> first | rfl | (split <;> rfl))

theorem next_innocent (run : Abandon) (w : World) (answer : Answer) (id : String) (state : BatchState)
    (holders : String → Prop) : Innocent id state holders (run.next w answer).1 := by
  unfold next
  split
  all_goals first
    | trivial
    | (split <;> first | trivial | (split <;> trivial))

theorem next_not_called (run : Abandon) (w : World) (answer : Answer) (call : Call) :
    (run.next w answer).1 ≠ .called call := by
  unfold next
  split
  all_goals first
    | (intro h; cases h)
    | (split <;> first | (intro h; cases h) | (split <;> (intro h; cases h)))

end Abandon

/-! ### Orderly runs -/

/-- What every orderly run keeps. -/
structure Safe (w : World) : Prop where
  proper : ∀ run ∈ w.submits, run.Proper
  files : ∀ batch ∈ w.db.batches, batch.state.inputFileId.isSome = true → truthy batch.state.inputFileId = true
  polls : ∀ run ∈ w.polls, run.Bound w
  cancels : ∀ run ∈ w.cancels, run.Bound w
  phases : ∀ id, Phase w id
  ordered : w.calls.Pairwise fun earlier later => earlier.batchId = later.batchId → earlier.reply = .rejected

/-- What keeps an empty string from becoming a file id. -/
def Tidy (id : String) (state : BatchState) : Effect → Prop
  | .repository (.completeUpload _ _ _ _ fileId) => fileId ≠ ""
  | .repository (.setStatusFromRemote batchId _ _ _) => batchId = id → state.remoteBatchId.isSome = true
  | _ => True

lemma Innocent.tidy {id : String} {state : BatchState} {holders : String → Prop} {effect : Effect}
    (h : Innocent id state holders effect) : Tidy id state effect := by
  cases effect with
  | repository op =>
    cases op with
    | completeUpload => exact h
    | setStatusFromRemote => exact fun heq => (h heq).2
    | _ => trivial
  | _ => trivial

lemma Turn.tidy {w : World} {run after : Submit} {effect : Effect} (h : Turn w run effect after) (id : String)
    (state : BatchState) : Tidy id state effect := by
  cases h with
  | outside _ _ modest =>
    cases effect with
    | repository op =>
      cases op with
      | completeUpload => exact modest
      | setStatusFromRemote => exact modest.elim
      | _ => trivial
    | _ => trivial
  | onward _ _ inert => obtain rfl | rfl := inert <;> trivial
  | _ => trivial

/-- A row with a remote batch has its input file. -/
lemma Phase.input {w : World} {id : String} {batch : Batch} (h : Phase w id) (hfound : w.db.batches.find id = some batch)
    (hbound : batch.state.remoteBatchId.isSome = true) : truthy batch.state.inputFileId = true := by
  cases h with
  | idle _ _ unbound =>
    rw [unbound batch hfound] at hbound
    cases hbound
  | claimed run row exposes | carried run row call exposes =>
    obtain rfl : row = batch := Option.some.inj (exposes.found.symm.trans hfound)
    exact exposes.row.input
  | settled row call _ _ found rests =>
    obtain rfl : row = batch := Option.some.inj (found.symm.trans hfound)
    exact rests.input

lemma Safe.file_wrote {w : World} {batch : Batch} {effect : Effect} {after : BatchState} (h : Safe w)
    (hwrote : Wrote batch.id batch.state effect after) (hbatch : batch ∈ w.db.batches)
    (htidy : Tidy batch.id batch.state effect) (hsome : after.inputFileId.isSome = true) : truthy after.inputFileId = true := by
  have hfile := h.files batch hbatch
  cases hwrote with
  | kept same =>
    rw [same.input] at hsome ⊢
    exact hfile hsome
  | uploaded holds => exact bne_iff_ne.mpr htidy
  | @reported remote _ _ status =>
    have hinput := (h.phases batch.id).input (Table.find_of_mem hbatch) (htidy rfl)
    simp only [BatchState.reported, hinput, if_true]
  | finalized _ ids | abandoned _ ids =>
    rw [ids.input] at hsome ⊢
    exact hfile hsome
  | @written change =>
    rw [(change.apply_ids batch.state).1] at hsome ⊢
    exact hfile hsome
  | _ => exact hfile hsome

lemma Safe.files_stay {w : World} {effect : Effect} (h : Safe w) (hserves : effect.serves = true)
    (htidy : ∀ batch ∈ w.db.batches, Tidy batch.id batch.state effect) :
    ∀ after ∈ (effect.db w.db).batches, after.state.inputFileId.isSome = true → truthy after.state.inputFileId = true := by
  intro after hafter hsome
  obtain hnew | ⟨batch, hbatch, hid⟩ := effect_stems hserves after hafter
  · rw [hnew.2] at hsome
    cases hsome
  · have hwrote := (effect_wrote hserves).apply hbatch hafter hid.symm
    exact h.file_wrote hwrote hbatch (htidy batch hbatch) hsome

/-- What does not come from a submission keeps the machine safe. -/
theorem Safe.outside {w w' : World} (h : Safe w) (effect : Effect) (hserves : effect.serves = true)
    (horderly : orderlyEffect w effect = true)
    (hinnocent : ∀ id batch, w.db.batches.find id = some batch → Innocent id batch.state (holdersOf w id) effect)
    (hdb : w'.db.batches = (effect.db w.db).batches) (hcalls : w'.calls = w.calls)
    (hsubmits : ∀ run ∈ w'.submits, run ∈ w.submits ∨ run.Proper ∧ run.exposed = false)
    (hstay : ∀ run ∈ w.submits, run ∈ w'.submits)
    (hpolls : ∀ run ∈ w'.polls, run.Bound w) (hcancels : ∀ run ∈ w'.cancels, run.Bound w) : Safe w' := by
  have hbound : ∀ id, boundOn w id → boundOn w' id := fun id => boundOn_stays hserves hdb
  refine ⟨?_, ?_, fun run hrun => (hpolls run hrun).mono hbound, fun run hrun => (hcancels run hrun).mono hbound, ?_, ?_⟩
  · intro run hrun
    obtain hold | ⟨hproper, -⟩ := hsubmits run hrun
    · exact h.proper run hold
    · exact hproper
  · rw [hdb]
    exact h.files_stay hserves fun batch hbatch => (hinnocent batch.id batch (Table.find_of_mem hbatch)).tidy
  · intro id
    refine (h.phases id).outside ?_ ?_ hserves hdb (hinnocent id) horderly
    · intro run _ hexposed
      constructor
      · intro hrun
        obtain hold | ⟨-, hquiet⟩ := hsubmits run hrun
        · exact hold
        · rw [hquiet] at hexposed
          cases hexposed
      · exact hstay run
    · intro call _
      rw [hcalls]
  · rw [hcalls]
    exact h.ordered

/-- A new call of `_submit_one` stands before its first step. -/
lemma entering_proper (id batchId : String) (responsesEndpoint : Bool) :
    Submit.Proper { id, batchId, responsesEndpoint } :=
  .of_outside rfl rfl trivial

lemma apply_start_submits {w : World} {effect : Effect} (hstart : ∀ run, effect = .start run → run.Proper ∧ run.exposed = false) :
    (∀ run ∈ effect.submits w.submits, run ∈ w.submits ∨ run.Proper ∧ run.exposed = false) ∧
      ∀ run ∈ w.submits, run ∈ effect.submits w.submits := by
  cases effect with
  | start added =>
    refine ⟨?_, fun run hrun => Table.mem_add_of_mem hrun⟩
    intro run hrun
    obtain hold | ⟨rfl, -⟩ := Table.mem_add hrun
    · exact .inl hold
    · exact .inr (hstart run rfl)
  | _ => exact ⟨fun run hrun => .inl hrun, fun run hrun => hrun⟩

lemma calls_of_not_called {w : World} {effect : Effect} (h : ∀ call, effect ≠ .called call) : effect.calls w.calls = w.calls := by
  cases effect with
  | called call => exact absurd rfl (h call)
  | _ => rfl

/-- A turn of a submission keeps the machine safe. -/
theorem Safe.turned {w : World} {run : Submit} (h : Safe w) (hrun : run ∈ w.submits) (answer : Answer)
    (horderly : orderlyEffect w (run.next w answer).1 = true) :
    Safe (turned w (run.next w answer).1 (run.next w answer).2) := by
  have hproper := h.proper run hrun
  have hturn := Submit.next_turn hproper w answer
  have hsame := run.next_same w answer
  have hserves := run.next_serves w answer
  have hbound : ∀ id, boundOn w id → boundOn (Submission.turned w (run.next w answer).1 (run.next w answer).2) id :=
    fun id => boundOn_stays hserves rfl
  refine ⟨?_, ?_, fun poll hpoll => (h.polls poll hpoll).mono hbound, fun cancel hcancel => (h.cancels cancel hcancel).mono hbound,
    fun id => hturn.phase hrun hsame h.files hserves horderly (h.phases id), ?_⟩
  · intro other hother
    obtain rfl | ⟨hmem, -⟩ := (mem_turned hrun hsame hturn.not_start).mp hother
    · exact Submit.next_proper hproper w answer
    · exact h.proper other hmem
  · exact h.files_stay hserves fun batch _ => hturn.tidy batch.id batch.state
  · -- a call is made by a submission that has claimed the row, and then none stands before it
    have hcall : ∀ call, (run.next w answer).1 = .called call → call.batchId = run.batchId ∧ run.claims = true := by
      intro call heffect
      rw [heffect] at hturn
      cases hturn with
      | outside _ _ modest => exact modest.elim
      | onward _ _ inert => simp at inert
      | refused before | carry before => exact ⟨rfl, before⟩
    change ((run.next w answer).1.calls w.calls).Pairwise _
    cases heffect : (run.next w answer).1 with
    | called call =>
      obtain ⟨hnamed, hclaims⟩ := hcall call heffect
      obtain ⟨-, -, huncalled⟩ := (h.phases run.batchId).of_claims hrun hclaims
      refine List.pairwise_append.mpr ⟨h.ordered, List.pairwise_singleton _ _, ?_⟩
      intro earlier hearlier later hlater hsame_batch
      obtain rfl := List.mem_singleton.mp hlater
      exact calledOn_false.mp huncalled earlier hearlier (hsame_batch.trans hnamed)
    | _ => exact h.ordered

/-- Polls, cancellations and abandonments between two submissions. -/
theorem Safe.effect {w w' : World} (h : Safe w) (effect : Effect) (hserves : effect.serves = true)
    (horderly : orderlyEffect w effect = true)
    (hinnocent : ∀ id batch, w.db.batches.find id = some batch → Innocent id batch.state (holdersOf w id) effect)
    (hcalled : ∀ call, effect ≠ .called call) (hstart : ∀ run, effect = .start run → run.Proper ∧ run.exposed = false)
    (hdb : w'.db = effect.db w.db) (hcalls : w'.calls = effect.calls w.calls) (hsubmits : w'.submits = effect.submits w.submits)
    (hpolls : ∀ run ∈ w'.polls, run.Bound w) (hcancels : ∀ run ∈ w'.cancels, run.Bound w) : Safe w' := by
  obtain ⟨hstem, hstay⟩ := apply_start_submits hstart
  rw [← hsubmits] at hstem hstay
  exact h.outside effect hserves horderly hinnocent (by rw [hdb]) (hcalls.trans (calls_of_not_called hcalled)) hstem hstay hpolls hcancels

/-- What touches no batch keeps the machine safe. -/
lemma Safe.apart {w w' : World} (h : Safe w) (hdb : w'.db.batches = w.db.batches) (hcalls : w'.calls = w.calls)
    (hsubmits : w'.submits = w.submits) (hpolls : ∀ run ∈ w'.polls, run.Bound w) (hcancels : ∀ run ∈ w'.cancels, run.Bound w) :
    Safe w' := by
  refine h.outside .none rfl rfl (fun _ _ _ => trivial) hdb hcalls ?_ ?_ hpolls hcancels
  · rw [hsubmits]
    exact fun run hrun => .inl hrun
  · rw [hsubmits]
    exact fun run hrun => hrun

theorem Safe.create {w : World} (h : Safe w) (batchId : String) (jobId : Option String) (items : List Batches.NewItem) :
    Safe (w.apply (.repository (.createWithItems batchId jobId .preparing items))) :=
  h.effect (.repository (.createWithItems batchId jobId .preparing items)) rfl rfl (fun _ _ _ => trivial)
    (by intro call hcall; cases hcall) (by intro run hrun; cases hrun) rfl rfl rfl h.polls h.cancels

theorem Safe.submit {w : World} (h : Safe w) (id batchId : String) (responsesEndpoint : Bool) :
    Safe (w.apply (.start { id, batchId, responsesEndpoint })) := by
  refine h.effect (.start { id, batchId, responsesEndpoint }) rfl rfl (fun _ _ _ => trivial)
    (by intro call hcall; cases hcall) ?_ rfl rfl rfl h.polls h.cancels
  rintro run ⟨⟩
  exact ⟨entering_proper id batchId responsesEndpoint, rfl⟩

theorem Safe.polled {w : World} {run : Poll} (h : Safe w) (hrun : run ∈ w.polls) (answer : Answer)
    (horderly : orderlyEffect w (run.next w answer).1 = true) :
    Safe ((w.apply (run.next w answer).1).putPoll (run.next w answer).2) := by
  have hbound := h.polls run hrun
  refine h.effect ((run.next w answer).1) (run.next_serves w answer) horderly
    (fun id batch hfound => Poll.next_innocent hbound answer hfound _) (run.next_not_called w answer)
    (fun added hadded => by rw [Poll.next_start hadded]; exact ⟨entering_proper _ _ _, rfl⟩) rfl rfl rfl ?_ h.cancels
  intro other hother
  obtain ⟨rfl, -⟩ | ⟨hmem, -⟩ := Table.mem_put hother
  · exact Poll.next_bound hbound answer
  · exact h.polls other hmem

theorem Safe.cancelled {w : World} {run : Cancel} (h : Safe w) (hrun : run ∈ w.cancels) (answer : Answer)
    (horderly : orderlyEffect w (run.next w answer).1 = true) :
    Safe ((w.apply (run.next w answer).1).putCancel (run.next w answer).2) := by
  have hbound := h.cancels run hrun
  refine h.effect ((run.next w answer).1) (run.next_serves w answer) horderly
    (fun id batch hfound => Cancel.next_innocent hbound answer hfound _) (run.next_not_called w answer)
    (fun added hadded => absurd hadded (run.next_start w answer added)) rfl rfl rfl h.polls ?_
  intro other hother
  obtain ⟨rfl, -⟩ | ⟨hmem, -⟩ := Table.mem_put hother
  · exact Cancel.next_bound hbound answer
  · exact h.cancels other hmem

theorem Safe.abandoned {w : World} (h : Safe w) (run : Abandon) (answer : Answer)
    (horderly : orderlyEffect w (run.next w answer).1 = true) :
    Safe ((w.apply (run.next w answer).1).putAbandon (run.next w answer).2) :=
  h.effect ((run.next w answer).1) (run.next_serves w answer) horderly
    (fun id batch _ => run.next_innocent w answer id batch.state _) (run.next_not_called w answer)
    (fun added hadded => absurd hadded (run.next_start w answer added)) rfl rfl rfl h.polls h.cancels

theorem step_safe {w : World} {act : Act} (h : Safe w) (horderly : orderly w act = true) : Safe (step w act) := by
  cases act with
  | create batchId jobId items => exact h.create batchId jobId items
  | submit id batchId responsesEndpoint => exact h.submit id batchId responsesEndpoint
  | submitStep id answer =>
    simp only [step]
    cases hfound : w.submits.find id with
    | none => exact h
    | some run =>
      rw [orderly, hfound, Option.all_some] at horderly
      exact h.turned (Table.find_eq_some hfound).1 answer horderly
  | pollStep id answer =>
    simp only [step]
    cases hfound : w.polls.find id with
    | none => exact h
    | some run =>
      rw [orderly, hfound, Option.all_some] at horderly
      exact h.polled (Table.find_eq_some hfound).1 answer horderly
  | cancelStep id answer =>
    simp only [step]
    cases hfound : w.cancels.find id with
    | none => exact h
    | some run =>
      rw [orderly, hfound, Option.all_some] at horderly
      exact h.cancelled (Table.find_eq_some hfound).1 answer horderly
  | abandonStep id answer =>
    simp only [step]
    cases hfound : w.abandons.find id with
    | none => exact h
    | some run =>
      rw [orderly, hfound, Option.all_some] at horderly
      exact h.abandoned run answer horderly
  | poll id batchId =>
    refine h.apart rfl rfl rfl ?_ h.cancels
    intro run hrun
    obtain hold | ⟨rfl, -⟩ := Table.mem_add hrun
    · exact h.polls run hold
    · trivial
  | cancel id batchId =>
    refine h.apart rfl rfl rfl h.polls ?_
    intro run hrun
    obtain hold | ⟨rfl, -⟩ := Table.mem_add hrun
    · exact h.cancels run hold
    · trivial
  | begin =>
    simp only [step]
    split
    · exact h.apart rfl rfl rfl h.polls h.cancels
    · exact h
  | jobs | usage | settle | send | saveResponse | finish | finishRejected | abandon =>
    exact h.apart rfl rfl rfl h.polls h.cancels

lemma start_safe (jobs : Jobs.Db) : Safe (World.start jobs) where
  proper := fun _ h => absurd h List.not_mem_nil
  files := fun _ h => absurd h List.not_mem_nil
  polls := fun _ h => absurd h List.not_mem_nil
  cancels := fun _ h => absurd h List.not_mem_nil
  phases := fun _ => .idle rfl rfl fun _ h => by cases h
  ordered := .nil

/-- The row knows the remote batch, or is set aside for the operator. -/
def knows (w : World) (batchId remoteId : String) : Bool :=
  (w.db.batches.find batchId).any fun batch =>
    batch.state.remoteBatchId == some remoteId || batch.state.status == .submissionUnknown

/-- No remote batch is lost or doubled. -/
structure SingleRemote (w : World) : Prop where
  /-- A call comes after rejected ones only. -/
  once : w.calls.Pairwise fun earlier later => earlier.batchId = later.batchId → earlier.reply = .rejected
  /-- Once the run that created a remote batch has finished, the row knows it. -/
  known : ∀ call ∈ w.calls, ∀ remoteId, call.reply = .created remoteId →
    ∀ run ∈ w.submits, run.id = call.runId → run.done = true → knows w call.batchId remoteId = true

lemma Submit.not_done_of_carries {run : Submit} (h : run.carries = true) : run.done = false := by
  revert h
  unfold Submit.carries Submit.done
  cases run.point <;> simp

theorem Safe.singleRemote {w : World} (h : Safe w) : SingleRemote w := by
  refine ⟨h.ordered, ?_⟩
  intro call hcall remoteId hreply run hrun hid hdone
  have hstands : call.reply ≠ .rejected := by simp [hreply]
  cases h.phases call.batchId with
  | idle _ uncalled | claimed _ _ _ _ uncalled => exact absurd (calledOn_false.mp uncalled call hcall rfl) hstands
  | carried other batch standing exposes carries hstanding own =>
    -- the run that carries the answer has not finished
    obtain rfl := hstanding.only call hcall rfl hstands
    obtain rfl := Table.eq_of_key_eq hrun exposes.member (hid.trans own)
    rw [Submit.not_done_of_carries carries] at hdone
    cases hdone
  | settled batch standing _ hstanding found rests =>
    obtain rfl := hstanding.only call hcall rfl hstands
    obtain hbound | hunknown := rests.bound remoteId hreply
    · simp [knows, found, hbound]
    · simp [knows, found, hunknown]

/-- In an orderly run of the machine no remote batch is lost or doubled. -/
theorem single_remote_of_orderly (jobs : Jobs.Db) (acts : List Act)
    (horderly : Runs.Along step (fun w act => orderly w act = true) (World.start jobs) acts) :
    SingleRemote (run (World.start jobs) acts) :=
  (Runs.invariant_of_along (fun _ _ => step_safe) (start_safe jobs) horderly).singleRemote

/-- The provider accepts a file and then a batch. -/
def obliging : Answer :=
  { leaseUntil := 900, fileId := "file-1", remote := { id := some "batch_r", status := some "validating" } }

def noJobs : Jobs.Db := ⟨.empty, .empty, .empty⟩

/-- Two workers submit one batch turn by turn, and the operator cancels it once it is sent. -/
def contestedSubmission : List Act :=
  [.create "b" none [], .submit "x" "b" false, .submit "y" "b" false] ++
    (List.replicate 20 [.submitStep "x" obliging, .submitStep "y" obliging]).flatten ++
    [.cancel "c" "b"] ++ List.replicate 6 (.cancelStep "c" {})

theorem single_remote_of_contestedSubmission :
    Runs.Along step (fun w act => orderly w act = true) (World.start noJobs) contestedSubmission ∧
      (run (World.start noJobs) contestedSubmission).calls = [⟨"b", "x", .created "batch_r"⟩] ∧
      SingleRemote (run (World.start noJobs) contestedSubmission) :=
  ⟨by decide, by decide, single_remote_of_orderly noJobs contestedSubmission (by decide)⟩

/-- `cancel` reads `uploaded`, the submission is claimed and sent, and then `cancel` writes. -/
def lateCancellation : List Act :=
  [.create "b" none [], .submit "x" "b" false] ++ List.replicate 13 (.submitStep "x" obliging) ++
    [.cancel "c" "b", .cancelStep "c" {}] ++ List.replicate 6 (.submitStep "x" obliging) ++
    [.cancelStep "c" {}] ++ List.replicate 4 (.submitStep "x" obliging)

/-- The remote batch is paid for, and no row knows it. -/
theorem remote_forgotten_by_cancel : ¬SingleRemote (run (World.start noJobs) lateCancellation) := by
  intro h
  have hknown := h.known ⟨"b", "x", .created "batch_r"⟩ (by decide) "batch_r" rfl
    { id := "x", batchId := "b", uploadAttempt := true, submissionAttempt := true, remoteCreated := true, uploadWon := true,
      won := true, reserved := true, point := .finished (some ⟨.claimStale, false⟩) } (Table.mem_iff.mpr (by decide)) rfl rfl
  exact absurd hknown (by decide)

end InkTime.Submission
