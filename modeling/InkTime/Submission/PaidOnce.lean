import InkTime.Batches.Closed
import InkTime.Submission.Reservation
import InkTime.Submission.SingleRemote

/-!
# One paid request for a content

A single request is entered in `billable_operations` before it is sent, and a batch holds its contents from its
creation on. Each side looks at the other's rows before it goes on: `begin` refuses a content that a batch holds, and
the last check of `_submit_one` refuses a batch with a content that is paid for. A batch with an uploaded file stays
open until its costs are known, so the two never pay for one content.
-/

namespace InkTime.Submission

open Batches (Batch BatchState BatchStatus Item truthy)

/-- The row of the batch is open and has its file. -/
def Armed (w : World) (batchId : String) : Prop :=
  ∃ batch, w.db.batches.find batchId = some batch ∧ batch.state.inputFileId.isSome = true ∧
    batch.state.status.terminal = false

/-- No single request is under way for a content of the batch. -/
def Clear (w : World) (batchId : String) : Prop :=
  ∀ item ∈ w.db.items, item.batchId = batchId → ∀ operation ∈ w.operations,
    operation.contentSha256 = item.contentSha256 → operation.state ≠ .started

/-- Past the last look at the single requests, and before the answer of `create_batch`. -/
def Submit.cleared (run : Submit) : Bool :=
  match run.point with
  | .checking .last .batches | .checking .last .photos | .creating => true
  | _ => false

/-! ### Rows and items under an effect -/

def Effect.abandons : Effect → Bool
  | .repository (.abandonUnknownUpload ..) => true
  | _ => false

lemma localStatus_open (status : Batches.RemoteStatus) : status.localStatus.terminal = false := by
  cases status <;> rfl

lemma Change.open_apply (change : Change) {state : BatchState} (h : state.status.terminal = false) :
    (change.apply state).status.terminal = false := by
  cases change <;> first | rfl | exact h

/-- An open row with a file stays one, whatever is written to it. -/
lemma Wrote.armed {id : String} {state after : BatchState} {effect : Effect} (h : Wrote id state effect after)
    (habandons : effect.abandons = false) (hinput : state.inputFileId.isSome = true) (hopen : state.status.terminal = false) :
    after.inputFileId.isSome = true ∧ after.status.terminal = false := by
  cases h with
  | kept same => exact ⟨by rw [same.input, hinput], by rw [same.status, hopen]⟩
  | released | polled => exact ⟨hinput, hopen⟩
  | uploaded => exact ⟨rfl, rfl⟩
  | uploadClaimed | uploadLost | submissionClaimed | submissionLost | cancelClaimed => exact ⟨hinput, rfl⟩
  | @bound _ _ _ _ _ status => exact ⟨hinput, localStatus_open status⟩
  | @reported remote _ _ status =>
    refine ⟨?_, localStatus_open status⟩
    simp only [BatchState.reported]
    split
    · exact hinput
    · cases remote.inputFileId with
      | none => exact hinput
      | some fileId => rfl
  | failed _ input | finalized input =>
    rw [input] at hinput
    cases hinput
  | abandoned => cases habandons
  | @written change =>
    rw [(change.apply_ids state).1]
    exact ⟨hinput, change.open_apply hopen⟩

lemma Armed.stays {w w' : World} {effect : Effect} {batchId : String} (h : Armed w batchId) (hserves : effect.serves = true)
    (habandons : effect.abandons = false) (hdb : w'.db.batches = (effect.db w.db).batches) : Armed w' batchId := by
  obtain ⟨batch, hfound, hinput, hopen⟩ := h
  obtain ⟨after, hafter, hwrote⟩ := found_wrote hfound hserves hdb
  obtain ⟨hinput', hopen'⟩ := hwrote.armed habandons hinput hopen
  exact ⟨after, hafter, hinput', hopen'⟩

/-- The item is in the same batch, with the same content. -/
def SameContent (before after : Item) : Prop := before.batchId = after.batchId ∧ before.contentSha256 = after.contentSha256

lemma setItems_sameContent {db db' : Batches.Db} {matching : Item → Bool} {status : Batches.ItemStatus}
    (h : db'.items = (db.setItems matching status).items) {item : Item} (hitem : item ∈ db'.items) :
    ∃ before ∈ db.items, SameContent before item := by
  rw [h] at hitem
  obtain ⟨before, hbefore, rfl⟩ := Batches.Db.mem_setItems.mp hitem
  refine ⟨before, hbefore, ?_⟩
  unfold Table.revise
  split <;> exact ⟨rfl, rfl⟩

lemma sweepsOpen_sameContent {db db' : Batches.Db} (h : Batches.SweepsOpen db db') {item : Item} (hitem : item ∈ db'.items) :
    ∃ before ∈ db.items, SameContent before item := by
  obtain ⟨matching, status, hitems, -⟩ := h
  exact setItems_sameContent hitems hitem

/-- Only the creation of a batch adds items, and to that batch. -/
lemma step_sameContent {db : Batches.Db} {op : Batches.Op} (hserves : Effect.serves (.repository op) = true) {item : Item}
    (hitem : item ∈ (Batches.step db op).items) {batch : Batch} (hfound : db.batches.find item.batchId = some batch) :
    ∃ before ∈ db.items, SameContent before item := by
  obtain ⟨hbatch, hid⟩ := Table.find_eq_some hfound
  cases hcall : Batches.call db op with
  | error error =>
    rw [Batches.step, hcall, Batches.after_error] at hitem
    exact ⟨item, hitem, rfl, rfl⟩
  | ok result =>
    obtain ⟨db', answer⟩ := result
    cases op with
    | createChildBatch => cases hserves
    | createWithItems =>
      obtain ⟨count, h, -⟩ := Batches.answered_eq_ok hcall
      rw [Batches.step, hcall, Batches.after_ok] at hitem
      have hsame := Batches.createWithItems_itemsOf h hbatch
      have hmem : item ∈ Batches.itemsOf db' batch.id := List.mem_filter.mpr ⟨hitem, by simp [hid]⟩
      rw [hsame] at hmem
      exact ⟨item, (List.mem_filter.mp hmem).1, rfl, rfl⟩
    | failLocalBatch =>
      rw [Batches.step, hcall, Batches.after_ok] at hitem
      obtain ⟨_, -, -, -, -, ⟨-, hitems, -⟩ | ⟨-, -, hitems⟩⟩ := Batches.failLocalBatch_ok hcall
      · rw [hitems] at hitem
        exact ⟨item, hitem, rfl, rfl⟩
      · exact setItems_sameContent hitems hitem
    | _ => exact sweepsOpen_sameContent (by exact Batches.step_sweepsOpen rfl rfl) hitem

lemma effect_sameContent {db : Batches.Db} {effect : Effect} (hserves : effect.serves = true) {item : Item}
    (hitem : item ∈ (effect.db db).items) {batch : Batch} (hfound : db.batches.find item.batchId = some batch) :
    ∃ before ∈ db.items, SameContent before item := by
  cases effect with
  | repository op => exact step_sameContent hserves hitem hfound
  | setItem itemId status => exact setItems_sameContent rfl hitem
  | write batchId change =>
    have hitems : ((updateBatch db batchId change).after db).items = db.items := by
      unfold updateBatch
      dsimp only
      split
      · rfl
      · cases hcommit : Batches.commit (db.setBatches (fun batch => batch.id == batchId) change.apply) () with
        | error error => rfl
        | ok result =>
          obtain ⟨hdb, -, -⟩ := Batches.commit_eq_ok hcommit
          rw [Batches.Outcome.after, hdb]
          rfl
    rw [Effect.db, hitems] at hitem
    exact ⟨item, hitem, rfl, rfl⟩
  | _ => exact ⟨item, hitem, rfl, rfl⟩

lemma Clear.stays {w w' : World} {effect : Effect} {batchId : String} (h : Clear w batchId) (harmed : Armed w batchId)
    (hserves : effect.serves = true) (hdb : w'.db.items = (effect.db w.db).items) (hoperations : w'.operations = w.operations) :
    Clear w' batchId := by
  intro item hitem hnamed operation hoperation hcontent
  rw [hdb] at hitem
  rw [hoperations] at hoperation
  obtain ⟨batch, hfound, -⟩ := harmed
  rw [← hnamed] at hfound
  obtain ⟨before, hbefore, hsame, hbefore_content⟩ := effect_sameContent hserves hitem hfound
  exact h before hbefore (hsame.trans hnamed) operation hoperation (hcontent.trans hbefore_content.symm)

/-! ### Single requests -/

section Operations

variable {w : World} {operations : Table Operation.id}

/-- `begin` refuses every content of an open batch. -/
lemma batchOwnsContent_of_armed {batchId : String} (h : Armed w batchId) {item : Item} (hitem : item ∈ w.db.items)
    (hnamed : item.batchId = batchId) : batchOwnsContent w.db item.contentSha256 = true := by
  obtain ⟨batch, hfound, -, hopen⟩ := h
  have howns : ownsContent w.db item = true := by
    rw [ownsContent, hnamed, hfound, Option.any_some, held, BatchStatus.active, hopen]
    rfl
  rw [batchOwnsContent, Bool.or_eq_true]
  exact .inl (Table.any_of_mem hitem (by simp [howns]))

/-- A new operation is the only one under way for its content, which no batch holds. -/
lemma begin_cases {db : Batches.Db} {operations' : Table Operation.id} {operationId contentSha256 requestFingerprint id : String}
    {requestSignature : Option String} {reuseCompleted processed saved : Bool}
    (h : begin db operations operationId contentSha256 requestFingerprint requestSignature reuseCompleted processed =
      .ok (operations', id, saved)) :
    operations' = operations ∨
      (operations' = operations.add { id := operationId, contentSha256, requestFingerprint, requestSignature } ∧
        batchOwnsContent db contentSha256 = false ∧
        ∀ operation ∈ operations, operation.contentSha256 = contentSha256 → operation.state ≠ .started) := by
  unfold begin at h
  dsimp only at h
  split at h
  · cases h
  · split at h
    · cases h
    · next hnone =>
      split at h
      · obtain ⟨rfl, -⟩ := Prod.mk.inj (Except.ok.inj h)
        exact .inl rfl
      · split at h
        · cases h
        · split at h
          · cases h
          · next howned =>
            obtain ⟨rfl, -⟩ := Prod.mk.inj (Except.ok.inj h)
            refine .inr ⟨rfl, Bool.not_eq_true _ ▸ howned, ?_⟩
            intro operation hoperation hcontent hstarted
            exact hnone (Table.any_of_mem hoperation (by simp [hcontent, hstarted]))

/-- Saving and finishing start nothing. -/
lemma started_setOperations {matching : Operation → Bool} {state : OperationState} (hstate : state ≠ .started)
    {operation : Operation} (hoperation : operation ∈ setOperations operations matching state)
    (hstarted : operation.state = .started) : operation ∈ operations := by
  have hkey : ∀ operation : Operation, ({ operation with state } : Operation).id = operation.id := fun _ => rfl
  obtain ⟨before, hbefore, rfl⟩ := (@Table.mem_update _ _ _ _ _ _ hkey _).mp hoperation
  unfold Table.revise at hstarted ⊢
  split at hstarted
  · exact absurd hstarted hstate
  · next hmatch =>
    rw [if_neg hmatch]
    exact hbefore

end Operations

/-! ### The guards hold -/

structure Guarded (w : World) : Prop where
  sound : AllSound w
  single : ∀ first ∈ w.operations, ∀ second ∈ w.operations, first.state = .started → second.state = .started →
    first.contentSha256 = second.contentSha256 → first = second
  won : ∀ run ∈ w.submits, run.won = true → Armed w run.batchId
  cleared : ∀ run ∈ w.submits, run.cleared = true → Clear w run.batchId
  called : ∀ call ∈ w.calls, Armed w call.batchId ∧ Clear w call.batchId

lemma Submit.Sound.won_of_cleared {run : Submit} (h : run.Sound) (hcleared : run.cleared = true) : run.won = true := by
  unfold Submit.cleared at hcleared
  split at hcleared
  · next hpoint => simpa only [Submit.Sound, hpoint] using h
  · next hpoint => simpa only [Submit.Sound, hpoint] using h
  · next hpoint => simpa only [Submit.Sound, hpoint] using h
  · cases hcleared

lemma Guarded.armed_of_cleared {w : World} (h : Guarded w) {run : Submit} (hrun : run ∈ w.submits)
    (hcleared : run.cleared = true) : Armed w run.batchId :=
  h.won run hrun ((h.sound run hrun).won_of_cleared hcleared)

/-- An effect that neither calls nor abandons keeps the guards. -/
theorem Guarded.effect {w w' : World} (h : Guarded w) (effect : Effect) (hserves : effect.serves = true)
    (habandons : effect.abandons = false) (hbatches : w'.db.batches = (effect.db w.db).batches)
    (hitems : w'.db.items = (effect.db w.db).items) (hoperations : w'.operations = w.operations)
    (hcalls : w'.calls = w.calls) (hsound : AllSound w')
    (hsubmits : ∀ run ∈ w'.submits, run ∈ w.submits ∨ run.won = false) : Guarded w' := by
  have harmed : ∀ batchId, Armed w batchId → Armed w' batchId := fun batchId hbefore =>
    hbefore.stays hserves habandons hbatches
  have hclear : ∀ batchId, Armed w batchId → Clear w batchId → Clear w' batchId := fun batchId hbefore hclear =>
    hclear.stays hbefore hserves hitems hoperations
  refine ⟨hsound, ?_, ?_, ?_, ?_⟩
  · rw [hoperations]
    exact h.single
  · intro run hrun hwon
    obtain hold | hnew := hsubmits run hrun
    · exact harmed _ (h.won run hold hwon)
    · rw [hnew] at hwon
      cases hwon
  · intro run hrun hcleared
    obtain hold | hnew := hsubmits run hrun
    · exact hclear _ (h.armed_of_cleared hold hcleared) (h.cleared run hold hcleared)
    · rw [(hsound run hrun).won_of_cleared hcleared] at hnew
      cases hnew
  · rw [hcalls]
    intro call hcall
    obtain ⟨hbefore, hbefore_clear⟩ := h.called call hcall
    exact ⟨harmed _ hbefore, hclear _ hbefore hbefore_clear⟩

/-- New operations, or fewer of them under way, leave the guards as they are. -/
theorem Guarded.operate {w w' : World} (h : Guarded w) (hdb : w'.db = w.db) (hsubmits : w'.submits = w.submits)
    (hcalls : w'.calls = w.calls)
    (hstarted : ∀ operation ∈ w'.operations, operation.state = .started → operation ∈ w.operations ∨
      (batchOwnsContent w.db operation.contentSha256 = false ∧
        ∀ other ∈ w'.operations, other.state = .started → other.contentSha256 = operation.contentSha256 → other = operation)) :
    Guarded w' := by
  have harmed : ∀ batchId, Armed w' batchId ↔ Armed w batchId := by
    intro batchId
    rw [Armed, Armed, hdb]
  have hclear : ∀ batchId, Armed w batchId → Clear w batchId → Clear w' batchId := by
    intro batchId hbefore hbefore_clear item hitem hnamed operation hoperation hcontent hstate
    rw [hdb] at hitem
    obtain hold | ⟨hunowned, -⟩ := hstarted operation hoperation hstate
    · exact hbefore_clear item hitem hnamed operation hold hcontent hstate
    · rw [hcontent, batchOwnsContent_of_armed hbefore hitem hnamed] at hunowned
      cases hunowned
  refine ⟨?_, ?_, ?_, ?_, ?_⟩
  · rw [AllSound, hsubmits]
    exact h.sound
  · intro first hfirst second hsecond hfirst_started hsecond_started hcontent
    obtain hold_first | ⟨-, halone⟩ := hstarted first hfirst hfirst_started
    · obtain hold_second | ⟨-, halone⟩ := hstarted second hsecond hsecond_started
      · exact h.single first hold_first second hold_second hfirst_started hsecond_started hcontent
      · exact halone first hfirst hfirst_started hcontent
    · exact (halone second hsecond hsecond_started hcontent.symm).symm
  · rw [hsubmits]
    exact fun run hrun hwon => (harmed _).mpr (h.won run hrun hwon)
  · rw [hsubmits]
    exact fun run hrun hcleared => hclear _ (h.armed_of_cleared hrun hcleared) (h.cleared run hrun hcleared)
  · rw [hcalls]
    intro call hcall
    obtain ⟨hbefore, hbefore_clear⟩ := h.called call hcall
    exact ⟨(harmed _).mpr hbefore, hclear _ hbefore hbefore_clear⟩

/-! ### Turns of a submission -/

namespace Submit

/-- A claim that was accepted found an open row with a file. -/
lemma armed_of_claim {run : Submit} {w : World} {now leaseUntil : Nat} {db : Batches.Db}
    (h : Batches.call w.db (.claimSubmission now run.batchId run.owner run.id leaseUntil) = .ok (db, true)) :
    Armed w run.batchId := by
  have hanswer : (Batches.claimSubmission w.db now run.batchId run.owner run.id leaseUntil).2 = true :=
    (Prod.mk.inj (Except.ok.inj h)).2
  obtain ⟨batch, hmem, hid, hfree⟩ := Batches.compareAndSet_accepted hanswer
  simp only [BatchState.submissionFree, Bool.and_eq_true, beq_iff_eq] at hfree
  refine ⟨batch, ?_, hfree.1.2, by rw [hfree.1.1]; rfl⟩
  rw [← hid]
  exact Table.find_of_mem hmem

lemma settled_won (run : Submit) (caught : Caught) : (run.settled caught).won = run.won := by
  obtain heq | heq := run.settled_eq caught <;> rw [heq] <;> rfl

/-- Only an accepted claim of the submission is a win. -/
lemma next_won {run : Submit} {w : World} {answer : Answer} (h : (run.next w answer).2.won = true) :
    run.won = true ∨ Armed w run.batchId := by
  cases hpoint : run.point with
  | claimingSubmission =>
    simp only [next, hpoint, asks] at h
    split at h
    · next haccepted => exact .inr (armed_of_claim haccepted)
    · exact .inl h
    · exact .inl h
  | choosing caught =>
    simp only [next, hpoint, choose] at h
    split_ifs at h <;> exact .inl h
  | markingUpload caught | markingSubmission caught errorCode =>
    simp only [next, hpoint, settled_won] at h
    exact .inl h
  | retrying caught items =>
    cases items with
    | nil =>
      simp only [next, hpoint, settled_won] at h
      exact .inl h
    | cons item rest =>
      simp only [next, hpoint] at h
      split_ifs at h <;> exact .inl h
  | failingLocally caught =>
    simp only [next, hpoint] at h
    left
    rw [← h]
    exact asks_snd (p := fun after : Submit => run.won = after.won) (run.settled_won caught).symm (run.settled_won caught).symm
      fun _ => rfl
  | claimingUpload | savingUpload | saving =>
    simp only [next, hpoint] at h
    left
    rw [← h]
    exact asks_snd (p := fun after : Submit => run.won = after.won) rfl rfl fun _ => rfl
  | entering | checking | reading | preparingUpload | uploading | rereading | reserving | creating | catching =>
    simp only [next, hpoint] at h
    left
    revert h
    repeat' split
    all_goals exact fun hwon => hwon
  | releasing | holding | holdReleasing | holdPausing | holdMarking | cleaning | listing | failingJobItem | pausing
  | creditMarking | finished =>
    simp only [next, hpoint] at h
    exact .inl h

lemma clear_of_paidSingle {w : World} {batchId : String} (h : paidSingle w batchId = false) : Clear w batchId := by
  intro item hitem hnamed operation hoperation hcontent hstarted
  have hpaid : paidSingle w batchId = true := by
    refine Table.any_of_mem hitem ?_
    rw [Bool.and_eq_true]
    exact ⟨by simp [hnamed], Table.any_of_mem hoperation (by simp [hcontent, hstarted, OperationState.paid])⟩
  rw [h] at hpaid
  cases hpaid

lemma settled_cleared (run : Submit) (caught : Caught) : (run.settled caught).cleared = false := by
  obtain heq | heq := run.settled_eq caught <;> rw [heq] <;> rfl

/-- The last look at the single requests found none. -/
lemma next_cleared {run : Submit} {w : World} {answer : Answer} (h : (run.next w answer).2.cleared = true) :
    run.cleared = true ∨ Clear w run.batchId := by
  cases hpoint : run.point with
  | checking round part =>
    simp only [next, hpoint] at h
    split at h
    · cases h
    · next hallowed =>
      cases round with
      | first | upload => cases part <;> cases h
      | last =>
        cases part with
        | singles =>
          right
          apply clear_of_paidSingle
          simp only [assertSubmissionAllowed] at hallowed
          split_ifs at hallowed with _ _ hpaid
          simpa using hpaid
        | batches | photos => exact .inl (by simp [cleared, hpoint])
  | creating => exact .inl (by simp [cleared, hpoint])
  | choosing caught =>
    simp only [next, hpoint, choose] at h
    split_ifs at h <;> cases h
  | markingUpload caught | markingSubmission caught errorCode =>
    simp only [next, hpoint, settled_cleared] at h
    cases h
  | retrying caught items =>
    cases items with
    | nil =>
      simp only [next, hpoint, settled_cleared] at h
      cases h
    | cons item rest =>
      simp only [next, hpoint] at h
      split_ifs at h <;> cases h
  | failingLocally caught =>
    simp only [next, hpoint, asks] at h
    split at h
    · rw [settled_cleared] at h
      cases h
    · rw [settled_cleared] at h
      cases h
    · cases h
  | claimingUpload | savingUpload | claimingSubmission | saving =>
    simp only [next, hpoint, asks] at h
    split at h <;> cases h
  | finished raised =>
    simp only [next, hpoint] at h
    exact .inl h
  | entering | reading | preparingUpload | uploading | rereading | reserving | catching =>
    simp only [next, hpoint] at h
    repeat' split at h
    all_goals cases h
  | releasing | holding | holdReleasing | holdPausing | holdMarking | cleaning | listing | failingJobItem | pausing
  | creditMarking =>
    simp only [next, hpoint] at h
    cases h

end Submit

/-- Only a submission that is past its last check calls `create_batch`. -/
lemma Submit.next_called {run : Submit} {w : World} {answer : Answer} {call : Call} (h : (run.next w answer).1 = .called call) :
    run.cleared = true ∧ call.batchId = run.batchId := by
  cases hpoint : run.point with
  | creating =>
    refine ⟨by simp [Submit.cleared, hpoint], ?_⟩
    simp only [Submit.next, hpoint] at h
    split at h
    · rw [← Effect.called.inj h]
    · split_ifs at h <;> rw [← Effect.called.inj h]
  | retrying caught items => cases items <;> simp [Submit.next, hpoint] at h
  | entering | checking | reading | preparingUpload | uploading | rereading | reserving | catching =>
    simp only [Submit.next, hpoint] at h
    repeat' split at h
    all_goals cases h
  | _ => simp [Submit.next, hpoint, asks] at h

lemma Submit.next_not_abandons (run : Submit) (w : World) (answer : Answer) : (run.next w answer).1.abandons = false := by
  unfold Submit.next
  split
  all_goals first
    | rfl
    | (split <;> first | rfl | (split <;> first | rfl | (split <;> rfl)))

theorem Guarded.turned {w : World} {id : String} {run : Submit} (h : Guarded w) (hfound : w.submits.find id = some run)
    (answer : Answer) : Guarded (step w (.submitStep id answer)) := by
  have hrun := (Table.find_eq_some hfound).1
  have hserves := run.next_serves w answer
  have hnamed := (run.next_same w answer).2
  have hstep : step w (.submitStep id answer) = (w.apply (run.next w answer).1).putSubmit (run.next w answer).2 := by
    simp only [step, hfound]
  have harmed : ∀ batchId, Armed w batchId → Armed (step w (.submitStep id answer)) batchId := by
    intro batchId hbefore
    rw [hstep]
    exact hbefore.stays hserves (run.next_not_abandons w answer) rfl
  have hclear : ∀ batchId, Armed w batchId → Clear w batchId → Clear (step w (.submitStep id answer)) batchId := by
    intro batchId hbefore hbefore_clear
    rw [hstep]
    exact hbefore_clear.stays hbefore hserves rfl rfl
  have hown : (run.next w answer).2.won = true → Armed w run.batchId := by
    intro hwon
    obtain hwon | hclaimed := Submit.next_won hwon
    · exact h.won run hrun hwon
    · exact hclaimed
  refine ⟨step_sound h.sound _, ?_, ?_, ?_, ?_⟩
  · rw [hstep]
    exact h.single
  · intro other hother hwon
    obtain rfl | ⟨hmem, -⟩ := mem_submitStep hfound hother
    · rw [hnamed]
      exact harmed _ (hown hwon)
    · exact harmed _ (h.won other hmem hwon)
  · intro other hother hcleared
    obtain rfl | ⟨hmem, -⟩ := mem_submitStep hfound hother
    · rw [hnamed]
      have hwon := (Submit.next_sound (h.sound run hrun) w answer).won_of_cleared hcleared
      obtain hbefore | hbefore := Submit.next_cleared hcleared
      · exact hclear _ (hown hwon) (h.cleared run hrun hbefore)
      · exact hclear _ (hown hwon) hbefore
    · exact hclear _ (h.armed_of_cleared hmem hcleared) (h.cleared other hmem hcleared)
  · have hcalls : (step w (.submitStep id answer)).calls = (run.next w answer).1.calls w.calls := by
      rw [hstep]
      rfl
    have hold : ∀ call ∈ w.calls, Armed (step w (.submitStep id answer)) call.batchId ∧
        Clear (step w (.submitStep id answer)) call.batchId := by
      intro call hcall
      obtain ⟨hbefore, hbefore_clear⟩ := h.called call hcall
      exact ⟨harmed _ hbefore, hclear _ hbefore hbefore_clear⟩
    rw [hcalls]
    cases heffect : (run.next w answer).1 with
    | called added =>
      intro call hcall
      obtain hcall | hcall := List.mem_append.mp hcall
      · exact hold call hcall
      · obtain rfl := List.mem_singleton.mp hcall
        obtain ⟨hcleared, hcall_named⟩ := Submit.next_called heffect
        rw [hcall_named]
        have hbefore := h.armed_of_cleared hrun hcleared
        exact ⟨harmed _ hbefore, hclear _ hbefore (h.cleared run hrun hcleared)⟩
    | _ => exact hold

/-! ### Runs -/

/-- An operator abandons a batch by hand. -/
def Act.abandons : Act → Bool
  | .abandonStep .. => true
  | _ => false

lemma Poll.next_not_abandons (run : Poll) (w : World) (answer : Answer) : (run.next w answer).1.abandons = false := by
  unfold Poll.next
  split
  all_goals first
    | rfl
    | (split <;> first | rfl | (split <;> rfl))

lemma Cancel.next_not_abandons (run : Cancel) (w : World) (answer : Answer) : (run.next w answer).1.abandons = false := by
  unfold Cancel.next
  split
  all_goals first
    | rfl
    | (split <;> rfl)

lemma step_begin_guarded {w : World} (h : Guarded w) (operationId contentSha256 requestFingerprint : String)
    (requestSignature : Option String) (reuseCompleted processed : Bool) :
    Guarded (step w (.begin operationId contentSha256 requestFingerprint requestSignature reuseCompleted processed)) := by
  simp only [step]
  split
  · next operations result hbegin =>
    obtain ⟨id, saved⟩ := result
    refine h.operate rfl rfl rfl ?_
    intro operation hoperation hstarted
    change operation ∈ operations at hoperation
    obtain rfl | ⟨rfl, hunowned, halone⟩ := begin_cases hbegin
    · exact .inl hoperation
    · obtain hold | ⟨rfl, -⟩ := Table.mem_add hoperation
      · exact .inl hold
      · refine .inr ⟨hunowned, ?_⟩
        intro other hother hother_started hcontent
        obtain hold | ⟨rfl, -⟩ := Table.mem_add hother
        · exact absurd hother_started (halone other hold hcontent)
        · rfl
  · exact h

theorem step_guarded {w : World} {act : Act} (h : Guarded w) (hact : act.abandons = false) : Guarded (step w act) := by
  have hsound := step_sound h.sound act
  cases act with
  | create batchId jobId items =>
    exact h.effect (.repository (.createWithItems batchId jobId .preparing items)) rfl rfl rfl rfl rfl rfl hsound
      fun run hrun => .inl hrun
  | submit id batchId responsesEndpoint =>
    refine h.effect (.start { id, batchId, responsesEndpoint }) rfl rfl rfl rfl rfl rfl hsound ?_
    intro run hrun
    obtain hold | ⟨rfl, -⟩ := Table.mem_add hrun
    · exact .inl hold
    · exact .inr rfl
  | submitStep id answer =>
    cases hfound : w.submits.find id with
    | none => simpa only [step, hfound] using h
    | some run => exact h.turned hfound answer
  | pollStep id answer =>
    cases hfound : w.polls.find id with
    | none => simpa only [step, hfound] using h
    | some run =>
      have hsubmits := (step_apart w (.pollStep id answer) (by simp) (by simp)).2
      simp only [step, hfound] at hsound hsubmits ⊢
      refine h.effect ((run.next w answer).1) (run.next_serves w answer) (run.next_not_abandons w answer) rfl rfl rfl
        (calls_of_not_called (run.next_not_called w answer)) hsound ?_
      intro submission hsubmission
      obtain hold | ⟨_, _, _, rfl⟩ := hsubmits submission hsubmission
      · exact .inl hold
      · exact .inr rfl
  | cancelStep id answer =>
    cases hfound : w.cancels.find id with
    | none => simpa only [step, hfound] using h
    | some run =>
      have hsubmits := (step_apart w (.cancelStep id answer) (by simp) (by simp)).2
      simp only [step, hfound] at hsound hsubmits ⊢
      refine h.effect ((run.next w answer).1) (run.next_serves w answer) (run.next_not_abandons w answer) rfl rfl rfl
        (calls_of_not_called (run.next_not_called w answer)) hsound ?_
      intro submission hsubmission
      obtain hold | ⟨_, _, _, rfl⟩ := hsubmits submission hsubmission
      · exact .inl hold
      · exact .inr rfl
  | abandonStep => cases hact
  | begin operationId contentSha256 requestFingerprint requestSignature reuseCompleted processed =>
    exact step_begin_guarded h _ _ _ _ _ _
  | saveResponse operationId =>
    exact h.operate rfl rfl rfl fun operation hoperation hstarted => .inl (started_setOperations (by simp) hoperation hstarted)
  | finish operationId notSent =>
    refine h.operate rfl rfl rfl fun operation hoperation hstarted => .inl (started_setOperations ?_ hoperation hstarted)
    cases notSent <;> simp
  | finishRejected operationId =>
    exact h.operate rfl rfl rfl fun operation hoperation hstarted => .inl (started_setOperations (by simp) hoperation hstarted)
  | jobs | usage | settle | send | poll | cancel | abandon =>
    exact h.effect .none rfl rfl rfl rfl rfl rfl hsound fun run hrun => .inl hrun

lemma start_guarded (jobs : Jobs.Db) : Guarded (World.start jobs) where
  sound := start_sound jobs
  single := fun _ h => absurd h List.not_mem_nil
  won := fun _ h => absurd h List.not_mem_nil
  cleared := fun _ h => absurd h List.not_mem_nil
  called := fun _ h => absurd h List.not_mem_nil

/-- A submission of the batch stands at `create_batch`, or has called it. -/
def submitted (w : World) (batchId : String) : Prop :=
  (∃ run ∈ w.submits, run.batchId = batchId ∧ run.point = .creating) ∨ ∃ call ∈ w.calls, call.batchId = batchId

/-- At most one paid request is under way for a content. -/
structure PaidOnce (w : World) : Prop where
  apart : ∀ operation ∈ w.operations, operation.state = .started → operation.id ∈ w.sent →
    ∀ item ∈ w.db.items, item.contentSha256 = operation.contentSha256 → ¬submitted w item.batchId
  single : ∀ first ∈ w.operations, ∀ second ∈ w.operations, first.state = .started → second.state = .started →
    first.id ∈ w.sent → second.id ∈ w.sent → first.contentSha256 = second.contentSha256 → first = second

theorem Guarded.paidOnce {w : World} (h : Guarded w) : PaidOnce w := by
  refine ⟨?_, ?_⟩
  · rintro operation hoperation hstarted - item hitem hcontent (⟨run, hrun, hnamed, hpoint⟩ | ⟨call, hcall, hnamed⟩)
    · have hclear := h.cleared run hrun (by simp [Submit.cleared, hpoint])
      exact hclear item hitem hnamed.symm operation hoperation hcontent.symm hstarted
    · exact (h.called call hcall).2 item hitem hnamed.symm operation hoperation hcontent.symm hstarted
  · intro first hfirst second hsecond hfirst_started hsecond_started _ _ hcontent
    exact h.single first hfirst second hsecond hfirst_started hsecond_started hcontent

/-- In every interleaving of single requests and submissions, polls and cancellations included. -/
theorem paid_once (jobs : Jobs.Db) (acts : List Act) (hacts : ∀ act ∈ acts, act.abandons = false) :
    PaidOnce (run (World.start jobs) acts) := by
  have halong : Runs.Along step (fun _ act => act.abandons = false) (World.start jobs) acts :=
    Runs.Along.of_forall hacts fun _ _ h => h
  exact (Runs.invariant_of_along (fun _ _ => step_guarded) (start_guarded jobs) halong).paidOnce

/-- A batch is called for, then a single request for its photo is refused and one for another photo is sent. -/
def contested : List Act :=
  [.create "b" none [{ id := "i", customId := "c", contentSha256 := "sha", visionRequestFingerprint := "v" }],
    .submit "x" "b" false] ++
    List.replicate 18 (.submitStep "x" { leaseUntil := 900, fileId := "file-1", remote := { id := some "batch_r" } }) ++
    [.begin "o" "sha" "f" none false false, .begin "p" "other" "g" none false false, .send "p"]

theorem paid_once_of_contested :
    (∀ act ∈ contested, act.abandons = false) ∧
      (run (World.start ⟨.empty, .empty, .empty⟩) contested).operations.rows.map Operation.id = ["p"] ∧
      PaidOnce (run (World.start ⟨.empty, .empty, .empty⟩) contested) :=
  ⟨by simp [contested, Act.abandons], by decide, paid_once _ contested (by simp [contested, Act.abandons])⟩

end InkTime.Submission
