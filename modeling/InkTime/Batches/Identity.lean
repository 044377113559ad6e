import InkTime.Batches.Moves

/-!
# Remote identities

A remote batch id and the three file ids are written once. `set_status_from_remote` checks the identity under
`id` and writes it from `remote_batch_id`, so a report that names both differently moves a bound batch to
another remote batch; and the empty text counts as missing in every check although it is stored. In runs without
such reports the identities are permanent.
-/

namespace InkTime.Batches

open Checked
open Texts (strip)

/-- A stored empty text is about to be replaced. -/
def fillsEmpty (stored given : Option String) : Bool := stored == some "" && truthy given

/-- The report shows the stored id as `id`, and another one as `remote_batch_id`. -/
def renames (stored : Option String) (remote : Remote) : Bool :=
  truthy stored && remote.id == stored && remote.remoteBatchId.isSome && remote.remoteBatchId != stored

/-- A claimed submission would replace a stored empty text. -/
def refillsSubmitted (state : BatchState) (attemptId owner : String) (remote : Remote) : Bool :=
  state.holdsSubmission attemptId owner &&
    (fillsEmpty state.remoteBatchId remote.identity || fillsEmpty state.outputFileId remote.outputFileId ||
      fillsEmpty state.errorFileId remote.errorFileId)

/-- A recovery would replace a stored empty text. -/
def refillsRecovered (state : BatchState) (remote : Remote) : Bool :=
  state.status.recoverable &&
    (fillsEmpty state.remoteBatchId remote.identity || fillsEmpty state.outputFileId remote.outputFileId ||
      fillsEmpty state.errorFileId remote.errorFileId)

/-- A report that is not stale names two remote ids, or would replace a stored empty text. -/
def misreports (state : BatchState) (remote : Remote) (expected : Option Int) (owner : Option String) : Bool :=
  match RemoteStatus.parse (strip (remote.status.getD "")) with
  | none => false
  | some status =>
    !staleReport state status expected owner &&
      (renames state.remoteBatchId remote || fillsEmpty state.remoteBatchId remote.remoteBatchId ||
        fillsEmpty state.inputFileId remote.inputFileId || fillsEmpty state.outputFileId remote.outputFileId ||
        fillsEmpty state.errorFileId remote.errorFileId)

/-- A local failure that is let through reaches some of its targets, and not those that store an empty text. -/
def failsPartly (db : Db) (asked : Batch) (siblings : Bool) : Bool :=
  !(db.batches.any fun other => localTargets asked siblings other && other.state.hasSideEffect) &&
    db.batches.affected (unsentTarget asked siblings) != 0 &&
    db.batches.affected (unsentTarget asked siblings) != db.batches.count (localTargets asked siblings)

/-- Calls that break an identity or stop half way. -/
def confusesIdentity (db : Db) : Op → Bool
  | .completeSubmission _ batchId attemptId owner remote =>
    (db.batches.find batchId).any fun batch => refillsSubmitted batch.state attemptId owner remote
  | .bindRecoveredRemote _ batchId remote _ => (db.batches.find batchId).any fun batch => refillsRecovered batch.state remote
  | .setStatusFromRemote batchId remote expected owner =>
    (db.batches.find batchId).any fun batch => misreports batch.state remote expected owner
  | .failLocalBatch batchId _ _ siblings => (db.batches.find batchId).any fun asked => failsPartly db asked siblings
  | _ => false

/-- An id that is set stays what it is. -/
def Stays (before after : Option String) : Prop := ∀ text, before = some text → after = some text

/-- What every later state of a row owes to an earlier one. -/
structure KeepsIdentity (before after : BatchState) : Prop where
  remote : Stays before.remoteBatchId after.remoteBatchId
  input : Stays before.inputFileId after.inputFileId
  output : Stays before.outputFileId after.outputFileId
  error : Stays before.errorFileId after.errorFileId
  version_le : before.sideEffectVersion ≤ after.sideEffectVersion
  version_lt : (after.status ≠ before.status ∨ ¬ SameIds before after) → before.sideEffectVersion < after.sideEffectVersion

def RowKept (before after : Batch) : Prop := KeepsIdentity before.state after.state

lemma Stays.refl (text : Option String) : Stays text text := fun _ h => h

lemma Stays.of_eq {before after : Option String} (h : after = before) : Stays before after := fun _ ht => h.trans ht

lemma Stays.trans {a b c : Option String} (h : Stays a b) (h' : Stays b c) : Stays a c := fun text ht => h' text (h text ht)

lemma KeepsIdentity.refl (state : BatchState) : KeepsIdentity state state where
  remote := .refl _
  input := .refl _
  output := .refl _
  error := .refl _
  version_le := le_rfl
  version_lt := by
    rintro (h | h)
    · exact absurd rfl h
    · exact absurd (SameIds.refl state) h

lemma KeepsIdentity.trans {a b c : BatchState} (h : KeepsIdentity a b) (h' : KeepsIdentity b c) : KeepsIdentity a c where
  remote := h.remote.trans h'.remote
  input := h.input.trans h'.input
  output := h.output.trans h'.output
  error := h.error.trans h'.error
  version_le := h.version_le.trans h'.version_le
  version_lt := by
    intro hchanged
    -- a change over both stretches is a change over one of them
    by_cases hfirst : b.status ≠ a.status ∨ ¬ SameIds a b
    · exact (h.version_lt hfirst).trans_le h'.version_le
    · rw [not_or, not_ne_iff, not_not] at hfirst
      have hsecond : c.status ≠ b.status ∨ ¬ SameIds b c := by
        obtain hstatus | hids := hchanged
        · left
          rwa [hfirst.1]
        · right
          intro hids'
          exact hids (hfirst.2.trans hids')
      exact h.version_le.trans_lt (h'.version_lt hsecond)

/-! ### Ids that are checked before they are written -/

lemma stays_of_checked {stored : Option String} {given : String} (hclash : clashes stored given = false)
    (hempty : fillsEmpty stored (some given) = false) : Stays stored (some given) := by
  rintro text rfl
  simp only [clashes, fillsEmpty, truthy, Bool.and_eq_false_iff, bne_eq_false_iff_eq, beq_eq_false_iff_ne] at hclash hempty
  grind

/-- A reported id that passed its check is the stored one, or the first. -/
lemma stays_of_report {stored given : Option String} (hclash : given.all (fun text => !clashes stored text) = true)
    (hempty : fillsEmpty stored given = false) : Stays stored (given <|> stored) := by
  cases given with
  | none => exact .refl stored
  | some text =>
    apply stays_of_checked
    · simpa using hclash
    · exact hempty

/-- The checks that run one after another all passed. -/
lemma checkSubmitted_ok {db : Db} {batch : Batch} {remoteId : String} {remote : Remote}
    (h : checkSubmitted db batch remoteId remote = .ok ()) :
    clashes batch.state.remoteBatchId remoteId = false ∧
      (remote.outputFileId.all fun given => !clashes batch.state.outputFileId given) = true ∧
      (remote.errorFileId.all fun given => !clashes batch.state.errorFileId given) = true := by
  obtain ⟨_, hremote, h⟩ := bind_eq_ok.mp h
  obtain ⟨-, -, h⟩ := bind_eq_ok.mp h
  obtain ⟨-, -, h⟩ := bind_eq_ok.mp h
  obtain ⟨_, houtput, h⟩ := bind_eq_ok.mp h
  rw [require_eq_ok] at hremote houtput h
  exact ⟨by simpa using hremote, houtput, h⟩

lemma checkRecovered_ok {db : Db} {batch : Batch} {remoteId : String} {remote : Remote}
    (h : checkRecovered db batch remoteId remote = .ok ()) :
    clashes batch.state.remoteBatchId remoteId = false ∧
      (remote.outputFileId.all fun given => !clashes batch.state.outputFileId given) = true ∧
      (remote.errorFileId.all fun given => !clashes batch.state.errorFileId given) = true := by
  obtain ⟨-, -, h⟩ := bind_eq_ok.mp h
  obtain ⟨_, hremote, h⟩ := bind_eq_ok.mp h
  obtain ⟨_, houtput, h⟩ := bind_eq_ok.mp h
  rw [require_eq_ok] at hremote houtput h
  exact ⟨by simpa using hremote, houtput, h⟩

lemma checkReported_ok {state : BatchState} {remote : Remote} (h : checkReported state remote = .ok ()) :
    (remote.identity.all fun given => !clashes state.remoteBatchId given) = true ∧
      (remote.inputFileId.all fun given => !clashes state.inputFileId given) = true ∧
      (remote.outputFileId.all fun given => !clashes state.outputFileId given) = true ∧
      (remote.errorFileId.all fun given => !clashes state.errorFileId given) = true := by
  obtain ⟨_, hremote, h⟩ := bind_eq_ok.mp h
  obtain ⟨_, hinput, h⟩ := bind_eq_ok.mp h
  obtain ⟨_, houtput, h⟩ := bind_eq_ok.mp h
  rw [require_eq_ok] at hremote hinput houtput h
  exact ⟨hremote, hinput, houtput, h⟩

/-- The id is checked under one key and written from another; they agree unless the report renames. -/
lemma stays_of_reported_id {stored : Option String} {remote : Remote}
    (hcheck : (remote.identity.all fun given => !clashes stored given) = true) (hrenames : renames stored remote = false)
    (hempty : fillsEmpty stored remote.remoteBatchId = false) : Stays stored (remote.remoteBatchId <|> stored) := by
  rintro text rfl
  cases hgiven : remote.remoteBatchId with
  | none => rfl
  | some given =>
    suffices text = given by rw [this]; rfl
    by_cases htext : text = ""
    · rw [htext]
      symm
      simpa [fillsEmpty, truthy, hgiven, htext] using hempty
    · cases hid : remote.id with
      | none => simpa [Remote.identity, orElse, truthy, clashes, hgiven, hid, htext] using hcheck
      | some shown =>
        by_cases hshown : shown = ""
        · simpa [Remote.identity, orElse, truthy, clashes, hgiven, hid, hshown, htext] using hcheck
        · have hsame : text = shown := by
            simpa [Remote.identity, orElse, truthy, clashes, hid, hshown, htext] using hcheck
          rw [hsame]
          symm
          simpa [renames, truthy, hgiven, hid, hshown, hsame] using hrenames

/-- The input file is taken from a report only where none is known. -/
lemma stays_of_reported_input {stored given : Option String} (hempty : fillsEmpty stored given = false) :
    Stays stored (if truthy stored then stored else given <|> stored) := by
  rintro text rfl
  cases given with
  | none => simp
  | some new =>
    simp only [fillsEmpty, truthy] at hempty ⊢
    grind

/-! ### One step -/

/-- No input file is known in the early phases. -/
def EarlyEmpty (batch : Batch) : Prop := batch.state.status.early = true → batch.state.inputFileId = none

lemma RemoteStatus.localStatus_early (status : RemoteStatus) : status.localStatus.early = false := by
  cases status <;> rfl

lemma BatchStatus.not_early_of_terminal {status : BatchStatus} (h : status.terminal = true) : status.early = false := by
  cases status <;> first | rfl | cases h

lemma RemoteStatus.localStatus_terminal (status : RemoteStatus) : status.localStatus.terminal = false := by
  cases status <;> rfl

lemma Move.keepsIdentity {db : Db} {op : Op} {batch : Batch} {after : BatchState} (h : Move db op batch after)
    (hmem : batch ∈ db.batches) (hearly : EarlyEmpty batch) (hclean : confusesIdentity db op = false) :
    KeepsIdentity batch.state after := by
  have hfind := Table.find_of_mem hmem
  cases h with
  | touched ids counters status remote version =>
    refine ⟨.of_eq ids.remote, .of_eq ids.input, .of_eq ids.output, .of_eq ids.error, version, ?_⟩
    rintro (h | h)
    · exact absurd status h
    · exact absurd ids h
  | advanced ids counters opened stays early silent version =>
    exact ⟨.of_eq ids.remote, .of_eq ids.input, .of_eq ids.output, .of_eq ids.error, version.le, fun _ => version⟩
  | uploaded fileId early status input remote output error counters silent version =>
    refine ⟨.of_eq remote, ?_, .of_eq output, .of_eq error, version.le, fun _ => version⟩
    rw [hearly early]
    rintro text ⟨⟩
  | submitted now attemptId owner remoteId remote status named holds identity checked counters local_status remote_id input
      output error version =>
    obtain ⟨hremote, houtput, herror⟩ := checkSubmitted_ok checked
    subst named
    simp only [confusesIdentity, hfind, Option.any_some, refillsSubmitted, holds, identity, Bool.true_and,
      Bool.or_eq_false_iff] at hclean
    refine ⟨?_, .of_eq input, ?_, ?_, version.le, fun _ => version⟩
    · rw [remote_id]
      exact stays_of_checked hremote hclean.1.1
    · rw [output]
      exact stays_of_report houtput hclean.1.2
    · rw [error]
      exact stays_of_report herror hclean.2
  | bound now remoteId remote itemStatus status named recoverable identity checked counters local_status remote_id input
      output error version =>
    obtain ⟨hremote, houtput, herror⟩ := checkRecovered_ok checked
    subst named
    simp only [confusesIdentity, hfind, Option.any_some, refillsRecovered, recoverable, identity, Bool.true_and,
      Bool.or_eq_false_iff] at hclean
    refine ⟨?_, .of_eq input, ?_, ?_, version.le, fun _ => version⟩
    · rw [remote_id]
      exact stays_of_checked hremote hclean.1.1
    · rw [output]
      exact stays_of_report houtput hclean.1.2
    · rw [error]
      exact stays_of_report herror hclean.2
  | reported remote expected owner status named parsed fresh checked =>
    obtain ⟨hremote, -, houtput, herror⟩ := checkReported_ok checked
    subst named
    simp only [confusesIdentity, hfind, Option.any_some, misreports, parsed, fresh, Bool.not_false, Bool.true_and,
      Bool.or_eq_false_iff] at hclean
    obtain ⟨⟨⟨⟨hrenames, hid⟩, hinput⟩, hout⟩, herr⟩ := hclean
    exact ⟨stays_of_reported_id hremote hrenames hid, stays_of_reported_input hinput, stays_of_report houtput hout,
      stays_of_report herror herr, Nat.le_succ _, fun _ => Nat.lt_succ_self _⟩
  | failed batchId errorCode jobStatus siblings asked named found target allowed remote input =>
    exact ⟨.refl _, .refl _, .refl _, .refl _, Nat.le_succ _, fun _ => Nat.lt_succ_self _⟩
  | finalized ids opened terminal closes version =>
    exact ⟨.of_eq ids.remote, .of_eq ids.input, .of_eq ids.output, .of_eq ids.error, version.le, fun _ => version⟩

/-- The phases before the input file stay free of one. -/
lemma Move.earlyEmpty {db : Db} {op : Op} {batch : Batch} {after : BatchState} (h : Move db op batch after)
    (hearly : EarlyEmpty batch) : after.status.early = true → after.inputFileId = none := by
  intro hafter
  cases h with
  | touched ids counters status remote version =>
    rw [ids.input]
    exact hearly (status ▸ hafter)
  | advanced ids counters opened stays early silent version =>
    rw [ids.input]
    obtain hnone | hbefore := early hafter
    · exact hnone
    · exact hearly hbefore
  | uploaded fileId early status =>
    rw [status] at hafter
    cases hafter
  | submitted now attemptId owner remoteId remote status named holds identity checked counters local_status =>
    rw [local_status, status.localStatus_early] at hafter
    cases hafter
  | bound now remoteId remote itemStatus status named recoverable identity checked counters local_status =>
    rw [local_status, status.localStatus_early] at hafter
    cases hafter
  | reported remote expected owner status =>
    have hlocal := status.localStatus_early
    rw [show (batch.state.reported status remote).status = status.localStatus from rfl, hlocal] at hafter
    cases hafter
  | failed => cases hafter
  | finalized ids opened terminal closes version =>
    rw [BatchStatus.not_early_of_terminal terminal] at hafter
    cases hafter

/-! ### Refused calls -/

lemma thenItems_refused {db : Db} {batchId : String} {guard : BatchState → Bool} {set : BatchState → BatchState}
    {matching : Item → Bool} {status : ItemStatus}
    (h : (thenItems (compareAndSet db batchId guard set) matching status).2 = false) :
    (thenItems (compareAndSet db batchId guard set) matching status).1 = db := by
  rw [thenItems_answer] at h
  unfold thenItems
  rw [if_neg (by simp [h])]
  exact compareAndSet_refused h

lemma claimCleanupFile_refused {db db' : Db} {now : Nat} {batchId : String} {kind : FileKind} {owner : String} {leaseUntil : Nat}
    (h : ((claimCleanupFile db now batchId kind owner leaseUntil).1,
      (claimCleanupFile db now batchId kind owner leaseUntil).2.isSome) = (db', false)) : db' = db := by
  obtain ⟨rfl, hanswer⟩ := Prod.mk.inj h
  unfold claimCleanupFile at hanswer ⊢
  split
  · rfl
  · next before hbefore =>
    simp only [hbefore] at hanswer
    dsimp only
    apply compareAndSet_refused
    cases hwritten : (compareAndSet db batchId (fun state => state.filePresent kind && state.leaseFree now)
        (BatchState.fileClaimed kind owner leaseUntil)).2 with
    | false => rfl
    | true => simp [hwritten] at hanswer

/-- A refused local failure touched no row, unless it stopped half way. -/
lemma failLocalBatch_refused {db db' : Db} {batchId errorCode : String} {jobStatus : Jobs.JobStatus} {siblings : Bool}
    (h : failLocalBatch db batchId errorCode jobStatus siblings = .ok (db', false))
    (hclean : confusesIdentity db (.failLocalBatch batchId errorCode jobStatus siblings) = false) : db' = db := by
  obtain ⟨asked, hasked, hallowed, -, -, ⟨-, rfl, hpart⟩ | ⟨hchanged, -⟩⟩ := failLocalBatch_ok h
  · simp only [confusesIdentity, hasked, Option.any_some, failsPartly, hallowed, Bool.not_false, Bool.true_and,
      Bool.and_eq_false_iff, bne_eq_false_iff_eq] at hclean
    obtain hnone | hall := hclean
    · simp only [Db.setBatches, Table.update_eq_self hnone]
    · exact absurd hall hpart
  · cases hchanged

/-- A call that raises or is refused changes no row. -/
lemma step_refused {db : Db} {op : Op} (hrefused : refused db op = true) (hclean : confusesIdentity db op = false) :
    step db op = db := by
  cases hcall : call db op with
  | error error => rw [step, hcall, after_error]
  | ok result =>
    obtain ⟨db', answer⟩ := result
    rw [step, hcall, after_ok]
    obtain rfl : answer = false := by simpa [refused, hcall] using hrefused
    cases op with
    | createWithItems | createChildBatch | bindRecoveredRemote | finalizeBatchResult | finalizeCleanup =>
      obtain ⟨result, -, hanswer⟩ := answered_eq_ok hcall
      cases hanswer
    | claimPoll | claimUpload | claimSubmission | claimCancel | completeCleanupFile | releaseSideEffectClaim =>
      exact compareAndSet_eq_refused (Except.ok.inj hcall)
    | claimCleanupFile now batchId kind owner leaseUntil => exact claimCleanupFile_refused (Except.ok.inj hcall)
    | completeUpload now batchId attemptId owner inputFileId =>
      obtain ⟨rfl, hanswer⟩ := Prod.mk.inj (completeUpload_ok hcall).1
      exact compareAndSet_refused hanswer.symm
    | completeSubmission now batchId attemptId owner remote =>
      obtain ⟨result, h, hanswer⟩ := answered_eq_ok hcall
      obtain ⟨rfl, -⟩ | ⟨batch, remoteId, status, -, -, -, -, -, -, rfl, -⟩ := completeSubmission_cases h
      · rfl
      · cases hanswer
    | markUploadUnknown | markSubmissionUnknown | recoverUploadedFile =>
      obtain ⟨rfl, hanswer⟩ := Prod.mk.inj (Except.ok.inj hcall)
      exact thenItems_refused hanswer
    | abandonUnknownUpload now batchId confirmed =>
      obtain ⟨hchanged, -⟩ := abandonUnknownUpload_ok hcall
      cases hchanged
    | failLocalBatch batchId errorCode jobStatus siblings => exact failLocalBatch_refused hcall hclean
    | setStatusFromRemote batchId remote expected owner =>
      obtain ⟨result, h, hanswer⟩ := answered_eq_ok hcall
      obtain ⟨rfl, -⟩ | ⟨batch, status, -, -, -, -, -, rfl, -⟩ := setStatusFromRemote_cases h
      · rfl
      · cases hanswer

/-! ### One remote batch for one local batch -/

/-- No two rows hold the same remote id. -/
def RemoteIdsUnique (db : Db) : Prop :=
  ∀ a ∈ db.batches, ∀ b ∈ db.batches, ∀ remoteId, a.state.remoteBatchId = some remoteId →
    b.state.remoteBatchId = some remoteId → a.id = b.id

lemma remoteIdsUnique_of_constraintsHold {db : Db} (h : db.constraintsHold = true) : RemoteIdsUnique db := by
  simp only [Db.constraintsHold, Db.remoteIdsDistinct, Bool.and_eq_true, decide_eq_true_eq] at h
  have hpairwise := List.pairwise_filterMap.mp h.1
  intro a ha b hb remoteId hremote hremote'
  by_contra hne
  have hdiffer : a ≠ b := fun heq => hne (congrArg Batch.id heq)
  have hsymm : Std.Symm fun x y : Batch => ∀ r, x.state.remoteBatchId = some r → ∀ r', y.state.remoteBatchId = some r' →
      r ≠ r' := ⟨fun x y hxy r hr r' hr' heq => hxy r' hr' r hr heq.symm⟩
  exact hpairwise.forall ha hb hdiffer remoteId hremote remoteId hremote' rfl

/-- Only three calls write a remote id. -/
def Op.binds : Op → Bool
  | .completeSubmission .. | .bindRecoveredRemote .. | .setStatusFromRemote .. => true
  | _ => false

lemma Move.remote_eq {db : Db} {op : Op} {batch : Batch} {after : BatchState} (h : Move db op batch after)
    (hbinds : op.binds = false) : after.remoteBatchId = batch.state.remoteBatchId := by
  cases h with
  | touched ids => exact ids.remote
  | advanced ids => exact ids.remote
  | uploaded fileId early status input remote => exact remote
  | submitted _ _ _ _ _ _ named =>
    subst named
    cases hbinds
  | bound _ _ _ _ _ named =>
    subst named
    cases hbinds
  | reported _ _ _ _ named =>
    subst named
    cases hbinds
  | failed => rfl
  | finalized ids => exact ids.remote

lemma Created.remote {batch : Batch} {op : Op} (h : Created batch op) : batch.state.remoteBatchId = none := by
  cases op with
  | createWithItems | createChildBatch => exact h.2.2.1
  | _ => cases h

/-- A row that holds a remote id after a call that binds none held it before. -/
lemma holds_before {db : Db} {op : Op} (hbinds : op.binds = false) {after : Batch} (hafter : after ∈ (step db op).batches)
    {remoteId : String} (hremote : after.state.remoteBatchId = some remoteId) :
    ∃ before ∈ db.batches, before.id = after.id ∧ before.state.remoteBatchId = some remoteId := by
  obtain hnew | ⟨before, hbefore, hkey⟩ := step_stems db op after hafter
  · rw [hnew.remote] at hremote
    cases hremote
  · obtain ⟨-, hmove⟩ := (step_moved db op).apply hbefore hafter hkey.symm
    exact ⟨before, hbefore, hkey, (hmove.remote_eq hbinds).symm.trans hremote⟩

lemma step_remoteIdsUnique {db : Db} {op : Op} (h : RemoteIdsUnique db) : RemoteIdsUnique (step db op) := by
  cases hbinds : op.binds with
  | false =>
    intro a ha b hb remoteId hremote hremote'
    obtain ⟨a', ha', hkey, hheld⟩ := holds_before hbinds ha hremote
    obtain ⟨b', hb', hkey', hheld'⟩ := holds_before hbinds hb hremote'
    rw [← hkey, ← hkey']
    exact h a' ha' b' hb' remoteId hheld hheld'
  | true =>
    -- the unique index is checked before any of the three commits
    cases hcall : call db op with
    | error error =>
      rw [step, hcall, after_error]
      exact h
    | ok result =>
      obtain ⟨db', answer⟩ := result
      rw [step, hcall, after_ok]
      cases op with
      | completeSubmission now batchId attemptId owner remote =>
        obtain ⟨result, hok, -⟩ := answered_eq_ok hcall
        obtain ⟨rfl, -⟩ | ⟨_, _, _, -, -, -, -, -, hholds, -, -⟩ := completeSubmission_cases hok
        · exact h
        · exact remoteIdsUnique_of_constraintsHold hholds
      | bindRecoveredRemote now batchId remote itemStatus =>
        obtain ⟨result, hok, -⟩ := answered_eq_ok hcall
        obtain ⟨_, _, _, -, -, -, -, -, hholds, -⟩ := bindRecoveredRemote_ok hok
        exact remoteIdsUnique_of_constraintsHold hholds
      | setStatusFromRemote batchId remote expected owner =>
        obtain ⟨result, hok, -⟩ := answered_eq_ok hcall
        obtain ⟨rfl, -⟩ | ⟨_, _, -, -, -, -, hholds, -, -⟩ := setStatusFromRemote_cases hok
        · exact h
        · exact remoteIdsUnique_of_constraintsHold hholds
      | _ => cases hbinds

/-! ### Reports after the end -/

/-- What the provider reported last stands, once it is terminal. -/
def KeepsLastReport (before after : Batch) : Prop :=
  ∀ status, before.state.remoteStatus = some (.remote status) → status.terminal = true →
    after.state.remoteStatus = before.state.remoteStatus

lemma Move.keepsLastReport {db : Db} {op : Op} {batch : Batch} {after : BatchState} (h : Move db op batch after)
    (hreports : op.reports = true) {last : RemoteStatus} (hlast : batch.state.remoteStatus = some (.remote last))
    (hterminal : last.terminal = true) : after.remoteStatus = batch.state.remoteStatus := by
  cases h with
  | touched ids counters status remote version => exact remote hreports
  | advanced ids counters opened stays early silent version =>
    rw [silent] at hreports
    cases hreports
  | uploaded fileId early status input remote output error counters silent version =>
    rw [silent] at hreports
    cases hreports
  | submitted _ _ _ _ _ _ named =>
    subst named
    cases hreports
  | bound _ _ _ _ _ named =>
    subst named
    cases hreports
  | reported remote expected owner status named parsed fresh checked =>
    simp only [staleReport, hlast, hterminal, Bool.or_eq_false_iff, Bool.true_and, bne_eq_false_iff_eq] at fresh
    rw [hlast, ← fresh.1.2.1.2]
    rfl
  | failed _ _ _ _ _ named =>
    subst named
    cases hreports
  | finalized ids opened terminal closes version =>
    rw [Op.silent_of_closes closes] at hreports
    cases hreports

/-! ### Every run -/

/-- A row as a creation inserts it. -/
def CreatedEmpty (batch : Batch) : Prop := ∃ status totalItems, batch.state = { status, totalItems }

structure IdentityInvariant (db : Db) : Prop where
  early : ∀ batch ∈ db.batches, EarlyEmpty batch
  unique : RemoteIdsUnique db

lemma Created.input {batch : Batch} {op : Op} (h : Created batch op) : batch.state.inputFileId = none := by
  cases op with
  | createWithItems | createChildBatch => exact h.2.2.2
  | _ => cases h

lemma identityInvariant_of_empty {db : Db} (h : ∀ batch ∈ db.batches, CreatedEmpty batch) : IdentityInvariant db where
  early := by
    intro batch hbatch _
    obtain ⟨status, totalItems, hstate⟩ := h batch hbatch
    rw [hstate]
  unique := by
    intro a ha b _ remoteId hremote _
    obtain ⟨status, totalItems, hstate⟩ := h a ha
    rw [hstate] at hremote
    cases hremote

lemma IdentityInvariant.step {db : Db} (h : IdentityInvariant db) (op : Op) : IdentityInvariant (step db op) where
  early := by
    intro after hafter hstatus
    obtain hnew | ⟨before, hbefore, hkey⟩ := step_stems db op after hafter
    · exact hnew.input
    · obtain ⟨-, hmove⟩ := (step_moved db op).apply hbefore hafter hkey.symm
      exact hmove.earlyEmpty (h.early before hbefore) hstatus
  unique := step_remoteIdsUnique h.unique

lemma step_keepsIdentity {db : Db} {op : Op} (h : IdentityInvariant db) (hclean : confusesIdentity db op = false) :
    Table.Follows RowKept db.batches (step db op).batches := by
  intro before hbefore
  obtain ⟨after, hafter, hkey, -, hmove⟩ := step_moved db op before hbefore
  exact ⟨after, hafter, hkey, hmove.keepsIdentity hbefore (h.early before hbefore) hclean⟩

lemma run_keepsIdentity {db : Db} (h : IdentityInvariant db) {ops : List Op}
    (hclean : Runs.Along step (fun db op => confusesIdentity db op = false) db ops) :
    Table.Follows RowKept db.batches (run db ops).batches := by
  have hstep : ∀ state op, IdentityInvariant state ∧ Table.Follows RowKept db.batches state.batches →
      confusesIdentity state op = false →
      IdentityInvariant (step state op) ∧ Table.Follows RowKept db.batches (step state op).batches := by
    rintro state op ⟨hinv, hkept⟩ hop
    exact ⟨hinv.step op, hkept.trans (fun _ _ _ => KeepsIdentity.trans) (step_keepsIdentity hinv hop)⟩
  have hstart : Table.Follows RowKept db.batches db.batches := Table.Follows.refl (fun batch => KeepsIdentity.refl batch.state) _
  exact (Runs.invariant_of_along hstep ⟨h, hstart⟩ hclean).2

/-- Identities are permanent, remote ids are unique, versions count every change, the last report stands and
refused calls change nothing. -/
theorem remote_identity_permanent {db : Db} (hempty : ∀ batch ∈ db.batches, CreatedEmpty batch) {earlier later : List Op}
    (hclean : Runs.Along step (fun db op => confusesIdentity db op = false) db (earlier ++ later)) :
    Table.Follows RowKept (run db earlier).batches
        (run db (earlier ++ later)).batches ∧
      RemoteIdsUnique (run db (earlier ++ later)) ∧
      ∀ op rest, later = op :: rest →
        (refused (run db earlier) op = true → step (run db earlier) op = run db earlier) ∧
        (op.reports = true →
          Table.Follows KeepsLastReport (run db earlier).batches (step (run db earlier) op).batches) := by
  obtain ⟨hearlier, hlater⟩ := Runs.along_append.mp hclean
  have hstart := identityInvariant_of_empty hempty
  have hbefore : IdentityInvariant (run db earlier) := Runs.invariant_of_run (fun _ op h => h.step op) hstart earlier
  have hafter : IdentityInvariant (run db (earlier ++ later)) :=
    Runs.invariant_of_run (fun _ op h => h.step op) hstart (earlier ++ later)
  refine ⟨?_, hafter.unique, ?_⟩
  · have happend : run db (earlier ++ later) = run (run db earlier) later := Runs.run_append step db earlier later
    rw [happend]
    exact run_keepsIdentity hbefore hlater
  · rintro op rest rfl
    refine ⟨fun hrefused => step_refused hrefused hlater.1, ?_⟩
    intro hreports before hbefore
    obtain ⟨after, hafter, hkey, -, hmove⟩ := step_moved (run db earlier) op before hbefore
    exact ⟨after, hafter, hkey, fun last hlast hterminal => hmove.keepsLastReport hreports hlast hterminal⟩

/-- One batch without a job, as it was created. -/
def preparedBatch : Db where
  batches := ⟨[{ id := "b" }], by decide⟩
  items := Table.empty
  jobs := ⟨Table.empty, Table.empty, Table.empty⟩

/-- The batch is uploaded and submitted as `r1`. -/
def submittedAsR1 : List Op :=
  [.claimUpload 0 "b" "w" "u1" 900, .completeUpload 1 "b" "u1" "w" "file-1", .claimSubmission 2 "b" "w" "s1" 900,
    .completeSubmission 3 "b" "s1" "w" { id := some "r1" }]

/-- A report under both keys, then one that is older. -/
def reportedTwice : List Op :=
  [.setStatusFromRemote "b" { id := some "r1", remoteBatchId := some "r1", status := some "completed" } none none,
    .setStatusFromRemote "b" { id := some "r1", status := some "validating" } none none]

def remoteIdOf (db : Db) (batchId : String) : Option String :=
  (db.batches.find batchId).bind fun batch => batch.state.remoteBatchId

theorem remote_identity_permanent_reported :
    remoteIdOf (run preparedBatch submittedAsR1) "b" = some "r1" ∧
    Table.Follows RowKept (run preparedBatch submittedAsR1).batches
      (run preparedBatch (submittedAsR1 ++ reportedTwice)).batches ∧
    RemoteIdsUnique (run preparedBatch (submittedAsR1 ++ reportedTwice)) := by
  have hempty : ∀ batch ∈ preparedBatch.batches, CreatedEmpty batch := by
    intro batch hbatch
    obtain rfl : batch = { id := "b" } := by simpa [Table.mem_iff, preparedBatch] using hbatch
    exact ⟨.preparing, 0, rfl⟩
  have hclean : Runs.Along step (fun db op => confusesIdentity db op = false) preparedBatch
      (submittedAsR1 ++ reportedTwice) := by decide
  obtain ⟨hkept, hunique, -⟩ := remote_identity_permanent hempty hclean
  exact ⟨by decide, hkept, hunique⟩

/-- A report that shows `r1` as `id` and `r2` as `remote_batch_id` moves the batch to `r2`. -/
theorem remote_identity_renamed :
    remoteIdOf (run preparedBatch submittedAsR1) "b" = some "r1" ∧
    remoteIdOf (run preparedBatch (submittedAsR1 ++ [.setStatusFromRemote "b"
      { id := some "r1", remoteBatchId := some "r2", status := some "in_progress" } none none])) "b" = some "r2" := by
  decide

end InkTime.Batches
