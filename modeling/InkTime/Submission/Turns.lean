import InkTime.Submission.Effects

/-!
# The turns of a submission

From the claim of its row until the answer of `create_batch` is on it, a run of `_submit_one` is exposed. `Turn`
lists what one step of a run is for its row: outside that part, into it, through it, or out of it.
-/

namespace InkTime.Submission

open Batches (Batch BatchState BatchStatus Remote RemoteStatus truthy)

/-! ### Exposed submissions -/

namespace Submit

/-- It has won the row, and `create_batch` is not answered yet. -/
def claims (run : Submit) : Bool :=
  match run.point with
  | .reserving | .checking .last _ | .creating => true
  | _ => false

/-- `create_batch` has returned, and the row does not show it yet. -/
def carries (run : Submit) : Bool :=
  match run.point with
  | .saving _ => true
  | .catching _ | .choosing _ | .markingSubmission .. => run.remoteCreated
  | _ => false

def exposed (run : Submit) : Bool := run.claims || run.carries

def done (run : Submit) : Bool :=
  match run.point with
  | .finished _ => true
  | _ => false

/-- What the points of a run say about its variables. -/
structure Proper (run : Submit) : Prop where
  claimed : run.claims = true → run.submissionAttempt = true ∧ run.remoteCreated = false
  carried : run.carries = true → run.submissionAttempt = true ∧ run.remoteCreated = true
  created : run.remoteCreated = true → run.carries = true ∨ match run.point with
    | .pausing _ | .creditMarking _ | .finished _ => True
    | _ => False
  /-- After `create_batch` nothing raises `BATCH-ALREADY-CLAIMED`. -/
  caught : run.carries = true → match run.point with
    | .catching failure => failure.code ≠ .alreadyClaimed
    | .choosing caught => caught.failure.code ≠ .alreadyClaimed
    | _ => True
  armed : match run.point with
    | .savingUpload fileId => fileId ≠ ""
    | .claimingSubmission => run.submissionAttempt = true
    | _ => True

end Submit

/-! ### Turns of a submission -/

/-- An effect of a run that does not touch what it does not own. -/
def Modest (runId : String) : Effect → Prop
  | .repository (.completeSubmission ..) | .repository (.setStatusFromRemote ..) => False
  | .repository (.completeUpload _ _ _ _ fileId) => fileId ≠ ""
  | .repository (.markSubmissionUnknown _ _ attempt _ _) => attempt = runId
  | .repository (.releaseSideEffectClaim _ owner) => owner = "submit:" ++ runId
  | .called _ | .start _ => False
  | _ => True

/-- What a step of `_submit_one` is for the row. -/
inductive Turn (w : World) (run : Submit) : Effect → Submit → Prop
  | outside {effect : Effect} {after : Submit} (before : run.exposed = false) (stays : after.exposed = false)
      (modest : Modest run.id effect) : Turn w run effect after
  | claim {now leaseUntil : Nat} {db : Batches.Db}
      (before : run.exposed = false)
      (accepted : Batches.call w.db (.claimSubmission now run.batchId run.owner run.id leaseUntil) = .ok (db, true)) :
      Turn w run (.repository (.claimSubmission now run.batchId run.owner run.id leaseUntil))
        { run with won := true, point := .reserving }
  | onward {effect : Effect} {after : Submit} (before : run.claims = true) (stays : after.claims = true)
      (inert : effect = .none ∨ effect = .reserve run.batchId) : Turn w run effect after
  | giveUp {after : Submit} (before : run.claims = true) (stays : after.exposed = false) : Turn w run .none after
  | refused {reply : Reply} {after : Submit} (before : run.claims = true) (stays : after.exposed = false)
      (unnamed : ∀ remoteId, reply ≠ .created remoteId) :
      Turn w run (.called ⟨run.batchId, run.id, reply⟩) after
  | carry {reply : Reply} {after : Submit} (before : run.claims = true) (stays : after.carries = true)
      (stands : reply ≠ .rejected)
      (saves : ∀ remote, after.point = .saving remote → truthy remote.id = true ∧ reply = .created (remote.id.getD "")) :
      Turn w run (.called ⟨run.batchId, run.id, reply⟩) after
  | saved {now : Nat} {remote : Remote} {db : Batches.Db} {after : Submit} (before : run.point = .saving remote)
      (accepted : Batches.call w.db (.completeSubmission now run.batchId run.id run.owner remote) = .ok (db, true))
      (stays : after.exposed = false) :
      Turn w run (.repository (.completeSubmission now run.batchId run.id run.owner remote)) after
  | unsaved {now : Nat} {remote : Remote} {after : Submit} (before : run.point = .saving remote)
      (refused : ∀ db, Batches.call w.db (.completeSubmission now run.batchId run.id run.owner remote) ≠ .ok (db, true))
      (stays : after.carries = true) (elsewhere : ∀ other, after.point ≠ .saving other) :
      Turn w run (.repository (.completeSubmission now run.batchId run.id run.owner remote)) after
  | handle {after : Submit} (before : run.carries = true) (stays : after.carries = true)
      (elsewhere : ∀ other, after.point ≠ .saving other) : Turn w run .none after
  | mark {now : Nat} {code : String} {after : Submit} (before : run.carries = true) (stays : after.exposed = false) :
      Turn w run (.repository (.markSubmissionUnknown now run.batchId run.id run.owner code)) after

namespace Submit

lemma settled_eq (run : Submit) (caught : Caught) :
    run.settled caught = run.goto (.pausing caught) ∨ run.settled caught = run.goto (.finished (some caught.failure)) := by
  unfold settled
  split
  · exact .inl rfl
  · exact .inr rfl

lemma settled_exposed (run : Submit) (caught : Caught) : (run.settled caught).exposed = false := by
  obtain h | h := run.settled_eq caught <;> rw [h] <;> rfl

lemma fail_exposed {run : Submit} (h : run.remoteCreated = false) (code : Code) : (run.fail code).exposed = false := by
  simp [fail, exposed, claims, carries, goto, h]

/-- Before the handler has run, nothing was created. -/
lemma Proper.uncreated {run : Submit} (h : run.Proper) (hcarries : run.carries = false)
    (hrunning : match run.point with
      | .pausing _ | .creditMarking _ | .finished _ => False
      | _ => True) : run.remoteCreated = false := by
  by_contra hcreated
  rw [Bool.not_eq_false] at hcreated
  obtain hcarried | hfinal := h.created hcreated
  · rw [hcarries] at hcarried
    cases hcarried
  · revert hrunning hfinal
    cases run.point <;> simp

/-- Where a repository call may lead. -/
lemma asks_snd {ρ : Type} {w : World} {op : Batches.Op} {accepted refused : ρ} {raised : Code → ρ} {p : ρ → Prop}
    (haccepted : p accepted) (hrefused : p refused) (hraised : ∀ error, p (raised (Code.ofError error))) :
    p (asks w op accepted refused raised).2 := by
  unfold asks
  dsimp only
  split
  · exact haccepted
  · exact hrefused
  · exact hraised _

/-- A repository call of a run outside its exposed part. -/
lemma asks_outside {run accepted refused : Submit} {raised : Code → Submit} {w : World} {op : Batches.Op}
    (before : run.exposed = false) (haccepted : accepted.exposed = false) (hrefused : refused.exposed = false)
    (hraised : ∀ code, (raised code).exposed = false) (hmodest : Modest run.id (.repository op)) :
    Turn w run (asks w op accepted refused raised).1 (asks w op accepted refused raised).2 := by
  refine .outside before ?_ hmodest
  exact asks_snd (p := fun after : Submit => after.exposed = false) haccepted hrefused fun error => hraised _

/-- The checks lead on in the same round, or out of it. -/
lemma checking_turn {run : Submit} {round : Round} {part : Part} (hpoint : run.point = .checking round part)
    (hcreated : run.remoteCreated = false) (w : World) (answer : Answer) :
    Turn w run (run.next w answer).1 (run.next w answer).2 := by
  simp only [next, hpoint]
  cases round with
  | first | upload =>
    have hbefore : run.exposed = false := by simp [exposed, claims, carries, hpoint]
    split
    · exact .outside hbefore (fail_exposed hcreated _) trivial
    · refine .outside hbefore ?_ trivial
      cases part <;> rfl
  | last =>
    have hbefore : run.claims = true := by simp [claims, hpoint]
    split
    · exact .giveUp hbefore (fail_exposed hcreated _)
    · refine .onward hbefore ?_ (.inl rfl)
      cases part <;> rfl

lemma creating_turn {run : Submit} (hpoint : run.point = .creating) (hcreated : run.remoteCreated = false) (w : World)
    (answer : Answer) : Turn w run (run.next w answer).1 (run.next w answer).2 := by
  have hbefore : run.claims = true := by simp [claims, hpoint]
  simp only [next, hpoint]
  split
  · refine .refused hbefore (by simp [exposed, claims, carries, goto, hcreated]) ?_
    intro remoteId
    unfold reply
    split <;> simp
  · split
    · next hid =>
      refine .carry hbefore rfl (by simp) ?_
      rintro remote ⟨⟩
      exact ⟨hid, rfl⟩
    · refine .carry hbefore rfl (by simp) ?_
      intro remote hsaving
      cases hsaving

lemma saving_turn {run : Submit} {remote : Remote} (hpoint : run.point = .saving remote) (hcreated : run.remoteCreated = true)
    (w : World) (answer : Answer) : Turn w run (run.next w answer).1 (run.next w answer).2 := by
  simp only [next, hpoint, asks]
  split
  · next db haccepted => exact .saved hpoint haccepted rfl
  · next db hrefused =>
    refine .unsaved hpoint ?_ (by simp [fail, carries, goto, hcreated]) (by simp [fail, goto])
    intro db' haccepted
    rw [hrefused] at haccepted
    cases haccepted
  · next error hraised =>
    refine .unsaved hpoint ?_ (by simp [fail, carries, goto, hcreated]) (by simp [fail, goto])
    intro db' haccepted
    rw [hraised] at haccepted
    cases haccepted

/-- The branch of the handler for a batch that was created. -/
lemma choose_created {run : Submit} (hcreated : run.remoteCreated = true) (hattempt : run.submissionAttempt = true)
    {caught : Caught} (hcode : caught.failure.code ≠ .alreadyClaimed) (w : World) :
    run.choose w caught = run.goto (.markingSubmission caught "submission_persist_unknown") := by
  simp [choose, hcreated, hattempt, hcode]

/-- The other branches end outside. -/
lemma choose_exposed {run : Submit} (hcreated : run.remoteCreated = false) (w : World) (caught : Caught) :
    (run.choose w caught).exposed = false := by
  unfold choose
  dsimp only
  split_ifs <;> simp [exposed, claims, carries, goto, hcreated]

theorem next_turn {run : Submit} (hproper : run.Proper) (w : World) (answer : Answer) :
    Turn w run (run.next w answer).1 (run.next w answer).2 := by
  have hbefore : run.claims = false → run.carries = false → run.exposed = false := by
    intro hclaims hcarries
    rw [exposed, hclaims, hcarries]
    rfl
  cases hpoint : run.point with
  | checking round part =>
    exact checking_turn hpoint (hproper.uncreated (by simp [carries, hpoint]) (by simp [hpoint])) w answer
  | creating => exact creating_turn hpoint (hproper.uncreated (by simp [carries, hpoint]) (by simp [hpoint])) w answer
  | saving remote => exact saving_turn hpoint (hproper.carried (by simp [carries, hpoint])).2 w answer
  | reserving =>
    have hcreated := hproper.uncreated (by simp [carries, hpoint]) (by simp [hpoint])
    have hclaims : run.claims = true := by simp [claims, hpoint]
    simp only [next, hpoint]
    split
    · exact .giveUp hclaims (by simp [exposed, claims, carries, goto, hcreated])
    · split
      · exact .giveUp hclaims (fail_exposed hcreated _)
      · split
        · exact .giveUp hclaims (by simp [exposed, claims, carries, goto, hcreated])
        · exact .onward hclaims rfl (.inr rfl)
  | claimingSubmission =>
    have hcreated := hproper.uncreated (by simp [carries, hpoint]) (by simp [hpoint])
    have houtside := hbefore (by simp [claims, hpoint]) (by simp [carries, hpoint])
    simp only [next, hpoint, asks]
    split
    · next db haccepted => exact .claim houtside haccepted
    · exact .outside houtside (fail_exposed hcreated _) trivial
    · exact .outside houtside (fail_exposed hcreated _) trivial
  | catching failure =>
    cases hcreated : run.remoteCreated with
    | true =>
      have hcarries : run.carries = true := by simp [carries, hpoint, hcreated]
      simp only [next, hpoint, hcreated]
      simp only [Bool.not_true, Bool.and_false, Bool.false_eq_true, if_false]
      exact .handle hcarries (by simp [carries, goto, hcreated]) (by simp [goto])
    | false =>
      have houtside := hbefore (by simp [claims, hpoint]) (by simp [carries, hpoint, hcreated])
      simp only [next, hpoint]
      split
      · exact .outside houtside rfl trivial
      · exact .outside houtside (by simp [exposed, claims, carries, goto, hcreated]) trivial
  | choosing caught =>
    cases hcreated : run.remoteCreated with
    | true =>
      have hcarries : run.carries = true := by simp [carries, hpoint, hcreated]
      have hcode := hproper.caught hcarries
      rw [hpoint] at hcode
      simp only [next, hpoint]
      rw [choose_created hcreated (hproper.carried hcarries).1 hcode]
      exact .handle hcarries (by simp [carries, goto, hcreated]) (by simp [goto])
    | false =>
      have houtside := hbefore (by simp [claims, hpoint]) (by simp [carries, hpoint, hcreated])
      simp only [next, hpoint]
      exact .outside houtside (choose_exposed hcreated w caught) trivial
  | markingSubmission caught code =>
    simp only [next, hpoint]
    cases hcreated : run.remoteCreated with
    | true => exact .mark (by simp [carries, hpoint, hcreated]) (settled_exposed run caught)
    | false =>
      exact .outside (hbefore (by simp [claims, hpoint]) (by simp [carries, hpoint, hcreated])) (settled_exposed run caught) rfl
  | entering =>
    have houtside := hbefore (by simp [claims, hpoint]) (by simp [carries, hpoint])
    simp only [next, hpoint]
    split
    · exact .outside houtside rfl trivial
    · split_ifs <;> exact .outside houtside rfl trivial
  | reading =>
    have hcreated := hproper.uncreated (by simp [carries, hpoint]) (by simp [hpoint])
    have houtside := hbefore (by simp [claims, hpoint]) (by simp [carries, hpoint])
    simp only [next, hpoint]
    split
    · exact .outside houtside (fail_exposed hcreated _) trivial
    · split_ifs <;> exact .outside houtside rfl trivial
  | claimingUpload =>
    have hcreated := hproper.uncreated (by simp [carries, hpoint]) (by simp [hpoint])
    have houtside := hbefore (by simp [claims, hpoint]) (by simp [carries, hpoint])
    simp only [next, hpoint]
    exact asks_outside houtside rfl (fail_exposed hcreated _) (fail_exposed hcreated) trivial
  | savingUpload fileId =>
    have hcreated := hproper.uncreated (by simp [carries, hpoint]) (by simp [hpoint])
    have houtside := hbefore (by simp [claims, hpoint]) (by simp [carries, hpoint])
    simp only [next, hpoint]
    exact asks_outside houtside rfl (fail_exposed hcreated _) (fail_exposed hcreated) (by simpa only [hpoint, Modest] using hproper.armed)
  | preparingUpload =>
    have hcreated := hproper.uncreated (by simp [carries, hpoint]) (by simp [hpoint])
    have houtside := hbefore (by simp [claims, hpoint]) (by simp [carries, hpoint])
    simp only [next, hpoint]
    split
    · exact .outside houtside (fail_exposed hcreated _) trivial
    · split
      · exact .outside houtside (fail_exposed hcreated _) trivial
      · split
        · exact .outside houtside (by simp [exposed, claims, carries, goto, hcreated]) trivial
        · exact .outside houtside rfl trivial
  | uploading =>
    have hcreated := hproper.uncreated (by simp [carries, hpoint]) (by simp [hpoint])
    have houtside := hbefore (by simp [claims, hpoint]) (by simp [carries, hpoint])
    simp only [next, hpoint]
    split
    · exact .outside houtside (by simp [exposed, claims, carries, goto, hcreated]) trivial
    · split
      · exact .outside houtside (fail_exposed hcreated _) trivial
      · exact .outside houtside rfl trivial
  | rereading =>
    have hcreated := hproper.uncreated (by simp [carries, hpoint]) (by simp [hpoint])
    have houtside := hbefore (by simp [claims, hpoint]) (by simp [carries, hpoint])
    simp only [next, hpoint]
    split
    · exact .outside houtside rfl trivial
    · exact .outside houtside (fail_exposed hcreated _) trivial
  | failingLocally caught =>
    have houtside := hbefore (by simp [claims, hpoint]) (by simp [carries, hpoint])
    simp only [next, hpoint]
    exact asks_outside houtside (settled_exposed run caught) (settled_exposed run caught) (fun _ => rfl) trivial
  | retrying caught items =>
    have houtside := hbefore (by simp [claims, hpoint]) (by simp [carries, hpoint])
    cases items with
    | nil =>
      simp only [next, hpoint]
      exact .outside houtside (settled_exposed run caught) rfl
    | cons item rest =>
      simp only [next, hpoint]
      refine .outside houtside ?_ trivial
      split_ifs <;> rfl
  | releasing caught =>
    have hcreated := hproper.uncreated (by simp [carries, hpoint]) (by simp [hpoint])
    have houtside := hbefore (by simp [claims, hpoint]) (by simp [carries, hpoint])
    simp only [next, hpoint]
    exact .outside houtside (by simp [exposed, claims, carries, goto, hcreated]) trivial
  | holdReleasing caught jobId =>
    have houtside := hbefore (by simp [claims, hpoint]) (by simp [carries, hpoint])
    simp only [next, hpoint]
    exact .outside houtside rfl rfl
  | markingUpload caught =>
    have houtside := hbefore (by simp [claims, hpoint]) (by simp [carries, hpoint])
    simp only [next, hpoint]
    exact .outside houtside (settled_exposed run caught) trivial
  | holding | holdPausing | holdMarking | cleaning | listing | failingJobItem | pausing | creditMarking =>
    have houtside := hbefore (by simp [claims, hpoint]) (by simp [carries, hpoint])
    simp only [next, hpoint]
    exact .outside houtside rfl trivial
  | finished raised =>
    have houtside := hbefore (by simp [claims, hpoint]) (by simp [carries, hpoint])
    simp only [next, hpoint]
    exact .outside houtside houtside trivial

/-- A run outside its exposed part, with nothing created. -/
lemma Proper.of_outside {run : Submit} (hexposed : run.exposed = false) (hcreated : run.remoteCreated = false)
    (harmed : match run.point with
      | .savingUpload fileId => fileId ≠ ""
      | .claimingSubmission => run.submissionAttempt = true
      | _ => True) : run.Proper := by
  rw [exposed, Bool.or_eq_false_iff] at hexposed
  refine ⟨?_, ?_, ?_, ?_, harmed⟩
  · intro h
    rw [hexposed.1] at h
    cases h
  · intro h
    rw [hexposed.2] at h
    cases h
  · intro h
    rw [hcreated] at h
    cases h
  · intro h
    rw [hexposed.2] at h
    cases h

/-- A run that has nothing left to record. -/
lemma Proper.of_final {run : Submit} (hfinal : match run.point with
      | .pausing _ | .creditMarking _ | .finished _ => True
      | _ => False) : run.Proper := by
  have hoff : run.claims = false ∧ run.carries = false ∧ match run.point with
      | .savingUpload fileId => fileId ≠ ""
      | .claimingSubmission => run.submissionAttempt = true
      | _ => True := by
    revert hfinal
    unfold claims carries
    cases run.point <;> simp
  obtain ⟨hclaims, hcarries, harmed⟩ := hoff
  refine ⟨?_, ?_, fun _ => .inr hfinal, ?_, harmed⟩
  · intro h
    rw [hclaims] at h
    cases h
  · intro h
    rw [hcarries] at h
    cases h
  · intro h
    rw [hcarries] at h
    cases h

lemma settled_proper (run : Submit) (caught : Caught) : (run.settled caught).Proper := by
  obtain h | h := run.settled_eq caught <;> rw [h] <;> exact .of_final trivial

lemma fail_proper {run : Submit} (h : run.remoteCreated = false) (code : Code) : (run.fail code).Proper :=
  .of_outside (fail_exposed h code) h (by simp [fail, goto])

lemma catching_proper {run : Submit} (h : run.remoteCreated = false) (failure : Failure) :
    (run.goto (.catching failure)).Proper :=
  .of_outside (by simp [exposed, claims, carries, goto, h]) h (by simp [goto])

lemma claims_proper {run : Submit} (hclaims : run.claims = true) (hattempt : run.submissionAttempt = true)
    (hcreated : run.remoteCreated = false) : run.Proper := by
  have hoff : run.carries = false ∧ match run.point with
      | .savingUpload fileId => fileId ≠ ""
      | .claimingSubmission => run.submissionAttempt = true
      | _ => True := by
    revert hclaims
    unfold claims carries
    cases run.point <;> simp
  obtain ⟨hcarries, harmed⟩ := hoff
  refine ⟨fun _ => ⟨hattempt, hcreated⟩, ?_, ?_, ?_, harmed⟩
  · intro h
    rw [hcarries] at h
    cases h
  · intro h
    rw [hcreated] at h
    cases h
  · intro h
    rw [hcarries] at h
    cases h

lemma carries_proper {run : Submit} (hcarries : run.carries = true) (hattempt : run.submissionAttempt = true)
    (hcreated : run.remoteCreated = true) (hcaught : match run.point with
      | .catching failure => failure.code ≠ .alreadyClaimed
      | .choosing caught => caught.failure.code ≠ .alreadyClaimed
      | _ => True) : run.Proper := by
  have hoff : run.claims = false ∧ match run.point with
      | .savingUpload fileId => fileId ≠ ""
      | .claimingSubmission => run.submissionAttempt = true
      | _ => True := by
    revert hcarries
    unfold claims carries
    cases run.point <;> simp
  obtain ⟨hclaims, harmed⟩ := hoff
  refine ⟨?_, fun _ => ⟨hattempt, hcreated⟩, fun _ => .inl hcarries, fun _ => hcaught, harmed⟩
  intro h
  rw [hclaims] at h
  cases h

lemma ofError_ne_alreadyClaimed (error : Batches.BatchError) : Code.ofError error ≠ .alreadyClaimed := by
  cases error <;> simp [Code.ofError]

theorem next_proper {run : Submit} (hproper : run.Proper) (w : World) (answer : Answer) :
    (run.next w answer).2.Proper := by
  cases hpoint : run.point with
  | checking round part =>
    have hcreated := hproper.uncreated (by simp [carries, hpoint]) (by simp [hpoint])
    simp only [next, hpoint]
    split
    · exact fail_proper hcreated _
    · cases round with
      | first | upload =>
        refine Proper.of_outside ?_ hcreated ?_
        · cases part <;> rfl
        · cases part <;> trivial
      | last =>
        have hattempt := (hproper.claimed (by simp [claims, hpoint])).1
        refine claims_proper ?_ hattempt hcreated
        cases part <;> rfl
  | creating =>
    have hcreated := hproper.uncreated (by simp [carries, hpoint]) (by simp [hpoint])
    have hattempt := (hproper.claimed (by simp [claims, hpoint])).1
    simp only [next, hpoint]
    split
    · exact catching_proper hcreated _
    · split
      · exact carries_proper rfl hattempt rfl trivial
      · exact carries_proper rfl hattempt rfl (by simp)
  | saving remote =>
    obtain ⟨hattempt, hcreated⟩ := hproper.carried (by simp [carries, hpoint])
    simp only [next, hpoint]
    apply asks_snd (p := Proper) (.of_final trivial)
    · exact carries_proper (by simp [fail, goto, carries, hcreated]) hattempt hcreated (by simp [fail, goto])
    · intro error
      exact carries_proper (by simp [fail, goto, carries, hcreated]) hattempt hcreated
        (by simp [fail, goto, ofError_ne_alreadyClaimed])
  | reserving =>
    have hcreated := hproper.uncreated (by simp [carries, hpoint]) (by simp [hpoint])
    have hattempt := (hproper.claimed (by simp [claims, hpoint])).1
    simp only [next, hpoint]
    split
    · exact catching_proper hcreated _
    · split
      · exact fail_proper hcreated _
      · split
        · exact catching_proper hcreated _
        · exact claims_proper rfl hattempt hcreated
  | claimingSubmission =>
    have hcreated := hproper.uncreated (by simp [carries, hpoint]) (by simp [hpoint])
    simp only [next, hpoint]
    apply asks_snd (p := Proper)
    · exact claims_proper rfl (by simpa only [hpoint] using hproper.armed) hcreated
    · exact fail_proper hcreated _
    · exact fun error => fail_proper hcreated _
  | catching failure =>
    simp only [next, hpoint]
    cases hcreated : run.remoteCreated with
    | true =>
      have hcarries : run.carries = true := by simp [carries, hpoint, hcreated]
      have hcode := hproper.caught hcarries
      rw [hpoint] at hcode
      simp only [Bool.not_true, Bool.and_false, Bool.false_eq_true, if_false]
      exact carries_proper (by simp [goto, carries, hcreated]) (hproper.carried hcarries).1 hcreated hcode
    | false =>
      split
      · exact .of_outside (by simp [goto, exposed, claims, carries]) hcreated (by simp [goto])
      · exact .of_outside (by simp [goto, exposed, claims, carries, hcreated]) hcreated (by simp [goto])
  | choosing caught =>
    simp only [next, hpoint]
    cases hcreated : run.remoteCreated with
    | true =>
      have hcarries : run.carries = true := by simp [carries, hpoint, hcreated]
      have hcode := hproper.caught hcarries
      rw [hpoint] at hcode
      rw [choose_created hcreated (hproper.carried hcarries).1 hcode]
      exact carries_proper (by simp [goto, carries, hcreated]) (hproper.carried hcarries).1 hcreated trivial
    | false =>
      refine Proper.of_outside (choose_exposed hcreated w caught) ?_ ?_
      · unfold choose
        dsimp only
        split_ifs <;> exact hcreated
      · unfold choose
        dsimp only
        split_ifs <;> simp [goto]
  | markingSubmission caught code | markingUpload caught =>
    simp only [next, hpoint]
    exact settled_proper run caught
  | failingLocally caught =>
    simp only [next, hpoint]
    exact asks_snd (p := Proper) (settled_proper run caught) (settled_proper run caught) fun error => .of_final trivial
  | pausing caught =>
    simp only [next, hpoint]
    exact .of_final trivial
  | creditMarking caught =>
    simp only [next, hpoint]
    exact .of_final trivial
  | finished raised =>
    simp only [next, hpoint]
    exact hproper
  | holdMarking caught jobId =>
    simp only [next, hpoint]
    exact .of_final trivial
  | retrying caught items =>
    have hcreated := hproper.uncreated (by simp [carries, hpoint]) (by simp [hpoint])
    cases items with
    | nil =>
      simp only [next, hpoint]
      exact settled_proper run caught
    | cons item rest =>
      simp only [next, hpoint]
      split_ifs
      · exact .of_outside rfl hcreated (by simp [goto])
      · exact .of_outside rfl hcreated (by simp [goto])
  | entering =>
    have hcreated := hproper.uncreated (by simp [carries, hpoint]) (by simp [hpoint])
    simp only [next, hpoint]
    split
    · exact .of_final trivial
    · split_ifs
      · exact .of_final trivial
      · exact .of_final trivial
      · exact .of_outside rfl hcreated (by simp [goto])
  | reading =>
    have hcreated := hproper.uncreated (by simp [carries, hpoint]) (by simp [hpoint])
    simp only [next, hpoint]
    split
    · exact fail_proper hcreated _
    · split_ifs
      · exact .of_outside rfl hcreated (by simp [goto])
      · exact .of_outside rfl hcreated (by simp)
  | claimingUpload =>
    have hcreated := hproper.uncreated (by simp [carries, hpoint]) (by simp [hpoint])
    simp only [next, hpoint]
    exact asks_snd (p := Proper) (.of_outside rfl hcreated (by simp)) (fail_proper hcreated _) fun _ => fail_proper hcreated _
  | savingUpload fileId =>
    have hcreated := hproper.uncreated (by simp [carries, hpoint]) (by simp [hpoint])
    simp only [next, hpoint]
    exact asks_snd (p := Proper) (.of_outside rfl hcreated (by simp [goto])) (fail_proper hcreated _) fun _ => fail_proper hcreated _
  | preparingUpload =>
    have hcreated := hproper.uncreated (by simp [carries, hpoint]) (by simp [hpoint])
    simp only [next, hpoint]
    split
    · exact fail_proper hcreated _
    · split
      · exact fail_proper hcreated _
      · split
        · exact catching_proper hcreated _
        · exact .of_outside rfl hcreated (by simp [goto])
  | uploading =>
    have hcreated := hproper.uncreated (by simp [carries, hpoint]) (by simp [hpoint])
    simp only [next, hpoint]
    split
    · exact catching_proper hcreated _
    · split
      · exact fail_proper hcreated _
      · next hnamed =>
        refine Proper.of_outside rfl hcreated ?_
        simpa [goto] using hnamed
  | rereading =>
    have hcreated := hproper.uncreated (by simp [carries, hpoint]) (by simp [hpoint])
    simp only [next, hpoint]
    split
    · exact .of_outside rfl hcreated (by simp)
    · exact fail_proper hcreated _
  | releasing caught =>
    have hcreated := hproper.uncreated (by simp [carries, hpoint]) (by simp [hpoint])
    simp only [next, hpoint]
    exact .of_outside (by simp [goto, exposed, claims, carries, hcreated]) hcreated (by simp [goto])
  | holding | holdReleasing | holdPausing | cleaning | listing | failingJobItem =>
    have hcreated := hproper.uncreated (by simp [carries, hpoint]) (by simp [hpoint])
    simp only [next, hpoint]
    exact .of_outside rfl hcreated (by simp [goto])

/-- The run under the same name and for the same batch. -/
def Same (run after : Submit) : Prop := after.id = run.id ∧ after.batchId = run.batchId

lemma settled_same (run : Submit) (caught : Caught) : Same run (run.settled caught) := by
  obtain h | h := run.settled_eq caught <;> rw [h] <;> exact ⟨rfl, rfl⟩

lemma choose_same (run : Submit) (w : World) (caught : Caught) : Same run (run.choose w caught) := by
  unfold choose
  dsimp only
  split_ifs <;> exact ⟨rfl, rfl⟩

theorem next_same (run : Submit) (w : World) (answer : Answer) : Same run (run.next w answer).2 := by
  unfold next
  split
  all_goals first
    | exact ⟨rfl, rfl⟩
    | exact settled_same run _
    | exact choose_same run w _
    | exact asks_snd ⟨rfl, rfl⟩ ⟨rfl, rfl⟩ fun _ => ⟨rfl, rfl⟩
    | exact asks_snd (settled_same run _) (settled_same run _) fun _ => ⟨rfl, rfl⟩
    | (split <;> first | exact ⟨rfl, rfl⟩ | (split <;> first | exact ⟨rfl, rfl⟩ | (split <;> exact ⟨rfl, rfl⟩)))

/-- The repository calls of a step are among those the service makes. -/
theorem next_serves (run : Submit) (w : World) (answer : Answer) : (run.next w answer).1.serves = true := by
  unfold next
  split
  all_goals first
    | rfl
    | (split <;> first | rfl | (split <;> first | rfl | (split <;> rfl)))

/-- A submission starts no other. -/
theorem next_not_start (run : Submit) (w : World) (answer : Answer) (added : Submit) : (run.next w answer).1 ≠ .start added := by
  unfold next
  split
  all_goals first
    | (intro h; cases h)
    | (split <;> first | (intro h; cases h) | (split <;> first | (intro h; cases h) | (split <;> (intro h; cases h))))

end Submit

/-! ### Nested submissions -/

/-- Only the nested call of a poll starts a submission. -/
lemma Poll.next_start {run : Poll} {w : World} {answer : Answer} {added : Submit} (h : (run.next w answer).1 = .start added) :
    added = { id := answer.fresh, batchId := run.batchId, responsesEndpoint := answer.responsesEndpoint } := by
  cases hpoint : run.point with
  | submitting resumed =>
    simp only [Poll.next, hpoint] at h
    split at h
    · exact (Effect.start.inj h).symm
    · cases h
  | holdingItems status items => cases items <;> simp [Poll.next, hpoint] at h
  | listing | reading | awaiting | planReading | retrieving | noting =>
    simp only [Poll.next, hpoint] at h
    repeat' split at h
    all_goals cases h
  | _ => simp [Poll.next, hpoint, asks, Poll.writes] at h

lemma Cancel.next_start (run : Cancel) (w : World) (answer : Answer) (added : Submit) : (run.next w answer).1 ≠ .start added := by
  unfold Cancel.next
  split
  all_goals first
    | (intro h; cases h)
    | (split <;> (intro h; cases h))

lemma Abandon.next_start (run : Abandon) (w : World) (answer : Answer) (added : Submit) : (run.next w answer).1 ≠ .start added := by
  unfold Abandon.next
  split
  all_goals first
    | (intro h; cases h)
    | (split <;> first | (intro h; cases h) | (split <;> (intro h; cases h)))

end InkTime.Submission
