import InkTime.Requests.Progress

/-!
# Runs of requests

Requests take their turns in any order, at any time of the clock, and may stop for good after any of them.
-/

namespace InkTime.Requests

section

variable {dg : Digests} {call : ℕ → Call} {token : ℕ → String} {system : System} {n : ℕ} {jobs jobs' : List Job}

/-! ### One turn -/

lemma PhaseSound.beat {ledger : Ledger} {phase : Phase} (h : PhaseSound dg call token ledger jobs n phase) (renewed : Bool) :
    PhaseSound dg call token ledger jobs n (phase.beat renewed) := by
  cases phase <;> exact h

lemma drawn_ne (htoken : Function.Injective token) (n : ℕ) : ∀ other, other ≠ n → token n ≠ token other :=
  fun _ hother heq => hother (htoken heq).symm

lemma token_succ_ne (htoken : Function.Injective token) (n : ℕ) : token (n + 1) ≠ token n :=
  fun heq => absurd (htoken heq) (Nat.succ_ne_self n)

lemma sound_reserve (htoken : Function.Injective token) (h : Sound dg call token system) (now : ℤ) :
    Sound dg call token (step dg call token system (.reserve n now)) := by
  unfold step
  dsimp only
  split
  · split
    · exact h.move trivial
    · next row owner ledger hreserve =>
      obtain ⟨hmoved, hfind, hfingerprint, hrow⟩ := reserve_spec hreserve
      refine h.turn hmoved (Grown.refl _) (drawn_ne htoken n) ?_ ?_
      · intro other hother
        rw [hfind, Option.some.injEq] at hother
        rw [← hother]
        obtain ⟨old, hold, hkept⟩ | hopened := hrow
        · exact (h.rows _ old hold).kept hkept
        · refine ⟨fun hcompleted => ?_, fun snapshot hsnapshot => ?_⟩
          · rw [hopened.status] at hcompleted
            cases hcompleted
          · rw [hopened.snapshot] at hsnapshot
            cases hsnapshot
      · unfold afterReserve
        dsimp only
        split
        · next hcompleted => exact ⟨row, ⟨hfind, hfingerprint⟩, hcompleted, rfl⟩
        split
        · next snapshot hsnapshot => exact ⟨row, ⟨hfind, hfingerprint⟩, hsnapshot, List.Forall₂.nil⟩
        · next hnone =>
          split
          · refine ⟨row, ⟨hfind, hfingerprint⟩, ?_⟩
            intro hsome
            rw [hnone] at hsome
            cases hsome
          · trivial
  · exact h

/-- A renewal changes nothing that a request relies on, its own or another's. -/
lemma sound_renewed (htoken : Function.Injective token) (h : Sound dg call token system) (scope fingerprint : String) (now : ℤ)
    {phase : Phase} (hphase : PhaseSound dg call token system.ledger system.jobs n phase) :
    Sound dg call token
      ({ system with ledger := (renewIdempotentRequest scope fingerprint (token n) now system.ledger).2 }.move n phase) := by
  obtain ⟨hmoved, hrow⟩ := renew_spec (token n) scope fingerprint (token n) now system.ledger
  refine h.turn hmoved (Grown.refl _) (drawn_ne htoken n) ?_ ?_
  · intro row hfind
    obtain ⟨old, hold, hkept⟩ := hrow row hfind
    exact (h.rows scope old hold).kept hkept
  · exact hphase.moved (renew_spec (token (n + 1)) scope fingerprint (token n) now system.ledger).1 (token_succ_ne htoken n) (Grown.refl _)

lemma sound_heartbeat (htoken : Function.Injective token) (h : Sound dg call token system) (now : Option ℤ) :
    Sound dg call token (step dg call token system (.heartbeat n now)) := by
  cases now with
  | none =>
    unfold step
    dsimp only
    split
    · exact h.move ((h.phases n).beat false)
    · exact h
  | some now =>
    unfold step
    dsimp only
    split
    · exact sound_renewed htoken h _ _ now ((h.phases n).beat _)
    · exact h

lemma sound_enumerate (h : Sound dg call token system) (photos : List PhotoRow) :
    Sound dg call token (step dg call token system (.enumerate n photos)) := by
  unfold step
  dsimp only
  split
  · next lost hphase =>
    have hchoosing := h.phases n
    rw [hphase] at hchoosing
    exact h.move ⟨hchoosing, batches_distinct ..⟩
  · exact h

lemma sound_renew (htoken : Function.Injective token) (h : Sound dg call token system) (now : ℤ) :
    Sound dg call token (step dg call token system (.renew n now)) := by
  unfold step
  dsimp only
  split
  · next lost snapshot hphase =>
    have hchoosing := h.phases n
    rw [hphase] at hchoosing
    split
    · exact h.move trivial
    · apply sound_renewed htoken h
      split
      · exact hchoosing
      · trivial
  · exact h

lemma sound_freeze (htoken : Function.Injective token) (h : Sound dg call token system) (now : ℤ) :
    Sound dg call token (step dg call token system (.freeze n now)) := by
  unfold step
  dsimp only
  split
  · next lost snapshot hphase =>
    have hchoosing := h.phases n
    rw [hphase] at hchoosing
    obtain ⟨⟨claimed, hclaimed, hlost⟩, hdistinct⟩ := hchoosing
    split
    · exact h.move trivial
    · next row ledger hfreeze =>
      have hunfrozen : ∀ old, system.ledger.find ((call n).scope dg) = some old → old.requestSnapshot.isSome = true →
          old.reservationToken ≠ some (token n) := by
        intro old hold
        rw [hclaimed.find, Option.some.injEq] at hold
        exact hold ▸ hlost
      obtain ⟨hmoved, hfind, hfingerprint, hrow⟩ := freeze_spec hfreeze hunfrozen
      refine h.turn hmoved (Grown.refl _) (drawn_ne htoken n) ?_ ?_
      · intro other hother
        rw [hfind, Option.some.injEq] at hother
        rw [← hother]
        obtain ⟨-, hsame⟩ | ⟨hopen, hsnapshot⟩ := hrow
        · exact h.rows _ row (hsame ▸ hfind)
        · refine ⟨fun hcompleted => absurd hcompleted hopen, fun frozen hfrozen => ?_⟩
          rw [hsnapshot, Option.some.injEq] at hfrozen
          exact hfrozen ▸ hdistinct
      · unfold afterFreeze
        obtain ⟨hcompleted, -⟩ | ⟨hopen, hsnapshot⟩ := hrow
        · rw [if_pos hcompleted]
          exact ⟨row, ⟨hfind, hfingerprint⟩, hcompleted, rfl⟩
        · rw [if_neg hopen, hsnapshot]
          exact ⟨row, ⟨hfind, hfingerprint⟩, hsnapshot, List.Forall₂.nil⟩
  · exact h

lemma createJob_grown {request : JobRequest} {reserved : String → Bool} {jobId id : String}
    (h : createJob request reserved jobId jobs = .ok (id, jobs')) : Grown jobs jobs' := by
  intro identity hidentity
  obtain ⟨hsame, -⟩ | ⟨hnew, -⟩ := createJob_cases h
  · rwa [hsame]
  · rw [hnew]
    exact List.mem_cons_of_mem _ hidentity

/-- The job that stands for a batch has the batch's key. -/
lemma queueAi_covers {env : Environment} {jobId : String} {answer : JobAnswer} {snapshot : Snapshot} {batch : Batch}
    (h : queueAi dg env ((call n).batchRequest dg snapshot batch) jobId jobs = .ok (answer, jobs')) :
    Grown jobs jobs' ∧ (answer.id, (call n).jobKey dg batch.group) ∈ jobs'.map Job.identity := by
  obtain ⟨created, hkey, hcreate⟩ := queueAi_creates h
  have hdedupe : created.dedupeKey = (call n).jobKey dg batch.group := by
    unfold Call.jobKey
    unfold Call.batchRequest at hkey
    dsimp only at hkey
    rw [hkey]
  obtain ⟨key, hjobKey, hgiven⟩ := jobKey_given dg (call n) batch.group
  refine ⟨createJob_grown hcreate, ?_⟩
  obtain ⟨hsame, other, hother, hmem⟩ | ⟨hnew, hid, -⟩ := createJob_cases hcreate
  · rw [hdedupe, hjobKey, hgiven] at hother
    rw [hsame, hjobKey, hother]
    exact hmem
  · rw [hnew, hid, hdedupe]
    exact List.mem_cons_self ..

lemma sound_queue (htoken : Function.Injective token) (h : Sound dg call token system) (env : Environment) (jobId : String) :
    Sound dg call token (step dg call token system (.queue n env jobId)) := by
  unfold step
  dsimp only
  split
  · next snapshot done hphase =>
    have hqueueing := h.phases n
    rw [hphase] at hqueueing
    obtain ⟨row, hclaimed, hsnapshot, hcovered⟩ := hqueueing
    split
    · exact h
    · next batch hbatch =>
      split
      · exact h.move trivial
      · next answer jobs hqueue =>
        obtain ⟨hgrown, hmem⟩ := queueAi_covers hqueue
        refine h.turn (Moved.refl (token n) ((call n).scope dg) _) hgrown (drawn_ne htoken n) ?_ ?_
        · intro other hother
          exact (h.rows _ other hother).grown hgrown
        · refine ⟨row, hclaimed, hsnapshot, ?_⟩
          obtain ⟨hlt, hget⟩ := List.getElem?_eq_some_iff.mp hbatch
          rw [List.length_append, List.length_singleton, List.take_add_one, hbatch, Option.toList_some]
          exact List.rel_append (hcovered.grown hgrown) (List.Forall₂.cons hmem List.Forall₂.nil)
  · exact h

lemma sound_complete (htoken : Function.Injective token) (h : Sound dg call token system) :
    Sound dg call token (step dg call token system (.complete n)) := by
  unfold step
  dsimp only
  split
  · next snapshot done hphase =>
    have hqueueing := h.phases n
    rw [hphase] at hqueueing
    obtain ⟨claimed, hclaimed, hsnapshot, hcovered⟩ := hqueueing
    split
    · exact h
    · next hall =>
      rw [List.take_of_length_le (Nat.not_lt.mp hall)] at hcovered
      split
      · exact h.move trivial
      · next row ledger hcomplete =>
        obtain ⟨old, hold, hfingerprint, ⟨hcompleted, rfl, rfl⟩ | ⟨hopen, rfl, rfl⟩⟩ := complete_cases hcomplete
        · exact h.move ⟨row, ⟨hold, hfingerprint⟩, hcompleted, rfl⟩
        · obtain rfl : claimed = old := by
            have hsame := hclaimed.find.symm.trans hold
            exact Option.some.inj hsame
          obtain ⟨hmoved, hfind⟩ := complete_spec ((call n).response done) (token n) hold hopen
          refine h.turn hmoved (Grown.refl _) (drawn_ne htoken n) ?_ ⟨_, ⟨hfind, hfingerprint⟩, rfl, rfl⟩
          intro other hother
          rw [hfind, Option.some.injEq] at hother
          rw [← hother]
          exact ⟨fun _ => ⟨n, snapshot, done, rfl, hsnapshot, rfl, hcovered⟩, (h.rows _ claimed hold).distinct⟩
  · exact h

lemma sound_create (htoken : Function.Injective token) (h : Sound dg call token system) (request : JobRequest)
    (reserved : String → Bool) (jobId : String) :
    Sound dg call token (step dg call token system (.create request reserved jobId)) := by
  unfold step
  dsimp only
  split
  · exact h
  · next id jobs hcreate =>
    have hgrown := createJob_grown hcreate
    refine ⟨fun scope row hfind => (h.rows scope row hfind).grown hgrown, fun other => ?_⟩
    exact (h.phases other).moved (Moved.refl (token (other + 1)) ((call other).scope dg) _) (token_succ_ne htoken other) hgrown

lemma sound_step (htoken : Function.Injective token) (h : Sound dg call token system) (act : Act) :
    Sound dg call token (step dg call token system act) := by
  cases act with
  | reserve n now => exact sound_reserve htoken h now
  | heartbeat n now => exact sound_heartbeat htoken h now
  | enumerate n photos => exact sound_enumerate h photos
  | renew n now => exact sound_renew htoken h now
  | freeze n now => exact sound_freeze htoken h now
  | queue n env jobId => exact sound_queue htoken h env jobId
  | complete n => exact sound_complete htoken h
  | create request reserved jobId => exact sound_create htoken h request reserved jobId

/-! ### Runs -/

lemma sound_start (jobs : List Job) : Sound dg call token (start jobs) := by
  have hempty : ∀ scope row, (start jobs).ledger.find scope ≠ some row := by
    intro scope row hfind
    cases hfind
  exact ⟨fun scope row hfind => absurd hfind (hempty scope row), fun n scope row hfind => absurd hfind (hempty scope row)⟩

lemma sound_from (htoken : Function.Injective token) (h : Sound dg call token system) (acts : List Act) :
    Sound dg call token (Runs.run (step dg call token) system acts) := by
  have hsteps : ∀ before act, Sound dg call token before → Sound dg call token (step dg call token before act) :=
    fun _ act hbefore => sound_step htoken hbefore act
  exact Runs.invariant_of_run hsteps h acts

variable (dg call) in
lemma sound_reached (htoken : Function.Injective token) (jobs : List Job) (acts : List Act) :
    Sound dg call token (Runs.run (step dg call token) (start jobs) acts) :=
  sound_from htoken (sound_start jobs) acts

variable {i j : ℕ} {answer answer' : Option Response} {acts : List Act}

/-- Requests under one key have one answer, whenever and however often they are sent, and only if they ask for
the same. Whether they do is read from the fingerprint, whatever function this is. -/
theorem answers_agree (htoken : Function.Injective token) (hscope : (call i).scope dg = (call j).scope dg)
    (hi : (Runs.run (step dg call token) (start jobs) acts).phase i = .answered answer)
    (hj : (Runs.run (step dg call token) (start jobs) acts).phase j = .answered answer') :
    (call i).fingerprint dg = (call j).fingerprint dg ∧ answer = answer' ∧ answer.isSome = true := by
  have hsound := sound_reached dg call htoken jobs acts
  have hfirst := hsound.phases i
  have hsecond := hsound.phases j
  rw [hi] at hfirst
  rw [hj] at hsecond
  obtain ⟨row, hrow, hcompleted, hresponse⟩ := hfirst
  obtain ⟨row', hrow', -, hresponse'⟩ := hsecond
  obtain rfl : row = row' := by
    have hfind := hrow.find
    rw [hscope, hrow'.find, Option.some.injEq] at hfind
    exact hfind.symm
  refine ⟨hrow.fingerprint.symm.trans hrow'.fingerprint, hresponse.symm.trans hresponse', ?_⟩
  obtain ⟨n, snapshot, done, -, -, hdone, -⟩ := (hsound.rows _ row hrow.find).completed hcompleted
  rw [← hresponse, hdone]
  rfl

end

theorem answers_agree_overtaken : ∃ answer answer',
    (Runs.run sampleStep (start []) (frozenTurns ++ servedTurns)).phase 1 = .answered answer ∧
      (Runs.run sampleStep (start []) (frozenTurns ++ servedTurns)).phase 3 = .answered answer' ∧
      (sampleCalls 1).fingerprint sampleDigests = (sampleCalls 3).fingerprint sampleDigests ∧ answer = answer' ∧ answer.isSome = true := by
  have hfirst := served_sample.1 1 (by decide)
  have hsecond := served_sample.1 3 (by decide)
  have hscope : (sampleCalls 1).scope sampleDigests = (sampleCalls 3).scope sampleDigests := rfl
  exact ⟨_, _, hfirst, hsecond, answers_agree sampleToken_injective hscope hfirst hsecond⟩

end InkTime.Requests
