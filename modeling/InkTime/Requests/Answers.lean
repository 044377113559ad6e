import InkTime.Requests.Runs

/-!
# What an answer stands for

An answer names one job for each frozen batch, and what has been frozen or answered stays as it is.
-/

namespace InkTime.Requests

section

variable {dg : Digests} {call : ℕ → Call} {token : ℕ → String} {system : System} {n i : ℕ} {jobs jobs' : List Job} {acts : List Act}
  {answer : Option Response}

/-! ### Jobs -/

/-- What a step makes of the jobs. -/
inductive Queued (jobs : List Job) : List Job → Prop
  | same {jobs' : List Job} (h : jobs'.map Job.identity = jobs.map Job.identity) : Queued jobs jobs'
  | new {jobs' : List Job} {id : String} {dedupeKey : Option String} (h : jobs'.map Job.identity = (id, dedupeKey) :: jobs.map Job.identity)
      (hid : id ∉ jobs.map Job.id) (hkey : ∀ key, given dedupeKey = some key → some key ∉ jobs.map Job.dedupeKey) : Queued jobs jobs'

lemma queued_createJob {request : JobRequest} {reserved : String → Bool} {jobId id : String}
    (h : createJob request reserved jobId jobs = .ok (id, jobs')) : Queued jobs jobs' := by
  obtain ⟨hsame, -⟩ | ⟨hnew, -, hid, hkey⟩ := createJob_cases h
  · exact .same hsame
  · exact .new hnew hid hkey

variable (dg call token) in
lemma queued_step (system : System) (act : Act) : Queued system.jobs (step dg call token system act).jobs := by
  obtain ⟨ledger, jobs, -, hjobs, hstep⟩ := step_cases dg call token system act
  have hsame : (step dg call token system act).jobs = jobs := by
    obtain hstep | ⟨n, phase, -, hstep⟩ := hstep
    · rw [hstep]
    · rw [hstep]
      rfl
  rw [hsame]
  obtain rfl | ⟨request, reserved, jobId, id, hcreate⟩ := hjobs
  · exact .same rfl
  · exact queued_createJob hcreate

lemma map_id_eq (jobs : List Job) : jobs.map Job.id = (jobs.map Job.identity).map Prod.fst := by
  rw [List.map_map]
  rfl

lemma map_dedupeKey_eq (jobs : List Job) : jobs.map Job.dedupeKey = (jobs.map Job.identity).map Prod.snd := by
  rw [List.map_map]
  rfl

lemma Queued.nodup (h : Queued jobs jobs') (hids : (jobs.map Job.id).Nodup) : (jobs'.map Job.id).Nodup := by
  cases h with
  | same hsame => rwa [map_id_eq, hsame, ← map_id_eq]
  | new hnew hid _ =>
    rw [map_id_eq, hnew, List.map_cons, ← map_id_eq]
    exact List.nodup_cons.mpr ⟨hid, hids⟩

lemma Queued.count {key : String} (h : Queued jobs jobs') (hkey : key ≠ "") :
    (jobs'.map Job.dedupeKey).count (some key) ≤ max 1 ((jobs.map Job.dedupeKey).count (some key)) := by
  cases h with
  | same hsame =>
    rw [map_dedupeKey_eq, hsame, ← map_dedupeKey_eq]
    exact le_max_right _ _
  | @new _ dedupeKey hnew hid hfresh =>
    rw [map_dedupeKey_eq, hnew, List.map_cons, ← map_dedupeKey_eq, List.count_cons]
    by_cases hsame : dedupeKey = some key
    · have hnone : (jobs.map Job.dedupeKey).count (some key) = 0 := by
        apply List.count_eq_zero.mpr
        apply hfresh
        rw [hsame]
        exact Option.filter_eq_some_iff.mpr ⟨rfl, decide_eq_true hkey⟩
      rw [hnone, if_pos (beq_iff_eq.mpr hsame)]
      exact le_max_left _ _
    · rw [if_neg (by simpa using hsame)]
      exact le_max_right _ _

variable (dg call token acts) in
lemma nodup_run (hids : (jobs.map Job.id).Nodup) : ((Runs.run (step dg call token) (start jobs) acts).jobs.map Job.id).Nodup := by
  have hsteps : ∀ before act, (before.jobs.map Job.id).Nodup → ((step dg call token before act).jobs.map Job.id).Nodup :=
    fun before act hbefore => (queued_step dg call token before act).nodup hbefore
  have hstart : ((start jobs).jobs.map Job.id).Nodup := hids
  exact Runs.invariant_of_run hsteps hstart acts

/-- However requests and other calls of `JobRepository.create` take their turns, no key comes to have a second job. -/
theorem one_job_per_key {key : String} (hkey : key ≠ "") :
    ((Runs.run (step dg call token) (start jobs) acts).jobs.map Job.dedupeKey).count (some key) ≤
      max 1 ((jobs.map Job.dedupeKey).count (some key)) := by
  have hsteps : ∀ before act, (before.jobs.map Job.dedupeKey).count (some key) ≤ max 1 ((jobs.map Job.dedupeKey).count (some key)) →
      ((step dg call token before act).jobs.map Job.dedupeKey).count (some key) ≤ max 1 ((jobs.map Job.dedupeKey).count (some key)) := by
    intro before act hbefore
    have hstep := (queued_step dg call token before act).count hkey
    omega
  have hstart : ((start jobs).jobs.map Job.dedupeKey).count (some key) ≤ max 1 ((jobs.map Job.dedupeKey).count (some key)) :=
    le_max_right _ _
  exact Runs.invariant_of_run hsteps hstart acts

/-- Two requests queue the batch of 2019 in turn. -/
theorem one_job_per_key_queued_twice : ∃ key, sampleCall.jobKey sampleDigests "2019" = some key ∧
    ((Runs.run sampleStep (start []) (frozenTurns ++ servedTurns)).jobs.map Job.dedupeKey).count (some key) = 1 := by
  obtain ⟨key, hkey, hgiven⟩ := jobKey_given sampleDigests sampleCall "2019"
  have hne : key ≠ "" := of_decide_eq_true (Option.filter_eq_some_iff.mp hgiven).2
  have hmem : some key ∈ (Runs.run sampleStep (start []) (frozenTurns ++ servedTurns)).jobs.map Job.dedupeKey := by
    rw [served_sample.2.2, ← hkey]
    exact List.mem_cons_of_mem _ (List.mem_cons_self ..)
  exact ⟨key, hkey, le_antisymm (one_job_per_key hne) (List.one_le_count_iff.mpr hmem)⟩

/-! ### Answers -/

lemma forall₂_mem {α β : Type} {R : α → β → Prop} {as : List α} {bs : List β} (h : List.Forall₂ R as bs) {b : β} (hb : b ∈ bs) :
    ∃ a ∈ as, R a b := by
  induction h with
  | nil => cases hb
  | cons hR _ ih =>
    obtain rfl | hrest := List.mem_cons.mp hb
    · exact ⟨_, List.mem_cons_self .., hR⟩
    · obtain ⟨a, ha, hab⟩ := ih hrest
      exact ⟨a, List.mem_cons_of_mem _ ha, hab⟩

/-- Images that tell their originals apart are as distinct as these. -/
lemma forall₂_nodup {α β γ δ : Type} {R : α → β → Prop} {f : α → γ} {g : β → δ} {as : List α} {bs : List β} (h : List.Forall₂ R as bs)
    (hapart : ∀ a ∈ as, ∀ a' ∈ as, ∀ b b', R a b → R a' b' → g b = g b' → f a = f a') (hnodup : (as.map f).Nodup) : (bs.map g).Nodup := by
  induction h with
  | nil => exact List.nodup_nil
  | @cons a _ _ _ hR hrest ih =>
    rw [List.map_cons, List.nodup_cons] at hnodup ⊢
    constructor
    · intro hmem
      obtain ⟨b', hb', hsame⟩ := List.mem_map.mp hmem
      obtain ⟨a', ha', hR'⟩ := forall₂_mem hrest hb'
      have heq := hapart a (List.mem_cons_self ..) a' (List.mem_cons_of_mem _ ha') _ _ hR hR' hsame.symm
      exact hnodup.1 (heq ▸ List.mem_map_of_mem ha')
    · apply ih _ hnodup.2
      intro a ha a' ha'
      exact hapart a (List.mem_cons_of_mem _ ha) a' (List.mem_cons_of_mem _ ha')

/-- The row of a request that is answered. -/
lemma answered_row (htoken : Function.Injective token)
    (h : (Runs.run (step dg call token) (start jobs) acts).phase i = .answered answer) : ∃ row snapshot response,
      (Runs.run (step dg call token) (start jobs) acts).ledger.find ((call i).scope dg) = some row ∧ row.requestSnapshot = some snapshot ∧
      (snapshot.batches.map Batch.group).Nodup ∧ answer = some response ∧ response.queued = (response.jobs.map JobAnswer.queued).sum ∧
      Covered dg (Runs.run (step dg call token) (start jobs) acts).jobs (call i) snapshot.batches response.jobs := by
  have hsound := sound_reached dg call htoken jobs acts
  have hphase := hsound.phases i
  rw [h] at hphase
  obtain ⟨row, hrow, hcompleted, hresponse⟩ := hphase
  obtain ⟨n, snapshot, done, hscope, hsnapshot, hdone, hcovered⟩ := (hsound.rows _ row hrow.find).completed hcompleted
  refine ⟨row, snapshot, (call n).response done, hrow.find, hsnapshot, (hsound.rows _ row hrow.find).distinct snapshot hsnapshot,
    hresponse.symm.trans hdone, rfl, ?_⟩
  refine List.Forall₂.imp ?_ hcovered
  intro batch answer hmem
  rwa [jobKey_congr hscope] at hmem

/-- An answer names, batch for batch of what was frozen, a job under the key of this batch. -/
theorem answer_covers_snapshot (htoken : Function.Injective token)
    (h : (Runs.run (step dg call token) (start jobs) acts).phase i = .answered answer) : ∃ row snapshot response,
      (Runs.run (step dg call token) (start jobs) acts).ledger.find ((call i).scope dg) = some row ∧ row.requestSnapshot = some snapshot ∧
      answer = some response ∧ response.queued = (response.jobs.map JobAnswer.queued).sum ∧
      List.Forall₂ (fun batch answer => ∃ job ∈ (Runs.run (step dg call token) (start jobs) acts).jobs,
        job.id = answer.id ∧ job.dedupeKey = (call i).jobKey dg batch.group) snapshot.batches response.jobs := by
  obtain ⟨row, snapshot, response, hfind, hsnapshot, -, hanswer, hqueued, hcovered⟩ := answered_row htoken h
  refine ⟨row, snapshot, response, hfind, hsnapshot, hanswer, hqueued, List.Forall₂.imp ?_ hcovered⟩
  intro batch answer hmem
  obtain ⟨job, hjob, hidentity⟩ := List.mem_map.mp hmem
  obtain ⟨hid, hkey⟩ := Prod.mk.inj hidentity
  exact ⟨job, hjob, hid, hkey⟩

theorem answer_covers_snapshot_overtaken : ∃ row snapshot response,
    (Runs.run sampleStep (start []) (frozenTurns ++ servedTurns)).ledger.find (sampleCall.scope sampleDigests) = some row ∧
      row.requestSnapshot = some snapshot ∧ some sampleResponse = some response ∧
      response.queued = (response.jobs.map JobAnswer.queued).sum ∧
      List.Forall₂ (fun batch answer => ∃ job ∈ (Runs.run sampleStep (start []) (frozenTurns ++ servedTurns)).jobs,
        job.id = answer.id ∧ job.dedupeKey = sampleCall.jobKey sampleDigests batch.group) snapshot.batches response.jobs := by
  have hcovers := answer_covers_snapshot sampleToken_injective (served_sample.1 2 (by decide))
  rwa [show sampleCalls 2 = sampleCall from rfl] at hcovers

/-- No two batches of an answer share a job, unless SHA-256 has one digest for the two texts that name them. -/
theorem answer_jobs_distinct (htoken : Function.Injective token) (hids : (jobs.map Job.id).Nodup) {response : Response}
    (h : (Runs.run (step dg call token) (start jobs) acts).phase i = .answered (some response)) : ∃ row snapshot,
      (Runs.run (step dg call token) (start jobs) acts).ledger.find ((call i).scope dg) = some row ∧ row.requestSnapshot = some snapshot ∧
      ((response.jobs.map JobAnswer.id).Nodup ∨ ∃ batch ∈ snapshot.batches, ∃ batch' ∈ snapshot.batches,
        canonicalGroup (normalizedKey (some (call i).rawKey)) batch.group ≠
          canonicalGroup (normalizedKey (some (call i).rawKey)) batch'.group ∧
        dg.hexdigest (canonicalGroup (normalizedKey (some (call i).rawKey)) batch.group) =
          dg.hexdigest (canonicalGroup (normalizedKey (some (call i).rawKey)) batch'.group)) := by
  obtain ⟨row, snapshot, answered, hfind, hsnapshot, hdistinct, hanswer, -, hcovered⟩ := answered_row htoken h
  rw [Option.some.injEq] at hanswer
  refine ⟨row, snapshot, hfind, hsnapshot, ?_⟩
  rw [or_iff_not_imp_right]
  intro hcollision
  refine forall₂_nodup (hanswer ▸ hcovered) ?_ hdistinct
  intro batch hbatch batch' hbatch' answer answer' hmem hmem' hsame
  -- One id is one job, so the two batches have one key.
  have hids' := nodup_run dg call token acts hids
  rw [map_id_eq] at hids'
  obtain ⟨-, hkeys⟩ := Prod.mk.inj (List.inj_on_of_nodup_map hids' hmem hmem' hsame)
  unfold Call.jobKey at hkeys
  obtain ⟨-, hgrouped⟩ := scoped_grouped_inj (call i).keyed (call i).keyed hkeys
  obtain ⟨-, hgroup⟩ | ⟨hne, hdigest⟩ := grouped_inj (call i).keyed (call i).keyed hgrouped
  · exact hgroup
  · exact absurd ⟨batch, hbatch, batch', hbatch', hne, hdigest⟩ hcollision

/-- The texts that name the batches of 2019 and 2020 have two digests. -/
theorem answer_jobs_distinct_overtaken : (sampleResponse.jobs.map JobAnswer.id).Nodup := by
  have hids : (([] : List Job).map Job.id).Nodup := List.nodup_nil
  obtain ⟨hanswered, hfrozen, -⟩ := served_sample
  obtain ⟨row, snapshot, hfind, hsnapshot, hdistinct | hcollision⟩ :=
    answer_jobs_distinct sampleToken_injective hids (hanswered 2 (by decide))
  · exact hdistinct
  obtain rfl : sampleSnapshot = snapshot := by
    rw [show sampleCalls 2 = sampleCall from rfl] at hfind
    rwa [hfind, Option.bind_some, hsnapshot, Option.some.injEq, eq_comm] at hfrozen
  have happart : ∀ batch ∈ sampleSnapshot.batches, ∀ batch' ∈ sampleSnapshot.batches,
      canonicalGroup (normalizedKey (some "nightly")) batch.group = canonicalGroup (normalizedKey (some "nightly")) batch'.group ∨
        sampleDigests.hexdigest (canonicalGroup (normalizedKey (some "nightly")) batch.group) ≠
          sampleDigests.hexdigest (canonicalGroup (normalizedKey (some "nightly")) batch'.group) := by
    decide +kernel
  obtain ⟨batch, hbatch, batch', hbatch', hne, hdigest⟩ := hcollision
  obtain hsame | hother := happart batch hbatch batch' hbatch'
  · exact absurd hsame hne
  · exact absurd hdigest hother

/-! ### What stays -/

/-- What later turns leave of a row. -/
structure Lasts (old new : LedgerRow) : Prop where
  fingerprint : new.requestFingerprint = old.requestFingerprint
  snapshot : ∀ snapshot, old.requestSnapshot = some snapshot → new.requestSnapshot = some snapshot
  completed : old.status = .completed → new.status = .completed ∧ new.response = old.response

lemma Lasts.trans {old middle new : LedgerRow} (h : Lasts old middle) (h' : Lasts middle new) : Lasts old new where
  fingerprint := h'.fingerprint.trans h.fingerprint
  snapshot := fun snapshot hsnapshot => h'.snapshot snapshot (h.snapshot snapshot hsnapshot)
  completed := fun hcompleted => ⟨(h'.completed (h.completed hcompleted).1).1,
    (h'.completed (h.completed hcompleted).1).2.trans (h.completed hcompleted).2⟩

lemma moved_step (h : Sound dg call token system) (act : Act) :
    ∃ drawn scope, Moved drawn scope system.ledger (step dg call token system act).ledger := by
  obtain hmoved | ⟨n, lost, snapshot, now, row, hphase, hfreeze⟩ := step_ledger dg call token system act
  · exact hmoved
  -- The holder of a row that is frozen has lost it.
  have hchoosing := h.phases n
  rw [hphase] at hchoosing
  obtain ⟨⟨claimed, hclaimed, hlost⟩, -⟩ := hchoosing
  refine ⟨_, _, (freeze_spec hfreeze ?_).1⟩
  intro old hold
  rw [hclaimed.find, Option.some.injEq] at hold
  exact hold ▸ hlost

/-- Batches once frozen and an answer once given stay, whatever comes later. -/
theorem frozen_stays (htoken : Function.Injective token) (more : List Act) {scope : String} {row : LedgerRow}
    (h : (Runs.run (step dg call token) (start jobs) acts).ledger.find scope = some row) :
    ∃ later, (Runs.run (step dg call token) (start jobs) (acts ++ more)).ledger.find scope = some later ∧ Lasts row later := by
  have hsound := sound_reached dg call htoken jobs acts
  rw [Runs.run_append]
  generalize Runs.run (step dg call token) (start jobs) acts = system at h hsound
  induction more generalizing system row with
  | nil => exact ⟨row, h, rfl, fun _ hsnapshot => hsnapshot, fun hcompleted => ⟨hcompleted, rfl⟩⟩
  | cons act rest ih =>
    obtain ⟨drawn, turned, hmoved⟩ := moved_step hsound act
    obtain ⟨next, hnext, hturn⟩ := hmoved.forward scope row h
    obtain ⟨later, hlater, hlasts⟩ := ih (step dg call token system act) hnext (sound_step htoken hsound act)
    have hfirst : Lasts row next := ⟨hturn.fingerprint, hturn.snapshot, hturn.completed⟩
    exact ⟨later, hlater, hfirst.trans hlasts⟩

end

theorem frozen_stays_overtaken : ∃ later,
    (Runs.run sampleStep (start []) (frozenTurns ++ servedTurns)).ledger.find (sampleCall.scope sampleDigests) = some later ∧
      Lasts sampleRow later :=
  frozen_stays sampleToken_injective servedTurns frozen_sample.1

end InkTime.Requests
