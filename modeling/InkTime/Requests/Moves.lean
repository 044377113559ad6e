import InkTime.Requests.Model

/-!
# What a turn changes

What each transaction makes of the ledger's rows, and what a queued batch leaves in the jobs.
-/

namespace InkTime.Requests

open Checked (bind_eq_ok require_eq_ok orError_eq_ok)

/-! ### Rows -/

/-- A row after a turn of the request that draws `drawn` as its token. -/
structure Turn (drawn : String) (old new : LedgerRow) : Prop where
  fingerprint : new.requestFingerprint = old.requestFingerprint
  snapshot : ∀ snapshot, old.requestSnapshot = some snapshot → new.requestSnapshot = some snapshot
  completed : old.status = .completed → new.status = .completed ∧ new.response = old.response
  token : new.reservationToken = old.reservationToken ∨ new.reservationToken = some drawn
  frozen : old.requestSnapshot = none → new.requestSnapshot.isSome = true → new.reservationToken = some drawn

/-- A row that a turn brought in. -/
structure Opened (drawn : String) (new : LedgerRow) : Prop where
  status : new.status = .inProgress
  snapshot : new.requestSnapshot = none
  token : new.reservationToken = some drawn

/-- The ledger after a turn over one scope: every row is there still, and a new one is only just reserved. -/
structure Moved (drawn scope : String) (ledger ledger' : Ledger) : Prop where
  frame : ∀ other, scope ≠ other → ledger'.find other = ledger.find other
  forward : ∀ other old, ledger.find other = some old → ∃ new, ledger'.find other = some new ∧ Turn drawn old new
  backward : ∀ other new, ledger'.find other = some new →
    (∃ old, ledger.find other = some old ∧ Turn drawn old new) ∨ (ledger.find other = none ∧ Opened drawn new)

section

variable {drawn scope fingerprint token : String} {now : ℤ} {ledger ledger' : Ledger} {old new row : LedgerRow}

lemma Turn.refl (drawn : String) (row : LedgerRow) : Turn drawn row row where
  fingerprint := rfl
  snapshot := fun _ h => h
  completed := fun h => ⟨h, rfl⟩
  token := .inl rfl
  frozen := by
    intro hnone hsome
    rw [hnone] at hsome
    cases hsome

lemma Moved.refl (drawn scope : String) (ledger : Ledger) : Moved drawn scope ledger ledger where
  frame := fun _ _ => rfl
  forward := fun _ old h => ⟨old, h, Turn.refl drawn old⟩
  backward := fun _ new h => .inl ⟨new, h, Turn.refl drawn new⟩

lemma Moved.put (hfind : ledger.find new.scopeKey = some old) (h : Turn drawn old new) :
    Moved drawn new.scopeKey ledger (ledger.put new) := by
  have hput (other : String) : (ledger.put new).find other = if new.scopeKey = other then some new else ledger.find other :=
    Table.find_put (by rw [hfind]; rfl) other
  constructor
  · intro other hne
    rw [hput, if_neg hne]
  · intro other before hbefore
    rw [hput]
    split
    · next hother =>
      rw [← hother, hfind, Option.some.injEq] at hbefore
      exact ⟨new, rfl, hbefore ▸ h⟩
    · exact ⟨before, hbefore, Turn.refl drawn before⟩
  · intro other after hafter
    rw [hput] at hafter
    split at hafter
    · next hother =>
      rw [Option.some.injEq] at hafter
      exact .inl ⟨old, hother ▸ hfind, hafter ▸ h⟩
    · exact .inl ⟨after, hafter, Turn.refl drawn after⟩

lemma Moved.add (hfind : ledger.find new.scopeKey = none) (h : Opened drawn new) : Moved drawn new.scopeKey ledger (ledger.add new) := by
  have hadd := Table.find_add hfind
  constructor
  · intro other hne
    rw [hadd, if_neg hne]
  · intro other before hbefore
    rw [hadd, if_neg]
    · exact ⟨before, hbefore, Turn.refl drawn before⟩
    · rintro rfl
      rw [hfind] at hbefore
      cases hbefore
  · intro other after hafter
    rw [hadd] at hafter
    split at hafter
    · next hother =>
      rw [Option.some.injEq] at hafter
      exact .inr ⟨hother ▸ hfind, hafter ▸ h⟩
    · exact .inl ⟨after, hafter, Turn.refl drawn after⟩

lemma find_put_self (hfind : ledger.find new.scopeKey = some old) : (ledger.put new).find new.scopeKey = some new := by
  rw [Table.find_put (by rw [hfind]; rfl)]
  exact if_pos rfl

/-! ### The ledger's operations -/

/-- Nothing but the reservation differs. -/
structure Kept (old new : LedgerRow) : Prop where
  status : new.status = old.status
  snapshot : new.requestSnapshot = old.requestSnapshot
  response : new.response = old.response

lemma Kept.turn (h : Kept old new) (hfingerprint : new.requestFingerprint = old.requestFingerprint)
    (htoken : new.reservationToken = old.reservationToken ∨ new.reservationToken = some drawn) : Turn drawn old new where
  fingerprint := hfingerprint
  snapshot := fun snapshot hsnapshot => h.snapshot.trans hsnapshot
  completed := fun hcompleted => ⟨h.status.trans hcompleted, h.response⟩
  token := htoken
  frozen := by
    intro hnone hsome
    rw [h.snapshot, hnone] at hsome
    cases hsome

/-- A reservation hands out the row as the ledger has it afterwards. -/
lemma reserve_spec {owner : Bool} (h : reserveIdempotentRequest scope fingerprint now token ledger = .ok (row, owner, ledger')) :
    Moved token scope ledger ledger' ∧ ledger'.find scope = some row ∧ row.requestFingerprint = fingerprint ∧
      ((∃ old, ledger.find scope = some old ∧ Kept old row) ∨ Opened token row) := by
  unfold reserveIdempotentRequest at h
  cases hfind : ledger.find scope with
  | none =>
    rw [hfind] at h
    cases h
    let opened : LedgerRow := ⟨scope, fingerprint, .inProgress, none, none, some token, some (now + leaseLength)⟩
    have hopened : Opened token opened := ⟨rfl, rfl, rfl⟩
    have hnone : ledger.find opened.scopeKey = none := hfind
    refine ⟨Moved.add hnone hopened, ?_, rfl, .inr hopened⟩
    rw [Table.find_add hnone]
    exact if_pos rfl
  | some old =>
    rw [hfind] at h
    dsimp only at h
    obtain ⟨_, hfingerprint, h⟩ := bind_eq_ok.mp h
    have hsame : old.requestFingerprint = fingerprint := by simpa using require_eq_ok.mp hfingerprint
    have hscope := (Table.find_eq_some hfind).2
    split at h
    · cases h
      exact ⟨Moved.refl token scope _, hfind, hsame, .inl ⟨_, rfl, rfl, rfl, rfl⟩⟩
    split at h
    · cases h
      have hkept : Kept old (old.reserve token (now + leaseLength)) := ⟨rfl, rfl, rfl⟩
      have hfound : ledger.find (old.reserve token (now + leaseLength)).scopeKey = some old := hscope ▸ hfind
      rw [← hscope]
      exact ⟨Moved.put hfound (hkept.turn rfl (.inr rfl)), find_put_self hfound, hsame, .inl ⟨old, rfl, hkept⟩⟩
    · cases h
      exact ⟨Moved.refl token scope _, hfind, hsame, .inl ⟨_, rfl, rfl, rfl, rfl⟩⟩

lemma renew_spec (drawn scope fingerprint token : String) (now : ℤ) (ledger : Ledger) :
    Moved drawn scope ledger (renewIdempotentRequest scope fingerprint token now ledger).2 ∧
      ∀ row, (renewIdempotentRequest scope fingerprint token now ledger).2.find scope = some row →
        ∃ old, ledger.find scope = some old ∧ Kept old row := by
  unfold renewIdempotentRequest
  cases hfind : ledger.find scope with
  | none =>
    refine ⟨Moved.refl drawn scope ledger, ?_⟩
    intro row hrow
    rw [hfind] at hrow
    cases hrow
  | some old =>
    have hscope := (Table.find_eq_some hfind).2
    dsimp only
    split
    · have hkept : Kept old (old.renew (now + leaseLength)) := ⟨rfl, rfl, rfl⟩
      have hfound : ledger.find (old.renew (now + leaseLength)).scopeKey = some old := hscope ▸ hfind
      rw [← hscope]
      refine ⟨Moved.put hfound (hkept.turn rfl (.inl rfl)), ?_⟩
      intro row hrow
      rw [show old.scopeKey = (old.renew (now + leaseLength)).scopeKey from rfl, find_put_self hfound, Option.some.injEq] at hrow
      exact ⟨old, rfl, hrow ▸ hkept⟩
    · refine ⟨Moved.refl drawn scope ledger, ?_⟩
      intro row hrow
      rw [hfind, Option.some.injEq] at hrow
      exact ⟨old, rfl, hrow ▸ ⟨rfl, rfl, rfl⟩⟩

/-- Only the holder freezes a row; a row that is completed meanwhile is handed out as it is. -/
lemma freeze_cases {snapshot : Snapshot} (h : freezeIdempotentRequest scope fingerprint token snapshot now ledger = .ok (row, ledger')) :
    ∃ old, ledger.find scope = some old ∧ old.requestFingerprint = fingerprint ∧
      ((old.status = .completed ∧ row = old ∧ ledger' = ledger) ∨
        (old.status ≠ .completed ∧ old.reservationToken = some token ∧ row = old.freeze snapshot (now + leaseLength) ∧
          ledger' = ledger.put row)) := by
  unfold freezeIdempotentRequest at h
  obtain ⟨old, hold, h⟩ := bind_eq_ok.mp h
  obtain ⟨_, hfingerprint, h⟩ := bind_eq_ok.mp h
  refine ⟨old, orError_eq_ok.mp hold, by simpa using require_eq_ok.mp hfingerprint, ?_⟩
  split at h
  · next hcompleted =>
    cases h
    exact .inl ⟨hcompleted, rfl, rfl⟩
  · next hopen =>
    obtain ⟨_, hheld, h⟩ := bind_eq_ok.mp h
    cases h
    have hheld := require_eq_ok.mp hheld
    unfold LedgerRow.heldBy at hheld
    rw [Bool.and_eq_true, beq_iff_eq] at hheld
    exact .inr ⟨hopen, hheld.1, rfl, rfl⟩

lemma freeze_spec {snapshot : Snapshot} (h : freezeIdempotentRequest scope fingerprint token snapshot now ledger = .ok (row, ledger'))
    (hunfrozen : ∀ old, ledger.find scope = some old → old.requestSnapshot.isSome = true → old.reservationToken ≠ some token) :
    Moved token scope ledger ledger' ∧ ledger'.find scope = some row ∧ row.requestFingerprint = fingerprint ∧
      ((row.status = .completed ∧ ledger' = ledger) ∨ (row.status ≠ .completed ∧ row.requestSnapshot = some snapshot)) := by
  obtain ⟨old, hfind, hsame, ⟨hcompleted, rfl, rfl⟩ | ⟨hopen, hheld, rfl, rfl⟩⟩ := freeze_cases h
  · exact ⟨Moved.refl token scope _, hfind, hsame, .inl ⟨hcompleted, rfl⟩⟩
  have hscope := (Table.find_eq_some hfind).2
  have hfound : ledger.find (old.freeze snapshot (now + leaseLength)).scopeKey = some old := hscope ▸ hfind
  have hnone : old.requestSnapshot = none := by
    by_contra hsome
    exact hunfrozen old hfind (Option.isSome_iff_ne_none.mpr hsome) hheld
  have hturn : Turn token old (old.freeze snapshot (now + leaseLength)) := by
    refine ⟨rfl, ?_, fun hcompleted => absurd hcompleted hopen, .inl rfl, fun _ _ => hheld⟩
    intro other hother
    rw [hnone] at hother
    cases hother
  rw [← hscope]
  exact ⟨Moved.put hfound hturn, find_put_self hfound, hsame, .inr ⟨hopen, rfl⟩⟩

/-- The first answer of a row stays. -/
lemma complete_cases {response : Response} (h : completeIdempotentRequest scope fingerprint response ledger = .ok (row, ledger')) :
    ∃ old, ledger.find scope = some old ∧ old.requestFingerprint = fingerprint ∧
      ((old.status = .completed ∧ row = old ∧ ledger' = ledger) ∨
        (old.status ≠ .completed ∧ row = old.complete response ∧ ledger' = ledger.put row)) := by
  unfold completeIdempotentRequest at h
  obtain ⟨old, hold, h⟩ := bind_eq_ok.mp h
  obtain ⟨_, hfingerprint, h⟩ := bind_eq_ok.mp h
  refine ⟨old, orError_eq_ok.mp hold, by simpa using require_eq_ok.mp hfingerprint, ?_⟩
  split at h
  · next hopen =>
    cases h
    exact .inr ⟨by rw [hopen]; decide, rfl, rfl⟩
  · next hopen =>
    cases h
    refine .inl ⟨?_, rfl, rfl⟩
    cases hstatus : row.status with
    | inProgress => exact absurd hstatus hopen
    | completed => rfl

lemma complete_spec (response : Response) (drawn : String) (hfind : ledger.find scope = some old) (hopen : old.status ≠ .completed) :
    Moved drawn scope ledger (ledger.put (old.complete response)) ∧
      (ledger.put (old.complete response)).find scope = some (old.complete response) := by
  have hscope := (Table.find_eq_some hfind).2
  have hfound : ledger.find (old.complete response).scopeKey = some old := hscope ▸ hfind
  have hturn : Turn drawn old (old.complete response) :=
    ⟨rfl, fun _ hsnapshot => hsnapshot, fun hcompleted => absurd hcompleted hopen, .inl rfl, (Turn.refl drawn old).frozen⟩
  rw [← hscope]
  exact ⟨Moved.put hfound hturn, find_put_self hfound⟩

end

/-! ### Jobs -/

/-- What a job is found by. -/
def Job.identity (job : Job) : String × Option String := (job.id, job.dedupeKey)

section

variable {request : JobRequest} {reserved : String → Bool} {jobId id : String} {jobs jobs' : List Job}

lemma identity_setFingerprint (id fingerprint : String) (jobs : List Job) :
    (setFingerprint id fingerprint jobs).map Job.identity = jobs.map Job.identity := by
  unfold setFingerprint
  rw [List.map_map]
  apply List.map_congr_left
  intro job _
  dsimp only [Function.comp]
  split
  · rfl
  · rfl

/-- A job of the key is handed out again; a new one has a key that no job has yet. -/
lemma createJob_cases (h : createJob request reserved jobId jobs = .ok (id, jobs')) :
    (jobs'.map Job.identity = jobs.map Job.identity ∧ ∃ key, given request.dedupeKey = some key ∧ (id, some key) ∈ jobs.map Job.identity) ∨
      (jobs'.map Job.identity = (jobId, request.dedupeKey) :: jobs.map Job.identity ∧ id = jobId ∧ jobId ∉ jobs.map Job.id ∧
        ∀ key, given request.dedupeKey = some key → some key ∉ jobs.map Job.dedupeKey) := by
  unfold createJob at h
  cases hfound : (given request.dedupeKey).bind fun key => jobs.find? fun job => job.dedupeKey == some key with
  | some existing =>
    obtain ⟨key, hkey, hexisting⟩ := Option.bind_eq_some_iff.mp hfound
    have hdedupe : existing.dedupeKey = some key := by simpa using List.find?_some hexisting
    have hmem : (existing.id, some key) ∈ jobs.map Job.identity := by
      rw [← hdedupe]
      exact List.mem_map_of_mem (List.mem_of_find?_eq_some hexisting)
    rw [hfound] at h
    dsimp only at h
    split at h
    · split at h
      · cases h
        exact .inl ⟨rfl, key, hkey, hmem⟩
      · cases h
    · cases h
      exact .inl ⟨identity_setFingerprint .., key, hkey, hmem⟩
    · cases h
      exact .inl ⟨rfl, key, hkey, hmem⟩
  | none =>
    rw [hfound] at h
    dsimp only at h
    obtain ⟨_, -, h⟩ := bind_eq_ok.mp h
    obtain ⟨_, hid, h⟩ := bind_eq_ok.mp h
    cases h
    refine .inr ⟨rfl, rfl, ?_, ?_⟩
    · have hany := require_eq_ok.mp hid
      simpa using hany
    · intro key hkey hmem
      obtain ⟨job, hjob, hdedupe⟩ := List.mem_map.mp hmem
      rw [hkey, Option.bind_some, List.find?_eq_none] at hfound
      exact hfound job hjob (beq_iff_eq.mpr hdedupe)

end

/-! ### Queued batches -/

/-- The key of the job that queues a batch. -/
def Call.jobKey (dg : Digests) (call : Call) (group : String) : Option String :=
  scopedIdempotencyKey dg.toRuntime "ai-mode-run" call.actor (groupedIdempotencyKey dg.toRuntime (some call.rawKey) group)

section

variable {dg : Digests} {call other : Call} {group : String}

lemma jobKey_given (dg : Digests) (call : Call) (group : String) :
    ∃ key, call.jobKey dg group = some key ∧ given (some key) = some key := by
  obtain ⟨chars, hgrouped, hnormal, hne, -⟩ := grouped_cases dg.toRuntime group call.keyed
  unfold Call.jobKey
  rw [hgrouped, scoped_eq_some (hnormal.symm ▸ hne)]
  refine ⟨_, rfl, ?_⟩
  unfold given
  rw [Option.filter_some, if_pos]
  apply decide_eq_true
  apply ofList_ne_empty
  rw [List.mem_append]
  exact .inr (List.mem_cons_self ..)

lemma scope_eq (dg : Digests) (call : Call) :
    scopedIdempotencyKey dg.toRuntime "ai-mode-run/full-library-request" call.actor (some call.rawKey) = some (call.scope dg) := by
  unfold Call.scope
  rw [scoped_eq_some call.keyed, Option.getD_some]

/-- Requests of one scope queue a group under one key. -/
lemma jobKey_congr (h : call.scope dg = other.scope dg) : call.jobKey dg group = other.jobKey dg group := by
  have hscoped : scopedIdempotencyKey dg.toRuntime "ai-mode-run/full-library-request" call.actor (some call.rawKey) =
      scopedIdempotencyKey dg.toRuntime "ai-mode-run/full-library-request" other.actor (some other.rawKey) := by
    rw [scope_eq, scope_eq, h]
  obtain ⟨hactor, hkey⟩ := scoped_inj call.keyed other.keyed hscoped
  unfold Call.jobKey scopedIdempotencyKey groupedIdempotencyKey
  rw [hactor, hkey]

lemma queueAi_creates {env : Environment} {request : QueueRequest} {jobId : String} {jobs jobs' : List Job} {answer : JobAnswer}
    (h : queueAi dg env request jobId jobs = .ok (answer, jobs')) : ∃ created : JobRequest,
      created.dedupeKey = scopedIdempotencyKey dg.toRuntime request.idempotencyScope request.createdBy request.idempotencyKey ∧
        createJob created env.reserved jobId jobs = .ok (answer.id, jobs') := by
  unfold queueAi at h
  obtain ⟨_, -, h⟩ := bind_eq_ok.mp h
  obtain ⟨_, -, h⟩ := bind_eq_ok.mp h
  obtain ⟨_, -, h⟩ := bind_eq_ok.mp h
  obtain ⟨_, -, h⟩ := bind_eq_ok.mp h
  obtain ⟨_, -, h⟩ := bind_eq_ok.mp h
  obtain ⟨_, -, h⟩ := bind_eq_ok.mp h
  obtain ⟨_, -, h⟩ := bind_eq_ok.mp h
  obtain ⟨_, -, h⟩ := bind_eq_ok.mp h
  obtain ⟨⟨id, created⟩, hcreate, h⟩ := bind_eq_ok.mp h
  obtain ⟨hanswer, hjobs⟩ := Prod.mk.inj (Except.ok.inj h)
  have hid : id = answer.id := congrArg JobAnswer.id hanswer
  rw [hid, hjobs] at hcreate
  generalize scopedIdempotencyKey dg.toRuntime request.idempotencyScope request.createdBy request.idempotencyKey = key at hcreate ⊢
  exact ⟨_, rfl, hcreate⟩

end

end InkTime.Requests
