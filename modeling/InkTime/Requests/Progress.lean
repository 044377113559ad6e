import InkTime.Requests.Invariant

/-!
# Undisturbed requests

A request that is let through freezes its batches, queues one after another and answers. Where another request
has stopped after freezing its own, it takes over these.
-/

namespace InkTime.Requests

open Checked (require bind_eq_ok require_eq_ok)

section

variable (dg : Digests)

end

/-- The turns of one request, from the reservation to the answer. -/
def turns (n : ℕ) (now : ℤ) (photos : List PhotoRow) (env : ℕ → Environment) (jobId : ℕ → String) (count : ℕ) : List Act :=
  [.reserve n now, .enumerate n photos, .renew n now, .freeze n now] ++
    ((List.range' 0 count).map fun k => .queue n (env k) (jobId k)) ++ [.complete n]

section

variable {dg : Digests} {call : ℕ → Call} {token : ℕ → String} {system : System} {n : ℕ} {now : ℤ} {lost owner : Bool}
  {snapshot : Snapshot} {done : List JobAnswer} {row : LedgerRow} {ledger : Ledger}

/-! ### Single turns -/

lemma step_enumerate (h : system.phase n = .enumerating lost) (photos : List PhotoRow) :
    step dg call token system (.enumerate n photos) = system.move n (.enumerated lost ((call n).snapshot photos)) := by
  simp only [step, h]

/-- The row of request `n` as it stands once the request has reserved it. -/
structure Held (dg : Digests) (call : ℕ → Call) (token : ℕ → String) (ledger : Ledger) (n : ℕ) (now : ℤ) (row : LedgerRow) : Prop where
  claimed : Claimed dg call ledger n row
  status : row.status = .inProgress
  token : row.reservationToken = some (token n)
  expires : row.reservationExpiresAt = some (now + leaseLength)

lemma Held.heldBy (h : Held dg call token ledger n now row) : row.heldBy (token n) now = true := by
  unfold LedgerRow.heldBy
  rw [h.token, h.expires]
  simp [leaseLength]

lemma Claimed.scopeKey (h : Claimed dg call ledger n row) : row.scopeKey = (call n).scope dg := (Table.find_eq_some h.find).2

/-- The row of a claim, replaced by another version of it. -/
lemma Claimed.put (h : Claimed dg call ledger n row) {new : LedgerRow} (hscope : new.scopeKey = row.scopeKey)
    (hfingerprint : new.requestFingerprint = row.requestFingerprint) : Claimed dg call (ledger.put new) n new where
  find := by
    rw [← h.scopeKey, ← hscope]
    apply find_put_self
    rw [hscope, h.scopeKey]
    exact h.find
  fingerprint := hfingerprint.trans h.fingerprint

lemma Held.renew (h : Held dg call token ledger n now row) :
    renewIdempotentRequest ((call n).scope dg) ((call n).fingerprint dg) (token n) now ledger =
      (true, ledger.put (row.renew (now + leaseLength))) := by
  unfold renewIdempotentRequest
  rw [h.claimed.find]
  exact if_pos ⟨h.claimed.fingerprint, h.status, h.heldBy⟩

lemma Held.renewed (h : Held dg call token ledger n now row) :
    Held dg call token (ledger.put (row.renew (now + leaseLength))) n now (row.renew (now + leaseLength)) :=
  ⟨h.claimed.put rfl rfl, h.status, h.token, rfl⟩

lemma Held.freeze (h : Held dg call token ledger n now row) (snapshot : Snapshot) :
    freezeIdempotentRequest ((call n).scope dg) ((call n).fingerprint dg) (token n) snapshot now ledger =
      .ok (row.freeze snapshot (now + leaseLength), ledger.put (row.freeze snapshot (now + leaseLength))) := by
  have hopen : row.status ≠ .completed := by
    rw [h.status]
    decide
  unfold freezeIdempotentRequest
  rw [h.claimed.find]
  simp [Checked.orError, Checked.require, h.claimed.fingerprint, hopen, h.heldBy, bind, Except.bind, pure, Except.pure]

/-- The answer to request `n` is on record. -/
def Settled (dg : Digests) (call : ℕ → Call) (ledger : Ledger) (n : ℕ) (response : Response) : Prop :=
  ∃ row, Claimed dg call ledger n row ∧ row.status = .completed ∧ row.response = some response

variable {photos : List PhotoRow} {env : ℕ → Environment} {jobId : ℕ → String} {jobs : List Job}

lemma Claimed.complete (h : Claimed dg call ledger n row) (hstatus : row.status = .inProgress) (response : Response) :
    completeIdempotentRequest ((call n).scope dg) ((call n).fingerprint dg) response ledger =
      .ok (row.complete response, ledger.put (row.complete response)) := by
  unfold completeIdempotentRequest
  rw [h.find]
  simp [Checked.orError, Checked.require, h.fingerprint, hstatus, bind, Except.bind, pure, Except.pure]

/-- The request whose turn it is. -/
def Act.request : Act → Option ℕ
  | .reserve n _ | .heartbeat n _ | .enumerate n _ | .renew n _ | .freeze n _ | .queue n _ _ | .complete n => some n
  | .create .. => none

/-- A turn over one scope of the ledger, or a request that freezes its batches there. -/
def LedgerStep (dg : Digests) (call : ℕ → Call) (token : ℕ → String) (system : System) (ledger' : Ledger) : Prop :=
  (∃ drawn scope, Moved drawn scope system.ledger ledger') ∨
    ∃ n lost snapshot now row, system.phase n = .freezing lost snapshot ∧
      freezeIdempotentRequest ((call n).scope dg) ((call n).fingerprint dg) (token n) snapshot now system.ledger = .ok (row, ledger')

variable (dg call token) in
/-- A step adds one job at most, and moves no request but the one whose turn it is. -/
lemma step_cases (system : System) (act : Act) : ∃ ledger jobs, LedgerStep dg call token system ledger ∧
    (jobs = system.jobs ∨ ∃ request reserved jobId id, createJob request reserved jobId system.jobs = .ok (id, jobs)) ∧
    (step dg call token system act = ⟨ledger, jobs, system.phase⟩ ∨
      ∃ n phase, act.request = some n ∧ step dg call token system act = System.move ⟨ledger, jobs, system.phase⟩ n phase) := by
  have hself : LedgerStep dg call token system system.ledger := .inl ⟨"", "", Moved.refl ..⟩
  cases act with
  | reserve n now =>
    unfold step
    dsimp only
    split
    · split
      · exact ⟨_, _, hself, .inl rfl, .inr ⟨n, _, rfl, rfl⟩⟩
      · next hreserve => exact ⟨_, _, .inl ⟨_, _, (reserve_spec hreserve).1⟩, .inl rfl, .inr ⟨n, _, rfl, rfl⟩⟩
    · exact ⟨_, _, hself, .inl rfl, .inl rfl⟩
  | heartbeat n now =>
    cases now with
    | none =>
      unfold step
      dsimp only
      split
      · exact ⟨_, _, hself, .inl rfl, .inr ⟨n, _, rfl, rfl⟩⟩
      · exact ⟨_, _, hself, .inl rfl, .inl rfl⟩
    | some now =>
      have hrenewed := (renew_spec (token n) ((call n).scope dg) ((call n).fingerprint dg) (token n) now system.ledger).1
      unfold step
      dsimp only
      split
      · exact ⟨_, _, .inl ⟨_, _, hrenewed⟩, .inl rfl, .inr ⟨n, _, rfl, rfl⟩⟩
      · exact ⟨_, _, hself, .inl rfl, .inl rfl⟩
  | enumerate n photos =>
    unfold step
    dsimp only
    split
    · exact ⟨_, _, hself, .inl rfl, .inr ⟨n, _, rfl, rfl⟩⟩
    · exact ⟨_, _, hself, .inl rfl, .inl rfl⟩
  | renew n now =>
    have hrenewed := (renew_spec (token n) ((call n).scope dg) ((call n).fingerprint dg) (token n) now system.ledger).1
    unfold step
    dsimp only
    split
    · split
      · exact ⟨_, _, hself, .inl rfl, .inr ⟨n, _, rfl, rfl⟩⟩
      · exact ⟨_, _, .inl ⟨_, _, hrenewed⟩, .inl rfl, .inr ⟨n, _, rfl, rfl⟩⟩
    · exact ⟨_, _, hself, .inl rfl, .inl rfl⟩
  | freeze n now =>
    unfold step
    dsimp only
    split
    · next hphase =>
      split
      · exact ⟨_, _, hself, .inl rfl, .inr ⟨n, _, rfl, rfl⟩⟩
      · next hfreeze => exact ⟨_, _, .inr ⟨n, _, _, now, _, hphase, hfreeze⟩, .inl rfl, .inr ⟨n, _, rfl, rfl⟩⟩
    · exact ⟨_, _, hself, .inl rfl, .inl rfl⟩
  | queue n env jobId =>
    unfold step
    dsimp only
    split
    · split
      · exact ⟨_, _, hself, .inl rfl, .inl rfl⟩
      · split
        · exact ⟨_, _, hself, .inl rfl, .inr ⟨n, _, rfl, rfl⟩⟩
        · next hqueue =>
          obtain ⟨created, -, hcreate⟩ := queueAi_creates hqueue
          exact ⟨_, _, hself, .inr ⟨_, _, _, _, hcreate⟩, .inr ⟨n, _, rfl, rfl⟩⟩
    · exact ⟨_, _, hself, .inl rfl, .inl rfl⟩
  | complete n =>
    unfold step
    dsimp only
    split
    · split
      · exact ⟨_, _, hself, .inl rfl, .inl rfl⟩
      · split
        · exact ⟨_, _, hself, .inl rfl, .inr ⟨n, _, rfl, rfl⟩⟩
        · next hcomplete =>
          obtain ⟨old, hold, -, ⟨-, -, rfl⟩ | ⟨hopen, rfl, rfl⟩⟩ := complete_cases hcomplete
          · exact ⟨_, _, hself, .inl rfl, .inr ⟨n, _, rfl, rfl⟩⟩
          · exact ⟨_, _, .inl ⟨token n, _, (complete_spec _ (token n) hold hopen).1⟩, .inl rfl, .inr ⟨n, _, rfl, rfl⟩⟩
    · exact ⟨_, _, hself, .inl rfl, .inl rfl⟩
  | create request reserved jobId =>
    unfold step
    dsimp only
    split
    · exact ⟨_, _, hself, .inl rfl, .inl rfl⟩
    · next hcreate => exact ⟨_, _, hself, .inr ⟨_, _, _, _, hcreate⟩, .inl rfl⟩

variable (dg call token) in
lemma step_ledger (system : System) (act : Act) : LedgerStep dg call token system (step dg call token system act).ledger := by
  obtain ⟨ledger, jobs, hledger, -, hstep | ⟨n, phase, -, hstep⟩⟩ := step_cases dg call token system act
  · rw [hstep]
    exact hledger
  · rw [hstep]
    exact hledger

variable {response : Response}

lemma Settled.moved {drawn scope : String} {ledger' : Ledger} (h : Settled dg call ledger n response)
    (hmoved : Moved drawn scope ledger ledger') :
    Settled dg call ledger' n response := by
  obtain ⟨row, hclaimed, hcompleted, hresponse⟩ := h
  obtain ⟨new, hclaimed', hcompleted', hresponse'⟩ := hclaimed.completed_moved hcompleted hmoved
  exact ⟨new, hclaimed', hcompleted', hresponse'.trans hresponse⟩

/-- A late freeze finds the row completed and leaves it. -/
lemma Settled.freeze {scope fingerprint drawn : String} {ledger' : Ledger} (h : Settled dg call ledger n response)
    (hfreeze : freezeIdempotentRequest scope fingerprint drawn snapshot now ledger = .ok (row, ledger')) :
    Settled dg call ledger' n response := by
  obtain ⟨settled, hclaimed, hcompleted, hresponse⟩ := h
  obtain ⟨old, hold, -, ⟨-, -, rfl⟩ | ⟨hopen, -, hrow, rfl⟩⟩ := freeze_cases hfreeze
  · exact ⟨settled, hclaimed, hcompleted, hresponse⟩
  have hscope : row.scopeKey = scope := hrow ▸ (Table.find_eq_some hold).2
  have hother : row.scopeKey ≠ (call n).scope dg := by
    intro hsame
    rw [← hscope, hsame, hclaimed.find, Option.some.injEq] at hold
    exact hopen (hold ▸ hcompleted)
  refine ⟨settled, ⟨?_, hclaimed.fingerprint⟩, hcompleted, hresponse⟩
  rw [Table.find_put (by rw [hscope, hold]; rfl), if_neg hother]
  exact hclaimed.find

lemma Settled.step (h : Settled dg call system.ledger n response) (act : Act) :
    Settled dg call (step dg call token system act).ledger n response := by
  obtain ⟨drawn, scope, hmoved⟩ | ⟨m, lost, snapshot, now, row, -, hfreeze⟩ := step_ledger dg call token system act
  · exact h.moved hmoved
  · exact h.freeze hfreeze

lemma Settled.run (h : Settled dg call system.ledger n response) (acts : List Act) :
    Settled dg call (Runs.run (Requests.step dg call token) system acts).ledger n response := by
  have hsteps : ∀ before act, Settled dg call before.ledger n response →
      Settled dg call (Requests.step dg call token before act).ledger n response := fun _ act hbefore => hbefore.step act
  exact Runs.invariant_of_run hsteps h acts

end

/-! ### Requests under one key -/

def sampleDigests : Digests where
  toRuntime := sampleRuntime
  requestFingerprint := fun material => material.analysisFingerprint ++ "/" ++ material.batchBy ++ "/" ++ material.strategy
  jobFingerprint := fun material => material.photoIds.foldl (fun text id => text ++ "/" ++ id) material.name
  fingerprint := fun plan => plan

def sampleCall : Call where
  actor := "1"
  rawKey := "nightly"
  material := ⟨"plan", "\x7b\x7d", "year", true, 50, "full_library", "single"⟩
  keyed := by decide +kernel

/-- Under the key of the others, request 4 asks for batches by folder. -/
def sampleCalls (n : ℕ) : Call :=
  if n = 4 then { sampleCall with material := { sampleCall.material with batchBy := "folder" } } else sampleCall

def sampleToken (n : ℕ) : String := String.ofList (List.replicate n 'a')

lemma sampleToken_injective : Function.Injective sampleToken := by
  intro n m h
  have hlength := congrArg List.length (ofList_inj h)
  rwa [List.length_replicate, List.length_replicate] at hlength

abbrev sampleStep : System → Act → System := step sampleDigests sampleCalls sampleToken

def samplePhotos : List PhotoRow :=
  [⟨"photo-1", "trip/a.jpg", some "2019-05-04", "2024-01-01", false, true, false, true, "eligible"⟩,
    ⟨"photo-2", "home/b.jpg", some "2020-08-17", "2024-01-01", false, true, false, true, "eligible"⟩]

def sampleEnvironment : Environment where
  executionMode := "automatic_ai"
  dailyLimit := 50
  aiLimitReached := false
  strategy := "single"
  photos := samplePhotos
  screenshot := fun _ => false
  reserved := fun _ => false

def sampleSnapshot : Snapshot := ⟨"plan", "\x7b\x7d", "year", [⟨"2019", ["photo-1"]⟩, ⟨"2020", ["photo-2"]⟩]⟩

def sampleResponse : Response := ⟨[⟨"job-1", 1, 0, "/jobs/job-1"⟩, ⟨"job-2", 1, 0, "/jobs/job-2"⟩], 2, "year"⟩

lemma snapshot_sample : (sampleCalls 1).snapshot samplePhotos = sampleSnapshot := by
  have hrows : batchRows 50 false samplePhotos = samplePhotos := by
    have hkept : samplePhotos.filter (PhotoRow.batchable false) = samplePhotos := List.filter_eq_self.mpr (by decide +kernel)
    have hsorted : samplePhotos.Pairwise fun a b => decide (a.order ≤ b.order) = true := by decide +kernel
    unfold batchRows Keyset.orderBy
    rw [hkept, List.mergeSort_of_pairwise hsorted]
    rfl
  have hbatches : eligiblePhotoBatches "year" 50 false samplePhotos = sampleSnapshot.batches := by
    unfold eligiblePhotoBatches
    rw [hrows]
    decide +kernel
  have hcall : sampleCalls 1 = sampleCall := rfl
  unfold Call.snapshot
  rw [hcall, show sampleCall.material.batchBy = "year" from rfl, show sampleCall.material.dailyLimit = 50 from rfl, hbatches]
  rfl

def sampleJobs : List Job :=
  [⟨"job-2", sampleCall.jobKey sampleDigests "2020", some "完整照片庫 AI：2020/photo-2", "1", ["photo-2"]⟩,
    ⟨"job-1", sampleCall.jobKey sampleDigests "2019", some "完整照片庫 AI：2019/photo-1", "1", ["photo-1"]⟩]

def second : ℤ := 1000000

/-- Request 0 chooses its photos for longer than its lease, and request 1 takes the row over. -/
def overtaking : List Act := [.reserve 0 0, .enumerate 0 (samplePhotos.take 1), .renew 0 second, .reserve 1 (62 * second)]

/-- Request 1 freezes its batches. -/
def frozenTurns : List Act := overtaking ++ [.enumerate 1 samplePhotos, .renew 1 (62 * second), .freeze 1 (62 * second)]

/-- Request 0 freezes too late. Request 2 comes when the lease of request 1 has run out, and both queue the batches. -/
def servedTurns : List Act :=
  [.freeze 0 (63 * second), .queue 1 sampleEnvironment "job-1", .reserve 2 (130 * second), .queue 2 sampleEnvironment "job-3",
    .queue 2 sampleEnvironment "job-2", .queue 1 sampleEnvironment "job-4", .complete 2, .complete 1, .reserve 3 (140 * second),
    .reserve 4 (150 * second)]

/-- Request 1 has chosen its batches. -/
def chosen : System := (Runs.run sampleStep (start []) overtaking).move 1 (.enumerated false sampleSnapshot)

lemma run_frozen (acts : List Act) : Runs.run sampleStep (start []) (frozenTurns ++ acts) =
    Runs.run sampleStep chosen (.renew 1 (62 * second) :: .freeze 1 (62 * second) :: acts) := by
  have hphase : (Runs.run sampleStep (start []) overtaking).phase 1 = .enumerating false := by
    decide +kernel
  have hchosen : sampleStep (Runs.run sampleStep (start []) overtaking) (.enumerate 1 samplePhotos) = chosen := by
    unfold sampleStep chosen
    rw [step_enumerate hphase, snapshot_sample]
  unfold frozenTurns
  rw [List.append_assoc, Runs.run_append, List.cons_append, Runs.run_cons, hchosen]
  rfl

def sampleRow : LedgerRow :=
  ⟨sampleCall.scope sampleDigests, sampleCall.fingerprint sampleDigests, .inProgress, some sampleSnapshot, none, some "a",
    some (62 * second + leaseLength)⟩

lemma frozen_sample : (Runs.run sampleStep (start []) frozenTurns).ledger.find
    (sampleCall.scope sampleDigests) = some sampleRow ∧
      (Runs.run sampleStep (start []) frozenTurns).jobs = [] := by
  rw [← List.append_nil frozenTurns, run_frozen]
  decide +kernel

lemma served_sample :
    (∀ n ∈ [1, 2, 3], (Runs.run sampleStep (start []) (frozenTurns ++ servedTurns)).phase n = .answered (some sampleResponse)) ∧
      ((Runs.run sampleStep (start []) (frozenTurns ++ servedTurns)).ledger.find (sampleCall.scope sampleDigests)).bind
        LedgerRow.requestSnapshot = some sampleSnapshot ∧
      (Runs.run sampleStep (start []) (frozenTurns ++ servedTurns)).jobs = sampleJobs := by
  rw [run_frozen]
  decide +kernel

section

variable {dg : Digests} {call : ℕ → Call} {token : ℕ → String} {system : System} {n : ℕ} {now : ℤ} {done : List JobAnswer}
  {photos : List PhotoRow} {env : ℕ → Environment} {jobId : ℕ → String} {jobs : List Job}

end

end InkTime.Requests
