import InkTime.Requests.Moves

/-!
# Requests under one key

What holds of the ledger, the jobs and every request between the transactions of any number of requests.
-/

namespace InkTime.Requests

section

variable (dg : Digests) (call : ℕ → Call) (token : ℕ → String)

/-! ### The invariant -/

/-- Every answer names a job of the batch it stands for. -/
def Covered (jobs : List Job) (call : Call) (batches : List Batch) (done : List JobAnswer) : Prop :=
  List.Forall₂ (fun batch answer => (answer.id, call.jobKey dg batch.group) ∈ jobs.map Job.identity) batches done

/-- A row that is completed holds the answer of some request of its scope, with a job for every frozen batch. -/
structure RowSound (jobs : List Job) (scope : String) (row : LedgerRow) : Prop where
  completed : row.status = .completed → ∃ n snapshot done, (call n).scope dg = scope ∧ row.requestSnapshot = some snapshot ∧
    row.response = some ((call n).response done) ∧ Covered dg jobs (call n) snapshot.batches done
  distinct : ∀ snapshot, row.requestSnapshot = some snapshot → (snapshot.batches.map Batch.group).Nodup

/-- The row that a request works with. -/
structure Claimed (ledger : Ledger) (n : ℕ) (row : LedgerRow) : Prop where
  find : ledger.find ((call n).scope dg) = some row
  fingerprint : row.requestFingerprint = (call n).fingerprint dg

/-- A request that still chooses its batches has lost its row if the row is frozen. -/
def Choosing (ledger : Ledger) (n : ℕ) : Prop :=
  ∃ row, Claimed dg call ledger n row ∧ (row.requestSnapshot.isSome = true → row.reservationToken ≠ some (token n))

def PhaseSound (ledger : Ledger) (jobs : List Job) (n : ℕ) : Phase → Prop
  | .reserving => ∀ scope row, ledger.find scope = some row → row.reservationToken ≠ some (token n)
  | .enumerating _ => Choosing dg call token ledger n
  | .enumerated _ snapshot | .freezing _ snapshot =>
    Choosing dg call token ledger n ∧ (snapshot.batches.map Batch.group).Nodup
  | .queueing snapshot done => ∃ row, Claimed dg call ledger n row ∧ row.requestSnapshot = some snapshot ∧
    Covered dg jobs (call n) (snapshot.batches.take done.length) done
  | .answered response => ∃ row, Claimed dg call ledger n row ∧ row.status = .completed ∧ row.response = response
  | .refused _ => True

structure Sound (system : System) : Prop where
  rows : ∀ scope row, system.ledger.find scope = some row → RowSound dg call system.jobs scope row
  phases : ∀ n, PhaseSound dg call token system.ledger system.jobs n (system.phase n)

end

section

variable {dg : Digests} {call : ℕ → Call} {token : ℕ → String} {ledger ledger' : Ledger} {jobs jobs' : List Job} {system : System}
  {n m : ℕ} {scope drawn : String} {row : LedgerRow}

/-! ### Turns of other requests -/

/-- Jobs are never taken back. -/
def Grown (jobs jobs' : List Job) : Prop := ∀ identity ∈ jobs.map Job.identity, identity ∈ jobs'.map Job.identity

lemma Grown.refl (jobs : List Job) : Grown jobs jobs := fun _ h => h

lemma Covered.grown {batches : List Batch} {done : List JobAnswer} (h : Covered dg jobs (call n) batches done) (hgrown : Grown jobs jobs') :
    Covered dg jobs' (call n) batches done :=
  List.Forall₂.imp (fun _ _ hmem => hgrown _ hmem) h

lemma RowSound.grown (h : RowSound dg call jobs scope row) (hgrown : Grown jobs jobs') : RowSound dg call jobs' scope row where
  completed := by
    intro hcompleted
    obtain ⟨n, snapshot, done, hscope, hsnapshot, hresponse, hcovered⟩ := h.completed hcompleted
    exact ⟨n, snapshot, done, hscope, hsnapshot, hresponse, hcovered.grown hgrown⟩
  distinct := h.distinct

lemma Claimed.moved (h : Claimed dg call ledger n row) (hmoved : Moved drawn scope ledger ledger') :
    ∃ new, Claimed dg call ledger' n new ∧ Turn drawn row new := by
  obtain ⟨new, hnew, hturn⟩ := hmoved.forward _ _ h.find
  exact ⟨new, ⟨hnew, hturn.fingerprint.trans h.fingerprint⟩, hturn⟩

/-- An answer on record stays. -/
lemma Claimed.completed_moved (h : Claimed dg call ledger n row) (hcompleted : row.status = .completed)
    (hmoved : Moved drawn scope ledger ledger') :
    ∃ new, Claimed dg call ledger' n new ∧ new.status = .completed ∧ new.response = row.response := by
  obtain ⟨new, hclaimed, hturn⟩ := h.moved hmoved
  exact ⟨new, hclaimed, hturn.completed hcompleted⟩

/-- Where another token is drawn, no row comes to have this one. -/
lemma Turn.token_ne {old new : LedgerRow} (h : Turn drawn old new) (hdrawn : drawn ≠ token n)
    (hold : old.reservationToken ≠ some (token n)) :
    new.reservationToken ≠ some (token n) := by
  obtain hsame | hnew := h.token
  · rwa [hsame]
  · rw [hnew]
    exact fun heq => hdrawn (Option.some.inj heq)

lemma Choosing.moved (h : Choosing dg call token ledger n) (hmoved : Moved drawn scope ledger ledger') (hdrawn : drawn ≠ token n) :
    Choosing dg call token ledger' n := by
  obtain ⟨old, hclaimed, hlost⟩ := h
  obtain ⟨new, hclaimed', hturn⟩ := hclaimed.moved hmoved
  refine ⟨new, hclaimed', ?_⟩
  intro hfrozen
  cases hold : old.requestSnapshot with
  | none =>
    -- The row was frozen just now, by its holder.
    rw [hturn.frozen hold hfrozen]
    exact fun heq => hdrawn (Option.some.inj heq)
  | some snapshot => exact hturn.token_ne hdrawn (hlost (by rw [hold]; rfl))

/-- A request does not notice the turns of others. -/
lemma PhaseSound.moved {phase : Phase} (h : PhaseSound dg call token ledger jobs n phase) (hmoved : Moved drawn scope ledger ledger')
    (hdrawn : drawn ≠ token n) (hgrown : Grown jobs jobs') : PhaseSound dg call token ledger' jobs' n phase := by
  cases phase with
  | reserving =>
    intro other new hnew
    obtain ⟨old, hold, hturn⟩ | ⟨-, hopened⟩ := hmoved.backward other new hnew
    · exact hturn.token_ne hdrawn (h other old hold)
    · rw [hopened.token]
      exact fun heq => hdrawn (Option.some.inj heq)
  | enumerating lost => exact Choosing.moved h hmoved hdrawn
  | enumerated lost snapshot => exact ⟨Choosing.moved h.1 hmoved hdrawn, h.2⟩
  | freezing lost snapshot => exact ⟨Choosing.moved h.1 hmoved hdrawn, h.2⟩
  | queueing snapshot done =>
    obtain ⟨old, hclaimed, hsnapshot, hcovered⟩ := h
    obtain ⟨new, hclaimed', hturn⟩ := hclaimed.moved hmoved
    exact ⟨new, hclaimed', hturn.snapshot snapshot hsnapshot, hcovered.grown hgrown⟩
  | answered response =>
    obtain ⟨old, hclaimed, hcompleted, hresponse⟩ := h
    obtain ⟨new, hclaimed', hcompleted', hresponse'⟩ := hclaimed.completed_moved hcompleted hmoved
    exact ⟨new, hclaimed', hcompleted', hresponse'.trans hresponse⟩
  | refused reason => trivial

/-- A turn of one request keeps the invariant if it does so for this request and its row. -/
lemma Sound.turn (h : Sound dg call token system) (hmoved : Moved drawn scope system.ledger ledger') (hgrown : Grown system.jobs jobs')
    (hdrawn : ∀ other, other ≠ n → drawn ≠ token other) (hrow : ∀ row, ledger'.find scope = some row → RowSound dg call jobs' scope row)
    {phase : Phase} (hphase : PhaseSound dg call token ledger' jobs' n phase) :
    Sound dg call token ⟨ledger', jobs', Function.update system.phase n phase⟩ where
  rows := by
    intro other row hfind
    by_cases hother : scope = other
    · exact hother ▸ hrow row (hother ▸ hfind)
    · exact (h.rows other row (hmoved.frame other hother ▸ hfind)).grown hgrown
  phases := by
    intro other
    dsimp only
    by_cases hother : other = n
    · rw [hother, Function.update_self]
      exact hphase
    · rw [Function.update_of_ne hother]
      exact (h.phases other).moved hmoved (hdrawn other hother) hgrown

lemma Sound.move (h : Sound dg call token system) {phase : Phase} (hphase : PhaseSound dg call token system.ledger system.jobs n phase) :
    Sound dg call token (system.move n phase) where
  rows := h.rows
  phases := by
    intro other
    unfold System.move
    dsimp only
    by_cases hother : other = n
    · rw [hother, Function.update_self]
      exact hphase
    · rw [Function.update_of_ne hother]
      exact h.phases other

lemma RowSound.kept {old : LedgerRow} (h : RowSound dg call jobs scope old) (hkept : Kept old row) : RowSound dg call jobs scope row where
  completed := by
    rw [hkept.status, hkept.snapshot, hkept.response]
    exact h.completed
  distinct := by
    rw [hkept.snapshot]
    exact h.distinct

end

end InkTime.Requests
