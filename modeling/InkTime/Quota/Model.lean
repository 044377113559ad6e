import Mathlib.Tactic
import InkTime.Library.Table
import InkTime.Library.Runs

/-!
# Shared provider quota

`ProviderQuotaRepository` keeps the calls of all worker processes to one account in a table of events and a row of
circuit state. `acquire` and `release` each read a clock of their own first and run their transaction later; other
workers may come between the two.
-/

namespace InkTime.Quota

/-- The fields of `ProviderChannel` that the repository reads. `timeout` is that of the provider. -/
structure Channel where
  requestsPerMinute : Option Nat := none
  tokensPerMinute : Option Nat := none
  requestTokenReserve : Nat := 0
  maxConcurrency : Nat := 2
  cooldownSeconds : ℚ := 300
  timeout : ℚ := 120

/-! ### Tables -/

/-- A row of `provider_quota_events`. -/
structure Event where
  id : Nat
  scope : String
  startedAt : ℚ
  tokens : Nat
  leaseUntil : ℚ
  deriving DecidableEq

/-- A row of `provider_quota_state`. -/
structure Circuit where
  scope : String
  failures : Nat
  circuitUntil : ℚ
  deriving DecidableEq

structure Db where
  events : Table Event.id
  circuits : Table Circuit.scope

/-! ### Transactions -/

/-- A row that the admission test counts: of the last minute, or with a lease. -/
def Event.counts (scope : String) (now : ℚ) (event : Event) : Bool :=
  event.scope == scope && (decide (now - 60 < event.startedAt) ||
    (decide (now < event.leaseUntil) && decide (event.startedAt ≤ now - 60)))

def requests (db : Db) (scope : String) (now : ℚ) : Nat := db.events.count (Event.counts scope now)

def tokens (db : Db) (scope : String) (now : ℚ) : Nat := ((db.events.rows.filter (Event.counts scope now)).map Event.tokens).sum

def leases (db : Db) (scope : String) (now : ℚ) : Nat :=
  db.events.count fun event => event.counts scope now && decide (now < event.leaseUntil)

/-- `not limit or test` for a limit that may be `None`. -/
def within (limit : Option Nat) (test : Nat → Bool) : Bool :=
  match limit with
  | none | some 0 => true
  | some limit => test limit

/-- `_allowed` -/
def allowed (db : Db) (scope : String) (channel : Channel) (now : ℚ) : Bool :=
  !(db.circuits.find scope).any (fun circuit => decide (now < circuit.circuitUntil)) &&
    within channel.requestsPerMinute (fun limit => decide (requests db scope now < limit)) &&
    within channel.tokensPerMinute (fun limit => decide (tokens db scope now + channel.requestTokenReserve ≤ limit)) &&
    decide (leases db scope now < channel.maxConcurrency)

/-- Rows without a lease and older than a minute, of any scope. -/
def collect (db : Db) (now : ℚ) : Db :=
  { db with events := db.events.delete fun event => decide (event.leaseUntil ≤ now) && decide (event.startedAt ≤ now - 60) }

def Channel.leaseUntil (channel : Channel) (now : ℚ) : ℚ := now + max 1 channel.timeout + 60

/-- The transaction of `acquire`; `id` is its `uuid4`. -/
def acquire (db : Db) (scope : String) (channel : Channel) (now : ℚ) (id : Nat) : Db × Option Nat :=
  let db := collect db now
  if allowed db scope channel now then
    ({ db with
        events := db.events.add
          { id, scope, startedAt := now, tokens := channel.requestTokenReserve, leaseUntil := channel.leaseUntil now } }, some id)
  else (db, none)

def cancel (db : Db) (scope : String) (id : Nat) : Db :=
  { db with events := db.events.delete fun event => event.id == id && event.scope == scope }

/-- The exception of a call, with `retry_after or 0`. -/
structure Error where
  retryAfter : ℚ := 0
  deriving DecidableEq

/-- The circuit row after a call that failed. -/
def Circuit.failed (channel : Channel) (now : ℚ) (error : Error) (threshold : Nat) (circuit : Circuit) : Circuit :=
  let failures := circuit.failures + 1
  if threshold ≤ failures ∨ error.retryAfter ≠ 0 then
    { circuit with failures, circuitUntil := max circuit.circuitUntil (now + max error.retryAfter channel.cooldownSeconds) }
  else { circuit with failures }

/-- The circuit row after a call. -/
def Circuit.reported (channel : Channel) (now : ℚ) (error : Option Error) (threshold : Nat) (circuit : Circuit) : Circuit :=
  match error with
  | none => { circuit with failures := 0 }
  | some error => circuit.failed channel now error threshold

lemma Circuit.reported_scope (channel : Channel) (now : ℚ) (error : Option Error) (threshold : Nat) (circuit : Circuit) :
    (circuit.reported channel now error threshold).scope = circuit.scope := by
  unfold Circuit.reported
  cases error with
  | none => rfl
  | some error =>
    unfold Circuit.failed
    dsimp only
    split <;> rfl

/-- The transaction of `release`. `usage` are the tokens the provider has reported, if it has. -/
def release (db : Db) (scope : String) (channel : Channel) (now : ℚ) (id : Nat) (usage : Option Nat) (error : Option Error)
    (threshold : Nat) : Db where
  events := db.events.update (fun event => event.id == id && event.scope == scope)
    (fun event => { event with leaseUntil := 0, startedAt := now, tokens := usage.getD channel.requestTokenReserve }) fun _ => rfl
  circuits := (db.circuits.add { scope, failures := 0, circuitUntil := 0 }).update (fun circuit => circuit.scope == scope)
    (Circuit.reported channel now error threshold) (Circuit.reported_scope channel now error threshold)

/-! ### Workers -/

/-- What a worker process does next: it has read the clock and waits for its transaction. -/
inductive Pending where
  | acquire (scope : String) (now : ℚ)
  | release (scope : String) (id : Nat) (now : ℚ)
  deriving DecidableEq

structure Worker where
  id : String
  pending : Pending
  deriving DecidableEq

/-- A successful `acquire`. -/
structure Grant where
  id : Nat
  scope : String
  at_ : ℚ
  leaseUntil : ℚ
  deriving DecidableEq

/-- `grants`, `cancelled` and `released` record what has happened, `early` the reservations that were released by a
clock which showed less than when they were acquired; `last` is the latest clock of an `acquire`. -/
structure World where
  db : Db
  workers : Table Worker.id
  grants : List Grant
  cancelled : List Nat
  released : List Nat
  early : List Nat
  last : Option ℚ

/-- `now` is what `time.time()` answers. -/
inductive Act where
  /-- A worker calls `acquire` and reads the clock. -/
  | enter (worker scope : String) (now : ℚ)
  /-- A worker that has a reservation calls `release` and reads the clock. -/
  | leave (worker scope : String) (id : Nat) (now : ℚ)
  | commitAcquire (worker : String)
  | commitRelease (worker : String) (usage : Option Nat) (error : Option Error) (threshold : Nat)
  | cancel (scope : String) (id : Nat)

section Machine

variable (channel : String → Channel)

/-- Every `acquire` has its own id, and a reservation is known only after it was acquired. -/
def step (w : World) : Act → World
  | .enter worker scope now => { w with workers := w.workers.add ⟨worker, .acquire scope now⟩ }
  | .leave worker scope id now =>
    if w.grants.any fun grant => grant.id == id && grant.scope == scope then
      { w with workers := w.workers.add ⟨worker, .release scope id now⟩ }
    else w
  | .commitAcquire worker =>
    match w.workers.find worker with
    | some ⟨_, .acquire scope now⟩ =>
      let (db, answer) := acquire w.db scope (channel scope) now w.grants.length
      { w with
        db
        workers := w.workers.delete fun other => other.id == worker
        grants := match answer with
          | some id => w.grants ++ [⟨id, scope, now, (channel scope).leaseUntil now⟩]
          | none => w.grants
        last := some now }
    | _ => w
  | .commitRelease worker usage error threshold =>
    match w.workers.find worker with
    | some ⟨_, .release scope id now⟩ =>
      { w with
        db := release w.db scope (channel scope) now id usage error threshold
        workers := w.workers.delete fun other => other.id == worker
        released := id :: w.released
        early := if w.grants.any fun grant => grant.id == id && decide (now < grant.at_) then id :: w.early else w.early }
    | _ => w
  | .cancel scope id =>
    if w.grants.any fun grant => grant.id == id && grant.scope == scope then
      { w with db := cancel w.db scope id, cancelled := id :: w.cancelled }
    else w

def World.start : World where
  db := ⟨.empty, .empty⟩
  workers := .empty
  grants := []
  cancelled := []
  released := []
  early := []
  last := none

def run (acts : List Act) : World := Runs.run (step channel) World.start acts

/-- The clocks of `acquire` do not decrease in the order of the transactions. -/
def timely (w : World) : Act → Bool
  | .commitAcquire worker =>
    match w.workers.find worker with
    | some ⟨_, .acquire _ now⟩ => w.last.all fun last => decide (last ≤ now)
    | _ => true
  | _ => true

end Machine

end InkTime.Quota
