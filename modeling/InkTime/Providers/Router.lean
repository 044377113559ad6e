import Mathlib.Tactic

/-!
# The provider router

`FailoverVisionProvider` sends a request along its channels. A channel is used with a permit of its semaphore and with a
reservation at the quota that its accounts share, or a slot of its own limits; both are noted for the thread. What the shared
quota, the free-quota gate and the provider answer is given with each attempt.
-/

namespace InkTime.Providers

/-! ### What a call can raise -/

/-- The attribute `retry_after`; `unreadable` is a true value that `float` refuses. -/
inductive RetryAfter where
  | absent
  | seconds (value : ℚ)
  | unreadable
  deriving DecidableEq

def RetryAfter.truthy : RetryAfter → Bool
  | .absent => false
  | .seconds value => value != 0
  | .unreadable => true

/-- `float(retry_after or 0)` -/
def RetryAfter.read : RetryAfter → Option ℚ
  | .absent => some 0
  | .seconds value => some value
  | .unreadable => none

/-- An exception with the attributes the router reads; `isException` is false where it is only a `BaseException`. -/
structure Raised where
  isException : Bool := true
  httpError : Bool := false
  code : String := ""
  retryAfter : RetryAfter := .absent
  ambiguous : Bool := false
  visionStarted : Bool := false
  requestStarted : Bool := false
  deriving DecidableEq

/-- The provider may have got the request. -/
def Raised.started (error : Raised) : Bool := error.visionStarted || error.requestStarted || error.ambiguous

/-- The `ProviderHTTPError` that keeps a photo in the queue. -/
def Raised.defers (error : Raised) : Bool := error.httpError && error.code == "VLM-005"

/-- `_unavailable` -/
def unavailable : Raised := { httpError := true, code := "VLM-005" }

structure Usage where
  inputTokens : Nat := 0
  outputTokens : Nat := 0
  deriving DecidableEq

/-! ### One channel -/

structure Channel where
  maxConcurrency : ℤ := 2
  requestsPerMinute : Option Nat := none
  tokensPerMinute : Option Nat := none
  cooldownSeconds : ℚ := 300
  sharedQuota : Bool := false
  providerId : String := ""

/-- Permits of the semaphore. -/
def Channel.permits (channel : Channel) : Nat := (max 1 channel.maxConcurrency).toNat

/-- What the router keeps for one channel, with the entries of `quota_reservations` and `request_slots` of every thread. -/
structure Cell where
  taken : Nat := 0
  requestTimes : List ℚ := []
  tokenEvents : List (ℚ × Nat) := []
  failures : Nat := 0
  circuitUntil : ℚ := 0
  quotaReservations : Nat → Option Nat := fun _ => none
  requestSlots : Nat → Option ℚ := fun _ => none

/-- What an attempt on one channel meets; the times are those of `time.monotonic`. -/
structure Attempt where
  reserveAt : ℚ := 0
  quotaAcquire : Except Raised (Option Nat) := .ok none
  gate : Option Raised := none
  quotaCancel : Option Raised := none
  call : Except Raised Usage := .ok {}
  releaseAt : ℚ := 0
  quotaRelease : Option Raised := none

/-- `not limit or count < limit` -/
def below (count : Nat) : Option Nat → Bool
  | none => true
  | some limit => limit == 0 || count < limit

/-- `_prune_quota_events` -/
def pruneQuotaEvents (now : ℚ) (cell : Cell) : Cell :=
  { cell with
    requestTimes := cell.requestTimes.dropWhile fun time => time ≤ now - 60
    tokenEvents := cell.tokenEvents.dropWhile fun event => event.1 ≤ now - 60 }

/-- `_can_use_channel_locked` of a channel with limits of its own. -/
def canUseChannel (channel : Channel) (now : ℚ) (cell : Cell) : Bool :=
  cell.circuitUntil ≤ now && below cell.requestTimes.length channel.requestsPerMinute &&
    below (cell.tokenEvents.map Prod.snd).sum channel.tokensPerMinute

def reserveRequestSlot (channel : Channel) (thread : Nat) (attempt : Attempt) (cell : Cell) : Cell × Except Raised Bool :=
  if channel.sharedQuota then
    match attempt.quotaAcquire with
    | .error error => (cell, .error error)
    | .ok none => (cell, .ok false)
    | .ok (some reservation) =>
      ({ cell with quotaReservations := Function.update cell.quotaReservations thread (some reservation) }, .ok true)
  else
    let cell := pruneQuotaEvents attempt.reserveAt cell
    if canUseChannel channel attempt.reserveAt cell then
      ({ cell with
        requestTimes := cell.requestTimes ++ [attempt.reserveAt]
        requestSlots := Function.update cell.requestSlots thread (some attempt.reserveAt) }, .ok true)
    else (cell, .ok false)

/-- `semaphore.release()` of a bounded semaphore -/
def releasePermit (cell : Cell) : Cell × Option Raised :=
  if cell.taken = 0 then (cell, some {}) else ({ cell with taken := cell.taken - 1 }, none)

/-- An exception of `shared_quota.cancel` or of `request_times.remove` leaves before the permit is released. -/
def cancelLocalReservation (channel : Channel) (thread : Nat) (attempt : Attempt) (cell : Cell) : Cell × Option Raised :=
  if channel.sharedQuota then
    let reserved := (cell.quotaReservations thread).isSome
    let cell := { cell with quotaReservations := Function.update cell.quotaReservations thread none }
    match reserved, attempt.quotaCancel with
    | true, some error => (cell, some error)
    | _, _ => releasePermit cell
  else
    match cell.requestSlots thread with
    | none => releasePermit cell
    | some slot =>
      let times := cell.requestTimes
      let cell := { cell with requestSlots := Function.update cell.requestSlots thread none }
      if slot ∈ times then releasePermit { cell with requestTimes := times.erase slot } else (cell, some {})

def acquireChannel (channel : Channel) (thread : Nat) (attempt : Attempt) (cell : Cell) : Cell × Except Raised Bool :=
  if channel.permits ≤ cell.taken then (cell, .ok false)
  else
    match reserveRequestSlot channel thread attempt { cell with taken := cell.taken + 1 } with
    | (cell, .error error) => (cell, .error error)
    | (cell, .ok false) => ((releasePermit cell).1, .ok false)
    | (cell, .ok true) =>
      match attempt.gate with
      | none => (cell, .ok true)
      | some error =>
        if !error.isException then (cell, .error error)
        else
          match cancelLocalReservation channel thread attempt cell with
          | (cell, some failure) => (cell, .error failure)
          | (cell, none) => (cell, if error.defers then .ok false else .error error)

/-- The circuit and the tokens; false where `float(retry_after)` raises. -/
def settle (channel : Channel) (failureThreshold : Nat) (usage : Option Usage) (error : Option Raised) (now : ℚ) (cell : Cell) :
    Cell × Bool :=
  match error with
  | some error =>
    let cell := { cell with failures := cell.failures + 1 }
    if failureThreshold ≤ cell.failures || error.retryAfter.truthy then
      match error.retryAfter.read with
      | none => (cell, false)
      | some seconds => ({ cell with circuitUntil := now + max seconds channel.cooldownSeconds }, true)
    else (cell, true)
  | none =>
    let cell := { cell with failures := 0 }
    match usage with
    | none => (cell, true)
    | some usage =>
      let usedTokens := usage.inputTokens + usage.outputTokens
      (if usedTokens = 0 then cell else { cell with tokenEvents := cell.tokenEvents ++ [(now, usedTokens)] }, true)

/-- What the thread has noted for the channel is dropped. -/
def forget (channel : Channel) (thread : Nat) (cell : Cell) : Cell :=
  let reservations := Function.update cell.quotaReservations thread none
  let cell := if channel.sharedQuota then { cell with quotaReservations := reservations } else cell
  { cell with requestSlots := Function.update cell.requestSlots thread none }

/-- The `try` of `release_channel`, whose `finally` gives the permit back. -/
def giveBack (channel : Channel) (thread : Nat) (quotaRelease : Option Raised) (cell : Cell) : Cell × Option Raised :=
  let failure := if channel.sharedQuota && (cell.quotaReservations thread).isSome then quotaRelease else none
  let (cell, error) := releasePermit (forget channel thread cell)
  (cell, error <|> failure)

def releaseChannel (channel : Channel) (failureThreshold thread : Nat) (usage : Option Usage) (error : Option Raised) (now : ℚ)
    (quotaRelease : Option Raised) (cell : Cell) : Cell × Option Raised :=
  match settle channel failureThreshold usage error now cell with
  | (cell, false) => (cell, some {})
  | (cell, true) => giveBack channel thread quotaRelease cell

/-! ### One call on an acquired channel -/

/-- How a call ended, after the channel was released. -/
inductive Completed where
  | response (usage : Usage)
  | raised (error : Raised)
  | failedOver (error : Raised)
  deriving DecidableEq

def complete (channel : Channel) (failureThreshold thread : Nat) (attempt : Attempt) (cell : Cell) : Cell × Completed :=
  match attempt.call with
  | .ok usage =>
    match releaseChannel channel failureThreshold thread (some usage) none attempt.releaseAt attempt.quotaRelease cell with
    | (cell, none) => (cell, .response usage)
    | (cell, some failure) => (cell, .raised failure)
  | .error error =>
    if !error.isException then (cell, .raised error)
    else
      match releaseChannel channel failureThreshold thread none (some error) attempt.releaseAt attempt.quotaRelease cell with
      | (cell, some failure) => (cell, .raised failure)
      | (cell, none) => (cell, if error.started then .raised error else .failedOver error)

/-! ### The router -/

/-- The channels in the order of their priority. -/
structure Router (κ : Type) where
  channels : List κ
  distinct : channels.Nodup
  channel : κ → Channel
  failureThreshold : Nat := 3

abbrev State (κ : Type) := κ → Cell

inductive Outcome (κ : Type) where
  | response (usage : Usage)
  | selected (channel : κ)
  | released
  | raised (error : Raised)
  deriving DecidableEq

variable {κ : Type} [DecidableEq κ]

/-- The loop of `_execute` and of `analyze_isolated`, with the channels whose provider is called. -/
def route (router : Router κ) (thread : Nat) (attempts : κ → Attempt) :
    List κ → Option Raised → State κ → State κ × List κ × Outcome κ
  | [], lastError, state => (state, [], .raised (lastError.getD unavailable))
  | id :: rest, lastError, state =>
    match acquireChannel (router.channel id) thread (attempts id) (state id) with
    | (cell, .error error) => (Function.update state id cell, [], .raised error)
    | (cell, .ok false) => route router thread attempts rest lastError (Function.update state id cell)
    | (cell, .ok true) =>
      match complete (router.channel id) router.failureThreshold thread (attempts id) cell with
      | (cell, .response usage) => (Function.update state id cell, [id], .response usage)
      | (cell, .raised error) => (Function.update state id cell, [id], .raised error)
      | (cell, .failedOver error) =>
        let (state, called, outcome) := route router thread attempts rest (some error) (Function.update state id cell)
        (state, id :: called, outcome)

def execute (router : Router κ) (thread : Nat) (attempts : κ → Attempt) (state : State κ) : State κ × List κ × Outcome κ :=
  route router thread attempts router.channels none state

def analyzeIsolated (router : Router κ) (thread : Nat) (attempts : κ → Attempt) (state : State κ) :
    State κ × List κ × Outcome κ :=
  route router thread attempts router.channels none state

def executeSticky (router : Router κ) (thread : Nat) (id : κ) (attempt : Attempt) (state : State κ) : State κ × Outcome κ :=
  match acquireChannel (router.channel id) thread attempt (state id) with
  | (cell, .error error) => (Function.update state id cell, .raised error)
  | (cell, .ok false) => (Function.update state id cell, .raised unavailable)
  | (cell, .ok true) =>
    match complete (router.channel id) router.failureThreshold thread attempt cell with
    | (cell, .response usage) => (Function.update state id cell, .response usage)
    | (cell, .raised error) => (Function.update state id cell, .raised error)
    | (cell, .failedOver error) => (Function.update state id cell, .raised error)

/-- The loop of `select_channel`. -/
def selectFrom (router : Router κ) (thread : Nat) (excluded : List String) (attempts : κ → Attempt) :
    List κ → State κ → State κ × Outcome κ
  | [], state => (state, .raised unavailable)
  | id :: rest, state =>
    if (router.channel id).providerId ∈ excluded then selectFrom router thread excluded attempts rest state
    else
      match acquireChannel (router.channel id) thread (attempts id) (state id) with
      | (cell, .error error) => (Function.update state id cell, .raised error)
      | (cell, .ok false) => selectFrom router thread excluded attempts rest (Function.update state id cell)
      | (cell, .ok true) => (Function.update state id cell, .selected id)

def selectChannel (router : Router κ) (thread : Nat) (excluded : List String) (attempts : κ → Attempt) (state : State κ) :
    State κ × Outcome κ :=
  selectFrom router thread excluded attempts router.channels state

/-- A call of the router by some thread. -/
inductive Op (κ : Type) where
  | execute (attempts : κ → Attempt)
  | executeSticky (channel : κ) (attempt : Attempt)
  | analyzeIsolated (attempts : κ → Attempt)
  | selectChannel (excluded : List String) (attempts : κ → Attempt)
  | releaseChannel (channel : κ) (usage : Option Usage) (error : Option Raised) (now : ℚ) (quotaRelease : Option Raised)

def call (router : Router κ) (thread : Nat) (state : State κ) : Op κ → State κ × Outcome κ
  | .execute attempts =>
    let (state, _, outcome) := execute router thread attempts state
    (state, outcome)
  | .executeSticky id attempt => executeSticky router thread id attempt state
  | .analyzeIsolated attempts =>
    let (state, _, outcome) := analyzeIsolated router thread attempts state
    (state, outcome)
  | .selectChannel excluded attempts => selectChannel router thread excluded attempts state
  | .releaseChannel id usage error now quotaRelease =>
    match releaseChannel (router.channel id) router.failureThreshold thread usage error now quotaRelease (state id) with
    | (cell, none) => (Function.update state id cell, .released)
    | (cell, some failure) => (Function.update state id cell, .raised failure)

end InkTime.Providers
