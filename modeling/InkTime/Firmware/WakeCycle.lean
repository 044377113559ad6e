import Mathlib.Tactic

/-!
# Timer wakes of the offline mode

A wake reads the clock several times: to choose between the cached and the network path, to look for a
due slot, to load a frame, and to plan the next wake. The model keeps these readings apart. JSON and
storage checks of a schedule are summed up in `ActiveSchedule`, whose fields hold for every schedule the
firmware accepts.
-/

namespace InkTime.Firmware

/-- `sync_strategy`, with the minute of the day of `sync_time`. -/
inductive SyncStrategy where
  | firstDisplayLead
  | fixedDaily (minute : Nat)
  deriving DecidableEq

def maxOfflineSlots : Nat := 24

/-- The active schedule: the day it covers and the `show_at_epoch` of its slots. An absent
`next_schedule_prefetch_epoch` is zero. -/
structure ActiveSchedule where
  targetStart : Nat
  targetEnd : Nat
  slots : List Nat
  nextSchedulePrefetch : Nat := 0
  strategy : SyncStrategy := .firstDisplayLead
  started : 0 < targetStart
  count : 0 < slots.length ∧ slots.length ≤ maxOfflineSlots
  inDay : ∀ showAt ∈ slots, targetStart ≤ showAt ∧ showAt < targetEnd
  sorted : slots.Pairwise (· < ·)

/-- The part of the configuration that wakes depend on. -/
structure WakeConfig where
  prefetchLeadMinutes : Nat
  tzOffsetMinutes : Int := 0

/-! ### Epochs of the schedule -/

/-- Smallest positive candidate after `now`; zero when there is none. -/
def considerWake (now wake candidate : Nat) : Nat :=
  if candidate > now ∧ (wake = 0 ∨ candidate < wake) then candidate else wake

/-- `next_display` of `activeOfflineEpochs`. -/
def nextDisplayEpoch (schedule : ActiveSchedule) (now : Nat) : Nat :=
  schedule.slots.foldl (considerWake now) 0

def formalGraceSeconds : Nat := 15 * 60

def scheduleHasDueFormalSlot (slots : List Nat) (now : Nat) : Bool :=
  slots.any fun showAt =>
    decide (0 < showAt) && decide (showAt ≤ now) && decide (now - showAt ≤ formalGraceSeconds)

def activeHasDueFormalSlot (schedule : ActiveSchedule) (now : Nat) : Bool :=
  decide (0 < now) && scheduleHasDueFormalSlot schedule.slots now

/-- Today's instant of a minute of the local day, under a fixed offset. -/
def fixedDailyCandidate (cfg : WakeConfig) (minute now : Nat) : Int :=
  let offset := cfg.tzOffsetMinutes * 60
  ((now : Int) + offset) / 86400 * 86400 + minute * 60 - offset

def fixedDailySyncEpoch (cfg : WakeConfig) (minute now : Nat) : Nat :=
  let today := fixedDailyCandidate cfg minute now
  let candidate := if today ≤ now then today + 86400 else today
  if (now : Int) < candidate then candidate.toNat else 0

def fixedDailyDueWindowSeconds : Nat := 5 * 60

def fixedDailySyncDue (cfg : WakeConfig) (minute now : Nat) : Bool :=
  let candidate := fixedDailyCandidate cfg minute now
  decide (0 < candidate) && decide (candidate ≤ now) &&
    decide ((now : Int) - candidate ≤ fixedDailyDueWindowSeconds)

def offlineFixedDailySyncDue (schedule : ActiveSchedule) (cfg : WakeConfig) (now : Nat) : Bool :=
  match schedule.strategy with
  | .firstDisplayLead => false
  | .fixedDaily minute => decide (0 < now) && fixedDailySyncDue cfg minute now

def offlineNextSchedulePrefetchDue (schedule : ActiveSchedule) (now : Nat) : Bool :=
  decide (0 < now) && decide (0 < schedule.nextSchedulePrefetch) && decide (schedule.nextSchedulePrefetch ≤ now) &&
    decide (now < schedule.targetEnd)

def offlinePrefetchWake (schedule : ActiveSchedule) (cfg : WakeConfig) (now : Nat) : Bool :=
  let nextDisplay := nextDisplayEpoch schedule now
  let lead := cfg.prefetchLeadMinutes * 60
  if now = 0 then false
  else if schedule.targetEnd ≤ now then true
  else if 0 < schedule.nextSchedulePrefetch ∧ schedule.nextSchedulePrefetch ≤ now then true
  else if schedule.strategy ≠ .firstDisplayLead then false
  -- without a lead the display boundary is the sync epoch and takes the network path
  else if cfg.prefetchLeadMinutes = 0 then activeHasDueFormalSlot schedule now
  else if nextDisplay ≤ now then false
  else decide (nextDisplay ≤ now + lead)

/-- The slot selected so far, or the next one if it has come due and is not earlier. -/
def selectSlot (now : Nat) (selected : Option Nat) (showAt : Nat) : Option Nat :=
  if showAt ≤ now ∧ selected.getD 0 ≤ showAt then some showAt else selected

/-- The slot whose frame a formal load takes, on the schedule's own day. -/
def loadOfflineScheduledLocalFrame (schedule : ActiveSchedule) (now : Nat) : Option Nat :=
  if now < schedule.targetStart ∨ schedule.targetEnd ≤ now then none
  else schedule.slots.foldl (selectSlot now) none

/-! ### Retry state -/

structure RetryState where
  attempt : Nat := 0
  epoch : Nat := 0
  nextSlot : Nat := 0

def offlineRetryMaximumHorizonSeconds : Nat := 7 * 24 * 60 * 60

def validOfflineRetryEpoch (now retry nextSlot : Nat) : Bool :=
  decide (now < retry) && decide (retry - now ≤ offlineRetryMaximumHorizonSeconds) &&
    (nextSlot == 0 || (decide (now < nextSlot) && decide (retry < nextSlot)))

def offlineRetryFallbackSeconds : Nat → Nat
  | 0 => 15 * 60
  | 1 => 30 * 60
  | _ => 60 * 60

/-- `buildOfflineRetryPlan`: the epoch and the next attempt. -/
def buildOfflineRetryPlan (now attempt serverRetry nextSlot : Nat) : Nat × Nat :=
  if validOfflineRetryEpoch now serverRetry nextSlot then (serverRetry, 0)
  else
    let bounded := min attempt 2
    let fallback := now + offlineRetryFallbackSeconds bounded
    let epoch :=
      if now < nextSlot ∧ nextSlot ≤ fallback then
        if now < nextSlot - 60 then nextSlot - 60
        else if now + 1 < nextSlot then nextSlot - 1
        else fallback
      else fallback
    (epoch, min (bounded + 1) 2)

def scheduleOfflineRecovery (retry : RetryState) (now serverRetry nextSlot : Nat) : RetryState × Nat :=
  if now = 0 then (retry, 0)
  else if serverRetry = 0 ∧ validOfflineRetryEpoch now retry.epoch retry.nextSlot then (retry, retry.epoch)
  else
    let plan := buildOfflineRetryPlan now retry.attempt serverRetry nextSlot
    ({ attempt := plan.2, epoch := plan.1, nextSlot }, plan.1)

/-! ### Sleep -/

/-- What a wake leaves behind: the epoch of the next timer wake, the frames loaded for display with the
times of their loads, the retry state and the recovery counter `pwr_retry`. -/
structure WakeState where
  clock : Nat
  loads : List (Nat × Nat) := []
  retry : RetryState := {}
  powerAttempt : Nat := 0

def exactSleepSeconds (now next : Nat) : Nat := if next > now then next - now else 1

def maxSleepSeconds : Nat := 24 * 60 * 60

def goDeepSleepSeconds (state : WakeState) (now seconds : Nat) : WakeState :=
  { state with clock := now + seconds }

def goDeepSleepUntilEpoch (state : WakeState) (now next : Nat) : WakeState :=
  goDeepSleepSeconds state now (min (exactSleepSeconds now next) maxSleepSeconds)

def powerRecoverySeconds : Nat → Nat
  | 0 => 15 * 60
  | 1 => 30 * 60
  | _ => 60 * 60

def sleepPowerRecovery (state : WakeState) (now : Nat) : WakeState :=
  goDeepSleepSeconds { state with powerAttempt := min (state.powerAttempt + 1) 2 } now
    (powerRecoverySeconds state.powerAttempt)

/-- The candidates of `sleepUntilNextSchedule` in their order; a zero stands for a candidate that is not
considered. -/
def wakeCandidates (schedule : ActiveSchedule) (cfg : WakeConfig) (retry : RetryState) (now : Nat) : List Nat :=
  let nextDisplay := nextDisplayEpoch schedule now
  let lead := cfg.prefetchLeadMinutes * 60
  let prefetch := if nextDisplay > lead then nextDisplay - lead else nextDisplay
  [if nextDisplay > now then (if prefetch > now then prefetch else nextDisplay) else 0,
    schedule.nextSchedulePrefetch,
    schedule.targetEnd,
    match schedule.strategy with
    | .firstDisplayLead => 0
    | .fixedDaily minute => fixedDailySyncEpoch cfg minute now,
    if 0 < retry.epoch ∧ validOfflineRetryEpoch now retry.epoch retry.nextSlot then retry.epoch else 0]

def sleepUntilNextSchedule (schedule : ActiveSchedule) (cfg : WakeConfig) (state : WakeState) (now : Nat) : WakeState :=
  if now = 0 then sleepPowerRecovery state now
  else
    let awake := { state with powerAttempt := 0 }
    let wake := (wakeCandidates schedule cfg state.retry now).foldl (considerWake now) 0
    if wake > now then goDeepSleepUntilEpoch awake now wake
    else
      let recovery := scheduleOfflineRecovery state.retry now 0 0
      let planned := { awake with retry := recovery.1 }
      if recovery.2 > now then goDeepSleepUntilEpoch planned now recovery.2
      else sleepPowerRecovery planned now

/-! ### One timer wake -/

/-- How the request for the schedule and its frames ends. A failure of an ACK before it is kept apart. -/
inductive Download where
  | complete
  | notReady (serverRetry nextSlot : Nat)
  | failed
  deriving DecidableEq

/-- Readings of the clock as seconds after the wake, and the outcomes a wake meets. `checked` looks for a
due slot; `loaded` follows the network session. -/
structure Cycle where
  decided : Nat
  checked : Nat
  loaded : Nat
  asleep : Nat
  wifi : Bool
  acked : Bool
  download : Download
  drawn : Bool
  ordered : decided ≤ checked ∧ checked ≤ loaded ∧ loaded ≤ asleep
  brief : asleep < 15 * 60

def networkWake (schedule : ActiveSchedule) (cfg : WakeConfig) (now : Nat) : Bool :=
  offlinePrefetchWake schedule cfg now || offlineFixedDailySyncDue schedule cfg now

/-- Load a formal frame and draw it; a drawn frame clears the retry state. -/
def displayFormalFrame (schedule : ActiveSchedule) (state : WakeState) (now : Nat) (drawn : Bool) : WakeState :=
  match loadOfflineScheduledLocalFrame schedule now with
  | none => state
  | some showAt =>
    { state with
      loads := (now, showAt) :: state.loads
      retry := if drawn then {} else state.retry }

/-- `downloadDailyPhotoBin` on a network wake and the display that follows it in `setup`. -/
def downloadDailyPhotoBin (schedule : ActiveSchedule) (state : WakeState) (cycle : Cycle) : WakeState :=
  if cycle.acked then
    let checked := state.clock + cycle.checked
    let loaded := state.clock + cycle.loaded
    let formalSlotDue := activeHasDueFormalSlot schedule checked
    let stageTomorrow := offlineNextSchedulePrefetchDue schedule checked && !formalSlotDue
    match cycle.download with
    | .complete =>
      -- a staged schedule for tomorrow leaves the retry state of today
      let prefetched := { state with retry := if stageTomorrow then state.retry else {} }
      if formalSlotDue then displayFormalFrame schedule prefetched loaded cycle.drawn else prefetched
    | .notReady serverRetry nextSlot =>
      { state with retry := (scheduleOfflineRecovery state.retry loaded serverRetry nextSlot).1 }
    | .failed => state
  else state

/-- `setup` from the wake decision to the call of `sleepUntilNextSchedule`. -/
def serveWake (schedule : ActiveSchedule) (cfg : WakeConfig) (state : WakeState) (cycle : Cycle) : WakeState :=
  let localCycle := displayFormalFrame schedule state (state.clock + cycle.loaded) cycle.drawn
  if networkWake schedule cfg (state.clock + cycle.decided) then
    if cycle.wifi then downloadDailyPhotoBin schedule state cycle
    else if activeHasDueFormalSlot schedule (state.clock + cycle.checked) then localCycle
    else state
  else localCycle

/-- One timer wake, up to the next one. -/
def wakeCycle (schedule : ActiveSchedule) (cfg : WakeConfig) (state : WakeState) (cycle : Cycle) : WakeState :=
  sleepUntilNextSchedule schedule cfg (serveWake schedule cfg state cycle) (state.clock + cycle.asleep)

end InkTime.Firmware
