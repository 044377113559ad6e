import InkTime.Library.Months
import InkTime.Schedule.Resolution

/-!
# Preparing offline days

`offline_prepare_plan` tells which days are due for preparation and when a device is to be visited next. The two are made by
one turn each through today and the days after it, and differ where today's deadline hides that tomorrow is due.
-/

namespace InkTime.Schedule

open Checked (require orError)
open Json (Value)
open WallClock (Zone Reading DateError minute day dayOf inCalendar inRange toUtc toLocal inRange_ok toLocal_ok)

structure PrepareCall where
  now : ℤ
  scheduleTimes : List (Option String)
  prefetchLeadMinutes : ℤ
  serverMarginMinutes : ℤ
  futurePrepareHourLocal : ℤ
  syncStrategy : Value
  syncTime : Value
  minimumGapMinutes : ℤ
  maximumSlots : Nat
  skipTargetDates : List String

structure OfflinePreparePlan where
  dueTargetDates : List ℤ
  nextDeadline : ℤ
  deriving DecidableEq, Repr

/-- `target + timedelta(days=1)` -/
def dateAfter (target : ℤ) : Except DateError ℤ := do
  require (inCalendar ((target + 1) * day)) .overflow
  return target + 1

namespace PrepareCall

variable (call : PrepareCall) (zone : Zone)

def skips (target : ℤ) : Bool := call.skipTargetDates.contains (Months.isoformat target)

def slotAt (slots : List String) (target : ℤ) (slot : String) : Except DateError ℤ := do
  let resolved ← resolvedSlotDatetimes zone target (slots.map some) call.minimumGapMinutes call.maximumSlots
  orError resolved[slots.idxOf slot]? (.value "list index out of range")

def technicalDeadline (slots : List String) : SyncStrategy × Option String → ℤ → Except DateError ℤ
  | (.fixedDaily, syncTime), target => do
    let reading ← localSlotDatetime zone target (syncTime.getD "")
    toUtc zone reading
  | (.firstDisplayLead, _), target => do
    let first ← call.slotAt zone slots target (slots.headD "")
    inRange (first - (call.prefetchLeadMinutes + call.serverMarginMinutes) * minute)

/-- The hour of a day from which the next day is prepared. -/
def handoff (target : ℤ) : Except DateError ℤ := do
  let reading ← localSlotDatetime zone target (Months.padded 2 call.futurePrepareHourLocal ++ ":00")
  toUtc zone reading

/-- `any(slot_at(target, slot) > local_now for slot in slots)` -/
def slotAhead (slots : List String) (target : ℤ) : Except DateError Bool :=
  slots.anyM fun slot => do
    let instant ← call.slotAt zone slots target slot
    return call.now < instant

def dueToday (slots : List String) (sync : SyncStrategy × Option String) (today : ℤ) : Except DateError (List ℤ) := do
  if call.skips today then return []
  let technical ← call.technicalDeadline zone slots sync today
  if technical ≤ call.now then
    let ahead ← call.slotAhead zone slots today
    return if ahead then [today] else []
  else return []

def dueTomorrow (slots : List String) (sync : SyncStrategy × Option String) (today tomorrow : ℤ) : Except DateError (List ℤ) := do
  if call.skips tomorrow then return []
  let handoff ← call.handoff zone today
  let technical ← call.technicalDeadline zone slots sync tomorrow
  return if min technical handoff ≤ call.now then [tomorrow] else []

/-- One turn of the loop over today and the two days after it; none where it goes on. -/
def deadlineOf (slots : List String) (sync : SyncStrategy × Option String) (today : ℤ) (offset : Nat) : Except DateError (Option ℤ) := do
  require (inCalendar ((today + offset) * day)) .overflow
  let target := today + offset
  if call.skips target then return none
  let technical ← call.technicalDeadline zone slots sync target
  if offset = 0 then
    if call.now < technical then return some technical
    let ahead ← call.slotAhead zone slots target
    return if ahead then some call.now else none
  else
    let handoff ← call.handoff zone (target - 1)
    let candidate := min technical handoff
    return some (if candidate ≤ call.now then call.now else candidate)

def orLater : Option ℤ → Except DateError ℤ
  | some deadline => .ok deadline
  | none => inRange (call.now + 15 * minute)

end PrepareCall

def offlinePreparePlan (zone : Zone) (call : PrepareCall) : Except DateError OfflinePreparePlan := do
  require (0 ≤ call.prefetchLeadMinutes && call.prefetchLeadMinutes ≤ 120) (.value "DEVICE-008 prefetch_lead_minutes 不合法")
  require (0 ≤ call.serverMarginMinutes && call.serverMarginMinutes ≤ 60) (.value "DEVICE-008 server_prefetch_margin_minutes 不合法")
  require (0 ≤ call.futurePrepareHourLocal && call.futurePrepareHourLocal ≤ 23)
    (.value "DEVICE-008 future_schedule_prepare_hour_local 不合法")
  let sync ← (normalizeSyncStrategy call.syncStrategy call.syncTime).mapError fun refused => .value refused.message
  let slots ← validated call.scheduleTimes (resolveOfflineScheduleMaxSlots (.int call.maximumSlots)) call.minimumGapMinutes
  let localNow ← toLocal zone call.now
  let today := dayOf localNow.wall
  let dueToday ← call.dueToday zone slots sync today
  let tomorrow ← dateAfter today
  let dueTomorrow ← call.dueTomorrow zone slots sync today tomorrow
  let found ← [0, 1, 2].findSomeM? (call.deadlineOf zone slots sync today)
  let nextDeadline ← call.orLater found
  return ⟨dueToday ++ dueTomorrow, nextDeadline⟩

/-! ### Days that are due -/

section

variable {zone : Zone} {call : PrepareCall} {slots : List String} {sync : SyncStrategy × Option String} {today target : ℤ}

/-- A day after today is ready to be prepared: its technical deadline or the handoff on the day before it has passed. -/
def ReadyFor (zone : Zone) (call : PrepareCall) (slots : List String) (sync : SyncStrategy × Option String) (target : ℤ) : Prop :=
  ∃ technical handoff, call.technicalDeadline zone slots sync target = .ok technical ∧ call.handoff zone (target - 1) = .ok handoff ∧
    min technical handoff ≤ call.now

/-- Today is over: its deadline has passed, and so have its slots. -/
def Over (zone : Zone) (call : PrepareCall) (slots : List String) (sync : SyncStrategy × Option String) (today : ℤ) : Prop :=
  ∃ technical, call.technicalDeadline zone slots sync today = .ok technical ∧ technical ≤ call.now ∧
    call.slotAhead zone slots today = .ok false

def Running (zone : Zone) (call : PrepareCall) (slots : List String) (sync : SyncStrategy × Option String) (today : ℤ) : Prop :=
  ∃ technical, call.technicalDeadline zone slots sync today = .ok technical ∧ technical ≤ call.now ∧
    call.slotAhead zone slots today = .ok true

def Ahead (zone : Zone) (call : PrepareCall) (slots : List String) (sync : SyncStrategy × Option String) (today : ℤ) : Prop :=
  ∃ technical, call.technicalDeadline zone slots sync today = .ok technical ∧ call.now < technical

lemma not_running_of_ahead (h : Ahead zone call slots sync today) : ¬ Running zone call slots sync today := by
  obtain ⟨technical, htechnical, hlt⟩ := h
  rintro ⟨technical', htechnical', hle, -⟩
  obtain rfl := Except.ok.inj (htechnical.symm.trans htechnical')
  exact not_lt.mpr hle hlt

lemma not_running_of_over (h : Over zone call slots sync today) : ¬ Running zone call slots sync today := by
  obtain ⟨-, -, -, hover⟩ := h
  rintro ⟨-, -, -, hahead⟩
  cases hover.symm.trans hahead

lemma not_ahead_of_over (h : Over zone call slots sync today) : ¬ Ahead zone call slots sync today := by
  obtain ⟨technical, htechnical, hle, -⟩ := h
  rintro ⟨technical', htechnical', hlt⟩
  obtain rfl := Except.ok.inj (htechnical.symm.trans htechnical')
  exact not_lt.mpr hle hlt

lemma dueToday_ok {due : List ℤ} (h : call.dueToday zone slots sync today = .ok due) :
    due ≠ [] ↔ call.skips today = false ∧ Running zone call slots sync today := by
  unfold PrepareCall.dueToday at h
  cases hskips : call.skips today with
  | true =>
    rw [if_pos hskips] at h
    obtain rfl := Except.ok.inj h
    simp
  | false =>
    rw [if_neg (by rw [hskips]; decide)] at h
    obtain ⟨technical, htechnical, h⟩ := Checked.bind_eq_ok.mp h
    by_cases hpassed : technical ≤ call.now
    · rw [if_pos hpassed] at h
      obtain ⟨ahead, hahead, h⟩ := Checked.bind_eq_ok.mp h
      obtain rfl := Except.ok.inj h
      cases ahead with
      | true => simpa using ⟨technical, htechnical, hpassed, hahead⟩
      | false => simpa using not_running_of_over ⟨technical, htechnical, hpassed, hahead⟩
    · rw [if_neg hpassed] at h
      obtain rfl := Except.ok.inj h
      simpa using not_running_of_ahead ⟨technical, htechnical, not_le.mp hpassed⟩

lemma readyFor_iff {technical handoff : ℤ} (htechnical : call.technicalDeadline zone slots sync target = .ok technical)
    (hhandoff : call.handoff zone (target - 1) = .ok handoff) :
    ReadyFor zone call slots sync target ↔ min technical handoff ≤ call.now := by
  constructor
  · rintro ⟨technical', handoff', htechnical', hhandoff', hle⟩
    obtain rfl := Except.ok.inj (htechnical.symm.trans htechnical')
    obtain rfl := Except.ok.inj (hhandoff.symm.trans hhandoff')
    exact hle
  · exact fun hle => ⟨technical, handoff, htechnical, hhandoff, hle⟩

lemma dueTomorrow_ok {due : List ℤ} (h : call.dueTomorrow zone slots sync today (today + 1) = .ok due) :
    due ≠ [] ↔ call.skips (today + 1) = false ∧ ReadyFor zone call slots sync (today + 1) := by
  unfold PrepareCall.dueTomorrow at h
  cases hskips : call.skips (today + 1) with
  | true =>
    rw [if_pos hskips] at h
    obtain rfl := Except.ok.inj h
    simp
  | false =>
    rw [if_neg (by rw [hskips]; decide)] at h
    obtain ⟨handoff, hhandoff, h⟩ := Checked.bind_eq_ok.mp h
    obtain ⟨technical, htechnical, h⟩ := Checked.bind_eq_ok.mp h
    obtain rfl := Except.ok.inj h
    have hday : call.handoff zone (today + 1 - 1) = .ok handoff := by
      rw [add_sub_cancel_right]
      exact hhandoff
    rw [readyFor_iff htechnical hday]
    by_cases hpassed : min technical handoff ≤ call.now
    · simp [hpassed]
    · simp [hpassed]

/-! ### The next deadline -/

/-- Today's turn ends the loop at its technical deadline, or at once, unless it is skipped or over. -/
lemma deadlineOf_today {found : Option ℤ} (h : call.deadlineOf zone slots sync today 0 = .ok found) :
    (found = none ∧ (call.skips today = true ∨ Over zone call slots sync today)) ∨
    (call.skips today = false ∧ ∃ deadline, found = some deadline ∧
      ((Ahead zone call slots sync today ∧ call.now < deadline) ∨ (Running zone call slots sync today ∧ deadline = call.now))) := by
  obtain ⟨_, -, h⟩ := Checked.bind_eq_ok.mp h
  rw [Nat.cast_zero, add_zero] at h
  cases hskips : call.skips today with
  | true =>
    dsimp only at h
    rw [if_pos hskips] at h
    exact Or.inl ⟨(Except.ok.inj h).symm, Or.inl rfl⟩
  | false =>
    dsimp only at h
    rw [if_neg (by rw [hskips]; decide)] at h
    obtain ⟨technical, htechnical, h⟩ := Checked.bind_eq_ok.mp h
    rw [if_pos rfl] at h
    by_cases hpassed : call.now < technical
    · rw [if_pos hpassed] at h
      exact Or.inr ⟨rfl, technical, (Except.ok.inj h).symm, Or.inl ⟨⟨technical, htechnical, hpassed⟩, hpassed⟩⟩
    · rw [if_neg hpassed] at h
      obtain ⟨ahead, hahead, h⟩ := Checked.bind_eq_ok.mp h
      have hfound := Except.ok.inj h
      cases ahead with
      | true => exact Or.inr ⟨rfl, call.now, hfound.symm, Or.inr ⟨⟨technical, htechnical, not_lt.mp hpassed, hahead⟩, rfl⟩⟩
      | false => exact Or.inl ⟨hfound.symm, Or.inr ⟨technical, htechnical, not_lt.mp hpassed, hahead⟩⟩

/-- The turn of a later day ends the loop unless the day is skipped. -/
lemma deadlineOf_later {offset : Nat} {found : Option ℤ} (hoffset : offset ≠ 0)
    (h : call.deadlineOf zone slots sync today offset = .ok found) :
    (found = none ∧ call.skips (today + offset) = true) ∨
    (call.skips (today + offset) = false ∧ ∃ deadline, found = some deadline ∧
      (deadline ≤ call.now ↔ ReadyFor zone call slots sync (today + offset))) := by
  obtain ⟨_, -, h⟩ := Checked.bind_eq_ok.mp h
  cases hskips : call.skips (today + offset) with
  | true =>
    dsimp only at h
    rw [if_pos hskips] at h
    exact Or.inl ⟨(Except.ok.inj h).symm, rfl⟩
  | false =>
    dsimp only at h
    rw [if_neg (by rw [hskips]; decide)] at h
    obtain ⟨technical, htechnical, h⟩ := Checked.bind_eq_ok.mp h
    rw [if_neg hoffset] at h
    obtain ⟨handoff, hhandoff, h⟩ := Checked.bind_eq_ok.mp h
    refine Or.inr ⟨rfl, _, (Except.ok.inj h).symm, ?_⟩
    rw [readyFor_iff htechnical hhandoff]
    by_cases hpassed : min technical handoff ≤ call.now
    · simp [hpassed]
    · simp [hpassed]

/-- Tomorrow is ready, but today's turn ends the loop at a deadline that is still ahead. -/
def HiddenByToday (zone : Zone) (call : PrepareCall) (slots : List String) (sync : SyncStrategy × Option String) (today : ℤ) : Prop :=
  call.skips today = false ∧ Ahead zone call slots sync today ∧
    call.skips (today + 1) = false ∧ ReadyFor zone call slots sync (today + 1)

/-- The loop ends at the third day, which is ready although tomorrow has not begun. -/
def WokenByThirdDay (zone : Zone) (call : PrepareCall) (slots : List String) (sync : SyncStrategy × Option String) (today : ℤ) : Prop :=
  (call.skips today = true ∨ Over zone call slots sync today) ∧ call.skips (today + 1) = true ∧
    call.skips (today + 2) = false ∧ ReadyFor zone call slots sync (today + 2)

/-- Whether the deadline that the loop finds has passed, or where it finds none the one in 15 minutes. -/
lemma nextDeadline_passed {found : Option ℤ} {deadline : ℤ}
    (h : [0, 1, 2].findSomeM? (call.deadlineOf zone slots sync today) = .ok found)
    (hdeadline : call.orLater found = .ok deadline) :
    deadline ≤ call.now ↔
      (call.skips today = false ∧ Running zone call slots sync today) ∨
      ((call.skips today = true ∨ Over zone call slots sync today) ∧
        ((call.skips (today + 1) = false ∧ ReadyFor zone call slots sync (today + 1)) ∨
          (call.skips (today + 1) = true ∧ call.skips (today + 2) = false ∧ ReadyFor zone call slots sync (today + 2)))) := by
  obtain ⟨first, hfirst, h⟩ := Checked.bind_eq_ok.mp h
  obtain ⟨rfl, hgone⟩ | ⟨hskips, reached, rfl, hreached⟩ := deadlineOf_today hfirst
  · have hrunning : ¬ (call.skips today = false ∧ Running zone call slots sync today) := by
      rintro ⟨hskips, hrunning⟩
      obtain hskipped | hover := hgone
      · rw [hskips] at hskipped
        cases hskipped
      · exact not_running_of_over hover hrunning
    obtain ⟨second, hsecond, h⟩ := Checked.bind_eq_ok.mp h
    obtain ⟨rfl, hskipped⟩ | ⟨hskips, reached, rfl, hreached⟩ := deadlineOf_later one_ne_zero hsecond
    · obtain ⟨third, hthird, h⟩ := Checked.bind_eq_ok.mp h
      rw [Nat.cast_one] at hskipped
      obtain ⟨rfl, hskipped'⟩ | ⟨hskips, reached, rfl, hreached⟩ := deadlineOf_later two_ne_zero hthird
      · obtain rfl := Except.ok.inj h
        obtain ⟨-, rfl⟩ := inRange_ok.mp hdeadline
        rw [Nat.cast_two] at hskipped'
        have : 0 < minute := by decide
        simp [hrunning, hskipped, hskipped', this]
      · obtain rfl := Except.ok.inj h
        obtain rfl := Except.ok.inj hdeadline
        rw [Nat.cast_two] at hskips hreached
        rw [hreached]
        simp [hrunning, hgone, hskipped, hskips]
    · obtain rfl := Except.ok.inj h
      obtain rfl := Except.ok.inj hdeadline
      rw [Nat.cast_one] at hskips hreached
      rw [hreached]
      simp [hrunning, hgone, hskips]
  · obtain rfl := Except.ok.inj h
    obtain rfl := Except.ok.inj hdeadline
    obtain ⟨hahead, hlater⟩ | ⟨hrunning, rfl⟩ := hreached
    · have hover : ¬ Over zone call slots sync today := fun hover => not_ahead_of_over hover hahead
      simp [hskips, not_running_of_ahead hahead, hover, hlater]
    · simp [hskips, hrunning]

/-- Something is due exactly when the next deadline has passed, but for a tomorrow that today hides and a third day that wakes. -/
theorem due_iff_deadline_passed {plan : OfflinePreparePlan}
    (hsync : normalizeSyncStrategy call.syncStrategy call.syncTime = .ok sync)
    (hslots : validated call.scheduleTimes (resolveOfflineScheduleMaxSlots (.int call.maximumSlots)) call.minimumGapMinutes = .ok slots)
    (h : offlinePreparePlan zone call = .ok plan) :
    (plan.dueTargetDates ≠ [] ↔ plan.nextDeadline ≤ call.now) ↔
      ¬ HiddenByToday zone call slots sync (dayOf (zone.clock call.now)) ∧
        ¬ WokenByThirdDay zone call slots sync (dayOf (zone.clock call.now)) := by
  obtain ⟨_, -, h⟩ := Checked.bind_eq_ok.mp h
  obtain ⟨_, -, h⟩ := Checked.bind_eq_ok.mp h
  obtain ⟨_, -, h⟩ := Checked.bind_eq_ok.mp h
  obtain ⟨sync', hsync', h⟩ := Checked.bind_eq_ok.mp h
  obtain ⟨slots', hslots', h⟩ := Checked.bind_eq_ok.mp h
  obtain ⟨localNow, hlocal, h⟩ := Checked.bind_eq_ok.mp h
  obtain ⟨dueToday, hdueToday, h⟩ := Checked.bind_eq_ok.mp h
  obtain ⟨tomorrow, htomorrow, h⟩ := Checked.bind_eq_ok.mp h
  obtain ⟨dueTomorrow, hdueTomorrow, h⟩ := Checked.bind_eq_ok.mp h
  obtain ⟨found, hfound, h⟩ := Checked.bind_eq_ok.mp h
  obtain ⟨deadline, hdeadline, hplan⟩ := Checked.bind_eq_ok.mp h
  obtain rfl := Except.ok.inj hplan
  rw [hsync] at hsync'
  obtain rfl := Except.ok.inj hsync'
  obtain rfl := Except.ok.inj (hslots.symm.trans hslots')
  obtain ⟨-, rfl⟩ := toLocal_ok.mp hlocal
  obtain ⟨_, -, htomorrow⟩ := Checked.bind_eq_ok.mp htomorrow
  obtain rfl := Except.ok.inj htomorrow
  have hdue : dueToday ++ dueTomorrow ≠ [] ↔ dueToday ≠ [] ∨ dueTomorrow ≠ [] := by
    rw [ne_eq, List.append_eq_nil_iff, not_and_or]
  change (dueToday ++ dueTomorrow ≠ [] ↔ deadline ≤ call.now) ↔ _
  rw [hdue, dueToday_ok hdueToday, dueTomorrow_ok hdueTomorrow, nextDeadline_passed hfound hdeadline]
  set today := dayOf (zone.ofUtc call.now).wall
  change _ ↔ ¬ HiddenByToday zone call slots sync today ∧ ¬ WokenByThirdDay zone call slots sync today
  unfold HiddenByToday WokenByThirdDay
  obtain ⟨first, hfirst, -⟩ := Checked.bind_eq_ok.mp hfound
  obtain ⟨-, hskipped | hover⟩ | ⟨hskips, -, -, ⟨hahead, -⟩ | ⟨hrunning, -⟩⟩ := deadlineOf_today hfirst
  · cases htomorrow : call.skips (today + 1) with
    | true => simp [hskipped]
    | false => simp [hskipped]
  · have hrunning := not_running_of_over hover
    have hahead := not_ahead_of_over hover
    cases htomorrow : call.skips (today + 1) with
    | true => simp [hover, hrunning, hahead]
    | false => simp [hover, hrunning, hahead]
  · have hrunning := not_running_of_ahead hahead
    have hover : ¬ Over zone call slots sync today := fun hover => not_ahead_of_over hover hahead
    cases htomorrow : call.skips (today + 1) with
    | true => simp [hskips, hahead, hrunning, hover]
    | false => simp [hskips, hahead, hrunning, hover]
  · have hahead : ¬ Ahead zone call slots sync today := fun hahead => not_running_of_ahead hahead hrunning
    have hover : ¬ Over zone call slots sync today := fun hover => not_running_of_over hover hrunning
    simp [hskips, hrunning, hahead, hover]

end

/-- Calls with the defaults of the scheduler. -/
def defaultCall (now : ℤ) (scheduleTimes : List (Option String)) : PrepareCall where
  now := now
  scheduleTimes := scheduleTimes
  prefetchLeadMinutes := 5
  serverMarginMinutes := 15
  futurePrepareHourLocal := 8
  syncStrategy := .null
  syncTime := .null
  minimumGapMinutes := 60
  maximumSlots := 24
  skipTargetDates := []

/-- At 21:00, with a slot to come, both days are due at once. -/
theorem due_iff_deadline_passed_evening :
    ([738885, 738886] ≠ ([] : List ℤ) ↔ 738885 * day + 1260 * minute ≤ 738885 * day + 1260 * minute) ↔
      ¬ HiddenByToday Zone.utc (defaultCall (738885 * day + 1260 * minute) [some "08:00", some "22:00"]) ["08:00", "22:00"]
          (.firstDisplayLead, none) 738885 ∧
        ¬ WokenByThirdDay Zone.utc (defaultCall (738885 * day + 1260 * minute) [some "08:00", some "22:00"]) ["08:00", "22:00"]
          (.firstDisplayLead, none) 738885 := by
  have hplan : offlinePreparePlan Zone.utc (defaultCall (738885 * day + 1260 * minute) [some "08:00", some "22:00"]) =
      .ok ⟨[738885, 738886], 738885 * day + 1260 * minute⟩ := by decide +kernel
  exact due_iff_deadline_passed (by decide +kernel) (by decide +kernel) hplan

/-- At 10:00, two hours after the handoff, tomorrow is due and the next deadline is today's at 20:40. -/
theorem tomorrow_hidden_by_today : ∃ plan,
    offlinePreparePlan Zone.utc (defaultCall (738885 * day + 600 * minute) [some "21:00"]) = .ok plan ∧
      plan = ⟨[738886], 738885 * day + 1240 * minute⟩ ∧ ¬ (plan.dueTargetDates ≠ [] ↔ plan.nextDeadline ≤ 738885 * day + 600 * minute) :=
  ⟨⟨[738886], 738885 * day + 1240 * minute⟩, by decide +kernel, rfl, by decide⟩

end InkTime.Schedule
