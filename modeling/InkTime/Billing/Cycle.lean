import InkTime.Library.Months
import InkTime.Library.WallClock

/-!
# Billing cycles

`billing_cycle`: the renewals of an anchor date come round every few months, on the anchor's day or on the last day of a
shorter month, at midnight on the zone's clock. The cycle of an instant is found by what the clock reads.
-/

namespace InkTime.Billing

open Checked (require)
open Months (monthOf firstDay monthLength dayInMonth yearOf)
open WallClock (Zone Reading DateError day dayOf inCalendar inRange toUtc toLocal inRange_ok toLocal_ok)

structure Cycle where
  start : ℤ
  finish : ℤ
  dayStart : ℤ
  dayEnd : ℤ
  deriving DecidableEq, Repr

/-- The midnight of a renewal, `offset` cycles after the anchor. -/
def boundaryWall (renewal months offset : ℤ) : ℤ :=
  (firstDay (monthOf renewal + offset * months) +
    min (dayInMonth renewal) (monthLength (monthOf renewal + offset * months)) - 1) * day

def boundary (renewal months offset : ℤ) : Except DateError Reading := do
  let year := yearOf (monthOf renewal + offset * months)
  require (1 ≤ year && year ≤ 9999) (.value s!"year {year} is out of range")
  return ⟨boundaryWall renewal months offset, false⟩

/-- `renewal` is the day of `date.fromisoformat(anchor)`. -/
def billingCycle (zone : Zone) (renewal months now : ℤ) : Except DateError Cycle := do
  require (1 ≤ months && months ≤ 12) (.value "週期須為 1–12 個月")
  let localNow ← toLocal zone now
  let estimate := (monthOf (dayOf localNow.wall) - monthOf renewal) / months
  let renewed ← boundary renewal months estimate
  let index := if localNow.wall < renewed.wall then estimate - 1 else estimate
  let midnight := dayOf localNow.wall * day
  let start ← toUtc zone (← boundary renewal months index)
  let finish ← toUtc zone (← boundary renewal months (index + 1))
  let dayStart ← toUtc zone ⟨midnight, localNow.fold⟩
  require (inCalendar (midnight + day)) .overflow
  let dayEnd ← toUtc zone ⟨midnight + day, false⟩
  return ⟨start, finish, dayStart, dayEnd⟩

/-! ### Renewals -/

variable {zone : Zone} {months : ℤ}

/-- Renewals are at least 28 days apart. -/
lemma boundaryWall_succ (renewal : ℤ) (hmonths : 1 ≤ months) (offset : ℤ) :
    boundaryWall renewal months offset + 28 * day ≤ boundaryWall renewal months (offset + 1) := by
  unfold boundaryWall
  set month := monthOf renewal + offset * months with hmonth
  have hnext : monthOf renewal + (offset + 1) * months = month + months := by rw [hmonth]; ring
  rw [hnext]
  have hthis := Months.monthLength_bounds month
  have hthat := Months.monthLength_bounds (month + months)
  have hrenewal := Months.dayInMonth_bounds renewal
  have hfirst := Months.firstDay_succ month
  have hdays : firstDay month + min (dayInMonth renewal) (monthLength month) + 28 ≤
      firstDay (month + months) + min (dayInMonth renewal) (monthLength (month + months)) := by
    by_cases hone : months = 1
    · rw [hone] at hthat ⊢
      omega
    · have hmono := Months.firstDay_strictMono.monotone (show month + 1 + 1 ≤ month + months by omega)
      have hsecond := Months.firstDay_succ (month + 1)
      have := Months.monthLength_bounds (month + 1)
      omega
  unfold day
  linarith

lemma boundaryWall_strictMono (renewal : ℤ) (hmonths : 1 ≤ months) : StrictMono (boundaryWall renewal months) :=
  strictMono_int_of_lt_succ fun offset => by
    have := boundaryWall_succ renewal hmonths offset
    unfold day at this
    linarith

/-- The instant of a renewal. -/
def boundaryInstant (zone : Zone) (renewal months offset : ℤ) : ℤ := zone.toUtc ⟨boundaryWall renewal months offset, false⟩

lemma boundaryInstant_strictMono (zone : Zone) (renewal : ℤ) (hmonths : 1 ≤ months) : StrictMono (boundaryInstant zone renewal months) :=
  strictMono_int_of_lt_succ fun offset => by
    have hwall := boundaryWall_succ renewal hmonths offset
    have hthis : boundaryInstant zone renewal months offset < boundaryWall renewal months offset + day := (Zone.toUtc_bounds _).2
    have hnext : boundaryWall renewal months (offset + 1) - day < boundaryInstant zone renewal months (offset + 1) :=
      (Zone.toUtc_bounds _).1
    unfold day at *
    linarith

lemma boundary_ok {renewal offset : ℤ} {reading : Reading} (h : boundary renewal months offset = .ok reading) :
    reading = ⟨boundaryWall renewal months offset, false⟩ := by
  obtain ⟨_, -, h⟩ := Checked.bind_eq_ok.mp h
  exact (Except.ok.inj h).symm

/-- A renewal falls into its month. -/
lemma boundaryWall_month (renewal months offset : ℤ) :
    firstDay (monthOf renewal + offset * months) * day ≤ boundaryWall renewal months offset ∧
      boundaryWall renewal months offset < firstDay (monthOf renewal + offset * months + 1) * day := by
  have hlength := Months.monthLength_bounds (monthOf renewal + offset * months)
  have hrenewal := Months.dayInMonth_bounds renewal
  rw [Months.firstDay_succ]
  unfold boundaryWall day
  omega

/-- The renewal that the estimate is corrected to. -/
def cycleIndex (renewal months wall : ℤ) : ℤ :=
  let estimate := (monthOf (dayOf wall) - monthOf renewal) / months
  if wall < boundaryWall renewal months estimate then estimate - 1 else estimate

/-- It is the last one that the clock has reached. -/
lemma cycleIndex_spec (renewal wall : ℤ) (hmonths : 1 ≤ months) :
    boundaryWall renewal months (cycleIndex renewal months wall) ≤ wall ∧
      wall < boundaryWall renewal months (cycleIndex renewal months wall + 1) := by
  unfold cycleIndex
  set estimate := (monthOf (dayOf wall) - monthOf renewal) / months with hestimate
  have hlow : monthOf renewal + estimate * months ≤ monthOf (dayOf wall) := by
    have := Int.ediv_mul_le (monthOf (dayOf wall) - monthOf renewal) (show months ≠ 0 by omega)
    rw [hestimate]
    linarith
  have hhigh : monthOf (dayOf wall) < monthOf renewal + (estimate + 1) * months := by
    have := Int.lt_ediv_add_one_mul_self (monthOf (dayOf wall) - monthOf renewal) (show 0 < months by omega)
    rw [hestimate]
    linarith
  have hmonth := Months.monthOf_spec (dayOf wall)
  have hday : dayOf wall * day ≤ wall ∧ wall < (dayOf wall + 1) * day := by
    unfold dayOf day
    omega
  dsimp only
  by_cases hearly : wall < boundaryWall renewal months estimate
  · rw [if_pos hearly, sub_add_cancel]
    refine ⟨?_, hearly⟩
    -- the renewal before falls into an earlier month than the clock's
    have hbefore := (boundaryWall_month renewal months (estimate - 1)).2
    have hle : monthOf renewal + (estimate - 1) * months + 1 ≤ monthOf (dayOf wall) := by
      have : (estimate - 1) * months = estimate * months - months := by ring
      omega
    have := Months.firstDay_strictMono.monotone hle
    unfold day at *
    omega
  · rw [if_neg hearly]
    refine ⟨not_lt.mp hearly, ?_⟩
    have hnext := (boundaryWall_month renewal months (estimate + 1)).1
    have hle : monthOf (dayOf wall) + 1 ≤ monthOf renewal + (estimate + 1) * months := by omega
    have := Months.firstDay_strictMono.monotone hle
    unfold day at *
    omega

/-- What a cycle that was found is made of. -/
theorem billingCycle_ok {renewal now : ℤ} {cycle : Cycle} (h : billingCycle zone renewal months now = .ok cycle) :
    1 ≤ months ∧ ∃ index, boundaryWall renewal months index ≤ zone.clock now ∧
      zone.clock now < boundaryWall renewal months (index + 1) ∧
      cycle.start = boundaryInstant zone renewal months index ∧ cycle.finish = boundaryInstant zone renewal months (index + 1) := by
  obtain ⟨_, hmonths, h⟩ := Checked.bind_eq_ok.mp h
  obtain ⟨localNow, hlocal, h⟩ := Checked.bind_eq_ok.mp h
  obtain ⟨renewed, hrenewed, h⟩ := Checked.bind_eq_ok.mp h
  obtain ⟨first, hfirst, h⟩ := Checked.bind_eq_ok.mp h
  obtain ⟨start, hstart, h⟩ := Checked.bind_eq_ok.mp h
  obtain ⟨last, hlast, h⟩ := Checked.bind_eq_ok.mp h
  obtain ⟨finish, hfinish, h⟩ := Checked.bind_eq_ok.mp h
  obtain ⟨dayStart, -, h⟩ := Checked.bind_eq_ok.mp h
  obtain ⟨_, -, h⟩ := Checked.bind_eq_ok.mp h
  obtain ⟨dayEnd, -, h⟩ := Checked.bind_eq_ok.mp h
  have hcycle := Except.ok.inj h
  have hmonths := Checked.require_eq_ok.mp hmonths
  simp only [Bool.and_eq_true, decide_eq_true_eq] at hmonths
  obtain ⟨-, rfl⟩ := toLocal_ok.mp hlocal
  obtain rfl := boundary_ok hrenewed
  obtain rfl := boundary_ok hfirst
  obtain rfl := boundary_ok hlast
  obtain ⟨-, rfl⟩ := inRange_ok.mp hstart
  obtain ⟨-, rfl⟩ := inRange_ok.mp hfinish
  obtain ⟨hreached, hahead⟩ := cycleIndex_spec renewal (zone.clock now) hmonths.1
  exact ⟨hmonths.1, cycleIndex renewal months (zone.clock now), hreached, hahead, by rw [← hcycle]; rfl, by rw [← hcycle]; rfl⟩

/-! ### Tiles -/

/-- At an instant the clock is past the same midnights of renewals as the instant itself. -/
def ClockAgrees (zone : Zone) (renewal months now : ℤ) : Prop :=
  ∀ offset, boundaryWall renewal months offset ≤ zone.clock now ↔ boundaryInstant zone renewal months offset ≤ now

variable {renewal : ℤ}

/-- The cycle of an instant holds it exactly where the clock agrees with the instant. -/
theorem cycle_holds_iff {now : ℤ} {cycle : Cycle} (h : billingCycle zone renewal months now = .ok cycle) :
    (cycle.start ≤ now ∧ now < cycle.finish) ↔ ClockAgrees zone renewal months now := by
  obtain ⟨hmonths, index, hreached, hahead, hstart, hfinish⟩ := billingCycle_ok h
  have hwall := boundaryWall_strictMono renewal hmonths
  have hinstant := boundaryInstant_strictMono zone renewal hmonths
  rw [hstart, hfinish]
  constructor
  · rintro ⟨hfrom, huntil⟩ offset
    constructor
    · intro hclock
      have hle := hwall.lt_iff_lt.mp (lt_of_le_of_lt hclock hahead)
      exact le_trans (hinstant.monotone (by omega)) hfrom
    · intro hnow
      have hle := hinstant.lt_iff_lt.mp (lt_of_le_of_lt hnow huntil)
      exact le_trans (hwall.monotone (by omega)) hreached
  · intro hagrees
    exact ⟨(hagrees index).mp hreached, not_le.mp fun hle => not_le.mpr hahead ((hagrees (index + 1)).mpr hle)⟩

/-- The cycles of any two instants are one cycle or apart. -/
theorem cycles_apart {now other : ℤ} {cycle cycle' : Cycle} (h : billingCycle zone renewal months now = .ok cycle)
    (h' : billingCycle zone renewal months other = .ok cycle') :
    (cycle.start = cycle'.start ∧ cycle.finish = cycle'.finish) ∨ cycle.finish ≤ cycle'.start ∨ cycle'.finish ≤ cycle.start := by
  obtain ⟨hmonths, index, -, -, hstart, hfinish⟩ := billingCycle_ok h
  obtain ⟨-, index', -, -, hstart', hfinish'⟩ := billingCycle_ok h'
  have hinstant := boundaryInstant_strictMono zone renewal hmonths
  rw [hstart, hfinish, hstart', hfinish']
  obtain hlt | rfl | hgt := lt_trichotomy index index'
  · exact Or.inr (Or.inl (hinstant.monotone (by omega)))
  · exact Or.inl ⟨rfl, rfl⟩
  · exact Or.inr (Or.inr (hinstant.monotone (by omega)))

/-- An instant in two cycles has one: so the cycle of an end starts there, where that end is in its cycle. -/
theorem finish_starts {now : ℤ} {cycle next : Cycle} (h : billingCycle zone renewal months now = .ok cycle)
    (hnext : billingCycle zone renewal months cycle.finish = .ok next)
    (hheld : next.start ≤ cycle.finish ∧ cycle.finish < next.finish) : next.start = cycle.finish := by
  obtain ⟨hmonths, index, -, -, -, hfinish⟩ := billingCycle_ok h
  obtain ⟨-, index', -, -, hstart', hfinish'⟩ := billingCycle_ok hnext
  have hinstant := boundaryInstant_strictMono zone renewal hmonths
  rw [hstart', hfinish', hfinish] at hheld
  have hle := hinstant.le_iff_le.mp hheld.1
  have hlt := hinstant.lt_iff_lt.mp hheld.2
  rw [hstart', hfinish, show index' = index + 1 by omega]

/-- Cycles that tile the time: each holds its instant, runs from one renewal to the next, is apart from any other, and is followed
by the cycle of its end. -/
structure Tiles (zone : Zone) (renewal months : ℤ) : Prop where
  holds : ∀ now cycle, billingCycle zone renewal months now = .ok cycle → cycle.start ≤ now ∧ now < cycle.finish
  whole : ∀ now cycle, billingCycle zone renewal months now = .ok cycle →
    ∃ index, cycle.start = boundaryInstant zone renewal months index ∧ cycle.finish = boundaryInstant zone renewal months (index + 1)
  apart : ∀ now other cycle cycle', billingCycle zone renewal months now = .ok cycle →
    billingCycle zone renewal months other = .ok cycle' →
    (cycle.start = cycle'.start ∧ cycle.finish = cycle'.finish) ∨ cycle.finish ≤ cycle'.start ∨ cycle'.finish ≤ cycle.start
  follows : ∀ now cycle next, billingCycle zone renewal months now = .ok cycle →
    billingCycle zone renewal months cycle.finish = .ok next → next.start = cycle.finish

/-- The cycles tile the time exactly where the clock agrees with every instant that has a cycle. -/
theorem cycles_tile_iff (zone : Zone) (renewal months : ℤ) :
    Tiles zone renewal months ↔
      ∀ now cycle, billingCycle zone renewal months now = .ok cycle → ClockAgrees zone renewal months now := by
  constructor
  · intro htiles now cycle h
    exact (cycle_holds_iff h).mp (htiles.holds now cycle h)
  · intro hagrees
    have hholds : ∀ now cycle, billingCycle zone renewal months now = .ok cycle → cycle.start ≤ now ∧ now < cycle.finish :=
      fun now cycle h => (cycle_holds_iff h).mpr (hagrees now cycle h)
    constructor
    · exact hholds
    · intro now cycle h
      obtain ⟨-, index, -, -, hstart, hfinish⟩ := billingCycle_ok h
      exact ⟨index, hstart, hfinish⟩
    · exact fun now other cycle cycle' h h' => cycles_apart h h'
    · exact fun now cycle next h hnext => finish_starts h hnext (hholds _ _ hnext)

/-- Newfoundland on 2010-11-07: at 00:01 the clock is turned back to 23:01. -/
def newfoundland : Zone where
  initial := -150 * 60000000
  transitions := [(734082 * day + 151 * 60000000, -210 * 60000000)]
  ordered := by decide
  bounded := by decide

/-- Ten minutes after the renewal at midnight of 2010-11-07 the cycle that has ended is found again. -/
theorem ended_cycle_found_again : ∃ cycle, billingCycle newfoundland 734082 1 (734082 * day + 160 * 60000000) = .ok cycle ∧
    cycle.finish < 734082 * day + 160 * 60000000 ∧ ¬ Tiles newfoundland 734082 1 := by
  obtain ⟨cycle, hcycle, hended⟩ : ∃ cycle, billingCycle newfoundland 734082 1 (734082 * day + 160 * 60000000) = .ok cycle ∧
      cycle.finish < 734082 * day + 160 * 60000000 := by
    refine ⟨⟨734051 * day + 150 * 60000000, 734082 * day + 150 * 60000000, 734081 * day + 150 * 60000000,
      734082 * day + 150 * 60000000⟩, by decide +kernel, by decide⟩
  exact ⟨cycle, hcycle, hended, fun htiles => not_lt.mpr (le_of_lt hended) (htiles.holds _ _ hcycle).2⟩

end InkTime.Billing
