import InkTime.Library.WallClock
import InkTime.Schedule.Rules

/-!
# The instants of a day's slots

`local_slot_datetime`, `resolved_slot_datetimes` and `slot_deadlines`. A date is a day counted from the first day of the
year 1; an aware datetime in UTC is its instant, and one in the device's zone is a reading of the zone's clock.
-/

namespace InkTime.Schedule

open Checked (require orError)
open WallClock (Zone Reading DateError day minute dayOf inCalendar inRange toUtc toLocal inRange_ok toLocal_ok)

/-! ### Slots of a day -/

/-- `min(readings, key=lambda value: value.astimezone(timezone.utc))` -/
def earliest (zone : Zone) : List Reading → Option Reading
  | [] => none
  | first :: rest => some (rest.foldl (fun best other => if zone.toUtc other < zone.toUtc best then other else best) first)

/-- The reading with a fold, and what it is read back as. -/
def roundTrip (zone : Zone) (naive : ℤ) (fold : Bool) : Except DateError (Reading × Reading) := do
  let instant ← toUtc zone ⟨naive, fold⟩
  let back ← toLocal zone instant
  return (⟨naive, fold⟩, back)

/-- `datetime.combine(target_date, time(hour, minute))` -/
def wallOf (target : ℤ) (minutes : Nat) : ℤ := target * day + minutes * minute

def localSlotDatetime (zone : Zone) (target : ℤ) (slot : String) : Except DateError Reading := do
  let minutes ← orError (scheduleMinutes slot) (.value "DEVICE-008 時刻格式錯誤")
  let naive := wallOf target minutes
  let first ← roundTrip zone naive false
  let second ← roundTrip zone naive true
  let exact := ([first, second].filter fun trip => trip.2.wall == naive).map Prod.fst
  let normalizedForward := ([first, second].filter fun trip => naive < trip.2.wall).map Prod.snd
  match earliest zone exact, earliest zone normalizedForward with
  | some reading, _ => return reading
  | none, some reading => return reading
  | none, none => .error (.value "DEVICE-008 local slot 無法正規化為有效 timezone epoch")

/-- The instant that a slot is put off to where the slot before it is too close. -/
def deferred (minimumGapMinutes : Int) (result : List ℤ) (instant : ℤ) : Except DateError ℤ :=
  match result.getLast? with
  | none => .ok instant
  | some previous => do
    let next ← inRange (previous + minimumGapMinutes * minute)
    return max instant next

/-- One turn of the loop over the schedule. -/
def resolveSlot (zone : Zone) (target : ℤ) (minimumGapMinutes : Int) (result : List ℤ) (slot : String) :
    Except DateError (List ℤ) := do
  let reading ← localSlotDatetime zone target slot
  let resolved ← toUtc zone reading
  let instant ← deferred minimumGapMinutes result resolved
  let back ← toLocal zone instant
  require (dayOf back.wall == target) (.value "DEVICE-008 DST 正規化超出目標日期；請調整該日排程")
  return result ++ [instant]

def validated (values : List (Option String)) (maximum : Nat) (minimumGapMinutes : Int) : Except DateError (List String) :=
  (validateOfflineSchedule values maximum minimumGapMinutes).mapError fun refused => .value refused.message

def resolvedSlotDatetimes (zone : Zone) (target : ℤ) (values : List (Option String)) (minimumGapMinutes : Int)
    (maximumSlots : Nat) : Except DateError (List ℤ) := do
  let schedule ← validated values maximumSlots minimumGapMinutes
  schedule.foldlM (resolveSlot zone target minimumGapMinutes) []

def slotDeadlines (zone : Zone) (target : ℤ) (values : List (Option String)) (graceMinutes minimumGapMinutes : Int)
    (maximumSlots : Nat) : Except DateError (List ℤ) := do
  require (0 ≤ graceMinutes && graceMinutes ≤ 1440) (.value "DEVICE-008 slot deadline 寬限分鐘必須介於 0 到 1440")
  let schedule ← validated values (resolveOfflineScheduleMaxSlots (.int maximumSlots)) minimumGapMinutes
  let starts ← resolvedSlotDatetimes zone target (schedule.map some) minimumGapMinutes maximumSlots
  require (inCalendar ((target + 1) * day)) .overflow
  let nextDay ← resolvedSlotDatetimes zone (target + 1) (schedule.map some) minimumGapMinutes maximumSlots
  let firstNextDay ← orError nextDay.head? .overflow
  (starts.tail ++ [firstNextDay]).mapM fun nextStart => inRange (nextStart + graceMinutes * minute)

/-! ### Valid schedules -/

lemma decimal_lt {c : Char} {digit : Nat} (h : decimal c = some digit) : digit < 10 := by
  unfold decimal at h
  obtain ⟨start, hstart, rfl⟩ := Option.map_eq_some_iff.mp h
  have := List.find?_some hstart
  simp only [Bool.and_eq_true, decide_eq_true_eq] at this
  omega

lemma decimal_of_ascii {c : Char} {digit : Nat} (hlow : 0x30 ≤ c.toNat) (hhigh : c.toNat < 0x30 + 10)
    (h : decimal c = some digit) : digit + 0x30 = c.toNat := by
  obtain ⟨rest, hrest⟩ : ∃ rest, decimalZeros = 0x30 :: rest := ⟨_, rfl⟩
  unfold decimal at h
  rw [hrest, List.find?_cons] at h
  simp only [hlow, hhigh, decide_true, Bool.and_self, Option.map_some, Option.some.injEq] at h
  omega

lemma scheduleMinutes_lt {text : String} {minutes : Nat} (h : scheduleMinutes text = some minutes) : minutes < 1440 := by
  unfold scheduleMinutes at h
  split at h
  · next tens ones minuteTens minuteOnes _ =>
    have hminutes : ∀ hours < 24, (if '0' ≤ minuteTens ∧ minuteTens ≤ '5' then do
          some (hours * 60 + ((decimal minuteTens).getD 0 * 10 + (← decimal minuteOnes)))
        else none) = some minutes → minutes < 1440 := by
      intro hours hhours hsome
      split at hsome
      · next htens =>
        obtain ⟨digit, hdigit, hsome⟩ := Option.bind_eq_some_iff.mp hsome
        obtain rfl := Option.some.inj hsome
        have hones := decimal_lt hdigit
        have htenth : (decimal minuteTens).getD 0 ≤ 5 := by
          cases hdecimal : decimal minuteTens with
          | none => exact Nat.zero_le 5
          | some tenth =>
            have hfive : minuteTens.toNat ≤ 0x35 := htens.2
            have htenth := decimal_of_ascii htens.1 (by omega) hdecimal
            rw [Option.getD_some]
            omega
        omega
      · cases hsome
    dsimp only at h
    split at h
    · obtain ⟨hours, hhours, hrest⟩ := Option.bind_eq_some_iff.mp h
      have := decimal_lt hhours
      exact hminutes hours (by omega) hrest
    split at h
    · obtain ⟨hours, hhours, hrest⟩ := Option.bind_eq_some_iff.mp h
      obtain ⟨digit, hdigit, rfl⟩ := Option.map_eq_some_iff.mp hhours
      have := decimal_lt hdigit
      exact hminutes _ (by omega) hrest
    split at h
    · next hones =>
      obtain ⟨hours, hhours, hrest⟩ := Option.bind_eq_some_iff.mp h
      obtain ⟨digit, hdigit, rfl⟩ := Option.map_eq_some_iff.mp hhours
      have hthree : ones.toNat ≤ 0x33 := hones.2.2
      have hdecimal := decimal_of_ascii hones.2.1 (by omega) hdigit
      exact hminutes _ (by omega) hrest
    · cases h
  · cases h

def minutesOf (slot : String) : Nat := (scheduleMinutes slot).getD 0

/-- What a validated schedule is: times of day, each at least the gap after the one before it, and so around the day. -/
structure Valid (minimumGapMinutes : ℤ) (schedule : List String) : Prop where
  positive : 0 < minimumGapMinutes
  nonempty : schedule ≠ []
  times : ∀ slot ∈ schedule, scheduleMinutes slot = some (minutesOf slot)
  apart : schedule.Pairwise fun first second => (minutesOf first : ℤ) + minimumGapMinutes ≤ minutesOf second

lemma pairwise_of_gaps {gap : ℤ} {minutes : List Nat} (hgap : 0 < gap)
    (h : ∀ step ∈ (minutes.zip minutes.tail).map (fun pair => (pair.2 : ℤ) - pair.1), gap ≤ step) :
    minutes.Pairwise fun first second : Nat => (first : ℤ) + gap ≤ second := by
  induction minutes with
  | nil => exact List.Pairwise.nil
  | cons first rest ih =>
    cases rest with
    | nil => exact List.pairwise_singleton _ _
    | cons second rest =>
      have hrest := ih fun step hstep => h step (by
        simp only [List.tail_cons, List.zip_cons_cons, List.map_cons] at hstep ⊢
        exact List.mem_cons_of_mem _ hstep)
      have hfirst := h ((second : ℤ) - first) (by
        simp only [List.tail_cons, List.zip_cons_cons, List.map_cons]
        exact List.mem_cons_self)
      refine List.pairwise_cons.mpr ⟨?_, hrest⟩
      intro other hother
      obtain rfl | hother := List.mem_cons.mp hother
      · linarith
      · have := (List.pairwise_cons.mp hrest).1 other hother
        linarith

lemma length_of_mapM {α β : Type} {f : α → Option β} {items : List α} {results : List β} (h : items.mapM f = some results) :
    results.length = items.length := by
  induction items generalizing results with
  | nil =>
    obtain rfl := Option.some.inj h
    rfl
  | cons item rest ih =>
    rw [List.mapM_cons] at h
    obtain ⟨first, -, h⟩ := Option.bind_eq_some_iff.mp h
    obtain ⟨others, hothers, h⟩ := Option.bind_eq_some_iff.mp h
    obtain rfl := Option.some.inj h
    rw [List.length_cons, List.length_cons, ih hothers]

lemma filterMap_scheduleMinutes {slots : List String} (h : slots.all isTime = true) :
    slots.filterMap scheduleMinutes = slots.map minutesOf := by
  rw [List.all_eq_true] at h
  induction slots with
  | nil => rfl
  | cons slot rest ih =>
    obtain ⟨minutes, hminutes⟩ := Option.isSome_iff_exists.mp (h slot List.mem_cons_self)
    rw [List.filterMap_cons_some hminutes, List.map_cons, ih fun other hother => h other (List.mem_cons_of_mem _ hother)]
    unfold minutesOf
    rw [hminutes, Option.getD_some]

/-- What a validated schedule is made of. -/
lemma validated_sorted {values : List (Option String)} {maximum : Nat} {minimumGapMinutes : ℤ} {schedule : List String}
    (h : validated values maximum minimumGapMinutes = .ok schedule) :
    ∃ normalized, values.mapM (fun value => value.map Texts.strip) = some normalized ∧
      schedule = normalized.insertionSort (fun first second => first ≤ second) ∧ 1 ≤ values.length ∧ 30 ≤ minimumGapMinutes ∧
      normalized.all isTime = true ∧
      (gaps (schedule.filterMap scheduleMinutes)).all (fun gap => decide (minimumGapMinutes ≤ gap)) = true := by
  have hvalid : validateOfflineSchedule values maximum minimumGapMinutes = .ok schedule := by
    unfold validated at h
    cases hresult : validateOfflineSchedule values maximum minimumGapMinutes with
    | error refused => rw [hresult] at h; cases h
    | ok ordered => rw [hresult] at h; cases h; rfl
  obtain ⟨_, hlength, hvalid⟩ := Checked.bind_eq_ok.mp hvalid
  obtain ⟨_, hgap, hvalid⟩ := Checked.bind_eq_ok.mp hvalid
  obtain ⟨normalized, hnormalized, hvalid⟩ := Checked.bind_eq_ok.mp hvalid
  obtain ⟨_, htimes, hvalid⟩ := Checked.bind_eq_ok.mp hvalid
  obtain ⟨_, -, hvalid⟩ := Checked.bind_eq_ok.mp hvalid
  obtain ⟨_, hgaps, hvalid⟩ := Checked.bind_eq_ok.mp hvalid
  rw [Checked.require_eq_ok] at hlength hgap htimes hgaps
  simp only [Bool.and_eq_true, decide_eq_true_eq] at hlength hgap
  obtain rfl := Except.ok.inj hvalid
  exact ⟨normalized, Checked.orError_eq_ok.mp hnormalized, rfl, hlength.1, hgap.1, htimes, hgaps⟩

/-- The maximum decides only whether a schedule is refused. -/
lemma validated_maximum {values : List (Option String)} {maximum maximum' : Nat} {minimumGapMinutes : ℤ}
    {schedule schedule' : List String} (h : validated values maximum minimumGapMinutes = .ok schedule)
    (h' : validated values maximum' minimumGapMinutes = .ok schedule') : schedule = schedule' := by
  obtain ⟨normalized, hnormalized, rfl, -⟩ := validated_sorted h
  obtain ⟨normalized', hnormalized', rfl, -⟩ := validated_sorted h'
  obtain rfl := Option.some.inj (hnormalized.symm.trans hnormalized')
  rfl

theorem validated_ok {values : List (Option String)} {maximum : Nat} {minimumGapMinutes : ℤ} {schedule : List String}
    (h : validated values maximum minimumGapMinutes = .ok schedule) : Valid minimumGapMinutes schedule := by
  obtain ⟨normalized, hnormalized, rfl, hlength, hgap, htimes, hgaps⟩ := validated_sorted h
  have hmem : ∀ slot, slot ∈ normalized.insertionSort (fun first second => first ≤ second) ↔ slot ∈ normalized :=
    fun slot => List.mem_insertionSort _
  have hall : (normalized.insertionSort fun first second => first ≤ second).all isTime = true :=
    List.all_eq_true.mpr fun slot hslot => List.all_eq_true.mp htimes slot ((hmem slot).mp hslot)
  have hpositive : 0 < minimumGapMinutes := by omega
  refine ⟨hpositive, ?_, ?_, ?_⟩
  · intro hempty
    have hlen := List.length_insertionSort (fun first second : String => first ≤ second) normalized
    rw [hempty, List.length_nil, length_of_mapM hnormalized] at hlen
    omega
  · intro slot hslot
    obtain ⟨minutes, hminutes⟩ := Option.isSome_iff_exists.mp (List.all_eq_true.mp hall slot hslot)
    unfold minutesOf
    rw [hminutes, Option.getD_some]
  · rw [filterMap_scheduleMinutes hall] at hgaps
    refine List.pairwise_map.mp (pairwise_of_gaps hpositive ?_)
    intro step hstep
    exact of_decide_eq_true (List.all_eq_true.mp hgaps step (List.mem_append_left _ hstep))

/-! ### Local slots -/

/-- The instant that a slot of a day is resolved to by itself. -/
def SlotAt (zone : Zone) (target : ℤ) (slot : String) (instant : ℤ) : Prop :=
  ∃ reading, localSlotDatetime zone target slot = .ok reading ∧ zone.toUtc reading = instant

variable {zone : Zone} {target : ℤ}

lemma roundTrip_ok {naive : ℤ} {fold : Bool} {trip : Reading × Reading} (h : roundTrip zone naive fold = .ok trip) :
    trip = (⟨naive, fold⟩, zone.ofUtc (zone.toUtc ⟨naive, fold⟩)) := by
  obtain ⟨instant, hinstant, h⟩ := Checked.bind_eq_ok.mp h
  obtain ⟨back, hback, h⟩ := Checked.bind_eq_ok.mp h
  obtain ⟨-, rfl⟩ := inRange_ok.mp hinstant
  obtain ⟨-, rfl⟩ := toLocal_ok.mp hback
  exact (Except.ok.inj h).symm

/-- The readings of a time with either fold, and what each is read back as. -/
def trips (zone : Zone) (naive : ℤ) : List (Reading × Reading) :=
  [false, true].map fun fold => (⟨naive, fold⟩, zone.ofUtc (zone.toUtc ⟨naive, fold⟩))

lemma earliest_eq_none {readings : List Reading} (h : earliest zone readings = none) : readings = [] := by
  cases readings with
  | nil => rfl
  | cons first rest => cases h

lemma earliest_spec {readings : List Reading} {reading : Reading} (h : earliest zone readings = some reading) :
    reading ∈ readings ∧ ∀ other ∈ readings, zone.toUtc reading ≤ zone.toUtc other := by
  cases readings with
  | nil => cases h
  | cons first rest =>
    obtain rfl := Option.some.inj h
    clear h
    induction rest generalizing first with
    | nil => exact ⟨List.mem_cons_self, fun other hother => by rw [List.mem_singleton.mp hother]; exact le_refl _⟩
    | cons second rest ih =>
      rw [List.foldl_cons]
      obtain ⟨hmem, hleast⟩ := ih (if zone.toUtc second < zone.toUtc first then second else first)
      have hhead := hleast _ List.mem_cons_self
      constructor
      · obtain heq | hrest := List.mem_cons.mp hmem
        · rw [heq]
          split
          · exact List.mem_cons_of_mem _ List.mem_cons_self
          · exact List.mem_cons_self
        · exact List.mem_cons_of_mem _ (List.mem_cons_of_mem _ hrest)
      · intro other hother
        have hboth : zone.toUtc (if zone.toUtc second < zone.toUtc first then second else first) ≤ zone.toUtc first ∧
            zone.toUtc (if zone.toUtc second < zone.toUtc first then second else first) ≤ zone.toUtc second := by
          split
          · exact ⟨by linarith, le_refl _⟩
          · exact ⟨le_refl _, by linarith⟩
        obtain rfl | hother := List.mem_cons.mp hother
        · exact le_trans hhead hboth.1
        obtain rfl | hother := List.mem_cons.mp hother
        · exact le_trans hhead hboth.2
        · exact hleast other (List.mem_cons_of_mem _ hother)

/-- A slot goes to the first instant at which its time is shown, and past its time where none shows it. -/
theorem localSlotDatetime_ok {slot : String} {instant : ℤ} {minutes : Nat} (h : SlotAt zone target slot instant)
    (hslot : scheduleMinutes slot = some minutes) :
    wallOf target minutes ≤ zone.clock instant ∧
      ∀ shown, zone.clock shown = wallOf target minutes → zone.clock instant = wallOf target minutes ∧ instant ≤ shown := by
  obtain ⟨reading, h, rfl⟩ := h
  unfold localSlotDatetime at h
  obtain ⟨minutes', hminutes, h⟩ := Checked.bind_eq_ok.mp h
  obtain rfl := Option.some.inj (hslot.symm.trans (Checked.orError_eq_ok.mp hminutes))
  obtain ⟨first, hfirst, h⟩ := Checked.bind_eq_ok.mp h
  obtain ⟨second, hsecond, h⟩ := Checked.bind_eq_ok.mp h
  obtain rfl := roundTrip_ok hfirst
  obtain rfl := roundTrip_ok hsecond
  have htrips : ∀ trip, trip ∈ trips zone (wallOf target minutes) ↔
      ∃ fold, trip = (⟨wallOf target minutes, fold⟩, zone.ofUtc (zone.toUtc ⟨wallOf target minutes, fold⟩)) := by
    intro trip
    simp [trips]
  have hexact : ∀ other, other ∈ ((trips zone (wallOf target minutes)).filter
      fun trip => trip.2.wall == wallOf target minutes).map Prod.fst ↔
      other.wall = wallOf target minutes ∧ zone.clock (zone.toUtc other) = wallOf target minutes := by
    intro other
    rw [List.mem_map]
    constructor
    · rintro ⟨trip, htrip, rfl⟩
      obtain ⟨hmem, hwall⟩ := List.mem_filter.mp htrip
      obtain ⟨fold, rfl⟩ := (htrips trip).mp hmem
      exact ⟨rfl, beq_iff_eq.mp hwall⟩
    · rintro ⟨hwall, hclock⟩
      refine ⟨(other, zone.ofUtc (zone.toUtc other)), List.mem_filter.mpr ⟨(htrips _).mpr ⟨other.fold, ?_⟩, ?_⟩, rfl⟩
      · rw [← hwall]
      · exact beq_iff_eq.mpr hclock
  change (match earliest zone (((trips zone (wallOf target minutes)).filter
      fun trip => trip.2.wall == wallOf target minutes).map Prod.fst),
    earliest zone (((trips zone (wallOf target minutes)).filter
      fun trip => wallOf target minutes < trip.2.wall).map Prod.snd) with
    | some reading, _ => .ok reading
    | none, some reading => .ok reading
    | none, none => .error (DateError.value "DEVICE-008 local slot 無法正規化為有效 timezone epoch")) = Except.ok reading at h
  split at h
  · next hreading =>
    obtain rfl := Except.ok.inj h
    obtain ⟨hmem, hleast⟩ := earliest_spec hreading
    have hclock := ((hexact _).mp hmem).2
    refine ⟨le_of_eq hclock.symm, fun shown hshown => ⟨hclock, ?_⟩⟩
    obtain ⟨hfirst, hle⟩ := WallClock.Zone.toUtc_of_shown hshown
    exact le_trans (hleast ⟨wallOf target minutes, false⟩ ((hexact _).mpr ⟨rfl, hfirst⟩)) hle
  · next hnone hreading =>
    obtain rfl := Except.ok.inj h
    have hempty := earliest_eq_none hnone
    constructor
    · obtain ⟨trip, htrip, hback⟩ := List.mem_map.mp (earliest_spec hreading).1
      obtain ⟨hmem, hforward⟩ := List.mem_filter.mp htrip
      obtain ⟨fold, rfl⟩ := (htrips trip).mp hmem
      have hforward := of_decide_eq_true hforward
      have hshown := WallClock.Zone.clock_toUtc (show zone.clock _ = (zone.ofUtc (zone.toUtc ⟨wallOf target minutes, fold⟩)).wall from rfl)
      rw [← hback, hshown]
      exact le_of_lt hforward
    · intro shown hshown
      have := (hexact _).mpr ⟨rfl, (WallClock.Zone.toUtc_of_shown hshown).1⟩
      rw [hempty] at this
      cases this
  · cases h

end InkTime.Schedule
