import InkTime.Library.Rounding
import InkTime.Schedule.Resolution

/-!
# The next network sync

`next_sync_epoch` collects the wakes ahead of the slots of two days. Where no slot of the second day precedes one of the
first, its earliest wake is the lead before the earliest slot that is still ahead, or now.
-/

namespace InkTime.Schedule

open Checked (require orError)
open Json (Value)
open Rounding (nearestDouble truncate)
open WallClock (Zone Reading DateError second minute day dayOf inCalendar inRange toUtc toLocal inRange_ok toLocal_ok)

/-- 1970-01-01 -/
def unixEpoch : ℤ := 719162 * day

/-- `int(instant.timestamp())` -/
def epochOf (instant : ℤ) : ℤ := truncate (nearestDouble (((instant - unixEpoch : ℤ) : ℚ) / 1000000))

/-- One turn of the loop over the resolved slots of a day. -/
def collectSync (now leadMinutes : ℤ) (candidates : List ℤ) (candidate : ℤ) : Except DateError (List ℤ) := do
  let syncAt ← inRange (candidate - leadMinutes * minute)
  return if now < syncAt then candidates ++ [syncAt]
    else if now < candidate ∧ candidates.isEmpty then candidates ++ [now]
    else candidates

/-- One turn of the loop over today and tomorrow. -/
def collectDay (zone : Zone) (now : ℤ) (slots : List String) (leadMinutes : ℤ) (sync : SyncStrategy × Option String)
    (minimumGapMinutes : ℤ) (maximumSlots : Nat) (candidates : List ℤ) (target : ℤ) : Except DateError (List ℤ) := do
  require (inCalendar (target * day)) .overflow
  match sync with
  | (.fixedDaily, syncTime) => do
    let reading ← localSlotDatetime zone target (syncTime.getD "")
    let candidate ← toUtc zone reading
    return if now < candidate then candidates ++ [candidate] else candidates
  | (.firstDisplayLead, _) => do
    let resolved ← resolvedSlotDatetimes zone target (slots.map some) minimumGapMinutes maximumSlots
    resolved.foldlM (collectSync now leadMinutes) candidates

def nextSyncEpoch (zone : Zone) (now : ℤ) (schedule : List (Option String)) (leadMinutes : ℤ) (syncStrategy syncTime : Value)
    (minimumGapMinutes : ℤ) (maximumSlots : Nat) : Except DateError ℤ := do
  require (0 ≤ leadMinutes && leadMinutes ≤ 120) (.value "DEVICE-008 prefetch 提前分鐘必須介於 0 到 120")
  let sync ← (normalizeSyncStrategy syncStrategy syncTime).mapError fun refused => .value refused.message
  let localNow ← toLocal zone now
  let slots ← validated schedule (resolveOfflineScheduleMaxSlots (.int maximumSlots)) minimumGapMinutes
  let candidates ← [dayOf localNow.wall, dayOf localNow.wall + 1].foldlM
    (collectDay zone now slots leadMinutes sync minimumGapMinutes maximumSlots) []
  let earliest ← orError candidates.min? (.value "DEVICE-008 找不到下一個網路同步時刻")
  return epochOf earliest

/-! ### Epochs -/

/-- From 1970 until 2³⁴ seconds later the epoch of an instant is its second. -/
lemma epochOf_eq {instant : ℤ} (hlow : unixEpoch ≤ instant) (hhigh : instant < unixEpoch + 2 ^ 34 * second) :
    epochOf instant = (instant - unixEpoch) / second := by
  have hpositive : 0 ≤ instant - unixEpoch := by linarith
  have hfloor := Rounding.floor_nearestDouble hpositive (by unfold second at hhigh; linarith)
  have hsign : 0 ≤ nearestDouble (((instant - unixEpoch : ℤ) : ℚ) / 1000000) := by
    rw [← Int.floor_nonneg, hfloor]
    omega
  unfold epochOf truncate
  rw [if_pos hsign, hfloor]
  rfl

/-! ### The wakes ahead of the slots -/

/-- What one turn adds. -/
def addSync (now lead : ℤ) (candidates : List ℤ) (candidate : ℤ) : List ℤ :=
  if now < candidate - lead then candidates ++ [candidate - lead]
  else if now < candidate ∧ candidates.isEmpty then candidates ++ [now]
  else candidates

lemma foldlM_collectSync_ok {now leadMinutes : ℤ} {resolved candidates final : List ℤ}
    (h : resolved.foldlM (collectSync now leadMinutes) candidates = .ok final) :
    final = resolved.foldl (addSync now (leadMinutes * minute)) candidates := by
  induction resolved generalizing candidates with
  | nil => exact (Except.ok.inj h).symm
  | cons candidate rest ih =>
    rw [List.foldlM_cons] at h
    obtain ⟨between, hbetween, h⟩ := Checked.bind_eq_ok.mp h
    obtain ⟨syncAt, hsync, hbetween⟩ := Checked.bind_eq_ok.mp hbetween
    obtain ⟨-, rfl⟩ := inRange_ok.mp hsync
    obtain rfl := Except.ok.inj hbetween
    exact ih h

variable {now lead : ℤ}

/-- Later slots bring no earlier wake. -/
lemma foldl_addSync_later {earliest : ℤ} {slots candidates : List ℤ} (h : candidates.min? = some earliest)
    (hlater : ∀ slot ∈ slots, earliest ≤ max now (slot - lead)) :
    (slots.foldl (addSync now lead) candidates).min? = some earliest := by
  induction slots generalizing candidates with
  | nil => exact h
  | cons slot rest ih =>
    have hne : candidates.isEmpty = false := by
      cases candidates with
      | nil => cases h
      | cons first others => rfl
    have hfirst := hlater slot List.mem_cons_self
    rw [List.foldl_cons]
    apply ih _ fun other hother => hlater other (List.mem_cons_of_mem _ hother)
    unfold addSync
    rw [hne]
    by_cases hsync : now < slot - lead
    · rw [if_pos hsync]
      rw [max_eq_right (le_of_lt hsync)] at hfirst
      rw [List.min?_eq_some_iff] at h ⊢
      refine ⟨List.mem_append_left _ h.1, ?_⟩
      intro other hother
      obtain hother | hother := List.mem_append.mp hother
      · exact h.2 other hother
      · rwa [List.mem_singleton.mp hother]
    · rw [if_neg hsync, if_neg (by simp)]
      exact h

/-- The earliest wake ahead of slots in their order is the one ahead of the first slot that is still to come. -/
theorem min_addSync {slots : List ℤ} (hlead : 0 ≤ lead) (hrising : slots.Pairwise fun earlier later => earlier < later) :
    (slots.foldl (addSync now lead) []).min? = (slots.find? fun slot => now < slot).map fun slot => max now (slot - lead) := by
  induction slots with
  | nil => rfl
  | cons slot rest ih =>
    obtain ⟨hlater, hrest⟩ := List.pairwise_cons.mp hrising
    rw [List.foldl_cons]
    by_cases hslot : now < slot
    · have hfirst : (addSync now lead [] slot).min? = some (max now (slot - lead)) := by
        unfold addSync
        by_cases hsync : now < slot - lead
        · rw [if_pos hsync, max_eq_right (le_of_lt hsync)]
          rfl
        · rw [if_neg hsync, if_pos ⟨hslot, rfl⟩, max_eq_left (not_lt.mp hsync)]
          rfl
      rw [List.find?_cons_of_pos (by simpa using hslot), Option.map_some]
      apply foldl_addSync_later hfirst
      intro other hother
      have := hlater other hother
      exact max_le_max (le_refl now) (by linarith)
    · have hnone : addSync now lead [] slot = [] := by
        unfold addSync
        rw [if_neg (by linarith), if_neg (by simp [hslot])]
      rw [hnone, ih hrest, List.find?_cons_of_neg (by simpa using hslot)]

/-! ### The next sync -/

variable {zone : Zone}

lemma resolved_rising {target minimumGapMinutes : ℤ} {values : List (Option String)} {maximumSlots : Nat} {instants : List ℤ}
    (h : resolvedSlotDatetimes zone target values minimumGapMinutes maximumSlots = .ok instants) :
    instants.Pairwise fun earlier later => earlier < later := by
  obtain ⟨schedule, hvalid, exacts, -, rfl, -⟩ := resolvedSlotDatetimes_ok h
  have hgap : 0 < minimumGapMinutes * minute := mul_pos (validated_ok hvalid).positive (by decide)
  exact (deferAll_apart (le_of_lt hgap) none exacts).imp fun h => by linarith

/-- What a sync time that was found is made of. -/
theorem nextSyncEpoch_ok {schedule : List (Option String)} {leadMinutes minimumGapMinutes result : ℤ} {syncStrategy syncTime : Value}
    {maximumSlots : Nat} (hsync : normalizeSyncStrategy syncStrategy syncTime = .ok (.firstDisplayLead, none))
    (h : nextSyncEpoch zone now schedule leadMinutes syncStrategy syncTime minimumGapMinutes maximumSlots = .ok result) :
    ∃ slots today tomorrow earliest,
      validated schedule (resolveOfflineScheduleMaxSlots (.int maximumSlots)) minimumGapMinutes = .ok slots ∧ 0 ≤ leadMinutes ∧
      resolvedSlotDatetimes zone (dayOf (zone.clock now)) (slots.map some) minimumGapMinutes maximumSlots = .ok today ∧
      resolvedSlotDatetimes zone (dayOf (zone.clock now) + 1) (slots.map some) minimumGapMinutes maximumSlots = .ok tomorrow ∧
      ((today ++ tomorrow).foldl (addSync now (leadMinutes * minute)) []).min? = some earliest ∧ result = epochOf earliest := by
  obtain ⟨_, hlead, h⟩ := Checked.bind_eq_ok.mp h
  obtain ⟨sync, hnormal, h⟩ := Checked.bind_eq_ok.mp h
  obtain ⟨localNow, hlocal, h⟩ := Checked.bind_eq_ok.mp h
  obtain ⟨slots, hslots, h⟩ := Checked.bind_eq_ok.mp h
  obtain ⟨candidates, hcandidates, h⟩ := Checked.bind_eq_ok.mp h
  obtain ⟨earliest, hearliest, hresult⟩ := Checked.bind_eq_ok.mp h
  rw [hsync] at hnormal
  obtain rfl := Except.ok.inj hnormal
  obtain ⟨-, rfl⟩ := toLocal_ok.mp hlocal
  have hlead := Checked.require_eq_ok.mp hlead
  simp only [Bool.and_eq_true, decide_eq_true_eq] at hlead
  rw [List.foldlM_cons] at hcandidates
  obtain ⟨first, hfirst, hcandidates⟩ := Checked.bind_eq_ok.mp hcandidates
  rw [List.foldlM_cons] at hcandidates
  obtain ⟨both, hsecond, hcandidates⟩ := Checked.bind_eq_ok.mp hcandidates
  obtain rfl := Except.ok.inj hcandidates
  obtain ⟨_, -, hfirst⟩ := Checked.bind_eq_ok.mp hfirst
  obtain ⟨today, htoday, hfirst⟩ := Checked.bind_eq_ok.mp hfirst
  obtain ⟨_, -, hsecond⟩ := Checked.bind_eq_ok.mp hsecond
  obtain ⟨tomorrow, htomorrow, hsecond⟩ := Checked.bind_eq_ok.mp hsecond
  refine ⟨slots, today, tomorrow, earliest, hslots, hlead.1, htoday, htomorrow, ?_, (Except.ok.inj hresult).symm⟩
  rw [List.foldl_append, ← foldlM_collectSync_ok hfirst, ← foldlM_collectSync_ok hsecond]
  exact Checked.orError_eq_ok.mp hearliest

/-- Where today is ahead of tomorrow, the next sync is the lead before the earliest slot of the two that is still to come, or now;
from 1970 until 2³⁴ seconds later it is told to the second. -/
theorem next_sync_is_lead_ahead {schedule : List (Option String)} {leadMinutes minimumGapMinutes result : ℤ}
    {syncStrategy syncTime : Value} {maximumSlots : Nat}
    (hsync : normalizeSyncStrategy syncStrategy syncTime = .ok (.firstDisplayLead, none))
    (h : nextSyncEpoch zone now schedule leadMinutes syncStrategy syncTime minimumGapMinutes maximumSlots = .ok result) :
    ∃ slots resolved today tomorrow,
      validated schedule (resolveOfflineScheduleMaxSlots (.int maximumSlots)) minimumGapMinutes = .ok slots ∧
      validated (slots.map some) maximumSlots minimumGapMinutes = .ok resolved ∧
      resolvedSlotDatetimes zone (dayOf (zone.clock now)) (slots.map some) minimumGapMinutes maximumSlots = .ok today ∧
      resolvedSlotDatetimes zone (dayOf (zone.clock now) + 1) (slots.map some) minimumGapMinutes maximumSlots = .ok tomorrow ∧
      (DayAhead zone (dayOf (zone.clock now)) resolved →
        ∃ slot, IsLeast { s | s ∈ today ++ tomorrow ∧ now < s } slot ∧ result = epochOf (max now (slot - leadMinutes * minute)) ∧
          (unixEpoch ≤ now → max now (slot - leadMinutes * minute) < unixEpoch + 2 ^ 34 * second →
            result = (max now (slot - leadMinutes * minute) - unixEpoch) / second)) := by
  obtain ⟨slots, today, tomorrow, earliest, hslots, hlead, htoday, htomorrow, hearliest, rfl⟩ := nextSyncEpoch_ok hsync h
  obtain ⟨resolved, hresolved, -⟩ := resolvedSlotDatetimes_ok htoday
  refine ⟨slots, resolved, today, tomorrow, hslots, hresolved, htoday, htomorrow, ?_⟩
  intro hahead
  have hrising : (today ++ tomorrow).Pairwise fun earlier later => earlier < later :=
    List.pairwise_append.mpr ⟨resolved_rising htoday, resolved_rising htomorrow,
      resolved_before_next hresolved htoday htomorrow hahead⟩
  rw [min_addSync (mul_nonneg hlead (by decide)) hrising] at hearliest
  obtain ⟨slot, hslot, rfl⟩ := Option.map_eq_some_iff.mp hearliest
  have hleast : IsLeast { s | s ∈ today ++ tomorrow ∧ now < s } slot := by
    obtain ⟨hnow, before, after, hsplit, hpast⟩ := List.find?_eq_some_iff_append.mp hslot
    rw [hsplit] at hrising ⊢
    refine ⟨⟨List.mem_append_right _ List.mem_cons_self, of_decide_eq_true hnow⟩, ?_⟩
    rintro other ⟨hother, hlt⟩
    obtain hbefore | hafter := List.mem_append.mp hother
    · have := hpast other hbefore
      simp [hlt] at this
    · obtain rfl | hafter := List.mem_cons.mp hafter
      · exact le_refl _
      · exact le_of_lt ((List.pairwise_cons.mp (List.pairwise_append.mp hrising).2.1).1 other hafter)
  refine ⟨slot, hleast, rfl, ?_⟩
  intro hlow hhigh
  exact epochOf_eq (le_trans hlow (le_max_left _ _)) hhigh

/-- On the morning of 2024-01-01 the next sync is five minutes ahead of the slot at 21:00. -/
theorem next_sync_is_lead_ahead_morning : ∃ slot,
    IsLeast { s | s ∈ [738885 * day + 1260 * minute] ++ [738886 * day + 1260 * minute] ∧ 738885 * day + 600 * minute < s } slot ∧
      1704142500 = (max (738885 * day + 600 * minute) (slot - 5 * minute) - unixEpoch) / second := by
  have hfound : nextSyncEpoch Zone.utc (738885 * day + 600 * minute) [some "21:00"] 5 .null .null 60 24 = .ok 1704142500 := by
    decide +kernel
  obtain ⟨slots, resolved, today, tomorrow, hslots, hresolved, htoday, htomorrow, hnext⟩ :=
    next_sync_is_lead_ahead (by decide +kernel) hfound
  obtain rfl : slots = ["21:00"] := Except.ok.inj (hslots.symm.trans (by decide +kernel))
  have hdate : dayOf (Zone.utc.clock (738885 * day + 600 * minute)) = 738885 := by decide
  rw [hdate] at htoday htomorrow hnext
  obtain rfl : today = [738885 * day + 1260 * minute] := Except.ok.inj (htoday.symm.trans (by decide +kernel))
  obtain rfl : tomorrow = [738886 * day + 1260 * minute] := Except.ok.inj (htomorrow.symm.trans (by decide +kernel))
  obtain ⟨slot, hleast, -, hsecond⟩ := hnext (.inl (leavesDay_of_fixed rfl))
  refine ⟨slot, hleast, hsecond (by decide) ?_⟩
  obtain hslot | hslot := List.mem_cons.mp hleast.1.1
  · rw [hslot]
    decide
  · rw [List.mem_singleton.mp hslot]
    decide

/-- Half a second before the last one of 1969 the epoch is the one after the current second; and where tomorrow's first slot comes
before today's last, the wake ahead of today's is kept although tomorrow's lead has begun. -/
theorem sync_misses_lead :
    (nextSyncEpoch Zone.utc (unixEpoch - 1500000) [some "00:00"] 5 .null .null 60 24 = .ok (-1) ∧
      resolvedSlotDatetimes Zone.utc 719161 [some "00:00"] 60 24 = .ok [719161 * day] ∧
      resolvedSlotDatetimes Zone.utc 719162 [some "00:00"] 60 24 = .ok [719162 * day] ∧
      (max (unixEpoch - 1500000) (719162 * day - 5 * minute) - unixEpoch) / second = -2) ∧
    ∃ now today tomorrow slot result, dayOf (eveningJump.clock now) = 738885 ∧
      resolvedSlotDatetimes eveningJump 738885 [some "01:30", some "22:00"] 60 24 = .ok today ∧
      resolvedSlotDatetimes eveningJump 738886 [some "01:30", some "22:00"] 60 24 = .ok tomorrow ∧
      IsLeast { s | s ∈ today ++ tomorrow ∧ now < s } slot ∧
      nextSyncEpoch eveningJump now [some "01:30", some "22:00"] 120 .null .null 60 24 = .ok result ∧
      (max now (slot - 120 * minute) - unixEpoch) / second < result := by
  refine ⟨by decide +kernel, 738885 * day + 1140 * minute, [738885 * day + 90 * minute, 738885 * day + 1320 * minute],
    [738885 * day + 1230 * minute, 738886 * day + 1320 * minute], 738885 * day + 1230 * minute, 1704139200, by decide,
    by decide +kernel, by decide +kernel, ⟨by decide, ?_⟩, by decide +kernel, by decide⟩
  rintro other ⟨hother, hlt⟩
  simp only [List.cons_append, List.nil_append, List.mem_cons, List.not_mem_nil, or_false] at hother
  unfold day minute at *
  omega

end InkTime.Schedule
