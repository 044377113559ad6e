import InkTime.Firmware.WakeCycle
import InkTime.Library.Runs

/-!
# Slots over runs of timer wakes

The next wake is never after the next slot, so a slot comes due at a wake or while the device is awake.
It is shown when that wake looks for it late enough and gets to the cached frames.
-/

namespace InkTime.Firmware

open Runs

/-! ### The earliest candidate -/

section considerWake

variable {now wake : Nat}

lemma considerWake_le_wake (candidate : Nat) (hwake : now < wake) :
    now < considerWake now wake candidate ∧ considerWake now wake candidate ≤ wake := by
  unfold considerWake
  split <;> omega

lemma considerWake_le {candidate : Nat} (hwake : wake = 0 ∨ now < wake) (hnow : now < candidate) :
    now < considerWake now wake candidate ∧ considerWake now wake candidate ≤ candidate := by
  unfold considerWake
  split <;> omega

lemma considerWake_unset (candidate : Nat) (hwake : wake = 0 ∨ now < wake) :
    considerWake now wake candidate = 0 ∨ now < considerWake now wake candidate := by
  unfold considerWake
  split <;> omega

/-- A wake that is set only moves earlier. -/
lemma foldl_considerWake_le_wake (candidates : List Nat) (hwake : now < wake) :
    now < candidates.foldl (considerWake now) wake ∧ candidates.foldl (considerWake now) wake ≤ wake := by
  induction candidates generalizing wake with
  | nil => exact ⟨hwake, le_rfl⟩
  | cons candidate rest ih =>
    obtain ⟨hafter, hle⟩ := considerWake_le_wake candidate hwake
    exact ⟨(ih hafter).1, (ih hafter).2.trans hle⟩

/-- Every candidate after `now` bounds the wake. -/
lemma foldl_considerWake_le {candidates : List Nat} {candidate : Nat} (hmem : candidate ∈ candidates)
    (hnow : now < candidate) (hwake : wake = 0 ∨ now < wake) :
    now < candidates.foldl (considerWake now) wake ∧
      candidates.foldl (considerWake now) wake ≤ candidate := by
  induction candidates generalizing wake with
  | nil => cases hmem
  | cons head rest ih =>
    rcases List.mem_cons.mp hmem with rfl | hrest
    · obtain ⟨hafter, hle⟩ := considerWake_le hwake hnow
      have hfold := foldl_considerWake_le_wake rest hafter
      exact ⟨hfold.1, hfold.2.trans hle⟩
    · exact ih hrest (considerWake_unset head hwake)

/-- The wake is the first one or a candidate. -/
lemma foldl_considerWake_mem (candidates : List Nat) :
    candidates.foldl (considerWake now) wake = wake ∨ candidates.foldl (considerWake now) wake ∈ candidates := by
  induction candidates generalizing wake with
  | nil => exact .inl rfl
  | cons candidate rest ih =>
    rw [List.foldl_cons]
    rcases @ih (considerWake now wake candidate) with heq | hmem
    · rw [heq, considerWake]
      split
      · exact .inr List.mem_cons_self
      · exact .inl rfl
    · exact .inr (List.mem_cons_of_mem _ hmem)

end considerWake

section

variable {schedule : ActiveSchedule} {cfg : WakeConfig} {now showAt : Nat}

lemma nextDisplayEpoch_le (hslot : showAt ∈ schedule.slots) (hnow : now < showAt) :
    now < nextDisplayEpoch schedule now ∧ nextDisplayEpoch schedule now ≤ showAt :=
  foldl_considerWake_le hslot hnow (.inl rfl)

lemma nextDisplayEpoch_mem (hnext : now < nextDisplayEpoch schedule now) :
    nextDisplayEpoch schedule now ∈ schedule.slots := by
  refine (foldl_considerWake_mem schedule.slots).resolve_left fun hzero => ?_
  rw [nextDisplayEpoch, hzero] at hnext
  exact absurd hnext (Nat.not_lt_zero now)

/-- The device never sleeps past the next slot. -/
theorem sleepUntilNextSchedule_clock_le (state : WakeState) (hpos : 0 < now) (hslot : showAt ∈ schedule.slots)
    (hnow : now < showAt) : (sleepUntilNextSchedule schedule cfg state now).clock ≤ showAt := by
  obtain ⟨hnext, hle⟩ := nextDisplayEpoch_le hslot hnow
  -- the display candidate is the boundary itself or the prefetch before it
  obtain ⟨candidate, hmem, hafter, hcandidate⟩ : ∃ candidate ∈ wakeCandidates schedule cfg state.retry now,
      now < candidate ∧ candidate ≤ nextDisplayEpoch schedule now := by
    refine ⟨_, List.mem_cons_self, ?_⟩
    rw [if_pos hnext]
    split_ifs <;> omega
  obtain ⟨hwake, hwakeLe⟩ := foldl_considerWake_le hmem hafter (.inl rfl)
  simp only [sleepUntilNextSchedule, hpos.ne', if_false, gt_iff_lt, hwake, if_true, goDeepSleepUntilEpoch,
    goDeepSleepSeconds, exactSleepSeconds]
  omega

/-- All that sleeping changes. -/
lemma sleepUntilNextSchedule_eq (schedule : ActiveSchedule) (cfg : WakeConfig) (state : WakeState) (now : Nat) :
    ∃ seconds retry powerAttempt, sleepUntilNextSchedule schedule cfg state now =
      { clock := now + seconds, loads := state.loads, retry := retry, powerAttempt := powerAttempt } := by
  unfold sleepUntilNextSchedule
  dsimp only
  split
  · exact ⟨_, _, _, rfl⟩
  split
  · exact ⟨_, _, _, rfl⟩
  split <;> exact ⟨_, _, _, rfl⟩

lemma le_sleepUntilNextSchedule_clock (state : WakeState) :
    now ≤ (sleepUntilNextSchedule schedule cfg state now).clock := by
  obtain ⟨seconds, retry, powerAttempt, heq⟩ := sleepUntilNextSchedule_eq schedule cfg state now
  rw [heq]
  exact Nat.le_add_right now seconds

@[simp] lemma sleepUntilNextSchedule_loads (state : WakeState) :
    (sleepUntilNextSchedule schedule cfg state now).loads = state.loads := by
  obtain ⟨seconds, retry, powerAttempt, heq⟩ := sleepUntilNextSchedule_eq schedule cfg state now
  rw [heq]

/-! ### The slot a load selects -/

/-- A selected slot stays selected while no later one has come due. -/
lemma foldl_selectSlot_keeps (slots : List Nat) (hlatest : ∀ other ∈ slots, other ≤ now → other ≤ showAt) :
    slots.foldl (selectSlot now) (some showAt) = some showAt := by
  induction slots with
  | nil => rfl
  | cons head rest ih =>
    have hrest := ih fun other hother => hlatest other (List.mem_cons_of_mem _ hother)
    have hhead := hlatest head List.mem_cons_self
    rw [List.foldl_cons, selectSlot]
    split
    · rename_i hselect
      have heq : head = showAt := le_antisymm (hhead hselect.1) hselect.2
      rw [heq]
      exact hrest
    · exact hrest

lemma foldl_selectSlot (slots : List Nat) (hmem : showAt ∈ slots) (hnow : showAt ≤ now)
    (hlatest : ∀ other ∈ slots, other ≤ now → other ≤ showAt) {selected : Option Nat}
    (hselected : selected.getD 0 ≤ showAt) : slots.foldl (selectSlot now) selected = some showAt := by
  induction slots generalizing selected with
  | nil => cases hmem
  | cons head rest ih =>
    have hrest : ∀ other ∈ rest, other ≤ now → other ≤ showAt :=
      fun other hother => hlatest other (List.mem_cons_of_mem _ hother)
    rw [List.foldl_cons, selectSlot]
    rcases List.mem_cons.mp hmem with rfl | hlater
    · rw [if_pos ⟨hnow, hselected⟩]
      exact foldl_selectSlot_keeps rest hrest
    · refine ih hlater hrest ?_
      split
      · rename_i hselect
        exact hlatest head List.mem_cons_self hselect.1
      · exact hselected

/-- On the schedule's day a load takes the latest slot that has come due. -/
theorem loadOfflineScheduledLocalFrame_eq (hslot : showAt ∈ schedule.slots) (hnow : showAt ≤ now)
    (hend : now < schedule.targetEnd) (hlatest : ∀ other ∈ schedule.slots, other ≤ now → other ≤ showAt) :
    loadOfflineScheduledLocalFrame schedule now = some showAt := by
  have hstart := (schedule.inDay showAt hslot).1
  unfold loadOfflineScheduledLocalFrame
  rw [if_neg (by omega)]
  exact foldl_selectSlot schedule.slots hslot hnow hlatest (Nat.zero_le _)

lemma activeHasDueFormalSlot_of_mem (hslot : showAt ∈ schedule.slots) (hnow : showAt ≤ now)
    (hgrace : now ≤ showAt + formalGraceSeconds) : activeHasDueFormalSlot schedule now = true := by
  have hstart := (schedule.inDay showAt hslot).1
  have hpos := schedule.started
  have hdue : scheduleHasDueFormalSlot schedule.slots now = true := by
    refine List.any_eq_true.mpr ⟨showAt, hslot, ?_⟩
    simp only [Bool.and_eq_true, decide_eq_true_eq]
    omega
  simp only [activeHasDueFormalSlot, hdue, Bool.and_true, decide_eq_true_eq]
  omega

end

/-! ### What a wake leaves behind -/

section

variable {schedule : ActiveSchedule} {cfg : WakeConfig}

lemma loads_displayFormalFrame (state : WakeState) (now : Nat) (drawn : Bool) :
    state.loads ⊆ (displayFormalFrame schedule state now drawn).loads := by
  unfold displayFormalFrame
  split
  · exact List.Subset.refl _
  · exact List.subset_cons_self _ _

lemma loads_downloadDailyPhotoBin (state : WakeState) (cycle : Cycle) :
    state.loads ⊆ (downloadDailyPhotoBin schedule state cycle).loads := by
  unfold downloadDailyPhotoBin
  dsimp only
  split
  · split
    · split
      · refine List.Subset.trans ?_ (loads_displayFormalFrame _ _ _)
        exact List.Subset.refl _
      · exact List.Subset.refl _
    · exact List.Subset.refl _
    · exact List.Subset.refl _
  · exact List.Subset.refl _

/-- Loads are never forgotten. -/
lemma loads_serveWake (state : WakeState) (cycle : Cycle) :
    state.loads ⊆ (serveWake schedule cfg state cycle).loads := by
  unfold serveWake
  dsimp only
  split
  · split
    · exact loads_downloadDailyPhotoBin state cycle
    · split
      · exact loads_displayFormalFrame _ _ _
      · exact List.Subset.refl _
  · exact loads_displayFormalFrame _ _ _

/-- A slot that comes due during a wake is met: it is due when the wake looks for a slot, no other slot
comes due with it, the day is not over when the frame is loaded, and a session on a connected network
gets through. -/
def MeetsSlots (schedule : ActiveSchedule) (cfg : WakeConfig) (state : WakeState) (cycle : Cycle) : Prop :=
  ∀ showAt ∈ schedule.slots, state.clock ≤ showAt → showAt ≤ state.clock + cycle.asleep →
    showAt ≤ state.clock +
      (if networkWake schedule cfg (state.clock + cycle.decided) then cycle.checked else cycle.loaded) ∧
    (∀ other ∈ schedule.slots, state.clock ≤ other → other ≤ state.clock + cycle.asleep → other = showAt) ∧
    state.clock + cycle.loaded < schedule.targetEnd ∧
    (networkWake schedule cfg (state.clock + cycle.decided) ∧ cycle.wifi →
      cycle.acked ∧ cycle.download = .complete)

instance (schedule : ActiveSchedule) (cfg : WakeConfig) (state : WakeState) (cycle : Cycle) :
    Decidable (MeetsSlots schedule cfg state cycle) := by
  delta MeetsSlots
  infer_instance

/-- When a slot is over: after its grace period or at the next slot. -/
def slotDeadline (schedule : ActiveSchedule) (showAt : Nat) : Nat :=
  let next := nextDisplayEpoch schedule showAt
  if next > showAt then min (showAt + formalGraceSeconds) next else showAt + formalGraceSeconds

lemma le_slotDeadline (schedule : ActiveSchedule) (showAt : Nat) : showAt ≤ slotDeadline schedule showAt := by
  unfold slotDeadline
  dsimp only
  split <;> omega

/-- A reading within the grace period and before every later slot meets the deadline. -/
lemma le_slotDeadline_of_forall {showAt now : Nat} (hgrace : now ≤ showAt + formalGraceSeconds)
    (hlater : ∀ other ∈ schedule.slots, showAt < other → now ≤ other) : now ≤ slotDeadline schedule showAt := by
  unfold slotDeadline
  dsimp only
  split
  · rename_i hnext
    exact le_min hgrace (hlater _ (nextDisplayEpoch_mem hnext) hnext)
  · exact hgrace

/-- The frame of the slot was loaded by its deadline. -/
def Shown (schedule : ActiveSchedule) (state : WakeState) (showAt : Nat) : Prop :=
  ∃ loaded ≤ slotDeadline schedule showAt, (loaded, showAt) ∈ state.loads

def NoSlotMissed (schedule : ActiveSchedule) (state : WakeState) : Prop :=
  ∀ showAt ∈ schedule.slots, slotDeadline schedule showAt < state.clock → Shown schedule state showAt

lemma displayFormalFrame_mem {state : WakeState} {now showAt : Nat} {drawn : Bool}
    (h : loadOfflineScheduledLocalFrame schedule now = some showAt) :
    (now, showAt) ∈ (displayFormalFrame schedule state now drawn).loads := by
  simp [displayFormalFrame, h]

/-- A slot that is met is the one the wake loads, at its third reading. -/
lemma serveWake_loads_slot {state : WakeState} {cycle : Cycle} {showAt : Nat}
    (hmeets : MeetsSlots schedule cfg state cycle) (hslot : showAt ∈ schedule.slots)
    (hwake : state.clock ≤ showAt) (hasleep : showAt ≤ state.clock + cycle.asleep) :
    (state.clock + cycle.loaded, showAt) ∈ (serveWake schedule cfg state cycle).loads := by
  obtain ⟨hlook, honly, hend, hsession⟩ := hmeets showAt hslot hwake hasleep
  obtain ⟨-, hchecked, hloaded⟩ := cycle.ordered
  have hbrief := cycle.brief
  have hnow : showAt ≤ state.clock + cycle.loaded := by
    split at hlook <;> omega
  have hload : loadOfflineScheduledLocalFrame schedule (state.clock + cycle.loaded) = some showAt := by
    refine loadOfflineScheduledLocalFrame_eq hslot hnow hend fun other hother hdue => ?_
    by_contra hlater
    have heq := honly other hother (by omega) (by omega)
    omega
  unfold serveWake
  dsimp only
  split
  · rename_i hnetwork
    rw [if_pos hnetwork] at hlook
    have hdue : activeHasDueFormalSlot schedule (state.clock + cycle.checked) = true :=
      activeHasDueFormalSlot_of_mem hslot hlook (by unfold formalGraceSeconds; omega)
    split
    · rename_i hwifi
      obtain ⟨hacked, hcomplete⟩ := hsession ⟨hnetwork, hwifi⟩
      simp only [downloadDailyPhotoBin, hacked, hcomplete, hdue, if_true]
      exact displayFormalFrame_mem hload
    · exact displayFormalFrame_mem hload
  · exact displayFormalFrame_mem hload

/-! ### Runs -/

/-- Every slot before the next wake has been shown. -/
structure SlotsServed (schedule : ActiveSchedule) (state : WakeState) : Prop where
  started : 0 < state.clock
  served : ∀ showAt ∈ schedule.slots, showAt < state.clock → Shown schedule state showAt

/-- One wake that meets its slots. -/
lemma SlotsServed.wakeCycle {state : WakeState} {cycle : Cycle} (hserved : SlotsServed schedule state)
    (hmeets : MeetsSlots schedule cfg state cycle) : SlotsServed schedule (wakeCycle schedule cfg state cycle) := by
  obtain ⟨-, -, hloaded⟩ := cycle.ordered
  have hbrief := cycle.brief
  have hpos : 0 < state.clock + cycle.asleep := Nat.add_pos_left hserved.started _
  refine ⟨hpos.trans_le (le_sleepUntilNextSchedule_clock _), fun showAt hslot hbefore => ?_⟩
  -- the slot is past, came due during this wake, or would be slept over
  have hasleep : showAt ≤ state.clock + cycle.asleep := by
    by_contra hlater
    exact absurd (sleepUntilNextSchedule_clock_le _ hpos hslot (not_le.mp hlater)) (not_le.mpr hbefore)
  rcases Nat.lt_or_ge showAt state.clock with hpast | hwake
  · obtain ⟨loaded, hdeadline, hmem⟩ := hserved.served showAt hslot hpast
    exact ⟨loaded, hdeadline, by simpa [Firmware.wakeCycle] using loads_serveWake state cycle hmem⟩
  · obtain ⟨-, honly, -, -⟩ := hmeets showAt hslot hwake hasleep
    refine ⟨state.clock + cycle.loaded, le_slotDeadline_of_forall ?_ ?_, ?_⟩
    · unfold formalGraceSeconds
      omega
    · intro other hother hlater
      by_contra hdue
      have heq := honly other hother (by omega) (by omega)
      omega
    · simpa [Firmware.wakeCycle] using serveWake_loads_slot hmeets hslot hwake hasleep

/-- Every slot of a run whose wakes all meet the slots that come due is shown in time. -/
theorem no_slot_missed (schedule : ActiveSchedule) (cfg : WakeConfig) (start : WakeState) (cycles : List Cycle)
    (hclock : 0 < start.clock) (hstart : ∀ showAt ∈ schedule.slots, start.clock ≤ showAt)
    (hmeets : Along (wakeCycle schedule cfg) (MeetsSlots schedule cfg) start cycles) :
    NoSlotMissed schedule (run (wakeCycle schedule cfg) start cycles) := by
  have hserved : SlotsServed schedule (run (wakeCycle schedule cfg) start cycles) := by
    refine invariant_of_along (fun state cycle hstate hcycle => hstate.wakeCycle hcycle) ?_ hmeets
    exact ⟨hclock, fun showAt hslot hbefore => absurd (hstart showAt hslot) (not_le.mpr hbefore)⟩
  intro showAt hslot hover
  exact hserved.served showAt hslot (lt_of_le_of_lt (le_slotDeadline schedule showAt) hover)

end

/-! ### A day with two slots -/

/-- Slots at 08:00 and 20:00 of the day that starts at 2025-06-01T00:00Z. -/
def twoSlots : ActiveSchedule where
  targetStart := 1748736000
  targetEnd := 1748822400
  slots := [1748764800, 1748808000]
  started := by decide
  count := by decide
  inDay := by decide
  sorted := by decide

/-- A wake of one minute. -/
def minuteCycle (wifi : Bool) (download : Download) : Cycle where
  decided := 1
  checked := 20
  loaded := 30
  asleep := 60
  wifi := wifi
  acked := true
  download := download
  drawn := true
  ordered := by decide
  brief := by decide

/-- Without a lead both slots are network wakes. The second has no Wi-Fi and shows the cached frame. -/
theorem no_slot_missed_twoSlots :
    NoSlotMissed twoSlots (run (wakeCycle twoSlots ⟨0, 0⟩) { clock := 1748764800 }
      [minuteCycle true .complete, minuteCycle false .failed]) ∧
    (run (wakeCycle twoSlots ⟨0, 0⟩) { clock := 1748764800 }
      [minuteCycle true .complete, minuteCycle false .failed]).clock = twoSlots.targetEnd :=
  ⟨no_slot_missed twoSlots ⟨0, 0⟩ { clock := 1748764800 } _ (by decide) (by decide) (by decide), by decide⟩

/-- A download that fails on a connected network leaves the due slot unshown until the next one. -/
theorem failed_download_misses_slot :
    (∀ showAt ∈ twoSlots.slots, 1748764800 ≤ showAt) ∧
    ¬NoSlotMissed twoSlots (run (wakeCycle twoSlots ⟨0, 0⟩) { clock := 1748764800 } [minuteCycle true .failed]) := by
  refine ⟨by decide, fun hnone => ?_⟩
  have hloads : (run (wakeCycle twoSlots ⟨0, 0⟩) { clock := 1748764800 } [minuteCycle true .failed]).loads = [] := by
    decide
  obtain ⟨loaded, -, hmem⟩ := hnone 1748764800 (by decide) (by decide)
  rw [hloads] at hmem
  cases hmem

end InkTime.Firmware
