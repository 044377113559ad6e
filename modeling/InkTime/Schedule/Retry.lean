import InkTime.Schedule.Preparation
import InkTime.Schedule.Sync

/-!
# The retry of a device

`retry_after_details` wakes a device ahead of the slots that are still to come, each at its own time of day. The instants that
the playlist resolves differ from these where a slot is put off behind the one before it.
-/

namespace InkTime.Schedule

open Checked (require)
open Json (Value)
open WallClock (Zone Reading DateError second minute day dayOf inCalendar toUtc toLocal inRange_ok toLocal_ok)

structure RetryCall where
  now : ℤ
  scheduleTimes : List (Option String)
  prefetchLeadMinutes : ℤ
  serverMarginMinutes : ℤ
  syncStrategy : Value
  syncTime : Value
  minimumGapMinutes : ℤ
  maximumSlots : Nat

structure RetryAfterDetails where
  retryAfterEpoch : ℤ
  nextSlotEpoch : Option ℤ
  deriving DecidableEq, Repr

/-- `epoch` -/
def epoch (zone : Zone) (value : Reading) : Except DateError ℤ := do
  let instant ← toUtc zone value
  return epochOf instant

def slotEpoch (zone : Zone) (target : ℤ) (slot : String) : Except DateError ℤ := do
  let reading ← localSlotDatetime zone target slot
  epoch zone reading

def slotEpochs (zone : Zone) (target : ℤ) (slots : List String) : Except DateError (List ℤ) := slots.mapM (slotEpoch zone target)

/-- The retry ahead of one slot, which is more than a second away. -/
def candidateFor (nowEpoch lead slotEpoch : ℤ) : ℤ :=
  let safeDeadline := slotEpoch - min lead 5 * 60
  let candidate := max (min (nowEpoch + 15 * 60) safeDeadline) (nowEpoch + 60)
  if slotEpoch ≤ candidate then slotEpoch - 1 else candidate

def retryBeforeSlots (nowEpoch lead : ℤ) : List ℤ → Option RetryAfterDetails
  | [] => none
  | slotEpoch :: rest =>
    if slotEpoch ≤ nowEpoch + 1 then retryBeforeSlots nowEpoch lead rest
    else
      let candidate := candidateFor nowEpoch lead slotEpoch
      if nowEpoch < candidate ∧ candidate < slotEpoch then some ⟨candidate, some slotEpoch⟩
      else retryBeforeSlots nowEpoch lead rest

namespace RetryCall

variable (call : RetryCall) (zone : Zone)

def prepareEpoch (target : ℤ) (epochs : List ℤ) : SyncStrategy × Option String → Except DateError ℤ
  | (.fixedDaily, syncTime) => slotEpoch zone target (syncTime.getD "")
  | (.firstDisplayLead, _) => .ok (epochs.headD 0 - (call.prefetchLeadMinutes + call.serverMarginMinutes) * 60)

/-- `retry_for_day` with its prepare point -/
def retryForDay (slots : List String) (sync : SyncStrategy × Option String) (nowEpoch target : ℤ) :
    Except DateError (Option RetryAfterDetails) := do
  let epochs ← slotEpochs zone target slots
  let prepareEpoch ← call.prepareEpoch zone target epochs sync
  return if nowEpoch < prepareEpoch ∧ prepareEpoch < epochs.headD 0 then some ⟨prepareEpoch, some (epochs.headD 0)⟩
    else retryBeforeSlots nowEpoch call.prefetchLeadMinutes epochs

/-- Rule C: the first prepare point of tomorrow, or a retry ahead of its slots, or the next second. -/
def retryTomorrow (slots : List String) (sync : SyncStrategy × Option String) (nowEpoch today : ℤ) :
    Except DateError RetryAfterDetails := do
  let tomorrow ← dateAfter today
  let epochs ← slotEpochs zone tomorrow slots
  let prepareEpoch ← call.prepareEpoch zone tomorrow epochs sync
  return if nowEpoch < prepareEpoch ∧ prepareEpoch < epochs.headD 0 then ⟨prepareEpoch, none⟩
    else (retryBeforeSlots nowEpoch call.prefetchLeadMinutes epochs).getD ⟨nowEpoch + 1, none⟩

end RetryCall

def retryAfterDetails (zone : Zone) (call : RetryCall) : Except DateError RetryAfterDetails := do
  require (0 ≤ call.prefetchLeadMinutes && call.prefetchLeadMinutes ≤ 120) (.value "DEVICE-008 prefetch_lead_minutes 不合法")
  require (0 ≤ call.serverMarginMinutes && call.serverMarginMinutes ≤ 60) (.value "DEVICE-008 server_prefetch_margin_minutes 不合法")
  let localNow ← toLocal zone call.now
  let sync ← (normalizeSyncStrategy call.syncStrategy call.syncTime).mapError fun refused => .value refused.message
  let slots ← validated call.scheduleTimes (resolveOfflineScheduleMaxSlots (.int call.maximumSlots)) call.minimumGapMinutes
  let today := dayOf localNow.wall
  let nowEpoch ← epoch zone localNow
  match ← call.retryForDay zone slots sync nowEpoch today with
  | some details => return details
  | none => call.retryTomorrow zone slots sync nowEpoch today

/-! ### One slot -/

/-- The instant of an epoch -/
def instantOf (epoch : ℤ) : ℤ := unixEpoch + epoch * second

/-- The first slot more than a second ahead -/
def ahead (nowEpoch : ℤ) (epochs : List ℤ) : Option ℤ := epochs.find? fun slotEpoch => nowEpoch + 1 < slotEpoch

/-- The retry ahead of a slot comes before an instant: the slot itself does, or a minute from now, and either a quarter of an hour
from now or the lead of up to five minutes before the slot. -/
def Reaches (nowEpoch lead slotEpoch instant : ℤ) : Prop :=
  instantOf (slotEpoch - 1) < instant ∨
    instantOf (nowEpoch + 60) < instant ∧
      (instantOf (nowEpoch + 15 * 60) < instant ∨ instantOf (slotEpoch - min lead 5 * 60) < instant)

section

variable {nowEpoch lead slotEpoch instant : ℤ}

lemma candidateFor_between (lead : ℤ) (h : nowEpoch + 1 < slotEpoch) :
    nowEpoch < candidateFor nowEpoch lead slotEpoch ∧ candidateFor nowEpoch lead slotEpoch < slotEpoch := by
  unfold candidateFor
  dsimp only
  split
  · omega
  · next hlt =>
    have := le_max_right (min (nowEpoch + 15 * 60) (slotEpoch - min lead 5 * 60)) (nowEpoch + 60)
    omega

lemma candidateFor_reaches : instantOf (candidateFor nowEpoch lead slotEpoch) < instant ↔ Reaches nowEpoch lead slotEpoch instant := by
  unfold candidateFor Reaches instantOf second
  dsimp only
  split
  · omega
  · omega

lemma retryBeforeSlots_eq (epochs : List ℤ) : retryBeforeSlots nowEpoch lead epochs =
    (ahead nowEpoch epochs).map fun slotEpoch => ⟨candidateFor nowEpoch lead slotEpoch, some slotEpoch⟩ := by
  induction epochs with
  | nil => rfl
  | cons slotEpoch rest ih =>
    unfold retryBeforeSlots ahead
    by_cases h : slotEpoch ≤ nowEpoch + 1
    · rw [if_pos h, ih, List.find?_cons_of_neg (by simpa using h)]
      rfl
    · rw [if_neg h, List.find?_cons_of_pos (by simpa using h)]
      exact if_pos (candidateFor_between lead (not_le.mp h))

/-! ### Epochs of a day's slots -/

/-- An instant is past every whole second that its epoch is past. -/
lemma instantOf_lt {instant : ℤ} (hcalendar : inCalendar instant = true) (h : nowEpoch < epochOf instant) :
    instantOf nowEpoch < instant := by
  by_contra hle
  have hsmall : |(((instant - unixEpoch : ℤ) : ℚ) / 1000000)| < 2 ^ 52 := by
    unfold inCalendar day at hcalendar
    simp only [Bool.and_eq_true, decide_eq_true_eq] at hcalendar
    rw [abs_lt, lt_div_iff₀ (by norm_num), div_lt_iff₀ (by norm_num)]
    constructor
    · exact_mod_cast (show -2 ^ 52 * 1000000 < instant - unixEpoch by unfold unixEpoch day; omega)
    · exact_mod_cast (show instant - unixEpoch < 2 ^ 52 * 1000000 by unfold unixEpoch day; omega)
  have hbelow : ((instant - unixEpoch : ℤ) : ℚ) / 1000000 ≤ nowEpoch := by
    rw [div_le_iff₀ (by norm_num)]
    exact_mod_cast (show instant - unixEpoch ≤ nowEpoch * 1000000 by unfold instantOf second at hle; omega)
  exact absurd (Rounding.truncate_nearestDouble_le hsmall hbelow) (not_le.mpr h)

variable {zone : Zone} {target : ℤ}

lemma slotEpochs_ok {slots : List String} {epochs : List ℤ} (h : slotEpochs zone target slots = .ok epochs) :
    ∃ exacts, List.Forall₂ (SlotAt zone target) slots exacts ∧ (∀ exact ∈ exacts, inCalendar exact = true) ∧
      epochs = exacts.map epochOf := by
  induction slots generalizing epochs with
  | nil =>
    obtain rfl := Except.ok.inj h
    exact ⟨[], List.Forall₂.nil, by simp, rfl⟩
  | cons slot rest ih =>
    unfold slotEpochs at h
    rw [List.mapM_cons] at h
    obtain ⟨first, hfirst, h⟩ := Checked.bind_eq_ok.mp h
    obtain ⟨others, hothers, h⟩ := Checked.bind_eq_ok.mp h
    obtain rfl := Except.ok.inj h
    obtain ⟨reading, hreading, hfirst⟩ := Checked.bind_eq_ok.mp hfirst
    obtain ⟨exact, hexact, hfirst⟩ := Checked.bind_eq_ok.mp hfirst
    obtain rfl := Except.ok.inj hfirst
    obtain ⟨hcalendar, rfl⟩ := inRange_ok.mp hexact
    obtain ⟨exacts, hslots, hexacts, rfl⟩ := ih hothers
    refine ⟨zone.toUtc reading :: exacts, List.Forall₂.cons ⟨reading, hreading, rfl⟩ hslots, ?_, rfl⟩
    intro exact hmem
    obtain rfl | hmem := List.mem_cons.mp hmem
    · exact hcalendar
    · exact hexacts exact hmem

lemma slotAt_unique : Relator.RightUnique (SlotAt zone target) := by
  rintro slot instant other ⟨reading, hreading, rfl⟩ ⟨reading', hreading', rfl⟩
  obtain rfl := Except.ok.inj (hreading.symm.trans hreading')
  rfl

lemma mem_deferAll_ge {gap : ℤ} (hgap : 0 ≤ gap) {previous : Option ℤ} {first : ℤ} {rest : List ℤ} :
    ∀ instant ∈ deferAll gap previous (first :: rest), first ≤ instant := by
  intro instant hinstant
  cases previous with
  | none =>
    obtain rfl | hinstant := List.mem_cons.mp hinstant
    · exact le_refl _
    · have := deferAll_after hgap first rest instant hinstant
      linarith
  | some last =>
    have hfirst := le_max_left first (last + gap)
    obtain rfl | hinstant := List.mem_cons.mp hinstant
    · exact hfirst
    · have := deferAll_after hgap _ rest instant hinstant
      linarith

/-- The second before the first slot ahead comes before every slot that is ahead by its own time, wherever it is put off to. -/
lemma before_kept {gap : ℤ} (hgap : 0 ≤ gap) {previous : Option ℤ} {exacts : List ℤ}
    (hcalendar : ∀ exact ∈ exacts, inCalendar exact = true)
    (h : ahead nowEpoch (exacts.map epochOf) = some slotEpoch) :
    ∀ pair ∈ exacts.zip (deferAll gap previous exacts), nowEpoch + 1 < epochOf pair.1 → instantOf (slotEpoch - 1) < pair.2 := by
  induction exacts generalizing previous with
  | nil => cases h
  | cons first rest ih =>
    intro pair hpair hkept
    have hlast := mem_deferAll_ge hgap pair.2 (List.of_mem_zip hpair).2
    unfold ahead at h
    rw [List.map_cons] at h
    by_cases hfirst : nowEpoch + 1 < epochOf first
    · rw [List.find?_cons_of_pos (by simpa using hfirst)] at h
      obtain rfl := Option.some.inj h
      exact lt_of_lt_of_le (instantOf_lt (hcalendar first List.mem_cons_self) (sub_one_lt _)) hlast
    · rw [List.find?_cons_of_neg (by simpa using hfirst)] at h
      have hrest : ∀ exact ∈ rest, inCalendar exact = true := fun exact hexact => hcalendar exact (List.mem_cons_of_mem _ hexact)
      obtain ⟨instant, -, hdeferred⟩ := deferAll_cons gap previous first rest
      rw [hdeferred, List.zip_cons_cons] at hpair
      obtain rfl | hpair := List.mem_cons.mp hpair
      · exact absurd hkept hfirst
      · exact ih hrest h pair hpair hkept

end

/-! ### The retry -/

variable {zone : Zone} {call : RetryCall} {slots : List String} {sync : SyncStrategy × Option String} {details : RetryAfterDetails}

/-- The earliest resolved slot of today that is more than a second ahead. -/
def NextResolved (zone : Zone) (call : RetryCall) (instant : ℤ) : Prop :=
  ∃ maximumSlots resolved,
    resolvedSlotDatetimes zone (dayOf (zone.clock call.now)) call.scheduleTimes call.minimumGapMinutes maximumSlots = .ok resolved ∧
      IsLeast { slot | slot ∈ resolved ∧ call.now + second < slot } instant

/-- `now_epoch` -/
def RetryCall.nowEpoch (call : RetryCall) (zone : Zone) : ℤ := epochOf (zone.toUtc (zone.ofUtc call.now))

/-- The resolved slot is of one whose own time is past. -/
def PutOff (zone : Zone) (call : RetryCall) (slots : List String) (instant : ℤ) : Prop :=
  ∃ exacts, List.Forall₂ (SlotAt zone (dayOf (zone.clock call.now))) slots exacts ∧
    ∃ pair ∈ exacts.zip (deferAll (call.minimumGapMinutes * minute) none exacts),
      pair.2 = instant ∧ epochOf pair.1 ≤ call.nowEpoch zone + 1

/-- Going by the slots' own times of day, today's first that is more than a second ahead or else what tomorrow begins with, the
device wakes before an instant. -/
def WakesBefore (zone : Zone) (call : RetryCall) (slots : List String) (sync : SyncStrategy × Option String) (instant : ℤ) : Prop :=
  let today := dayOf (zone.clock call.now)
  let nowEpoch := call.nowEpoch zone
  ∃ own, slotEpochs zone today slots = .ok own ∧
    match ahead nowEpoch own with
    | some slotEpoch => Reaches nowEpoch call.prefetchLeadMinutes slotEpoch instant
    | none =>
      ∃ next prepareEpoch, slotEpochs zone (today + 1) slots = .ok next ∧
        call.prepareEpoch zone (today + 1) next sync = .ok prepareEpoch ∧
        if nowEpoch < prepareEpoch ∧ prepareEpoch < next.headD 0 then instantOf prepareEpoch < instant
        else
          match ahead nowEpoch next with
          | some slotEpoch => Reaches nowEpoch call.prefetchLeadMinutes slotEpoch instant
          | none => instantOf (nowEpoch + 1) < instant

/-- What the details that were found are made of. -/
theorem retryAfterDetails_ok
    (hsync : normalizeSyncStrategy call.syncStrategy call.syncTime = .ok sync)
    (hslots : validated call.scheduleTimes (resolveOfflineScheduleMaxSlots (.int call.maximumSlots)) call.minimumGapMinutes = .ok slots)
    (h : retryAfterDetails zone call = .ok details) :
    ∃ found, call.retryForDay zone slots sync (call.nowEpoch zone) (dayOf (zone.clock call.now)) = .ok found ∧
      (found = some details ∨
        found = none ∧ call.retryTomorrow zone slots sync (call.nowEpoch zone) (dayOf (zone.clock call.now)) = .ok details) := by
  obtain ⟨_, -, h⟩ := Checked.bind_eq_ok.mp h
  obtain ⟨_, -, h⟩ := Checked.bind_eq_ok.mp h
  obtain ⟨localNow, hlocal, h⟩ := Checked.bind_eq_ok.mp h
  obtain ⟨sync', hsync', h⟩ := Checked.bind_eq_ok.mp h
  obtain ⟨slots', hslots', h⟩ := Checked.bind_eq_ok.mp h
  obtain ⟨nowEpoch, hnow, h⟩ := Checked.bind_eq_ok.mp h
  obtain ⟨found, hfound, h⟩ := Checked.bind_eq_ok.mp h
  obtain ⟨-, rfl⟩ := toLocal_ok.mp hlocal
  rw [hsync] at hsync'
  obtain rfl := Except.ok.inj hsync'
  obtain rfl := Except.ok.inj (hslots.symm.trans hslots')
  obtain ⟨instant, hinstant, hnow⟩ := Checked.bind_eq_ok.mp hnow
  obtain ⟨-, rfl⟩ := inRange_ok.mp hinstant
  obtain rfl := Except.ok.inj hnow
  refine ⟨found, hfound, ?_⟩
  cases found with
  | some found => exact .inl (congrArg some (Except.ok.inj h))
  | none => exact .inr ⟨rfl, h⟩

/-- Today's own times and the resolved slots of today are of the same slots. -/
lemma own_resolved {own : List ℤ} {instant : ℤ}
    (hslots : validated call.scheduleTimes (resolveOfflineScheduleMaxSlots (.int call.maximumSlots)) call.minimumGapMinutes = .ok slots)
    (hown : slotEpochs zone (dayOf (zone.clock call.now)) slots = .ok own) (h : NextResolved zone call instant) :
    ∃ exacts, own = exacts.map epochOf ∧ List.Forall₂ (SlotAt zone (dayOf (zone.clock call.now))) slots exacts ∧
      (∀ exact ∈ exacts, inCalendar exact = true) ∧ exacts ≠ [] ∧ instant ∈ deferAll (call.minimumGapMinutes * minute) none exacts := by
  obtain ⟨maximumSlots, resolved, hresolved, ⟨hmem, -⟩, -⟩ := h
  obtain ⟨exacts, hat, hcalendar, rfl⟩ := slotEpochs_ok hown
  obtain ⟨schedule, hvalid, exacts', hat', rfl, -⟩ := resolvedSlotDatetimes_ok hresolved
  obtain rfl := validated_maximum hslots hvalid
  obtain rfl := slotAt_unique.forall₂ hat hat'
  refine ⟨exacts, rfl, hat, hcalendar, ?_, hmem⟩
  rintro rfl
  cases hat
  exact (validated_ok hslots).nonempty rfl

/-- A resolved slot stands beside the time of its slot. -/
lemma resolved_pair {own : List ℤ} {instant : ℤ}
    (hslots : validated call.scheduleTimes (resolveOfflineScheduleMaxSlots (.int call.maximumSlots)) call.minimumGapMinutes = .ok slots)
    (hown : slotEpochs zone (dayOf (zone.clock call.now)) slots = .ok own) (h : NextResolved zone call instant) :
    ∃ exacts, List.Forall₂ (SlotAt zone (dayOf (zone.clock call.now))) slots exacts ∧
      ∃ pair ∈ exacts.zip (deferAll (call.minimumGapMinutes * minute) none exacts), pair.2 = instant := by
  obtain ⟨exacts, -, hexacts, -, -, hmem⟩ := own_resolved hslots hown h
  refine ⟨exacts, hexacts, ?_⟩
  have hlength := length_deferAll (call.minimumGapMinutes * minute) none exacts
  rw [← List.map_snd_zip hlength.le] at hmem
  obtain ⟨pair, hpair, hinstant⟩ := List.mem_map.mp hmem
  exact ⟨pair, hpair, hinstant⟩

lemma wakesBefore_own {own : List ℤ} {slotEpoch instant : ℤ} (hown : slotEpochs zone (dayOf (zone.clock call.now)) slots = .ok own)
    (hahead : ahead (call.nowEpoch zone) own = some slotEpoch) :
    WakesBefore zone call slots sync instant ↔ Reaches (call.nowEpoch zone) call.prefetchLeadMinutes slotEpoch instant := by
  constructor
  · rintro ⟨own', hown', hreaches⟩
    obtain rfl := Except.ok.inj (hown.symm.trans hown')
    rwa [hahead] at hreaches
  · intro hreaches
    refine ⟨own, hown, ?_⟩
    rwa [hahead]

lemma wakesBefore_next {own next : List ℤ} {prepareEpoch instant : ℤ}
    (hown : slotEpochs zone (dayOf (zone.clock call.now)) slots = .ok own) (hahead : ahead (call.nowEpoch zone) own = none)
    (hnext : slotEpochs zone (dayOf (zone.clock call.now) + 1) slots = .ok next)
    (hprepare : call.prepareEpoch zone (dayOf (zone.clock call.now) + 1) next sync = .ok prepareEpoch) :
    WakesBefore zone call slots sync instant ↔
      if call.nowEpoch zone < prepareEpoch ∧ prepareEpoch < next.headD 0 then instantOf prepareEpoch < instant
      else
        match ahead (call.nowEpoch zone) next with
        | some slotEpoch => Reaches (call.nowEpoch zone) call.prefetchLeadMinutes slotEpoch instant
        | none => instantOf (call.nowEpoch zone + 1) < instant := by
  constructor
  · rintro ⟨own', hown', hwakes⟩
    obtain rfl := Except.ok.inj (hown.symm.trans hown')
    rw [hahead] at hwakes
    obtain ⟨next', prepareEpoch', hnext', hprepare', hwakes⟩ := hwakes
    obtain rfl := Except.ok.inj (hnext.symm.trans hnext')
    obtain rfl := Except.ok.inj (hprepare.symm.trans hprepare')
    exact hwakes
  · intro hwakes
    refine ⟨own, hown, ?_⟩
    rw [hahead]
    exact ⟨next, prepareEpoch, hnext, hprepare, hwakes⟩

lemma ahead_some {nowEpoch slotEpoch : ℤ} {epochs : List ℤ} (h : ahead nowEpoch epochs = some slotEpoch) :
    nowEpoch + 1 < slotEpoch := by
  simpa using List.find?_some h

lemma ahead_head {nowEpoch first : ℤ} {rest : List ℤ} (h : nowEpoch + 1 < first) : ahead nowEpoch (first :: rest) = some first :=
  List.find?_cons_of_pos (decide_eq_true h)

/-- What today's slots bring: the prepare point where it lies ahead of them, or the retry ahead of the first. -/
lemma today_retry {own : List ℤ} {prepareEpoch : ℤ}
    (hslots : validated call.scheduleTimes (resolveOfflineScheduleMaxSlots (.int call.maximumSlots)) call.minimumGapMinutes = .ok slots)
    (hown : slotEpochs zone (dayOf (zone.clock call.now)) slots = .ok own)
    (h : (if call.nowEpoch zone < prepareEpoch ∧ prepareEpoch < own.headD 0 then some ⟨prepareEpoch, some (own.headD 0)⟩
      else retryBeforeSlots (call.nowEpoch zone) call.prefetchLeadMinutes own) = some details) :
    (call.nowEpoch zone < details.retryAfterEpoch ∧ ∀ slotEpoch ∈ details.nextSlotEpoch, details.retryAfterEpoch < slotEpoch) ∧
      ∀ instant, NextResolved zone call instant →
        (instantOf details.retryAfterEpoch < instant ↔ WakesBefore zone call slots sync instant) := by
  split at h
  · next hpoint =>
    obtain rfl := Option.some.inj h
    refine ⟨⟨hpoint.1, by rintro _ ⟨⟩; exact hpoint.2⟩, ?_⟩
    intro instant hinstant
    obtain ⟨exacts, rfl, -, hcalendar, hne, hmem⟩ := own_resolved hslots hown hinstant
    obtain ⟨first, rest, rfl⟩ := List.exists_cons_of_ne_nil hne
    have hfirst : first ≤ instant := by
      have hgap : 0 ≤ call.minimumGapMinutes * minute := mul_nonneg (le_of_lt (validated_ok hslots).positive) (by decide)
      exact mem_deferAll_ge hgap instant hmem
    change call.nowEpoch zone < prepareEpoch ∧ prepareEpoch < epochOf first at hpoint
    have hbefore : ∀ earlier < epochOf first, instantOf earlier < instant := fun earlier hearlier =>
      lt_of_lt_of_le (instantOf_lt (hcalendar first List.mem_cons_self) hearlier) hfirst
    have hahead : ahead (call.nowEpoch zone) ((first :: rest).map epochOf) = some (epochOf first) := ahead_head (by omega)
    rw [wakesBefore_own hown hahead]
    exact ⟨fun _ => .inl (hbefore _ (by omega)), fun _ => hbefore _ hpoint.2⟩
  · rw [retryBeforeSlots_eq] at h
    obtain ⟨slotEpoch, hahead, rfl⟩ := Option.map_eq_some_iff.mp h
    obtain ⟨hnow, hslot⟩ := candidateFor_between call.prefetchLeadMinutes (ahead_some hahead)
    refine ⟨⟨hnow, by rintro _ ⟨⟩; exact hslot⟩, ?_⟩
    intro instant _
    rw [wakesBefore_own hown hahead]
    exact candidateFor_reaches

/-- What is found where no slot of today is ahead by its own time. -/
lemma tomorrow_retry {own : List ℤ} (hown : slotEpochs zone (dayOf (zone.clock call.now)) slots = .ok own)
    (hahead : ahead (call.nowEpoch zone) own = none)
    (h : call.retryTomorrow zone slots sync (call.nowEpoch zone) (dayOf (zone.clock call.now)) = .ok details) :
    (call.nowEpoch zone < details.retryAfterEpoch ∧ ∀ slotEpoch ∈ details.nextSlotEpoch, details.retryAfterEpoch < slotEpoch) ∧
      ∀ instant, instantOf details.retryAfterEpoch < instant ↔ WakesBefore zone call slots sync instant := by
  obtain ⟨tomorrow, htomorrow, h⟩ := Checked.bind_eq_ok.mp h
  obtain ⟨next, hnext, h⟩ := Checked.bind_eq_ok.mp h
  obtain ⟨prepareEpoch, hprepare, hdetails⟩ := Checked.bind_eq_ok.mp h
  obtain ⟨_, -, hdate⟩ := Checked.bind_eq_ok.mp htomorrow
  obtain rfl := Except.ok.inj hdate
  obtain rfl := Except.ok.inj hdetails
  have hwakes : ∀ instant, WakesBefore zone call slots sync instant ↔ _ := fun instant => wakesBefore_next hown hahead hnext hprepare
  by_cases hpoint : call.nowEpoch zone < prepareEpoch ∧ prepareEpoch < next.headD 0
  · rw [if_pos hpoint]
    refine ⟨⟨hpoint.1, by rintro _ ⟨⟩⟩, fun instant => ?_⟩
    rw [hwakes, if_pos hpoint]
  · rw [if_neg hpoint, retryBeforeSlots_eq]
    cases hnextAhead : ahead (call.nowEpoch zone) next with
    | some slotEpoch =>
      obtain ⟨hnow, hslot⟩ := candidateFor_between call.prefetchLeadMinutes (ahead_some hnextAhead)
      refine ⟨⟨hnow, by rintro _ ⟨⟩; exact hslot⟩, fun instant => ?_⟩
      rw [hwakes, if_neg hpoint, hnextAhead]
      exact candidateFor_reaches
    | none =>
      refine ⟨⟨lt_add_one _, by rintro _ ⟨⟩⟩, fun instant => ?_⟩
      rw [hwakes, if_neg hpoint, hnextAhead]
      rfl

/-- Where a slot of today is ahead, the retry is before the first such slot. -/
lemma retryForDay_before {own : List ℤ} {slotEpoch prepareEpoch : ℤ} (hahead : ahead (call.nowEpoch zone) own = some slotEpoch) :
    ∃ found, (if call.nowEpoch zone < prepareEpoch ∧ prepareEpoch < own.headD 0 then some ⟨prepareEpoch, some (own.headD 0)⟩
      else retryBeforeSlots (call.nowEpoch zone) call.prefetchLeadMinutes own) = some found ∧ found.retryAfterEpoch < slotEpoch := by
  split
  · next hpoint =>
    refine ⟨_, rfl, ?_⟩
    cases own with
    | nil => cases hahead
    | cons first rest =>
      rw [List.headD_cons] at hpoint
      rw [ahead_head (by omega)] at hahead
      obtain rfl := Option.some.inj hahead
      exact hpoint.2
  · rw [retryBeforeSlots_eq, hahead]
    exact ⟨_, rfl, (candidateFor_between _ (ahead_some hahead)).2⟩

/-- A slot that is ahead by its own time is not skipped, wherever it is put off to. -/
theorem retry_before_kept (hsync : normalizeSyncStrategy call.syncStrategy call.syncTime = .ok sync)
    (hslots : validated call.scheduleTimes (resolveOfflineScheduleMaxSlots (.int call.maximumSlots)) call.minimumGapMinutes = .ok slots)
    (h : retryAfterDetails zone call = .ok details) {exacts : List ℤ}
    (hexacts : List.Forall₂ (SlotAt zone (dayOf (zone.clock call.now))) slots exacts) :
    ∀ pair ∈ exacts.zip (deferAll (call.minimumGapMinutes * minute) none exacts),
      call.nowEpoch zone + 1 < epochOf pair.1 → instantOf details.retryAfterEpoch < pair.2 := by
  intro pair hpair hkept
  obtain ⟨found, hfound, hdetails⟩ := retryAfterDetails_ok hsync hslots h
  obtain ⟨own, hown, hfound⟩ := Checked.bind_eq_ok.mp hfound
  obtain ⟨prepareEpoch, -, hfound⟩ := Checked.bind_eq_ok.mp hfound
  obtain rfl := Except.ok.inj hfound
  obtain ⟨exacts', hat, hcalendar, rfl⟩ := slotEpochs_ok hown
  obtain rfl := slotAt_unique.forall₂ hexacts hat
  have hgap : 0 ≤ call.minimumGapMinutes * minute := mul_nonneg (le_of_lt (validated_ok hslots).positive) (by decide)
  obtain ⟨slotEpoch, hahead⟩ : ∃ slotEpoch, ahead (call.nowEpoch zone) (exacts.map epochOf) = some slotEpoch := by
    unfold ahead
    rw [← Option.isSome_iff_exists, List.find?_isSome]
    exact ⟨_, List.mem_map_of_mem (List.of_mem_zip hpair).1, decide_eq_true hkept⟩
  have hbefore := before_kept hgap hcalendar hahead pair hpair hkept
  suffices hretry : details.retryAfterEpoch < slotEpoch by
    unfold instantOf second at *
    omega
  obtain ⟨retry, hretry, hlt⟩ := retryForDay_before hahead
  obtain hdetails | hnone := hdetails
  · obtain rfl := Option.some.inj (hretry.symm.trans hdetails)
    exact hlt
  · cases hretry.symm.trans hnone.1

/-- The retry lies ahead, before the slot that it names; and it is before the earliest resolved slot ahead exactly where that slot is not
put off, or the device wakes before it by the slots' own times. -/
theorem retry_skips_none (hsync : normalizeSyncStrategy call.syncStrategy call.syncTime = .ok sync)
    (hslots : validated call.scheduleTimes (resolveOfflineScheduleMaxSlots (.int call.maximumSlots)) call.minimumGapMinutes = .ok slots)
    (h : retryAfterDetails zone call = .ok details) :
    (call.nowEpoch zone < details.retryAfterEpoch ∧ (∀ slotEpoch ∈ details.nextSlotEpoch, details.retryAfterEpoch < slotEpoch) ∧
        ∀ instant, NextResolved zone call instant → instantOf details.retryAfterEpoch < instant) ↔
      ∀ instant, NextResolved zone call instant → PutOff zone call slots instant → WakesBefore zone call slots sync instant := by
  obtain ⟨found, hfound, hdetails⟩ := retryAfterDetails_ok hsync hslots h
  obtain ⟨own, hown, hfound⟩ := Checked.bind_eq_ok.mp hfound
  obtain ⟨prepareEpoch, hprepare, hfound⟩ := Checked.bind_eq_ok.mp hfound
  obtain rfl := Except.ok.inj hfound
  have hretry : (call.nowEpoch zone < details.retryAfterEpoch ∧
        ∀ slotEpoch ∈ details.nextSlotEpoch, details.retryAfterEpoch < slotEpoch) ∧
      ∀ instant, NextResolved zone call instant →
        (instantOf details.retryAfterEpoch < instant ↔ WakesBefore zone call slots sync instant) := by
    obtain htoday | ⟨htoday, htomorrow⟩ := hdetails
    · exact today_retry hslots hown htoday
    · have hahead : ahead (call.nowEpoch zone) own = none := by
        split at htoday
        · cases htoday
        · rwa [retryBeforeSlots_eq, Option.map_eq_none_iff] at htoday
      obtain ⟨hnow, hwakes⟩ := tomorrow_retry hown hahead htomorrow
      exact ⟨hnow, fun instant _ => hwakes instant⟩
  obtain ⟨⟨hnow, hnext⟩, hwakes⟩ := hretry
  constructor
  · rintro ⟨-, -, hbefore⟩ instant hinstant -
    exact (hwakes instant hinstant).mp (hbefore instant hinstant)
  · refine fun hall => ⟨hnow, hnext, fun instant hinstant => ?_⟩
    by_cases hput : PutOff zone call slots instant
    · exact (hwakes instant hinstant).mpr (hall instant hinstant hput)
    · obtain ⟨exacts, hexacts, pair, hpair, rfl⟩ := resolved_pair hslots hown hinstant
      apply retry_before_kept hsync hslots h hexacts pair hpair
      exact not_le.mp fun hle => hput ⟨exacts, hexacts, pair, hpair, rfl, hle⟩

/-- The morning of 2024-01-01, before a slot at 21:00 -/
def newYear : RetryCall where
  now := 738885 * day + 600 * minute
  scheduleTimes := [some "21:00"]
  prefetchLeadMinutes := 5
  serverMarginMinutes := 10
  syncStrategy := .null
  syncTime := .null
  minimumGapMinutes := 60
  maximumSlots := 24

/-- A clock that is turned forward from 02:00 to 03:00 on 2024-03-10. -/
def springForward : Zone where
  initial := -300 * minute
  transitions := [(738954 * day + 420 * minute, -240 * minute)]
  ordered := by decide
  bounded := by decide

/-- Half past three on that day, with slots at 02:00 and 03:00. -/
def afterSkip : RetryCall :=
  { newYear with
    now := 738954 * day + 450 * minute
    scheduleTimes := [some "02:00", some "03:00"] }

/-- With a third slot at 04:30, which wakes the device at 03:45. -/
def threeSlots : RetryCall := { afterSkip with scheduleTimes := [some "02:00", some "03:00", some "04:30"] }

lemma threeSlots_exacts : List.Forall₂ (SlotAt springForward (dayOf (springForward.clock threeSlots.now))) ["02:00", "03:00", "04:30"]
    [738954 * day + 420 * minute, 738954 * day + 420 * minute, 738954 * day + 510 * minute] := by
  have hfirst : localSlotDatetime springForward 738954 "02:00" = .ok ⟨738954 * day + 180 * minute, false⟩ := by decide +kernel
  have hsecond : localSlotDatetime springForward 738954 "03:00" = .ok ⟨738954 * day + 180 * minute, false⟩ := by decide +kernel
  have hthird : localSlotDatetime springForward 738954 "04:30" = .ok ⟨738954 * day + 270 * minute, false⟩ := by decide +kernel
  exact .cons ⟨_, hfirst, by decide +kernel⟩ (.cons ⟨_, hsecond, by decide +kernel⟩ (.cons ⟨_, hthird, by decide +kernel⟩ .nil))

lemma threeSlots_deferred : deferAll (threeSlots.minimumGapMinutes * minute) none
    [738954 * day + 420 * minute, 738954 * day + 420 * minute, 738954 * day + 510 * minute] =
      [738954 * day + 420 * minute, 738954 * day + 480 * minute, 738954 * day + 540 * minute] := by decide

lemma threeSlots_later {slot : ℤ} (hslot : slot ∈ [738954 * day + 420 * minute, 738954 * day + 480 * minute, 738954 * day + 540 * minute])
    (hnow : threeSlots.now + second < slot) : 738954 * day + 480 * minute ≤ slot := by
  simp only [List.mem_cons, List.not_mem_nil, or_false] at hslot
  have hat : threeSlots.now = 738954 * day + 450 * minute := rfl
  rw [hat] at hnow
  unfold day minute second at *
  omega

theorem retry_skips_none_threeSlots :
    NextResolved springForward threeSlots (738954 * day + 480 * minute) ∧
      PutOff springForward threeSlots ["02:00", "03:00", "04:30"] (738954 * day + 480 * minute) ∧
      threeSlots.nowEpoch springForward < 1710056700 ∧ (∀ slotEpoch ∈ some 1710059400, (1710056700 : ℤ) < slotEpoch) ∧
      ∀ instant, NextResolved springForward threeSlots instant → instantOf 1710056700 < instant := by
  have hsync : normalizeSyncStrategy threeSlots.syncStrategy threeSlots.syncTime = .ok (.firstDisplayLead, none) := by decide +kernel
  have hslots : validated threeSlots.scheduleTimes (resolveOfflineScheduleMaxSlots (.int threeSlots.maximumSlots))
      threeSlots.minimumGapMinutes = .ok ["02:00", "03:00", "04:30"] := by decide +kernel
  have hfound : retryAfterDetails springForward threeSlots = .ok ⟨1710056700, some 1710059400⟩ := by decide +kernel
  have hown : slotEpochs springForward (dayOf (springForward.clock threeSlots.now)) ["02:00", "03:00", "04:30"] =
      .ok [1710054000, 1710054000, 1710059400] := by decide +kernel
  have hahead : ahead (threeSlots.nowEpoch springForward) [1710054000, 1710054000, 1710059400] = some 1710059400 := by decide +kernel
  have hlater : ∀ instant, NextResolved springForward threeSlots instant → 738954 * day + 480 * minute ≤ instant := by
    intro instant hinstant
    obtain ⟨exacts, -, hexacts, -, -, hmem⟩ := own_resolved hslots hown hinstant
    obtain rfl := slotAt_unique.forall₂ threeSlots_exacts hexacts
    obtain ⟨-, -, -, ⟨-, hnow⟩, -⟩ := hinstant
    exact threeSlots_later (by rwa [← threeSlots_deferred]) hnow
  have hresolved : resolvedSlotDatetimes springForward (dayOf (springForward.clock threeSlots.now)) threeSlots.scheduleTimes
      threeSlots.minimumGapMinutes 24 =
        .ok [738954 * day + 420 * minute, 738954 * day + 480 * minute, 738954 * day + 540 * minute] := by decide +kernel
  refine ⟨⟨24, _, hresolved, ⟨by decide, fun other hother => threeSlots_later hother.1 hother.2⟩⟩,
    ⟨_, threeSlots_exacts, (738954 * day + 420 * minute, 738954 * day + 480 * minute), by decide, rfl, by decide +kernel⟩, ?_⟩
  refine (retry_skips_none hsync hslots hfound).mpr fun instant hinstant _ => ?_
  rw [wakesBefore_own hown hahead]
  have hinstant := hlater instant hinstant
  have hnow : threeSlots.nowEpoch springForward = 1710055800 := by decide +kernel
  rw [hnow]
  unfold day minute at hinstant
  unfold Reaches instantOf unixEpoch second day
  omega

/-- The second slot is put off to 04:00, and the retry is the prepare point of the next day. -/
theorem put_off_slot_skipped : ∃ details,
    retryAfterDetails springForward afterSkip = .ok details ∧ NextResolved springForward afterSkip (738954 * day + 480 * minute) ∧
      738954 * day + 480 * minute < instantOf details.retryAfterEpoch := by
  refine ⟨⟨1710135900, none⟩, by decide +kernel, ⟨24, [738954 * day + 420 * minute, 738954 * day + 480 * minute], by decide +kernel,
    ⟨by decide, ?_⟩⟩, by decide⟩
  rintro other ⟨hother, hlt⟩
  simp only [List.mem_cons, List.not_mem_nil, or_false] at hother
  have hnow : afterSkip.now = 738954 * day + 450 * minute := rfl
  rw [hnow] at hlt
  unfold day minute second at *
  omega

end InkTime.Schedule
