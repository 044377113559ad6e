import InkTime.Schedule.Slots

/-!
# Resolved slots and their deadlines

A day's slots are resolved one after another, each put off behind the one before it. On a day with one offset none is put
off; the deadlines of a day follow its slots wherever the next day's slots do.
-/

namespace InkTime.Schedule

open WallClock (Zone Reading DateError day minute dayOf inCalendar inRange toUtc toLocal inRange_ok toLocal_ok)

variable {zone : Zone} {target : ℤ}

/-! ### Relations between lists -/

lemma exists_of_forall₂ {α β : Type} {R : α → β → Prop} {xs : List α} {ys : List β} (h : List.Forall₂ R xs ys) {y : β}
    (hy : y ∈ ys) : ∃ x ∈ xs, R x y := by
  induction h with
  | nil => cases hy
  | @cons x y' xs ys hxy _ ih =>
    obtain rfl | hy := List.mem_cons.mp hy
    · exact ⟨x, List.mem_cons_self, hxy⟩
    · obtain ⟨other, hother, hR⟩ := ih hy
      exact ⟨other, List.mem_cons_of_mem _ hother, hR⟩

lemma forall₂_through {α β γ : Type} {R : α → β → Prop} {S : β → γ → Prop} {p : γ → Prop} {xs : List α} {ys : List β} {zs : List γ}
    (hR : List.Forall₂ R xs ys) (hS : List.Forall₂ S ys zs) (hp : ∀ z ∈ zs, p z) :
    List.Forall₂ (fun x z => p z ∧ ∃ y, R x y ∧ S y z) xs zs := by
  induction hR generalizing zs with
  | nil =>
    cases hS
    exact List.Forall₂.nil
  | @cons x y xs ys hxy _ ih =>
    cases hS with
    | @cons _ z _ zs hyz hrest =>
      exact List.Forall₂.cons ⟨hp z List.mem_cons_self, y, hxy, hyz⟩
        (ih hrest fun other hother => hp other (List.mem_cons_of_mem _ hother))

/-! ### Collisions -/

/-- Instants in their order, each put off to `gap` after the one before it. -/
def deferAll (gap : ℤ) : Option ℤ → List ℤ → List ℤ
  | _, [] => []
  | none, exact :: rest => exact :: deferAll gap (some exact) rest
  | some previous, exact :: rest => max exact (previous + gap) :: deferAll gap (some (max exact (previous + gap))) rest

variable {gap : ℤ}

lemma le_deferAll (previous : Option ℤ) (exacts : List ℤ) :
    List.Forall₂ (fun exact instant : ℤ => exact ≤ instant) exacts (deferAll gap previous exacts) := by
  induction exacts generalizing previous with
  | nil => cases previous <;> exact List.Forall₂.nil
  | cons exact rest ih =>
    cases previous with
    | none => exact List.Forall₂.cons (le_refl exact) (ih _)
    | some previous => exact List.Forall₂.cons (le_max_left _ _) (ih _)

lemma length_deferAll (gap : ℤ) (previous : Option ℤ) (exacts : List ℤ) : (deferAll gap previous exacts).length = exacts.length :=
  (le_deferAll previous exacts).length_eq.symm

lemma deferAll_after (hgap : 0 ≤ gap) (previous : ℤ) (exacts : List ℤ) :
    ∀ instant ∈ deferAll gap (some previous) exacts, previous + gap ≤ instant := by
  induction exacts generalizing previous with
  | nil => exact fun instant hinstant => nomatch hinstant
  | cons exact rest ih =>
    intro instant hinstant
    obtain rfl | hinstant := List.mem_cons.mp hinstant
    · exact le_max_right _ _
    · have := ih _ instant hinstant
      have := le_max_right exact (previous + gap)
      linarith

/-- Instants that were put off are apart. -/
theorem deferAll_apart (hgap : 0 ≤ gap) (previous : Option ℤ) (exacts : List ℤ) :
    (deferAll gap previous exacts).Pairwise fun first second => first + gap ≤ second := by
  induction exacts generalizing previous with
  | nil => cases previous <;> exact List.Pairwise.nil
  | cons exact rest ih =>
    cases previous with
    | none => exact List.pairwise_cons.mpr ⟨deferAll_after hgap _ _, ih _⟩
    | some previous => exact List.pairwise_cons.mpr ⟨deferAll_after hgap _ _, ih _⟩

/-- Instants that are apart are not put off. -/
theorem deferAll_of_apart {previous : Option ℤ} {exacts : List ℤ} (h : exacts.Pairwise fun first second => first + gap ≤ second)
    (hprevious : ∀ last ∈ previous, ∀ exact ∈ exacts, last + gap ≤ exact) : deferAll gap previous exacts = exacts := by
  induction exacts generalizing previous with
  | nil => cases previous <;> rfl
  | cons exact rest ih =>
    obtain ⟨hexact, hrest⟩ := List.pairwise_cons.mp h
    have hdeferred : deferAll gap (some exact) rest = rest := ih hrest (by rintro last ⟨⟩; exact hexact)
    cases previous with
    | none => rw [deferAll, hdeferred]
    | some last => rw [deferAll, max_eq_left (hprevious last rfl exact List.mem_cons_self), hdeferred]

/-- One turn adds the slot's instant, put off behind the last one. -/
theorem resolveSlot_ok {minimumGapMinutes : ℤ} {result final : List ℤ} {slot : String}
    (h : resolveSlot zone target minimumGapMinutes result slot = .ok final) :
    ∃ exact, SlotAt zone target slot exact ∧ final = result ++ deferAll (minimumGapMinutes * minute) result.getLast? [exact] ∧
      ∀ instant ∈ deferAll (minimumGapMinutes * minute) result.getLast? [exact], dayOf (zone.clock instant) = target := by
  obtain ⟨reading, hreading, h⟩ := Checked.bind_eq_ok.mp h
  obtain ⟨exact, hexact, h⟩ := Checked.bind_eq_ok.mp h
  obtain ⟨instant, hinstant, h⟩ := Checked.bind_eq_ok.mp h
  obtain ⟨back, hback, h⟩ := Checked.bind_eq_ok.mp h
  obtain ⟨_, hday, h⟩ := Checked.bind_eq_ok.mp h
  obtain rfl := Except.ok.inj h
  obtain ⟨-, rfl⟩ := inRange_ok.mp hexact
  obtain ⟨-, rfl⟩ := toLocal_ok.mp hback
  have hday := beq_iff_eq.mp (Checked.require_eq_ok.mp hday)
  have hdeferred : deferAll (minimumGapMinutes * minute) result.getLast? [zone.toUtc reading] = [instant] := by
    unfold deferred at hinstant
    cases hlast : result.getLast? with
    | none =>
      rw [hlast] at hinstant
      rw [deferAll, Except.ok.inj hinstant, deferAll]
    | some previous =>
      rw [hlast] at hinstant
      obtain ⟨next, hnext, hmax⟩ := Checked.bind_eq_ok.mp hinstant
      obtain ⟨-, rfl⟩ := inRange_ok.mp hnext
      rw [deferAll, Except.ok.inj hmax, deferAll]
  refine ⟨zone.toUtc reading, ⟨reading, hreading, rfl⟩, by rw [hdeferred], ?_⟩
  rw [hdeferred]
  intro other hother
  rw [List.mem_singleton.mp hother]
  exact hday

lemma deferAll_cons (gap : ℤ) (previous : Option ℤ) (exact : ℤ) (rest : List ℤ) : ∃ instant,
    deferAll gap previous [exact] = [instant] ∧ deferAll gap previous (exact :: rest) = instant :: deferAll gap (some instant) rest := by
  cases previous with
  | none => exact ⟨exact, rfl, rfl⟩
  | some previous => exact ⟨max exact (previous + gap), rfl, rfl⟩

/-- A whole turn through the schedule adds the instants of its slots, put off where they collide. -/
theorem foldlM_resolveSlot_ok {minimumGapMinutes : ℤ} {slots : List String} {result final : List ℤ}
    (h : slots.foldlM (resolveSlot zone target minimumGapMinutes) result = .ok final) :
    ∃ exacts, List.Forall₂ (SlotAt zone target) slots exacts ∧
      final = result ++ deferAll (minimumGapMinutes * minute) result.getLast? exacts ∧
      ∀ instant ∈ deferAll (minimumGapMinutes * minute) result.getLast? exacts, dayOf (zone.clock instant) = target := by
  induction slots generalizing result with
  | nil =>
    obtain rfl := Except.ok.inj h
    refine ⟨[], List.Forall₂.nil, ?_, ?_⟩
    · cases result.getLast? <;> simp [deferAll]
    · cases result.getLast? <;> exact fun instant hinstant => nomatch hinstant
  | cons slot rest ih =>
    rw [List.foldlM_cons] at h
    obtain ⟨between, hbetween, h⟩ := Checked.bind_eq_ok.mp h
    obtain ⟨exact, hexact, rfl, hday⟩ := resolveSlot_ok hbetween
    obtain ⟨exacts, hexacts, rfl, hdays⟩ := ih h
    obtain ⟨instant, hone, hall⟩ := deferAll_cons (minimumGapMinutes * minute) result.getLast? exact exacts
    rw [hone] at hday hdays ⊢
    rw [List.getLast?_append, List.getLast?_singleton, Option.some_or] at hdays ⊢
    refine ⟨exact :: exacts, List.Forall₂.cons hexact hexacts, ?_, ?_⟩
    · rw [hall, List.append_assoc, List.singleton_append]
    · rw [hall]
      intro other hother
      obtain rfl | hother := List.mem_cons.mp hother
      · exact hday _ List.mem_cons_self
      · exact hdays other hother

theorem resolvedSlotDatetimes_ok {values : List (Option String)} {minimumGapMinutes : ℤ} {maximumSlots : Nat} {instants : List ℤ}
    (h : resolvedSlotDatetimes zone target values minimumGapMinutes maximumSlots = .ok instants) :
    ∃ schedule, validated values maximumSlots minimumGapMinutes = .ok schedule ∧
      ∃ exacts, List.Forall₂ (SlotAt zone target) schedule exacts ∧ instants = deferAll (minimumGapMinutes * minute) none exacts ∧
        ∀ instant ∈ instants, dayOf (zone.clock instant) = target := by
  obtain ⟨schedule, hschedule, h⟩ := Checked.bind_eq_ok.mp h
  obtain ⟨exacts, hexacts, hinstants, hdays⟩ := foldlM_resolveSlot_ok h
  rw [List.nil_append] at hinstants
  exact ⟨schedule, hschedule, exacts, hexacts, hinstants, by rw [hinstants]; exact hdays⟩

/-! ### Days with one offset -/

/-- The zone has one offset on a day: at the instants that its clock shows on the day, and at those that the offset puts there. -/
def ConstantOn (zone : Zone) (target offset : ℤ) : Prop :=
  ∀ instant, dayOf (zone.clock instant) = target ∨ dayOf (instant + offset) = target → zone.offsetAt instant = offset

lemma dayOf_wallOf {minutes : Nat} (h : minutes < 1440) : dayOf (wallOf target minutes) = target := by
  unfold dayOf wallOf day minute
  omega

variable {offset : ℤ}

lemma ConstantOn.clock (h : ConstantOn zone target offset) {wall : ℤ} (hwall : dayOf wall = target) :
    zone.clock (wall - offset) = wall := by
  unfold Zone.clock
  rw [h (wall - offset) (Or.inr (by rwa [sub_add_cancel]))]
  ring

lemma ConstantOn.only (h : ConstantOn zone target offset) {wall other : ℤ} (hwall : dayOf wall = target)
    (hother : zone.clock other = wall) : other = wall - offset := by
  have hoffset := h other (Or.inl (by rwa [hother]))
  unfold Zone.clock at hother
  linarith

lemma ConstantOn.toUtc (h : ConstantOn zone target offset) {reading : Reading} (hwall : dayOf reading.wall = target) :
    zone.toUtc reading = reading.wall - offset :=
  WallClock.Zone.toUtc_of_only (h.clock hwall) fun _ => h.only hwall

lemma roundTrip_constant (h : ConstantOn zone target offset) {naive : ℤ} (fold : Bool) (hwall : dayOf naive = target)
    (hnaive : inCalendar naive = true) (hinstant : inCalendar (naive - offset) = true) :
    roundTrip zone naive fold = .ok (⟨naive, fold⟩, zone.ofUtc (naive - offset)) := by
  have hutc := h.toUtc (show dayOf (⟨naive, fold⟩ : Reading).wall = target from hwall)
  have hback : toLocal zone (naive - offset) = .ok (zone.ofUtc (naive - offset)) := by
    rw [toLocal_ok, h.clock hwall]
    exact ⟨hnaive, rfl⟩
  exact Checked.bind_eq_ok.mpr ⟨naive - offset, inRange_ok.mpr ⟨by rwa [hutc], hutc⟩, Checked.bind_eq_ok.mpr ⟨_, hback, rfl⟩⟩

lemma slotAt_constant (h : ConstantOn zone target offset) {slot : String} {minutes : Nat} (hslot : scheduleMinutes slot = some minutes)
    (hnaive : inCalendar (wallOf target minutes) = true) (hinstant : inCalendar (wallOf target minutes - offset) = true) :
    SlotAt zone target slot (wallOf target minutes - offset) := by
  have hwall : dayOf (wallOf target minutes) = target := dayOf_wallOf (scheduleMinutes_lt hslot)
  have htrip := fun fold => roundTrip_constant h fold hwall hnaive hinstant
  have hshown : ((zone.ofUtc (wallOf target minutes - offset)).wall == wallOf target minutes) = true :=
    beq_iff_eq.mpr (h.clock hwall)
  obtain ⟨reading, hreading, hfound⟩ : ∃ reading : Reading, reading.wall = wallOf target minutes ∧
      earliest zone [⟨wallOf target minutes, false⟩, ⟨wallOf target minutes, true⟩] = some reading := by
    obtain ⟨reading, hreading⟩ : ∃ reading, earliest zone [⟨wallOf target minutes, false⟩, ⟨wallOf target minutes, true⟩] =
      some reading := ⟨_, rfl⟩
    refine ⟨reading, ?_, hreading⟩
    obtain rfl | hmem := List.mem_cons.mp (earliest_spec hreading).1
    · rfl
    · rw [List.mem_singleton.mp hmem]
  refine ⟨reading, ?_, by rw [h.toUtc (hreading.symm ▸ hwall), hreading]⟩
  refine Checked.bind_eq_ok.mpr ⟨minutes, Checked.orError_eq_ok.mpr hslot, ?_⟩
  refine Checked.bind_eq_ok.mpr ⟨_, htrip false, Checked.bind_eq_ok.mpr ⟨_, htrip true, ?_⟩⟩
  simp only [List.filter_cons, hshown, if_true, List.filter_nil, List.map_cons, List.map_nil, hfound]
  rfl

lemma resolveSlot_constant (h : ConstantOn zone target offset) {minimumGapMinutes : ℤ} {slot : String} {minutes : Nat} {result : List ℤ}
    (hslot : scheduleMinutes slot = some minutes) (hgap : 0 < minimumGapMinutes)
    (hnaive : inCalendar (wallOf target minutes) = true) (hinstant : inCalendar (wallOf target minutes - offset) = true)
    (hlast : ∀ last ∈ result.getLast?, 0 ≤ last ∧ last + minimumGapMinutes * minute ≤ wallOf target minutes - offset) :
    resolveSlot zone target minimumGapMinutes result slot = .ok (result ++ [wallOf target minutes - offset]) := by
  have hwall : dayOf (wallOf target minutes) = target := dayOf_wallOf (scheduleMinutes_lt hslot)
  obtain ⟨reading, hreading, hutc⟩ := slotAt_constant h hslot hnaive hinstant
  have hdeferred : deferred minimumGapMinutes result (wallOf target minutes - offset) = .ok (wallOf target minutes - offset) := by
    unfold deferred
    cases hresult : result.getLast? with
    | none => rfl
    | some last =>
      obtain ⟨hpositive, hafter⟩ := hlast last hresult
      have hnext : inCalendar (last + minimumGapMinutes * minute) = true := by
        unfold inCalendar at hinstant ⊢
        simp only [Bool.and_eq_true, decide_eq_true_eq] at hinstant ⊢
        unfold minute day at *
        omega
      refine Checked.bind_eq_ok.mpr ⟨_, inRange_ok.mpr ⟨hnext, rfl⟩, ?_⟩
      rw [max_eq_left hafter]
      rfl
  have hback : toLocal zone (wallOf target minutes - offset) = .ok (zone.ofUtc (wallOf target minutes - offset)) := by
    rw [toLocal_ok, h.clock hwall]
    exact ⟨hnaive, rfl⟩
  have hday : (dayOf (zone.ofUtc (wallOf target minutes - offset)).wall == target) = true :=
    beq_iff_eq.mpr ((congrArg dayOf (h.clock hwall)).trans hwall)
  refine Checked.bind_eq_ok.mpr ⟨reading, hreading, Checked.bind_eq_ok.mpr ⟨_, inRange_ok.mpr ⟨by rwa [hutc], hutc⟩, ?_⟩⟩
  refine Checked.bind_eq_ok.mpr ⟨_, hdeferred, Checked.bind_eq_ok.mpr ⟨_, hback, ?_⟩⟩
  exact Checked.bind_eq_ok.mpr ⟨(), Checked.require_eq_ok.mpr hday, rfl⟩

lemma foldlM_resolveSlot_constant (h : ConstantOn zone target offset) {minimumGapMinutes : ℤ} {slots : List String} {result : List ℤ}
    (hgap : 0 < minimumGapMinutes) (htimes : ∀ slot ∈ slots, scheduleMinutes slot = some (minutesOf slot))
    (hapart : slots.Pairwise fun first second => (minutesOf first : ℤ) + minimumGapMinutes ≤ minutesOf second)
    (hnaive : ∀ slot ∈ slots, inCalendar (wallOf target (minutesOf slot)) = true)
    (hinstant : ∀ slot ∈ slots, inCalendar (wallOf target (minutesOf slot) - offset) = true)
    (hlast : ∀ last ∈ result.getLast?, 0 ≤ last ∧
      ∀ slot ∈ slots, last + minimumGapMinutes * minute ≤ wallOf target (minutesOf slot) - offset) :
    slots.foldlM (resolveSlot zone target minimumGapMinutes) result =
      .ok (result ++ slots.map fun slot => wallOf target (minutesOf slot) - offset) := by
  induction slots generalizing result with
  | nil =>
    rw [List.map_nil, List.append_nil]
    rfl
  | cons slot rest ih =>
    obtain ⟨hfirst, hrest⟩ := List.pairwise_cons.mp hapart
    have hslot : slot ∈ slot :: rest := List.mem_cons_self
    have hone := resolveSlot_constant h (htimes slot hslot) hgap (hnaive slot hslot) (hinstant slot hslot)
      fun last hmem => ⟨(hlast last hmem).1, (hlast last hmem).2 slot hslot⟩
    rw [List.foldlM_cons, hone]
    refine (ih (fun other hother => htimes other (List.mem_cons_of_mem _ hother)) hrest
      (fun other hother => hnaive other (List.mem_cons_of_mem _ hother))
      (fun other hother => hinstant other (List.mem_cons_of_mem _ hother)) ?_).trans ?_
    · intro last hmem
      rw [List.getLast?_append, List.getLast?_singleton, Option.some_or] at hmem
      obtain rfl := Option.mem_some.mp hmem
      have hpositive := hinstant slot hslot
      unfold inCalendar at hpositive
      simp only [Bool.and_eq_true, decide_eq_true_eq] at hpositive
      refine ⟨hpositive.1, fun other hother => ?_⟩
      have := hfirst other hother
      unfold wallOf minute
      omega
    · rw [List.map_cons, List.append_assoc, List.singleton_append]

/-- On a day with one offset every slot is at its own time. -/
theorem resolvedSlotDatetimes_constant (h : ConstantOn zone target offset) {values : List (Option String)} {minimumGapMinutes : ℤ}
    {maximumSlots : Nat} {schedule : List String} (hvalid : validated values maximumSlots minimumGapMinutes = .ok schedule)
    (hdate : inCalendar (target * day) = true)
    (hinstant : ∀ slot ∈ schedule, inCalendar (wallOf target (minutesOf slot) - offset) = true) :
    resolvedSlotDatetimes zone target values minimumGapMinutes maximumSlots =
      .ok (schedule.map fun slot => wallOf target (minutesOf slot) - offset) := by
  have hschedule := validated_ok hvalid
  refine Checked.bind_eq_ok.mpr ⟨schedule, hvalid, ?_⟩
  refine foldlM_resolveSlot_constant h hschedule.positive hschedule.times hschedule.apart ?_ hinstant fun last hlast => nomatch hlast
  intro slot hslot
  have hminutes := scheduleMinutes_lt (hschedule.times slot hslot)
  unfold inCalendar at hdate ⊢
  simp only [Bool.and_eq_true, decide_eq_true_eq] at hdate ⊢
  unfold wallOf day minute at *
  omega

/-! ### The next day -/

/-- The clock never shows a day again after it has shown the next. -/
def LeavesDay (zone : Zone) (target : ℤ) : Prop :=
  ∀ earlier later, dayOf (zone.clock earlier) = target → dayOf (zone.clock later) = target + 1 → earlier < later

/-- The clock leaves the day for good, or is turned forward over no time from the day's first slot to the next day's. -/
def DayAhead (zone : Zone) (target : ℤ) (schedule : List String) : Prop :=
  LeavesDay zone target ∨
    ∀ first ∈ schedule.head?, zone.Unskipped (wallOf target (minutesOf first)) (wallOf (target + 1) (minutesOf first))

lemma constantOn_of_fixed (h : zone.transitions = []) : ConstantOn zone target zone.initial := by
  intro instant _
  rw [Zone.offsetAt, h]
  rfl

lemma leavesDay_of_fixed (h : zone.transitions = []) : LeavesDay zone target := by
  intro earlier later hearlier hlater
  have hoffset : ∀ instant, zone.offsetAt instant = zone.initial := by
    intro instant
    rw [Zone.offsetAt, h]
    rfl
  rw [Zone.clock, hoffset] at hearlier hlater
  unfold dayOf day at hearlier hlater
  omega

/-- A slot that no change reaches precedes every time that is shown later, by the time between the two. -/
lemma slotAt_before {slot : String} {minutes : Nat} {exact stop instant : ℤ} (h : SlotAt zone target slot exact)
    (hslot : scheduleMinutes slot = some minutes) (hskip : zone.Unskipped (wallOf target minutes) stop)
    (hstop : wallOf target minutes < stop) (hinstant : stop ≤ zone.clock instant) :
    exact + (stop - wallOf target minutes) ≤ instant := by
  obtain ⟨shown, hshown, hwall⟩ := hskip.shown_before hstop hinstant
  have := ((localSlotDatetime_ok h hslot).2 shown hwall).2
  linarith

lemma Unskipped.mono {start start' stop stop' : ℤ} (h : zone.Unskipped start stop) (hstart : start ≤ start') (hstop : stop' ≤ stop) :
    zone.Unskipped start' stop' := fun wall hle hlt => h wall (le_trans hstart hle) (lt_of_lt_of_le hlt hstop)

/-- Slots that no change reaches are as far apart as their times. -/
lemma exacts_apart {minimumGapMinutes stop : ℤ} {slots : List String} {exacts : List ℤ} (h : List.Forall₂ (SlotAt zone target) slots exacts)
    (htimes : ∀ slot ∈ slots, scheduleMinutes slot = some (minutesOf slot))
    (hapart : slots.Pairwise fun first second => (minutesOf first : ℤ) + minimumGapMinutes ≤ minutesOf second)
    (hgap : 0 < minimumGapMinutes)
    (hskip : ∀ slot ∈ slots, wallOf target (minutesOf slot) < stop ∧ zone.Unskipped (wallOf target (minutesOf slot)) stop) :
    exacts.Pairwise (fun first second => first + minimumGapMinutes * minute ≤ second) ∧
      ∀ exact ∈ exacts, ∀ instant, stop ≤ zone.clock instant → exact < instant := by
  induction h with
  | nil => exact ⟨List.Pairwise.nil, fun exact hexact => nomatch hexact⟩
  | @cons slot exact rest exacts hexact hexacts ih =>
    obtain ⟨hfirst, hrest⟩ := List.pairwise_cons.mp hapart
    have hslot : slot ∈ slot :: rest := List.mem_cons_self
    obtain ⟨hpairs, hbefore⟩ := ih (fun other hother => htimes other (List.mem_cons_of_mem _ hother)) hrest
      fun other hother => hskip other (List.mem_cons_of_mem _ hother)
    constructor
    · refine List.pairwise_cons.mpr ⟨?_, hpairs⟩
      intro second hsecond
      obtain ⟨other, hother, hat⟩ := exists_of_forall₂ hexacts hsecond
      have hmore := hfirst other hother
      have hlt : wallOf target (minutesOf slot) < wallOf target (minutesOf other) := by
        unfold wallOf minute
        omega
      have hstop := (hskip other (List.mem_cons_of_mem _ hother)).1
      have hclock := (localSlotDatetime_ok hat (htimes other (List.mem_cons_of_mem _ hother))).1
      have hbetween := slotAt_before hexact (htimes slot hslot)
        (Unskipped.mono (hskip slot hslot).2 (le_refl _) (le_of_lt hstop)) hlt hclock
      unfold wallOf minute at *
      linarith
    · intro one hone instant hinstant
      obtain rfl | hone := List.mem_cons.mp hone
      · have := slotAt_before hexact (htimes slot hslot) (hskip slot hslot).2 (hskip slot hslot).1 hinstant
        have := (hskip slot hslot).1
        linarith
      · exact hbefore one hone instant hinstant

/-- Every slot of a day precedes every slot of the next, where the day is ahead of the next. -/
theorem resolved_before_next {values : List (Option String)} {minimumGapMinutes : ℤ} {maximumSlots : Nat} {schedule : List String}
    {starts next : List ℤ} (hvalid : validated values maximumSlots minimumGapMinutes = .ok schedule)
    (hstarts : resolvedSlotDatetimes zone target values minimumGapMinutes maximumSlots = .ok starts)
    (hnext : resolvedSlotDatetimes zone (target + 1) values minimumGapMinutes maximumSlots = .ok next)
    (hahead : DayAhead zone target schedule) : ∀ start ∈ starts, ∀ following ∈ next, start < following := by
  have hschedule := validated_ok hvalid
  obtain ⟨schedule', hvalid', exacts, hexacts, rfl, hdays⟩ := resolvedSlotDatetimes_ok hstarts
  obtain rfl := Except.ok.inj (hvalid.symm.trans hvalid')
  obtain ⟨schedule', hvalid', exacts', hexacts', rfl, hdays'⟩ := resolvedSlotDatetimes_ok hnext
  obtain rfl := Except.ok.inj (hvalid.symm.trans hvalid')
  have hgap := hschedule.positive
  intro start hstart following hfollowing
  obtain hleaves | hskip := hahead
  · exact hleaves start following (hdays start hstart) (hdays' following hfollowing)
  obtain ⟨first, rest, rfl⟩ := List.exists_cons_of_ne_nil hschedule.nonempty
  have hfirst : scheduleMinutes first = some (minutesOf first) := hschedule.times first List.mem_cons_self
  have hreach : ∀ slot ∈ first :: rest, wallOf target (minutesOf slot) < wallOf (target + 1) (minutesOf first) ∧
      zone.Unskipped (wallOf target (minutesOf slot)) (wallOf (target + 1) (minutesOf first)) := by
    intro slot hslot
    have hminutes := scheduleMinutes_lt (hschedule.times slot hslot)
    have hle : minutesOf first ≤ minutesOf slot := by
      obtain rfl | hslot := List.mem_cons.mp hslot
      · exact Nat.le_refl _
      · have := (List.pairwise_cons.mp hschedule.apart).1 slot hslot
        omega
    constructor
    · unfold wallOf day minute
      omega
    · apply Unskipped.mono (hskip first rfl) _ (le_refl _)
      unfold wallOf minute
      omega
  obtain ⟨hapart, hbefore⟩ := exacts_apart hexacts hschedule.times hschedule.apart hgap hreach
  have hundeferred : deferAll (minimumGapMinutes * minute) none exacts = exacts := deferAll_of_apart hapart (by rintro last ⟨⟩)
  rw [hundeferred] at hstart
  obtain ⟨head, tail, rfl⟩ : ∃ head tail, exacts' = head :: tail := by
    cases hexacts' with
    | cons hhead htail => exact ⟨_, _, rfl⟩
  have hhead : start < head := by
    cases hexacts' with
    | cons hhead htail => exact hbefore start hstart head (localSlotDatetime_ok hhead hfirst).1
  rw [deferAll] at hfollowing
  obtain rfl | hfollowing := List.mem_cons.mp hfollowing
  · exact hhead
  · have hpositive : 0 ≤ minimumGapMinutes * minute := mul_nonneg (le_of_lt hgap) (by decide)
    have := deferAll_after hpositive head tail following hfollowing
    linarith

/-! ### Deadlines -/

lemma mapM_inRange {items results : List ℤ} {f : ℤ → ℤ} (h : items.mapM (fun item => inRange (f item)) = .ok results) :
    results = items.map f := by
  induction items generalizing results with
  | nil => exact (Except.ok.inj h).symm
  | cons item rest ih =>
    rw [List.mapM_cons] at h
    obtain ⟨first, hfirst, h⟩ := Checked.bind_eq_ok.mp h
    obtain ⟨others, hothers, h⟩ := Checked.bind_eq_ok.mp h
    obtain rfl := Except.ok.inj h
    rw [← (inRange_ok.mp hfirst).2, ih hothers, List.map_cons]

lemma shifted_later {starts : List ℤ} {following : ℤ} (h : starts.Pairwise fun earlier later => earlier < later)
    (hfollowing : ∀ start ∈ starts, start < following) (hne : starts ≠ []) :
    List.Forall₂ (fun start next : ℤ => start < next) starts (starts.tail ++ [following]) := by
  induction starts with
  | nil => exact absurd rfl hne
  | cons start rest ih =>
    obtain ⟨hstart, hrest⟩ := List.pairwise_cons.mp h
    rw [List.tail_cons]
    cases rest with
    | nil => exact List.Forall₂.cons (hfollowing start List.mem_cons_self) List.Forall₂.nil
    | cons second others =>
      refine List.Forall₂.cons (hstart second List.mem_cons_self) ?_
      exact ih hrest (fun other hother => hfollowing other (List.mem_cons_of_mem _ hother)) (List.cons_ne_nil _ _)

/-- What the deadlines of a day are made of. -/
theorem slotDeadlines_ok {values : List (Option String)} {graceMinutes minimumGapMinutes : ℤ} {maximumSlots : Nat} {deadlines : List ℤ}
    (h : slotDeadlines zone target values graceMinutes minimumGapMinutes maximumSlots = .ok deadlines) :
    ∃ schedule starts next following,
      validated values (resolveOfflineScheduleMaxSlots (.int maximumSlots)) minimumGapMinutes = .ok schedule ∧
      resolvedSlotDatetimes zone target (schedule.map some) minimumGapMinutes maximumSlots = .ok starts ∧
      resolvedSlotDatetimes zone (target + 1) (schedule.map some) minimumGapMinutes maximumSlots = .ok next ∧
      next.head? = some following ∧ 0 ≤ graceMinutes ∧
      deadlines = (starts.tail ++ [following]).map fun start => start + graceMinutes * minute := by
  obtain ⟨_, hgrace, h⟩ := Checked.bind_eq_ok.mp h
  obtain ⟨schedule, hschedule, h⟩ := Checked.bind_eq_ok.mp h
  obtain ⟨starts, hstarts, h⟩ := Checked.bind_eq_ok.mp h
  obtain ⟨_, -, h⟩ := Checked.bind_eq_ok.mp h
  obtain ⟨next, hnext, h⟩ := Checked.bind_eq_ok.mp h
  obtain ⟨following, hfollowing, h⟩ := Checked.bind_eq_ok.mp h
  have hgrace := Checked.require_eq_ok.mp hgrace
  simp only [Bool.and_eq_true, decide_eq_true_eq] at hgrace
  exact ⟨schedule, starts, next, following, hschedule, hstarts, hnext, Checked.orError_eq_ok.mp hfollowing, hgrace.1,
    mapM_inRange h⟩

/-- A day's resolved slots are one for each of the schedule, in order, apart, not early, and on their day; where the zone has
one offset on the day they are at their own times; and where the day is ahead of the next, the deadlines rise, each after
its slot. -/
theorem slots_resolved (zone : Zone) (target : ℤ) (values : List (Option String)) (graceMinutes minimumGapMinutes : ℤ)
    (maximumSlots : Nat) :
    (∀ instants, resolvedSlotDatetimes zone target values minimumGapMinutes maximumSlots = .ok instants →
      ∃ schedule, validated values maximumSlots minimumGapMinutes = .ok schedule ∧
        List.Forall₂ (fun slot instant => dayOf (zone.clock instant) = target ∧
          ∃ reading, localSlotDatetime zone target slot = .ok reading ∧ zone.toUtc reading ≤ instant) schedule instants ∧
        instants.Pairwise fun earlier later => earlier + minimumGapMinutes * minute ≤ later) ∧
    (∀ schedule offset, validated values maximumSlots minimumGapMinutes = .ok schedule → ConstantOn zone target offset →
      inCalendar (target * day) = true → (∀ slot ∈ schedule, inCalendar (wallOf target (minutesOf slot) - offset) = true) →
      resolvedSlotDatetimes zone target values minimumGapMinutes maximumSlots =
        .ok (schedule.map fun slot => wallOf target (minutesOf slot) - offset)) ∧
    ∀ deadlines, slotDeadlines zone target values graceMinutes minimumGapMinutes maximumSlots = .ok deadlines →
      ∃ schedule slots starts,
        validated values (resolveOfflineScheduleMaxSlots (.int maximumSlots)) minimumGapMinutes = .ok schedule ∧
        validated (schedule.map some) maximumSlots minimumGapMinutes = .ok slots ∧
        resolvedSlotDatetimes zone target (schedule.map some) minimumGapMinutes maximumSlots = .ok starts ∧
        (DayAhead zone target slots →
          List.Forall₂ (fun start deadline => start < deadline) starts deadlines ∧
            deadlines.Pairwise fun earlier later => earlier < later) := by
  refine ⟨?_, fun schedule offset hvalid hconstant => resolvedSlotDatetimes_constant hconstant hvalid, ?_⟩
  · intro instants h
    obtain ⟨schedule, hvalid, exacts, hexacts, rfl, hdays⟩ := resolvedSlotDatetimes_ok h
    have hgap : 0 ≤ minimumGapMinutes * minute := mul_nonneg (le_of_lt (validated_ok hvalid).positive) (by decide)
    refine ⟨schedule, hvalid, ?_, deferAll_apart hgap none exacts⟩
    refine (forall₂_through hexacts (le_deferAll none exacts) hdays).imp ?_
    rintro slot instant ⟨hday, exact, ⟨reading, hreading, rfl⟩, hle⟩
    exact ⟨hday, reading, hreading, hle⟩
  · intro deadlines h
    obtain ⟨schedule, starts, next, following, hschedule, hstarts, hnext, hfollowing, hgrace, rfl⟩ := slotDeadlines_ok h
    obtain ⟨slots, hvalid, exacts, hexacts, hdeferred, -⟩ := resolvedSlotDatetimes_ok hstarts
    refine ⟨schedule, slots, starts, hschedule, hvalid, hstarts, ?_⟩
    intro hahead
    have hslots := validated_ok hvalid
    have hbefore := fun start hstart =>
      resolved_before_next hvalid hstarts hnext hahead start hstart following (List.mem_of_mem_head? hfollowing)
    have hrising : starts.Pairwise (· < ·) := by
      rw [hdeferred]
      have hgap : 0 < minimumGapMinutes * minute := mul_pos hslots.positive (by decide)
      exact (deferAll_apart (le_of_lt hgap) none exacts).imp fun h => by linarith
    have hdelay : 0 ≤ graceMinutes * minute := mul_nonneg hgrace (by decide)
    have hne : starts ≠ [] := by
      rintro rfl
      have hlength := hexacts.length_eq.trans (length_deferAll (minimumGapMinutes * minute) none exacts).symm
      rw [← hdeferred, List.length_nil] at hlength
      exact hslots.nonempty (List.length_eq_zero_iff.mp hlength)
    constructor
    · rw [List.forall₂_map_right_iff]
      exact (shifted_later hrising hbefore hne).imp fun start next hlt => by linarith
    · rw [List.pairwise_map]
      have hshifted : (starts.tail ++ [following]).Pairwise fun earlier later => earlier < later := by
        rw [List.pairwise_append]
        refine ⟨hrising.tail, List.pairwise_singleton _ _, ?_⟩
        intro start hstart next hnext
        rw [List.mem_singleton.mp hnext]
        exact hbefore start (List.mem_of_mem_tail hstart)
      exact hshifted.imp fun hlt => by linarith

/-- Eight hours ahead of UTC, without changes. -/
def taipei : Zone := { Zone.utc with initial := 480 * minute, bounded := by decide }

theorem slots_resolved_taipei :
    resolvedSlotDatetimes taipei 738885 [some "08:00", some "20:00"] 60 24 = .ok [738885 * day, 738885 * day + 720 * minute] ∧
      ∃ deadlines, slotDeadlines taipei 738885 [some "08:00", some "20:00"] 15 60 24 = .ok deadlines ∧
        List.Forall₂ (fun start deadline => start < deadline) [738885 * day, 738885 * day + 720 * minute] deadlines ∧
        deadlines.Pairwise fun earlier later => earlier < later := by
  obtain ⟨-, hconstant, hdeadlines⟩ := slots_resolved taipei 738885 [some "08:00", some "20:00"] 15 60 24
  have hresolved : resolvedSlotDatetimes taipei 738885 [some "08:00", some "20:00"] 60 24 =
      .ok [738885 * day, 738885 * day + 720 * minute] :=
    (hconstant ["08:00", "20:00"] taipei.initial (by decide +kernel) (constantOn_of_fixed rfl) (by decide) (by decide +kernel)).trans
      (by decide +kernel)
  have hends : slotDeadlines taipei 738885 [some "08:00", some "20:00"] 15 60 24 =
      .ok [738885 * day + 735 * minute, 738886 * day + 15 * minute] := by decide +kernel
  refine ⟨hresolved, _, hends, ?_⟩
  obtain ⟨schedule, slots, starts, hschedule, -, hstarts, hrising⟩ := hdeadlines _ hends
  obtain rfl : schedule = ["08:00", "20:00"] := Except.ok.inj (hschedule.symm.trans (by decide +kernel))
  obtain rfl := Except.ok.inj (hstarts.symm.trans hresolved)
  exact hrising (.inl (leavesDay_of_fixed rfl))

/-- An evening whose clock runs from 20:00 to 01:00 of the next day, and after an hour back to 21:00. -/
def eveningJump : Zone where
  initial := 0
  transitions := [(738885 * day + 1200 * minute, 300 * minute), (738885 * day + 1260 * minute, 0)]
  ordered := by decide
  bounded := by decide

/-- The next day's first slot is before the day's last, and the deadline that it sets before the one ahead of it; and a day of the
year 1 whose midnight in UTC is in no year is not resolved. -/
theorem deadlines_fall :
    (∃ starts deadlines, resolvedSlotDatetimes eveningJump 738885 [some "01:30", some "22:00"] 60 24 = .ok starts ∧
      slotDeadlines eveningJump 738885 [some "01:30", some "22:00"] 15 60 24 = .ok deadlines ∧
      (¬ deadlines.Pairwise fun earlier later => earlier < later) ∧
      ¬ List.Forall₂ (fun start deadline : ℤ => start < deadline) starts deadlines) ∧
    ∃ east : Zone, ConstantOn east 0 (480 * minute) ∧ resolvedSlotDatetimes east 0 [some "00:00"] 60 24 = .error .overflow := by
  refine ⟨⟨[738885 * day + 90 * minute, 738885 * day + 1320 * minute], [738885 * day + 1335 * minute, 738885 * day + 1245 * minute],
    by decide +kernel, by decide +kernel, by decide, ?_⟩, ⟨480 * minute, [], by decide, by decide⟩, fun instant _ => rfl, by decide +kernel⟩
  rw [List.forall₂_cons, List.forall₂_cons]
  rintro ⟨-, hlt, -⟩
  exact absurd hlt (by decide)

end InkTime.Schedule
