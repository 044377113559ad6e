import InkTime.Library.Checked

/-!
# Wall clocks

A time zone is an offset that changes finitely often. Its clock skips readings where it is turned forward and repeats readings
where it is turned back; a `fold` tells the first of two instants with one reading from the last, and the offset before a
skip from the offset after it. Instants and readings are microseconds since the midnight that begins the year 1.
-/

namespace WallClock

def second : ℤ := 1000000

def minute : ℤ := 60000000

def day : ℤ := 86400000000

/-- The day on which a reading falls, counted from the first day of the year 1. -/
def dayOf (wall : ℤ) : ℤ := wall / day

/-- From the first day of the year 1 to the last day of the year 9999. -/
def inCalendar (wall : ℤ) : Bool := 0 ≤ wall && wall < 3652059 * day

structure Zone where
  initial : ℤ
  /-- Instants with the offsets in force from then on. -/
  transitions : List (ℤ × ℤ)
  ordered : transitions.Pairwise fun earlier later => earlier.1 < later.1
  bounded : ∀ offset ∈ initial :: transitions.map Prod.snd, -day < offset ∧ offset < day

/-- A reading of the clock, told from an equal one by its fold. -/
structure Reading where
  wall : ℤ
  fold : Bool
  deriving DecidableEq, Repr

/-- A transition with the offset before it and the offset after it. -/
structure Change where
  instant : ℤ
  before : ℤ
  after : ℤ
  deriving DecidableEq, Repr

/-- The offset in force at an instant, among transitions in their order. -/
def offsetAmong (instant offset : ℤ) (transitions : List (ℤ × ℤ)) : ℤ :=
  transitions.foldl (fun offset transition => if transition.1 ≤ instant then transition.2 else offset) offset

namespace Zone

variable (zone : Zone)

def offsets : List ℤ := zone.initial :: zone.transitions.map Prod.snd

def offsetAt (instant : ℤ) : ℤ := offsetAmong instant zone.initial zone.transitions

def clock (instant : ℤ) : ℤ := instant + zone.offsetAt instant

/-- The instants at which the clock shows a reading. -/
def instantsOf (wall : ℤ) : List ℤ := (zone.offsets.map (wall - ·)).filter fun instant => zone.clock instant == wall

def changes : List Change := (zone.offsets.zip zone.transitions).map fun pair => ⟨pair.2.1, pair.1, pair.2.2⟩

/-- The first change that turns the clock forward over a reading. -/
def skip (wall : ℤ) : Option Change :=
  zone.changes.find? fun change => change.instant + change.before ≤ wall && wall < change.instant + change.after

/-- The instant that a reading with a fold stands for. -/
def toUtc (reading : Reading) : ℤ :=
  match if reading.fold then (zone.instantsOf reading.wall).max? else (zone.instantsOf reading.wall).min? with
  | some instant => instant
  | none =>
    match zone.skip reading.wall with
    | some change => reading.wall - if reading.fold then change.after else change.before
    | none => reading.wall - zone.initial

def utc : Zone := ⟨0, [], List.Pairwise.nil, by decide⟩

/-- What the clock reads at an instant; the fold is set where it has read the same before. -/
def ofUtc (instant : ℤ) : Reading := ⟨zone.clock instant, zone.toUtc ⟨zone.clock instant, false⟩ != instant⟩

/-! ### Offsets -/

lemma offsetAmong_of_le {instant offset : ℤ} {transition : ℤ × ℤ} (rest : List (ℤ × ℤ)) (h : transition.1 ≤ instant) :
    offsetAmong instant offset (transition :: rest) = offsetAmong instant transition.2 rest := by
  unfold offsetAmong
  rw [List.foldl_cons, if_pos h]

lemma offsetAmong_of_lt {instant offset : ℤ} {transitions : List (ℤ × ℤ)} (h : ∀ transition ∈ transitions, instant < transition.1) :
    offsetAmong instant offset transitions = offset := by
  unfold offsetAmong
  induction transitions with
  | nil => rfl
  | cons transition rest ih =>
    rw [List.foldl_cons, if_neg (not_le.mpr (h transition List.mem_cons_self))]
    exact ih fun other hother => h other (List.mem_cons_of_mem _ hother)

lemma offsetAmong_mem (instant offset : ℤ) (transitions : List (ℤ × ℤ)) :
    offsetAmong instant offset transitions ∈ offset :: transitions.map Prod.snd := by
  unfold offsetAmong
  induction transitions generalizing offset with
  | nil => exact List.mem_singleton.mpr rfl
  | cons transition rest ih =>
    rw [List.foldl_cons, List.map_cons]
    split
    · exact List.mem_cons_of_mem _ (ih transition.2)
    · obtain heq | hmem := List.mem_cons.mp (ih offset)
      · rw [heq]
        exact List.mem_cons_self
      · exact List.mem_cons_of_mem _ (List.mem_cons_of_mem _ hmem)

variable {zone}

lemma offsetAt_mem (instant : ℤ) : zone.offsetAt instant ∈ zone.offsets := offsetAmong_mem instant zone.initial zone.transitions

lemma offset_bounds {offset : ℤ} (h : offset ∈ zone.offsets) : -day < offset ∧ offset < day := zone.bounded offset h

lemma mem_instantsOf {wall instant : ℤ} : instant ∈ zone.instantsOf wall ↔ zone.clock instant = wall := by
  unfold instantsOf
  rw [List.mem_filter, beq_iff_eq, List.mem_map]
  constructor
  · exact fun h => h.2
  · intro h
    refine ⟨⟨zone.offsetAt instant, offsetAt_mem instant, ?_⟩, h⟩
    rw [← h, clock]
    ring

/-! ### Instants of readings -/

/-- A reading without a fold stands for the first instant at which the clock shows it. -/
lemma toUtc_of_shown {wall instant : ℤ} (h : zone.clock instant = wall) :
    zone.clock (zone.toUtc ⟨wall, false⟩) = wall ∧ zone.toUtc ⟨wall, false⟩ ≤ instant := by
  have hmem := mem_instantsOf.mpr h
  obtain ⟨first, hfirst⟩ := Option.isSome_iff_exists.mp (List.isSome_min?_of_mem hmem)
  have hutc : zone.toUtc ⟨wall, false⟩ = first := by
    unfold toUtc
    simp only [Bool.false_eq_true, if_false, hfirst]
  obtain ⟨hshown, hleast⟩ := List.min?_eq_some_iff.mp hfirst
  rw [hutc]
  exact ⟨mem_instantsOf.mp hshown, hleast instant hmem⟩

/-- A reading that the clock shows stands for an instant at which it does, whichever its fold. -/
lemma clock_toUtc {reading : Reading} {instant : ℤ} (h : zone.clock instant = reading.wall) :
    zone.clock (zone.toUtc reading) = reading.wall := by
  have hmem := mem_instantsOf.mpr h
  obtain ⟨first, hfirst⟩ := Option.isSome_iff_exists.mp (List.isSome_min?_of_mem hmem)
  obtain ⟨last, hlast⟩ := Option.isSome_iff_exists.mp (List.isSome_max?_of_mem hmem)
  apply mem_instantsOf.mp
  unfold toUtc
  cases reading.fold with
  | false =>
    simp only [Bool.false_eq_true, if_false, hfirst]
    exact List.min?_mem hfirst
  | true =>
    simp only [if_true, hlast]
    exact List.max?_mem hlast

/-- A reading that the clock shows at one instant only stands for it, whichever its fold. -/
lemma toUtc_of_only {reading : Reading} {instant : ℤ} (h : zone.clock instant = reading.wall)
    (honly : ∀ other, zone.clock other = reading.wall → other = instant) : zone.toUtc reading = instant :=
  honly _ (clock_toUtc h)

lemma change_offsets {change : Change} (h : change ∈ zone.changes) : change.before ∈ zone.offsets ∧ change.after ∈ zone.offsets := by
  obtain ⟨⟨before, transition⟩, hpair, rfl⟩ := List.mem_map.mp h
  obtain ⟨hbefore, htransition⟩ := List.of_mem_zip hpair
  exact ⟨hbefore, List.mem_cons_of_mem _ (List.mem_map_of_mem htransition)⟩

lemma toUtc_eq_sub (reading : Reading) : ∃ offset ∈ zone.offsets, zone.toUtc reading = reading.wall - offset := by
  have hshown : ∀ instant ∈ zone.instantsOf reading.wall, ∃ offset ∈ zone.offsets, instant = reading.wall - offset := by
    intro instant hinstant
    obtain ⟨offset, hoffset, heq⟩ := List.mem_map.mp (List.mem_filter.mp hinstant).1
    exact ⟨offset, hoffset, heq.symm⟩
  unfold toUtc
  split
  · next instant hinstant =>
    apply hshown
    split at hinstant
    · exact List.max?_mem hinstant
    · exact List.min?_mem hinstant
  split
  · next change hchange =>
    obtain ⟨hbefore, hafter⟩ := change_offsets (List.mem_of_find?_eq_some hchange)
    split
    · exact ⟨change.after, hafter, rfl⟩
    · exact ⟨change.before, hbefore, rfl⟩
  · exact ⟨zone.initial, List.mem_cons_self, rfl⟩

/-- A reading and the instant it stands for are less than a day apart. -/
lemma toUtc_bounds (reading : Reading) : reading.wall - day < zone.toUtc reading ∧ zone.toUtc reading < reading.wall + day := by
  obtain ⟨offset, hoffset, heq⟩ : ∃ offset ∈ zone.offsets, zone.toUtc reading = reading.wall - offset := toUtc_eq_sub reading
  have hbounds := offset_bounds hoffset
  rw [heq]
  constructor
  · linarith
  · linarith

/-! ### Readings that are skipped -/

/-- No change turns the clock forward over a reading from `start` on and before `stop`. -/
def Unskipped (zone : Zone) (start stop : ℤ) : Prop := ∀ wall, start ≤ wall → wall < stop → zone.skip wall = none

/-- A clock that is not turned forward takes its time: before it shows a reading, it has shown each earlier one. -/
theorem Unskipped.shown_before {start stop : ℤ} (h : zone.Unskipped start stop) (hlt : start < stop) {instant : ℤ}
    (hclock : stop ≤ zone.clock instant) : ∃ earlier, earlier + (stop - start) ≤ instant ∧ zone.clock earlier = start := by
  suffices hshown : ∀ (transitions : List (ℤ × ℤ)) (initial : ℤ),
      transitions.Pairwise (fun earlier later => earlier.1 < later.1) →
      (∀ pair ∈ (initial :: transitions.map Prod.snd).zip transitions, ∀ wall, start ≤ wall → wall < stop →
        pair.2.1 + pair.1 ≤ wall → pair.2.1 + pair.2.2 ≤ wall) →
      ∀ instant, start ≤ instant + offsetAmong instant initial transitions →
      ∃ earlier, earlier + (min stop (instant + offsetAmong instant initial transitions) - start) ≤ instant ∧
        earlier + offsetAmong earlier initial transitions = start by
    have hnone : ∀ pair ∈ (zone.initial :: zone.transitions.map Prod.snd).zip zone.transitions, ∀ wall, start ≤ wall →
        wall < stop → pair.2.1 + pair.1 ≤ wall → pair.2.1 + pair.2.2 ≤ wall := by
      intro pair hpair wall hstart hstop hbefore
      have hskip := List.find?_eq_none.mp (h wall hstart hstop) _ (List.mem_map_of_mem hpair)
      simpa [hbefore] using hskip
    obtain ⟨earlier, hearlier, hwall⟩ := hshown zone.transitions zone.initial zone.ordered hnone instant
      (le_trans (le_of_lt hlt) hclock)
    unfold clock offsetAt at hclock
    rw [min_eq_left hclock] at hearlier
    exact ⟨earlier, hearlier, hwall⟩
  intro transitions
  induction transitions with
  | nil =>
    intro initial _ _ instant _
    refine ⟨start - initial, ?_, by simp [offsetAmong]⟩
    have := min_le_right stop (instant + offsetAmong instant initial [])
    simp only [offsetAmong, List.foldl_nil] at this ⊢
    linarith
  | cons transition rest ih =>
    intro initial hordered hnone instant hstart
    obtain ⟨hfirst, hrest⟩ := List.pairwise_cons.mp hordered
    have hbefore : ∀ earlier < transition.1, offsetAmong earlier initial (transition :: rest) = initial := by
      intro earlier hearlier
      apply offsetAmong_of_lt
      intro other hother
      obtain rfl | hother := List.mem_cons.mp hother
      · exact hearlier
      · exact lt_trans hearlier (hfirst other hother)
    by_cases hinstant : transition.1 ≤ instant
    · rw [offsetAmong_of_le rest hinstant] at hstart ⊢
      obtain ⟨earlier, hearlier, hwall⟩ := ih transition.2 hrest (fun pair hpair => hnone pair (List.mem_cons_of_mem _ hpair))
        instant hstart
      by_cases hafter : transition.1 ≤ earlier
      · refine ⟨earlier, hearlier, ?_⟩
        rwa [offsetAmong_of_le rest hafter]
      -- the reading is shown before this transition: it is not turned over, so the clock stood behind it or past `stop`
      rw [offsetAmong_of_lt fun other hother => lt_trans (not_le.mp hafter) (hfirst other hother)] at hwall
      have hmin := min_le_left stop (instant + offsetAmong instant transition.2 rest)
      have hkept := hnone (initial, transition) List.mem_cons_self (max start (transition.1 + initial)) (le_max_left _ _)
      have hback : start - initial < transition.1 ∧
          start - initial + (min stop (instant + offsetAmong instant transition.2 rest) - start) ≤ instant := by
        by_cases hpast : transition.1 + initial < stop
        · have hback := hkept (max_lt hlt hpast) (le_max_right _ _)
          obtain hle | hle := le_total start (transition.1 + initial)
          · rw [max_eq_right hle] at hback
            constructor
            · linarith
            · linarith
          · rw [max_eq_left hle] at hback
            linarith
        · constructor
          · linarith
          · linarith
      refine ⟨start - initial, hback.2, ?_⟩
      rw [hbefore _ hback.1]
      ring
    · rw [hbefore instant (not_le.mp hinstant)] at hstart ⊢
      refine ⟨start - initial, ?_, ?_⟩
      · have := min_le_right stop (instant + initial)
        linarith
      · rw [hbefore (start - initial) (by linarith)]
        ring

end Zone

/-! ### Datetimes -/

inductive DateError where
  | value (message : String)
  | overflow
  deriving DecidableEq, Repr

/-- A datetime outside of the calendar overflows. -/
def inRange (instant : ℤ) : Except DateError ℤ := do
  Checked.require (inCalendar instant) .overflow
  return instant

/-- `reading.astimezone(timezone.utc)` -/
def toUtc (zone : Zone) (reading : Reading) : Except DateError ℤ := inRange (zone.toUtc reading)

/-- `instant.astimezone(zone)` -/
def toLocal (zone : Zone) (instant : ℤ) : Except DateError Reading := do
  Checked.require (inCalendar (zone.clock instant)) .overflow
  return zone.ofUtc instant

variable {zone : Zone}

lemma inRange_ok {instant result : ℤ} : inRange instant = .ok result ↔ inCalendar instant = true ∧ instant = result := by
  unfold inRange
  constructor
  · intro h
    obtain ⟨_, hrange, h⟩ := Checked.bind_eq_ok.mp h
    exact ⟨Checked.require_eq_ok.mp hrange, Except.ok.inj h⟩
  · rintro ⟨hrange, rfl⟩
    rw [hrange]
    rfl

lemma toLocal_ok {instant : ℤ} {reading : Reading} :
    toLocal zone instant = .ok reading ↔ inCalendar (zone.clock instant) = true ∧ zone.ofUtc instant = reading := by
  unfold toLocal
  constructor
  · intro h
    obtain ⟨_, hrange, h⟩ := Checked.bind_eq_ok.mp h
    exact ⟨Checked.require_eq_ok.mp hrange, Except.ok.inj h⟩
  · rintro ⟨hrange, rfl⟩
    rw [hrange]
    rfl

end WallClock
