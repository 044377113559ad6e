import InkTime.Cron.Earliest

/-!
# The cursor of a scheduled task

`ScheduledTaskRepository.update`, and what the due loop of a scheduler tick does with the task that it stored. A tick that marks
the task looks for its next run once more, from the instant of the tick, which may lie a little before the occurrence that it
finds due.
-/

namespace InkTime.Cron

open Checked

/-! ### An update -/

/-- A row of `scheduled_tasks`. -/
structure Row where
  enabled : Bool
  cron : List Char
  semantics : Semantics
  weekdays : List Nat
  retryIntervalSeconds : Int
  nextRun : Option Int
  deriving DecidableEq

/-- What a request sends; a value that is none is of a type that `update` refuses. -/
structure Payload where
  cron : Option (List Char) := none
  /-- `payload.get("cron_semantics") == "cronie_v2"` -/
  asksForCronie : Bool := false
  weekdays : Option (Option (List Int)) := none
  enabled : Option (Option Bool) := none
  retryIntervalSeconds : Option (Option Int) := none
  /-- The clocks, the window, the configuration and the other numbers are accepted. -/
  restAccepted : Bool := true

section Update

variable (unicode : Unicode) (zone : Zone)

/-- `text.strip()` -/
def strip (text : List Char) : List Char := ((text.dropWhile unicode.isSpace).reverse.dropWhile unicode.isSpace).reverse

/-- `_weekdays`, which sorts a set. -/
def checkedWeekdays (days : List Int) : Option (List Nat) :=
  if days.all fun day => 0 ≤ day && day ≤ 6 then some ((List.range 7).filter fun day => days.contains (day : Int)) else none

/-- `_bounded` -/
def bounded (value lower upper : Int) : Option Int := if lower ≤ value ∧ value ≤ upper then some value else none

/-- The text that is stored; the older meaning keeps the text it has. -/
def storedCron (semantics : Semantics) (given kept : List Char) : Option (List Char) :=
  if semantics = .cronieV2 then (cronFields unicode given).map fun _ => normalCron unicode given else some kept

/-- The first cursor of an enabled task. -/
def firstRun (enabled : Bool) (semantics : Semantics) (cron : List Char) (weekdays : List Nat) (now : Int) : Option (Option Int) :=
  if enabled then (nextRunAt unicode zone semantics cron weekdays now).toOption.map some else some none

/-- `update` at an instant; none where it raises. -/
def update (now : Int) (current : Row) (payload : Payload) : Option Row := do
  let changedCron := payload.cron.any fun cron => strip unicode cron ≠ current.cron
  let semantics := if changedCron || payload.asksForCronie then .cronieV2 else current.semantics
  let cron ← storedCron unicode semantics (payload.cron.getD current.cron) current.cron
  let weekdays ← checkedWeekdays (← payload.weekdays.getD (some (current.weekdays.map Int.ofNat)))
  let enabled ← payload.enabled.getD (some current.enabled)
  guard payload.restAccepted
  let nextRun ← firstRun unicode zone enabled semantics cron weekdays now
  let retryIntervalSeconds ← bounded (← payload.retryIntervalSeconds.getD (some current.retryIntervalSeconds)) 30 86400
  return { enabled, cron, semantics, weekdays, retryIntervalSeconds, nextRun }

end Update

/-! ### Ticks -/

/-- What a tick does with a task that is due, before it moves the cursor. -/
inductive Work where
  /-- The window, the load or an exception puts the task off. -/
  | putOff
  /-- A job is created, or there is an active one, or the occurrence is not caught up. -/
  | done (creates : Bool)
  deriving DecidableEq

structure Visit where
  now : Int
  work : Work
  deriving DecidableEq

/-- The stored cursor, with the cron occurrence that it stands for, the occurrences of the jobs created so far and the instants at
which `mark_enqueued` raised. -/
structure Progress where
  nextRun : Int
  occurrence : Int
  jobs : List Int
  failures : List Int
  deriving DecidableEq

def Progress.start (nextRun : Int) : Progress := ⟨nextRun, nextRun, [], []⟩

section Ticks

variable (julianday : Int → Int) (unicode : Unicode) (zone : Zone) (row : Row)

/-- `_next_run` of the stored text. -/
def Row.next (after : Int) : Except CronError Int := nextRunAt unicode zone row.semantics row.cron row.weekdays after

/-- `record_failure` -/
def Row.retryAt (now : Int) : Int := now + row.retryIntervalSeconds * 1000000

def Progress.visit (progress : Progress) (visit : Visit) : Progress :=
  if julianday progress.nextRun ≤ julianday visit.now then
    match visit.work with
    | .putOff => { progress with nextRun := row.retryAt visit.now }
    | .done creates =>
      let jobs := if creates then progress.jobs ++ [progress.occurrence] else progress.jobs
      match row.next unicode zone visit.now with
      | .ok next => { progress with nextRun := next, occurrence := next, jobs }
      | .error _ => { progress with nextRun := row.retryAt visit.now, jobs, failures := progress.failures ++ [visit.now] }
  else progress

/-- A due task is marked, and its cursor is moved behind the tick and the occurrence that it has run. -/
def Advances (progress : Progress) (visit : Visit) : Prop :=
  ∀ creates, julianday progress.nextRun ≤ julianday visit.now → visit.work = .done creates →
    ∃ next, row.next unicode zone visit.now = .ok next ∧ visit.now < next ∧ progress.occurrence < next ∧
      (progress.visit julianday unicode zone row visit).nextRun = next

/-- A task is marked when its occurrence has come, or the clock shows its minute already, and when the next occurrence is one of the
next 527041 whole minutes. -/
def Recurs (progress : Progress) (visit : Visit) : Prop :=
  ∀ creates, julianday progress.nextRun ≤ julianday visit.now → visit.work = .done creates →
    (progress.occurrence ≤ visit.now ∨ wallMinute zone progress.occurrence ≤ wallMinute zone visit.now) ∧
    ∃ fires, firesOf unicode row.semantics row.cron row.weekdays = .ok fires ∧ inCalendar visit.now = true ∧
      ∃ k < 527041, Found zone fires (minuteAfter visit.now 0) (wallMinute zone visit.now) k

/-- Texts are compared by the millisecond. -/
def Close : Prop := ∀ a b, julianday a ≤ julianday b → a ≤ b + 1000

lemma close_roundedJulianday : Close roundedJulianday := by
  intro a b h
  unfold roundedJulianday at h
  omega

variable {julianday : Int → Int} {unicode : Unicode} {zone : Zone} {row : Row} {progress : Progress} {visit : Visit}

lemma visit_of_later (h : ¬ julianday progress.nextRun ≤ julianday visit.now) :
    progress.visit julianday unicode zone row visit = progress := by
  unfold Progress.visit
  rw [if_neg h]

lemma visit_putOff (hdue : julianday progress.nextRun ≤ julianday visit.now) (hwork : visit.work = .putOff) :
    progress.visit julianday unicode zone row visit = { progress with nextRun := row.retryAt visit.now } := by
  unfold Progress.visit
  rw [if_pos hdue, hwork]

lemma visit_done {creates : Bool} {next : Int} (hdue : julianday progress.nextRun ≤ julianday visit.now)
    (hwork : visit.work = .done creates) (hnext : row.next unicode zone visit.now = .ok next) :
    progress.visit julianday unicode zone row visit =
      ⟨next, next, if creates then progress.jobs ++ [progress.occurrence] else progress.jobs, progress.failures⟩ := by
  unfold Progress.visit
  rw [if_pos hdue, hwork]
  dsimp only
  rw [hnext]

lemma visit_failed {creates : Bool} {error : CronError} (hdue : julianday progress.nextRun ≤ julianday visit.now)
    (hwork : visit.work = .done creates) (hnext : row.next unicode zone visit.now = .error error) :
    progress.visit julianday unicode zone row visit =
      ⟨row.retryAt visit.now, progress.occurrence, if creates then progress.jobs ++ [progress.occurrence] else progress.jobs,
        progress.failures ++ [visit.now]⟩ := by
  unfold Progress.visit
  rw [if_pos hdue, hwork]
  dsimp only
  rw [hnext]

/-- The next run of a stored text is later than the instant it is looked for from, and so is the minute that the clock shows then. -/
lemma Row.next_spec {after next : Int} (h : row.next unicode zone after = .ok next) :
    after < next ∧ minuteAfter after 0 ≤ next ∧ wallMinute zone after < wallMinute zone next := by
  obtain ⟨fires, -, -, k, -, hfound, rfl⟩ := nextRunAt_eq_ok.mp h
  have hahead := hfound.record.1
  rw [walls_eq] at hahead
  refine ⟨lt_minuteAfter after k, ?_, hahead⟩
  unfold minuteAfter microsecondsPerMinute
  omega

/-- An occurrence of a stored text: a whole minute with a date at which the text fires. -/
structure Fires (unicode : Unicode) (zone : Zone) (row : Row) (instant : Int) : Prop where
  whole : instant % microsecondsPerMinute = 0
  date : representable zone instant = true
  fired : ∀ fires, firesOf unicode row.semantics row.cron row.weekdays = .ok fires → fires (wallMinute zone instant) = .ok true

lemma Row.fires_next {after next : Int} (h : row.next unicode zone after = .ok next) : Fires unicode zone row next := by
  obtain ⟨fires, hfires, -, k, -, hfound, rfl⟩ := nextRunAt_eq_ok.mp h
  refine ⟨minuteAfter_whole after k, ?_, ?_⟩
  · rw [minuteAfter_eq]
    exact hfound.dates k le_rfl
  · intro fires' hfires'
    obtain rfl := Except.ok.inj (hfires.symm.trans hfires')
    rw [← walls_eq]
    exact hfound.fired

/-- The current occurrence is one of the stored text, and every job was created for an earlier one. -/
structure Orderly (unicode : Unicode) (zone : Zone) (row : Row) (progress : Progress) : Prop where
  fires : Fires unicode zone row progress.occurrence
  occurrence : progress.occurrence ≤ progress.nextRun
  jobs : progress.jobs.Pairwise (· < ·)
  earlier : ∀ job ∈ progress.jobs, job < progress.occurrence
  failures : progress.failures = []

/-- The occurrence that a tick runs is left behind unless the search from the tick meets it again. -/
lemma occurrence_lt_next (hclose : Close julianday) (h : Orderly unicode zone row progress) {next : Int}
    (hdue : julianday progress.nextRun ≤ julianday visit.now) (hnext : row.next unicode zone visit.now = .ok next) :
    progress.occurrence < next ↔
      progress.occurrence ≤ visit.now ∨ wallMinute zone progress.occurrence ≤ wallMinute zone visit.now := by
  obtain ⟨hlt, hle, hahead⟩ := Row.next_spec hnext
  have hnear := hclose _ _ hdue
  have hoccurrence := h.occurrence
  have hwhole := h.fires.whole
  obtain hcome | hearly := le_or_gt progress.occurrence visit.now
  · exact iff_of_true (lt_of_le_of_lt hcome hlt) (.inl hcome)
  -- The tick is early, so that its occurrence is the first whole minute after it.
  have hfirst : progress.occurrence = minuteAfter visit.now 0 := by
    unfold minuteAfter microsecondsPerMinute at *
    omega
  constructor
  · intro hbefore
    refine .inr (not_lt.mp fun hshown => ?_)
    obtain ⟨fires, hfires, -, k, -, hfound, rfl⟩ := nextRunAt_eq_ok.mp hnext
    cases k with
    | zero => exact absurd hbefore (by rw [hfirst]; exact lt_irrefl _)
    | succ k =>
      have hrecord : IsRecord (walls zone (minuteAfter visit.now 0)) (wallMinute zone visit.now) 0 := by
        rw [isRecord_zero, walls_zero, ← hfirst]
        exact hshown
      have hnot := hfound.before 0 (Nat.succ_pos k) hrecord
      rw [walls_zero, ← hfirst, h.fires.fired fires hfires] at hnot
      cases hnot
  · rintro (hcome | hshown)
    · exact absurd hcome (not_le.mpr hearly)
    · have hne : progress.occurrence ≠ next := fun heq => absurd (lt_of_le_of_lt hshown hahead) (by rw [heq]; exact lt_irrefl _)
      exact lt_of_le_of_ne (hfirst ▸ hle) hne

/-- A due task leaves its occurrence behind exactly where the next one is near enough and the search does not meet it again. -/
lemma advances_iff (hclose : Close julianday) (h : Orderly unicode zone row progress) :
    Advances julianday unicode zone row progress visit ↔ Recurs julianday unicode zone row progress visit := by
  constructor
  · intro hadvances creates hdue hwork
    obtain ⟨next, hnext, -, hbefore, -⟩ := hadvances creates hdue hwork
    obtain ⟨fires, hfires, hcalendar, k, hk, hfound, -⟩ := nextRunAt_eq_ok.mp hnext
    exact ⟨(occurrence_lt_next hclose h hdue hnext).mp hbefore, fires, hfires, hcalendar, k, hk, hfound⟩
  · intro hrecurs creates hdue hwork
    obtain ⟨hcome, fires, hfires, hcalendar, k, hk, hfound⟩ := hrecurs creates hdue hwork
    have hnext : row.next unicode zone visit.now = .ok (minuteAfter visit.now k) :=
      nextRunAt_eq_ok.mpr ⟨fires, hfires, hcalendar, k, hk, hfound, rfl⟩
    exact ⟨_, hnext, (Row.next_spec hnext).1, (occurrence_lt_next hclose h hdue hnext).mpr hcome, by rw [visit_done hdue hwork hnext]⟩

lemma Orderly.after_visit (h : Orderly unicode zone row progress) (hclose : Close julianday) (hretry : 30 ≤ row.retryIntervalSeconds)
    (hadvances : Advances julianday unicode zone row progress visit) :
    Orderly unicode zone row (progress.visit julianday unicode zone row visit) := by
  by_cases hdue : julianday progress.nextRun ≤ julianday visit.now
  · cases hwork : visit.work with
    | putOff =>
      rw [visit_putOff hdue hwork]
      refine ⟨h.fires, ?_, h.jobs, h.earlier, h.failures⟩
      have hoccurrence := h.occurrence
      have hnear := hclose _ _ hdue
      unfold Row.retryAt
      dsimp only
      omega
    | done creates =>
      obtain ⟨next, hnext, -, hafter, -⟩ := hadvances creates hdue hwork
      rw [visit_done hdue hwork hnext]
      cases creates with
      | false => exact ⟨Row.fires_next hnext, le_rfl, h.jobs, fun job hjob => (h.earlier job hjob).trans hafter, h.failures⟩
      | true =>
        refine ⟨Row.fires_next hnext, le_rfl, ?_, ?_, h.failures⟩
        · rw [if_pos rfl, List.pairwise_append]
          refine ⟨h.jobs, List.pairwise_singleton _ _, ?_⟩
          intro job hjob last hlast
          rw [List.mem_singleton.mp hlast]
          exact h.earlier job hjob
        · intro job hjob
          rw [if_pos rfl] at hjob
          obtain hjob | hjob := List.mem_append.mp hjob
          · exact (h.earlier job hjob).trans hafter
          · rw [List.mem_singleton.mp hjob]
            exact hafter
  · rw [visit_of_later hdue]
    exact h

end Ticks

/-! ### Runs -/

section Progress

variable {julianday : Int → Int} {unicode : Unicode} {zone : Zone} {now first : Int} {current row : Row} {payload : Payload}

/-- A stored task retries after half a minute at least, and its first cursor is the next run of what is stored. -/
lemma update_eq_some (h : update unicode zone now current payload = some row) :
    30 ≤ row.retryIntervalSeconds ∧ ∀ first, row.nextRun = some first → row.next unicode zone now = .ok first := by
  unfold update at h
  dsimp only at h
  obtain ⟨cron, -, h⟩ := Option.bind_eq_some_iff.mp h
  obtain ⟨given, -, h⟩ := Option.bind_eq_some_iff.mp h
  obtain ⟨weekdays, -, h⟩ := Option.bind_eq_some_iff.mp h
  obtain ⟨enabled, -, h⟩ := Option.bind_eq_some_iff.mp h
  obtain ⟨_, -, h⟩ := Option.bind_eq_some_iff.mp h
  obtain ⟨nextRun, hnextRun, h⟩ := Option.bind_eq_some_iff.mp h
  obtain ⟨asked, -, h⟩ := Option.bind_eq_some_iff.mp h
  obtain ⟨retry, hretry, h⟩ := Option.bind_eq_some_iff.mp h
  obtain rfl := Option.some.inj h
  constructor
  · unfold bounded at hretry
    split at hretry
    · rename_i hbounds
      obtain rfl := Option.some.inj hretry
      exact hbounds.1
    · cases hretry
  · rintro first rfl
    unfold firstRun at hnextRun
    split at hnextRun
    · obtain ⟨found, hfound, hsome⟩ := Option.map_eq_some_iff.mp hnextRun
      obtain rfl := Option.some.inj hsome
      unfold Row.next
      dsimp only
      generalize nextRunAt unicode zone _ cron weekdays now = result at hfound ⊢
      cases result with
      | error error => cases hfound
      | ok instant => exact congrArg Except.ok (Option.some.inj hfound)
    · cases hnextRun

/-- After an accepted update, every due tick that marks the task moves its cursor behind itself and the occurrence that it runs, so
that no occurrence gets a second job, exactly where no such tick is early, unless the clock shows the minute of the occurrence
already, and at each of them the next occurrence is one of the next 527041 minutes. -/
theorem cursor_progress (hclose : Close julianday) (haccepted : update unicode zone now current payload = some row)
    (hfirst : row.nextRun = some first) (visits : List Visit) : now < first ∧
    ((Runs.Along (Progress.visit julianday unicode zone row) (Advances julianday unicode zone row) (.start first) visits ∧
      (Runs.run (Progress.visit julianday unicode zone row) (.start first) visits).failures = [] ∧
      (Runs.run (Progress.visit julianday unicode zone row) (.start first) visits).jobs.Pairwise (· < ·)) ↔
    Runs.Along (Progress.visit julianday unicode zone row) (Recurs julianday unicode zone row) (.start first) visits) := by
  obtain ⟨hretry, hnext⟩ := update_eq_some haccepted
  have hstart : Orderly unicode zone row (.start first) :=
    ⟨Row.fires_next (hnext first hfirst), le_rfl, List.Pairwise.nil, by simp [Progress.start], rfl⟩
  have hkept : ∀ progress visit, Orderly unicode zone row progress → Advances julianday unicode zone row progress visit →
      Orderly unicode zone row (progress.visit julianday unicode zone row visit) :=
    fun _ _ h hadvances => h.after_visit hclose hretry hadvances
  refine ⟨(Row.next_spec (hnext first hfirst)).1, ?_, ?_⟩
  · rintro ⟨hadvances, -⟩
    exact Runs.along_of_invariant hkept (fun _ _ h => (advances_iff hclose h).mp) hstart hadvances
  · intro hrecurs
    have hadvances := Runs.along_of_invariant (fun progress visit h hvisit => hkept progress visit h ((advances_iff hclose h).mpr hvisit))
      (fun _ _ h => (advances_iff hclose h).mpr) hstart hrecurs
    have horderly := Runs.invariant_of_along hkept hstart hadvances
    exact ⟨hadvances, horderly.failures, horderly.jobs⟩

end Progress

/-! ### The 29th of February -/

def leapText : List Char := "0 0 29 2 *".toList

def leapExpression : Expression := ⟨[.number 0], [.number 0], [.number 29], [.number 2], [.star]⟩

/-- The midnight that begins 2028-02-29, in UTC. -/
def leapDay : Int := 1835395200000000

/-- Half an hour before it. -/
def leapEve : Int := leapDay - 1800000000

def monthly : Row := ⟨true, "0 3 1 * *".toList, .cronieV2, [], 900, none⟩

def leapRow : Row := ⟨true, leapText, .cronieV2, [], 900, some leapDay⟩

def onTime : Visit := ⟨leapDay, .done true⟩

/-- The tick after the retry interval. -/
def retried : Visit := ⟨leapDay + 900000000, .done true⟩

lemma update_leapRow : update ascii utcZone.zone leapEve monthly { cron := some leapText } = some leapRow := by decide +kernel

theorem cursor_progress_leapRow : leapEve < leapDay ∧
    ((Runs.Along (Progress.visit roundedJulianday ascii utcZone.zone leapRow)
        (Advances roundedJulianday ascii utcZone.zone leapRow) (.start leapDay) [onTime] ∧
      (Runs.run (Progress.visit roundedJulianday ascii utcZone.zone leapRow) (.start leapDay) [onTime]).failures = [] ∧
      (Runs.run (Progress.visit roundedJulianday ascii utcZone.zone leapRow) (.start leapDay) [onTime]).jobs.Pairwise (· < ·)) ↔
    Runs.Along (Progress.visit roundedJulianday ascii utcZone.zone leapRow)
        (Recurs roundedJulianday ascii utcZone.zone leapRow) (.start leapDay) [onTime]) :=
  cursor_progress close_roundedJulianday update_leapRow rfl [onTime]

lemma leapExpression_fires {wall : Int} (h : leapExpression.fires [] wall = true) :
    wall % 1440 = 0 ∧ (dateOfDay (wall / 1440)).month = 2 ∧ (dateOfDay (wall / 1440)).day = 29 := by
  simp only [Expression.fires, leapExpression, Field.contains, List.any_cons, List.any_nil, Part.contains, Field.hasStar,
    Bool.or_false, Bool.and_eq_true, beq_iff_eq, Bool.false_or, if_true] at h
  obtain ⟨⟨⟨⟨hminute, hhour⟩, hmonth⟩, hday, -⟩, -⟩ := h
  exact ⟨by omega, hmonth, hday⟩

/-- Of the 366 days after it none is another 29th of February. -/
lemma no_leapDay_soon : ∀ i < 367, i ≠ 0 → ¬ ((dateOfDay (21243 + (i : Nat))).month = 2 ∧ (dateOfDay (21243 + (i : Nat))).day = 29) := by
  decide +kernel

/-- Within a quarter of an hour from the occurrence on, no other one is found. -/
lemma leapRow_next {after : Int} (hle : leapDay ≤ after) (hlt : after < leapDay + 960000000) :
    ∃ error, leapRow.next ascii utcZone.zone after = .error error := by
  cases hnext : leapRow.next ascii utcZone.zone after with
  | error error => exact ⟨error, rfl⟩
  | ok next =>
    exfalso
    have hexpression : cronFields ascii leapText = some leapExpression := by decide +kernel
    obtain ⟨fires, hfires, -, k, hk, hfound, -⟩ := nextRunAt_eq_ok.mp hnext
    rw [show leapRow.semantics = .cronieV2 from rfl, show leapRow.cron = leapText from rfl, firesOf_cronie hexpression] at hfires
    obtain rfl := Except.ok.inj hfires
    obtain ⟨hmidnight, hmonth, hday⟩ := leapExpression_fires (Except.ok.inj hfound.fired)
    have hwall : walls utcZone.zone (minuteAfter after 0) k = 21243 * 1440 + (after - leapDay) / 60000000 + 1 + k := by
      rw [walls_eq]
      unfold wallMinute MinuteZone.zone utcZone minuteAfter microsecondsPerMinute leapDay
      dsimp only
      omega
    unfold leapDay at *
    obtain ⟨i, hi⟩ : ∃ i : ℕ, walls utcZone.zone (minuteAfter after 0) k / 1440 = 21243 + i :=
      ⟨(walls utcZone.zone (minuteAfter after 0) k / 1440 - 21243).toNat, by omega⟩
    rw [hi] at hmonth hday
    exact no_leapDay_soon i (by omega) (by omega) ⟨hmonth, hday⟩

/-- The mark of the task fails on the day itself, so that its retry creates a second job for the same occurrence. -/
theorem leap_day_runs_twice : update ascii utcZone.zone leapEve monthly { cron := some leapText } = some leapRow ∧
    leapRow.nextRun = some leapDay ∧
    ¬ (Runs.Along (Progress.visit roundedJulianday ascii utcZone.zone leapRow)
        (Advances roundedJulianday ascii utcZone.zone leapRow) (.start leapDay) [onTime, retried] ∧
      (Runs.run (Progress.visit roundedJulianday ascii utcZone.zone leapRow) (.start leapDay) [onTime, retried]).failures = [] ∧
      (Runs.run (Progress.visit roundedJulianday ascii utcZone.zone leapRow) (.start leapDay) [onTime, retried]).jobs.Pairwise (· < ·)) ∧
    (Runs.run (Progress.visit roundedJulianday ascii utcZone.zone leapRow) (.start leapDay) [onTime, retried]).jobs =
      [leapDay, leapDay] := by
  obtain ⟨error, herror⟩ := leapRow_next (show leapDay ≤ onTime.now by decide) (show onTime.now < leapDay + 960000000 by decide)
  obtain ⟨again, hagain⟩ := leapRow_next (show leapDay ≤ retried.now by decide) (show retried.now < leapDay + 960000000 by decide)
  have hfirst : (Progress.start leapDay).visit roundedJulianday ascii utcZone.zone leapRow onTime =
      ⟨leapRow.retryAt onTime.now, leapDay, [leapDay], [onTime.now]⟩ :=
    visit_failed (show roundedJulianday leapDay ≤ roundedJulianday onTime.now by decide) rfl herror
  have hsecond :
      Progress.visit roundedJulianday ascii utcZone.zone leapRow
        ⟨leapRow.retryAt onTime.now, leapDay, [leapDay], [onTime.now]⟩ retried =
      ⟨leapRow.retryAt retried.now, leapDay, [leapDay, leapDay], [onTime.now, retried.now]⟩ :=
    visit_failed (show roundedJulianday (leapRow.retryAt onTime.now) ≤ roundedJulianday retried.now by decide) rfl hagain
  have hrun : Runs.run (Progress.visit roundedJulianday ascii utcZone.zone leapRow) (.start leapDay) [onTime, retried] =
      ⟨leapRow.retryAt retried.now, leapDay, [leapDay, leapDay], [onTime.now, retried.now]⟩ := by
    rw [Runs.run_cons, Runs.run_cons, Runs.run_nil, hfirst, hsecond]
  refine ⟨update_leapRow, rfl, ?_, by rw [hrun]⟩
  rintro ⟨-, hfailures, -⟩
  rw [hrun] at hfailures
  cases hfailures

end InkTime.Cron
