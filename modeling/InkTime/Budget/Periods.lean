import InkTime.Budget.Effects

/-!
# Spending limits

The meters of the four caps: a day, a month, a job and a photo. What the checks of a reservation compare with the cap is
what the meter has counted in the running period and all that is reserved on it.
-/

namespace InkTime.Budget

open Ledger (Usage)

/-! ### The calendar -/

namespace Calendar

variable (calendar : Calendar)

lemma midnight_le_iff {day time : Nat} : calendar.midnight day ≤ time ↔ day ≤ calendar.today time := by
  constructor
  · intro h
    by_contra hlater
    have hmidnight : calendar.midnight (calendar.today time + 1) ≤ calendar.midnight day := calendar.midnight_mono (by omega)
    have hlt := calendar.lt_midnight time
    omega
  · intro h
    exact (calendar.midnight_mono h).trans (calendar.midnight_le time)

lemma today_mono : Monotone calendar.today := by
  intro earlier later h
  rw [← midnight_le_iff]
  exact (calendar.midnight_le earlier).trans h

lemma firstOfMonth_mono : Monotone calendar.firstOfMonth := by
  intro earlier later h
  by_contra hback
  have hfirst := calendar.firstOfMonth_le earlier
  have hnext := calendar.lt_nextMonth later
  have hsame := calendar.sameMonth later earlier (by omega) (by omega)
  omega

/-- The bounds of the running day select what started on it. -/
lemma inDay_iff (now time : Nat) :
    ((usagePeriods calendar now).dayStart ≤ time ∧ time < (usagePeriods calendar now).dayEnd) ↔
      calendar.today time = calendar.today now := by
  simp only [usagePeriods, ← not_le, midnight_le_iff]
  omega

lemma inMonth_iff (now time : Nat) :
    ((usagePeriods calendar now).monthStart ≤ time ∧ time < (usagePeriods calendar now).monthEnd) ↔
      calendar.firstOfMonth (calendar.today time) = calendar.firstOfMonth (calendar.today now) := by
  simp only [usagePeriods, ← not_le, midnight_le_iff]
  constructor
  · rintro ⟨hstart, hend⟩
    exact calendar.sameMonth _ _ hstart (by omega)
  · intro hsame
    have hfirst := calendar.firstOfMonth_le (calendar.today time)
    have hnext := calendar.lt_nextMonth (calendar.today time)
    rw [hsame] at hfirst hnext
    omega

end Calendar

/-! ### Meters -/

def dayMeter (calendar : Calendar) : Meter where
  covers := fun _ _ => true
  index := calendar.today
  mono := calendar.today_mono

def monthMeter (calendar : Calendar) : Meter where
  covers := fun _ _ => true
  index := fun time => calendar.firstOfMonth (calendar.today time)
  mono := calendar.firstOfMonth_mono.comp calendar.today_mono

def jobMeter (jobId : String) : Meter where
  covers := fun job _ => job == some jobId
  index := fun _ => 0
  mono := monotone_const

def photoMeter (photoId : String) : Meter where
  covers := fun _ photo => photo == some photoId
  index := fun _ => 0
  mono := monotone_const

/-! ### Checks -/

section Checks

variable {settings : Settings} {calendar : Calendar} {budgetLimit : String → Option ℚ} {w : World}

lemma exceeds_eq_false {maximum current amount : ℚ} (h : exceeds maximum current amount = false) (hmaximum : 0 < maximum) :
    current + amount ≤ maximum := by
  simpa [exceeds, hmaximum] using h

/-- What a reservation that passed is known to respect. -/
lemma refusal_eq_none {found : Snapshot} {request : Request} {answer : Answer}
    (h : refusal settings found request answer = none) (hlane : answer.dedicated = false) :
    (∀ limit, found.jobLimit = some limit → found.jobEffective + request.amount ≤ limit) ∧
      (0 < settings.dailyStop → found.dailyEffective + request.amount ≤ settings.dailyStop) ∧
      (0 < settings.monthlyStop → found.monthlyEffective + request.amount ≤ settings.monthlyStop) ∧
      ∀ photoId, request.photoId = some photoId → photoId ≠ "" → 0 < settings.photoMax →
        found.photoEffective + request.amount ≤ settings.photoMax := by
  unfold refusal at h
  simp only [hlane, Bool.false_eq_true, if_false] at h
  split_ifs at h with hjob hothers
  simp only [Bool.or_eq_true, not_or, Bool.not_eq_true] at hothers
  obtain ⟨⟨⟨hday, hmonth⟩, hphoto⟩, -⟩ := hothers
  refine ⟨?_, exceeds_eq_false hday, exceeds_eq_false hmonth, ?_⟩
  · intro limit hlimit
    simpa [hlimit] using hjob
  · intro photoId hnamed hphotoId hmaximum
    rw [hnamed] at hphoto
    refine exceeds_eq_false ?_ hmaximum
    split at hphoto
    · next hnone => cases hnone
    · next hempty => exact absurd (Option.some.inj hempty) hphotoId
    · exact hphoto

variable (settings calendar budgetLimit)

lemma day_effective (jobId photoId : Option String) :
    (dayMeter calendar).known w.db ((dayMeter calendar).index w.clock) + (dayMeter calendar).pledged w.db ≤
      (snapshot settings calendar budgetLimit w.db w.clock jobId photoId).dailyEffective := by
  have hknown : (dayMeter calendar).known w.db ((dayMeter calendar).index w.clock) =
      (snapshot settings calendar budgetLimit w.db w.clock jobId photoId).dailyKnown := by
    apply Table.total_congr
    intro usage _
    simp only [dayMeter, Bool.true_and, beq_iff_eq, decide_eq_true_eq, Bool.and_eq_true,
      calendar.inDay_iff w.clock usage.startedAt]
  rw [hknown]
  simp only [snapshot, Meter.pledged, dayMeter]
  refine add_le_add ?_ le_rfl
  exact le_add_of_nonneg_right (by positivity)

lemma month_effective (jobId photoId : Option String) :
    (monthMeter calendar).known w.db ((monthMeter calendar).index w.clock) + (monthMeter calendar).pledged w.db ≤
      (snapshot settings calendar budgetLimit w.db w.clock jobId photoId).monthlyEffective := by
  have hknown : (monthMeter calendar).known w.db ((monthMeter calendar).index w.clock) =
      (snapshot settings calendar budgetLimit w.db w.clock jobId photoId).monthlyKnown := by
    apply Table.total_congr
    intro usage _
    simp only [monthMeter, Bool.true_and, beq_iff_eq, decide_eq_true_eq, Bool.and_eq_true,
      calendar.inMonth_iff w.clock usage.startedAt]
  rw [hknown]
  simp only [snapshot, Meter.pledged, monthMeter]
  refine add_le_add ?_ le_rfl
  exact le_add_of_nonneg_right (by positivity)

lemma archived_empty {selected : Ledger.Archive → Bool} (h : w.db.ledger.archive = .empty) : archived w.db selected = 0 := by
  rw [archived, h]
  rfl

lemma job_effective (hsane : Sane w) (jobId : String) (photoId : Option String) :
    (jobMeter jobId).known w.db 0 + (jobMeter jobId).pledged w.db =
      (snapshot settings calendar budgetLimit w.db w.clock (some jobId) photoId).jobEffective := by
  simp only [snapshot, archived_empty hsane.archive, add_zero, Meter.known, Meter.pledged, jobMeter, totals, named,
    Option.isSome_some, Bool.true_and, beq_self_eq_true, Bool.and_true]

lemma photo_effective (hsane : Sane w) (jobId : Option String) (photoId : String) :
    (photoMeter photoId).known w.db 0 + (photoMeter photoId).pledged w.db =
      (snapshot settings calendar budgetLimit w.db w.clock jobId (some photoId)).photoEffective := by
  simp only [snapshot, archived_empty hsane.archive, add_zero, Meter.known, Meter.pledged, photoMeter, totals, named,
    Option.isSome_some, Bool.true_and, beq_self_eq_true, Bool.and_true]

end Checks

/-! ### Runs -/

section Runs

variable (settings : Settings) (calendar : Calendar) (budgetLimit : String → Option ℚ)

/-- The checks of `reserve` hold a new reservation under the cap of the meter. -/
def Meter.Checked (meter : Meter) (cap : ℚ) : Prop :=
  ∀ {w : World}, Sane w → ∀ {request : Request} {answer : Answer}, answer.dedicated = false →
    refusal settings (snapshot settings calendar budgetLimit w.db w.clock request.jobId request.photoId) request answer = none →
    meter.covers request.jobId request.photoId = true →
    meter.known w.db (meter.index w.clock) + meter.pledged w.db + request.amount ≤ cap

variable {settings calendar budgetLimit}

lemma day_checked (hstop : 0 < settings.dailyStop) :
    (dayMeter calendar).Checked settings calendar budgetLimit settings.dailyStop := by
  intro w _ request answer hlane hpassed _
  have hcheck := (refusal_eq_none hpassed hlane).2.1 hstop
  have heffective := day_effective settings calendar budgetLimit (w := w) request.jobId request.photoId
  linarith

lemma month_checked (hstop : 0 < settings.monthlyStop) :
    (monthMeter calendar).Checked settings calendar budgetLimit settings.monthlyStop := by
  intro w _ request answer hlane hpassed _
  have hcheck := (refusal_eq_none hpassed hlane).2.2.1 hstop
  have heffective := month_effective settings calendar budgetLimit (w := w) request.jobId request.photoId
  linarith

lemma jobLimit_some {jobId : String} (hjob : jobId ≠ "") : jobLimit budgetLimit (some jobId) = budgetLimit jobId := by
  unfold jobLimit
  split
  · next hnone => cases hnone
  · next hempty => exact absurd (Option.some.inj hempty) hjob
  · next hsome => rw [Option.some.inj hsome]

lemma job_checked {jobId : String} {limit : ℚ} (hjob : jobId ≠ "") (hlimit : budgetLimit jobId = some limit) :
    (jobMeter jobId).Checked settings calendar budgetLimit limit := by
  intro w hsane request answer hlane hpassed hcovers
  have hnamed : request.jobId = some jobId := beq_iff_eq.mp hcovers
  have heffective := job_effective settings calendar budgetLimit hsane jobId request.photoId
  have hcheck := (refusal_eq_none hpassed hlane).1 limit ((congrArg (jobLimit budgetLimit) hnamed).trans
    ((jobLimit_some hjob).trans hlimit))
  rw [hnamed, ← heffective] at hcheck
  exact hcheck

lemma photo_checked {photoId : String} (hphoto : photoId ≠ "") (hmaximum : 0 < settings.photoMax) :
    (photoMeter photoId).Checked settings calendar budgetLimit settings.photoMax := by
  intro w hsane request answer hlane hpassed hcovers
  have hnamed : request.photoId = some photoId := beq_iff_eq.mp hcovers
  have heffective := photo_effective settings calendar budgetLimit hsane request.jobId photoId
  have hcheck := (refusal_eq_none hpassed hlane).2.2.2 photoId hnamed hphoto hmaximum
  rw [hnamed, ← heffective] at hcheck
  exact hcheck

theorem Effect.within {meter : Meter} {cap : ℚ} (hchecked : meter.Checked settings calendar budgetLimit cap) {w w' : World}
    {act : Act} (heffect : Effect settings calendar budgetLimit w act w') (hsane : Sane w) (hnames : meter.names w act = true)
    (h : meter.Within cap w) : meter.Within cap w' := by
  cases heffect with
  | idle hclock => exact h
  | reserved hfresh hnow hused hamount hrequest hjob hphoto hlane hpassed =>
    apply within_reserve h hsane hfresh hnow hused
    intro hcovers
    rw [← hjob, ← hphoto] at hcovers
    rw [← hrequest]
    exact hchecked hsane hlane hpassed hcovers
  | charged husage harchive hcovered hreserved => exact within_charge h husage hcovered (hreserved meter hnames)
  | released reservationId => exact within_release h hsane reservationId

/-- A meter that is checked never passes its cap, as long as what it counts was reserved on it. -/
theorem run_within {meter : Meter} {cap : ℚ} (hchecked : meter.Checked settings calendar budgetLimit cap) (hcap : 0 ≤ cap)
    (jobs : Jobs.Db) {acts : List Act}
    (h : Runs.Along (step settings calendar budgetLimit) (fun w act => honest w act = true ∧ meter.names w act = true)
      (World.start jobs) acts) (period : Nat) :
    meter.known (run settings calendar budgetLimit (World.start jobs) acts).db period ≤ cap := by
  have hstart : Sane (World.start jobs) ∧ meter.Within cap (World.start jobs) :=
    ⟨start_sane jobs, fun _ => (add_zero (0 : ℚ)).trans_le hcap⟩
  have hstep : ∀ w act, Sane w ∧ meter.Within cap w → honest w act = true ∧ meter.names w act = true →
      Sane (step settings calendar budgetLimit w act) ∧ meter.Within cap (step settings calendar budgetLimit w act) := by
    intro w act hw hact
    have heffect : Effect settings calendar budgetLimit w act (step settings calendar budgetLimit w act) := step_effect hact.1
    exact ⟨heffect.sane hw.1, heffect.within hchecked hw.1 hact.2 hw.2⟩
  obtain ⟨hsane, hwithin⟩ := Runs.invariant_of_along hstep hstart h
  have hheld : 0 ≤ meter.held (run settings calendar budgetLimit (World.start jobs) acts).db period := by
    have hzero : (0 : ℚ) = (run settings calendar budgetLimit (World.start jobs) acts).db.reservations.total fun _ => (0 : ℚ) := by
      simp [Table.total]
    rw [hzero]
    apply Table.total_le_total
    intro reservation hreservation
    have hused := (hsane.used reservation hreservation).2
    unfold Meter.share
    split
    · linarith
    · exact le_rfl
  have hperiod := hwithin period
  exact (le_add_of_nonneg_right hheld).trans hperiod

/-- A record names the job of its reservation, so a meter that only looks at jobs counts what was reserved on it. -/
lemma names_of_honest {meter : Meter} (hjobs : ∀ job photo other, meter.covers job photo = meter.covers job other) {w : World}
    {act : Act} (h : honest w act = true) : meter.names w act = true := by
  have hsame : ∀ {reservationId : String} {jobId photoId : Option String} {startedAt : Nat} {cost : ℚ},
      covered w reservationId jobId startedAt cost = true → (!meter.covers jobId photoId ||
        (w.db.reservations.find reservationId).any fun reservation => meter.covers reservation.jobId reservation.photoId) = true := by
    intro reservationId jobId photoId startedAt cost hcovered
    obtain ⟨reservation, -, hfound, -, -, hjob, -⟩ := covered_iff hcovered
    rw [hfound, Option.any_some, hjob, hjobs jobId reservation.photoId photoId]
    exact Bool.not_or_self _
  cases act with
  | record => exact hsame h
  | recordBatchOnce => exact hsame h
  | tick | reserve | release => rfl

/-- The known cost of the selected usage rows. -/
def spent (w : World) (selected : Usage → Bool) : ℚ := (totals w.db selected).1

variable (settings calendar budgetLimit) in
structure CapsKept (w : World) : Prop where
  day : 0 < settings.dailyStop → ∀ day, spent w (fun usage => calendar.today usage.startedAt == day) ≤ settings.dailyStop
  month : 0 < settings.monthlyStop → ∀ month,
    spent w (fun usage => calendar.firstOfMonth (calendar.today usage.startedAt) == month) ≤ settings.monthlyStop
  job : ∀ jobId limit, budgetLimit jobId = some limit → spent w (fun usage => usage.jobId == some jobId) ≤ limit

/-- Whatever the workers do, no day, month or job costs more than its cap, and no photo whose costs were all reserved for
it costs more than `budget.photo_max`. -/
theorem caps_kept (hlimits : ∀ jobId limit, budgetLimit jobId = some limit → jobId ≠ "" ∧ 0 ≤ limit) (jobs : Jobs.Db)
    (acts : List Act)
    (h : Runs.Along (step settings calendar budgetLimit) (fun w act => honest w act = true) (World.start jobs) acts) :
    CapsKept settings calendar budgetLimit (run settings calendar budgetLimit (World.start jobs) acts) ∧
      ∀ photoId, photoId ≠ "" → 0 < settings.photoMax →
        Runs.Along (step settings calendar budgetLimit) (fun w act => (photoMeter photoId).names w act = true) (World.start jobs)
          acts →
        spent (run settings calendar budgetLimit (World.start jobs) acts) (fun usage => usage.photoId == some photoId) ≤
          settings.photoMax := by
  have halong : ∀ meter : Meter, (∀ job photo other, meter.covers job photo = meter.covers job other) →
      Runs.Along (step settings calendar budgetLimit) (fun w act => honest w act = true ∧ meter.names w act = true)
        (World.start jobs) acts :=
    fun meter hjobs => h.mono fun _ _ hact => ⟨hact, names_of_honest hjobs hact⟩
  refine ⟨⟨?_, ?_, ?_⟩, ?_⟩
  · intro hstop day
    have hday := run_within (day_checked hstop) hstop.le jobs (halong _ fun _ _ _ => rfl) day
    simpa only [Meter.known, dayMeter, Bool.true_and, spent, totals] using hday
  · intro hstop month
    have hmonth := run_within (month_checked hstop) hstop.le jobs (halong _ fun _ _ _ => rfl) month
    simpa only [Meter.known, monthMeter, Bool.true_and, spent, totals] using hmonth
  · intro jobId limit hlimit
    obtain ⟨hjob, hcap⟩ := hlimits jobId limit hlimit
    have hcost := run_within (job_checked hjob hlimit) hcap jobs (halong (jobMeter jobId) fun _ _ _ => rfl) 0
    simpa only [Meter.known, jobMeter, beq_self_eq_true, Bool.and_true, spent, totals] using hcost
  · intro photoId hphoto hmaximum hnames
    have hboth := h.and hnames
    have hcost := run_within (photo_checked hphoto hmaximum) hmaximum.le jobs hboth 0
    simpa only [Meter.known, photoMeter, beq_self_eq_true, Bool.and_true, spent, totals] using hcost

end Runs

/-- Days of UTC, with every month as long as the first one. -/
def longMonths : Calendar where
  midnight := fun day => 86400000000 * day
  today := fun time => time / 86400000000
  firstOfMonth := fun day => 31 * (day / 31)
  midnight_mono := fun _ _ h => Nat.mul_le_mul_left _ h
  midnight_le := by intro time; omega
  lt_midnight := by intro time; omega
  firstOfMonth_le := by intro day; omega
  lt_nextMonth := by intro day; omega
  sameMonth := by intro day other; omega

/-- A job with a limit, and one photo. -/
def limitedJob : Jobs.Db where
  jobs := .single { id := "job", kind := .analysis, state := { status := .running } }
  items := .empty
  photos := .single { id := "photo" }

def oneLimit (jobId : String) : Option ℚ := if jobId = "job" then some 1 else none

/-- Two workers reserve before midnight, and both are answered on the next day. -/
def straddling : List Act :=
  [.tick 86399000000,
    .reserve { id := "vision:1", amount := 1 / 4, jobId := some "job", photoId := some "photo" } {},
    .reserve { id := "vision:2", amount := 1 / 2, jobId := some "job" } {},
    .tick 86401000000,
    .record "vision:1"
      { jobId := some "job", photoId := some "photo", actualCost := some (1 / 8), costSource := .providerReported,
        startedAt := 86400000000 } {},
    .release "vision:1",
    .record "vision:2" { jobId := some "job", estimatedCost := some (1 / 2), costSource := .estimated, startedAt := 86399500000 } {},
    .release "vision:2"]

theorem caps_kept_of_straddling :
    CapsKept {} longMonths oneLimit (run {} longMonths oneLimit (World.start limitedJob) straddling) ∧
      spent (run {} longMonths oneLimit (World.start limitedJob) straddling) (fun usage => usage.jobId == some "job") = 5 / 8 ∧
      spent (run {} longMonths oneLimit (World.start limitedJob) straddling) (fun usage => usage.photoId == some "photo") ≤ 1 / 4 := by
  have hlimits : ∀ jobId limit, oneLimit jobId = some limit → jobId ≠ "" ∧ 0 ≤ limit := by
    intro jobId limit h
    unfold oneLimit at h
    split at h
    · next hjob =>
      obtain rfl := Option.some.inj h
      rw [hjob]
      exact ⟨by decide, by norm_num⟩
    · cases h
  have hhonest : Runs.Along (step {} longMonths oneLimit) (fun w act => honest w act = true) (World.start limitedJob)
      straddling := by decide +kernel
  obtain ⟨hcaps, hphoto⟩ := caps_kept hlimits limitedJob straddling hhonest
  exact ⟨hcaps, by decide +kernel, hphoto "photo" (by decide) (by decide +kernel) (by decide +kernel)⟩

/-- A Batch is reserved as a whole, for no photo, and its item is recorded for one. -/
def batchOfOne : List Act :=
  [.tick 1000, .reserve { id := "batch:1", amount := 1, jobId := some "job" } {}, .tick 2000,
    .recordBatchOnce "batch:1"
      { jobId := some "job", photoId := some "photo", actualCost := some 1, costSource := .providerReported,
        startedAt := 1500 } "item" {},
    .release "batch:1"]

/-- A photo of a Batch costs more than `budget.photo_max`. -/
theorem photo_cap_passed_by_batch :
    Runs.Along (step {} longMonths oneLimit) (fun w act => honest w act = true) (World.start limitedJob) batchOfOne ∧
      ({} : Settings).photoMax <
        spent (run {} longMonths oneLimit (World.start limitedJob) batchOfOne) (fun usage => usage.photoId == some "photo") := by
  decide +kernel

end InkTime.Budget
