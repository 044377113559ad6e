import InkTime.Complementary.Model

/-!
# Pauses that need a person

A pause for review or by a user stays until an administrator ends it, as long as no failure of a kind that renews is recorded
over it and it did not begin under a call of `ensure` that was past its check.
-/

namespace InkTime.Complementary

open Jobs (JobStatus)

variable {s : State} {event : Event}

def State.AwaitsPerson (s : State) : Prop := s.control.pauseKind.any (·.needsPerson) = true

instance : DecidablePred State.AwaitsPerson := fun _ => inferInstanceAs (Decidable (_ = true))

/-- No call of `ensure` is between its check of the pause and its end. -/
def Phase.settled : Phase → Bool
  | .idle | .failing _ _ => true
  | _ => false

/-- The kind of pause a step writes. -/
def recordedKind (s : State) : Event → Option PauseKind
  | .ensurePauses _ =>
    match s.phase with
    | .failing failure _ => some failure.recordedKind
    | _ => none
  | .analyzeEnds jobId failure _ => (analysisFailure jobId failure s).map (·.recordedKind)
  | .batchPauses failure _ _ => some failure.recordedKind
  | .jobPaused => some .manual
  | .administratorConfigures disables => if disables then some .manual else none
  | _ => none

/-- A pause that awaits a person is not overwritten by one that renews, and does not begin under a call of `ensure` that has
passed its check. -/
structure Undisturbed (s : State) (event : Event) : Prop where
  kept : s.AwaitsPerson → ∀ kind ∈ recordedKind s event, kind.needsPerson = true
  begun : ¬s.AwaitsPerson → ∀ kind ∈ recordedKind s event, kind.needsPerson = true → s.phase.settled = true

/-- `ensure` creates, starts, resumes and clears nothing while the lane awaits a person, and it goes on doing so. -/
def Stays (s : State) (event : Event) : Prop :=
  s.AwaitsPerson → event.byAdministrator = false → (step s event).deeds = s.deeds ∧ (step s event).AwaitsPerson

instance (s : State) (event : Event) : Decidable (Stays s event) := inferInstanceAs (Decidable (_ → _ → _ ∧ _))

instance (s : State) (event : Event) : Decidable (Undisturbed s event) :=
  decidable_of_iff ((s.AwaitsPerson → ∀ kind ∈ recordedKind s event, kind.needsPerson = true)
      ∧ (¬s.AwaitsPerson → ∀ kind ∈ recordedKind s event, kind.needsPerson = true → s.phase.settled = true))
    ⟨fun h => ⟨h.1, h.2⟩, fun h => ⟨h.kept, h.begun⟩⟩

/-! ### What a step writes -/

/-- The events of a call of `ensure` after its first. -/
def Event.continuesEnsure : Event → Bool
  | .ensureResumes _ | .ensureLooks _ _ | .ensureAsks _ _ | .ensureQueues _ | .ensureStarts _ => true
  | _ => false

/-- A call of `ensure` that is not past its check does nothing further. -/
lemma step_of_settled (hsettled : s.phase.settled = true) (hevent : event.continuesEnsure = true) : step s event = s := by
  obtain ⟨control, jobs, phase, inFlight, deeds⟩ := s
  cases phase with
  | idle => cases event <;> first | rfl | cases hevent
  | failing failure jobId => cases event <;> first | rfl | cases hevent
  | resuming => cases hsettled
  | passed => cases hsettled
  | unoccupied => cases hsettled
  | queueing => cases hsettled
  | starting => cases hsettled

lemma ensureBegins_of_awaits (h : s.AwaitsPerson) (inputs : BeginInputs) : ensureBegins inputs s = s := by
  rw [State.AwaitsPerson] at h
  rw [ensureBegins]
  cases hkind : s.control.pauseKind with
  | none =>
    rw [hkind] at h
    cases h
  | some kind =>
    have hperson : kind.needsPerson = true := by rwa [hkind] at h
    dsimp only
    rw [hperson, Bool.true_or, if_pos rfl, ite_self]

lemma handle_control (failure : Failure) (s : State) : (handle failure s).control = s.control := by
  rw [handle]
  cases failure.kind <;> rfl

lemma orHandle_control {failure : Option Failure} {next : State} (h : next.control = s.control) :
    (orHandle failure s next).control = s.control := by
  cases failure with
  | none => exact h
  | some failure => exact handle_control failure s

lemma ensureBegins_control (inputs : BeginInputs) (s : State) : (ensureBegins inputs s).control = s.control := by
  rw [ensureBegins]
  split
  · rfl
  · split
    · rfl
    · split
      · rfl
      · split
        · rfl
        · exact orHandle_control rfl

lemma resumeTransaction_pauseKind (read : Control) (snapshot : Snapshot) (s : State) :
    (resumeTransaction read snapshot s).control.pauseKind = s.control.pauseKind
      ∨ (resumeTransaction read snapshot s).control.pauseKind = none := by
  rw [resumeTransaction]
  split
  · exact .inl rfl
  · cases read.resumeJobId with
    | none => exact .inr rfl
    | some jobId =>
      right
      dsimp only
      split <;> rfl

lemma ensureResumes_pauseKind (failure : Option Failure) (s : State) :
    (ensureResumes failure s).control.pauseKind = s.control.pauseKind ∨ (ensureResumes failure s).control.pauseKind = none := by
  rw [ensureResumes]
  split
  · cases failure with
    | none => exact resumeTransaction_pauseKind ..
    | some failure => exact .inl (congrArg Control.pauseKind (handle_control failure s))
  · exact .inl rfl

lemma ensureLooks_control (failure : Option Failure) (finalized : Option JobStatus) (s : State) :
    (ensureLooks failure finalized s).control = s.control := by
  rw [ensureLooks]
  split
  · refine orHandle_control ?_
    split
    · rfl
    · split
      · rfl
      · split <;> rfl
  · rfl

lemma ensureAsks_control (enabled urgent : Bool) (s : State) : (ensureAsks enabled urgent s).control = s.control := by
  rw [ensureAsks]
  split <;> rfl

lemma ensureQueues_control (result : QueueResult) (s : State) : (ensureQueues result s).control = s.control := by
  unfold ensureQueues
  split
  · split
    · exact handle_control ..
    · rfl
    · rfl
    · rfl
    · rfl
  · rfl

lemma ensureStarts_control (failure : Option Failure) (s : State) : (ensureStarts failure s).control = s.control := by
  rw [ensureStarts]
  split
  · refine orHandle_control ?_
    split
    · rfl
    · exact handle_control ..
  · rfl

/-- A step that records no pause leaves the kind or takes it away. -/
lemma pauseKind_step_of_none (hrecord : recordedKind s event = none) :
    (step s event).control.pauseKind = s.control.pauseKind ∨ (step s event).control.pauseKind = none := by
  cases event with
  | ensureBegins inputs => exact .inl (congrArg Control.pauseKind (ensureBegins_control inputs s))
  | ensureResumes failure => exact ensureResumes_pauseKind failure s
  | ensureLooks failure finalized => exact .inl (congrArg Control.pauseKind (ensureLooks_control failure finalized s))
  | ensureAsks enabled urgent => exact .inl (congrArg Control.pauseKind (ensureAsks_control enabled urgent s))
  | ensureQueues result => exact .inl (congrArg Control.pauseKind (ensureQueues_control result s))
  | ensureStarts failure => exact .inl (congrArg Control.pauseKind (ensureStarts_control failure s))
  | ensurePauses snapshot =>
    left
    simp only [step, ensurePauses]
    split
    · rename_i hphase
      simp [recordedKind, hphase] at hrecord
    · rfl
  | ensureDies => exact .inl rfl
  | analyzeBegins jobId enabled urgent =>
    left
    simp only [step, analyzeBegins]
    split <;> rfl
  | analyzeEnds jobId failure snapshot =>
    left
    have hnone : analysisFailure jobId failure s = none := by simpa [recordedKind] using hrecord
    simp only [step, analyzeEnds, hnone]
  | batchPauses failure jobId snapshot => cases hrecord
  | jobsChange jobs => exact .inl rfl
  | jobPaused => cases hrecord
  | administratorResumes => exact .inr rfl
  | administratorConfigures disables =>
    cases disables with
    | true => cases hrecord
    | false => exact .inr rfl

/-- A step that records a pause does nothing else that matters here. -/
lemma step_of_recorded {kind : PauseKind} (hrecord : recordedKind s event = some kind) :
    (step s event).control.pauseKind = some kind ∧ (step s event).deeds = s.deeds
      ∧ ((step s event).phase = s.phase ∨ (step s event).phase = .idle) := by
  cases event with
  | ensurePauses snapshot =>
    simp only [recordedKind] at hrecord
    split at hrecord
    · rename_i hphase
      simp only [step, ensurePauses, hphase]
      exact ⟨hrecord, rfl, .inr rfl⟩
    · cases hrecord
  | analyzeEnds jobId failure snapshot =>
    obtain ⟨recorded, hfailure, rfl⟩ := Option.map_eq_some_iff.mp hrecord
    simp only [step, analyzeEnds, hfailure]
    exact ⟨rfl, rfl, .inl rfl⟩
  | batchPauses failure jobId snapshot => exact ⟨hrecord, rfl, .inl rfl⟩
  | jobPaused => exact ⟨hrecord, rfl, .inl rfl⟩
  | administratorConfigures disables =>
    cases disables with
    | true => exact ⟨hrecord, rfl, .inl rfl⟩
    | false => cases hrecord
  | ensureBegins | ensureResumes | ensureLooks | ensureAsks | ensureQueues | ensureStarts | ensureDies | analyzeBegins | jobsChange
  | administratorResumes => cases hrecord

/-- While the lane awaits a person and no call of `ensure` is past its check, a step that records no pause changes nothing
but jobs and the calls in flight, or ends the call of `ensure`, unless an administrator takes it. -/
lemma step_of_awaits (h : s.AwaitsPerson) (hsettled : s.phase.settled = true) (hrecord : recordedKind s event = none)
    (hadministrator : event.byAdministrator = false) :
    (step s event).control = s.control ∧ (step s event).deeds = s.deeds
      ∧ ((step s event).phase = s.phase ∨ (step s event).phase = .idle) := by
  by_cases hcontinues : event.continuesEnsure = true
  · rw [step_of_settled hsettled hcontinues]
    exact ⟨rfl, rfl, .inl rfl⟩
  · cases event with
    | ensureBegins inputs =>
      rw [step, ensureBegins_of_awaits h]
      exact ⟨rfl, rfl, .inl rfl⟩
    | ensurePauses snapshot =>
      simp only [step, ensurePauses]
      split
      · rename_i hphase
        simp [recordedKind, hphase] at hrecord
      · exact ⟨rfl, rfl, .inl rfl⟩
    | ensureDies => exact ⟨rfl, rfl, .inr rfl⟩
    | analyzeBegins jobId enabled urgent =>
      simp only [step, analyzeBegins]
      split <;> exact ⟨rfl, rfl, .inl rfl⟩
    | analyzeEnds jobId failure snapshot =>
      have hnone : analysisFailure jobId failure s = none := by simpa [recordedKind] using hrecord
      simp only [step, analyzeEnds, hnone, true_or, and_self]
    | jobsChange jobs => exact ⟨rfl, rfl, .inl rfl⟩
    | batchPauses | jobPaused => cases hrecord
    | administratorResumes | administratorConfigures => cases hadministrator
    | ensureResumes | ensureLooks | ensureAsks | ensureQueues | ensureStarts => exact absurd rfl hcontinues

/-! ### Runs -/

/-- No call of `ensure` is past its check while the lane awaits a person. -/
def Attended (s : State) : Prop := s.AwaitsPerson → s.phase.settled = true

lemma awaits_of_pauseKind_eq {s' : State} (h : s'.control.pauseKind = s.control.pauseKind) : s'.AwaitsPerson ↔ s.AwaitsPerson := by
  rw [State.AwaitsPerson, State.AwaitsPerson, h]

lemma awaits_iff_of_some {kind : PauseKind} (h : s.control.pauseKind = some kind) :
    s.AwaitsPerson ↔ kind.needsPerson = true := by
  rw [State.AwaitsPerson, h]
  rfl

lemma Attended.step (h : Attended s) (hevent : Undisturbed s event) : Attended (step s event) := by
  intro hawaits
  cases hrecord : recordedKind s event with
  | none =>
    have hbefore : s.AwaitsPerson := by
      rcases pauseKind_step_of_none hrecord with hkept | hnone
      · exact (awaits_of_pauseKind_eq hkept).mp hawaits
      · rw [State.AwaitsPerson, hnone] at hawaits
        cases hawaits
    cases hadministrator : event.byAdministrator with
    | false =>
      rcases (step_of_awaits hbefore (h hbefore) hrecord hadministrator).2.2 with hphase | hphase
      · rw [hphase]
        exact h hbefore
      · rw [hphase]
        rfl
    | true =>
      cases event with
      | administratorResumes => exact h hbefore
      | administratorConfigures disables => cases disables <;> exact h hbefore
      | _ => cases hadministrator
  | some kind =>
    have hstep := step_of_recorded hrecord
    have hsettled : s.phase.settled = true := by
      by_cases hbefore : s.AwaitsPerson
      · exact h hbefore
      · exact hevent.begun hbefore kind hrecord ((awaits_iff_of_some hstep.1).mp hawaits)
    rcases hstep.2.2 with hphase | hphase
    · rw [hphase]
      exact hsettled
    · rw [hphase]
      rfl

lemma Attended.stays (h : Attended s) (hevent : Undisturbed s event) : Stays s event := by
  intro hawaits hadministrator
  cases hrecord : recordedKind s event with
  | none =>
    have hstep := step_of_awaits hawaits (h hawaits) hrecord hadministrator
    exact ⟨hstep.2.1, (awaits_of_pauseKind_eq (congrArg Control.pauseKind hstep.1)).mpr hawaits⟩
  | some kind =>
    have hstep := step_of_recorded hrecord
    exact ⟨hstep.2.1, (awaits_iff_of_some hstep.1).mpr (hevent.kept hawaits kind hrecord)⟩

/-- In an undisturbed run every step that finds the lane awaiting a person leaves it so, and `ensure` does nothing. -/
theorem person_pause_stays {start : State} {events : List Event} (hstart : start.phase = .idle)
    (hevents : Runs.Along step Undisturbed start events) : Runs.Along step Stays start events := by
  have hattended : Attended start := by
    intro _
    rw [hstart]
    rfl
  have hstep : ∀ s event, Attended s → Undisturbed s event → Attended (step s event) := fun _ _ h => h.step
  exact Runs.along_of_invariant hstep (fun _ _ h hevent => h.stays hevent) hattended hevents

/-! ### Two failures of one job -/

def running : State where
  control := ⟨none, none, none, none, none⟩
  jobs := [⟨"lane", .running, 2⟩]
  phase := .idle
  inFlight := ["lane", "lane"]
  deeds := []

def authRequired : Failure := ⟨.other, "AUTH_REQUIRED", none, "401"⟩

def dailyBudget : Failure := ⟨.expected, "BUDGET-OPENAI-DAILY", some .daily, "OpenAI 每日預算已接近暫停值；保留進度等待下一天"⟩

def monday : Snapshot := ⟨"2026-08-01", "2026-08-03"⟩

def tuesday : Snapshot := ⟨"2026-08-01", "2026-08-04"⟩

theorem person_pause_stays_overnight :
    Runs.Along step Stays running
      [.analyzeEnds "lane" (some dailyBudget) monday, .analyzeEnds "lane" (some authRequired) monday,
        .jobsChange [⟨"lane", .paused, 2⟩], .ensureBegins ⟨true, true, tuesday, none⟩, .ensureResumes none] :=
  person_pause_stays rfl (by decide +kernel)

/-- The second of two requests in flight fails for the daily budget, and the next day `ensure` resumes the job and clears the pause. -/
theorem review_overwritten :
    (step running (.analyzeEnds "lane" (some authRequired) monday)).AwaitsPerson ∧
      ¬Runs.Along step Stays running
        [.analyzeEnds "lane" (some authRequired) monday, .analyzeEnds "lane" (some dailyBudget) monday,
          .jobsChange [⟨"lane", .paused, 2⟩], .ensureBegins ⟨true, true, tuesday, none⟩, .ensureResumes none] ∧
      (Runs.run step running
        [.analyzeEnds "lane" (some authRequired) monday, .analyzeEnds "lane" (some dailyBudget) monday,
          .jobsChange [⟨"lane", .paused, 2⟩], .ensureBegins ⟨true, true, tuesday, none⟩, .ensureResumes none]).deeds =
        [.resumed "lane", .clearedPause] := by
  decide +kernel

end InkTime.Complementary
