import InkTime.Rollouts.Sound

/-!
# Skipped devices and the start of a rollback

A rollback decides by the delivery mode its devices have when it starts. A target that was skipped because its
device was offline has no rollback release, so that it counts as missing once the device is online again.
-/

namespace InkTime.Rollouts

open Queue (ReleaseId Release Device Item)

variable {db db' : Db} {rolloutId : String} {settles : Target → TargetStatus → Prop}

/-- A rollback of the campaign starts, whether it can go on or not. -/
def RollbackStarts (db db' : Db) (rolloutId : String) : Prop :=
  inProgress (statusOf db rolloutId) = true ∧
    (statusOf db' rolloutId = some .rollingBack ∨ statusOf db' rolloutId = some .failed)

/-- A target that was given a queue row, and whose rollback has nothing to show. -/
def GivenMissing (db : Db) (rolloutId : String) : Prop :=
  ∃ target ∈ db.targets, target.rolloutId = rolloutId ∧ target.state.queueItemId ≠ none ∧ missing db target = true

/-- The rollback goes on unless a target that was given a queue row lacks a valid rollback release, and it fails
only on account of such a target. -/
structure Unspoiled (db db' : Db) (rolloutId : String) : Prop where
  goesOn : (∀ target ∈ db.targets, target.rolloutId = rolloutId → target.state.queueItemId ≠ none →
    lacksFallback db target = false) → statusOf db' rolloutId = some .rollingBack
  blamed : statusOf db' rolloutId = some .failed → GivenMissing db rolloutId

/-- Every device that was only skipped is still offline. -/
def SkippedStillOffline (db : Db) (rolloutId : String) : Prop :=
  ∀ target ∈ db.targets, target.rolloutId = rolloutId → target.state.queueItemId = none → isOffline db target.deviceId = true

/-! ### The turn in which a rollback starts -/

def SameRow (before after : Target) : Prop := after.key = before.key ∧ SamePlace before after

/-- Rows that calm moves leave behind. -/
structure CalmRows (rolloutId : String) (db db' : Db) : Prop where
  queue : QueueKept db.queue db'.queue
  rows : Table.Grows SameRow (Skipped db rolloutId) db.targets db'.targets

lemma SameRow.refl (target : Target) : SameRow target target := ⟨rfl, rfl, rfl⟩

lemma CalmRows.of_calms (h : Relation.ReflTransGen (Calm settles rolloutId) db db') : CalmRows rolloutId db db' := by
  induction h with
  | refl => exact ⟨QueueKept.refl _, Table.Grows.refl SameRow.refl _⟩
  | @tail middle last _ hlast ih =>
    have hstep : QueueKept middle.queue last.queue ∧ Table.Grows SameRow (Skipped db rolloutId) middle.targets last.targets := by
      cases hlast with
      | proceed frame targets _ =>
        refine ⟨frame.queue, ?_⟩
        rw [targets]
        exact Table.Grows.refl SameRow.refl _
      | settle frame targets _ =>
        refine ⟨frame.queue, targets.mono ?_ fun _ _ hnew => hnew.elim⟩
        rintro before - after - hkey (rfl | ⟨-, hplace, -⟩)
        · exact SameRow.refl after
        · exact ⟨hkey, hplace⟩
      | skip frame _ targets _ =>
        refine ⟨frame.queue, targets.mono ?_ ?_⟩
        · rintro before - after - - rfl
          exact SameRow.refl before
        · rintro target - hnew
          exact ⟨hnew.rollout, by rw [← isOffline_kept ih.queue]; exact hnew.device, hnew.unplaced, hnew.unsaved⟩
    refine ⟨ih.queue.trans hstep.1, ih.rows.trans hstep.2 ?_ ?_⟩
    · rintro a b c ⟨hkey, hsaved, hplaced⟩ ⟨hkey', hsaved', hplaced'⟩
      exact ⟨hkey'.trans hkey, hsaved'.trans hsaved, hplaced'.trans hplaced⟩
    · rintro b c hnew ⟨hkey, hsaved, hplaced⟩
      obtain ⟨hrollout, hdevice⟩ := Prod.mk.inj hkey
      exact ⟨hrollout.trans hnew.rollout, by rw [hdevice]; exact hnew.device, hplaced.trans hnew.unplaced,
        hsaved.trans hnew.unsaved⟩

lemma missing_of_sameRow {before after : Target} (hkept : QueueKept db.queue db'.queue) (h : SameRow before after) :
    missing db' after = missing db before := by
  obtain ⟨hkey, hsaved, -⟩ := h
  rw [missing_kept hkept]
  unfold missing lacksFallback validFallback
  rw [(Prod.mk.inj hkey).2, hsaved]

/-- Calm moves neither start nor end a rollback. -/
lemma inProgress_of_calms (h : Relation.ReflTransGen (Calm settles rolloutId) db db')
    (hbefore : inProgress (statusOf db rolloutId) = true) :
    inProgress (statusOf db' rolloutId) = true ∨ statusOf db' rolloutId = some .completed := by
  induction h with
  | refl => exact .inl hbefore
  | @tail middle last _ hlast ih =>
    have hstatus : CalmStatus (statusOf middle rolloutId) (statusOf last rolloutId) := by
      cases hlast with
      | proceed _ _ status => exact status
      | settle _ _ status => rw [status]; exact .same _
      | skip _ _ _ status => rw [status]; exact .same _
    generalize statusOf middle rolloutId = status at ih hstatus
    generalize statusOf last rolloutId = status' at hstatus
    cases hstatus with
    | same => exact ih
    | opens => obtain h | h := ih <;> cases h
    | runs _ hafter =>
      obtain ⟨hrunning, hne⟩ | rfl := hafter
      · exact .inl (by simp [inProgress, hrunning, hne])
      · exact .inr rfl
    | fails => obtain h | h := ih <;> cases h

/-- The decisive move of a turn that starts a rollback. -/
lemma Turn.rollback_starts (h : Turn settles rolloutId db db') (hstarts : RollbackStarts db db' rolloutId) :
    ∃ middle, CalmRows rolloutId db middle ∧ (statusOf db' rolloutId = some .failed ↔
      (middle.targetsOf rolloutId).isEmpty = true ∨ ∃ target ∈ middle.targetsOf rolloutId, missing middle target = true) := by
  obtain ⟨middle, hcalm, hlast⟩ := h
  obtain ⟨hbefore, hafter⟩ := hstarts
  have hmiddle := inProgress_of_calms hcalm hbefore
  obtain rfl | hdecisive := hlast
  · obtain heq | heq := hafter
    · rw [heq] at hmiddle
      obtain h | h := hmiddle <;> cases h
    · rw [heq] at hmiddle
      obtain h | h := hmiddle <;> cases h
  · cases hdecisive with
    | place _ _ _ after =>
      obtain ⟨status, hstatus, hrunning, hne⟩ := after
      rw [hstatus] at hafter
      obtain heq | heq := hafter
      · exact absurd (Option.some.inj heq) hne
      · obtain rfl := Option.some.inj heq
        cases hrunning
    | rollBack _ _ _ after =>
      refine ⟨middle, CalmRows.of_calms hcalm, ?_⟩
      rw [after, Option.some.injEq, ← List.any_eq_true, ← Bool.or_eq_true]
      split
      · next htrue => simp [htrue]
      · next hfalse => simp [hfalse]
    | finish _ _ _ after _ =>
      rw [after] at hafter
      obtain heq | heq := hafter <;> cases heq

/-- A rollback fails exactly where a target is missing, if there are any. -/
lemma Turn.failed_iff (h : Turn settles rolloutId db db') (hstarts : RollbackStarts db db' rolloutId)
    (htargets : ∃ target ∈ db.targets, target.rolloutId = rolloutId) :
    statusOf db' rolloutId = some .failed ↔ ∃ target ∈ db.targets, target.rolloutId = rolloutId ∧ missing db target = true := by
  obtain ⟨middle, hrows, hfailed⟩ := h.rollback_starts hstarts
  have hnonempty : (middle.targetsOf rolloutId).isEmpty = false := by
    obtain ⟨target, htarget, hid⟩ := htargets
    obtain ⟨after, hafter, hkey, -⟩ := hrows.rows.follows target htarget
    have hmem : after ∈ middle.targetsOf rolloutId := mem_targetsOf.mpr ⟨hafter, (Prod.mk.inj hkey).1.trans hid⟩
    cases hcase : middle.targetsOf rolloutId with
    | nil => simp [hcase] at hmem
    | cons first rest => rfl
  rw [hfailed, hnonempty]
  simp only [Bool.false_eq_true, false_or]
  constructor
  · rintro ⟨target, htarget, hmissing⟩
    obtain ⟨hmem, hid⟩ := mem_targetsOf.mp htarget
    obtain hnew | ⟨before, hbefore, hkey, hrow⟩ := hrows.rows.back hmem
    · -- a row added in this turn belongs to a device that is offline now
      rw [missing_kept hrows.queue, missing, hnew.device] at hmissing
      cases hmissing
    · exact ⟨before, hbefore, (Prod.mk.inj hkey).1.trans hid, by rwa [missing_of_sameRow hrows.queue hrow] at hmissing⟩
  · rintro ⟨target, htarget, hid, hmissing⟩
    obtain ⟨after, hafter, hkey, hrow⟩ := hrows.rows.follows target htarget
    refine ⟨after, mem_targetsOf.mpr ⟨hafter, (Prod.mk.inj hkey).1.trans hid⟩, ?_⟩
    rwa [missing_of_sameRow hrows.queue hrow]

/-! ### Runs -/

/-- The same of a step of the system. -/
lemma step_failed_iff (h : Sound db) {op : Op} (hstarts : RollbackStarts db (step db op) rolloutId)
    (htargets : ∃ target ∈ db.targets, target.rolloutId = rolloutId) :
    statusOf (step db op) rolloutId = some .failed ↔
      ∃ target ∈ db.targets, target.rolloutId = rolloutId ∧ missing db target = true := by
  obtain hcall | hedited := step_cases h op
  · obtain ⟨before, after, hbefore, hturn, hafter⟩ := hcall.focus rolloutId
    have hsame : ∀ target, target.rolloutId = rolloutId → (target ∈ before.targets ↔ target ∈ db.targets) := hbefore.targets
    have hstarts' : RollbackStarts before after rolloutId := by
      obtain ⟨hprogress, hreached⟩ := hstarts
      rw [hafter.status] at hreached
      exact ⟨by rwa [hbefore.status], hreached⟩
    obtain ⟨target, htarget, hid⟩ := htargets
    rw [hafter.status, hturn.failed_iff hstarts' ⟨target, (hsame target hid).mpr htarget, hid⟩]
    constructor
    · rintro ⟨other, hother, hid, hmissing⟩
      exact ⟨other, (hsame other hid).mp hother, hid, by rwa [missing_kept hbefore.queue] at hmissing⟩
    · rintro ⟨other, hother, hid, hmissing⟩
      exact ⟨other, (hsame other hid).mpr hother, hid, by rwa [missing_kept hbefore.queue]⟩
  · obtain ⟨hprogress, hreached⟩ := hstarts
    rw [hedited.status] at hreached
    obtain heq | heq := hreached
    · rw [heq] at hprogress
      cases hprogress
    · rw [heq] at hprogress
      cases hprogress

/-- A row without a queue row has no rollback release, so that it is missing as soon as its device is online. -/
lemma Sound.missing_of_unplaced (h : Sound db) {target : Target} (htarget : target ∈ db.targets)
    (hunplaced : target.state.queueItemId = none) : missing db target = !isOffline db target.deviceId := by
  obtain ⟨device, hdevice⟩ := Option.isSome_iff_exists.mp (h.devices target htarget)
  have hlacks : lacksFallback db target = true := by
    simp [lacksFallback, hdevice, validFallback, h.unplaced target htarget hunplaced]
  rw [missing, hlacks, Bool.and_true]

lemma lacksFallback_of_missing {target : Target} (h : missing db target = true) : lacksFallback db target = true := by
  rw [missing, Bool.and_eq_true] at h
  exact h.2

/-- One start of a rollback: it is unspoiled exactly where the skipped devices are still offline, or another
target is to blame anyway. -/
lemma unspoiled_iff (h : Sound db) {op : Op} (hstarts : RollbackStarts db (step db op) rolloutId)
    (htargets : ∃ target ∈ db.targets, target.rolloutId = rolloutId) :
    Unspoiled db (step db op) rolloutId ↔ SkippedStillOffline db rolloutId ∨ GivenMissing db rolloutId := by
  have hfailed := step_failed_iff h hstarts htargets
  constructor
  · rintro ⟨-, hblamed⟩
    obtain hrolling | hfails := hstarts.2
    · refine .inl fun target htarget hid hunplaced => ?_
      by_contra honline
      rw [Bool.not_eq_true] at honline
      have hmissing : missing db target = true := by simp [h.missing_of_unplaced htarget hunplaced, honline]
      rw [hfailed.mpr ⟨target, htarget, hid, hmissing⟩] at hrolling
      cases hrolling
    · exact .inr (hblamed hfails)
  · intro hcondition
    have hblamed : statusOf (step db op) rolloutId = some .failed → GivenMissing db rolloutId := by
      intro hfails
      obtain hoffline | hgiven := hcondition
      · obtain ⟨target, htarget, hid, hmissing⟩ := hfailed.mp hfails
        refine ⟨target, htarget, hid, ?_, hmissing⟩
        intro hunplaced
        rw [h.missing_of_unplaced htarget hunplaced, hoffline target htarget hid hunplaced] at hmissing
        cases hmissing
      · exact hgiven
    refine ⟨?_, hblamed⟩
    intro hvalid
    obtain hrolling | hfails := hstarts.2
    · exact hrolling
    · obtain ⟨target, htarget, hid, hplaced, hmissing⟩ := hblamed hfails
      have hlacks := lacksFallback_of_missing hmissing
      rw [hvalid target htarget hid hplaced] at hlacks
      cases hlacks

/-- Along every run, a rollback of a campaign with targets is unspoiled exactly where its skipped devices are
still offline when it starts, or a target that was given a queue row is missing as well. -/
theorem rollback_unspoiled_iff_skipped_offline (queue : Queue.Db) (ops : List Op) :
    Runs.Along step (fun db op => ∀ rolloutId, RollbackStarts db (step db op) rolloutId →
      (∃ target ∈ db.targets, target.rolloutId = rolloutId) →
      (Unspoiled db (step db op) rolloutId ↔ SkippedStillOffline db rolloutId ∨ GivenMissing db rolloutId))
      (Db.start queue) ops := by
  have hstep : ∀ db op, Sound db → True → Sound (step db op) := fun _ op h _ => h.step op
  apply Runs.along_of_invariant hstep _ (Sound.start queue) (Runs.Along.of_forall (p := fun _ => True) (fun _ _ => trivial)
    fun _ _ _ => trivial)
  exact fun db op h _ rolloutId hstarts htargets => unspoiled_iff h hstarts htargets

/-! ### A device that comes back online -/

def oldRelease : ReleaseId := ⟨"r1", Queue.r1_nonempty⟩

def newRelease : ReleaseId := ⟨"r2", Queue.r2_nonempty⟩

/-- An online and an offline frame of one panel; the online one shows the old release. -/
def twoFrames : Queue.Db where
  devices := ⟨[{ id := "desk" }, { id := "shelf", deliveryMode := .inktimeOfflineSchedule, offlinePrefetchAllowed := true }],
    by decide⟩
  releases := ⟨[{ id := oldRelease, status := .superseded }, { id := newRelease }], by decide⟩
  schedules := Table.empty
  slots := Table.empty
  items := Table.empty
  heads := ⟨[{ deviceId := "desk", state := Queue.showRelease oldRelease 1 {} }], by decide⟩
  events := Table.empty

def drawnFor (label : String) : Drawn := fun rolloutId deviceId => label ++ rolloutId ++ deviceId

/-- The shelf is skipped when the canary starts, and is online again before the rollback. -/
def skippedThenOnline : List Op :=
  [.create "c" newRelease [{}] 10, .start "c" 20 (drawnFor "first"),
    .updateDevice { deviceId := "shelf", enabled := true, deliveryMode := .legacyOnline, panelProfile := "" } 30]

def manualRollback : Op := .transition "c" .rollback "" 40 (drawnFor "second")

/-- The desk could go back to the old release, but the skipped shelf makes the whole rollback fail. -/
theorem skipped_device_spoils_rollback :
    let db := Runs.run step (Db.start twoFrames) skippedThenOnline
    RollbackStarts db (step db manualRollback) "c" ∧ (∃ target ∈ db.targets, target.rolloutId = "c") ∧
      ¬ Unspoiled db (step db manualRollback) "c" := by
  have hbefore : statusOf (Runs.run step (Db.start twoFrames) skippedThenOnline) "c" = some .canary := by decide +kernel
  have hafter : statusOf (step (Runs.run step (Db.start twoFrames) skippedThenOnline) manualRollback) "c" = some .failed := by
    decide +kernel
  have htarget : ∃ target ∈ (Runs.run step (Db.start twoFrames) skippedThenOnline).targets.rows, target.rolloutId = "c" := by
    decide +kernel
  have hvalid : ∀ target ∈ (Runs.run step (Db.start twoFrames) skippedThenOnline).targets.rows,
      target.rolloutId = "c" → target.state.queueItemId ≠ none →
        lacksFallback (Runs.run step (Db.start twoFrames) skippedThenOnline) target = false := by decide +kernel
  refine ⟨⟨by rw [hbefore]; rfl, .inr hafter⟩, htarget, ?_⟩
  rintro ⟨hgoesOn, -⟩
  rw [hafter] at hgoesOn
  cases hgoesOn hvalid

end InkTime.Rollouts
