import InkTime.Library.Latest
import InkTime.Queue.Moves

/-!
# The displayed pointer

Frames keep their ACKs and send them days later, in any order and more than once. The current pointer of
the queue is a latest-wins register over the display times of the accepted `DISPLAY_COMPLETED`s.
-/

namespace InkTime.Queue

open Checked

/-- When the frame was shown: the epoch the device sends, or the arrival at the server. -/
def displayTime (ack : Ack) (now : Nat) : Nat :=
  match ack.eventEpoch with
  | .int epoch => epoch.toNat * 1000000
  | _ => now

/-- A `DISPLAY_COMPLETED` that was accepted, with its release and display time. -/
structure Display where
  ack : Ack
  releaseId : ReleaseId
  shownAt : Nat
  deriving DecidableEq

def Display.entry (display : Display) : ReleaseId × Nat := (display.releaseId, display.shownAt)

/-- The display a call reports for the first time. A repeated ACK is answered, but reports nothing new. -/
def newDisplay (db : Db) (deviceId : String) (call : AckCall) : Option Display :=
  match queueAck db deviceId call.ack call.now call.rollout with
  | .ok (_, .committed _) =>
    if call.ack.event = some .displayCompleted then
      (ackedItem db deviceId call.ack).map fun item =>
        { ack := call.ack, releaseId := item.releaseId, shownAt := displayTime call.ack call.now }
    else none
  | _ => none

/-- The tables and the displays accepted so far. -/
structure Watched where
  db : Db
  displays : List Display := []

def watch (deviceId : String) (seen : Watched) (call : AckCall) : Watched where
  db := Outcome.after (queueAck seen.db deviceId call.ack call.now call.rollout) seen.db
  displays := seen.displays ++ (newDisplay seen.db deviceId call).toList

def watchRun (deviceId : String) (start : Db) (calls : List AckCall) : Watched :=
  Runs.run (watch deviceId) { db := start } calls

/-- State of the device's queue after the calls; a queue without a head is as good as an empty one. -/
def headAfter (deviceId : String) (start : Db) (calls : List AckCall) : HeadState :=
  (((watchRun deviceId start calls).db.heads.find deviceId).map Head.state).getD {}

def displaysOf (deviceId : String) (start : Db) (calls : List AckCall) : List Display :=
  (watchRun deviceId start calls).displays

/-- The head points at the accepted display with the latest display time, or nowhere. -/
structure PointsAtLatest (state : HeadState) (displays : List Display) : Prop where
  empty : displays = [] → state.currentReleaseId = none ∧ state.currentDisplayedAt = none
  latest : displays ≠ [] → ∃ display ∈ displays, state.currentReleaseId = some display.releaseId ∧
    state.currentDisplayedAt = some display.shownAt ∧ ∀ other ∈ displays, other.shownAt ≤ display.shownAt ∧
      (other.shownAt = display.shownAt → other.releaseId = display.releaseId)

/-! ### The pointer as a register -/

/-- The register a head holds. -/
def HeadState.pointer (state : HeadState) : Option (ReleaseId × Nat) :=
  match state.currentReleaseId, state.currentDisplayedAt with
  | some releaseId, some displayedAt => some (releaseId, displayedAt)
  | _, _ => none

/-- Release and time of the current pointer are set together, and the last known good one goes with them. -/
structure Pointed (state initial : HeadState) (displays : List Display) : Prop where
  paired : state.currentReleaseId.isSome = state.currentDisplayedAt.isSome
  latest : Latest.IsLatest state.pointer (displays.map Display.entry)
  good : if displays = [] then state.lastKnownGoodReleaseId = initial.lastKnownGoodReleaseId
    else state.lastKnownGoodReleaseId = state.currentReleaseId

/-- `advancePointer` offers the display to the register. -/
lemma advancePointer_offer {db db' : Db} {head : Head} {releaseId : ReleaseId} {eventAt : Nat}
    (h : advancePointer db head releaseId eventAt = .ok db') :
    ∃ held, Latest.offer head.state.pointer (releaseId, eventAt) = some held ∧
      ((db' = db ∧ held = head.state.pointer ∧ head.state.pointer ≠ none) ∨
        (db' = db.setHead head.deviceId (showRelease releaseId eventAt) ∧ held = some (releaseId, eventAt))) := by
  unfold advancePointer at h
  simp only at h
  split at h
  · next current displayedAt hcurrent hdisplayed =>
    have hpointer : head.state.pointer = some (current, displayedAt) := by
      simp [HeadState.pointer, hcurrent, hdisplayed]
    rw [hpointer]
    split at h
    · next hlater =>
      obtain rfl := Except.ok.inj h
      exact ⟨some (releaseId, eventAt), by simp [Latest.offer, hlater], .inr ⟨rfl, rfl⟩⟩
    split at h
    · cases h
    · next hnot_later hno_conflict =>
      obtain rfl := Except.ok.inj h
      exact ⟨some (current, displayedAt), by simp only [Latest.offer, if_neg hnot_later, if_neg hno_conflict],
        .inl ⟨rfl, rfl, by simp⟩⟩
  · next hunset =>
    have hpointer : head.state.pointer = none := by
      unfold HeadState.pointer
      split
      · next hcurrent hdisplayed => exact absurd hdisplayed (hunset _ _ hcurrent)
      · rfl
    obtain rfl := Except.ok.inj h
    exact ⟨some (releaseId, eventAt), by simp [hpointer, Latest.offer], .inr ⟨rfl, rfl⟩⟩

/-! ### One call -/

def SamePointers (before after : Head) : Prop :=
  after.state.currentReleaseId = before.state.currentReleaseId ∧
    after.state.currentDisplayedAt = before.state.currentDisplayedAt ∧
    after.state.lastKnownGoodReleaseId = before.state.lastKnownGoodReleaseId

lemma recordRolloutAck_samePointers {now : Nat} {rollout : List RolloutEffect} {db db' : Db}
    (h : recordRolloutAck now db rollout = .ok db') : Table.Follows SamePointers db.heads db'.heads := by
  apply recordRolloutAck_heads _ _ _ h
  · exact fun head => ⟨rfl, rfl, rfl⟩
  · intro a b c hab hbc
    exact ⟨hbc.1.trans hab.1, hbc.2.1.trans hab.2.1, hbc.2.2.trans hab.2.2⟩
  · exact fun head next => ⟨rfl, rfl, rfl⟩

lemma Pointed.congr {state state' initial : HeadState} {displays : List Display} (h : Pointed state initial displays)
    (hcurrent : state'.currentReleaseId = state.currentReleaseId)
    (hdisplayed : state'.currentDisplayedAt = state.currentDisplayedAt)
    (hgood : state'.lastKnownGoodReleaseId = state.lastKnownGoodReleaseId) : Pointed state' initial displays where
  paired := by rw [hcurrent, hdisplayed, h.paired]
  latest := by
    have hpointer : state'.pointer = state.pointer := by simp only [HeadState.pointer, hcurrent, hdisplayed]
    rw [hpointer]
    exact h.latest
  good := by
    rw [hcurrent, hgood]
    exact h.good

/-- A display that the register accepts. -/
lemma Pointed.recordDisplay {db db' : Db} {item : Item} {admission : Admission} {initial : HeadState}
    {displays : List Display} (display : Display)
    (hentry : display.entry = (item.releaseId, admission.eventAt))
    (hhead : db.heads.find admission.head.deviceId = some admission.head)
    (hpointed : Pointed admission.head.state initial displays)
    (h : recordDisplay db .displayCompleted item admission = .ok db') :
    ∃ head, db'.heads.find admission.head.deviceId = some head ∧ Pointed head.state initial (displays ++ [display]) := by
  obtain ⟨held, haccepted, hcase⟩ := advancePointer_offer (h : advancePointer _ _ _ _ = _)
  have hlatest := hpointed.latest.offer (hentry ▸ haccepted)
  rw [← List.map_singleton, ← List.map_append] at hlatest
  obtain ⟨rfl, rfl, hset⟩ | ⟨rfl, rfl⟩ := hcase
  · refine ⟨admission.head, hhead, hpointed.paired, hlatest, ?_⟩
    have hsome : displays ≠ [] := by
      rintro rfl
      cases hpointer : admission.head.state.pointer with
      | none => exact hset hpointer
      | some current =>
        have hmem := hpointed.latest
        rw [hpointer] at hmem
        exact List.not_mem_nil hmem.1
    have hgood := hpointed.good
    rw [if_neg hsome] at hgood
    simpa using hgood
  · refine ⟨_, Db.setHead_find hhead _, rfl, hlatest, ?_⟩
    simp [showRelease]

lemma Admitted.eventAt {db : Db} {deviceId : String} {item : Item} {who : AckIdentity} {ack : Ack} {now : Nat}
    {admission : Admission} (h : Admitted db deviceId item who ack now admission) :
    admission.eventAt = displayTime ack now := by
  obtain ⟨hmissing, heq⟩ | ⟨-, epoch, hepoch, heq⟩ := eventTime_ok h.time
  · rw [heq, displayTime, hmissing]
  · rw [heq, displayTime, hepoch]

/-- A call keeps the pointer at the latest display accepted. -/
lemma watch_pointed {deviceId : String} {seen : Watched} {call : AckCall} {head : Head} {initial : HeadState}
    (hhead : seen.db.heads.find deviceId = some head) (hpointed : Pointed head.state initial seen.displays) :
    ∃ next, (watch deviceId seen call).db.heads.find deviceId = some next ∧
      Pointed next.state initial (watch deviceId seen call).displays := by
  cases hcall : queueAck seen.db deviceId call.ack call.now call.rollout with
  | error error => exact ⟨head, by simpa [watch, hcall] using hhead, by simpa [watch, newDisplay, hcall] using hpointed⟩
  | ok result =>
    obtain ⟨db', result⟩ := result
    obtain ⟨rfl, rfl⟩ | ⟨item, who, admission, rfl, hcommit⟩ := queueAck_cases hcall
    · exact ⟨head, by simpa [watch, hcall] using hhead, by simpa [watch, newDisplay, hcall] using hpointed⟩
    · obtain ⟨_, hwritten⟩ := hcommit.written
      obtain ⟨events, pointed, -, hrecorded, hrollout⟩ := commitAck_ok hwritten
      have hadmitted := admit_ok hcommit.admitted
      obtain rfl : admission.head = head := Option.some.inj (hadmitted.head.symm.trans hhead)
      have hevent := parseAck_event hcommit.parsed
      obtain ⟨-, hdevice⟩ := Table.find_eq_some hhead
      have hbefore_rollout : ∃ next, pointed.heads.find deviceId = some next ∧
          Pointed next.state initial (watch deviceId seen call).displays := by
        by_cases hdisplay : who.event = .displayCompleted
        · let display : Display := ⟨call.ack, item.releaseId, displayTime call.ack call.now⟩
          have hnew : newDisplay seen.db deviceId call = some display := by
            simp [newDisplay, hcall, hevent, hdisplay, hcommit.named, display]
          rw [hdisplay] at hrecorded
          obtain ⟨next, hnext, hnext_pointed⟩ := hpointed.recordDisplay display
            (by simp [Display.entry, display, hadmitted.eventAt]) (hdevice ▸ hhead) hrecorded
          refine ⟨next, hdevice ▸ hnext, ?_⟩
          simpa [watch, hnew] using hnext_pointed
        · have hnew : newDisplay seen.db deviceId call = none := by
            simp [newDisplay, hcall, hevent, hdisplay]
          rw [recordDisplay, if_neg hdisplay] at hrecorded
          obtain rfl := Except.ok.inj hrecorded
          exact ⟨admission.head, hhead, by simpa [watch, hnew] using hpointed⟩
      obtain ⟨next, hnext, hnext_pointed⟩ := hbefore_rollout
      obtain ⟨final, hfinal, hsame⟩ := (recordRolloutAck_samePointers hrollout).find hnext
      refine ⟨final, by simpa [watch, hcall] using hfinal, ?_⟩
      exact hnext_pointed.congr hsame.1 hsame.2.1 hsame.2.2

/-! ### Runs -/

/-- The head of the device follows its displays. -/
def FollowsDisplays (deviceId : String) (initial : HeadState) (seen : Watched) : Prop :=
  ∃ head, seen.db.heads.find deviceId = some head ∧ Pointed head.state initial seen.displays

lemma headAfter_pointed {deviceId : String} {start : Db} {head : Head} (hhead : start.heads.find deviceId = some head)
    (hrelease : head.state.currentReleaseId = none) (hdisplayed : head.state.currentDisplayedAt = none)
    (calls : List AckCall) : Pointed (headAfter deviceId start calls) head.state (displaysOf deviceId start calls) := by
  have hopening : FollowsDisplays deviceId head.state { db := start } := by
    refine ⟨head, hhead, by simp [hrelease, hdisplayed], ?_, by simp⟩
    simp [HeadState.pointer, hrelease, Latest.IsLatest]
  have hrun : FollowsDisplays deviceId head.state (watchRun deviceId start calls) := by
    refine Runs.invariant_of_run ?_ hopening calls
    intro seen call hseen
    obtain ⟨current, hcurrent, hpointed⟩ := hseen
    exact watch_pointed hcurrent hpointed
  obtain ⟨final, hfinal, hpointed⟩ := hrun
  simpa [headAfter, displaysOf, hfinal] using hpointed

lemma HeadState.pointer_eq_some {state : HeadState} {releaseId : ReleaseId} {displayedAt : Nat}
    (h : state.pointer = some (releaseId, displayedAt)) :
    state.currentReleaseId = some releaseId ∧ state.currentDisplayedAt = some displayedAt := by
  unfold pointer at h
  split at h
  · next hrelease hdisplayed =>
    obtain ⟨rfl, rfl⟩ := Prod.mk.inj (Option.some.inj h)
    exact ⟨hrelease, hdisplayed⟩
  · cases h

lemma Pointed.pointer_eq_none {state initial : HeadState} {displays : List Display} (h : Pointed state initial displays)
    (hnone : state.pointer = none) : state.currentReleaseId = none ∧ state.currentDisplayedAt = none := by
  have hpaired := h.paired
  unfold HeadState.pointer at hnone
  cases hrelease : state.currentReleaseId with
  | none =>
    rw [hrelease] at hpaired
    simpa using hpaired.symm
  | some releaseId =>
    cases hdisplayed : state.currentDisplayedAt with
    | none => simp [hrelease, hdisplayed] at hpaired
    | some displayedAt => simp [hrelease, hdisplayed] at hnone

lemma Pointed.pointsAtLatest {state initial : HeadState} {displays : List Display} (h : Pointed state initial displays) :
    PointsAtLatest state displays := by
  have hlatest := h.latest
  constructor
  · rintro rfl
    cases hpointer : state.pointer with
    | none => exact h.pointer_eq_none hpointer
    | some current =>
      rw [hpointer] at hlatest
      exact absurd hlatest.1 List.not_mem_nil
  · intro hsome
    cases hpointer : state.pointer with
    | none =>
      rw [hpointer] at hlatest
      exact absurd (List.map_eq_nil_iff.mp hlatest) hsome
    | some current =>
      rw [hpointer] at hlatest
      obtain ⟨hmem, hall⟩ := hlatest
      obtain ⟨display, hdisplay, rfl⟩ := List.mem_map.mp hmem
      obtain ⟨hrelease, hdisplayed⟩ := HeadState.pointer_eq_some hpointer
      refine ⟨display, hdisplay, hrelease, hdisplayed, ?_⟩
      exact fun other hother => hall other.entry (List.mem_map_of_mem hother)

lemma displaysOf_append (deviceId : String) (start : Db) (earlier later : List AckCall) :
    displaysOf deviceId start earlier ⊆ displaysOf deviceId start (earlier ++ later) := by
  unfold displaysOf watchRun
  rw [Runs.run_append]
  generalize Runs.run (watch deviceId) { db := start } earlier = seen
  induction later generalizing seen with
  | nil => exact List.Subset.refl _
  | cons call rest ih => exact List.Subset.trans (List.subset_append_left _ _) (ih (watch deviceId seen call))

/-- The time of the current pointer never goes back. -/
lemma displayedAt_le {deviceId : String} {start : Db} {head : Head} (hhead : start.heads.find deviceId = some head)
    (hrelease : head.state.currentReleaseId = none) (hdisplayed : head.state.currentDisplayedAt = none)
    {earlier later : List AckCall} {t : Nat} (ht : (headAfter deviceId start earlier).currentDisplayedAt = some t) :
    ∃ t', (headAfter deviceId start (earlier ++ later)).currentDisplayedAt = some t' ∧ t ≤ t' := by
  have hbefore := (headAfter_pointed hhead hrelease hdisplayed earlier).pointsAtLatest
  have hafter := (headAfter_pointed hhead hrelease hdisplayed (earlier ++ later)).pointsAtLatest
  have hgrows := displaysOf_append deviceId start earlier later
  have hsome : displaysOf deviceId start earlier ≠ [] := by
    intro hnil
    rw [(hbefore.empty hnil).2] at ht
    cases ht
  obtain ⟨display, hdisplay, -, hshown, -⟩ := hbefore.latest hsome
  obtain ⟨last, -, -, hlast, hall⟩ := hafter.latest (List.ne_nil_of_mem (hgrows hdisplay))
  obtain rfl : display.shownAt = t := Option.some.inj (hshown.symm.trans ht)
  exact ⟨last.shownAt, hlast, (hall display (hgrows hdisplay)).1⟩

/-! ### The order of delayed ACKs -/

/-- An ACK with an epoch carries its release and its display time itself. -/
def Stamped (display : Display) : Prop :=
  ∀ epoch : Int, display.ack.eventEpoch = .int epoch →
    display.ack.releaseId = some display.releaseId.text ∧ display.shownAt = epoch.toNat * 1000000

lemma delayedTerminal_release {db : Db} {item : Item} {event : Event} {ack : Ack} {now : Nat}
    (h : delayedTerminal db item event ack now = true) : ack.releaseId = some item.releaseId.text := by
  simp only [delayedTerminal, Bool.and_eq_true, beq_iff_eq] at h
  exact h.1.2

lemma newDisplay_stamped {db : Db} {deviceId : String} {call : AckCall} {display : Display}
    (h : newDisplay db deviceId call = some display) : Stamped display := by
  unfold newDisplay at h
  split at h
  · next hcall =>
    split at h
    · obtain ⟨hidempotent, -⟩ | ⟨item, who, admission, -, hcommit⟩ := queueAck_cases hcall
      · cases hidempotent
      rw [hcommit.named] at h
      obtain rfl := Option.some.inj h
      intro epoch hepoch
      have hadmitted := admit_ok hcommit.admitted
      obtain ⟨hmissing, -⟩ | ⟨hdelayed, -⟩ := eventTime_ok hadmitted.time
      · rw [show call.ack.eventEpoch = _ from hepoch] at hmissing
        cases hmissing
      · refine ⟨delayedTerminal_release (hadmitted.delayed ▸ hdelayed), ?_⟩
        simp only [displayTime]
        rw [show call.ack.eventEpoch = _ from hepoch]
    · cases h
  · cases h

lemma displaysOf_stamped (deviceId : String) (start : Db) (calls : List AckCall) :
    ∀ display ∈ displaysOf deviceId start calls, Stamped display := by
  refine @Runs.invariant_of_run _ _ (watch deviceId) (fun seen => ∀ display ∈ seen.displays, Stamped display) ?_
    { db := start } ?_ calls
  · intro seen call hseen display hdisplay
    obtain hold | hnew := List.mem_append.mp hdisplay
    · exact hseen display hold
    · exact newDisplay_stamped (Option.mem_toList.mp hnew)
  · intro display hdisplay
    cases hdisplay

/-- Runs that accepted the same ACKs, all with epochs, have the same entries. -/
lemma entries_subset {deviceId : String} {start : Db} {calls calls' : List AckCall}
    (hsame : ∀ ack ∈ (displaysOf deviceId start calls).map Display.ack,
      ack ∈ (displaysOf deviceId start calls').map Display.ack)
    (hepochs : ∀ display ∈ displaysOf deviceId start calls, ∃ epoch, display.ack.eventEpoch = .int epoch) :
    ∀ entry ∈ (displaysOf deviceId start calls).map Display.entry,
      entry ∈ (displaysOf deviceId start calls').map Display.entry := by
  intro entry hentry
  obtain ⟨display, hdisplay, rfl⟩ := List.mem_map.mp hentry
  obtain ⟨other, hother, hack⟩ := List.mem_map.mp (hsame display.ack (List.mem_map_of_mem hdisplay))
  obtain ⟨epoch, hepoch⟩ := hepochs display hdisplay
  obtain ⟨hrelease, hshown⟩ := displaysOf_stamped deviceId start calls display hdisplay epoch hepoch
  obtain ⟨hrelease', hshown'⟩ := displaysOf_stamped deviceId start calls' other hother epoch (hack ▸ hepoch)
  rw [hack, hrelease] at hrelease'
  have hreleases : display.releaseId = other.releaseId := ReleaseId.ext (Option.some.inj hrelease')
  refine List.mem_map.mpr ⟨other, hother, ?_⟩
  simp only [Display.entry, hreleases, hshown, hshown']

/-- The pointer never goes back, is at the accepted display with the latest time after every call, and does
not depend on the order in which delayed ACKs with epochs arrive. -/
theorem displayed_pointer_latest {deviceId : String} {start : Db} {head : Head}
    (hhead : start.heads.find deviceId = some head) (hrelease : head.state.currentReleaseId = none)
    (hdisplayed : head.state.currentDisplayedAt = none) :
    (∀ earlier later t, (headAfter deviceId start earlier).currentDisplayedAt = some t →
      ∃ t', (headAfter deviceId start (earlier ++ later)).currentDisplayedAt = some t' ∧ t ≤ t') ∧
    (∀ calls, PointsAtLatest (headAfter deviceId start calls) (displaysOf deviceId start calls)) ∧
    (∀ calls calls',
      (∀ ack, ack ∈ (displaysOf deviceId start calls).map Display.ack ↔
        ack ∈ (displaysOf deviceId start calls').map Display.ack) →
      (∀ display ∈ displaysOf deviceId start calls, ∃ epoch, display.ack.eventEpoch = .int epoch) →
      (headAfter deviceId start calls).currentReleaseId = (headAfter deviceId start calls').currentReleaseId ∧
      (headAfter deviceId start calls).lastKnownGoodReleaseId =
        (headAfter deviceId start calls').lastKnownGoodReleaseId) := by
  refine ⟨fun earlier later t => displayedAt_le hhead hrelease hdisplayed,
    fun calls => (headAfter_pointed hhead hrelease hdisplayed calls).pointsAtLatest, ?_⟩
  intro calls calls' hsame hepochs
  have hpointed := headAfter_pointed hhead hrelease hdisplayed calls
  have hpointed' := headAfter_pointed hhead hrelease hdisplayed calls'
  have hepochs' : ∀ display ∈ displaysOf deviceId start calls', ∃ epoch, display.ack.eventEpoch = .int epoch := by
    intro display hdisplay
    obtain ⟨other, hother, hack⟩ := List.mem_map.mp ((hsame display.ack).mpr (List.mem_map_of_mem hdisplay))
    rw [← hack]
    exact hepochs other hother
  have hpointers := hpointed.latest.unique hpointed'.latest fun entry =>
    ⟨entries_subset (fun ack => (hsame ack).mp) hepochs entry, entries_subset (fun ack => (hsame ack).mpr) hepochs' entry⟩
  have hcurrent : (headAfter deviceId start calls).currentReleaseId = (headAfter deviceId start calls').currentReleaseId := by
    cases hpointer : (headAfter deviceId start calls).pointer with
    | none => rw [(hpointed.pointer_eq_none hpointer).1, (hpointed'.pointer_eq_none (hpointers ▸ hpointer)).1]
    | some current =>
      rw [(HeadState.pointer_eq_some hpointer).1, (HeadState.pointer_eq_some (hpointers ▸ hpointer)).1]
  refine ⟨hcurrent, ?_⟩
  have hempty : displaysOf deviceId start calls = [] ↔ displaysOf deviceId start calls' = [] := by
    rw [← List.map_eq_nil_iff (f := Display.ack), ← List.map_eq_nil_iff (f := Display.ack) (l := displaysOf _ _ calls')]
    simp only [List.eq_nil_iff_forall_not_mem, hsame]
  have hgood := hpointed.good
  have hgood' := hpointed'.good
  by_cases hnone : displaysOf deviceId start calls = []
  · rw [if_pos hnone] at hgood
    rw [if_pos (hempty.mp hnone)] at hgood'
    rw [hgood, hgood']
  · rw [if_neg hnone] at hgood
    rw [if_neg fun h => hnone (hempty.mpr h)] at hgood'
    rw [hgood, hgood', hcurrent]

/-- A slot of the schedule `day` whose frame is on the device. -/
def slotItem (itemId : String) (releaseId : ReleaseId) (position : Int) : Item where
  id := itemId
  deviceId := "frame"
  releaseId := releaseId
  position := position
  deliveryMode := .offlineSchedule
  offlinePrefetchAllowed := true
  offlineScheduleId := some "day"
  terminalAckRetention := some 9000000000
  state := { status := .acknowledged }

def twoSlots : Db where
  devices := ⟨[{ id := "frame", deliveryMode := .inktimeOfflineSchedule, offlinePrefetchAllowed := true }], by decide⟩
  releases := ⟨[{ id := ⟨"r1", r1_nonempty⟩ }, { id := ⟨"r2", r2_nonempty⟩ }], by decide⟩
  schedules := ⟨[{ id := "day", deviceId := "frame" }], by decide⟩
  slots := ⟨[{ id := "s1", scheduleId := "day", queueItemId := "a", showAt := 1000000000 },
    { id := "s2", scheduleId := "day", queueItemId := "b", showAt := 2000000000 }], by decide⟩
  items := ⟨[slotItem "a" ⟨"r1", r1_nonempty⟩ 1, slotItem "b" ⟨"r2", r2_nonempty⟩ 2], by decide⟩
  heads := ⟨[{ deviceId := "frame" }], by decide⟩
  events := Table.empty

/-- The delayed report of a slot's display. -/
def shownCall (itemId releaseId : String) (epoch : Int) (now : Nat) : AckCall where
  ack := {
    itemId := itemId, event := some .displayCompleted, key := "k", queueVersion := .int 0
    ackMode := "delayed_terminal", releaseId := some releaseId, eventEpoch := .int epoch }
  now := now

theorem displayed_pointer_latest_reordered :
    (displaysOf "frame" twoSlots [shownCall "a" "r1" 1000 3000000000, shownCall "b" "r2" 2000 3000000001]).length = 2 ∧
    (headAfter "frame" twoSlots [shownCall "a" "r1" 1000 3000000000, shownCall "b" "r2" 2000 3000000001]).currentReleaseId =
      (headAfter "frame" twoSlots
        [shownCall "b" "r2" 2000 3000000000, shownCall "a" "r1" 1000 3000000001]).currentReleaseId := by
  have hsorted : (displaysOf "frame" twoSlots
      [shownCall "a" "r1" 1000 3000000000, shownCall "b" "r2" 2000 3000000001]).map Display.ack =
      [(shownCall "a" "r1" 1000 0).ack, (shownCall "b" "r2" 2000 0).ack] := by decide
  have hswapped : (displaysOf "frame" twoSlots
      [shownCall "b" "r2" 2000 3000000000, shownCall "a" "r1" 1000 3000000001]).map Display.ack =
      [(shownCall "b" "r2" 2000 0).ack, (shownCall "a" "r1" 1000 0).ack] := by decide
  refine ⟨by decide, ?_⟩
  have hempty : twoSlots.heads.find "frame" = some { deviceId := "frame" } := by decide
  refine ((displayed_pointer_latest hempty rfl rfl).2.2 _ _ ?_ ?_).1
  · intro ack
    rw [hsorted, hswapped]
    simp [or_comm]
  · intro display hdisplay
    have hack := List.mem_map_of_mem (f := Display.ack) hdisplay
    rw [hsorted, List.mem_pair] at hack
    obtain hack | hack := hack
    · exact ⟨1000, by rw [hack]; rfl⟩
    · exact ⟨2000, by rw [hack]; rfl⟩

end InkTime.Queue
