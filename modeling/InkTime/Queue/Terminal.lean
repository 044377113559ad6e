import InkTime.Queue.Moves

/-!
# Terminal queue items

A displayed, failed, expired or cancelled row should keep its status. Two writes do not look at it: a
delayed `DISPLAY_FAILED` bypasses the transition table for displayed rows, and the sweep expires failed
rows. In runs without these two, terminal rows are closed.
-/

namespace InkTime.Queue

open Checked

/-- A `DISPLAY_FAILED` that passes the checks although its row is displayed. -/
def failsDisplayed (db : Db) (deviceId : String) (ack : Ack) (now : Nat) : Bool :=
  match parseAck ack, ackedItem db deviceId ack with
  | .ok who, some item =>
    who.event == .displayFailed && item.state.status == .displayed &&
      (db.events.find (item.id, who.event, who.key)).isNone && (admitAck db deviceId item who ack now).isOk
  | _, _ => false

/-- A failed row that the sweep would expire. -/
def expiresFailed (db : Db) (now : Nat) : Bool :=
  db.items.any fun item => item.state.status == .failed && expires now item

def reopens (db : Db) : Op → Bool
  | .queueAck deviceId ack now _ => failsDisplayed db deviceId ack now
  | .expireOperationalData _ now => expiresFailed db now
  | .ensureQueue _ _ | .enqueueRelease _ => false

/-- A terminal row has the status it had. -/
def KeepsTerminal (before after : Item) : Prop :=
  before.state.status.terminal = true → after.state.status = before.state.status

lemma KeepsTerminal.refl (item : Item) : KeepsTerminal item item := fun _ => rfl

lemma KeepsTerminal.trans (a b c : Item) (h : KeepsTerminal a b) (h' : KeepsTerminal b c) : KeepsTerminal a c := by
  intro hterminal
  have hb := h hterminal
  rw [← hb]
  apply h'
  rw [hb]
  exact hterminal

lemma KeepsTerminal.of_active {item : Item} (h : item.state.status.active = true) (after : Item) :
    KeepsTerminal item after := by
  intro hterminal
  cases hstatus : item.state.status <;> rw [hstatus] at h hterminal <;> cases h <;> cases hterminal

lemma active_of_evictable {status : ItemStatus} (h : status.evictable = true) : status.active = true := by
  cases status <;> first | rfl | cases h

lemma enqueueRelease_keepsTerminal {db : Db} (request : EnqueueRequest) :
    Table.Follows KeepsTerminal db.items (step db (.enqueueRelease request)).items := by
  cases hcall : enqueueRelease db request with
  | error error =>
    rw [step, hcall]
    exact Table.Follows.refl KeepsTerminal.refl _
  | ok result =>
    obtain ⟨db', result⟩ := result
    rw [step, hcall, after_ok]
    obtain ⟨rfl, -⟩ | ⟨item, -, hinsertion⟩ := enqueueRelease_cases hcall
    · exact Table.Follows.refl KeepsTerminal.refl _
    · apply hinsertion.follows KeepsTerminal.refl KeepsTerminal.trans
      intro row _ hevictable
      exact KeepsTerminal.of_active (active_of_evictable hevictable) _

/-- A delayed ACK finds its row acknowledged, displayed or cancelled. -/
lemma delayedTerminal_status {db : Db} {item : Item} {event : Event} {ack : Ack} {now : Nat}
    (h : delayedTerminal db item event ack now = true) :
    (event = .displayCompleted ∨ event = .displayFailed) ∧
      (item.state.status = .acknowledged ∨ item.state.status = .displayed ∨ item.state.status = .cancelled) := by
  simp only [delayedTerminal, Bool.and_eq_true, Bool.or_eq_true, beq_iff_eq] at h
  tauto

/-- The update of an admitted ACK keeps a terminal status, unless it fails a displayed row. -/
lemma ackedState_keepsTerminal {db : Db} {deviceId : String} {item : Item} {who : AckIdentity} {ack : Ack} {now : Nat}
    {admission : Admission} (hadmitted : Admitted db deviceId item who ack now admission)
    (hspared : ¬ (who.event = .displayFailed ∧ item.state.status = .displayed)) :
    KeepsTerminal item { item with state := ackedState who.event ack admission now item.state } := by
  intro hterminal
  obtain hdelayed | hallowed := hadmitted.transition
  · obtain ⟨hevent, hstatus⟩ := delayedTerminal_status (hadmitted.delayed ▸ hdelayed)
    obtain hstatus | hstatus | hstatus := hstatus
    · rw [hstatus] at hterminal
      cases hterminal
    · obtain hevent | hevent := hevent
      · simp [ackedState, hstatus, hevent, Event.status]
      · exact absurd ⟨hevent, hstatus⟩ hspared
    · simp [ackedState, hstatus, hdelayed]
  · cases hstatus : item.state.status with
    | displayed =>
      rw [hstatus, ItemStatus.allowedEvents, List.mem_singleton] at hallowed
      simp [ackedState, hstatus, hallowed, Event.status]
    | failed | expired | cancelled =>
      rw [hstatus] at hallowed
      cases hallowed
    | pending | ready | available | downloaded | acknowledged =>
      rw [hstatus] at hterminal
      cases hterminal

lemma Commit.not_failsDisplayed {db db' : Db} {deviceId : String} {ack : Ack} {now : Nat} {rollout : List RolloutEffect}
    {item : Item} {who : AckIdentity} {admission : Admission}
    (h : Commit db deviceId ack now rollout item who admission db') (hclean : failsDisplayed db deviceId ack now = false) :
    ¬ (who.event = .displayFailed ∧ item.state.status = .displayed) := by
  rintro ⟨hevent, hstatus⟩
  have hfresh := h.fresh
  have hfails : failsDisplayed db deviceId ack now = true := by
    rw [hevent] at hfresh
    simp only [failsDisplayed, h.parsed, h.named, h.admitted, hevent, hstatus, hfresh]
    rfl
  rw [hfails] at hclean
  cases hclean

lemma queueAck_keepsTerminal {db : Db} {deviceId : String} {ack : Ack} {now : Nat} (rollout : List RolloutEffect)
    (hclean : failsDisplayed db deviceId ack now = false) :
    Table.Follows KeepsTerminal db.items (step db (.queueAck deviceId ack now rollout)).items := by
  cases hcall : queueAck db deviceId ack now rollout with
  | error error =>
    rw [step, hcall]
    exact Table.Follows.refl KeepsTerminal.refl _
  | ok result =>
    obtain ⟨db', result⟩ := result
    rw [step, hcall, after_ok]
    obtain ⟨-, rfl⟩ | ⟨item, who, admission, -, hcommit⟩ := queueAck_cases hcall
    · exact Table.Follows.refl KeepsTerminal.refl _
    · obtain ⟨_, hwritten⟩ := hcommit.written
      obtain ⟨events, pointed, -, hpointed, hrollout⟩ := commitAck_ok hwritten
      have hacked : Table.Follows KeepsTerminal db.items (db.acked events item who.event ack admission now).items := by
        change Table.Follows KeepsTerminal ({ db with events } : Db).items _
        apply Db.setItems_follows KeepsTerminal.refl
        intro row hrow hmatch
        obtain rfl := Table.eq_of_key_eq hrow (ackedItem_some hcommit.named).1 (by simpa using hmatch)
        exact ackedState_keepsTerminal (admit_ok hcommit.admitted) (hcommit.not_failsDisplayed hclean)
      rw [← recordDisplay_items hpointed] at hacked
      refine hacked.trans KeepsTerminal.trans (recordRolloutAck_follows KeepsTerminal.refl KeepsTerminal.trans ?_ ?_ hrollout)
      · exact fun row hactive => KeepsTerminal.of_active hactive _
      · exact fun row priority deadline _ => rfl

lemma expireOperationalData_keepsTerminal {db : Db} {targeted : String → Bool} {now : Nat}
    (hclean : expiresFailed db now = false) {before after : Item} (hbefore : before ∈ db.items)
    (hafter : after ∈ (expireOperationalData db targeted now).items) (hid : after.id = before.id) :
    KeepsTerminal before after := by
  have hswept : Table.Follows KeepsTerminal db.items (db.setItems (expires now) fun state =>
      { state with status := .expired, updatedAt := now }).items := by
    apply Db.setItems_follows KeepsTerminal.refl
    intro row hrow hexpires hterminal
    -- of the terminal statuses only `FAILED` is swept
    have hfailed : row.state.status = .failed := by
      cases hstatus : row.state.status <;> simp_all [expires, ItemStatus.terminal]
    rw [expiresFailed, Table.any_of_mem hrow (by simp [hfailed, hexpires])] at hclean
    cases hclean
  exact hswept.apply hbefore (Table.mem_delete.mp hafter).1 hid

/-- One call keeps the status of every terminal row that is still there. -/
theorem step_keepsTerminal {db : Db} {op : Op} (hclean : reopens db op = false) {before after : Item}
    (hbefore : before ∈ db.items) (hafter : after ∈ (step db op).items) (hid : after.id = before.id) :
    KeepsTerminal before after := by
  cases op with
  | ensureQueue deviceId depth =>
    have hitems : (step db (.ensureQueue deviceId depth)).items = db.items := by
      cases hcall : ensureQueue db deviceId depth with
      | error error => rw [step, hcall, after_error]
      | ok result =>
        obtain ⟨db', _⟩ := result
        obtain ⟨-, -, h⟩ := bind_eq_ok.mp hcall
        obtain ⟨-, -, h⟩ := bind_eq_ok.mp h
        obtain ⟨rfl, -⟩ := Prod.mk.inj (Except.ok.inj h)
        rw [step, hcall, after_ok]
        simp
    rw [hitems] at hafter
    rw [Table.eq_of_key_eq hafter hbefore hid]
    exact KeepsTerminal.refl before
  | enqueueRelease request => exact (enqueueRelease_keepsTerminal request).apply hbefore hafter hid
  | queueAck deviceId ack now rollout => exact (queueAck_keepsTerminal rollout hclean).apply hbefore hafter hid
  | expireOperationalData targeted now => exact expireOperationalData_keepsTerminal hclean hbefore hafter hid

/-! ### Runs -/

/-- In a run without the two writes, a terminal row keeps its status as long as it is there: the sweep may
delete it, and the id could then be drawn again. -/
theorem terminal_status_kept {start : Db} {earlier later : List Op} {before after : Item}
    (hclean : Runs.Along step (fun db op => reopens db op = false) (Runs.run step start earlier) later)
    (hbefore : before ∈ (Runs.run step start earlier).items) (hterminal : before.state.status.terminal = true)
    (hkept : Runs.Along step (fun db op => (step db op).items.any fun item => item.id == before.id)
      (Runs.run step start earlier) later)
    (hafter : after ∈ (Runs.run step start (earlier ++ later)).items) (hid : after.id = before.id) :
    after.state.status = before.state.status := by
  rw [Runs.run_append] at hafter
  generalize Runs.run step start earlier = db at hclean hbefore hkept hafter
  induction later generalizing db before with
  | nil => rw [Table.eq_of_key_eq hafter hbefore hid]
  | cons op rest ih =>
    obtain ⟨next, hnext, hnext_id⟩ := List.any_eq_true.mp hkept.1
    rw [beq_iff_eq] at hnext_id
    have hstatus := step_keepsTerminal hclean.1 hbefore hnext hnext_id hterminal
    rw [← hstatus]
    refine ih ?_ ?_ (step db op) hclean.2 hnext ?_ hafter
    · rw [hstatus]
      exact hterminal
    · rw [hid, hnext_id]
    · rw [hnext_id]
      exact hkept.2

/-! ### Runs that reopen a row -/

/-- An offline frame with one acknowledged slot of the schedule `day`. -/
def offlineFrame : Db where
  devices := .single { id := "frame", deliveryMode := .inktimeOfflineSchedule, offlinePrefetchAllowed := true }
  releases := ⟨[{ id := ⟨"r1", r1_nonempty⟩ }], by decide⟩
  schedules := .single { id := "day", deviceId := "frame" }
  slots := ⟨[{ id := "slot", scheduleId := "day", queueItemId := "item", showAt := 1000000000 }], by decide⟩
  items := ⟨[{
    id := "item", deviceId := "frame", releaseId := ⟨"r1", r1_nonempty⟩, position := 1
    expiresAt := some 3000000000, deliveryMode := .offlineSchedule, offlinePrefetchAllowed := true
    offlineScheduleId := some "day", terminalAckRetention := some 9000000000
    state := { status := .acknowledged, downloadedAt := some 500000000 } }], by decide⟩
  heads := ⟨[{ deviceId := "frame", state := { queueVersion := 4 } }], by decide⟩
  events := ⟨[], by decide⟩

/-- A terminal ACK the frame kept and sends later. -/
def delayedAck (event : Event) (key : String) (epoch : Int) : Ack where
  itemId := "item"
  event := some event
  key := key
  queueVersion := .int 4
  ackMode := "delayed_terminal"
  releaseId := some "r1"
  eventEpoch := .int epoch

/-- The row of `offlineFrame` after its first `DISPLAY_COMPLETED`. -/
def displayedItem : Item where
  id := "item"
  deviceId := "frame"
  releaseId := ⟨"r1", r1_nonempty⟩
  position := 1
  expiresAt := some 3000000000
  deliveryMode := .offlineSchedule
  offlinePrefetchAllowed := true
  offlineScheduleId := some "day"
  terminalAckRetention := some 9000000000
  state := {
    status := .displayed
    downloadedAt := some 500000000
    displayedAt := some 1000000000
    updatedAt := 2000000000 }

def shownOnce : List Op := [.queueAck "frame" (delayedAck .displayCompleted "k1" 1000) 2000000000 []]

/-- The display is reported again, and the sweep runs after the slot expired. -/
def shownAgainThenSwept : List Op :=
  [.queueAck "frame" (delayedAck .displayCompleted "k2" 1001) 2000000001 [],
    .expireOperationalData (fun _ => false) 3000000000]

theorem terminal_status_kept_displayed :
    displayedItem ∈ (Runs.run step offlineFrame shownOnce).items ∧
    ∀ after ∈ (Runs.run step offlineFrame (shownOnce ++ shownAgainThenSwept)).items,
      after.id = "item" → after.state.status = .displayed := by
  have hshown : displayedItem ∈ (Runs.run step offlineFrame shownOnce).items := Table.mem_iff.mpr (by decide)
  refine ⟨hshown, ?_⟩
  intro after hafter hid
  exact terminal_status_kept (by decide) hshown (by decide) (by decide) hafter hid

def failedLater : Op := .queueAck "frame" (delayedAck .displayFailed "k2" 1001) 2000000001 []

/-- A late `DISPLAY_FAILED` fails a displayed row, and the next sweep expires it. -/
theorem terminal_status_lost :
    statusOf (Runs.run step offlineFrame shownOnce) "item" = some .displayed ∧
    statusOf (Runs.run step offlineFrame (shownOnce ++ [failedLater])) "item" = some .failed ∧
    statusOf (Runs.run step offlineFrame
      (shownOnce ++ [failedLater, .expireOperationalData (fun _ => false) 3000000000])) "item" =
      some .expired := by
  decide

end InkTime.Queue
