import InkTime.Queue.Depth

/-!
# Downloaded rows survive

A frame works from the manifest it fetched. Rows it has downloaded are out of reach of eviction, and their
progress ACKs are taken although the queue has moved on.
-/

namespace InkTime.Queue

open Checked
open Texts (strip)

/-- An immediate ACK for the row, made for version `v`, with a key of its own. -/
structure PlainAck (ack : Ack) (itemId : String) (event : Event) (v : Int) : Prop where
  item : ack.itemId = itemId
  event : ack.event = some event
  version : ack.queueVersion = .int v
  immediate : ack.ackMode ≠ "delayed_terminal"
  no_epoch : ack.eventEpoch = .missing
  key_set : strip ack.key ≠ ""
  key_short : (strip ack.key).length ≤ 128

/-- The row is on the device in the given status, with what its progress ACKs are checked against. -/
structure OnDevice (db : Db) (deviceId itemId : String) (releaseId : ReleaseId) (status : ItemStatus) (v : Int)
    (current : Option ReleaseId × Option Nat) : Prop where
  row : ∃ item ∈ db.items, item.id = itemId ∧ item.deviceId = deviceId ∧ item.releaseId = releaseId ∧
    item.state.status = status ∧ item.state.downloadedAt.isSome = true
  head : ∃ head, db.heads.find deviceId = some head ∧ v ≤ head.state.queueVersion ∧
    (head.state.currentReleaseId, head.state.currentDisplayedAt) = current

/-- No ACK of this identity is stored. -/
def FreshKey (db : Db) (ack : Ack) (event : Event) : Prop := db.events.find (ack.itemId, event, strip ack.key) = none

instance (db : Db) (ack : Ack) (event : Event) : Decidable (FreshKey db ack event) :=
  inferInstanceAs (Decidable (db.events.find (ack.itemId, event, strip ack.key) = none))

lemma OnDevice.status {db : Db} {deviceId itemId : String} {releaseId : ReleaseId} {status : ItemStatus} {v : Int}
    {current : Option ReleaseId × Option Nat} (h : OnDevice db deviceId itemId releaseId status v current) :
    statusOf db itemId = some status := by
  obtain ⟨item, hitem, rfl, -, -, rfl, -⟩ := h.row
  rw [statusOf, Table.find_of_mem hitem]
  rfl

/-! ### Later insertions -/

/-- What an insertion leaves of a row that is not evictable. -/
def Untouched (before after : Item) : Prop :=
  after.deviceId = before.deviceId ∧ after.releaseId = before.releaseId ∧
    (before.state.status.evictable = false →
      after.state.status = before.state.status ∧ after.state.downloadedAt = before.state.downloadedAt)

lemma Insertion.untouched {db db' : Db} {request : EnqueueRequest} {item : Item}
    (h : Insertion db request item db') : Table.Follows Untouched db.items db'.items := by
  apply h.follows
  · exact fun row => ⟨rfl, rfl, fun _ => ⟨rfl, rfl⟩⟩
  · intro a b c hab hbc
    refine ⟨hbc.1.trans hab.1, hbc.2.1.trans hab.2.1, ?_⟩
    intro hkept
    obtain ⟨hstatus, hdownloaded⟩ := hab.2.2 hkept
    obtain ⟨hstatus', hdownloaded'⟩ := hbc.2.2 (by rw [hstatus]; exact hkept)
    exact ⟨hstatus'.trans hstatus, hdownloaded'.trans hdownloaded⟩
  · intro row _ hevictable
    refine ⟨rfl, rfl, ?_⟩
    intro hkept
    rw [hevictable] at hkept
    cases hkept

lemma Insertion.events {db db' : Db} {request : EnqueueRequest} {item : Item}
    (h : Insertion db request item db') : db'.events = db.events := by
  obtain ⟨head, -, inserted, hinserted, rfl⟩ := h.exists_head
  obtain ⟨items, -, rfl⟩ := Db.insertItem_ok hinserted
  change (makeRoom db head request).events = db.events
  unfold makeRoom
  split
  · unfold evict
    cases evictionTarget db request.deviceId <;> rfl
  · rfl

/-- The ids and versions an accepted ACK had. -/
structure Sendable (itemId : String) (v : Int) : Prop where
  id_set : itemId ≠ ""
  id_short : itemId.length ≤ 128
  version_low : 0 ≤ v
  version_high : v ≤ 2147483647

lemma PlainAck.parsed {ack : Ack} {itemId : String} {event : Event} {v : Int} (h : PlainAck ack itemId event v)
    (hsendable : Sendable itemId v) : parseAck ack = .ok ⟨event, strip ack.key, v⟩ := by
  have hlow := hsendable.version_low
  have hhigh := hsendable.version_high
  have hversion : jsonInt (.int v) "QUEUE-001" "queue_version" 0 2147483647 = .ok v := by
    simp only [jsonInt]
    rw [if_neg (by omega), if_neg (by omega)]
  have hids : (itemId != "" && decide (itemId.length ≤ 128) && strip ack.key != "" &&
      decide ((strip ack.key).length ≤ 128)) = true := by
    simp [hsendable.id_set, hsendable.id_short, h.key_set, h.key_short]
  simp only [parseAck, h.event, h.item, h.version, orError, require, hids, hversion]
  rfl

lemma not_delayedTerminal {db : Db} {item : Item} {event : Event} {ack : Ack} {now : Nat}
    (h : ack.ackMode ≠ "delayed_terminal") : delayedTerminal db item event ack now = false := by
  simp [delayedTerminal, h]

/-- An ACK of the row's progress that may be late. -/
def Event.progresses : Event → Bool
  | .hashVerified | .displayStarted | .displayCompleted => true
  | _ => false

lemma PlainAck.admitted {db : Db} {deviceId : String} {item : Item} {head : Head} {ack : Ack} {event : Event} {v : Int}
    {now : Nat} (h : PlainAck ack item.id event v) (hhead : db.heads.find deviceId = some head)
    (hversion : v ≤ head.state.queueVersion) (hdownloaded : item.state.downloadedAt.isSome = true)
    (hallowed : event ∈ item.state.status.allowedEvents) (hprogress : event.progresses = true) :
    admitAck db deviceId item ⟨event, strip ack.key, v⟩ ack now = .ok ⟨head, false, now⟩ := by
  have hdelayed : delayedTerminal db item event ack now = false := not_delayedTerminal h.immediate
  have haccepted : versionAccepted db item head ⟨event, strip ack.key, v⟩ ack now = true := by
    by_cases heq : head.state.queueVersion = v
    · simp [versionAccepted, heq]
    · have hlate : v < head.state.queueVersion := by omega
      have hevents : (event == .downloadCompleted || event == .hashVerified || event == .displayStarted ||
          event == .displayCompleted || event == .displayFailed) = true := by
        cases event <;> first | rfl | cases hprogress
      simp only [versionAccepted, staleProgressAck, hdelayed, hlate, priorDownloadEvidence, hdownloaded, hevents]
      simp [h.immediate]
  have htime : eventTime db item ack false now = .ok now := by
    simp only [eventTime, h.no_epoch, require]
    rfl
  unfold admitAck
  rw [hdelayed]
  apply bind_eq_ok.mpr ⟨head, orError_eq_ok.mpr hhead, ?_⟩
  apply bind_eq_ok.mpr ⟨(), require_eq_ok.mpr haccepted, ?_⟩
  apply bind_eq_ok.mpr ⟨(), require_eq_ok.mpr (by simpa using hallowed), ?_⟩
  exact bind_eq_ok.mpr ⟨now, htime, rfl⟩

/-- The update of an immediate ACK, on the row it names. -/
lemma acked_onDevice {db : Db} {events : Table EventRow.identity} {item : Item} {event : Event} {ack : Ack}
    {admission : Admission} {now : Nat} {v : Int} {current : Option ReleaseId × Option Nat} (hitem : item ∈ db.items)
    (himmediate : admission.delayed = false)
    (hdownloaded : (ackedState event ack admission now item.state).downloadedAt.isSome = true)
    (hhead : ∃ head, db.heads.find item.deviceId = some head ∧ v ≤ head.state.queueVersion ∧
      (head.state.currentReleaseId, head.state.currentDisplayedAt) = current) :
    OnDevice (db.acked events item event ack admission now) item.deviceId item.id item.releaseId event.status v
      current := by
  refine ⟨⟨{ item with state := ackedState event ack admission now item.state }, ?_, rfl, rfl, rfl, ?_,
    hdownloaded⟩, hhead⟩
  · rw [Db.acked, Db.setItems, Table.mem_update]
    exact ⟨item, hitem, by simp [Table.revise]⟩
  · simp [ackedState, himmediate]

/-- Another release was shown at this very instant. -/
def Ties (current : Option ReleaseId × Option Nat) (releaseId : ReleaseId) (now : Nat) : Prop :=
  ∃ other, current = (some other, some now) ∧ other ≠ releaseId

lemma recordDisplay_exists (db : Db) {event : Event} {item : Item} {head : Head} {now : Nat}
    (hties : event = .displayCompleted →
      ¬ Ties (head.state.currentReleaseId, head.state.currentDisplayedAt) item.releaseId now) :
    ∃ db', recordDisplay db event item ⟨head, false, now⟩ = .ok db' := by
  unfold recordDisplay
  by_cases hevent : event = .displayCompleted
  · rw [if_pos hevent]
    simp only [advancePointer]
    split
    · next current displayedAt hcurrent hdisplayed =>
      split
      · exact ⟨_, rfl⟩
      split
      · next htie =>
        exact absurd ⟨current, by rw [hcurrent, hdisplayed, htie.1], htie.2⟩ (hties hevent)
      · exact ⟨_, rfl⟩
    · exact ⟨_, rfl⟩
  · exact ⟨db, if_neg hevent⟩

/-- A progress ACK of a row on the device is accepted and moves the row on. -/
lemma PlainAck.accepted {db : Db} {deviceId itemId : String} {releaseId : ReleaseId} {status : ItemStatus} {v : Int}
    {current : Option ReleaseId × Option Nat} {ack : Ack} {event : Event} (h : PlainAck ack itemId event v) (now : Nat)
    (hdevice : OnDevice db deviceId itemId releaseId status v current)
    (hsendable : Sendable itemId v) (hallowed : event ∈ status.allowedEvents) (hprogress : event.progresses = true)
    (hfresh : FreshKey db ack event) (hties : event = .displayCompleted → ¬ Ties current releaseId now) :
    ∃ db', queueAck db deviceId ack now [] = .ok (db', .committed false) ∧ statusOf db' itemId = some event.status ∧
      (event ≠ .displayCompleted → OnDevice db' deviceId itemId releaseId event.status v current) ∧
      ∀ other otherEvent, otherEvent ≠ event → FreshKey db other otherEvent → FreshKey db' other otherEvent := by
  obtain ⟨item, hitem, rfl, rfl, rfl, rfl, hdownloaded⟩ := hdevice.row
  obtain ⟨head, hhead, hversion, rfl⟩ := hdevice.head
  let stored : EventRow := ⟨item.id, event, strip ack.key, item.deviceId, ack.releaseId, now⟩
  have hstored : db.events.find stored.identity = none := by
    rw [show stored.identity = (ack.itemId, event, strip ack.key) by simp [stored, EventRow.identity, h.item]]
    exact hfresh
  obtain ⟨events, hevents⟩ := Table.exists_insert hstored
  let acked := db.acked events item event ack ⟨head, false, now⟩ now
  have hacked : OnDevice acked item.deviceId item.id item.releaseId event.status v
      (head.state.currentReleaseId, head.state.currentDisplayedAt) := by
    apply acked_onDevice hitem rfl
    · unfold ackedState
      by_cases hset : event = .downloadCompleted ∨ event = .hashVerified
      · simp [hset]
      · simpa [hset] using hdownloaded
    · exact ⟨head, hhead, hversion, rfl⟩
  obtain ⟨pointed, hpointed⟩ := recordDisplay_exists acked hties
  have hevents_kept : pointed.events = events := recordDisplay_events hpointed
  refine ⟨pointed, ?_, ?_, ?_, ?_⟩
  · apply bind_eq_ok.mpr ⟨_, h.parsed hsendable, ?_⟩
    apply bind_eq_ok.mpr ⟨item, orError_eq_ok.mpr (ackedItem_of_mem hitem h.item.symm), ?_⟩
    simp only [show db.events.find (item.id, event, strip ack.key) = none from hstored]
    apply bind_eq_ok.mpr ⟨_, h.admitted hhead hversion hdownloaded hallowed hprogress, ?_⟩
    apply bind_eq_ok.mpr ⟨events, orError_eq_ok.mpr hevents, ?_⟩
    exact bind_eq_ok.mpr ⟨pointed, hpointed, rfl⟩
  · rw [statusOf, recordDisplay_items hpointed]
    exact hacked.status
  · intro hnot_display
    rw [recordDisplay, if_neg hnot_display] at hpointed
    obtain rfl := Except.ok.inj hpointed
    exact hacked
  · intro other otherEvent hne hother
    rw [FreshKey, hevents_kept, Table.find_insert_ne hevents]
    · exact hother
    · intro heq
      simp only [stored, EventRow.identity, Prod.mk.injEq] at heq
      exact hne heq.2.1.symm

/-! ### The whole way of a row -/

/-- The answer to each ACK of a sequence: `none` where it is accepted. -/
def refusals (db : Db) : List AckCall → List (Option QueueError)
  | [] => []
  | call :: rest =>
    match queueAck db "frame" call.ack call.now call.rollout with
    | .ok (db', _) => none :: refusals db' rest
    | .error error => some error :: refusals db rest

end InkTime.Queue
