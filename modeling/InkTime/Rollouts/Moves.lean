import InkTime.Rollouts.Operations

/-!
# What the rollout calls do

A call works on one campaign after another. What it does to one of them is a turn: calm moves, which neither
hand out a queue row nor start a rollback, and then at most one decisive move.
-/

namespace InkTime.Rollouts

open Checked
open Queue (ReleaseId Release Device Item)

/-! ### The queue below -/

def SameItem (before after : Item) : Prop := after.deviceId = before.deviceId ∧ after.releaseId = before.releaseId

/-- Devices and releases stay, and so does what each queue row is about. -/
structure QueueKept (db db' : Queue.Db) : Prop where
  devices : db'.devices = db.devices
  releases : db'.releases = db.releases
  items : Table.Follows SameItem db.items db'.items

/-- The queue row `itemId` brings the release to the device. -/
def ItemAt (db : Queue.Db) (itemId deviceId : String) (releaseId : ReleaseId) : Prop :=
  ∃ item ∈ db.items, item.id = itemId ∧ item.deviceId = deviceId ∧ item.releaseId = releaseId

section Queue

variable {db db' db'' : Queue.Db}

lemma SameItem.refl (item : Item) : SameItem item item := ⟨rfl, rfl⟩

lemma QueueKept.refl (db : Queue.Db) : QueueKept db db := ⟨rfl, rfl, Table.Follows.refl SameItem.refl _⟩

lemma QueueKept.trans (h : QueueKept db db') (h' : QueueKept db' db'') : QueueKept db db'' where
  devices := h'.devices.trans h.devices
  releases := h'.releases.trans h.releases
  items := h.items.trans (fun _ _ _ hab hbc => ⟨hbc.1.trans hab.1, hbc.2.trans hab.2⟩) h'.items

lemma ItemAt.kept {itemId deviceId : String} {releaseId : ReleaseId} (h : ItemAt db itemId deviceId releaseId)
    (hkept : Table.Follows SameItem db.items db'.items) : ItemAt db' itemId deviceId releaseId := by
  obtain ⟨item, hitem, hid, hdevice, hrelease⟩ := h
  obtain ⟨after, hafter, hkey, hsame⟩ := hkept item hitem
  exact ⟨after, hafter, hkey.trans hid, hsame.1.trans hdevice, hsame.2.trans hrelease⟩

lemma setItems_kept (matching : Item → Bool) (set : Queue.ItemState → Queue.ItemState) :
    QueueKept db (db.setItems matching set) :=
  ⟨rfl, rfl, Queue.Db.setItems_follows SameItem.refl fun _ _ _ => ⟨rfl, rfl⟩⟩

lemma setHead_kept (deviceId : String) (set : Queue.HeadState → Queue.HeadState) : QueueKept db (db.setHead deviceId set) :=
  ⟨rfl, rfl, Table.Follows.refl SameItem.refl _⟩

lemma ensureHead_kept (deviceId : String) (depth : Int) : QueueKept db (db.ensureHead deviceId depth) := by
  unfold Queue.Db.ensureHead
  split
  · exact QueueKept.refl db
  · exact ⟨rfl, rfl, Table.Follows.refl SameItem.refl _⟩

/-- A delivery names a row that brings the release to the device. -/
lemma rolloutDelivery_ok {deviceId drawnId itemId : String} {releaseId : ReleaseId} {now deadline : Nat} {priority : Int}
    (h : Queue.rolloutDelivery db deviceId releaseId now priority deadline drawnId = .ok (db', itemId)) :
    QueueKept db db' ∧ ItemAt db' itemId deviceId releaseId := by
  obtain ⟨-, -, h⟩ := bind_eq_ok.mp h
  have hopened : QueueKept db (db.ensureHead deviceId 3) := ensureHead_kept deviceId 3
  simp only at h
  split at h
  · next existing hexisting =>
    obtain ⟨rfl, rfl⟩ := Prod.mk.inj (Except.ok.inj h)
    have hmem := List.mem_of_find?_eq_some hexisting
    have hactive := List.find?_some hexisting
    simp only [Bool.and_eq_true, beq_iff_eq] at hactive
    have hat : ItemAt (db.ensureHead deviceId 3) existing.id deviceId releaseId :=
      ⟨existing, hmem, rfl, hactive.1.1, hactive.1.2⟩
    exact ⟨hopened.trans (setItems_kept _ _), hat.kept (setItems_kept _ _).items⟩
  · obtain ⟨inserted, hinserted, h⟩ := bind_eq_ok.mp h
    obtain ⟨rfl, rfl⟩ := Prod.mk.inj (Except.ok.inj h)
    obtain ⟨items, hitems, rfl⟩ := Queue.Db.insertItem_ok hinserted
    have hadded : QueueKept (db.ensureHead deviceId 3) ({ db.ensureHead deviceId 3 with items } : Queue.Db) :=
      ⟨rfl, rfl, Table.Follows.insert SameItem.refl hitems⟩
    refine ⟨(hopened.trans hadded).trans (setHead_kept deviceId _), ?_⟩
    exact ⟨_, (Table.mem_insert hitems).mpr (.inr rfl), rfl, rfl, rfl⟩

/-- An ACK by itself keeps what rows are about. -/
lemma queueAck_kept {deviceId : String} {ack : Queue.Ack} {now : Nat} {result : Queue.AckResult}
    (h : Queue.queueAck db deviceId ack now [] = .ok (db', result)) : QueueKept db db' := by
  obtain ⟨-, rfl⟩ | ⟨item, who, admission, -, hcommit⟩ := Queue.queueAck_cases h
  · exact QueueKept.refl db'
  · obtain ⟨result, hcommit⟩ := hcommit.written
    obtain ⟨events, pointed, -, hpointed, hfinished⟩ := Queue.commitAck_ok hcommit
    obtain rfl := Except.ok.inj hfinished
    have hacked : QueueKept db (db.acked events item who.event ack admission now) :=
      ⟨rfl, rfl, (setItems_kept _ _).items⟩
    obtain rfl | rfl := Queue.recordDisplay_cases hpointed
    · exact hacked
    · exact hacked.trans (setHead_kept _ _)

end Queue

/-! ### Moves -/

/-- The target has no valid rollback release for its device. -/
def lacksFallback (db : Db) (target : Target) : Bool :=
  (db.queue.devices.find target.deviceId).any fun device => (validFallback db target device).isNone

/-- The rollback of this target would fail. -/
def missing (db : Db) (target : Target) : Bool := !isOffline db target.deviceId && lacksFallback db target

/-- The campaign runs, and no rollback has started. -/
def inProgress (status : Option CampaignStatus) : Bool := status.any fun s => s.running && s != .rollingBack

/-- What happens to the status of a campaign between rollbacks: it opens, it runs on or completes, or a
rollback under way fails. -/
inductive CalmStatus : Option CampaignStatus → Option CampaignStatus → Prop where
  | same (status : Option CampaignStatus) : CalmStatus status status
  | opens : CalmStatus none (some .draft)
  | runs {status status' : CampaignStatus} (before : status.running = true ∧ status ≠ .rollingBack)
      (after : (status'.running = true ∧ status' ≠ .rollingBack) ∨ status' = .completed) :
      CalmStatus (some status) (some status')
  | fails : CalmStatus (some .rollingBack) (some .failed)

/-- Other campaigns keep their status, and the queue what its rows are about. -/
structure Frame (rolloutId : String) (db db' : Db) : Prop where
  queue : QueueKept db.queue db'.queue
  others : ∀ other, other ≠ rolloutId → statusOf db' other = statusOf db other

/-- The columns of a target that say what it was given. -/
def SamePlace (before after : Target) : Prop :=
  after.rollbackReleaseId = before.rollbackReleaseId ∧ after.state.queueItemId = before.state.queueItemId

/-- A status that an ACK sets; the other rows stay. -/
def Settled (settles : Target → TargetStatus → Prop) (rolloutId : String) (before after : Target) : Prop :=
  after = before ∨ (before.rolloutId = rolloutId ∧ SamePlace before after ∧ settles before after.state.status)

/-- A row for a device that is offline: nothing was sent to it. -/
structure Skipped (db : Db) (rolloutId : String) (target : Target) : Prop where
  rollout : target.rolloutId = rolloutId
  device : isOffline db target.deviceId = true
  unplaced : target.state.queueItemId = none
  unsaved : target.rollbackReleaseId = none

/-- A row with a delivery, on a device no other running campaign has a row for. -/
structure Placed (db db' : Db) (rolloutId : String) (target : Target) : Prop where
  rollout : target.rolloutId = rolloutId
  device : (db.queue.devices.find target.deviceId).isSome = true
  placed : ∃ itemId releaseId, target.state.queueItemId = some itemId ∧ ItemAt db'.queue itemId target.deviceId releaseId
  free : inOtherCampaign db rolloutId target.deviceId = false

/-- What a rollback makes of a row. -/
inductive RollsBack (db db' : Db) (before after : Target) : Prop where
  | skipped (offline : isOffline db before.deviceId = true) (place : SamePlace before after)
      (status : after.state.status = .rollbackSkippedIncompatibleOffline)
  | redirected (online : isOffline db before.deviceId = false) (present : missing db before = false)
      (saved : after.rollbackReleaseId = before.rollbackReleaseId)
      (placed : ∃ itemId fallback, before.rollbackReleaseId = some fallback ∧ after.state.queueItemId = some itemId ∧
        ItemAt db'.queue itemId before.deviceId fallback)
      (status : after.state.status = .rollbackPending)
  | failed (missing : missing db before = true) (place : SamePlace before after)

def RollsBackAll (db db' : Db) (rolloutId : String) (before after : Target) : Prop :=
  (before.rolloutId ≠ rolloutId ∧ after = before) ∨ (before.rolloutId = rolloutId ∧ RollsBack db db' before after)

inductive Calm (settles : Target → TargetStatus → Prop) (rolloutId : String) (db db' : Db) : Prop where
  | proceed (frame : Frame rolloutId db db') (targets : db'.targets = db.targets)
      (status : CalmStatus (statusOf db rolloutId) (statusOf db' rolloutId))
  | settle (frame : Frame rolloutId db db') (targets : Table.Grows (Settled settles rolloutId) (fun _ => False) db.targets db'.targets)
      (status : statusOf db' rolloutId = statusOf db rolloutId)
  | skip (frame : Frame rolloutId db db') (known : ∃ status, statusOf db rolloutId = some status ∧ status ≠ .rollingBack)
      (targets : Table.Grows Eq (Skipped db rolloutId) db.targets db'.targets)
      (status : statusOf db' rolloutId = statusOf db rolloutId)

inductive Decisive (rolloutId : String) (db db' : Db) : Prop where
  | place (frame : Frame rolloutId db db') (targets : Table.Grows Eq (Placed db db' rolloutId) db.targets db'.targets)
      (before : ∃ status, statusOf db rolloutId = some status ∧ (status = .draft ∨ status.running = true) ∧ status ≠ .rollingBack)
      (after : ∃ status, statusOf db' rolloutId = some status ∧ status.running = true ∧ status ≠ .rollingBack)
  | rollBack (frame : Frame rolloutId db db') (before : inProgress (statusOf db rolloutId) = true)
      (targets : Table.Grows (RollsBackAll db db' rolloutId) (fun _ => False) db.targets db'.targets)
      (after : statusOf db' rolloutId = some (if (db.targetsOf rolloutId).isEmpty || (db.targetsOf rolloutId).any (missing db)
        then .failed else .rollingBack))
  | finish (frame : Frame rolloutId db db') (targets : db'.targets = db.targets)
      (before : statusOf db rolloutId = some .rollingBack) (after : statusOf db' rolloutId = some .rolledBack)
      (verified : ∀ target ∈ db.targets, target.rolloutId = rolloutId →
        target.state.status = .succeeded ∨ target.state.status = .rollbackSkippedIncompatibleOffline)

/-- Calm moves, then at most one decisive one. -/
def Turn (settles : Target → TargetStatus → Prop) (rolloutId : String) (db db' : Db) : Prop :=
  ∃ middle, Relation.ReflTransGen (Calm settles rolloutId) db middle ∧ (middle = db' ∨ Decisive rolloutId middle db')

/-- The turns of a call, one for each campaign it works on. -/
inductive Turns (settles : Target → TargetStatus → Prop) : List String → Db → Db → Prop where
  | nil (db : Db) : Turns settles [] db db
  | cons {rolloutId : String} {rest : List String} {db middle db' : Db} (turn : Turn settles rolloutId db middle)
      (others : Turns settles rest middle db') : Turns settles (rolloutId :: rest) db db'

end InkTime.Rollouts
