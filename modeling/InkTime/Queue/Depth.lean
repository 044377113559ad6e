import InkTime.Queue.Moves

/-!
# The depth of the queue

`enqueue_release` makes room by cancelling one row that was not downloaded yet. That is enough exactly when
the queue was not over its depth and, if it was full, had such a row.
-/

namespace InkTime.Queue

open Checked

/-- The active online rows of the device are within its depth. -/
def WithinDepth (db : Db) (deviceId : String) : Prop :=
  ∀ head ∈ db.heads, head.deviceId = deviceId → (db.activeOnline deviceId : Int) ≤ head.state.depth

/-- There is a free place, or the queue is just full and has a row to evict. -/
def RoomForOne (db : Db) (deviceId : String) : Prop :=
  ∀ head ∈ db.heads, head.deviceId = deviceId → (db.activeOnline deviceId : Int) < head.state.depth ∨
    ((db.activeOnline deviceId : Int) = head.state.depth ∧ evictionCandidates db deviceId ≠ [])

instance (db : Db) (deviceId : String) : Decidable (WithinDepth db deviceId) :=
  inferInstanceAs (Decidable (∀ head ∈ db.heads.rows, head.deviceId = deviceId →
    (db.activeOnline deviceId : Int) ≤ head.state.depth))

instance (db : Db) (deviceId : String) : Decidable (RoomForOne db deviceId) :=
  inferInstanceAs (Decidable (∀ head ∈ db.heads.rows, head.deviceId = deviceId →
    (db.activeOnline deviceId : Int) < head.state.depth ∨
      ((db.activeOnline deviceId : Int) = head.state.depth ∧ evictionCandidates db deviceId ≠ [])))

lemma activeOnline_setHead (db : Db) (deviceId other : String) (set : HeadState → HeadState) :
    (db.setHead other set).activeOnline deviceId = db.activeOnline deviceId := rfl

/-- Eviction takes one row away if there is one to evict. -/
lemma evict_activeOnline (db : Db) (deviceId : String) (now : Nat) :
    (evict db deviceId now).activeOnline deviceId + (if evictionCandidates db deviceId = [] then 0 else 1) =
      db.activeOnline deviceId := by
  unfold evict
  cases htarget : evictionTarget db deviceId with
  | none => simp [evictionTarget_none.mp htarget, activeOnline_setHead]
  | some target =>
    have hcandidate := mem_evictionTarget htarget
    have hnonempty : evictionCandidates db deviceId ≠ [] := List.ne_nil_of_mem hcandidate
    obtain ⟨hmem, hdevice, honline, hevictable⟩ := mem_evictionCandidates.mp hcandidate
    have hone : db.items.affected (fun item => item.id == target.id) = 1 := by
      apply Table.affected_eq_one (k := target.id)
      · exact Table.any_of_mem hmem (by simp)
      · intro row _ hmatch
        simpa using hmatch
    simp only [activeOnline_setHead, if_neg hnonempty]
    rw [← hone]
    apply Table.count_update_outOf
    · exact fun _ => rfl
    · intro row hrow hmatch
      obtain rfl := Table.eq_of_key_eq hrow hmem (by simpa using hmatch)
      have hactive : row.state.status.active = true := by
        cases hstatus : row.state.status <;> rw [hstatus] at hevictable <;> first | rfl | cases hevictable
      simp [hdevice, honline, hactive]
    · intro row _ _
      simp [cancelState, ItemStatus.active]

lemma insertItem_activeOnline {db db' : Db} {item : Item} (h : db.insertItem item = .ok db')
    (honline : item.deliveryMode = .onlineQueue) (hready : item.state.status = .ready) :
    db'.activeOnline item.deviceId = db.activeOnline item.deviceId + 1 := by
  obtain ⟨items, hitems, rfl⟩ := Db.insertItem_ok h
  unfold Db.activeOnline
  rw [Table.count_insert hitems]
  simp [honline, hready, ItemStatus.active]

/-- What an insertion does to the count: it adds one row, after a full queue gave one up if it could. -/
lemma Insertion.activeOnline {db db' : Db} {request : EnqueueRequest} {item : Item} {head : Head}
    (h : Insertion db request item db') (hhead : db.heads.find request.deviceId = some head) :
    db'.activeOnline request.deviceId + (if head.state.depth ≤ db.activeOnline request.deviceId ∧
        evictionCandidates db request.deviceId ≠ [] then 1 else 0) =
      db.activeOnline request.deviceId + 1 := by
  obtain ⟨other, hother, inserted, hinserted, rfl⟩ := h.exists_head
  obtain rfl : other = head := by
    rw [hhead] at hother
    exact (Option.some.inj hother).symm
  have hadded := insertItem_activeOnline hinserted h.online h.ready
  rw [h.device_eq] at hadded
  rw [activeOnline_setHead, hadded]
  unfold makeRoom
  by_cases hfull : other.state.depth ≤ db.activeOnline request.deviceId
  · have hevicted := evict_activeOnline db request.deviceId request.now
    by_cases hnone : evictionCandidates db request.deviceId = []
    · rw [if_pos hnone] at hevicted
      rw [if_pos hfull, if_neg fun hboth => hboth.2 hnone]
      omega
    · rw [if_neg hnone] at hevicted
      rw [if_pos hfull, if_pos ⟨hfull, hnone⟩]
      omega
  · rw [if_neg hfull, if_neg fun hboth => hfull hboth.1]

def SameDepth (before after : Head) : Prop := after.state.depth = before.state.depth

lemma Insertion.sameDepth {db db' : Db} {request : EnqueueRequest} {item : Item}
    (h : Insertion db request item db') : Table.Follows SameDepth db.heads db'.heads := by
  apply h.heads
  · exact fun head => rfl
  · intro a b c hab hbc
    exact Eq.trans hbc hab
  · exact fun head next => rfl

/-- In every run, an insertion leaves the queue within its depth exactly when the state before it had room
for one more row. -/
theorem depth_bound_iff {start : Db} {ops : List Op} {request : EnqueueRequest} {db' : Db} {item : Item}
    (h : enqueueRelease (Runs.run step start ops) request = .ok (db', .inserted item)) :
    WithinDepth db' request.deviceId ↔ RoomForOne (Runs.run step start ops) request.deviceId := by
  generalize Runs.run step start ops = db at h
  obtain ⟨-, other, hother⟩ | ⟨other, -, hinsertion⟩ := enqueueRelease_cases h
  · cases hother
  obtain ⟨head, hhead, -⟩ := hinsertion.exists_head
  obtain ⟨hmem, hdevice⟩ := Table.find_eq_some hhead
  have hcount := hinsertion.activeOnline hhead
  obtain ⟨after, hafter, hafter_device, hdepth⟩ := hinsertion.sameDepth head hmem
  -- both sides speak of one head, since a device has one
  have hwithin : WithinDepth db' request.deviceId ↔ (db'.activeOnline request.deviceId : Int) ≤ head.state.depth := by
    constructor
    · intro hall
      rw [← hdepth]
      exact hall after hafter (hafter_device.trans hdevice)
    · intro hle other hother hother_device
      rw [Table.eq_of_key_eq hother hafter (by rw [hother_device, hafter_device, hdevice]), hdepth]
      exact hle
  have hroom : RoomForOne db request.deviceId ↔ ((db.activeOnline request.deviceId : Int) < head.state.depth ∨
      ((db.activeOnline request.deviceId : Int) = head.state.depth ∧
        evictionCandidates db request.deviceId ≠ [])) := by
    constructor
    · exact fun hall => hall head hmem hdevice
    · intro hcase other hother hother_device
      rw [Table.eq_of_key_eq hother hmem (by rw [hother_device, hdevice])]
      exact hcase
  rw [hwithin, hroom]
  by_cases hnone : evictionCandidates db request.deviceId = []
  · rw [if_neg fun hboth => hboth.2 hnone] at hcount
    simp only [hnone, ne_eq, not_true_eq_false, and_false, or_false]
    omega
  · simp only [hnone, ne_eq, not_false_eq_true, and_true] at hcount ⊢
    split at hcount <;> omega

/-! ### Runs -/

def firstRelease : ReleaseId := ⟨"r1", by decide⟩

def secondRelease : ReleaseId := ⟨"r2", by decide⟩

def thirdRelease : ReleaseId := ⟨"r3", by decide⟩

/-- An online frame without a queue, and three published releases. -/
def onlineFrame : Db where
  devices := ⟨[{ id := "frame" }], by decide⟩
  releases := ⟨[{ id := firstRelease }, { id := secondRelease }, { id := thirdRelease }], by decide⟩
  schedules := Table.empty
  slots := Table.empty
  items := Table.empty
  heads := Table.empty
  events := Table.empty

def enqueueAs (releaseId : ReleaseId) (drawnId : String) (now : Nat) : EnqueueRequest where
  deviceId := "frame"
  releaseId := releaseId
  drawnId := drawnId
  now := now

def plainAck (itemId : String) (event : Event) (version : Int) : Ack where
  itemId := itemId
  event := some event
  key := "k"
  queueVersion := .int version

def fillOne : List Op := [.ensureQueue "frame" 1, .enqueueRelease (enqueueAs firstRelease "a" 1)]

/-- A full queue gives up its row for the next one. -/
theorem depth_bound_iff_full :
    ∃ db' item, enqueueRelease (Runs.run step onlineFrame fillOne) (enqueueAs secondRelease "b" 2) =
      .ok (db', .inserted item) ∧ WithinDepth db' "frame" := by
  have hinserted : ∃ db' item, enqueueRelease (Runs.run step onlineFrame fillOne) (enqueueAs secondRelease "b" 2) =
      .ok (db', .inserted item) := ⟨_, _, rfl⟩
  obtain ⟨db', item, h⟩ := hinserted
  exact ⟨db', item, h, (depth_bound_iff h).mpr (by decide)⟩

/-- The call inserts a row and leaves more active rows than the depth allows. -/
def overfills (db : Db) (request : EnqueueRequest) : Bool :=
  match enqueueRelease db request with
  | .ok (db', .inserted _) => !decide (WithinDepth db' request.deviceId)
  | _ => false

/-- The depth was lowered to one while two rows waited; or the only row is downloaded. -/
theorem depth_bound_exceeded :
    overfills (Runs.run step onlineFrame [
      .ensureQueue "frame" 2, .enqueueRelease (enqueueAs firstRelease "a" 1),
      .enqueueRelease (enqueueAs secondRelease "b" 2), .ensureQueue "frame" 1]) (enqueueAs thirdRelease "c" 3) = true ∧
    overfills (Runs.run step onlineFrame [
      .ensureQueue "frame" 1, .enqueueRelease (enqueueAs firstRelease "a" 1),
      .queueAck "frame" (plainAck "a" .manifestReceived 1) 2 [],
      .queueAck "frame" (plainAck "a" .downloadCompleted 1) 3 []]) (enqueueAs secondRelease "b" 4) = true := by
  decide

end InkTime.Queue
