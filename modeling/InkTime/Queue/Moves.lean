import InkTime.Queue.Operations

/-!
# What the queue calls do

One lemma for each call says what a call that returned did to the tables. Later proofs start from these
and do not open the calls again.
-/

namespace InkTime.Queue

open Checked

/-! ### enqueue_release -/

/-- An insertion: the row was new to every index, after room was made for it. -/
structure Insertion (db : Db) (request : EnqueueRequest) (item : Item) (db' : Db) : Prop where
  exists_head : ∃ head, db.heads.find request.deviceId = some head ∧ ∃ inserted,
    (makeRoom db head request).insertItem item = .ok inserted ∧
    db' = inserted.setHead request.deviceId fun state =>
      { state with queueVersion := state.queueVersion + 1, nextQueuedReleaseId := some request.releaseId }
  id_eq : item.id = request.drawnId
  device_eq : item.deviceId = request.deviceId
  online : item.deliveryMode = .onlineQueue
  ready : item.state.status = .ready

lemma insertReady_ok {db db' : Db} {request : EnqueueRequest} {mode : DeliveryMode} {result : EnqueueResult}
    (h : insertReady db request mode = .ok (db', result)) :
    ∃ inserted, db.insertItem (newItem db request mode) = .ok inserted ∧ result = .inserted (newItem db request mode) ∧
      db' = inserted.setHead request.deviceId fun state =>
        { state with queueVersion := state.queueVersion + 1, nextQueuedReleaseId := some request.releaseId } := by
  obtain ⟨inserted, hinserted, hreturn⟩ := bind_eq_ok.mp h
  obtain ⟨rfl, rfl⟩ := Prod.mk.inj (Except.ok.inj hreturn)
  exact ⟨inserted, hinserted, rfl, rfl⟩

lemma enqueueNew_cases {db db' : Db} {request : EnqueueRequest} {mode : DeliveryMode} {result : EnqueueResult}
    (h : enqueueNew db request mode = .ok (db', result)) :
    (db' = db ∧ ∃ item, result = .existing item) ∨ ∃ item, result = .inserted item ∧ Insertion db request item db' := by
  obtain ⟨head, hhead, h⟩ := bind_eq_ok.mp h
  obtain ⟨-, -, h⟩ := bind_eq_ok.mp h
  obtain ⟨-, -, h⟩ := bind_eq_ok.mp h
  split at h
  · next duplicate _ =>
    obtain ⟨rfl, rfl⟩ := Prod.mk.inj (Except.ok.inj h)
    exact .inl ⟨rfl, duplicate, rfl⟩
  · obtain ⟨_, honline, h⟩ := bind_eq_ok.mp h
    obtain ⟨inserted, hinserted, rfl, rfl⟩ := insertReady_ok h
    rw [require_eq_ok, beq_iff_eq] at honline
    exact .inr ⟨_, rfl, ⟨head, orError_eq_ok.mp hhead, inserted, hinserted, rfl⟩, rfl, rfl, honline, rfl⟩

/-- A call answers with a row it found, or inserts one. -/
lemma enqueueRelease_cases {db db' : Db} {request : EnqueueRequest} {result : EnqueueResult}
    (h : enqueueRelease db request = .ok (db', result)) :
    (db' = db ∧ ∃ item, result = .existing item) ∨ ∃ item, result = .inserted item ∧ Insertion db request item db' := by
  obtain ⟨mode, -, h⟩ := bind_eq_ok.mp h
  simp only at h
  split at h
  · next item _ =>
    obtain ⟨-, -, h⟩ := bind_eq_ok.mp h
    obtain ⟨rfl, rfl⟩ := Prod.mk.inj (Except.ok.inj h)
    exact .inl ⟨rfl, item, rfl⟩
  · exact enqueueNew_cases h

lemma mem_evictionTarget {db : Db} {deviceId : String} {target : Item}
    (h : evictionTarget db deviceId = some target) : target ∈ evictionCandidates db deviceId := by
  have hmem := List.mem_of_head? h
  rwa [List.mem_insertionSort] at hmem

lemma evictionTarget_none {db : Db} {deviceId : String} :
    evictionTarget db deviceId = none ↔ evictionCandidates db deviceId = [] := by
  rw [evictionTarget, List.head?_eq_none_iff, ← List.length_eq_zero_iff, List.length_insertionSort,
    List.length_eq_zero_iff]

lemma mem_evictionCandidates {db : Db} {deviceId : String} {item : Item} :
    item ∈ evictionCandidates db deviceId ↔ item ∈ db.items ∧ item.deviceId = deviceId ∧
      item.deliveryMode = .onlineQueue ∧ item.state.status.evictable = true := by
  simp [evictionCandidates, Table.mem_iff, and_assoc]

/-- Rows after an insertion: only an evictable row was touched. -/
lemma Insertion.follows {R : Item → Item → Prop} (hrefl : ∀ item, R item item)
    (htrans : ∀ a b c, R a b → R b c → R a c) {db db' : Db} {request : EnqueueRequest} {item : Item}
    (hcancel : ∀ row ∈ db.items, row.state.status.evictable = true →
      R row { row with state := cancelState request.now row.state })
    (h : Insertion db request item db') : Table.Follows R db.items db'.items := by
  obtain ⟨head, -, inserted, hinserted, rfl⟩ := h.exists_head
  obtain ⟨items, hitems, rfl⟩ := Db.insertItem_ok hinserted
  have hroom : Table.Follows R db.items (makeRoom db head request).items := by
    unfold makeRoom
    split
    · unfold evict
      cases htarget : evictionTarget db request.deviceId with
      | none => exact Table.Follows.refl hrefl _
      | some target =>
        have hevictable := mem_evictionCandidates.mp (mem_evictionTarget htarget)
        apply Db.setItems_follows hrefl
        intro row hrow hmatch
        obtain rfl := Table.eq_of_key_eq hrow hevictable.1 (by simpa using hmatch)
        exact hcancel row hrow hevictable.2.2.2
    · exact Table.Follows.refl hrefl _
  exact hroom.trans htrans (Table.Follows.insert hrefl hitems)

/-- Heads after an insertion: the version rises once or twice, and the next release is set. -/
lemma Insertion.heads {H : Head → Head → Prop} (hrefl : ∀ head, H head head)
    (htrans : ∀ a b c, H a b → H b c → H a c)
    (hbump : ∀ (head : Head) (next : Option ReleaseId), H head { head with state := { head.state with
      queueVersion := head.state.queueVersion + 1, nextQueuedReleaseId := next } })
    {db db' : Db} {request : EnqueueRequest} {item : Item} (h : Insertion db request item db') :
    Table.Follows H db.heads db'.heads := by
  obtain ⟨head, -, inserted, hinserted, rfl⟩ := h.exists_head
  obtain ⟨items, hitems, rfl⟩ := Db.insertItem_ok hinserted
  have hroom : Table.Follows H db.heads (makeRoom db head request).heads := by
    unfold makeRoom
    split
    · unfold evict
      cases htarget : evictionTarget db request.deviceId with
      | none => exact Db.setHead_follows hrefl fun row _ _ => hbump row row.state.nextQueuedReleaseId
      | some target =>
        change Table.Follows H (db.setItems (fun item => item.id == target.id) (cancelState request.now)).heads _
        exact Db.setHead_follows hrefl fun row _ _ => hbump row row.state.nextQueuedReleaseId
    · exact Table.Follows.refl hrefl _
  apply hroom.trans htrans
  change Table.Follows H ({ makeRoom db head request with items } : Db).heads _
  exact Db.setHead_follows hrefl fun row _ _ => hbump row (some request.releaseId)

/-! ### queue_ack -/

/-- An ACK that was let through and written. -/
structure Commit (db : Db) (deviceId : String) (ack : Ack) (now : Nat) (rollout : List RolloutEffect)
    (item : Item) (who : AckIdentity) (admission : Admission) (db' : Db) : Prop where
  parsed : parseAck ack = .ok who
  named : ackedItem db deviceId ack = some item
  fresh : db.events.find (item.id, who.event, who.key) = none
  admitted : admitAck db deviceId item who ack now = .ok admission
  written : ∃ result, commitAck db deviceId item who ack admission now rollout = .ok (db', result)

lemma commitAck_result {db db' : Db} {deviceId : String} {item : Item} {who : AckIdentity} {ack : Ack}
    {admission : Admission} {now : Nat} {rollout : List RolloutEffect} {result : AckResult}
    (h : commitAck db deviceId item who ack admission now rollout = .ok (db', result)) :
    result = .committed admission.delayed := by
  obtain ⟨events, -, h⟩ := bind_eq_ok.mp h
  obtain ⟨pointed, -, h⟩ := bind_eq_ok.mp h
  obtain ⟨finished, -, h⟩ := bind_eq_ok.mp h
  exact (Prod.mk.inj (Except.ok.inj h)).2.symm

lemma ackedItem_some {db : Db} {deviceId : String} {ack : Ack} {item : Item} (h : ackedItem db deviceId ack = some item) :
    item ∈ db.items ∧ item.id = ack.itemId ∧ item.deviceId = deviceId := by
  have hfound := List.find?_some h
  rw [Bool.and_eq_true, beq_iff_eq, beq_iff_eq] at hfound
  exact ⟨List.mem_of_find?_eq_some h, hfound⟩

lemma ackedItem_of_mem {db : Db} {ack : Ack} {item : Item} (hitem : item ∈ db.items) (hid : item.id = ack.itemId) :
    ackedItem db item.deviceId ack = some item := by
  apply Table.find?_of_mem hitem
  · simp [hid]
  · intro other hother
    simp only [Bool.and_eq_true, beq_iff_eq] at hother
    rw [hother.1, hid]

/-- An accepted ACK repeats a stored one and writes nothing, or it is committed. -/
lemma queueAck_cases {db db' : Db} {deviceId : String} {ack : Ack} {now : Nat} {rollout : List RolloutEffect}
    {result : AckResult} (h : queueAck db deviceId ack now rollout = .ok (db', result)) :
    (result = .idempotent ∧ db' = db) ∨ ∃ item who admission, result = .committed admission.delayed ∧
      Commit db deviceId ack now rollout item who admission db' := by
  obtain ⟨who, hwho, h⟩ := bind_eq_ok.mp h
  obtain ⟨item, hitem, h⟩ := bind_eq_ok.mp h
  split at h
  · obtain ⟨-, -, h⟩ := bind_eq_ok.mp h
    obtain ⟨rfl, rfl⟩ := Prod.mk.inj (Except.ok.inj h)
    exact .inl ⟨rfl, rfl⟩
  · next hfresh =>
    obtain ⟨admission, hadmission, h⟩ := bind_eq_ok.mp h
    exact .inr ⟨item, who, admission, commitAck_result h,
      hwho, orError_eq_ok.mp hitem, hfresh, hadmission, result, h⟩

lemma commitAck_ok {db db' : Db} {deviceId : String} {item : Item} {who : AckIdentity} {ack : Ack}
    {admission : Admission} {now : Nat} {rollout : List RolloutEffect} {result : AckResult}
    (h : commitAck db deviceId item who ack admission now rollout = .ok (db', result)) :
    ∃ events pointed, db.events.insert ⟨item.id, who.event, who.key, deviceId, ack.releaseId, now⟩ = some events ∧
      recordDisplay (db.acked events item who.event ack admission now) who.event item admission = .ok pointed ∧
      recordRolloutAck now pointed rollout = .ok db' := by
  obtain ⟨events, hevents, h⟩ := bind_eq_ok.mp h
  obtain ⟨pointed, hpointed, h⟩ := bind_eq_ok.mp h
  obtain ⟨finished, hfinished, h⟩ := bind_eq_ok.mp h
  obtain ⟨rfl, -⟩ := Prod.mk.inj (Except.ok.inj h)
  exact ⟨events, pointed, orError_eq_ok.mp hevents, hpointed, hfinished⟩

lemma recordDisplay_cases {db db' : Db} {event : Event} {item : Item} {admission : Admission}
    (h : recordDisplay db event item admission = .ok db') :
    db' = db ∨ db' = db.setHead admission.head.deviceId (showRelease item.releaseId admission.eventAt) := by
  unfold recordDisplay advancePointer at h
  split at h
  · simp only at h
    split at h
    · split at h
      · exact .inr (Except.ok.inj h).symm
      split at h
      · cases h
      · exact .inl (Except.ok.inj h).symm
    · exact .inr (Except.ok.inj h).symm
  · exact .inl (Except.ok.inj h).symm

lemma recordDisplay_items {db db' : Db} {event : Event} {item : Item} {admission : Admission}
    (h : recordDisplay db event item admission = .ok db') : db'.items = db.items := by
  obtain rfl | rfl := recordDisplay_cases h <;> rfl

lemma recordDisplay_events {db db' : Db} {event : Event} {item : Item} {admission : Admission}
    (h : recordDisplay db event item admission = .ok db') : db'.events = db.events := by
  obtain rfl | rfl := recordDisplay_cases h <;> rfl

lemma parseAck_event {ack : Ack} {who : AckIdentity} (h : parseAck ack = .ok who) : ack.event = some who.event := by
  obtain ⟨event, hevent, h⟩ := bind_eq_ok.mp h
  obtain ⟨-, -, h⟩ := bind_eq_ok.mp h
  obtain ⟨version, -, h⟩ := bind_eq_ok.mp h
  obtain rfl := Except.ok.inj h
  exact orError_eq_ok.mp hevent

/-- What the checks established. -/
structure Admitted (db : Db) (deviceId : String) (item : Item) (who : AckIdentity) (ack : Ack) (now : Nat)
    (admission : Admission) : Prop where
  head : db.heads.find deviceId = some admission.head
  delayed : admission.delayed = delayedTerminal db item who.event ack now
  version : versionAccepted db item admission.head who ack now = true
  transition : admission.delayed = true ∨ who.event ∈ item.state.status.allowedEvents
  time : eventTime db item ack admission.delayed now = .ok admission.eventAt

lemma admit_ok {db : Db} {deviceId : String} {item : Item} {who : AckIdentity} {ack : Ack} {now : Nat}
    {admission : Admission} (h : admitAck db deviceId item who ack now = .ok admission) :
    Admitted db deviceId item who ack now admission := by
  obtain ⟨head, hhead, h⟩ := bind_eq_ok.mp h
  obtain ⟨_, hversion, h⟩ := bind_eq_ok.mp h
  obtain ⟨_, htransition, h⟩ := bind_eq_ok.mp h
  obtain ⟨eventAt, htime, h⟩ := bind_eq_ok.mp h
  obtain rfl := Except.ok.inj h
  exact ⟨orError_eq_ok.mp hhead, rfl, require_eq_ok.mp hversion,
    by simpa using require_eq_ok.mp htransition, htime⟩

lemma jsonInt_ok {value : JsonField} {errorPrefix field : String} {minimum maximum n : Int}
    (h : jsonInt value errorPrefix field minimum maximum = .ok n) : value = .int n := by
  unfold jsonInt at h
  cases value with
  | missing | notInt => cases h
  | int m =>
    simp only at h
    split at h
    · cases h
    split at h
    · cases h
    · rw [Except.ok.inj h]

/-- The display time of an ACK: the server's clock unless the device sent an epoch, and only a delayed ACK
may send one. -/
lemma eventTime_ok {db : Db} {item : Item} {ack : Ack} {delayed : Bool} {now eventAt : Nat}
    (h : eventTime db item ack delayed now = .ok eventAt) :
    (ack.eventEpoch = .missing ∧ eventAt = now) ∨
      (delayed = true ∧ ∃ epoch : Int, ack.eventEpoch = .int epoch ∧ eventAt = epoch.toNat * 1000000) := by
  obtain ⟨_, hallowed, h⟩ := bind_eq_ok.mp h
  rw [require_eq_ok] at hallowed
  cases delayed with
  | false =>
    obtain rfl := Except.ok.inj h
    exact .inl ⟨by simpa using hallowed, rfl⟩
  | true =>
    obtain ⟨slot, -, h⟩ := bind_eq_ok.mp h
    split at h
    · next hmissing =>
      obtain rfl := Except.ok.inj h
      exact .inl ⟨hmissing, rfl⟩
    · obtain ⟨epoch, hepoch, h⟩ := bind_eq_ok.mp h
      obtain ⟨-, -, h⟩ := bind_eq_ok.mp h
      obtain rfl := Except.ok.inj h
      exact .inr ⟨rfl, epoch, jsonInt_ok hepoch, rfl⟩

/-! ### Rollouts -/

section Rollouts

variable {R : Item → Item → Prop} {H : Head → Head → Prop}

/-- Rows after a rollout's writes: active rows may be cancelled, priorities may rise. -/
lemma recordRolloutAck_follows (hrefl : ∀ item, R item item) (htrans : ∀ a b c, R a b → R b c → R a c) {now : Nat}
    (hcancel : ∀ row, row.state.status.active = true → R row { row with state := cancelState now row.state })
    (hraise : ∀ row priority deadline, R row { row with state := { row.state with
      priority := max row.state.priority priority, ackDeadline := row.state.ackDeadline <|> some deadline,
      updatedAt := now } })
    {rollout : List RolloutEffect} {db db' : Db} (h : recordRolloutAck now db rollout = .ok db') :
    Table.Follows R db.items db'.items := by
  induction rollout generalizing db with
  | nil =>
    obtain rfl := Except.ok.inj h
    exact Table.Follows.refl hrefl _
  | cons effect rest ih =>
    obtain ⟨next, hnext, hrest⟩ := bind_eq_ok.mp h
    refine Table.Follows.trans htrans ?_ (ih hrest)
    cases effect with
    | cancel itemIds =>
      obtain rfl := Except.ok.inj hnext
      apply Db.setItems_follows hrefl
      intro row _ hmatch
      exact hcancel row (by simp_all)
    | deliver deviceId releaseId priority deadline drawnId =>
      obtain ⟨⟨delivered, _⟩, hdelivered, hreturn⟩ := bind_eq_ok.mp hnext
      obtain rfl := Except.ok.inj hreturn
      obtain ⟨-, -, hdelivered⟩ := bind_eq_ok.mp hdelivered
      simp only at hdelivered
      split at hdelivered
      · obtain ⟨rfl, -⟩ := Prod.mk.inj (Except.ok.inj hdelivered)
        rw [← Db.ensureHead_items db deviceId 3]
        exact Db.setItems_follows hrefl fun row _ _ => hraise row priority deadline
      · obtain ⟨inserted, hinserted, hdelivered⟩ := bind_eq_ok.mp hdelivered
        obtain ⟨rfl, -⟩ := Prod.mk.inj (Except.ok.inj hdelivered)
        obtain ⟨items, hitems, rfl⟩ := Db.insertItem_ok hinserted
        rw [← Db.ensureHead_items db deviceId 3]
        exact Table.Follows.insert hrefl hitems

/-- Heads after a rollout's writes: a delivery moves the version and the next release, nothing else. -/
lemma recordRolloutAck_heads (hrefl : ∀ head, H head head) (htrans : ∀ a b c, H a b → H b c → H a c)
    (hbump : ∀ (head : Head) (next : Option ReleaseId), H head { head with state := { head.state with
      queueVersion := head.state.queueVersion + 1, nextQueuedReleaseId := next } })
    {now : Nat} {rollout : List RolloutEffect} {db db' : Db} (h : recordRolloutAck now db rollout = .ok db') :
    Table.Follows H db.heads db'.heads := by
  induction rollout generalizing db with
  | nil =>
    obtain rfl := Except.ok.inj h
    exact Table.Follows.refl hrefl _
  | cons effect rest ih =>
    obtain ⟨next, hnext, hrest⟩ := bind_eq_ok.mp h
    refine Table.Follows.trans htrans ?_ (ih hrest)
    cases effect with
    | cancel itemIds =>
      obtain rfl := Except.ok.inj hnext
      exact Table.Follows.refl hrefl _
    | deliver deviceId releaseId priority deadline drawnId =>
      obtain ⟨⟨delivered, _⟩, hdelivered, hreturn⟩ := bind_eq_ok.mp hnext
      obtain rfl := Except.ok.inj hreturn
      obtain ⟨-, -, hdelivered⟩ := bind_eq_ok.mp hdelivered
      have hopened := Db.ensureHead_follows hrefl db deviceId 3
      simp only at hdelivered
      split at hdelivered
      · obtain ⟨rfl, -⟩ := Prod.mk.inj (Except.ok.inj hdelivered)
        exact hopened
      · obtain ⟨inserted, hinserted, hdelivered⟩ := bind_eq_ok.mp hdelivered
        obtain ⟨rfl, -⟩ := Prod.mk.inj (Except.ok.inj hdelivered)
        obtain ⟨items, hitems, rfl⟩ := Db.insertItem_ok hinserted
        apply hopened.trans htrans
        change Table.Follows H ({ db.ensureHead deviceId 3 with items } : Db).heads _
        exact Db.setHead_follows hrefl fun head _ _ => hbump head _

end Rollouts

end InkTime.Queue
