import InkTime.Rollouts.Turns

/-!
# Calls as turns

Every call but an edit of a device or a release moves the queue and then takes one turn for each campaign it
works on. A campaign has at most one turn, and the turns of the others leave its rows alone.
-/

namespace InkTime.Rollouts

open Checked
open Queue (ReleaseId Release Device Item)

variable {db db' db'' : Db} {rolloutId : String} {settles : Target → TargetStatus → Prop}

/-! ### Campaigns side by side -/

/-- Nothing of the campaign changes. -/
structure Untouched (rolloutId : String) (db db' : Db) : Prop where
  queue : QueueKept db.queue db'.queue
  status : statusOf db' rolloutId = statusOf db rolloutId
  targets : ∀ target, target.rolloutId = rolloutId → (target ∈ db'.targets ↔ target ∈ db.targets)

lemma Untouched.refl (db : Db) : Untouched rolloutId db db := ⟨QueueKept.refl _, rfl, fun _ _ => Iff.rfl⟩

lemma Untouched.trans (h : Untouched rolloutId db db') (h' : Untouched rolloutId db' db'') : Untouched rolloutId db db'' where
  queue := h.queue.trans h'.queue
  status := h'.status.trans h.status
  targets := fun target hid => (h'.targets target hid).trans (h.targets target hid)

/-- Rows of other campaigns neither change nor appear. -/
lemma Untouched.of_grows {other : String} {R : Target → Target → Prop} {fresh : Target → Prop} (hne : other ≠ rolloutId)
    (hframe : Frame rolloutId db db') (hrows : Table.Grows R fresh db.targets db'.targets)
    (hR : ∀ before after, before.rolloutId ≠ rolloutId → R before after → after = before)
    (hfresh : ∀ target, fresh target → target.rolloutId = rolloutId) : Untouched other db db' := by
  refine ⟨hframe.queue, hframe.others other hne, ?_⟩
  intro target hid
  have hother : target.rolloutId ≠ rolloutId := by rw [hid]; exact hne
  constructor
  · intro htarget
    obtain hnew | ⟨before, hbefore, hkey, hrow⟩ := hrows.back htarget
    · exact absurd (hfresh target hnew) hother
    · obtain rfl := hR before target (by rw [(Prod.mk.inj hkey).1]; exact hother) hrow
      exact hbefore
  · intro htarget
    obtain ⟨after, hafter, -, hrow⟩ := hrows.follows target htarget
    rwa [hR target after hother hrow] at hafter

lemma Calm.untouched {other : String} (hne : other ≠ rolloutId) (h : Calm settles rolloutId db db') : Untouched other db db' := by
  cases h with
  | proceed frame targets _ => exact ⟨frame.queue, frame.others other hne, fun target _ => by rw [targets]⟩
  | settle frame targets _ =>
    refine Untouched.of_grows hne frame targets ?_ fun _ hnew => hnew.elim
    rintro before after hother (heq | ⟨hid, -⟩)
    · exact heq
    · exact absurd hid hother
  | skip frame _ targets _ => exact Untouched.of_grows hne frame targets (fun _ _ _ heq => heq.symm) fun _ hnew => hnew.rollout

lemma Decisive.untouched {other : String} (hne : other ≠ rolloutId) (h : Decisive rolloutId db db') : Untouched other db db' := by
  cases h with
  | place frame targets _ _ => exact Untouched.of_grows hne frame targets (fun _ _ _ heq => heq.symm) fun _ hnew => hnew.rollout
  | rollBack frame _ targets _ =>
    refine Untouched.of_grows hne frame targets ?_ fun _ hnew => hnew.elim
    rintro before after hother (⟨-, heq⟩ | ⟨hid, -⟩)
    · exact heq
    · exact absurd hid hother
  | finish frame targets _ _ _ => exact ⟨frame.queue, frame.others other hne, fun target _ => by rw [targets]⟩

lemma Turn.untouched {other : String} (hne : other ≠ rolloutId) (h : Turn settles rolloutId db db') : Untouched other db db' := by
  obtain ⟨middle, hcalm, hlast⟩ := h
  have hmiddle : Untouched other db middle := by
    clear hlast
    induction hcalm with
    | refl => exact Untouched.refl db
    | tail _ hlast ih => exact ih.trans (hlast.untouched hne)
  obtain rfl | hdecisive := hlast
  · exact hmiddle
  · exact hmiddle.trans (hdecisive.untouched hne)

/-- A campaign has at most one of the turns. -/
lemma Turns.focus {rolloutIds : List String} (h : Turns settles rolloutIds db db') (hdistinct : rolloutIds.Nodup)
    (rolloutId : String) :
    ∃ before after, Untouched rolloutId db before ∧ Turn settles rolloutId before after ∧ Untouched rolloutId after db' := by
  have houtside : ∀ {rest : List String} {db db' : Db}, Turns settles rest db db' → rolloutId ∉ rest → Untouched rolloutId db db' := by
    intro rest db db' hturns hnot
    induction hturns with
    | nil db => exact Untouched.refl db
    | cons turn _ ih =>
      have hfirst := turn.untouched (List.ne_of_not_mem_cons hnot)
      exact hfirst.trans (ih (List.not_mem_of_not_mem_cons hnot))
  induction h with
  | nil db => exact ⟨db, db, Untouched.refl db, Turn.refl db, Untouched.refl db⟩
  | @cons first rest db middle db' turn others ih =>
    obtain ⟨hnot, hdistinct⟩ := List.nodup_cons.mp hdistinct
    by_cases hfirst : rolloutId = first
    · subst hfirst
      exact ⟨db, middle, Untouched.refl db, turn, houtside others hnot⟩
    · obtain ⟨before, after, hbefore, hturn, hafter⟩ := ih hdistinct
      exact ⟨before, after, (turn.untouched hfirst).trans hbefore, hturn, hafter⟩

/-! ### ACKs -/

/-- What an ACK on the queue row may set. -/
def SettledBy (itemId : String) (event : Queue.Event) (target : Target) (status : TargetStatus) : Prop :=
  target.state.queueItemId = some itemId ∧ status = targetStatus event

/-- An ACK on a row settles the target, and then goes on as the state of the campaign asks. -/
lemma recordTarget_turn {acked : Acked} {now : Nat} {drawn : Drawn} {status : CampaignStatus} {target : Target}
    (hknown : DevicesKnown db) (hstatus : statusOf db rolloutId = some status) (htarget : target ∈ db.targets)
    (hkey : target.key = (rolloutId, acked.deviceId)) (hitem : target.state.queueItemId = some acked.itemId)
    (h : recordTarget db acked now drawn rolloutId status = .ok db') :
    Turn (SettledBy acked.itemId acked.event) rolloutId db db' := by
  unfold recordTarget at h
  split at h
  · obtain rfl := Except.ok.inj h
    exact Turn.refl db
  simp only at h
  have hsettle : Calm (SettledBy acked.itemId acked.event) rolloutId db
      (db.setTargets (isTarget rolloutId acked.deviceId) fun state =>
        { state with status := targetStatus acked.event, lastErrorCode := acked.errorCode, updatedAt := now }) := by
    have hkeep : ∀ other : Target, ({ other with state := { other.state with
      status := targetStatus acked.event, lastErrorCode := acked.errorCode, updatedAt := now } } : Target).key = other.key :=
      fun _ => rfl
    refine .settle (Frame.of_campaigns (QueueKept.refl _) rfl) (Table.Grows.update hkeep ?_ fun _ _ _ => .inl rfl) rfl
    intro other hother hmatch
    simp only [isTarget, Bool.and_eq_true, beq_iff_eq] at hmatch
    obtain rfl := Table.eq_of_key_eq hother htarget ((Prod.ext hmatch.1 hmatch.2).trans hkey.symm)
    exact .inr ⟨hmatch.1, ⟨rfl, rfl⟩, hitem, rfl⟩
  have hknown' := hknown.calm hsettle
  replace hstatus : statusOf (db.setTargets (isTarget rolloutId acked.deviceId) fun state =>
    { state with status := targetStatus acked.event, lastErrorCode := acked.errorCode, updatedAt := now }) rolloutId = some status :=
    hstatus
  generalize db.setTargets (isTarget rolloutId acked.deviceId) (fun state =>
    { state with status := targetStatus acked.event, lastErrorCode := acked.errorCode, updatedAt := now }) = updated
    at h hsettle hknown' hstatus
  apply Turn.head (.single hsettle)
  obtain ⟨found, hfound, hfound_status⟩ := Option.map_eq_some_iff.mp hstatus
  split at h
  · next hrolling =>
    subst hrolling
    split at h
    · obtain rfl := Except.ok.inj h
      apply Turn.calm
      apply Calm.setCampaign
      rw [hstatus, statusOf_setCampaign, if_pos rfl, hfound]
      exact .fails
    split at h
    · next hall =>
      obtain rfl := Except.ok.inj h
      refine ⟨updated, .refl, .inr (.finish (Frame.setCampaign _) rfl hstatus ?_ ?_)⟩
      · rw [statusOf_setCampaign, if_pos rfl, hfound]
        rfl
      · intro other hother hid
        have hdone := List.all_eq_true.mp hall.2 other (mem_targetsOf.mpr ⟨hother, hid⟩)
        simpa using hdone
    · obtain rfl := Except.ok.inj h
      exact Turn.refl updated
  · obtain ⟨⟨next, advanced⟩, hnext, hreturn⟩ := bind_eq_ok.mp h
    obtain rfl := Except.ok.inj hreturn
    exact evaluateRollout_turn hknown' hnext

/-- The rows of the ACK, as they were read before the loop. -/
def ReadRow (db : Db) (acked : Acked) (row : String × CampaignStatus) : Prop :=
  statusOf db row.1 = some row.2 ∧ ∃ target ∈ db.targets, target.key = (row.1, acked.deviceId) ∧
    target.state.queueItemId = some acked.itemId

lemma ReadRow.untouched {acked : Acked} {row : String × CampaignStatus} (h : ReadRow db acked row)
    (huntouched : Untouched row.1 db db') : ReadRow db' acked row := by
  obtain ⟨hstatus, target, htarget, hkey, hitem⟩ := h
  exact ⟨huntouched.status.trans hstatus, target, (huntouched.targets target (Prod.mk.inj hkey).1).mpr htarget, hkey, hitem⟩

lemma recordTargets_turns {acked : Acked} {now : Nat} {drawn : Drawn} {rows : List (String × CampaignStatus)}
    (hknown : DevicesKnown db) (hdistinct : (rows.map Prod.fst).Nodup) (hrows : ∀ row ∈ rows, ReadRow db acked row)
    (h : recordTargets acked now drawn db rows = .ok db') :
    Turns (SettledBy acked.itemId acked.event) (rows.map Prod.fst) db db' := by
  induction rows generalizing db with
  | nil =>
    obtain rfl := Except.ok.inj h
    exact .nil db
  | cons row rest ih =>
    obtain ⟨next, hnext, hrest⟩ := bind_eq_ok.mp h
    obtain ⟨hstatus, target, htarget, hkey, hitem⟩ := hrows row List.mem_cons_self
    obtain ⟨hnot, hdistinct⟩ := List.nodup_cons.mp hdistinct
    have hturn := recordTarget_turn hknown hstatus htarget hkey hitem hnext
    refine .cons hturn (ih (hknown.turn hturn) hdistinct ?_ hrest)
    intro other hother
    apply (hrows other (List.mem_cons_of_mem _ hother)).untouched
    apply hturn.untouched
    intro heq
    exact hnot (List.mem_map.mpr ⟨other, hother, heq⟩)

/-- A target's queue row is one of its device. -/
def ItemsKnown (db : Db) : Prop :=
  ∀ target ∈ db.targets, ∀ itemId, target.state.queueItemId = some itemId →
    ∃ releaseId, ItemAt db.queue itemId target.deviceId releaseId

lemma ackedCampaigns_rows (db : Db) (itemId : String) :
    (ackedCampaigns db itemId).map Prod.fst = (db.targets.rows.filter fun target =>
      target.state.queueItemId == some itemId && (statusOf db target.rolloutId).isSome).map Target.rolloutId := by
  unfold ackedCampaigns
  induction db.targets.rows with
  | nil => rfl
  | cons target rest ih =>
    rw [List.filter_cons, List.filter_cons]
    cases hitem : target.state.queueItemId == some itemId with
    | false => simpa using ih
    | true =>
      cases hstatus : statusOf db target.rolloutId with
      | none => simpa [hstatus] using ih
      | some status => simpa [hstatus] using ih

/-- A campaign has one target on a queue row: the row of its device. -/
lemma ackedCampaigns_distinct {item : Item} (hitems : ItemsKnown db) (hitem : item ∈ db.queue.items) :
    ((ackedCampaigns db item.id).map Prod.fst).Nodup := by
  rw [ackedCampaigns_rows]
  apply List.Nodup.of_map fun rolloutId => (rolloutId, item.deviceId)
  rw [List.map_map]
  have hkeys : ∀ target ∈ (db.targets.rows.filter fun target =>
      target.state.queueItemId == some item.id && (statusOf db target.rolloutId).isSome),
      ((fun rolloutId => (rolloutId, item.deviceId)) ∘ Target.rolloutId) target = target.key := by
    intro target htarget
    obtain ⟨hmem, hmatch⟩ := List.mem_filter.mp htarget
    simp only [Bool.and_eq_true, beq_iff_eq] at hmatch
    obtain ⟨releaseId, other, hother, hid, hdevice, -⟩ := hitems target hmem item.id hmatch.1
    obtain rfl := Table.eq_of_key_eq hother hitem hid
    exact Prod.ext rfl hdevice
  rw [List.map_congr_left hkeys]
  exact db.targets.distinct.sublist (List.filter_sublist.map Target.key)

lemma ackedCampaigns_read {item : Item} (acked : Acked) (hitems : ItemsKnown db) (hitem : item ∈ db.queue.items)
    (hid : item.id = acked.itemId) (hdevice : item.deviceId = acked.deviceId) :
    ∀ row ∈ ackedCampaigns db acked.itemId, ReadRow db acked row := by
  intro row hrow
  obtain ⟨target, htarget, hstatus⟩ := List.mem_filterMap.mp hrow
  obtain ⟨hmem, hmatch⟩ := List.mem_filter.mp htarget
  obtain ⟨status, hfound, rfl⟩ := Option.map_eq_some_iff.mp hstatus
  rw [beq_iff_eq] at hmatch
  obtain ⟨releaseId, other, hother, hother_id, hother_device, -⟩ := hitems target hmem _ hmatch
  obtain rfl := Table.eq_of_key_eq hother hitem (hother_id.trans hid.symm)
  exact ⟨hfound, target, hmem, Prod.ext rfl (hother_device.symm.trans hdevice), hmatch⟩

/-- The ACK of this call was stored: for this queue row, with this event. -/
structure Accepts (db : Db) (op : Op) (item : Item) (event : Queue.Event) : Prop where
  exists_call : ∃ deviceId ack now drawn queue delayed, op = .queueAck deviceId ack now drawn ∧
    Queue.queueAck db.queue deviceId ack now [] = .ok (queue, .committed delayed) ∧
    Queue.ackedItem db.queue deviceId ack = some item ∧ ack.event = some event

/-- What the ACK of a call may set. -/
def SettledIn (db : Db) (op : Op) (target : Target) (status : TargetStatus) : Prop :=
  ∃ item event, Accepts db op item event ∧ SettledBy item.id event target status

/-- The queue moves, and then the campaigns take their turns. -/
def Call (settles : Target → TargetStatus → Prop) (db db' : Db) : Prop :=
  ∃ queue rolloutIds, QueueKept db.queue queue ∧ rolloutIds.Nodup ∧ Turns settles rolloutIds { db with queue } db'

lemma Call.turn (h : Turn settles rolloutId db db') : Call settles db db' :=
  ⟨db.queue, [rolloutId], QueueKept.refl _, List.nodup_singleton _, .cons h (.nil db')⟩

lemma Call.refl (db : Db) : Call settles db db := ⟨db.queue, [], QueueKept.refl _, List.nodup_nil, .nil db⟩

/-- Seen from one campaign, a call is its own turn between moves that leave it alone. -/
lemma Call.focus (h : Call settles db db') (rolloutId : String) :
    ∃ before after, Untouched rolloutId db before ∧ Turn settles rolloutId before after ∧ Untouched rolloutId after db' := by
  obtain ⟨queue, rolloutIds, hkept, hdistinct, hturns⟩ := h
  obtain ⟨before, after, hbefore, hturn, hafter⟩ := hturns.focus hdistinct rolloutId
  have hqueue : Untouched rolloutId db { db with queue } := ⟨hkept, rfl, fun _ _ => Iff.rfl⟩
  exact ⟨before, after, hqueue.trans hbefore, hturn, hafter⟩

lemma Turns.mono {settles' : Target → TargetStatus → Prop} (hmono : ∀ target status, settles target status → settles' target status)
    {rolloutIds : List String} (h : Turns settles rolloutIds db db') : Turns settles' rolloutIds db db' := by
  have hcalm : ∀ {rolloutId : String} {db db' : Db}, Calm settles rolloutId db db' → Calm settles' rolloutId db db' := by
    intro rolloutId db db' h
    cases h with
    | proceed frame targets status => exact .proceed frame targets status
    | settle frame targets status =>
      refine .settle frame (targets.mono ?_ fun _ _ hnew => hnew) status
      rintro before - after - - (heq | ⟨hid, hplace, hsettles⟩)
      · exact .inl heq
      · exact .inr ⟨hid, hplace, hmono _ _ hsettles⟩
    | skip frame known targets status => exact .skip frame known targets status
  induction h with
  | nil db => exact .nil db
  | cons turn _ ih =>
    obtain ⟨middle, hmiddle, hlast⟩ := turn
    exact .cons ⟨middle, Relation.ReflTransGen.mono (fun _ _ => hcalm) _ _ hmiddle, hlast⟩ ih

/-- The last step of an ACK is a sequence of turns that settle its targets. -/
lemma queueAck_call {deviceId : String} {ack : Queue.Ack} {now : Nat} {drawn : Drawn} (hknown : DevicesKnown db)
    (hitems : ItemsKnown db) (h : queueAck db deviceId ack now drawn = .ok db') :
    Call (SettledIn db (.queueAck deviceId ack now drawn)) db db' := by
  obtain ⟨⟨queue, result⟩, hqueue, h⟩ := bind_eq_ok.mp h
  rw [onQueue_eq_ok] at hqueue
  have hkept := queueAck_kept hqueue
  have hquiet : Call (SettledIn db (.queueAck deviceId ack now drawn)) db { db with queue } :=
    ⟨queue, [], hkept, List.nodup_nil, .nil _⟩
  obtain ⟨rfl, rfl⟩ | ⟨item, who, admission, rfl, hcommit⟩ := Queue.queueAck_cases hqueue
  · obtain rfl := Except.ok.inj h
    exact hquiet
  have hevent := Queue.parseAck_event hcommit.parsed
  simp only [hevent] at h
  obtain ⟨hitem, hid, hdevice⟩ := Queue.ackedItem_some hcommit.named
  have haccepts : Accepts db (.queueAck deviceId ack now drawn) item who.event :=
    ⟨deviceId, ack, now, drawn, queue, _, rfl, hqueue, hcommit.named, hevent⟩
  obtain ⟨after, hafter, hafter_id, hsame⟩ := hkept.items item hitem
  have hitems' : ItemsKnown { db with queue } := by
    intro target htarget itemId hplaced
    obtain ⟨releaseId, hat⟩ := hitems target htarget itemId hplaced
    exact ⟨releaseId, hat.kept hkept.items⟩
  have hknown' : DevicesKnown { db with queue } := by
    intro target htarget
    rw [hkept.devices]
    exact hknown target htarget
  have hacked : after.id = ack.itemId := hafter_id.trans hid
  have hdistinct := ackedCampaigns_distinct hitems' hafter
  rw [hacked] at hdistinct
  have hread : ∀ row ∈ ackedCampaigns { db with queue } ack.itemId,
      ReadRow { db with queue } ⟨ack.itemId, deviceId, who.event, Queue.storedError ack⟩ row :=
    ackedCampaigns_read ⟨ack.itemId, deviceId, who.event, Queue.storedError ack⟩ hitems' hafter hacked (hsame.1.trans hdevice)
  have hturns := recordTargets_turns hknown' hdistinct hread h
  refine ⟨queue, _, hkept, hdistinct, hturns.mono ?_⟩
  intro target status hsettled
  exact ⟨item, who.event, haccepts, by rw [hid]; exact hsettled⟩

/-! ### Calls on campaigns -/

lemma createRollout_call {releaseId : ReleaseId} {stages : List StageRequest} {now : Nat}
    (h : createRollout db rolloutId releaseId stages now = .ok db') : Call settles db db' := by
  obtain ⟨-, -, h⟩ := bind_eq_ok.mp h
  obtain ⟨-, -, h⟩ := bind_eq_ok.mp h
  obtain ⟨campaigns, hcampaigns, h⟩ := bind_eq_ok.mp h
  obtain ⟨added, -, hreturn⟩ := bind_eq_ok.mp h
  obtain rfl := Except.ok.inj hreturn
  rw [orError_eq_ok] at hcampaigns
  have hframe : Frame rolloutId db { db with campaigns, stages := added } := by
    refine ⟨QueueKept.refl _, ?_⟩
    intro other hne
    rw [statusOf, statusOf, Table.find_insert_ne hcampaigns (Ne.symm hne)]
  have hbefore : db.campaigns.find rolloutId = none := by
    cases hfound : db.campaigns.find rolloutId with
    | none => rfl
    | some campaign =>
      obtain ⟨hmem, hid⟩ := Table.find_eq_some hfound
      exact absurd hid (Table.insert_fresh hcampaigns hmem)
  have hafter := Table.find_of_mem ((Table.mem_insert hcampaigns).mpr (.inr rfl))
  refine Call.turn (Turn.calm (.proceed hframe rfl ?_))
  rw [statusOf, statusOf, hbefore, hafter]
  exact .opens

lemma startRollout_call {now : Nat} {drawn : Drawn} (h : startRollout db rolloutId now drawn = .ok db') : Call settles db db' := by
  obtain ⟨campaign, hcampaign, h⟩ := bind_eq_ok.mp h
  obtain ⟨_, hdraft, h⟩ := bind_eq_ok.mp h
  obtain ⟨stage, -, h⟩ := bind_eq_ok.mp h
  obtain ⟨⟨allocated, refusal⟩, hallocated, h⟩ := bind_eq_ok.mp h
  rw [orError_eq_ok] at hcampaign
  rw [require_eq_ok, beq_iff_eq] at hdraft
  obtain rfl : campaign.id = rolloutId := (Table.find_eq_some hcampaign).2
  have hstatus := statusOf_of_find hcampaign
  rw [hdraft] at hstatus
  obtain ⟨skipped, hcalm, hsame, hresult⟩ := @allocateStage_ok _ _ settles _ _ _ _ _ ⟨_, hstatus, by decide⟩ hallocated
  obtain ⟨hrefused, rfl⟩ | ⟨rfl, hadded⟩ := hresult
  · obtain ⟨error, rfl⟩ := Option.isSome_iff_exists.mp hrefused
    cases h
  · obtain rfl := Except.ok.inj h
    refine Call.turn ⟨skipped, hcalm, .inr (hadded.decisive ?_ ⟨rfl, by decide⟩)⟩
    exact ⟨.draft, hsame.trans hstatus, .inl rfl, by decide⟩

lemma evaluateAll_turns {now : Nat} {drawn : Drawn} {rolloutIds : List String} (hknown : DevicesKnown db)
    (h : evaluateAll now drawn db rolloutIds = .ok db') : Turns settles rolloutIds db db' := by
  induction rolloutIds generalizing db with
  | nil =>
    obtain rfl := Except.ok.inj h
    exact .nil db
  | cons rolloutId rest ih =>
    obtain ⟨⟨next, advanced⟩, hnext, hrest⟩ := bind_eq_ok.mp h
    have hturn : Turn settles rolloutId db next := evaluateRollout_turn hknown hnext
    exact .cons hturn (ih (hknown.turn hturn) hrest)

lemma evaluateRollouts_call {now : Nat} {limit : Int} {drawn : Drawn} (hknown : DevicesKnown db)
    (h : evaluateRollouts db now limit drawn = .ok db') : Call settles db db' := by
  refine ⟨db.queue, _, QueueKept.refl _, ?_, evaluateAll_turns hknown h⟩
  have hfiltered : ((db.campaigns.rows.filter fun campaign => campaign.state.status.evaluated).map Campaign.id).Nodup :=
    db.campaigns.distinct.sublist (List.filter_sublist.map Campaign.id)
  have hsorted := ((List.perm_insertionSort evaluatedBefore
    (db.campaigns.rows.filter fun campaign => campaign.state.status.evaluated)).map Campaign.id).nodup_iff.mpr hfiltered
  exact hsorted.sublist ((List.take_sublist _ _).map Campaign.id)

lemma resumeClocks_kept (rolloutId : String) (paused : Nat) : QueueKept db.queue (resumeClocks db rolloutId paused).queue := by
  unfold resumeClocks
  dsimp only
  exact setItems_kept _ _

lemma setTransition_calm {campaign : Campaign} {target : CampaignStatus} {now : Nat}
    (hcampaign : db.campaigns.find campaign.id = some campaign)
    (hstatus : CalmStatus (some campaign.state.status) (some target)) :
    Calm settles campaign.id db (setTransition db campaign target now) := by
  -- the clocks of the stage and the queue may move, the status does
  have hset : ∀ moved : Db, QueueKept db.queue moved.queue → moved.campaigns = db.campaigns → moved.targets = db.targets →
      ∀ set : CampaignState → CampaignState, (∀ state, (set state).status = target) →
        Calm settles campaign.id db (moved.setCampaign campaign.id set) := by
    intro moved hqueue hcampaigns htargets set htarget
    refine .proceed ((Frame.of_campaigns hqueue hcampaigns).trans (Frame.setCampaign _)) htargets ?_
    rw [statusOf_setCampaign, if_pos rfl, hcampaigns, hcampaign, Option.map_some, htarget, statusOf_of_find hcampaign]
    exact hstatus
  unfold setTransition
  split
  · exact hset db (QueueKept.refl _) rfl rfl _ fun _ => rfl
  split
  · exact hset _ (resumeClocks_kept _ _) rfl rfl _ fun _ => rfl
  · exact hset db (QueueKept.refl _) rfl rfl _ fun _ => rfl

lemma transitionRollout_call {action : Action} {reason : String} {now : Nat} {drawn : Drawn} {refusal : Option RolloutError}
    (hknown : DevicesKnown db) (h : transitionRollout db rolloutId action.target reason now drawn = .ok (db', refusal)) :
    Call settles db db' := by
  obtain ⟨campaign, hcampaign, h⟩ := bind_eq_ok.mp h
  obtain ⟨_, hnext, h⟩ := bind_eq_ok.mp h
  rw [orError_eq_ok] at hcampaign
  rw [require_eq_ok, List.contains_iff_mem] at hnext
  obtain rfl : campaign.id = rolloutId := (Table.find_eq_some hcampaign).2
  split at h
  · next hrollback =>
    obtain ⟨rolled, hrolled, hreturn⟩ := bind_eq_ok.mp h
    obtain ⟨rfl, -⟩ := Prod.mk.inj (Except.ok.inj hreturn)
    have hprogress : inProgress (statusOf db campaign.id) = true := by
      rw [statusOf_of_find hcampaign]
      cases action <;> cases hcurrent : campaign.state.status <;>
        simp [hcurrent, CampaignStatus.next, Action.target] at hnext hrollback ⊢ <;> rfl
    exact Call.turn (startRollback_turn hknown hprogress hrolled)
  split at h
  · obtain ⟨⟨evaluated, advanced⟩, hevaluated, hreturn⟩ := bind_eq_ok.mp h
    obtain ⟨rfl, -⟩ := Prod.mk.inj (Except.ok.inj hreturn)
    exact Call.turn (evaluateRollout_turn hknown hevaluated)
  · next hrollback hexpand =>
    obtain ⟨rfl, -⟩ := Prod.mk.inj (Except.ok.inj h)
    refine Call.turn (Turn.calm (setTransition_calm hcampaign ?_))
    -- only a running campaign that is not rolling back can be paused, resumed or expanded
    cases action <;> cases hcurrent : campaign.state.status <;>
      simp [hcurrent, CampaignStatus.next, Action.target] at hnext hrollback hexpand ⊢ <;>
      exact .runs ⟨rfl, by decide⟩ (.inl ⟨rfl, by decide⟩)

end InkTime.Rollouts
