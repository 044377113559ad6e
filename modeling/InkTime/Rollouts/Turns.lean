import InkTime.Rollouts.Moves

/-!
# Every call is a sequence of turns

One lemma for each rollout function says which turn it takes on its campaign; the calls are sequences of these.
-/

namespace InkTime.Rollouts

open Checked
open Queue (ReleaseId Release Device Item)

variable {db db' db'' : Db} {rolloutId : String} {settles : Target → TargetStatus → Prop}

/-! ### Statements -/

lemma statusOf_setCampaign (db : Db) (rolloutId : String) (set : CampaignState → CampaignState) (other : String) :
    statusOf (db.setCampaign rolloutId set) other =
      if other = rolloutId then (db.campaigns.find rolloutId).map fun campaign => (set campaign.state).status
      else statusOf db other := by
  unfold statusOf Db.setCampaign
  rw [Table.find_update, Option.map_map]
  by_cases h : other = rolloutId
  · subst h
    rw [if_pos rfl]
    cases hfound : db.campaigns.find other with
    | none => rfl
    | some campaign => simp [Table.revise, (Table.find_eq_some hfound).2]
  · rw [if_neg h]
    cases hfound : db.campaigns.find other with
    | none => rfl
    | some campaign => simp [Table.revise, (Table.find_eq_some hfound).2, h]

lemma statusOf_of_find {campaign : Campaign} (h : db.campaigns.find rolloutId = some campaign) :
    statusOf db rolloutId = some campaign.state.status := by
  rw [statusOf, h]
  rfl

lemma Frame.of_campaigns (hqueue : QueueKept db.queue db'.queue) (hcampaigns : db'.campaigns = db.campaigns) :
    Frame rolloutId db db' := by
  refine ⟨hqueue, ?_⟩
  intro other _
  rw [statusOf, statusOf, hcampaigns]

lemma Frame.refl (db : Db) : Frame rolloutId db db := Frame.of_campaigns (QueueKept.refl _) rfl

lemma Frame.trans (h : Frame rolloutId db db') (h' : Frame rolloutId db' db'') : Frame rolloutId db db'' where
  queue := h.queue.trans h'.queue
  others := fun other hne => (h'.others other hne).trans (h.others other hne)

lemma Frame.setCampaign (set : CampaignState → CampaignState) : Frame rolloutId db (db.setCampaign rolloutId set) := by
  refine ⟨QueueKept.refl _, ?_⟩
  intro other hne
  rw [statusOf_setCampaign, if_neg hne]

/-- Nothing but the status and unread columns of the campaign changes. -/
lemma Calm.setCampaign {set : CampaignState → CampaignState}
    (h : CalmStatus (statusOf db rolloutId) (statusOf (db.setCampaign rolloutId set) rolloutId)) :
    Calm settles rolloutId db (db.setCampaign rolloutId set) :=
  .proceed (Frame.setCampaign set) rfl h

lemma Calm.setCampaign_same {set : CampaignState → CampaignState} (h : ∀ state, (set state).status = state.status) :
    Calm settles rolloutId db (db.setCampaign rolloutId set) := by
  apply Calm.setCampaign
  rw [statusOf_setCampaign, if_pos rfl, statusOf]
  simp only [h]
  exact .same _

lemma missing_kept (h : QueueKept db.queue db'.queue) (target : Target) : missing db' target = missing db target := by
  unfold missing isOffline lacksFallback validFallback
  rw [h.devices, h.releases]

lemma isOffline_kept (h : QueueKept db.queue db'.queue) (deviceId : String) : isOffline db' deviceId = isOffline db deviceId := by
  unfold isOffline
  rw [h.devices]

lemma deliver_ok {deviceId drawnId itemId : String} {releaseId : ReleaseId} {now deadline : Nat} {priority : Int}
    (h : deliver db deviceId releaseId now priority deadline drawnId = .ok (db', itemId)) :
    ∃ queue, db' = { db with queue } ∧ QueueKept db.queue queue ∧ ItemAt queue itemId deviceId releaseId := by
  obtain ⟨⟨queue, delivered⟩, hqueue, hreturn⟩ := bind_eq_ok.mp h
  obtain ⟨rfl, rfl⟩ := Prod.mk.inj (Except.ok.inj hreturn)
  exact ⟨queue, rfl, rolloutDelivery_ok (onQueue_eq_ok.mp hqueue)⟩

/-! ### Rollback -/

/-- The targets of the list were rolled back, and no other row was touched. -/
structure RolledTargets (targets : List Target) (db db' : Db) : Prop where
  queue : QueueKept db.queue db'.queue
  campaigns : db'.campaigns = db.campaigns
  rows : Table.Grows (fun before after => (before ∈ targets ∧ RollsBack db db' before after) ∨ (before ∉ targets ∧ after = before))
    (fun _ => False) db.targets db'.targets

lemma RollsBack.before_kept {before after : Target} (hkept : QueueKept db.queue db'.queue) (h : RollsBack db' db'' before after) :
    RollsBack db db'' before after := by
  cases h with
  | skipped offline place status => exact .skipped (by rwa [isOffline_kept hkept] at offline) place status
  | redirected online present saved placed status =>
    exact .redirected (by rwa [isOffline_kept hkept] at online) (by rwa [missing_kept hkept] at present) saved placed status
  | failed lacking place => exact .failed (by rwa [missing_kept hkept] at lacking) place

lemma RollsBack.after_kept {before after : Target} (h : RollsBack db db' before after) (hkept : QueueKept db'.queue db''.queue) :
    RollsBack db db'' before after := by
  cases h with
  | skipped offline place status => exact .skipped offline place status
  | redirected online present saved placed status =>
    obtain ⟨itemId, fallback, hfallback, hitem, hat⟩ := placed
    exact .redirected online present saved ⟨itemId, fallback, hfallback, hitem, hat.kept hkept.items⟩ status
  | failed lacking place => exact .failed lacking place

lemma RolledTargets.setOne {target : Target} (htarget : target ∈ db.targets) {queue : Queue.Db} (hqueue : QueueKept db.queue queue)
    {set : TargetState → TargetState}
    (h : RollsBack db ({ db with queue } : Db) target { target with state := set target.state }) :
    RolledTargets [target] db (({ db with queue } : Db).setTargets (isTarget target.rolloutId target.deviceId) set) := by
  have hkey : ∀ other : Target, ({ other with state := set other.state } : Target).key = other.key := fun _ => rfl
  have hsame : QueueKept ({ db with queue } : Db).queue
      (({ db with queue } : Db).setTargets (isTarget target.rolloutId target.deviceId) set).queue := QueueKept.refl _
  refine ⟨hqueue, rfl, Table.Grows.update hkey ?_ ?_⟩
  · intro other hother hmatch
    simp only [isTarget, Bool.and_eq_true, beq_iff_eq] at hmatch
    obtain rfl := Table.eq_of_key_eq hother htarget (Prod.ext hmatch.1 hmatch.2)
    exact .inl ⟨List.mem_singleton_self _, h.after_kept hsame⟩
  · intro other hother hmatch
    refine .inr ⟨?_, rfl⟩
    rintro hmem
    obtain rfl := List.mem_singleton.mp hmem
    simp [isTarget] at hmatch

/-- The rollback of one target says what became of it, and whether it was missing. -/
lemma rollBackTarget_ok {target : Target} {now : Nat} {drawn : Drawn} {lacking : Bool} (htarget : target ∈ db.targets)
    (hdevice : (db.queue.devices.find target.deviceId).isSome = true)
    (h : rollBackTarget db target now drawn = .ok (db', lacking)) :
    RolledTargets [target] db db' ∧ lacking = missing db target := by
  unfold rollBackTarget at h
  obtain ⟨device, hfound⟩ := Option.isSome_iff_exists.mp hdevice
  simp only [hfound] at h
  have hoffline : isOffline db target.deviceId = (device.deliveryMode == .inktimeOfflineSchedule) := by simp [isOffline, hfound]
  have hlacks : lacksFallback db target = (validFallback db target device).isNone := by simp [lacksFallback, hfound]
  split at h
  · next hmode =>
    obtain ⟨rfl, rfl⟩ := Prod.mk.inj (Except.ok.inj h)
    have hskipped : isOffline db target.deviceId = true := by simp [hoffline, hmode]
    refine ⟨RolledTargets.setOne htarget (QueueKept.refl _) (.skipped hskipped ⟨rfl, rfl⟩ rfl), ?_⟩
    simp [missing, hskipped]
  · next hmode =>
    have honline : isOffline db target.deviceId = false := by simp [hoffline, hmode]
    split at h
    · next hnone =>
      obtain ⟨rfl, rfl⟩ := Prod.mk.inj (Except.ok.inj h)
      have hmissing : missing db target = true := by simp [missing, honline, hlacks, hnone]
      exact ⟨RolledTargets.setOne htarget (QueueKept.refl _) (.failed hmissing ⟨rfl, rfl⟩), hmissing.symm⟩
    · next fallback hsome =>
      obtain ⟨⟨delivered, itemId⟩, hdelivered, hreturn⟩ := bind_eq_ok.mp h
      obtain ⟨rfl, rfl⟩ := Prod.mk.inj (Except.ok.inj hreturn)
      obtain ⟨queue, rfl, hkept, hat⟩ := deliver_ok hdelivered
      have hpresent : missing db target = false := by simp [missing, hlacks, hsome]
      have hfallback : target.rollbackReleaseId = some fallback := by
        obtain ⟨saved, hsaved, hvalid⟩ := Option.bind_eq_some_iff.mp hsome
        split at hvalid
        · obtain rfl := Option.some.inj hvalid
          exact hsaved
        · cases hvalid
      refine ⟨RolledTargets.setOne htarget hkept ?_, hpresent.symm⟩
      exact .redirected honline hpresent rfl ⟨itemId, fallback, hfallback, rfl, hat⟩ rfl

/-- The loop treats every target of the list once. -/
lemma rollBackTargets_ok {now : Nat} {drawn : Drawn} {targets : List Target} {lacking : Bool}
    (hkeys : (targets.map Target.key).Nodup) (htargets : ∀ target ∈ targets, target ∈ db.targets)
    (hdevices : ∀ target ∈ targets, (db.queue.devices.find target.deviceId).isSome = true)
    (h : rollBackTargets now drawn db targets = .ok (db', lacking)) :
    RolledTargets targets db db' ∧ lacking = targets.any (missing db) := by
  induction targets generalizing db lacking with
  | nil =>
    obtain ⟨rfl, rfl⟩ := Prod.mk.inj (Except.ok.inj h)
    refine ⟨⟨QueueKept.refl _, rfl, ?_⟩, rfl⟩
    exact Table.Grows.refl (fun row => .inr ⟨List.not_mem_nil, rfl⟩) _
  | cons target rest ih =>
    obtain ⟨⟨next, first⟩, hfirst, h⟩ := bind_eq_ok.mp h
    obtain ⟨⟨last, others⟩, hrest, h⟩ := bind_eq_ok.mp h
    obtain ⟨rfl, rfl⟩ := Prod.mk.inj (Except.ok.inj h)
    obtain ⟨hone, rfl⟩ := rollBackTarget_ok (htargets target List.mem_cons_self) (hdevices target List.mem_cons_self) hfirst
    obtain ⟨hnotMem, hkeys⟩ := List.nodup_cons.mp hkeys
    have hdifferent : ∀ other ∈ rest, other.key ≠ target.key :=
      fun other hother heq => hnotMem (heq ▸ List.mem_map_of_mem hother)
    -- the rows still to come are as the call found them
    have hstill : ∀ other ∈ rest, other ∈ next.targets := by
      intro other hother
      obtain ⟨after, hafter, -, hone | ⟨-, rfl⟩⟩ := hone.rows.follows other (htargets other (List.mem_cons_of_mem _ hother))
      · exact absurd (congrArg Target.key (List.mem_singleton.mp hone.1)) (hdifferent other hother)
      · exact hafter
    obtain ⟨hmore, rfl⟩ := ih hkeys hstill (fun other hother => by
      rw [hone.queue.devices]
      exact hdevices other (List.mem_cons_of_mem _ hother)) hrest
    refine ⟨⟨hone.queue.trans hmore.queue, hmore.campaigns.trans hone.campaigns, ?_⟩, ?_⟩
    · have hkeyed := hone.rows.mono (S := fun before after => before.key = after.key ∧
          ((before = target ∧ RollsBack db next before after) ∨ (before ≠ target ∧ after = before)))
        (fun before _ after _ hkey hrow => ⟨hkey.symm, by simpa using hrow⟩) fun _ _ hnew => hnew
      refine hkeyed.trans hmore.rows ?_ fun _ _ hnew _ => hnew
      rintro before middle after ⟨hkey, hfirst⟩ hsecond
      obtain ⟨rfl, hrolls⟩ | ⟨hne, rfl⟩ := hfirst
      · have hsame : after = middle := by
          obtain ⟨hmem, -⟩ | ⟨-, heq⟩ := hsecond
          · exact absurd hkey.symm (hdifferent middle hmem)
          · exact heq
        exact .inl ⟨List.mem_cons_self, hsame ▸ hrolls.after_kept hmore.queue⟩
      · obtain ⟨hmem, hrolls⟩ | ⟨hnot, heq⟩ := hsecond
        · exact .inl ⟨List.mem_cons_of_mem _ hmem, hrolls.before_kept hone.queue⟩
        · exact .inr ⟨by simp [hne, hnot], heq⟩
    · have hsame : rest.any (missing next) = rest.any (missing db) := by
        congr 1
        funext other
        exact missing_kept hone.queue other
      rw [List.any_cons, hsame]

/-- Every target's device exists. -/
def DevicesKnown (db : Db) : Prop := ∀ target ∈ db.targets, (db.queue.devices.find target.deviceId).isSome = true

lemma inProgress_isSome {status : Option CampaignStatus} (h : inProgress status = true) : status.isSome = true := by
  cases status with
  | none => cases h
  | some status => rfl

lemma cancelItems_kept (rolloutId : String) (now : Nat) : QueueKept db.queue (cancelItems db rolloutId now).queue := setItems_kept _ _

lemma mem_targetsOf {target : Target} : target ∈ db.targetsOf rolloutId ↔ target ∈ db.targets ∧ target.rolloutId = rolloutId := by
  simp [Db.targetsOf, Table.mem_iff]

lemma targetsOf_keys (db : Db) (rolloutId : String) : ((db.targetsOf rolloutId).map Target.key).Nodup :=
  db.targets.distinct.sublist (List.filter_sublist.map Target.key)

/-- A rollback of a campaign in progress treats all of its targets. -/
lemma startRollback_ok {now : Nat} {reason : String} {drawn : Drawn} (hknown : DevicesKnown db)
    (hprogress : inProgress (statusOf db rolloutId) = true)
    (h : startRollback db rolloutId now reason drawn = .ok db') : Decisive rolloutId db db' := by
  obtain ⟨campaign, hcampaign, -⟩ := Option.map_eq_some_iff.mp (Option.eq_some_of_isSome (inProgress_isSome hprogress))
  have hstatus := statusOf_of_find hcampaign
  have hunsettled : campaign.state.status.settled = false := by
    rw [hstatus] at hprogress
    cases hcase : campaign.state.status <;> simp_all [inProgress, CampaignStatus.running, CampaignStatus.settled]
  simp only [startRollback, hcampaign, hunsettled, Bool.false_eq_true, if_false] at h
  have hall : ((cancelItems db rolloutId now).targetsOf rolloutId).filter (fun target =>
      ((cancelItems db rolloutId now).queue.devices.find target.deviceId).isSome) = db.targetsOf rolloutId := by
    apply List.filter_eq_self.mpr
    intro target htarget
    exact hknown target (mem_targetsOf.mp htarget).1
  rw [hall] at h
  obtain ⟨⟨rolled, lacking⟩, hrolled, hreturn⟩ := bind_eq_ok.mp h
  obtain rfl := Except.ok.inj hreturn
  have hmem : ∀ target ∈ db.targetsOf rolloutId, target ∈ (cancelItems db rolloutId now).targets :=
    fun target htarget => (mem_targetsOf.mp htarget).1
  obtain ⟨htargets, rfl⟩ := rollBackTargets_ok (targetsOf_keys db rolloutId) hmem
    (fun target htarget => hknown target (mem_targetsOf.mp htarget).1) hrolled
  have hkept : QueueKept db.queue (cancelItems db rolloutId now).queue := cancelItems_kept rolloutId now
  have hmissing : missing (cancelItems db rolloutId now) = missing db := by
    funext target
    exact missing_kept hkept target
  refine .rollBack ?_ hprogress ?_ ?_
  · exact (Frame.of_campaigns (hkept.trans htargets.queue) htargets.campaigns).trans (Frame.setCampaign _)
  · refine htargets.rows.mono ?_ fun _ _ hnew => hnew
    intro before hbefore after _ _ hrow
    obtain ⟨hmem, hrolls⟩ | ⟨hnot, heq⟩ := hrow
    · exact .inr ⟨(mem_targetsOf.mp hmem).2, (hrolls.before_kept hkept).after_kept (QueueKept.refl _)⟩
    · exact .inl ⟨fun hid => hnot (mem_targetsOf.mpr ⟨hbefore, hid⟩), heq⟩
  · have hfind : rolled.campaigns.find rolloutId = some campaign := by rw [htargets.campaigns]; exact hcampaign
    rw [statusOf_setCampaign, if_pos rfl, hfind, hmissing]
    rfl

/-! ### Stages -/

lemma mem_matchingDevices {releaseId : ReleaseId} {device : Device} (h : device ∈ matchingDevices db releaseId) :
    device ∈ db.queue.devices := by
  rw [matchingDevices, byId, List.mem_insertionSort] at h
  exact (List.mem_filter.mp h).1

lemma freezeCohort_calm (campaign : Campaign) :
    Relation.ReflTransGen (Calm settles campaign.id) db (freezeCohort db campaign).1 ∧
      (freezeCohort db campaign).1.queue = db.queue := by
  unfold freezeCohort
  split
  · exact ⟨.refl, rfl⟩
  · next hnone =>
    dsimp only
    exact ⟨.single (Calm.setCampaign_same fun _ => rfl), rfl⟩

/-- The offline devices get rows that name no delivery. -/
lemma skipOffline_ok (now : Nat) (rolloutId : String) (devices : List Device)
    (hdevices : ∀ device ∈ devices, isOffline db device.id = true) :
    ∃ targets, skipOffline now rolloutId db devices = { db with targets } ∧
      Table.Grows Eq (Skipped db rolloutId) db.targets targets := by
  suffices hfold : ∀ rows, Table.Grows Eq (Skipped db rolloutId) db.targets rows →
      ∃ targets, skipOffline now rolloutId { db with targets := rows } devices = { db with targets } ∧
        Table.Grows Eq (Skipped db rolloutId) db.targets targets from
    hfold db.targets (Table.Grows.refl (fun _ => rfl) _)
  induction devices with
  | nil => exact fun rows hrows => ⟨rows, rfl, hrows⟩
  | cons device rest ih =>
    intro rows hrows
    have hoffline := hdevices device List.mem_cons_self
    apply ih fun other hother => hdevices other (List.mem_cons_of_mem _ hother)
    refine hrows.trans (Table.Grows.add (fun _ => rfl) ?_) (fun _ _ _ hab hbc => hab.trans hbc) ?_
    · exact ⟨rfl, hoffline, rfl, rfl⟩
    · rintro b c hfresh rfl
      exact hfresh

/-- Rows added for a stage. -/
structure AddedTargets (first : Db) (rolloutId : String) (db db' : Db) : Prop where
  queue : QueueKept db.queue db'.queue
  campaigns : db'.campaigns = db.campaigns
  rows : Table.Grows Eq (Placed first db' rolloutId) db.targets db'.targets

lemma Placed.kept {first : Db} {target : Target} (h : Placed first db rolloutId target) (hkept : QueueKept db.queue db'.queue) :
    Placed first db' rolloutId target := by
  obtain ⟨itemId, releaseId, hitem, hat⟩ := h.placed
  exact ⟨h.rollout, h.device, ⟨itemId, releaseId, hitem, hat.kept hkept.items⟩, h.free⟩

lemma AddedTargets.refl (first db : Db) : AddedTargets first rolloutId db db :=
  ⟨QueueKept.refl _, rfl, Table.Grows.refl (fun _ => rfl) _⟩

lemma AddedTargets.trans {first : Db} (h : AddedTargets first rolloutId db db') (h' : AddedTargets first rolloutId db' db'') :
    AddedTargets first rolloutId db db'' := by
  refine ⟨h.queue.trans h'.queue, h'.campaigns.trans h.campaigns, ?_⟩
  have hrows := h.rows.mono (fun _ _ _ _ _ heq => heq) fun _ _ hfresh => hfresh.kept h'.queue
  refine hrows.trans h'.rows (fun _ _ _ hab hbc => hab.trans hbc) ?_
  rintro b c hfresh rfl
  exact hfresh

lemma AddedTargets.setStages {first : Db} (h : AddedTargets first rolloutId db db') (matching : Stage → Bool)
    (set : StageState → StageState) : AddedTargets first rolloutId db (db'.setStages matching set) := by
  have hsame : QueueKept db'.queue (db'.setStages matching set).queue := QueueKept.refl _
  refine h.trans ⟨hsame, rfl, ?_⟩
  exact Table.Grows.refl (fun _ => rfl) _

lemma addTarget_ok {first : Db} {campaign : Campaign} {stage : Stage} {now : Nat} {drawn : Drawn} {device : Device}
    (hdevice : (first.queue.devices.find device.id).isSome = true) (hfree : inOtherCampaign first campaign.id device.id = false)
    (h : addTarget db campaign stage now drawn device = .ok db') : AddedTargets first campaign.id db db' := by
  unfold addTarget at h
  split at h
  · obtain rfl := Except.ok.inj h
    exact AddedTargets.refl first db
  · obtain ⟨⟨delivered, itemId⟩, hdelivered, h⟩ := bind_eq_ok.mp h
    obtain ⟨targets, htargets, hreturn⟩ := bind_eq_ok.mp h
    obtain rfl := Except.ok.inj hreturn
    obtain ⟨queue, rfl, hkept, hat⟩ := deliver_ok hdelivered
    refine ⟨hkept, rfl, Table.Grows.insert (fun _ => rfl) (orError_eq_ok.mp htargets) ?_⟩
    exact ⟨rfl, hdevice, ⟨itemId, campaign.releaseId, rfl, hat⟩, hfree⟩

lemma addTargets_ok {first : Db} {campaign : Campaign} {stage : Stage} {now : Nat} {drawn : Drawn} {devices : List Device}
    (hdevices : ∀ device ∈ devices, (first.queue.devices.find device.id).isSome = true)
    (hfree : ∀ device ∈ devices, inOtherCampaign first campaign.id device.id = false)
    (h : addTargets campaign stage now drawn db devices = .ok db') : AddedTargets first campaign.id db db' := by
  induction devices generalizing db with
  | nil =>
    obtain rfl := Except.ok.inj h
    exact AddedTargets.refl first db
  | cons device rest ih =>
    obtain ⟨next, hnext, hrest⟩ := bind_eq_ok.mp h
    have hone := addTarget_ok (hdevices device List.mem_cons_self) (hfree device List.mem_cons_self) hnext
    exact hone.trans (ih (fun other hother => hdevices other (List.mem_cons_of_mem _ hother))
      (fun other hother => hfree other (List.mem_cons_of_mem _ hother)) hrest)

/-- An allocation skips the offline devices; where it is not refused it adds the online ones. -/
lemma allocateStage_ok {campaign : Campaign} {stage : Stage} {now : Nat} {drawn : Drawn} {refusal : Option RolloutError}
    (hknown : ∃ status, statusOf db campaign.id = some status ∧ status ≠ .rollingBack)
    (h : allocateStage db campaign stage now drawn = .ok (db', refusal)) :
    ∃ skipped, Relation.ReflTransGen (Calm settles campaign.id) db skipped ∧ statusOf skipped campaign.id = statusOf db campaign.id ∧
      ((refusal.isSome = true ∧ db' = skipped) ∨ (refusal = none ∧ AddedTargets skipped campaign.id skipped db')) := by
  unfold allocateStage at h
  obtain ⟨hfreeze, hqueue⟩ := @freezeCohort_calm db settles campaign
  have hstatus : statusOf (freezeCohort db campaign).1 campaign.id = statusOf db campaign.id := by
    unfold freezeCohort
    split
    · rfl
    · rw [statusOf_setCampaign, if_pos rfl]
      rfl
  simp only at h
  generalize (freezeCohort db campaign).1 = frozen at h hfreeze hqueue hstatus
  generalize (freezeCohort db campaign).2 = cohort at h
  split at h
  · obtain ⟨rfl, rfl⟩ := Prod.mk.inj (Except.ok.inj h)
    exact ⟨frozen, hfreeze, hstatus, .inl ⟨rfl, rfl⟩⟩
  split at h
  · obtain ⟨rfl, rfl⟩ := Prod.mk.inj (Except.ok.inj h)
    exact ⟨frozen, hfreeze, hstatus, .inl ⟨rfl, rfl⟩⟩
  have hmatching : ∀ device ∈ (matchingDevices frozen campaign.releaseId).filter (fun device => cohort.contains device.id),
      frozen.queue.devices.find device.id = some device :=
    fun device hdevice => Table.find_of_mem (mem_matchingDevices (List.mem_filter.mp hdevice).1)
  generalize (matchingDevices frozen campaign.releaseId).filter (fun device => cohort.contains device.id) = devices at h hmatching
  obtain ⟨targets, hskipped, hrows⟩ := @skipOffline_ok frozen now campaign.id
    (devices.filter fun device => device.deliveryMode == .inktimeOfflineSchedule) (fun device hdevice => by
      obtain ⟨hmem, hmode⟩ := List.mem_filter.mp hdevice
      rw [isOffline, hmatching device hmem]
      exact hmode)
  rw [hskipped] at h
  have hskip : Calm settles campaign.id frozen { frozen with targets } :=
    .skip (Frame.of_campaigns (QueueKept.refl _) rfl) (by rw [hstatus]; exact hknown) hrows rfl
  have hcalm := hfreeze.tail hskip
  split at h
  · obtain ⟨rfl, rfl⟩ := Prod.mk.inj (Except.ok.inj h)
    exact ⟨_, hcalm, hstatus, .inl ⟨rfl, rfl⟩⟩
  · next hconflict =>
    obtain ⟨delivered, hdelivered, hreturn⟩ := bind_eq_ok.mp h
    obtain ⟨rfl, rfl⟩ := Prod.mk.inj (Except.ok.inj hreturn)
    have hadded : AddedTargets { frozen with targets } campaign.id { frozen with targets } delivered := by
      apply addTargets_ok _ _ hdelivered
      · intro device hdevice
        have hmem := (List.mem_filter.mp (List.mem_of_mem_take hdevice)).1
        simp [hmatching device hmem]
      · intro device hdevice
        rw [Bool.not_eq_true, List.any_eq_false] at hconflict
        simpa using hconflict device hdevice
    exact ⟨_, hcalm, hstatus, .inr ⟨rfl, hadded.setStages _ _⟩⟩

/-! ### Turns -/

lemma isSome_of_isOffline {deviceId : String} (h : isOffline db deviceId = true) : (db.queue.devices.find deviceId).isSome = true := by
  unfold isOffline at h
  cases hfound : db.queue.devices.find deviceId with
  | none => simp [hfound] at h
  | some device => rfl

lemma DevicesKnown.calm (h : DevicesKnown db) (hcalm : Calm settles rolloutId db db') : DevicesKnown db' := by
  intro target htarget
  cases hcalm with
  | proceed frame targets _ =>
    rw [targets] at htarget
    rw [frame.queue.devices]
    exact h target htarget
  | settle frame targets _ =>
    rw [frame.queue.devices]
    obtain hnew | ⟨before, hbefore, hkey, -⟩ := targets.back htarget
    · cases hnew
    · rw [← (Prod.mk.inj hkey).2]
      exact h before hbefore
  | skip frame _ targets _ =>
    rw [frame.queue.devices]
    obtain hnew | ⟨before, hbefore, -, rfl⟩ := targets.back htarget
    · exact isSome_of_isOffline hnew.device
    · exact h before hbefore

lemma DevicesKnown.decisive (h : DevicesKnown db) (hdecisive : Decisive rolloutId db db') : DevicesKnown db' := by
  intro target htarget
  cases hdecisive with
  | place frame targets _ _ =>
    rw [frame.queue.devices]
    obtain hnew | ⟨before, hbefore, -, rfl⟩ := targets.back htarget
    · exact hnew.device
    · exact h before hbefore
  | rollBack frame _ targets _ =>
    rw [frame.queue.devices]
    obtain hnew | ⟨before, hbefore, hkey, -⟩ := targets.back htarget
    · cases hnew
    · rw [← (Prod.mk.inj hkey).2]
      exact h before hbefore
  | finish frame targets _ _ _ =>
    rw [targets] at htarget
    rw [frame.queue.devices]
    exact h target htarget

lemma DevicesKnown.calms (h : DevicesKnown db) (hcalm : Relation.ReflTransGen (Calm settles rolloutId) db db') :
    DevicesKnown db' := by
  induction hcalm with
  | refl => exact h
  | tail _ hlast ih => exact ih.calm hlast

lemma DevicesKnown.turn (h : DevicesKnown db) (hturn : Turn settles rolloutId db db') : DevicesKnown db' := by
  obtain ⟨middle, hcalm, rfl | hdecisive⟩ := hturn
  · exact h.calms hcalm
  · exact (h.calms hcalm).decisive hdecisive

lemma Turn.calm (h : Calm settles rolloutId db db') : Turn settles rolloutId db db' := ⟨db', .single h, .inl rfl⟩

lemma Turn.refl (db : Db) : Turn settles rolloutId db db := ⟨db, .refl, .inl rfl⟩

lemma Turn.head (hcalm : Relation.ReflTransGen (Calm settles rolloutId) db db') (h : Turn settles rolloutId db' db'') :
    Turn settles rolloutId db db'' := by
  obtain ⟨middle, hmiddle, hlast⟩ := h
  exact ⟨middle, hcalm.trans hmiddle, hlast⟩

lemma startRollback_turn {now : Nat} {reason : String} {drawn : Drawn} (hknown : DevicesKnown db)
    (hprogress : inProgress (statusOf db rolloutId) = true)
    (h : startRollback db rolloutId now reason drawn = .ok db') : Turn settles rolloutId db db' :=
  ⟨db, .refl, .inr (startRollback_ok hknown hprogress h)⟩

/-- A complete allocation, with the status that follows it. -/
lemma AddedTargets.decisive (h : AddedTargets db rolloutId db db') {now : Nat} {status : CampaignStatus}
    (hbefore : ∃ status, statusOf db rolloutId = some status ∧ (status = .draft ∨ status.running = true) ∧ status ≠ .rollingBack)
    (hafter : status.running = true ∧ status ≠ .rollingBack) :
    Decisive rolloutId db (db'.setCampaign rolloutId (setStatus status now)) := by
  refine .place ((Frame.of_campaigns h.queue h.campaigns).trans (Frame.setCampaign _)) ?_ hbefore ⟨status, ?_, hafter⟩
  · exact h.rows.mono (fun _ _ _ _ _ heq => heq) fun _ _ hfresh => hfresh.kept (QueueKept.refl _)
  · obtain ⟨current, hcurrent, -⟩ := hbefore
    rw [statusOf_setCampaign, if_pos rfl, h.campaigns]
    obtain ⟨campaign, hcampaign, -⟩ := Option.map_eq_some_iff.mp hcurrent
    rw [hcampaign]
    rfl

lemma advanceStage_turn {campaign : Campaign} {stage : Stage} {now : Nat} {drawn : Drawn} {advanced : Bool}
    (hknown : DevicesKnown db) (hstatus : statusOf db campaign.id = some .observing)
    (h : advanceStage db campaign stage now drawn = .ok (db', advanced)) : Turn settles campaign.id db db' := by
  unfold advanceStage at h
  simp only at h
  split at h
  · obtain ⟨rfl, -⟩ := Prod.mk.inj (Except.ok.inj h)
    apply Turn.calm
    have hstages : Frame campaign.id db (db.setStages (fun other => other.key == stage.key) fun state =>
        { state with status := .completed, completedAt := some now }) := Frame.of_campaigns (QueueKept.refl _) rfl
    refine .proceed (hstages.trans (Frame.setCampaign _)) rfl ?_
    obtain ⟨found, hfound, -⟩ := Option.map_eq_some_iff.mp hstatus
    rw [hstatus, statusOf_setCampaign, if_pos rfl, Db.setStages_campaigns, hfound]
    exact .runs ⟨rfl, by decide⟩ (.inr rfl)
  · obtain ⟨⟨allocated, refusal⟩, hallocated, h⟩ := bind_eq_ok.mp h
    obtain ⟨skipped, hcalm, hsame, hresult⟩ := @allocateStage_ok _ _ settles _ _ _ _ _ ⟨_, hstatus, by decide⟩ hallocated
    obtain ⟨hrefused, rfl⟩ | ⟨rfl, hadded⟩ := hresult
    · simp only [hrefused, if_true] at h
      obtain ⟨rolled, hrolled, hreturn⟩ := bind_eq_ok.mp h
      obtain ⟨rfl, -⟩ := Prod.mk.inj (Except.ok.inj hreturn)
      exact Turn.head hcalm (startRollback_turn (hknown.calms hcalm) (by rw [hsame, hstatus]; rfl) hrolled)
    · obtain ⟨rfl, -⟩ := Prod.mk.inj (Except.ok.inj h)
      refine ⟨skipped, hcalm, .inr ((hadded.setStages _ _).decisive ?_ ⟨rfl, by decide⟩)⟩
      exact ⟨.observing, hsame.trans hstatus, .inr rfl, by decide⟩

lemma evaluateStage_turn {campaign : Campaign} {stage : Stage} {now : Nat} {approved : Bool} {drawn : Drawn} {advanced : Bool}
    (hknown : DevicesKnown db) {status : CampaignStatus} (hstatus : statusOf db campaign.id = some status)
    (hrunning : status.running = true ∧ status ≠ .rollingBack)
    (h : evaluateStage db campaign stage now approved drawn = .ok (db', advanced)) : Turn settles campaign.id db db' := by
  unfold evaluateStage at h
  simp only at h
  split at h
  · obtain ⟨rfl, -⟩ := Prod.mk.inj (Except.ok.inj h)
    exact Turn.refl db
  split at h
  · obtain ⟨rolled, hrolled, hreturn⟩ := bind_eq_ok.mp h
    obtain ⟨rfl, -⟩ := Prod.mk.inj (Except.ok.inj hreturn)
    exact startRollback_turn hknown (by simp [inProgress, hstatus, hrunning]) hrolled
  split at h
  · obtain ⟨rfl, -⟩ := Prod.mk.inj (Except.ok.inj h)
    exact Turn.refl db
  obtain ⟨startedAt, -, h⟩ := bind_eq_ok.mp h
  have hobserving : statusOf (db.setCampaign campaign.id (setStatus .observing now)) campaign.id = some .observing := by
    obtain ⟨found, hfound, -⟩ := Option.map_eq_some_iff.mp hstatus
    rw [statusOf_setCampaign, if_pos rfl, hfound]
    rfl
  have hcalm : Calm settles campaign.id db (db.setCampaign campaign.id (setStatus .observing now)) := by
    apply Calm.setCampaign
    rw [hstatus, hobserving]
    exact .runs hrunning (.inl ⟨rfl, by decide⟩)
  split at h
  · exact Turn.head (.single hcalm) (advanceStage_turn (hknown.calm hcalm) hobserving h)
  · obtain ⟨rfl, -⟩ := Prod.mk.inj (Except.ok.inj h)
    exact Turn.calm hcalm

lemma expireRollback_calm (now : Nat) (hstatus : statusOf db rolloutId = some .rollingBack) :
    Turn settles rolloutId db (expireRollback db rolloutId now) := by
  unfold expireRollback
  split
  · apply Turn.calm
    apply Calm.setCampaign
    obtain ⟨found, hfound, -⟩ := Option.map_eq_some_iff.mp hstatus
    rw [hstatus, statusOf_setCampaign, if_pos rfl, hfound]
    exact .fails
  · exact Turn.refl db

/-- An evaluation is one turn of its campaign. -/
lemma evaluateRollout_turn {now : Nat} {approved : Bool} {drawn : Drawn} {advanced : Bool} (hknown : DevicesKnown db)
    (h : evaluateRollout db rolloutId now approved drawn = .ok (db', advanced)) : Turn settles rolloutId db db' := by
  unfold evaluateRollout at h
  split at h
  · obtain ⟨rfl, -⟩ := Prod.mk.inj (Except.ok.inj h)
    exact Turn.refl db
  next campaign hcampaign =>
  split at h
  · obtain ⟨rfl, -⟩ := Prod.mk.inj (Except.ok.inj h)
    exact Turn.refl db
  next hevaluated =>
  obtain rfl : campaign.id = rolloutId := (Table.find_eq_some hcampaign).2
  have htouched : Calm settles campaign.id db (db.setCampaign campaign.id fun state => { state with updatedAt := now }) :=
    Calm.setCampaign_same fun _ => rfl
  have hstatus : statusOf (db.setCampaign campaign.id fun state => { state with updatedAt := now }) campaign.id =
      some campaign.state.status := by
    rw [statusOf_setCampaign, if_pos rfl, hcampaign]
    rfl
  apply Turn.head (.single htouched)
  simp only at h
  generalize db.setCampaign campaign.id (fun state => { state with updatedAt := now }) = touched at h htouched hstatus
  split at h
  · next hrolling =>
    obtain ⟨rfl, -⟩ := Prod.mk.inj (Except.ok.inj h)
    exact expireRollback_calm now (hstatus.trans (congrArg some hrolling))
  next hrolling =>
  split at h
  · obtain ⟨rfl, -⟩ := Prod.mk.inj (Except.ok.inj h)
    exact Turn.refl touched
  · refine evaluateStage_turn (hknown.calm htouched) hstatus ⟨?_, hrolling⟩ h
    cases hcase : campaign.state.status <;> simp_all [CampaignStatus.evaluated, CampaignStatus.running]

end InkTime.Rollouts
