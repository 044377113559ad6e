import InkTime.Rollouts.Calls

/-!
# The invariant of the rollout tables

What every reachable state knows of its targets: their device and queue row exist, a row without a delivery has
no rollback release, and two running campaigns do not both have a delivery on one device.
-/

namespace InkTime.Rollouts

open Checked
open Queue (ReleaseId Release Device Item)

variable {db db' db'' : Db} {rolloutId : String} {settles : Target → TargetStatus → Prop}

def isRunning (db : Db) (rolloutId : String) : Bool := (statusOf db rolloutId).any CampaignStatus.running

/-- No device has deliveries of two running campaigns. -/
def Exclusive (db : Db) : Prop :=
  ∀ target ∈ db.targets, ∀ other ∈ db.targets, target.deviceId = other.deviceId →
    target.state.queueItemId ≠ none → other.state.queueItemId ≠ none →
    isRunning db target.rolloutId = true → isRunning db other.rolloutId = true → target.rolloutId = other.rolloutId

structure Sound (db : Db) : Prop where
  devices : DevicesKnown db
  items : ItemsKnown db
  unplaced : ∀ target ∈ db.targets, target.state.queueItemId = none → target.rollbackReleaseId = none
  campaigns : ∀ target ∈ db.targets, (statusOf db target.rolloutId).isSome = true
  drafts : ∀ target ∈ db.targets, statusOf db target.rolloutId = some .draft → target.state.queueItemId = none
  exclusive : Exclusive db

lemma Sound.start (queue : Queue.Db) : Sound (Db.start queue) where
  devices := fun _ htarget => absurd htarget List.not_mem_nil
  items := fun _ htarget => absurd htarget List.not_mem_nil
  unplaced := fun _ htarget => absurd htarget List.not_mem_nil
  campaigns := fun _ htarget => absurd htarget List.not_mem_nil
  drafts := fun _ htarget => absurd htarget List.not_mem_nil
  exclusive := fun _ htarget => absurd htarget List.not_mem_nil

/-- A row keeps what it was given, or is pointed at another queue row of its device. -/
structure PlaceKept (db' : Db) (before after : Target) : Prop where
  saved : after.rollbackReleaseId = before.rollbackReleaseId
  placed : after.state.queueItemId = before.state.queueItemId ∨ (before.state.queueItemId ≠ none ∧
    ∃ itemId releaseId, after.state.queueItemId = some itemId ∧ ItemAt db'.queue itemId before.deviceId releaseId)

lemma PlaceKept.of_same {before after : Target} (h : SamePlace before after) : PlaceKept db' before after := ⟨h.1, .inl h.2⟩

lemma PlaceKept.isNone_iff {before after : Target} (h : PlaceKept db' before after) :
    after.state.queueItemId = none ↔ before.state.queueItemId = none := by
  obtain heq | ⟨hsome, itemId, releaseId, hitem, -⟩ := h.placed
  · rw [heq]
  · simp [hitem, hsome]

/-- Devices, queue rows and campaigns stay, and no campaign with rows goes back to draft. -/
structure Evolves (db db' : Db) : Prop where
  devices : ∀ deviceId, (db.queue.devices.find deviceId).isSome = true → (db'.queue.devices.find deviceId).isSome = true
  items : Table.Follows SameItem db.queue.items db'.queue.items
  campaigns : ∀ rolloutId, (statusOf db rolloutId).isSome = true → (statusOf db' rolloutId).isSome = true
  drafts : ∀ rolloutId, (statusOf db rolloutId).isSome = true → statusOf db' rolloutId = some .draft →
    statusOf db rolloutId = some .draft

/-- Rows that keep their place keep the invariant, where no campaign starts to run. -/
lemma Sound.evolve {fresh : Target → Prop} (h : Sound db) (hevolves : Evolves db db')
    (hrows : Table.Grows (PlaceKept db') fresh db.targets db'.targets)
    (hfresh : ∀ target, fresh target → (db'.queue.devices.find target.deviceId).isSome = true ∧
      target.state.queueItemId = none ∧ target.rollbackReleaseId = none ∧ (statusOf db' target.rolloutId).isSome = true)
    (hrunning : ∀ rolloutId, isRunning db' rolloutId = true → isRunning db rolloutId = true) : Sound db' := by
  have hback : ∀ target ∈ db'.targets, target.state.queueItemId ≠ none →
      ∃ before ∈ db.targets, before.key = target.key ∧ PlaceKept db' before target := by
    intro target htarget hplaced
    obtain hnew | hold := hrows.back htarget
    · exact absurd (hfresh target hnew).2.1 hplaced
    · exact hold
  constructor
  · intro target htarget
    obtain hnew | ⟨before, hbefore, hkey, -⟩ := hrows.back htarget
    · exact (hfresh target hnew).1
    · rw [← (Prod.mk.inj hkey).2]
      exact hevolves.devices _ (h.devices before hbefore)
  · intro target htarget itemId hitem
    obtain ⟨before, hbefore, hkey, hkept⟩ := hback target htarget (by simp [hitem])
    rw [← (Prod.mk.inj hkey).2]
    obtain heq | ⟨-, other, releaseId, hother, hat⟩ := hkept.placed
    · obtain ⟨releaseId, hat⟩ := h.items before hbefore itemId (heq ▸ hitem)
      exact ⟨releaseId, hat.kept hevolves.items⟩
    · obtain rfl := Option.some.inj (hother.symm.trans hitem)
      exact ⟨releaseId, hat⟩
  · intro target htarget hnone
    obtain hnew | ⟨before, hbefore, -, hkept⟩ := hrows.back htarget
    · exact (hfresh target hnew).2.2.1
    · rw [hkept.saved]
      exact h.unplaced before hbefore (hkept.isNone_iff.mp hnone)
  · intro target htarget
    obtain hnew | ⟨before, hbefore, hkey, -⟩ := hrows.back htarget
    · exact (hfresh target hnew).2.2.2
    · rw [← (Prod.mk.inj hkey).1]
      exact hevolves.campaigns _ (h.campaigns before hbefore)
  · intro target htarget hdraft
    obtain hnew | ⟨before, hbefore, hkey, hkept⟩ := hrows.back htarget
    · exact (hfresh target hnew).2.1
    · rw [← (Prod.mk.inj hkey).1] at hdraft
      exact hkept.isNone_iff.mpr (h.drafts before hbefore (hevolves.drafts _ (h.campaigns before hbefore) hdraft))
  · intro target htarget other hother hdevice hplaced hplaced' hrun hrun'
    obtain ⟨before, hbefore, hkey, hkept⟩ := hback target htarget hplaced
    obtain ⟨before', hbefore', hkey', hkept'⟩ := hback other hother hplaced'
    obtain ⟨hrollout, hdev⟩ := Prod.mk.inj hkey
    obtain ⟨hrollout', hdev'⟩ := Prod.mk.inj hkey'
    rw [← hrollout] at hrun ⊢
    rw [← hrollout'] at hrun' ⊢
    exact h.exclusive before hbefore before' hbefore' (by rw [hdev, hdev', hdevice])
      (fun hnone => hplaced (hkept.isNone_iff.mpr hnone)) (fun hnone => hplaced' (hkept'.isNone_iff.mpr hnone))
      (hrunning _ hrun) (hrunning _ hrun')

/-! ### Moves -/

lemma CalmStatus.isSome {status status' : Option CampaignStatus} (h : CalmStatus status status') (hsome : status.isSome = true) :
    status'.isSome = true := by
  cases h with
  | same => exact hsome
  | opens => rfl
  | runs => rfl
  | fails => rfl

lemma CalmStatus.draft {status status' : Option CampaignStatus} (h : CalmStatus status status') (hsome : status.isSome = true)
    (hdraft : status' = some .draft) : status = some .draft := by
  cases h with
  | same => exact hdraft
  | opens => cases hsome
  | runs _ hafter =>
    obtain rfl := Option.some.inj hdraft
    simp [CampaignStatus.running] at hafter
  | fails => cases hdraft

lemma CalmStatus.running {status status' : Option CampaignStatus} (h : CalmStatus status status')
    (hrunning : status'.any CampaignStatus.running = true) : status.any CampaignStatus.running = true := by
  cases h with
  | same => exact hrunning
  | opens => cases hrunning
  | runs hbefore _ => simpa using hbefore.1
  | fails => rfl

lemma Evolves.of_frame (hframe : Frame rolloutId db db')
    (hsome : (statusOf db rolloutId).isSome = true → (statusOf db' rolloutId).isSome = true)
    (hdraft : (statusOf db rolloutId).isSome = true → statusOf db' rolloutId = some .draft → statusOf db rolloutId = some .draft) :
    Evolves db db' := by
  refine ⟨fun deviceId hdevice => by rwa [hframe.queue.devices], hframe.queue.items, ?_, ?_⟩
  · intro other hother
    by_cases hid : other = rolloutId
    · subst hid
      exact hsome hother
    · rwa [hframe.others other hid]
  · intro other hother hstatus
    by_cases hid : other = rolloutId
    · subst hid
      exact hdraft hother hstatus
    · rwa [hframe.others other hid] at hstatus

lemma Frame.running (hframe : Frame rolloutId db db') (h : isRunning db' rolloutId = true → isRunning db rolloutId = true)
    (other : String) (hother : isRunning db' other = true) : isRunning db other = true := by
  by_cases hid : other = rolloutId
  · subst hid
    exact h hother
  · unfold isRunning at hother ⊢
    rwa [hframe.others other hid] at hother

lemma Sound.calm (h : Sound db) (hcalm : Calm settles rolloutId db db') : Sound db' := by
  cases hcalm with
  | proceed frame targets status =>
    refine h.evolve (Evolves.of_frame frame status.isSome status.draft) (show Table.Grows _ (fun _ => False) _ _ from ?_)
      (fun _ hnew => hnew.elim)
      (frame.running status.running)
    rw [targets]
    exact Table.Grows.refl (fun _ => ⟨rfl, .inl rfl⟩) _
  | settle frame targets status =>
    refine h.evolve (Evolves.of_frame frame (by rw [status]; exact id) (by rw [status]; exact fun _ => id))
      (targets.mono ?_ fun _ _ hnew => hnew) (fun _ hnew => hnew.elim) (frame.running (by rw [isRunning, isRunning, status]; exact id))
    rintro before - after - - (rfl | ⟨-, hplace, -⟩)
    · exact ⟨rfl, .inl rfl⟩
    · exact PlaceKept.of_same hplace
  | skip frame known targets status =>
    refine h.evolve (Evolves.of_frame frame (by rw [status]; exact id) (by rw [status]; exact fun _ => id))
      (targets.mono ?_ fun _ _ hnew => hnew) ?_ (frame.running (by rw [isRunning, isRunning, status]; exact id))
    · rintro before - after - - rfl
      exact ⟨rfl, .inl rfl⟩
    · intro target hnew
      refine ⟨?_, hnew.unplaced, hnew.unsaved, ?_⟩
      · rw [frame.queue.devices]
        exact isSome_of_isOffline hnew.device
      · obtain ⟨current, hcurrent, -⟩ := known
        rw [hnew.rollout, status, hcurrent]
        rfl

/-- New deliveries go to devices no other running campaign has a row for. -/
lemma Sound.place (h : Sound db) (hframe : Frame rolloutId db db')
    (hrows : Table.Grows Eq (Placed db db' rolloutId) db.targets db'.targets)
    (hbefore : ∃ status, statusOf db rolloutId = some status ∧ (status = .draft ∨ status.running = true) ∧ status ≠ .rollingBack)
    (hafter : ∃ status, statusOf db' rolloutId = some status ∧ status.running = true ∧ status ≠ .rollingBack) : Sound db' := by
  obtain ⟨status, hstatus, hdraft_or_running, -⟩ := hbefore
  obtain ⟨status', hstatus', hrunning', -⟩ := hafter
  have hevolves : Evolves db db' := by
    refine Evolves.of_frame hframe (fun _ => by rw [hstatus']; rfl) ?_
    intro _ hdraft
    rw [hstatus', Option.some.injEq] at hdraft
    subst hdraft
    cases hrunning'
  -- an old row with a delivery belongs to a campaign that was running before
  have hold : ∀ target ∈ db.targets, target.state.queueItemId ≠ none → isRunning db' target.rolloutId = true →
      isRunning db target.rolloutId = true := by
    intro target htarget hplaced hrun
    by_cases hid : target.rolloutId = rolloutId
    · rw [hid]
      obtain rfl | hrunning := hdraft_or_running
      · exact absurd (h.drafts target htarget (hid ▸ hstatus)) hplaced
      · simp [isRunning, hstatus, hrunning]
    · unfold isRunning at hrun ⊢
      rwa [hframe.others _ hid] at hrun
  -- a new row shares its device with no delivery of another running campaign
  have hnew_alone : ∀ target other, Placed db db' rolloutId target → other ∈ db.targets → target.deviceId = other.deviceId →
      isRunning db other.rolloutId = true → target.rolloutId = other.rolloutId := by
    intro target other hnew hother hdevice hrun
    by_contra hne
    obtain ⟨found, hfound, hfound_running⟩ := Option.any_eq_true _ _ |>.mp hrun
    obtain ⟨campaign, hcampaign, rfl⟩ := Option.map_eq_some_iff.mp hfound
    obtain ⟨hmem, hid⟩ := Table.find_eq_some hcampaign
    have hfree := hnew.free
    unfold inOtherCampaign at hfree
    rw [Table.any, List.any_eq_false] at hfree
    apply hfree other hother
    have hcampaigns : db.campaigns.any (fun campaign => campaign.id == other.rolloutId && campaign.state.status.running) = true :=
      Table.any_of_mem hmem (by simp [hid, hfound_running])
    have hother_id : other.rolloutId ≠ rolloutId := fun heq => hne (hnew.rollout.trans heq.symm)
    simp [hdevice, hcampaigns, hother_id]
  constructor
  · intro target htarget
    obtain hnew | ⟨before, hbefore, -, rfl⟩ := hrows.back htarget
    · exact hevolves.devices _ hnew.device
    · exact hevolves.devices _ (h.devices before hbefore)
  · intro target htarget itemId hitem
    obtain hnew | ⟨before, hbefore, -, rfl⟩ := hrows.back htarget
    · obtain ⟨other, releaseId, hother, hat⟩ := hnew.placed
      obtain rfl := Option.some.inj (hother.symm.trans hitem)
      exact ⟨releaseId, hat⟩
    · obtain ⟨releaseId, hat⟩ := h.items before hbefore itemId hitem
      exact ⟨releaseId, hat.kept hevolves.items⟩
  · intro target htarget hnone
    obtain hnew | ⟨before, hbefore, -, rfl⟩ := hrows.back htarget
    · obtain ⟨other, releaseId, hother, -⟩ := hnew.placed
      rw [hother] at hnone
      cases hnone
    · exact h.unplaced before hbefore hnone
  · intro target htarget
    obtain hnew | ⟨before, hbefore, -, rfl⟩ := hrows.back htarget
    · rw [hnew.rollout, hstatus']
      rfl
    · exact hevolves.campaigns _ (h.campaigns before hbefore)
  · intro target htarget hdraft
    obtain hnew | ⟨before, hbefore, -, rfl⟩ := hrows.back htarget
    · rw [hnew.rollout, hstatus', Option.some.injEq] at hdraft
      subst hdraft
      cases hrunning'
    · exact h.drafts before hbefore (hevolves.drafts _ (h.campaigns before hbefore) hdraft)
  · intro target htarget other hother hdevice hplaced hplaced' hrun hrun'
    obtain hnew | ⟨before, hbefore, -, rfl⟩ := hrows.back htarget
    · obtain hnew' | ⟨before', hbefore', -, rfl⟩ := hrows.back hother
      · rw [hnew.rollout, hnew'.rollout]
      · exact hnew_alone target before' hnew hbefore' hdevice (hold before' hbefore' hplaced' hrun')
    · obtain hnew' | ⟨before', hbefore', -, rfl⟩ := hrows.back hother
      · exact (hnew_alone other before hnew' hbefore hdevice.symm (hold before hbefore hplaced hrun)).symm
      · exact h.exclusive before hbefore before' hbefore' hdevice hplaced hplaced' (hold before hbefore hplaced hrun)
          (hold before' hbefore' hplaced' hrun')

lemma RollsBack.placeKept {before after : Target} (hunplaced : before.state.queueItemId = none → before.rollbackReleaseId = none)
    (h : RollsBack db db' before after) : PlaceKept db' before after := by
  cases h with
  | skipped _ place _ => exact PlaceKept.of_same place
  | redirected _ _ saved placed _ =>
    obtain ⟨itemId, fallback, hfallback, hitem, hat⟩ := placed
    refine ⟨saved, .inr ⟨?_, itemId, fallback, hitem, hat⟩⟩
    intro hnone
    rw [hunplaced hnone] at hfallback
    cases hfallback
  | failed _ place => exact PlaceKept.of_same place

lemma Sound.decisive (h : Sound db) (hdecisive : Decisive rolloutId db db') : Sound db' := by
  cases hdecisive with
  | place frame targets before after => exact h.place frame targets before after
  | rollBack frame before targets after =>
    have hsettled : ∀ status, statusOf db' rolloutId = some status → status = .failed ∨ status = .rollingBack := by
      intro status hstatus
      rw [after, Option.some.injEq] at hstatus
      split at hstatus
      · exact .inl hstatus.symm
      · exact .inr hstatus.symm
    refine h.evolve (Evolves.of_frame frame (fun _ => by rw [after]; rfl) ?_) (targets.mono ?_ fun _ _ hnew => hnew)
      (fun _ hnew => hnew.elim) (frame.running ?_)
    · intro _ hdraft
      obtain heq | heq := hsettled _ hdraft <;> cases heq
    · rintro row hrow next - - (⟨-, rfl⟩ | ⟨-, hrolls⟩)
      · exact ⟨rfl, .inl rfl⟩
      · exact hrolls.placeKept (h.unplaced row hrow)
    · intro _
      obtain ⟨status, hstatus, hrunning⟩ := Option.any_eq_true _ _ |>.mp before
      simp only [Bool.and_eq_true] at hrunning
      simp [isRunning, hstatus, hrunning.1]
  | finish frame targets before after _ =>
    refine h.evolve (Evolves.of_frame frame (fun _ => by rw [after]; rfl) ?_) (show Table.Grows _ (fun _ => False) _ _ from ?_)
      (fun _ hnew => hnew.elim) (frame.running ?_)
    · intro _ hdraft
      rw [after] at hdraft
      cases hdraft
    · rw [targets]
      exact Table.Grows.refl (fun _ => ⟨rfl, .inl rfl⟩) _
    · intro hrunning
      rw [isRunning, after] at hrunning
      cases hrunning

/-! ### Calls -/

lemma Sound.calms (h : Sound db) (hcalm : Relation.ReflTransGen (Calm settles rolloutId) db db') : Sound db' := by
  induction hcalm with
  | refl => exact h
  | tail _ hlast ih => exact ih.calm hlast

lemma Sound.turn (h : Sound db) (hturn : Turn settles rolloutId db db') : Sound db' := by
  obtain ⟨middle, hcalm, rfl | hdecisive⟩ := hturn
  · exact h.calms hcalm
  · exact (h.calms hcalm).decisive hdecisive

lemma Sound.turns {rolloutIds : List String} (h : Sound db) (hturns : Turns settles rolloutIds db db') : Sound db' := by
  induction hturns with
  | nil => exact h
  | cons turn _ ih => exact ih (h.turn turn)

lemma Sound.onQueue (h : Sound db) {queue : Queue.Db} (hkept : QueueKept db.queue queue) : Sound { db with queue } := by
  have hevolves : Evolves db { db with queue } :=
    ⟨fun deviceId hdevice => by rwa [hkept.devices], hkept.items, fun _ hsome => hsome, fun _ _ hdraft => hdraft⟩
  exact h.evolve hevolves (show Table.Grows _ (fun _ => False) _ _ from Table.Grows.refl (fun _ => ⟨rfl, .inl rfl⟩) _)
    (fun _ hnew => hnew.elim)
    fun _ hrun => hrun

lemma Sound.call (h : Sound db) (hcall : Call settles db db') : Sound db' := by
  obtain ⟨queue, rolloutIds, hkept, -, hturns⟩ := hcall
  exact (h.onQueue hkept).turns hturns

/-- What an edit of a device may do to a row: its delivery is cancelled. -/
def Cancelled (before after : Target) : Prop :=
  after = before ∨ (SamePlace before after ∧ after.state.status = .cancelledFutureSchedule)

/-- An edit of a device leaves campaigns and what queue rows are about. -/
structure Edited (db db' : Db) : Prop where
  campaigns : db'.campaigns = db.campaigns
  devices : ∀ deviceId, (db.queue.devices.find deviceId).isSome = true → (db'.queue.devices.find deviceId).isSome = true
  items : Table.Follows SameItem db.queue.items db'.queue.items
  rows : Table.Grows Cancelled (fun _ => False) db.targets db'.targets

lemma Edited.refl (db : Db) : Edited db db :=
  ⟨rfl, fun _ h => h, Table.Follows.refl SameItem.refl _, Table.Grows.refl (fun _ => .inl rfl) _⟩

lemma supersedeItems_items {items : Table Item.id} (hitems : db.queue.items = items) (deviceId : String)
    (cancelled : List String) (now : Nat) : Table.Follows SameItem items (supersedeItems db deviceId cancelled now).queue.items := by
  subst hitems
  have hcancel : QueueKept db.queue (db.queue.setItems (fun item => cancelled.contains item.id) fun state =>
    { state with status := .cancelled, lastErrorCode := some "QUEUE-005", updatedAt := now }) := setItems_kept _ _
  exact hcancel.items

lemma updateDevice_edited (edit : DeviceEdit) (now : Nat) : Edited db (updateDevice db edit now) := by
  unfold updateDevice
  split
  · exact Edited.refl db
  split
  · exact Edited.refl db
  · refine ⟨rfl, ?_, ?_, ?_⟩
    · intro deviceId hdevice
      simp only [supersedeItems, Db.setTargets_queue, Queue.Db.setHead, Queue.Db.setItems]
      rw [Table.find_update, Option.isSome_map]
      exact hdevice
    · dsimp only
      exact supersedeItems_items rfl edit.deviceId _ now
    · have hkey : ∀ target : Target, ({ target with state := { target.state with
        status := .cancelledFutureSchedule, lastErrorCode := some "QUEUE-005", updatedAt := now } } : Target).key = target.key :=
        fun _ => rfl
      exact Table.Grows.update hkey (fun _ _ _ => .inr ⟨⟨rfl, rfl⟩, rfl⟩) fun _ _ _ => .inl rfl

lemma setRelease_edited (releaseId : ReleaseId) (status : Queue.ReleaseStatus) (payloadPruned : Bool) :
    Edited db (setRelease db releaseId status payloadPruned) :=
  ⟨rfl, fun _ h => h, Table.Follows.refl SameItem.refl _, Table.Grows.refl (fun _ => .inl rfl) _⟩

lemma Edited.status (h : Edited db db') (rolloutId : String) : statusOf db' rolloutId = statusOf db rolloutId := by
  rw [statusOf, statusOf, h.campaigns]

lemma Sound.edited (h : Sound db) (hedited : Edited db db') : Sound db' := by
  have hevolves : Evolves db db' := by
    refine ⟨hedited.devices, hedited.items, ?_, ?_⟩
    · intro rolloutId hsome
      rwa [hedited.status]
    · intro rolloutId _ hdraft
      rwa [hedited.status] at hdraft
  refine h.evolve hevolves (hedited.rows.mono ?_ fun _ _ hnew => hnew) (fun _ hnew => hnew.elim) ?_
  · rintro before - after - - (rfl | ⟨hplace, -⟩)
    · exact ⟨rfl, .inl rfl⟩
    · exact PlaceKept.of_same hplace
  · intro rolloutId hrun
    rwa [isRunning, hedited.status] at hrun

/-- Every step is a call with turns, or an edit. -/
theorem step_cases (h : Sound db) (op : Op) : Call (SettledIn db op) db (step db op) ∨ Edited db (step db op) := by
  have hcommitted : ∀ {outcome : Except RolloutError Db}, (∀ db', outcome = .ok db' → Call (SettledIn db op) db db') →
      Call (SettledIn db op) db (committed outcome db) := by
    intro outcome hok
    cases outcome with
    | ok db' => exact hok db' rfl
    | error error => exact Call.refl db
  cases op with
  | create rolloutId releaseId stages now => exact .inl (hcommitted fun db' hok => createRollout_call hok)
  | start rolloutId now drawn => exact .inl (hcommitted fun db' hok => startRollout_call hok)
  | transition rolloutId action reason now drawn =>
    refine .inl (hcommitted fun db' hok => ?_)
    cases houtcome : transitionRollout db rolloutId action.target reason now drawn with
    | error error =>
      rw [houtcome] at hok
      cases hok
    | ok result =>
      obtain ⟨next, refusal⟩ := result
      rw [houtcome] at hok
      obtain rfl := Except.ok.inj hok
      exact transitionRollout_call h.devices houtcome
  | evaluate now limit drawn => exact .inl (hcommitted fun db' hok => evaluateRollouts_call h.devices hok)
  | queueAck deviceId ack now drawn => exact .inl (hcommitted fun db' hok => queueAck_call h.devices h.items hok)
  | updateDevice edit now => exact .inr (updateDevice_edited edit now)
  | setRelease releaseId status payloadPruned => exact .inr (setRelease_edited releaseId status payloadPruned)

theorem Sound.step (h : Sound db) (op : Op) : Sound (step db op) := by
  obtain hcall | hedited := step_cases h op
  · exact h.call hcall
  · exact h.edited hedited

theorem sound_of_run (queue : Queue.Db) (ops : List Op) : Sound (Runs.run step (Db.start queue) ops) :=
  Runs.invariant_of_run (fun _ op h => h.step op) (Sound.start queue) ops

end InkTime.Rollouts
