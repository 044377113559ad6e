import InkTime.Scan.Model

/-!
# Groups of new photos

What one item of a batch of new photos does to the plans, the pending entries and the updates of groups, and what holds of the
items with one perceptual hash after any number of them.
-/

namespace InkTime.Scan

/-! ### Plans and their groups -/

lemma given_eq_some {group : Option String} {text : String} : given group = some text ↔ group = some text ∧ text ≠ "" := by
  unfold given
  rw [Option.filter_eq_some_iff, decide_eq_true_eq]

lemma Plan.id_regroup (id group : String) (plan : Plan) : (plan.regroup id group).id = plan.id := by
  unfold Plan.regroup
  split
  · rfl
  · rfl

namespace Batch

variable {batch : Batch} {id other : String}

lemma find?_setPlanGroup (group : String) : (batch.setPlanGroup id group).plans.find? (·.id = other) =
    (batch.plans.find? (·.id = other)).map (Plan.regroup id group) := by
  unfold setPlanGroup
  rw [List.find?_map]
  congr 2
  funext plan
  rw [Function.comp_apply, Plan.id_regroup]

lemma hasPlan_iff : batch.hasPlan id = true ↔ id ∈ batch.plans.map Plan.id := by
  unfold hasPlan
  rw [List.any_eq_true, List.mem_map]
  simp only [decide_eq_true_eq]

/-- Only the plan that is named gets the group. -/
lemma planGroup_setPlanGroup (group : String) : (batch.setPlanGroup id group).planGroup other =
    if other = id ∧ batch.hasPlan id = true then some group else batch.planGroup other := by
  unfold planGroup
  rw [find?_setPlanGroup]
  cases hfind : batch.plans.find? (·.id = other) with
  | none =>
    have hnone : ¬(other = id ∧ batch.hasPlan id = true) := by
      rintro ⟨rfl, hhas⟩
      obtain ⟨plan, hplan, hid⟩ := List.any_eq_true.mp hhas
      exact List.find?_eq_none.mp hfind plan hplan hid
    rw [if_neg hnone]
    rfl
  | some plan =>
    have hid : plan.id = other := of_decide_eq_true (List.find?_some (p := fun plan : Plan => decide (plan.id = other)) hfind)
    rw [Option.map_some, Option.bind_some, Option.bind_some]
    by_cases hsame : other = id
    · have hhas : batch.hasPlan id = true :=
        List.any_eq_true.mpr ⟨plan, List.mem_of_find?_eq_some hfind, decide_eq_true (hid.trans hsame)⟩
      rw [Plan.regroup, if_pos (hid.trans hsame), if_pos ⟨hsame, hhas⟩]
    · rw [Plan.regroup, if_neg (fun heq => hsame (hid.symm.trans heq)), if_neg (fun hboth => hsame hboth.1)]

lemma hasPlan_setPlanGroup (group : String) : (batch.setPlanGroup id group).hasPlan other = batch.hasPlan other := by
  unfold hasPlan setPlanGroup
  rw [List.any_map]
  congr 1
  funext plan
  rw [Function.comp_apply, Plan.id_regroup]

end Batch

/-! ### A batch of new photos -/

section

variable (reading : Reading)

/-- No photo has the path or the content of the item. -/
structure Reading.New (item : PreparedScanPhoto) : Prop where
  path : reading.byPath item.relativePath = none
  content : reading.byHash item.features.sha256 = []

/-- A group that a stored photo has or that was drawn. -/
def Known (drawn : ℕ) (group : String) : Prop :=
  (∃ n < drawn, group = reading.uuid n) ∨ ∃ hash, ∃ photo ∈ reading.byPhash hash, photo.duplicateGroupId = some group

/-- Every text that is drawn is new, and none is empty; photos are told apart by their ids. -/
structure Uuids : Prop where
  injective : Function.Injective reading.uuid
  nonempty : ∀ n, reading.uuid n ≠ ""
  newId : ∀ n hash, ∀ photo ∈ reading.byPhash hash, photo.id ≠ reading.uuid n
  newGroup : ∀ n hash, ∀ photo ∈ reading.byPhash hash, photo.duplicateGroupId ≠ some (reading.uuid n)
  apart : ∀ hash, ∀ photo ∈ reading.byPhash hash, ∀ other, ∀ photo' ∈ reading.byPhash other, photo.id = photo'.id → hash = other
  distinct : ∀ hash, ((reading.byPhash hash).map Photo.id).Nodup

/-- Only inserts are planned, one for each item, under ids that were drawn. -/
structure Tidy (done : List PreparedScanPhoto) (batch : Batch) : Prop where
  reserved : batch.reservedMoveIds = []
  moves : batch.moveParameters = []
  changed : batch.changedIds = []
  old : batch.oldGroups = []
  items : batch.plans.map Plan.item = done
  existing : ∀ plan ∈ batch.plans, plan.existing = none
  pending : batch.pending.map (fun pending => (pending.source.id, pending.sha256, pending.perceptualHash)) =
    batch.plans.map fun plan => (plan.id, plan.item.features.sha256, plan.item.features.perceptualHash)
  nodup : (batch.plans.map Plan.id).Nodup
  drawn : ∀ id ∈ batch.plans.map Plan.id, ∃ n < batch.drawn, id = reading.uuid n
  planned : ∀ id group, batch.planGroup id = some group → Known reading batch.drawn group
  entered : ∀ pending ∈ batch.pending, ∀ group, pending.source.duplicateGroupId = some group → Known reading batch.drawn group

/-- The group that the next item gets. -/
def newGroup (batch : Batch) (item : PreparedScanPhoto) : Option String :=
  (duplicateSource reading batch item).map fun source => joinedGroup reading source none (batch.drawn + 1)

/-- The entry of the next item. -/
def newEntry (batch : Batch) (item : PreparedScanPhoto) : Pending :=
  ⟨⟨reading.uuid batch.drawn, item.relativePath, newGroup reading batch item⟩, item.features.sha256, item.features.perceptualHash⟩

/-- What one new item does. -/
structure Adds (batch : Batch) (item : PreparedScanPhoto) (later : Batch) : Prop where
  pending : later.pending = batch.pending ++ [newEntry reading batch item]
  planGroup : ∀ id, later.planGroup id =
    if id = reading.uuid batch.drawn ∨ (duplicateSource reading batch item).any (·.id = id) ∧ batch.hasPlan id = true then
      newGroup reading batch item
    else batch.planGroup id
  groupUpdates : ∀ id, later.groupUpdates id =
    if (duplicateSource reading batch item).any (fun source => source.id = id ∧ given source.duplicateGroupId = none) ∧
        batch.hasPlan id = false then
      newGroup reading batch item
    else batch.groupUpdates id
  drawn : batch.drawn < later.drawn
  fresh : ∀ source, duplicateSource reading batch item = some source → given source.duplicateGroupId = none → batch.drawn + 1 < later.drawn

end

section

variable {reading : Reading} {done : List PreparedScanPhoto} {batch : Batch} {item : PreparedScanPhoto}

lemma Tidy.map_ids (h : Tidy reading done batch) : batch.pending.map (fun pending => pending.source.id) = batch.plans.map Plan.id := by
  have hfirst := congrArg (List.map Prod.fst) h.pending
  rwa [List.map_map, List.map_map] at hfirst

lemma Tidy.hasPlan (h : Tidy reading done batch) {pending : Pending} (hpending : pending ∈ batch.pending) :
    batch.hasPlan pending.source.id = true := by
  rw [Batch.hasPlan_iff, ← h.map_ids]
  exact List.mem_map.mpr ⟨pending, hpending, rfl⟩

lemma exactSources_new (hitem : reading.New item) : exactSources reading batch item = batch.pendingByHash item.features.sha256 := by
  unfold exactSources
  rw [hitem.content]
  rfl

lemma eligibleExact_new (h : Tidy reading done batch) (hitem : reading.New item) :
    eligibleExact reading batch item = batch.pendingByHash item.features.sha256 := by
  unfold eligibleExact
  rw [exactSources_new hitem, h.reserved]
  apply List.filter_eq_self.mpr
  intro source _
  exact decide_eq_true List.not_mem_nil

lemma nearSources_new (hitem : reading.New item) {hash : String} (hhash : item.features.perceptualHash = some hash) :
    nearSources reading batch item = (reading.byPhash hash).map Photo.source ++ batch.pendingByPhash hash := by
  unfold nearSources
  rw [hhash]
  apply List.filter_eq_self.mpr
  intro source _
  rw [hitem.path]
  rfl

/-- An earlier item has a plan, so it is not moved. -/
lemma movable_new (h : Tidy reading done batch) (hitem : reading.New item) : movable reading batch item = [] := by
  unfold movable
  rw [exactSources_new hitem]
  apply List.filter_eq_nil_iff.mpr
  intro source hsource
  obtain ⟨pending, hpending, rfl⟩ := List.mem_map.mp hsource
  simp [h.hasPlan (List.mem_of_mem_filter hpending)]

lemma itemStep_new (h : Tidy reading done batch) (hitem : reading.New item) :
    itemStep reading batch item = planStep reading batch item := by
  unfold itemStep
  rw [movable_new h hitem]

variable (batch) in
lemma planGroup_addPlan {existing : Option Photo} {draft : Draft} {id : String} {group : Option String} {inherited : Bool}
    (hfresh : id ∉ batch.plans.map Plan.id) (other : String) :
    (addPlan batch item existing draft id group inherited).planGroup other = if other = id then group else batch.planGroup other := by
  unfold addPlan Batch.planGroup
  dsimp only
  rw [List.find?_append]
  by_cases hsame : other = id
  · subst hsame
    have hnone : batch.plans.find? (fun plan => decide (plan.id = other)) = none := by
      apply List.find?_eq_none.mpr
      intro plan hplan hid
      exact hfresh (List.mem_map.mpr ⟨plan, hplan, of_decide_eq_true hid⟩)
    rw [hnone, if_pos rfl]
    simp
  · rw [if_neg hsame]
    cases hfind : batch.plans.find? (fun plan => decide (plan.id = other)) with
    | some plan => rfl
    | none =>
      have hne : ¬id = other := fun heq => hsame heq.symm
      simp [hne]

lemma planStep_none (hitem : reading.New item) (hsource : duplicateSource reading batch item = none) :
    planStep reading batch item = addPlan (batch.withDrawn (batch.drawn + 1)) item none
      (draft item none (inherited reading batch item)) (reading.uuid batch.drawn) none (inherited reading batch item) := by
  unfold planStep
  rw [hsource, hitem.path]
  rfl

lemma planStep_some (hitem : reading.New item) {source : Source} (hsource : duplicateSource reading batch item = some source) :
    planStep reading batch item = addPlan
      (setGroup (batch.withDrawn (drawnForGroup source none (batch.drawn + 1))) source
        (joinedGroup reading source none (batch.drawn + 1)))
      item none (draft item none (inherited reading batch item)) (reading.uuid batch.drawn)
      (some (joinedGroup reading source none (batch.drawn + 1))) (inherited reading batch item) := by
  unfold planStep
  rw [hsource, hitem.path]
  rfl

lemma planGroup_setGroup (source : Source) (group id : String) : (setGroup batch source group).planGroup id =
    if source.id = id ∧ batch.hasPlan id = true then some group else batch.planGroup id := by
  unfold setGroup
  by_cases hplan : batch.hasPlan source.id = true
  · rw [if_pos hplan, Batch.planGroup_setPlanGroup]
    apply if_congr _ rfl rfl
    constructor
    · rintro ⟨rfl, hhas⟩
      exact ⟨rfl, hhas⟩
    · rintro ⟨rfl, hhas⟩
      exact ⟨rfl, hhas⟩
  · have hnot : ¬(source.id = id ∧ batch.hasPlan id = true) := fun hboth => hplan (hboth.1 ▸ hboth.2)
    rw [if_neg hplan, if_neg hnot]
    split
    · rfl
    · rfl

lemma groupUpdates_setGroup (source : Source) (group id : String) : (setGroup batch source group).groupUpdates id =
    if (source.id = id ∧ given source.duplicateGroupId = none) ∧ batch.hasPlan id = false then some group
    else batch.groupUpdates id := by
  unfold setGroup
  by_cases hplan : batch.hasPlan source.id = true
  · have hnot : ¬((source.id = id ∧ given source.duplicateGroupId = none) ∧ batch.hasPlan id = false) := by
      rintro ⟨⟨rfl, -⟩, hhas⟩
      rw [hplan] at hhas
      cases hhas
    rw [if_pos hplan, if_neg hnot]
    rfl
  · rw [if_neg hplan]
    by_cases hgroup : given source.duplicateGroupId = none
    · rw [if_pos hgroup]
      dsimp only
      by_cases hid : source.id = id
      · subst hid
        rw [Function.update_self, if_pos ⟨⟨rfl, hgroup⟩, Bool.eq_false_iff.mpr hplan⟩]
      · rw [Function.update_of_ne (fun heq => hid heq.symm), if_neg (fun hall => hid hall.1.1)]
    · rw [if_neg hgroup, if_neg (fun hall => hgroup hall.1.2)]

variable (batch) in
lemma plans_setGroup (source : Source) (group : String) :
    (setGroup batch source group).plans.map (fun plan => (plan.id, plan.item, plan.existing)) =
      batch.plans.map fun plan => (plan.id, plan.item, plan.existing) := by
  unfold setGroup
  split
  · unfold Batch.setPlanGroup
    rw [List.map_map]
    apply List.map_congr_left
    intro plan _
    unfold Function.comp Plan.regroup
    split
    · rfl
    · rfl
  · split
    · rfl
    · rfl

variable (batch) in
/-- The other variables of the batch stay as they are. -/
lemma setGroup_frame (source : Source) (group : String) :
    (setGroup batch source group).pending = batch.pending ∧ (setGroup batch source group).drawn = batch.drawn ∧
      (setGroup batch source group).reservedMoveIds = batch.reservedMoveIds ∧
      (setGroup batch source group).moveParameters = batch.moveParameters ∧
      (setGroup batch source group).changedIds = batch.changedIds ∧ (setGroup batch source group).oldGroups = batch.oldGroups := by
  unfold setGroup
  split
  · exact ⟨rfl, rfl, rfl, rfl, rfl, rfl⟩
  · split
    · exact ⟨rfl, rfl, rfl, rfl, rfl, rfl⟩
    · exact ⟨rfl, rfl, rfl, rfl, rfl, rfl⟩

lemma Tidy.fresh_id (huuids : Uuids reading) (h : Tidy reading done batch) : reading.uuid batch.drawn ∉ batch.plans.map Plan.id := by
  intro hmem
  obtain ⟨n, hn, hid⟩ := h.drawn _ hmem
  have := huuids.injective hid
  omega

/-- One new item adds its plan and its entry, and gives its group to its source. -/
lemma itemStep_adds (huuids : Uuids reading) (h : Tidy reading done batch) (hitem : reading.New item) :
    Adds reading batch item (itemStep reading batch item) := by
  have hfresh := h.fresh_id huuids
  rw [itemStep_new h hitem]
  cases hsource : duplicateSource reading batch item with
  | none =>
    have hgroup : newGroup reading batch item = none := by
      unfold newGroup
      rw [hsource]
      rfl
    rw [planStep_none hitem hsource]
    constructor
    · rw [newEntry, hgroup]
      rfl
    · intro id
      rw [planGroup_addPlan (batch.withDrawn (batch.drawn + 1)) hfresh, hsource, hgroup]
      simp [Batch.planGroup, Batch.withDrawn]
    · intro id
      rw [hsource]
      simp [addPlan, Batch.withDrawn]
    · exact Nat.lt_succ_self _
    · intro source hsome
      rw [hsource] at hsome
      cases hsome
  | some source =>
    have hgroup : newGroup reading batch item = some (joinedGroup reading source none (batch.drawn + 1)) := by
      unfold newGroup
      rw [hsource]
      rfl
    rw [planStep_some hitem hsource]
    generalize joinedGroup reading source none (batch.drawn + 1) = group at hgroup
    obtain ⟨hpending, hdrawn, -⟩ :=
      setGroup_frame (batch.withDrawn (drawnForGroup source none (batch.drawn + 1))) source group
    have hids : (setGroup (batch.withDrawn (drawnForGroup source none (batch.drawn + 1))) source group).plans.map Plan.id =
        batch.plans.map Plan.id := by
      have hfirst := congrArg (List.map Prod.fst)
        (plans_setGroup (batch.withDrawn (drawnForGroup source none (batch.drawn + 1))) source group)
      rwa [List.map_map, List.map_map] at hfirst
    constructor
    · rw [newEntry, hgroup]
      change (setGroup _ source group).pending ++ _ = _
      rw [hpending]
      rfl
    · intro id
      rw [planGroup_addPlan _ (hids ▸ hfresh), planGroup_setGroup, hsource, hgroup]
      change (if id = reading.uuid batch.drawn then some group
        else if source.id = id ∧ batch.hasPlan id = true then some group else batch.planGroup id) = _
      simp only [Option.any_some, decide_eq_true_eq, ite_or]
    · intro id
      change (setGroup _ source group).groupUpdates id = _
      rw [groupUpdates_setGroup, hsource, hgroup]
      simp [Batch.hasPlan, Batch.withDrawn]
    · change _ < (setGroup _ source group).drawn
      rw [hdrawn]
      change batch.drawn < drawnForGroup source none (batch.drawn + 1)
      unfold drawnForGroup
      split
      · omega
      · omega
    · intro other hother hnone
      obtain rfl := Option.some.inj (hsource.symm.trans hother)
      change _ < (setGroup _ source group).drawn
      rw [hdrawn]
      change _ < drawnForGroup source none (batch.drawn + 1)
      unfold drawnForGroup
      rw [hnone]
      exact Nat.lt_succ_self _

lemma Known.mono {drawn later : ℕ} (hle : drawn ≤ later) {group : String} (h : Known reading drawn group) :
    Known reading later group := by
  obtain ⟨n, hn, heq⟩ | hstored := h
  · exact .inl ⟨n, hn.trans_le hle, heq⟩
  · exact .inr hstored

/-- The source of an item is an earlier item with its perceptual hash, or a stored photo with it. -/
lemma source_cases (h : Tidy reading done batch) (hitem : reading.New item) {source : Source}
    (hsource : duplicateSource reading batch item = some source) :
    (∃ pending ∈ batch.pending, pending.source = source ∧ (pending.sha256 = item.features.sha256 ∨
      item.features.perceptualHash ≠ none ∧ pending.perceptualHash = item.features.perceptualHash)) ∨
    ∃ hash, item.features.perceptualHash = some hash ∧ ∃ photo ∈ reading.byPhash hash, photo.source = source := by
  unfold duplicateSource at hsource
  rw [eligibleExact_new h hitem] at hsource
  obtain hexact | hnear := List.mem_append.mp (List.mem_of_mem_head? hsource)
  · obtain ⟨pending, hpending, rfl⟩ := List.mem_map.mp hexact
    obtain ⟨hin, hsha⟩ := List.mem_filter.mp hpending
    exact .inl ⟨pending, hin, rfl, .inl (of_decide_eq_true hsha)⟩
  · cases hhash : item.features.perceptualHash with
    | none =>
      unfold nearSources at hnear
      rw [hhash] at hnear
      cases hnear
    | some hash =>
      rw [nearSources_new hitem hhash] at hnear
      obtain hstored | hearlier := List.mem_append.mp hnear
      · obtain ⟨photo, hphoto, rfl⟩ := List.mem_map.mp hstored
        exact .inr ⟨hash, rfl, photo, hphoto, rfl⟩
      · obtain ⟨pending, hpending, rfl⟩ := List.mem_map.mp hearlier
        obtain ⟨hin, hsame⟩ := List.mem_filter.mp hpending
        exact .inl ⟨pending, hin, rfl, .inr ⟨by simp, of_decide_eq_true hsame⟩⟩

/-- The group of an item is that of its source, or it is new. -/
lemma newGroup_some {source : Source} (hsource : duplicateSource reading batch item = some source) :
    newGroup reading batch item = some ((given source.duplicateGroupId).getD (reading.uuid (batch.drawn + 1))) := by
  have hnone : given none = none := rfl
  unfold newGroup joinedGroup
  rw [hsource, Option.map_some, hnone, Option.or_none]

lemma newGroup_known (huuids : Uuids reading) (h : Tidy reading done batch) (hitem : reading.New item) {group : String}
    (hgroup : newGroup reading batch item = some group) : Known reading (itemStep reading batch item).drawn group := by
  have hadds := itemStep_adds huuids h hitem
  cases hsource : duplicateSource reading batch item with
  | none =>
    unfold newGroup at hgroup
    rw [hsource] at hgroup
    cases hgroup
  | some source =>
    rw [newGroup_some hsource] at hgroup
    obtain rfl := Option.some.inj hgroup
    cases hgiven : given source.duplicateGroupId with
    | none => exact .inl ⟨batch.drawn + 1, hadds.fresh source hsource hgiven, rfl⟩
    | some group =>
      rw [Option.getD_some]
      have hsome := (given_eq_some.mp hgiven).1
      obtain ⟨pending, hpending, rfl, -⟩ | ⟨hash, -, photo, hphoto, rfl⟩ := source_cases h hitem hsource
      · exact (h.entered pending hpending group hsome).mono hadds.drawn.le
      · exact .inr ⟨hash, photo, hphoto, hsome⟩

lemma plans_itemStep (h : Tidy reading done batch) (hitem : reading.New item) :
    (itemStep reading batch item).plans.map (fun plan => (plan.id, plan.item, plan.existing)) =
      batch.plans.map (fun plan => (plan.id, plan.item, plan.existing)) ++ [(reading.uuid batch.drawn, item, none)] := by
  rw [itemStep_new h hitem]
  cases hsource : duplicateSource reading batch item with
  | none =>
    rw [planStep_none hitem hsource]
    unfold addPlan
    rw [List.map_append]
    rfl
  | some source =>
    rw [planStep_some hitem hsource]
    unfold addPlan
    rw [List.map_append, plans_setGroup]
    rfl

lemma frame_itemStep (h : Tidy reading done batch) (hitem : reading.New item) :
    (itemStep reading batch item).reservedMoveIds = batch.reservedMoveIds ∧
      (itemStep reading batch item).moveParameters = batch.moveParameters ∧
      (itemStep reading batch item).changedIds = batch.changedIds ∧ (itemStep reading batch item).oldGroups = batch.oldGroups := by
  rw [itemStep_new h hitem]
  cases hsource : duplicateSource reading batch item with
  | none =>
    rw [planStep_none hitem hsource]
    exact ⟨rfl, rfl, rfl, rfl⟩
  | some source =>
    rw [planStep_some hitem hsource]
    exact (setGroup_frame _ source _).2.2

lemma Tidy.step (huuids : Uuids reading) (h : Tidy reading done batch) (hitem : reading.New item) :
    Tidy reading (done ++ [item]) (itemStep reading batch item) := by
  have hadds := itemStep_adds huuids h hitem
  have hplans := plans_itemStep h hitem
  obtain ⟨hreserved, hmoves, hchanged, hold⟩ := frame_itemStep h hitem
  have hids : (itemStep reading batch item).plans.map Plan.id = batch.plans.map Plan.id ++ [reading.uuid batch.drawn] := by
    simpa [List.map_map, Function.comp_def] using congrArg (List.map Prod.fst) hplans
  have hitems : (itemStep reading batch item).plans.map Plan.item = batch.plans.map Plan.item ++ [item] := by
    simpa [List.map_map, Function.comp_def] using congrArg (List.map fun entry => entry.2.1) hplans
  have hexisting : (itemStep reading batch item).plans.map Plan.existing = batch.plans.map Plan.existing ++ [none] := by
    simpa [List.map_map, Function.comp_def] using congrArg (List.map fun entry => entry.2.2) hplans
  have hentries : (itemStep reading batch item).plans.map
      (fun plan => (plan.id, plan.item.features.sha256, plan.item.features.perceptualHash)) =
      batch.plans.map (fun plan => (plan.id, plan.item.features.sha256, plan.item.features.perceptualHash)) ++
        [(reading.uuid batch.drawn, item.features.sha256, item.features.perceptualHash)] := by
    simpa [List.map_map, Function.comp_def] using
      congrArg (List.map fun entry => (entry.1, entry.2.1.features.sha256, entry.2.1.features.perceptualHash)) hplans
  constructor
  · rw [hreserved, h.reserved]
  · rw [hmoves, h.moves]
  · rw [hchanged, h.changed]
  · rw [hold, h.old]
  · rw [hitems, h.items]
  · intro plan hplan
    have hmem : plan.existing ∈ batch.plans.map Plan.existing ++ [none] := hexisting ▸ List.mem_map.mpr ⟨plan, hplan, rfl⟩
    obtain hbefore | hnew := List.mem_append.mp hmem
    · obtain ⟨earlier, hearlier, heq⟩ := List.mem_map.mp hbefore
      rw [← heq, h.existing earlier hearlier]
    · exact List.mem_singleton.mp hnew
  · rw [hadds.pending, List.map_append, h.pending, hentries]
    rfl
  · rw [hids]
    apply List.nodup_append.mpr
    refine ⟨h.nodup, List.nodup_singleton _, ?_⟩
    intro id hid other hother heq
    rw [List.mem_singleton.mp hother] at heq
    exact h.fresh_id huuids (heq ▸ hid)
  · intro id hid
    rw [hids] at hid
    obtain hbefore | hnew := List.mem_append.mp hid
    · obtain ⟨n, hn, heq⟩ := h.drawn id hbefore
      exact ⟨n, hn.trans hadds.drawn, heq⟩
    · exact ⟨batch.drawn, hadds.drawn, List.mem_singleton.mp hnew⟩
  · intro id group hgroup
    rw [hadds.planGroup] at hgroup
    split at hgroup
    · exact newGroup_known huuids h hitem hgroup
    · exact (h.planned id group hgroup).mono hadds.drawn.le
  · intro pending hpending group hgroup
    rw [hadds.pending] at hpending
    obtain hbefore | hnew := List.mem_append.mp hpending
    · exact (h.entered pending hbefore group hgroup).mono hadds.drawn.le
    · rw [List.mem_singleton.mp hnew] at hgroup
      exact newGroup_known huuids h hitem hgroup

end

end InkTime.Scan
