import InkTime.Scan.Unstored

/-!
# The groups of copies

After the loop over the items, items of one content get the first group that one of their plans has. An item that is the first of
its content gives its group to every copy of it.
-/

namespace InkTime.Scan

section

variable {reading : Reading} {batch later : Batch} {first pending : Pending} {group sha256 id : String}

/-- Only the groups of plans differ. -/
structure Regrouped (batch later : Batch) : Prop where
  pending : later.pending = batch.pending
  groupUpdates : later.groupUpdates = batch.groupUpdates
  moves : later.moveParameters = batch.moveParameters
  changed : later.changedIds = batch.changedIds
  old : later.oldGroups = batch.oldGroups
  plans : later.plans.map (fun plan => (plan.id, plan.item, plan.existing)) =
    batch.plans.map fun plan => (plan.id, plan.item, plan.existing)

lemma Regrouped.refl (batch : Batch) : Regrouped batch batch := ⟨rfl, rfl, rfl, rfl, rfl, rfl⟩

lemma Regrouped.trans {last : Batch} (h : Regrouped batch later) (h' : Regrouped later last) : Regrouped batch last :=
  ⟨h'.pending.trans h.pending, h'.groupUpdates.trans h.groupUpdates, h'.moves.trans h.moves, h'.changed.trans h.changed,
    h'.old.trans h.old, h'.plans.trans h.plans⟩

lemma regrouped_setPlanGroup (batch : Batch) (id group : String) : Regrouped batch (batch.setPlanGroup id group) := by
  refine ⟨rfl, rfl, rfl, rfl, rfl, ?_⟩
  unfold Batch.setPlanGroup
  rw [List.map_map]
  apply List.map_congr_left
  intro plan _
  unfold Function.comp Plan.regroup
  split
  · rfl
  · rfl

lemma regrouped_foldl (values : List Source) (group : String) (batch : Batch) :
    Regrouped batch (values.foldl (fun batch value => batch.setPlanGroup value.id group) batch) := by
  induction values generalizing batch with
  | nil => exact .refl batch
  | cons value rest ih => exact (regrouped_setPlanGroup batch value.id group).trans (ih _)

lemma regrouped_backfillHash (reading : Reading) (batch : Batch) (sha256 : String) :
    Regrouped batch (backfillHash reading batch sha256) := by
  unfold backfillHash
  dsimp only
  split
  · exact .refl batch
  · obtain ⟨hpending, hupdates, hmoves, hchanged, hold, hplans⟩ := regrouped_foldl (batch.pendingByHash sha256)
      (((batch.pendingByHash sha256).findSome? fun value => given (batch.planGroup value.id)).getD (reading.uuid batch.drawn)) batch
    exact ⟨hpending, hupdates, hmoves, hchanged, hold, hplans⟩

lemma regrouped_backfill (reading : Reading) (hashes : List String) (batch : Batch) :
    Regrouped batch (hashes.foldl (backfillHash reading) batch) := by
  induction hashes generalizing batch with
  | nil => exact .refl batch
  | cons sha256 rest ih => exact (regrouped_backfillHash reading batch sha256).trans (ih _)

lemma Regrouped.map_id (h : Regrouped batch later) : later.plans.map Plan.id = batch.plans.map Plan.id := by
  have hids := congrArg (List.map Prod.fst) h.plans
  rwa [List.map_map, List.map_map] at hids

lemma Regrouped.map_item (h : Regrouped batch later) : later.plans.map Plan.item = batch.plans.map Plan.item := by
  have hitems := congrArg (List.map fun entry => entry.2.1) h.plans
  rwa [List.map_map, List.map_map] at hitems

lemma Regrouped.map_existing (h : Regrouped batch later) : later.plans.map Plan.existing = batch.plans.map Plan.existing := by
  have hexisting := congrArg (List.map fun entry => entry.2.2) h.plans
  rwa [List.map_map, List.map_map] at hexisting

lemma Regrouped.hasPlan (h : Regrouped batch later) (id : String) : later.hasPlan id = batch.hasPlan id := by
  rw [Bool.eq_iff_iff, Batch.hasPlan_iff, Batch.hasPlan_iff, h.map_id]

lemma planGroup_foldl (values : List Source) (hplans : ∀ value ∈ values, batch.hasPlan value.id = true) :
    (values.foldl (fun batch value => batch.setPlanGroup value.id group) batch).planGroup id =
      if id ∈ values.map Source.id then some group else batch.planGroup id := by
  induction values generalizing batch with
  | nil => rfl
  | cons value rest ih =>
    have hrest : ∀ other ∈ rest, (batch.setPlanGroup value.id group).hasPlan other.id = true := by
      intro other hother
      rw [Batch.hasPlan_setPlanGroup]
      exact hplans other (List.mem_cons_of_mem _ hother)
    rw [List.foldl_cons, ih hrest, Batch.planGroup_setPlanGroup, List.map_cons]
    by_cases hid : id = value.id
    · have hboth : id = value.id ∧ batch.hasPlan value.id = true := ⟨hid, hplans value (List.mem_cons_self ..)⟩
      have hmem : id ∈ value.id :: rest.map Source.id := List.mem_cons.mpr (.inl hid)
      rw [if_pos hboth, if_pos hmem, ite_self]
    · simp [hid]

variable (reading) in
/-- A plan of another content keeps its group. -/
lemma planGroup_backfillHash_other (hplans : ∀ pending ∈ batch.pending, batch.hasPlan pending.source.id = true)
    (hnodup : (batch.pending.map fun pending => pending.source.id).Nodup) (hpending : pending ∈ batch.pending)
    (hsha : pending.sha256 ≠ sha256) :
    (backfillHash reading batch sha256).planGroup pending.source.id = batch.planGroup pending.source.id := by
  have hvalues : ∀ value ∈ batch.pendingByHash sha256, batch.hasPlan value.id = true := by
    intro value hvalue
    obtain ⟨other, hother, rfl⟩ := List.mem_map.mp hvalue
    exact hplans other (List.mem_of_mem_filter hother)
  have hnot : pending.source.id ∉ (batch.pendingByHash sha256).map Source.id := by
    intro hmem
    obtain ⟨value, hvalue, hid⟩ := List.mem_map.mp hmem
    obtain ⟨other, hother, rfl⟩ := List.mem_map.mp hvalue
    obtain ⟨hin, hsame⟩ := List.mem_filter.mp hother
    obtain rfl := List.inj_on_of_nodup_map hnodup hin hpending hid
    exact hsha (of_decide_eq_true hsame)
  unfold backfillHash
  dsimp only
  split
  · rfl
  · change (List.foldl _ batch _).planGroup _ = _
    rw [planGroup_foldl _ hvalues, if_neg hnot]

/-- The copies of the first item of a content get its group. -/
lemma planGroup_backfillHash_same (hplans : ∀ pending ∈ batch.pending, batch.hasPlan pending.source.id = true)
    (hfirst : IsFirst batch first) (hgroup : batch.planGroup first.source.id = some group) (hne : group ≠ "")
    (hpending : pending ∈ batch.pending) (hsha : pending.sha256 = first.sha256) :
    (backfillHash reading batch first.sha256).planGroup pending.source.id = some group := by
  have hhead : (batch.pending.filter fun pending => pending.sha256 = first.sha256).head? = some first := by
    rw [List.head?_filter]
    exact hfirst
  obtain ⟨rest, hrest⟩ := List.head?_eq_some_iff.mp hhead
  have hvalues : batch.pendingByHash first.sha256 = first.source :: rest.map Pending.source := by
    unfold Batch.pendingByHash
    rw [hrest, List.map_cons]
  have hmem : pending ∈ first :: rest := hrest ▸ List.mem_filter.mpr ⟨hpending, decide_eq_true hsha⟩
  have hall : ∀ value ∈ batch.pendingByHash first.sha256, batch.hasPlan value.id = true := by
    intro value hvalue
    obtain ⟨other, hother, rfl⟩ := List.mem_map.mp hvalue
    exact hplans other (List.mem_of_mem_filter hother)
  unfold backfillHash
  dsimp only
  split
  · next hfew =>
    rw [hvalues, List.length_cons, List.length_map] at hfew
    have hnil : rest = [] := List.length_eq_zero_iff.mp (by omega)
    rw [hnil, List.mem_singleton] at hmem
    rw [hmem, hgroup]
  · have hfound : (batch.pendingByHash first.sha256).findSome? (fun value => given (batch.planGroup value.id)) = some group := by
      rw [hvalues, List.findSome?_cons, hgroup, given_eq_some.mpr ⟨rfl, hne⟩]
    have hid : pending.source.id ∈ (batch.pendingByHash first.sha256).map Source.id := by
      rw [hvalues]
      exact List.mem_map_of_mem (List.mem_map_of_mem (f := Pending.source) hmem)
    rw [hfound, Option.getD_some]
    change (List.foldl _ batch _).planGroup _ = _
    rw [planGroup_foldl _ hall, if_pos hid]

/-- The group of the first item of a content stays, and its copies have it once their content was looked at. -/
lemma planGroup_backfill (hashes : List String) (hplans : ∀ pending ∈ batch.pending, batch.hasPlan pending.source.id = true)
    (hnodup : (batch.pending.map fun pending => pending.source.id).Nodup) (hin : first ∈ batch.pending) (hfirst : IsFirst batch first)
    (hgroup : batch.planGroup first.source.id = some group) (hne : group ≠ "") (hpending : pending ∈ batch.pending)
    (hsha : pending.sha256 = first.sha256)
    (hdone : first.sha256 ∈ hashes ∨ batch.planGroup pending.source.id = some group) :
    (hashes.foldl (backfillHash reading) batch).planGroup pending.source.id = some group := by
  induction hashes generalizing batch with
  | nil => exact hdone.resolve_left List.not_mem_nil
  | cons sha256 rest ih =>
    have hkept := regrouped_backfillHash reading batch sha256
    have hplans' : ∀ pending ∈ (backfillHash reading batch sha256).pending,
        (backfillHash reading batch sha256).hasPlan pending.source.id = true := by
      rw [hkept.pending]
      intro other hother
      rw [hkept.hasPlan]
      exact hplans other hother
    have hfirst' : IsFirst (backfillHash reading batch sha256) first := by
      unfold IsFirst
      rw [hkept.pending]
      exact hfirst
    rw [List.foldl_cons]
    by_cases hsame : first.sha256 = sha256
    · subst hsame
      exact ih hplans' (hkept.pending ▸ hnodup) (hkept.pending ▸ hin) hfirst'
        (planGroup_backfillHash_same hplans hfirst hgroup hne hin rfl) (hkept.pending ▸ hpending)
        (.inr (planGroup_backfillHash_same hplans hfirst hgroup hne hpending hsha))
    · have hother := planGroup_backfillHash_other reading hplans hnodup hin hsame
      have hother' := planGroup_backfillHash_other reading hplans hnodup hpending fun heq => hsame (hsha.symm.trans heq)
      apply ih hplans' (hkept.pending ▸ hnodup) (hkept.pending ▸ hin) hfirst' (hother.trans hgroup) (hkept.pending ▸ hpending)
      obtain hmem | halready := hdone
      · exact .inl ((List.mem_cons.mp hmem).resolve_left hsame)
      · exact .inr (hother'.trans halready)

/-! ### Runs -/

variable {items : List PreparedScanPhoto} {hashOf : String → Option String}

lemma Tidy.entries {done : List PreparedScanPhoto} (h : Tidy reading done batch) :
    batch.pending.map (fun pending => (pending.sha256, pending.perceptualHash)) =
      done.map fun item => (item.features.sha256, item.features.perceptualHash) := by
  have hpairs := congrArg (List.map Prod.snd) h.pending
  rw [List.map_map, List.map_map] at hpairs
  rw [← h.items, List.map_map]
  exact hpairs

lemma Tidy.hashed {done : List PreparedScanPhoto} (h : Tidy reading done batch)
    (hdone : ∀ item ∈ done, item.features.perceptualHash = hashOf item.features.sha256) : Hashed hashOf batch := by
  intro pending hpending
  have hmem : (pending.sha256, pending.perceptualHash) ∈
      done.map fun item => (item.features.sha256, item.features.perceptualHash) :=
    h.entries ▸ List.mem_map.mpr ⟨pending, hpending, rfl⟩
  obtain ⟨item, hitem, hpair⟩ := List.mem_map.mp hmem
  obtain ⟨hsha, hphash⟩ := Prod.mk.inj hpair
  rw [← hsha, ← hphash]
  exact hdone item hitem

lemma tidy_start (reading : Reading) : Tidy reading [] {} where
  reserved := rfl
  moves := rfl
  changed := rfl
  old := rfl
  items := rfl
  existing plan hplan := absurd hplan List.not_mem_nil
  pending := rfl
  nodup := List.nodup_nil
  drawn id hid := absurd hid List.not_mem_nil
  planned id group hgroup := by cases hgroup
  entered pending hpending := absurd hpending List.not_mem_nil

/-- What every new item keeps holds after all of them. -/
theorem run_items (huuids : Uuids reading) (hnew : ∀ item ∈ items, reading.New item)
    (hhashes : ∀ item ∈ items, item.features.perceptualHash = hashOf item.features.sha256) (invariant : Batch → Prop)
    (hstart : invariant {}) (hstep : ∀ done batch item, Tidy reading done batch → reading.New item → Fits hashOf batch item →
      invariant batch → invariant (itemStep reading batch item)) :
    Tidy reading items (items.foldl (itemStep reading) {}) ∧ invariant (items.foldl (itemStep reading) {}) := by
  induction items using List.reverseRecOn with
  | nil => exact ⟨tidy_start reading, hstart⟩
  | append_singleton done item ih =>
    obtain ⟨htidy, hbefore⟩ := ih (fun other hother => hnew other (List.mem_append_left _ hother))
      fun other hother => hhashes other (List.mem_append_left _ hother)
    have hitem := hnew item (List.mem_append_right _ (List.mem_singleton.mpr rfl))
    rw [List.foldl_append, List.foldl_cons, List.foldl_nil]
    have hfits : Fits hashOf (done.foldl (itemStep reading) {}) item :=
      ⟨hhashes item (List.mem_append_right _ (List.mem_singleton.mpr rfl)),
        htidy.hashed fun other hother => hhashes other (List.mem_append_left _ hother)⟩
    exact ⟨htidy.step huuids hitem, hstep done _ item htidy hitem hfits hbefore⟩

lemma contents_eq (h : Tidy reading items batch) (hash : String) :
    contents hash batch =
      (items.filter fun item => item.features.perceptualHash = some hash).map fun item => item.features.sha256 := by
  have hpairs := congrArg (fun pairs : List (String × Option String) =>
    (pairs.filter fun pair => pair.2 = some hash).map Prod.fst) h.entries
  rw [List.filter_map, List.filter_map, List.map_map, List.map_map] at hpairs
  exact hpairs

end

end InkTime.Scan
