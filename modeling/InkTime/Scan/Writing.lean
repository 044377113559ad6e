import InkTime.Scan.Backfill

/-!
# What a batch of new photos writes

The updates of the groups of stored photos, and one row for each plan.
-/

namespace InkTime.Scan

/-- Ids that are drawn are new, and so are groups. -/
structure Fresh (uuid : ℕ → String) (db : Store) : Prop where
  injective : Function.Injective uuid
  nonempty : ∀ n, uuid n ≠ ""
  newId : ∀ n, ∀ photo ∈ db.rows, photo.id ≠ uuid n
  newGroup : ∀ n, ∀ photo ∈ db.rows, photo.duplicateGroupId ≠ some (uuid n)

/-- What the loop over the items reads of the library. -/
def readingOf (isFile : String → Bool) (uuid : ℕ → String) (libraryId : String) (items : List PreparedScanPhoto) (db : Store) : Reading :=
  ⟨byPath db libraryId, byHash db libraryId, byPhash db libraryId, presentCandidate db libraryId isFile items, uuid⟩

section

variable {isFile : String → Bool} {uuid : ℕ → String} {libraryId : String} {items : List PreparedScanPhoto} {db later : Store}
variable {batch final : Batch} {reading : Reading}

lemma uuids_of_fresh (hfresh : Fresh uuid db) : Uuids (readingOf isFile uuid libraryId items db) where
  injective := hfresh.injective
  nonempty := hfresh.nonempty
  newId n hash photo hphoto := hfresh.newId n photo (List.mem_of_mem_filter hphoto)
  newGroup n hash photo hphoto := hfresh.newGroup n photo (List.mem_of_mem_filter hphoto)
  apart := by
    intro hash photo hphoto other photo' hphoto' hid
    obtain ⟨hin, hboth⟩ := List.mem_filter.mp hphoto
    obtain ⟨hin', hboth'⟩ := List.mem_filter.mp hphoto'
    obtain rfl := Table.eq_of_key_eq hin hin' hid
    simp only [Bool.and_eq_true, decide_eq_true_eq] at hboth hboth'
    exact Option.some.inj (hboth.1.2.symm.trans hboth'.1.2)
  distinct hash := db.distinct.sublist (List.filter_sublist.map Photo.id)

/-! ### Rows -/

/-- The row of a stored photo after the updates of groups. -/
def regroup (batch : Batch) (photo : Photo) : Photo :=
  { photo with duplicateGroupId := (batch.groupUpdates photo.id).or photo.duplicateGroupId }

lemma rows_updateGroups (batch : Batch) (db : Store) : (updateGroups batch db).rows = db.rows.map (regroup batch) := by
  unfold updateGroups Table.update
  apply List.map_congr_left
  intro photo _
  cases hupdate : batch.groupUpdates photo.id with
  | none => simp [Table.revise, regroup, hupdate]
  | some group => simp [Table.revise, regroup, hupdate]

lemma rows_insertPhotos {plans : List Plan} (h : plans.foldlM (insertPhoto libraryId) db = some later) :
    later.rows = db.rows ++ plans.map (Plan.photo libraryId) := by
  induction plans generalizing db with
  | nil =>
    obtain rfl := Option.some.inj h
    rw [List.map_nil, List.append_nil]
  | cons plan rest ih =>
    obtain ⟨next, hnext, hrest⟩ := Option.bind_eq_some_iff.mp h
    have hrows : next.rows = db.rows ++ [plan.photo libraryId] := by
      unfold insertPhoto Table.insert at hnext
      split at hnext
      · split at hnext
        · cases hnext
        · obtain rfl := Option.some.inj hnext
          rfl
      · cases hnext
    rw [ih hrest, hrows, List.append_assoc]
    rfl

lemma pathFree_eq_true {relativePath id : String} : pathFree db libraryId relativePath id = true ↔
    ∀ photo ∈ db.rows, photo.libraryId = libraryId → photo.relativePath = relativePath → photo.id = id := by
  unfold pathFree
  simp only [Bool.not_eq_true', List.any_eq_false, Bool.and_eq_true, decide_eq_true_eq, not_and, not_not, and_imp]

/-- Rows with new ids and new paths are inserted. -/
lemma insertPhotos_some {plans : List Plan} (hids : (plans.map Plan.id).Nodup)
    (hpaths : (plans.map fun plan => plan.item.relativePath).Nodup)
    (hfresh : ∀ plan ∈ plans, ∀ photo ∈ db.rows, photo.id ≠ plan.id ∧
      (photo.libraryId = libraryId → photo.relativePath ≠ plan.item.relativePath)) :
    (plans.foldlM (insertPhoto libraryId) db).isSome = true := by
  induction plans generalizing db with
  | nil => rfl
  | cons plan rest ih =>
    have hplan := hfresh plan (List.mem_cons_self ..)
    have hfree : pathFree db libraryId plan.item.relativePath plan.id = true :=
      pathFree_eq_true.mpr fun photo hphoto hlibrary hpath => absurd hpath ((hplan photo hphoto).2 hlibrary)
    have hkey : Photo.id (plan.photo libraryId) ∉ db.rows.map Photo.id := by
      intro hmem
      obtain ⟨photo, hphoto, hid⟩ := List.mem_map.mp hmem
      exact (hplan photo hphoto).1 hid
    rw [List.map_cons, List.nodup_cons] at hids hpaths
    rw [List.foldlM_cons, insertPhoto, if_pos hfree, Table.insert, dif_neg hkey]
    apply ih hids.2 hpaths.2
    intro other hother photo hphoto
    obtain hbefore | hlast := List.mem_append.mp hphoto
    · exact hfresh other (List.mem_cons_of_mem _ hother) photo hbefore
    · rw [List.mem_singleton.mp hlast]
      constructor
      · exact fun hid => hids.1 (List.mem_map.mpr ⟨other, hother, hid.symm⟩)
      · exact fun _ hpath => hpaths.1 (List.mem_map.mpr ⟨other, hother, hpath.symm⟩)

/-- A batch that only inserts writes the groups and one row for each plan. -/
lemma writeBatch_inserts (hmoves : final.moveParameters = []) (hchanged : final.changedIds = []) (hold : final.oldGroups = [])
    (hexisting : ∀ plan ∈ final.plans, plan.existing = none) :
    writeBatch libraryId final db = final.plans.foldlM (insertPhoto libraryId) (updateGroups final db) := by
  have hupdates : final.plans.filter (fun plan => plan.existing.isSome) = [] := by
    apply List.filter_eq_nil_iff.mpr
    intro plan hplan
    rw [hexisting plan hplan]
    exact Bool.false_ne_true
  have hinserts : final.plans.filter (fun plan => plan.existing.isNone) = final.plans := by
    apply List.filter_eq_self.mpr
    intro plan hplan
    rw [hexisting plan hplan]
    rfl
  have hclear : ∀ store : Store, clearChanged final store = store := by
    intro store
    apply Table.update_of_fixed
    intro photo _ hmatch
    rw [hchanged] at hmatch
    exact absurd (of_decide_eq_true hmatch) List.not_mem_nil
  have hcleared : ∀ store : Store, clearOldGroups final store = store := by
    intro store
    apply Table.update_of_fixed
    intro photo _ hmatch
    obtain ⟨group, -, hboth⟩ := (Option.any_eq_true _ _).mp hmatch
    rw [hold] at hboth
    simp at hboth
  unfold writeBatch
  rw [hmoves, hupdates, hinserts]
  simp only [List.foldlM_nil, List.foldl_nil, hclear, hcleared, pure_bind, bind_pure]

/-! ### The groups of a perceptual hash -/

/-- The active and missing photos with a perceptual hash, and their groups. -/
def groupsOf (db : Store) (libraryId hash : String) : List (String × Option String) :=
  (byPhash db libraryId hash).map fun photo => (photo.id, photo.duplicateGroupId)

/-- A new photo has its item's place in the plans, and its group. -/
lemma map_planGroup (hnodup : (final.plans.map Plan.id).Nodup) {p : Plan → Bool} :
    (final.plans.filter p).map (fun plan => (plan.id, plan.duplicateGroupId)) =
      (final.plans.filter p).map fun plan => (plan.id, final.planGroup plan.id) := by
  apply List.map_congr_left
  intro plan hplan
  have hin := List.mem_of_mem_filter hplan
  have hfind : final.plans.find? (·.id = plan.id) = some plan := by
    cases hfound : final.plans.find? (·.id = plan.id) with
    | none => exact absurd (decide_eq_true rfl) (List.find?_eq_none.mp hfound plan hin)
    | some other =>
      have hid : other.id = plan.id := of_decide_eq_true (List.find?_some (p := fun other : Plan => decide (other.id = plan.id)) hfound)
      rw [List.inj_on_of_nodup_map hnodup (List.mem_of_find?_eq_some hfound) hin hid]
  unfold Batch.planGroup
  rw [hfind]
  rfl

end

end InkTime.Scan
