import InkTime.Settings.Updates

/-!
# Which snapshots are kept

The latest rollback and the snapshot that it went back to are kept, and then the latest ones up to the limit.
-/

namespace InkTime.Settings

section

variable {limit : ℕ} {keep : Finset String} {rows newer older : List Snapshot} {row other : Snapshot}

lemma subset_keepIds (limit : ℕ) (keep : Finset String) (rows : List Snapshot) : keep ⊆ keepIds limit keep rows := by
  induction rows generalizing keep with
  | nil => exact Finset.Subset.refl keep
  | cons row rest ih =>
    unfold keepIds
    split
    · exact Finset.Subset.refl keep
    · exact (Finset.subset_insert _ _).trans (ih _)

lemma card_keepIds (limit : ℕ) (keep : Finset String) (rows : List Snapshot) : (keepIds limit keep rows).card ≤ max limit keep.card := by
  induction rows generalizing keep with
  | nil => exact le_max_right _ _
  | cons row rest ih =>
    unfold keepIds
    split
    · exact le_max_right _ _
    · next hroom =>
      have hinsert := Finset.card_insert_le row.id keep
      have hrest := ih (insert row.id keep)
      omega

/-- A row is kept where there is still room when its turn comes. -/
lemma mem_keepIds (hnew : row.id ∉ newer.map Snapshot.id) : row.id ∈ keepIds limit keep (newer ++ row :: older) ↔
    row.id ∈ keep ∨ (keep ∪ (newer.map Snapshot.id).toFinset).card < limit := by
  induction newer generalizing keep with
  | nil =>
    rw [List.nil_append, keepIds, List.map_nil, List.toFinset_nil, Finset.union_empty]
    split
    · next hfull => exact (or_iff_left (not_lt.mpr hfull)).symm
    · next hroom => exact iff_of_true (subset_keepIds _ _ _ (Finset.mem_insert_self _ _)) (.inr (not_le.mp hroom))
  | cons other rest ih =>
    rw [List.map_cons, List.mem_cons, not_or] at hnew
    rw [List.cons_append, keepIds, List.map_cons, List.toFinset_cons]
    split
    · next hfull =>
      have hsubset : keep ⊆ keep ∪ insert other.id (rest.map Snapshot.id).toFinset := Finset.subset_union_left
      have hle := Finset.card_le_card hsubset
      exact (or_iff_left (by omega)).symm
    · rw [ih hnew.2, Finset.mem_insert, or_iff_right hnew.1, Finset.insert_union, Finset.union_insert]

lemma card_protectedIds (rows : List Snapshot) : (protectedIds rows).card ≤ 2 := by
  unfold protectedIds
  split
  · next latest _ =>
    have hinsert := Finset.card_insert_le latest.id latest.rollbackSource.toFinset
    have hsource : latest.rollbackSource.toFinset.card ≤ 1 := by
      cases latest.rollbackSource with
      | none => exact Nat.zero_le _
      | some source => exact le_refl _
    omega
  · exact Nat.zero_le _

instance : Std.Total newerFirst := ⟨fun first second => by
  unfold newerFirst
  rcases lt_trichotomy first.createdAt second.createdAt with hlt | heq | hgt
  · exact .inr (.inl hlt)
  · rcases String.le_total first.id second.id with hle | hle
    · exact .inr (.inr ⟨heq, hle⟩)
    · exact .inl (.inr ⟨heq.symm, hle⟩)
  · exact .inl (.inl hgt)⟩

instance : IsTrans Snapshot newerFirst := ⟨fun first second third h h' => by
  unfold newerFirst at h h' ⊢
  rcases h with hlt | ⟨heq, hle⟩
  · rcases h' with hlt' | ⟨heq', hle'⟩
    · exact .inl (hlt'.trans hlt)
    · exact .inl (heq' ▸ hlt)
  · rcases h' with hlt' | ⟨heq', hle'⟩
    · exact .inl (heq ▸ hlt')
    · exact .inr ⟨heq'.trans heq, String.le_trans hle' hle⟩⟩

lemma newerFirst_antisymm (h : newerFirst row other) (h' : newerFirst other row) : row.id = other.id := by
  unfold newerFirst at h h'
  rcases h with hlt | ⟨heq, hle⟩
  · rcases h' with hlt' | ⟨heq', -⟩
    · omega
    · omega
  · rcases h' with hlt' | ⟨-, hle'⟩
    · omega
    · exact String.le_antisymm hle' hle

/-- Pruning leaves the row with this id. -/
def Kept (rows : List Snapshot) (id : String) : Prop := settingsSnapshotLimit < rows.length →
  id ∈ keepIds settingsSnapshotLimit (protectedIds (rows.insertionSort newerFirst)) (rows.insertionSort newerFirst)

/-- There is room for a row, it is protected, or the later rows and the protected ones leave room. -/
lemma kept_iff {snapshots : Table Snapshot.id} (hrow : row ∈ snapshots) : Kept snapshots.rows row.id ↔
    snapshots.rows.length ≤ settingsSnapshotLimit ∨ row.id ∈ protectedIds (snapshots.rows.insertionSort newerFirst) ∨
      (protectedIds (snapshots.rows.insertionSort newerFirst) ∪
        ((snapshots.rows.filter fun other => newerFirst other row ∧ other.id ≠ row.id).map Snapshot.id).toFinset).card <
          settingsSnapshotLimit := by
  have hperm := List.perm_insertionSort newerFirst snapshots.rows
  have hsorted := List.pairwise_insertionSort newerFirst snapshots.rows
  obtain ⟨newer, older, hsplit⟩ := List.append_of_mem (hperm.mem_iff.mpr hrow)
  have hids : ((newer ++ row :: older).map Snapshot.id).Nodup := hsplit ▸ (hperm.map Snapshot.id).nodup_iff.mpr snapshots.distinct
  rw [List.map_append, List.map_cons, List.nodup_append] at hids
  rw [hsplit, List.pairwise_append] at hsorted
  have hnew : row.id ∉ newer.map Snapshot.id := fun hmem => hids.2.2 _ hmem _ (List.mem_cons_self ..) rfl
  have hold : ∀ other ∈ older, ¬(newerFirst other row ∧ other.id ≠ row.id) := by
    rintro other hother ⟨hfirst, hne⟩
    exact hne (newerFirst_antisymm hfirst ((List.pairwise_cons.mp hsorted.2.1).1 other hother))
  have hfilter : ((snapshots.rows.filter fun other => newerFirst other row ∧ other.id ≠ row.id).map Snapshot.id).toFinset =
      (newer.map Snapshot.id).toFinset := by
    ext id
    rw [List.mem_toFinset, List.mem_toFinset, List.mem_map, List.mem_map]
    constructor
    · rintro ⟨other, hother, rfl⟩
      obtain ⟨hin, hboth⟩ := List.mem_filter.mp hother
      have hboth := of_decide_eq_true hboth
      have hmem : other ∈ newer ++ row :: older := hsplit ▸ hperm.mem_iff.mpr hin
      obtain hleft | hright := List.mem_append.mp hmem
      · exact ⟨other, hleft, rfl⟩
      · obtain rfl | hlater := List.mem_cons.mp hright
        · exact absurd rfl hboth.2
        · exact absurd hboth (hold other hlater)
    · rintro ⟨other, hother, rfl⟩
      refine ⟨other, List.mem_filter.mpr ⟨?_, decide_eq_true ⟨?_, ?_⟩⟩, rfl⟩
      · exact hperm.mem_iff.mp (hsplit ▸ List.mem_append_left _ hother)
      · exact hsorted.2.2 other hother row (List.mem_cons_self ..)
      · exact fun heq => hnew (List.mem_map.mpr ⟨other, hother, heq⟩)
  unfold Kept
  rw [hfilter, ← mem_keepIds hnew, ← hsplit, ← not_lt]
  tauto

end

section

variable {snapshots : Table Snapshot.id} {row : Snapshot}

/-- A row that pruning leaves has the values that it had. -/
lemma find_pruneSnapshots (hrow : row ∈ snapshots) (hkept : Kept snapshots.rows row.id) :
    ∃ left, (pruneSnapshots snapshots).find row.id = some left ∧ left.before = row.before ∧ left.after = row.after ∧
      left.changedKeys = row.changedKeys := by
  unfold pruneSnapshots
  dsimp only
  rw [List.length_insertionSort]
  split
  · next hmany =>
    have hin := hkept hmany
    generalize hremovable : ((snapshots.rows.insertionSort newerFirst).map Snapshot.id).filter (fun id =>
      id ∉ keepIds settingsSnapshotLimit (protectedIds (snapshots.rows.insertionSort newerFirst))
        (snapshots.rows.insertionSort newerFirst)) = removable
    have hleft : row.forget removable ∈ (snapshots.update (fun _ => true) (Snapshot.forget removable) fun _ => rfl).delete
        fun row => row.id ∈ removable := by
      refine Table.mem_delete.mpr ⟨Table.mem_update.mpr ⟨row, hrow, rfl⟩, decide_eq_false ?_⟩
      rw [← hremovable]
      intro hmem
      exact of_decide_eq_true (List.mem_filter.mp hmem).2 hin
    exact ⟨row.forget removable, Table.find_of_mem hleft, rfl, rfl, rfl⟩
  · exact ⟨row, Table.find_of_mem hrow, rfl, rfl, rfl⟩

/-- Any other row is gone. -/
lemma find_pruneSnapshots_none (hrow : row ∈ snapshots) (hkept : ¬Kept snapshots.rows row.id) :
    (pruneSnapshots snapshots).find row.id = none := by
  unfold Kept at hkept
  rw [Classical.not_imp] at hkept
  unfold pruneSnapshots
  dsimp only
  rw [List.length_insertionSort, if_pos hkept.1]
  apply Option.eq_none_iff_forall_not_mem.mpr
  intro left hleft
  obtain ⟨hmem, hid⟩ := Table.find_eq_some hleft
  have hnot := of_decide_eq_false (Table.mem_delete.mp hmem).2
  apply hnot
  rw [hid]
  apply List.mem_filter.mpr
  refine ⟨List.mem_map.mpr ⟨row, (List.mem_insertionSort _).mpr hrow, rfl⟩, decide_eq_true hkept.2⟩

end

end InkTime.Settings
