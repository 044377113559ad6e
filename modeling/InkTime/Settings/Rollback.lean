import InkTime.Settings.Snapshots

/-!
# Rollback of an update

A rollback is one more update, so it goes through the same preparation: where it sends the AI mode alone, the execution mode follows.
-/

namespace InkTime.Settings

open Json (Value Text Double)
open Checked (require orError)

/-! ### Checks that do not read the execution mode -/

/-- The settings that are checked together. -/
def validatedKeys : List String :=
  ["analysis.side_caption_min_chars", "analysis.side_caption_max_chars", "openai_budget.cycle_anchor", "openai_budget.warning_percent",
    "openai_budget.stop_percent", "analysis.openai_backfill_mode", "analysis.openai_backfill_enabled", "analysis.openai_batch_consent",
    "observability.activity_retention_days", "observability.activity_max_rows"]

lemma validateAll_congr {values other : String → Option SettingValue} (h : ∀ key ∈ validatedKeys, values key = other key) :
    validateAll values = validateAll other := by
  have hat : ∀ key ∈ validatedKeys, valueAt values key = valueAt other key := fun key hkey => congrArg (orError · _) (h key hkey)
  have hminimum := hat "analysis.side_caption_min_chars" (by decide)
  have hmaximum := hat "analysis.side_caption_max_chars" (by decide)
  have hanchor := hat "openai_budget.cycle_anchor" (by decide)
  have hwarning := hat "openai_budget.warning_percent" (by decide)
  have hstop := hat "openai_budget.stop_percent" (by decide)
  have hmode := hat "analysis.openai_backfill_mode" (by decide)
  have henabled := hat "analysis.openai_backfill_enabled" (by decide)
  have hconsent := hat "analysis.openai_batch_consent" (by decide)
  have hdays := hat "observability.activity_retention_days" (by decide)
  have hrows := hat "observability.activity_max_rows" (by decide)
  unfold validateAll validateCaptionRanges
  rw [hminimum, hmaximum, hanchor, hwarning, hstop, hmode, henabled, hconsent, hdays, hrows]

section

variable {rt : Runtime} {db later : Db} {call : Call} {updates : List (String × Value)} {changed : List (String × SettingValue)}
variable {key : String} {value : SettingValue}

lemma Coerced.find (hvalid : Valid rt db) {entry : String × SettingValue} (h : Coerced rt entry) :
    (db.settings.find entry.1).isSome = true :=
  hvalid.rows entry.1 h.isSome

/-- What an accepted update that changes something did. -/
structure Updated (rt : Runtime) (db : Db) (call : Call) (changed : List (String × SettingValue)) (later : Db) : Prop where
  nodup : (changed.map Prod.fst).Nodup
  coerced : ∀ entry ∈ changed, Coerced rt entry
  differ : ∀ entry ∈ changed, valueOf db entry.1 ≠ some entry.2
  values : valueOf later = merged (valueOf db) changed
  snapshots : ∃ inserted, db.snapshots.insert ⟨call.snapshotId, call.now, snapshotValues (valueOf db),
    snapshotValues (merged (valueOf db) changed), (changed.map Prod.fst).insertionSort (· ≤ ·), call.rollbackSource⟩ = some inserted ∧
      later.snapshots = pruneSnapshots inserted
  rows : ∀ key, (db.settings.find key).isSome = true → (later.settings.find key).isSome = true
  validated : validateAll (valueOf later) = .ok ()

lemma isSome_find_writes {entries : List (String × SettingValue)} (who : String) (hnodup : (entries.map Prod.fst).Nodup)
    (h : (db.settings.find key).isSome = true) : ((entries.foldl (writeSetting who) db.settings).find key).isSome = true := by
  have hstored := stored_foldl key who db.settings hnodup
  unfold stored at hstored
  have hsome := congrArg Option.isSome hstored
  rw [Option.isSome_map, Option.isSome_map, Option.isSome_map, h] at hsome
  exact hsome

/-- An update with a snapshot, by the preparation of what it sends. -/
lemma updated_of_ok (hvalid : Valid rt db) (hnodup : (updates.map Prod.fst).Nodup) {result : UpdateResult} {id : String}
    (h : updateMany rt call updates db = .ok (later, result)) (hid : result.snapshotId = some id) :
    ∃ changed, prepareUpdates rt call.rejectControlCenter (valueOf db) updates = .ok changed ∧ Updated rt db call changed later ∧
      id = call.snapshotId ∧ result.changedKeys = (changed.map Prod.fst).insertionSort (· ≤ ·) := by
  obtain ⟨changed, hprepared, -⟩ := Checked.bind_eq_ok.mp h
  obtain ⟨sent, hsent, hsound, hchanged⟩ := prepareUpdates_eq_ok.mp hprepared
  obtain ⟨hkeys, haccepted⟩ := mapM_normalizeEntry hsent
  have hdistinct := nodup_withExecutionMode (hkeys ▸ hnodup)
  have hcoerced : ∀ entry ∈ changed, Coerced rt entry := by
    rw [hchanged]
    exact fun entry hentry => coerced_withExecutionMode haccepted entry (mem_changes.mp hentry).1
  have hnodup' : (changed.map Prod.fst).Nodup := hchanged ▸ nodup_changes _ hdistinct
  rw [updateMany_prepared call hnodup hprepared] at h
  split at h
  · obtain ⟨rfl, rfl⟩ := Prod.mk.inj (Except.ok.inj h)
    cases hid
  · cases hcreate : createSnapshot call (valueOf db) (merged (valueOf db) changed) changed db.snapshots with
    | error error =>
      rw [hcreate] at h
      cases h
    | ok snapshots =>
      rw [hcreate] at h
      obtain ⟨rfl, rfl⟩ := Prod.mk.inj (Except.ok.inj h)
      obtain ⟨-, inserted, hinserted, hpruned⟩ := createSnapshot_eq_ok.mp hcreate
      have hvalues := valueOf_writes call.changedBy snapshots hnodup' fun entry hentry => (hcoerced entry hentry).find hvalid
      refine ⟨changed, hprepared, ?_, (Option.some.inj hid).symm, rfl⟩
      exact {
        nodup := hnodup'
        coerced := hcoerced
        differ := fun entry hentry => (mem_changes.mp (hchanged ▸ hentry)).2
        values := hvalues
        snapshots := ⟨inserted, hinserted, hpruned.symm⟩
        rows := fun key hkey => isSome_find_writes call.changedBy hnodup' hkey
        validated := by rw [hvalues, hchanged, merged_changes _ hdistinct, hsound] }

/-- A valid state stays valid. -/
lemma Updated.valid (h : Updated rt db call changed later) (hvalid : Valid rt db) : Valid rt later where
  rows key hkey := h.rows key (hvalid.rows key hkey)
  coerced key value hkey hvalue := by
    rw [h.values, merged] at hvalue
    cases hlookup : changed.lookup key with
    | none =>
      rw [hlookup, Option.none_or] at hvalue
      exact hvalid.coerced key value hkey hvalue
    | some other =>
      rw [hlookup, Option.some_or] at hvalue
      obtain rfl := Option.some.inj hvalue
      exact h.coerced (key, other) ((lookup_eq_some h.nodup).mp hlookup)
  validated := h.validated

end

/-! ### Values of a snapshot -/

lemma mem_settingDefinitions {key : String} : key ∈ settingDefinitions.map Prod.fst ↔ (definitionOf key).isSome = true := by
  unfold definitionOf
  rw [← not_iff_not, Bool.not_eq_true, Option.isSome_eq_false_iff, Option.isNone_iff_eq_none, List.lookup_eq_none_iff]
  constructor
  · intro hnot entry hentry
    exact bne_iff_ne.mpr fun heq => hnot (List.mem_map.mpr ⟨entry, hentry, heq.symm⟩)
  · intro hall hmem
    obtain ⟨entry, hentry, rfl⟩ := List.mem_map.mp hmem
    have := hall entry hentry
    simp at this

lemma mem_snapshotValues {values : String → Option SettingValue} {entry : String × SettingValue} :
    entry ∈ snapshotValues values ↔ (definitionOf entry.1).isSome = true ∧ snapshotAllowed entry.1 = true ∧
      values entry.1 = some entry.2 := by
  unfold snapshotValues snapshotKeys
  rw [List.mem_filterMap]
  simp only [List.mem_insertionSort, List.mem_dedup, List.mem_filter, mem_settingDefinitions, Option.map_eq_some_iff]
  constructor
  · rintro ⟨key, ⟨hknown, hallowed⟩, value, hvalue, rfl⟩
    exact ⟨hknown, hallowed, hvalue⟩
  · rintro ⟨hknown, hallowed, hvalue⟩
    exact ⟨entry.1, ⟨hknown, hallowed⟩, entry.2, hvalue, rfl⟩

lemma nodup_snapshotValues (values : String → Option SettingValue) : ((snapshotValues values).map Prod.fst).Nodup := by
  have hkeys : (snapshotKeys.insertionSort (· ≤ ·)).Nodup :=
    (List.perm_insertionSort _ _).nodup_iff.mpr (List.nodup_dedup _)
  refine List.Nodup.sublist ?_ hkeys
  unfold snapshotValues
  rw [List.map_filterMap]
  generalize snapshotKeys.insertionSort (· ≤ ·) = keys
  induction keys with
  | nil => exact List.Sublist.refl _
  | cons key rest ih =>
    cases hvalue : values key with
    | none =>
      rw [List.filterMap_cons_none (by rw [hvalue]; rfl)]
      exact ih.cons key
    | some value =>
      rw [List.filterMap_cons_some (by rw [hvalue]; rfl)]
      exact ih.cons_cons key

section

variable {rt : Runtime} {db later : Db} {call undo : Call} {updates : List (String × Value)} {changed : List (String × SettingValue)}
variable {key : String} {value : SettingValue} {target : Snapshot}

/-- The settings that an update changed can be restored. -/
def Restorable (keys : List String) : Prop := ∀ key ∈ keys, snapshotAllowed key = true ∧ unsupported key = false

instance (keys : List String) : Decidable (Restorable keys) :=
  inferInstanceAs (Decidable (∀ key ∈ keys, snapshotAllowed key = true ∧ unsupported key = false))

/-- What a rollback finds of the update. -/
structure Records (db : Db) (changed : List (String × SettingValue)) (target : Snapshot) : Prop where
  before : target.before = snapshotValues (valueOf db)
  changedKeys : target.changedKeys = (changed.map Prod.fst).insertionSort (· ≤ ·)

lemma mem_restorable (h : Updated rt db call changed later) (hkeys : Restorable (changed.map Prod.fst))
    (hrecords : Records db changed target) :
    (key, value) ∈ restorable target later ↔ key ∈ changed.map Prod.fst ∧ valueOf db key = some value := by
  unfold restorable
  rw [hrecords.before, hrecords.changedKeys, List.mem_filter, mem_snapshotValues]
  simp only [Bool.and_eq_true, decide_eq_true_eq, List.mem_insertionSort, Bool.not_eq_true']
  constructor
  · rintro ⟨⟨-, -, hvalue⟩, ⟨⟨⟨hmem, -⟩, -⟩, -⟩, -⟩
    exact ⟨hmem, hvalue⟩
  · rintro ⟨hmem, hvalue⟩
    obtain ⟨⟨name, other⟩, hentry, rfl⟩ := List.mem_map.mp hmem
    obtain ⟨hallowed, hsupported⟩ := hkeys name hmem
    have hknown := (h.coerced _ hentry).isSome
    refine ⟨⟨hknown, hallowed, hvalue⟩, ⟨⟨⟨hmem, hknown⟩, hsupported⟩, hallowed⟩, ?_⟩
    rw [h.values, merged, (lookup_eq_some h.nodup).mpr hentry, Option.some_or, ← hvalue]
    exact fun heq => h.differ _ hentry heq.symm

variable (later) in
lemma nodup_restorable (hrecords : Records db changed target) : ((restorable target later).map Prod.fst).Nodup := by
  unfold restorable
  rw [hrecords.before]
  exact (nodup_snapshotValues _).sublist (List.filter_sublist.map Prod.fst)

lemma lookup_restorable (h : Updated rt db call changed later) (hkeys : Restorable (changed.map Prod.fst))
    (hrecords : Records db changed target) :
    (restorable target later).lookup key = if key ∈ changed.map Prod.fst then valueOf db key else none := by
  split
  · next hmem =>
    cases hvalue : valueOf db key with
    | none =>
      rw [lookup_eq_none]
      intro hkey
      obtain ⟨⟨name, value⟩, hentry, rfl⟩ := List.mem_map.mp hkey
      rw [((mem_restorable h hkeys hrecords).mp hentry).2] at hvalue
      cases hvalue
    | some value => exact (lookup_eq_some (nodup_restorable later hrecords)).mpr ((mem_restorable h hkeys hrecords).mpr ⟨hmem, hvalue⟩)
  · next hnot =>
    rw [lookup_eq_none]
    intro hkey
    obtain ⟨⟨name, value⟩, hentry, rfl⟩ := List.mem_map.mp hkey
    exact hnot ((mem_restorable h hkeys hrecords).mp hentry).1

/-- The values that are sent would restore every setting. -/
lemma merged_restorable (h : Updated rt db call changed later) (hkeys : Restorable (changed.map Prod.fst))
    (hrecords : Records db changed target) : merged (valueOf later) (restorable target later) = valueOf db := by
  funext key
  unfold merged
  rw [lookup_restorable h hkeys hrecords]
  split
  · next hmem =>
    obtain ⟨⟨name, other⟩, hentry, rfl⟩ := List.mem_map.mp hmem
    obtain ⟨definition, hdefinition⟩ := Option.isSome_iff_exists.mp (h.coerced _ hentry).isSome
    have hsome : (valueOf db name).isSome = true := by
      unfold valueOf
      rw [hdefinition, Option.isSome_or, Option.isSome_map, Option.isSome_map, Option.isSome_some, Bool.or_true]
    obtain ⟨value, hvalue⟩ := Option.isSome_iff_exists.mp hsome
    dsimp only
    rw [hvalue, Option.some_or]
  · next hnot => rw [Option.none_or, h.values, merged, lookup_eq_none.mpr hnot, Option.none_or]

/-- The execution mode that follows from the AI mode of before. -/
def formerMode (db : Db) (changed : List (String × SettingValue)) (mode : SettingValue) : SettingValue :=
  .text (legacyExecutionMode mode
    ((if prefilterEnabled ∈ changed.map Prod.fst then valueOf db prefilterEnabled else none).all SettingValue.truthy))

/-- What a rollback leaves: the values of before, unless it sends the AI mode without the execution mode. -/
lemma merged_withExecutionMode (hvalid : Valid rt db) (h : Updated rt db call changed later) (hkeys : Restorable (changed.map Prod.fst))
    (hrecords : Records db changed target) :
    (aiMode ∈ changed.map Prod.fst → executionMode ∈ changed.map Prod.fst) ∧
        merged (valueOf later) (withExecutionMode (restorable target later)) = valueOf db ∨
      ∃ mode, aiMode ∈ changed.map Prod.fst ∧ executionMode ∉ changed.map Prod.fst ∧ valueOf db aiMode = some mode ∧
        merged (valueOf later) (withExecutionMode (restorable target later)) =
          Function.update (valueOf db) executionMode (some (formerMode db changed mode)) := by
  have hknown : ∀ key, (definitionOf key).isSome = true → valueOf db key ≠ none := by
    intro key hkey
    obtain ⟨row, hrow⟩ := Option.isSome_iff_exists.mp (hvalid.rows key hkey)
    unfold valueOf
    rw [hrow]
    exact Option.some_ne_none _
  obtain ⟨mode, hai, hnone, heq⟩ | ⟨hwhich, heq⟩ := withExecutionMode_cases (restorable target later)
  · right
    rw [lookup_restorable h hkeys hrecords] at hai hnone
    split at hai
    · next hchanged =>
      have hmode : executionMode ∉ changed.map Prod.fst := by
        intro hmem
        rw [if_pos hmem] at hnone
        exact hknown executionMode rfl hnone
      refine ⟨mode, hchanged, hmode, hai, ?_⟩
      funext key
      have hbefore := congrFun (merged_restorable h hkeys hrecords) key
      rw [heq, lookup_restorable h hkeys hrecords]
      unfold merged at hbefore ⊢
      rw [List.lookup_append]
      by_cases hkey : key = executionMode
      · subst hkey
        rw [lookup_restorable h hkeys hrecords, if_neg hmode, Function.update_self]
        rfl
      · rw [Function.update_of_ne hkey, List.lookup_cons, beq_eq_false_iff_ne.mpr hkey, List.lookup_nil, Option.or_none]
        exact hbefore
    · cases hai
  · left
    rw [heq]
    refine ⟨fun hai => ?_, merged_restorable h hkeys hrecords⟩
    rw [lookup_restorable h hkeys hrecords, lookup_restorable h hkeys hrecords, if_pos hai] at hwhich
    have hmode := hwhich.resolve_left (hknown aiMode rfl)
    by_contra hnot
    exact hmode (if_neg hnot)

/-! ### The rollback -/

/-- What pruning reads of the snapshot that a call takes. -/
def Call.row (call : Call) : Snapshot := ⟨call.snapshotId, call.now, [], [], [], call.rollbackSource⟩

/-- There is room for one more snapshot, or it is protected, or the later ones and the protected ones leave room for it. -/
def Survives (db : Db) (call : Call) : Prop :=
  let rows := db.snapshots.rows ++ [call.row]
  let kept := protectedIds (rows.insertionSort newerFirst)
  rows.length ≤ settingsSnapshotLimit ∨ call.snapshotId ∈ kept ∨
    (kept ∪ ((db.snapshots.rows.filter fun other => newerFirst other call.row).map Snapshot.id).toFinset).card < settingsSnapshotLimit

def Snapshot.blank (row : Snapshot) : Snapshot := { row with before := [], after := [], changedKeys := [] }

lemma protectedIds_blank (rows : List Snapshot) :
    protectedIds (rows.insertionSort newerFirst) = protectedIds ((rows.map Snapshot.blank).insertionSort newerFirst) := by
  rw [← List.map_insertionSort newerFirst newerFirst Snapshot.blank rows fun _ _ _ _ => Iff.rfl]
  generalize rows.insertionSort newerFirst = sorted
  have hsame : (fun row => row.rollbackSource.isSome) ∘ Snapshot.blank = fun row : Snapshot => row.rollbackSource.isSome := rfl
  unfold protectedIds
  rw [List.find?_map, hsame]
  cases sorted.find? fun row => row.rollbackSource.isSome with
  | none => rfl
  | some row => rfl

variable (call) in
/-- The snapshot of an update outlives the update's own pruning exactly where it survives. -/
lemma kept_iff_survives {inserted : Table Snapshot.id} {row : Snapshot} (hinserted : db.snapshots.insert row = some inserted)
    (hrow : row.blank = call.row) : Kept inserted.rows row.id ↔ Survives db call := by
  have hid : row.id = call.snapshotId := congrArg Snapshot.id hrow
  have hrows : inserted.rows = db.snapshots.rows ++ [row] := by
    unfold Table.insert at hinserted
    split at hinserted
    · cases hinserted
    · obtain rfl := Option.some.inj hinserted
      rfl
  have hblank : call.row.blank = call.row := rfl
  have hprotected : protectedIds (inserted.rows.insertionSort newerFirst) =
      protectedIds ((db.snapshots.rows ++ [call.row]).insertionSort newerFirst) := by
    rw [protectedIds_blank, protectedIds_blank (db.snapshots.rows ++ [call.row]), hrows, List.map_append, List.map_append,
      List.map_singleton, List.map_singleton, hrow, hblank]
  have hfilter : inserted.rows.filter (fun other => newerFirst other row ∧ other.id ≠ row.id) =
      db.snapshots.rows.filter fun other => newerFirst other call.row := by
    rw [hrows, List.filter_append, List.filter_singleton, decide_eq_false fun hboth => hboth.2 rfl]
    apply (List.append_nil _).trans
    apply List.filter_congr
    intro other hother
    have hne : other.id ≠ row.id := Table.insert_fresh hinserted hother
    have hsame : newerFirst other row ↔ newerFirst other call.row := by
      rw [← hrow]
      exact Iff.rfl
    exact decide_eq_decide.mpr ((and_iff_left hne).trans hsame)
  have hmem : row ∈ inserted := (Table.mem_insert hinserted).mpr (.inr rfl)
  unfold Survives
  dsimp only
  rw [kept_iff hmem, hprotected, hfilter, hid, hrows, List.length_append, List.length_append, List.length_singleton, List.length_singleton]

lemma prepareUpdates_restorable (hvalid : Valid rt db) (h : Updated rt db call changed later)
    (hkeys : Restorable (changed.map Prod.fst)) (hrecords : Records db changed target) :
    (∀ entry ∈ restorable target later, Accepted rt false entry) ∧
      (∀ entry ∈ restorable target later, valueOf later entry.1 ≠ some entry.2) ∧
      validateAll (merged (valueOf later) (withExecutionMode (restorable target later))) = .ok () := by
  refine ⟨?_, ?_, ?_⟩
  · rintro ⟨name, value⟩ hentry
    obtain ⟨hmem, hvalue⟩ := (mem_restorable h hkeys hrecords).mp hentry
    obtain ⟨other, hother, rfl⟩ := List.mem_map.mp hmem
    have hknown := (h.coerced other hother).isSome
    have hsupported := (hkeys _ hmem).2
    refine ⟨hvalid.coerced _ value hknown hvalue, ?_, rfl⟩
    obtain ⟨definition, hdefinition⟩ := Option.isSome_iff_exists.mp hknown
    unfold unsupported at hsupported
    rw [hdefinition, Option.any_some, Bool.or_eq_false_iff, Bool.not_eq_false'] at hsupported
    exact hsupported.2
  · intro entry hentry
    have hfilter := (List.mem_filter.mp hentry).2
    simp only [Bool.and_eq_true, decide_eq_true_eq] at hfilter
    exact hfilter.2
  · rw [← hvalid.validated]
    apply validateAll_congr
    intro key hkey
    obtain ⟨-, hsame⟩ | ⟨mode, -, -, -, hsame⟩ := merged_withExecutionMode hvalid h hkeys hrecords
    · rw [hsame]
    · rw [hsame, Function.update_of_ne]
      rintro rfl
      exact absurd hkey (by decide)

/-- A rollback of a snapshot that is there succeeds, and leaves what it sends. -/
lemma rollback_ok (hvalid : Valid rt db) (h : Updated rt db call changed later) (hkeys : Restorable (changed.map Prod.fst))
    (hrecords : Records db changed target) {id : String} (hfind : later.snapshots.find id = some target)
    (hfresh : later.snapshots.find undo.snapshotId = none) :
    ∃ final result, rollback rt id undo later = .ok (final, result) ∧
      valueOf final = merged (valueOf later) (withExecutionMode (restorable target later)) := by
  obtain ⟨haccepted, hdiffer, hsound⟩ := prepareUpdates_restorable hvalid h hkeys hrecords
  have hprepared : prepareUpdates rt false (valueOf later) ((restorable target later).map fun entry => (entry.1, entry.2.raw)) =
      .ok (changes (valueOf later) (withExecutionMode (restorable target later))) :=
    prepareUpdates_eq_ok.mpr ⟨_, mapM_raw haccepted, hsound, rfl⟩
  have hagain := prepareUpdates_again haccepted hdiffer hsound
  have hdistinct := nodup_withExecutionMode (nodup_restorable later hrecords)
  have hmerged := merged_changes (valueOf later) hdistinct
  generalize hrestored : changes (valueOf later) (withExecutionMode (restorable target later)) = restored at hprepared hagain hmerged
  have hnodup : (restored.map Prod.fst).Nodup := hrestored ▸ nodup_changes _ hdistinct
  have hcoerced : ∀ entry ∈ restored, Coerced rt entry := by
    rw [← hrestored]
    exact fun entry hentry => coerced_withExecutionMode haccepted entry (mem_changes.mp hentry).1
  have hpreview : ∃ preview, rollbackPreview rt id later = .ok preview ∧ preview.updates = restored := by
    unfold rollbackPreview
    rw [hfind]
    simp only [orError, bind, Except.bind, hprepared]
    exact ⟨_, rfl, rfl⟩
  obtain ⟨preview, hpreview, hupdates⟩ := hpreview
  have hkeysNodup : ((restored.map fun entry => (entry.1, entry.2.raw)).map Prod.fst).Nodup := by
    rw [List.map_map]
    exact hnodup
  have hundo := updateMany_prepared { undo with rollbackSource := some id, rejectControlCenter := false } hkeysNodup hagain
  unfold rollback
  rw [hpreview]
  simp only [bind, Except.bind, hupdates]
  rw [hundo]
  split
  · next hnil =>
    refine ⟨later, _, rfl, ?_⟩
    rw [← hmerged, hnil]
    rfl
  · have hinsert : ∃ inserted, later.snapshots.insert ⟨undo.snapshotId, undo.now, snapshotValues (valueOf later),
        snapshotValues (merged (valueOf later) restored), (restored.map Prod.fst).insertionSort (· ≤ ·), some id⟩ = some inserted :=
      Table.exists_insert hfresh
    obtain ⟨inserted, hinserted⟩ := hinsert
    have hsource : ((some id).all fun source => (later.snapshots.find source).isSome || source = undo.snapshotId) = true := by
      rw [Option.all_some, hfind]
      rfl
    have hcreate : createSnapshot { undo with rollbackSource := some id, rejectControlCenter := false } (valueOf later)
        (merged (valueOf later) restored) restored later.snapshots = .ok (pruneSnapshots inserted) :=
      createSnapshot_eq_ok.mpr ⟨hsource, inserted, hinserted, rfl⟩
    rw [hcreate]
    refine ⟨_, _, rfl, ?_⟩
    rw [← hmerged]
    exact valueOf_writes undo.changedBy _ hnodup fun entry hentry => (hcoerced entry hentry).find (h.valid hvalid)

/-- A snapshot that was pruned is not rolled back to. -/
lemma rollback_unknown {id : String} (hfind : later.snapshots.find id = none) :
    rollback rt id undo later = .error (.unknown id) := by
  unfold rollback rollbackPreview
  rw [hfind]
  rfl

end

end InkTime.Settings
