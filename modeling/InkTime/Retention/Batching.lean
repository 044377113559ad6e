import Mathlib.Data.List.DropRight
import InkTime.Library.Pruning
import InkTime.Retention.Model

/-!
# Batches of a retention run

What one batch leaves alone, a run of batches as a run of prunings, and the one set of rows that every run to the end leaves.
-/

namespace InkTime.Retention

open Texts (strip strip_strip)
open Checked (require require_eq_ok bind_eq_ok)

/-! ### Identities are read twice -/

lemma foldl_addKey_of_nodup (values keys : List String) (h : (keys ++ values).Nodup) :
    values.foldl addKey keys = keys ++ values := by
  induction values generalizing keys with
  | nil => exact (List.append_nil keys).symm
  | cons value rest ih =>
    have hnew : value ∉ keys := fun hmem => (List.nodup_append.mp h).2.2 value hmem value (List.mem_cons_self ..) rfl
    rw [List.foldl_cons, addKey, if_neg hnew, ih _ (by simpa using h), List.append_assoc]
    rfl

lemma addKey_nodup {keys : List String} (h : keys.Nodup) (value : String) : (addKey keys value).Nodup := by
  unfold addKey
  split
  · exact h
  · apply List.nodup_append.mpr
    refine ⟨h, List.nodup_singleton _, ?_⟩
    intro other hother last hlast heq
    rw [List.mem_singleton.mp hlast] at heq
    exact ‹value ∉ keys› (heq ▸ hother)

lemma mem_of_mem_addKey {keys : List String} {value other : String} (h : other ∈ addKey keys value) :
    other ∈ keys ∨ other = value := by
  unfold addKey at h
  split at h
  · exact .inl h
  · simpa using h

lemma foldl_addKey (values keys : List String) (h : keys.Nodup) :
    (values.foldl addKey keys).Nodup ∧ ∀ other ∈ values.foldl addKey keys, other ∈ keys ∨ other ∈ values := by
  induction values generalizing keys with
  | nil => exact ⟨h, fun other hother => .inl hother⟩
  | cons value rest ih =>
    obtain ⟨hnodup, hmem⟩ := ih (addKey keys value) (addKey_nodup h value)
    refine ⟨hnodup, fun other hother => ?_⟩
    obtain hkeys | hrest := hmem other hother
    · obtain hold | rfl := mem_of_mem_addKey hkeys
      · exact .inl hold
      · exact .inr (List.mem_cons_self ..)
    · exact .inr (List.mem_cons_of_mem _ hrest)

lemma fromKeys_of_nodup {values : List String} (h : values.Nodup) : fromKeys values = values :=
  foldl_addKey_of_nodup values [] h

lemma fromKeys_nodup (values : List String) : (fromKeys values).Nodup := (foldl_addKey values [] List.nodup_nil).1

lemma mem_of_mem_fromKeys {values : List String} {value : String} (h : value ∈ fromKeys values) : value ∈ values := by
  simpa using (foldl_addKey values [] List.nodup_nil).2 value h

lemma stripped_stripped (values : List String) : stripped (stripped values) = stripped values := by
  have hfixed : ∀ value ∈ stripped values, strip value = value ∧ value ≠ "" := by
    intro value hvalue
    obtain ⟨hmap, hne⟩ := List.mem_filter.mp (mem_of_mem_fromKeys hvalue)
    obtain ⟨raw, -, rfl⟩ := List.mem_map.mp hmap
    exact ⟨strip_strip raw, of_decide_eq_true hne⟩
  have hmap : (stripped values).map strip = stripped values := by
    rw [List.map_congr_left fun value hvalue => (hfixed value hvalue).1, List.map_id']
  have hfilter : (stripped values).filter (· ≠ "") = stripped values :=
    List.filter_eq_self.mpr fun value hvalue => decide_eq_true (hfixed value hvalue).2
  have hagain : stripped (stripped values) = fromKeys (((stripped values).map strip).filter (· ≠ "")) := rfl
  rw [hagain, hmap, hfilter]
  exact fromKeys_of_nodup (fromKeys_nodup _)

/-- Identities that were accepted are accepted again, unchanged. -/
lemma identities_again {currentFingerprints currentSpecs : List String} {ids : Identities}
    (h : identities currentFingerprints currentSpecs = .ok ids) : identities ids.fingerprints ids.specs = .ok ids := by
  have hids : ids = ⟨stripped currentFingerprints, stripped currentSpecs⟩ := by
    unfold identities at h
    dsimp only at h
    split at h
    · cases h
    · split at h
      · cases h
      · exact (Except.ok.inj h).symm
  subst hids
  rw [← h]
  unfold identities
  simp only [stripped_stripped]

/-! ### The newest row of a photo -/

/-- No newer row of the photo. -/
def Newest (rows : List AnalysisRow) (row : AnalysisRow) : Prop := ∀ other ∈ rows, other.photoId = row.photoId → ¬row.age < other.age

lemma rowNumber_eq_one {rows : List AnalysisRow} {row : AnalysisRow} : rowNumber rows row = 1 ↔ Newest rows row := by
  unfold rowNumber Newest
  simp only [Nat.add_eq_left, List.countP_eq_zero, decide_eq_true_eq, not_and]

lemma exists_newest {rows : List AnalysisRow} {row : AnalysisRow} (hrow : row ∈ rows) :
    ∃ newest ∈ rows, newest.photoId = row.photoId ∧ row.age ≤ newest.age ∧ Newest rows newest := by
  have hmem : row ∈ rows.toFinset.filter fun other => other.photoId = row.photoId :=
    Finset.mem_filter.mpr ⟨List.mem_toFinset.mpr hrow, rfl⟩
  obtain ⟨newest, hnewest, hmax⟩ := Finset.exists_max_image _ AnalysisRow.age ⟨row, hmem⟩
  obtain ⟨hin, hphoto⟩ := Finset.mem_filter.mp hnewest
  refine ⟨newest, List.mem_toFinset.mp hin, hphoto, hmax row hmem, ?_⟩
  intro other hother hsame
  exact not_lt.mpr (hmax other (Finset.mem_filter.mpr ⟨List.mem_toFinset.mpr hother, hsame.trans hphoto⟩))

/-- Rows that go while every newest row stays leave the newest rows what they were. -/
lemma newest_filter {rows : List AnalysisRow} {keeps : AnalysisRow → Bool} (h : ∀ row ∈ rows, Newest rows row → keeps row = true)
    {row : AnalysisRow} : Newest (rows.filter keeps) row ↔ Newest rows row := by
  constructor
  · intro hnew other hother hphoto hlt
    obtain ⟨newest, hin, hsame, hle, htop⟩ := exists_newest hother
    exact hnew newest (List.mem_filter.mpr ⟨hin, h newest hin htop⟩) (hsame.trans hphoto) (hlt.trans_le hle)
  · exact fun hnew other hother => hnew other (List.mem_of_mem_filter hother)

/-! ### What a batch leaves alone -/

section

variable (sqlite : Sqlite) (ids : Identities)

/-- A class that no deletion of other rows takes from a row. -/
def isFixed (db : Store) (row : AnalysisRow) : Bool :=
  isLatest db.photoAnalysis.rows row || isCurrent ids db.photoAnalysis.rows row ||
    hasInvalidSemantic sqlite db.photoAnalysis.rows row || hasAuditReference db row

/-- The other row names this one as the analysis it inherited from. -/
abbrev Names (other row : AnalysisRow) : Prop := inheritedFrom sqlite other = some row.id

/-- Deletions of candidates only. -/
structure Spares (db : Store) (gone : List ℤ) : Prop where
  exists_row : ∀ id ∈ gone, ∃ row ∈ db.photoAnalysis.rows, row.id = id
  historical : ∀ row ∈ db.photoAnalysis.rows, row.id ∈ gone → isHistorical sqlite ids db row = true

end

section

variable {sqlite : Sqlite} {ids : Identities} {db start : Store} {gone : List ℤ} {row : AnalysisRow}

lemma isHistorical_iff : isHistorical sqlite ids db row = true ↔
    isFixed sqlite ids db row = false ∧ ∀ other ∈ db.photoAnalysis.rows, ¬Names sqlite other row := by
  have hnames : hasInheritedReference sqlite db.photoAnalysis.rows row = false ↔
      ∀ other ∈ db.photoAnalysis.rows, ¬Names sqlite other row := by
    simp [hasInheritedReference]
  rw [← hnames]
  unfold isHistorical isFixed
  simp only [Bool.and_eq_true, Bool.not_eq_true', Bool.or_eq_false_iff]

lemma rows_deleteAnalyses : (db.deleteAnalyses gone).photoAnalysis.rows =
    db.photoAnalysis.rows.filter fun row => !decide (row.id ∈ gone) := rfl

/-- No referring row names what goes, so the referring tables stay as they are. -/
lemma Spares.auditReferences (h : Spares sqlite ids db gone) : auditReferences (db.deleteAnalyses gone) = auditReferences db := by
  have hout : ∀ id ∈ Retention.auditReferences db, id ∉ gone := by
    intro id hid hgone
    obtain ⟨row, hrow, rfl⟩ := h.exists_row id hgone
    have hfree := (isHistorical_iff.mp (h.historical row hrow hgone)).1
    have haudit : hasAuditReference db row = true := decide_eq_true hid
    rw [isFixed, haudit, Bool.or_true] at hfree
    cases hfree
  have hnot : ∀ reference ∈ db.photoReviews.rows ++ db.photoReviewEvents.rows ++ db.seasonalAnalysisTasks.rows,
      reference.refersTo gone = false := by
    intro reference hreference
    unfold Reference.refersTo
    cases hid : reference.analysisId with
    | none => rfl
    | some id => simpa using hout id (List.mem_filterMap.mpr ⟨reference, hreference, hid⟩)
  have hreviews : (db.deleteAnalyses gone).photoReviews.rows = db.photoReviews.rows := by
    apply List.filter_eq_self.mpr
    intro reference hreference
    simp [hnot reference (by simp [hreference])]
  have hevents : (db.deleteAnalyses gone).photoReviewEvents.rows = db.photoReviewEvents.rows := by
    apply List.filter_eq_self.mpr
    intro reference hreference
    simp [hnot reference (by simp [hreference])]
  have htasks : (db.deleteAnalyses gone).seasonalAnalysisTasks = db.seasonalAnalysisTasks := by
    have hnone : db.seasonalAnalysisTasks.affected (Reference.refersTo gone) = 0 := by
      apply List.countP_eq_zero.mpr
      intro reference hreference
      simp [hnot reference (by simp [hreference])]
    change db.seasonalAnalysisTasks.update (Reference.refersTo gone) (fun row => { row with analysisId := none }) (fun _ => rfl) = _
    exact Table.update_eq_self hnone
  unfold Retention.auditReferences
  rw [hreviews, hevents, htasks]

lemma Spares.stays (h : Spares sqlite ids db gone) (hrow : row ∈ db.photoAnalysis.rows) (hfixed : isFixed sqlite ids db row = true) :
    (!decide (row.id ∈ gone)) = true := by
  by_contra hgone
  have hin : row.id ∈ gone := by simpa using hgone
  rw [(isHistorical_iff.mp (h.historical row hrow hin)).1] at hfixed
  cases hfixed

lemma Spares.isLatest (h : Spares sqlite ids db gone) :
    isLatest (db.deleteAnalyses gone).photoAnalysis.rows row = isLatest db.photoAnalysis.rows row := by
  rw [Bool.eq_iff_iff]
  unfold Retention.isLatest
  simp only [beq_iff_eq, rowNumber_eq_one]
  apply newest_filter
  intro other hother hnew
  apply h.stays hother
  have hlatest : Retention.isLatest db.photoAnalysis.rows other = true := beq_iff_eq.mpr (rowNumber_eq_one.mpr hnew)
  simp [isFixed, hlatest]

lemma Spares.isCurrent (h : Spares sqlite ids db gone) :
    isCurrent ids (db.deleteAnalyses gone).photoAnalysis.rows row = isCurrent ids db.photoAnalysis.rows row := by
  unfold Retention.isCurrent
  congr 1
  rw [Bool.eq_iff_iff, rows_deleteAnalyses, List.filter_comm]
  simp only [beq_iff_eq, rowNumber_eq_one]
  apply newest_filter
  intro other hother hnew
  obtain ⟨hin, hmatching⟩ := List.mem_filter.mp hother
  apply h.stays hin
  have hcurrent : Retention.isCurrent ids db.photoAnalysis.rows other = true :=
    Bool.and_eq_true_iff.mpr ⟨hmatching, beq_iff_eq.mpr (rowNumber_eq_one.mpr hnew)⟩
  simp [isFixed, hcurrent]

lemma Spares.hasInvalidSemantic (h : Spares sqlite ids db gone) :
    hasInvalidSemantic sqlite (db.deleteAnalyses gone).photoAnalysis.rows row = hasInvalidSemantic sqlite db.photoAnalysis.rows row := by
  rw [Bool.eq_iff_iff]
  unfold Retention.hasInvalidSemantic
  simp only [List.any_eq_true]
  constructor
  · rintro ⟨other, hother, hbad⟩
    exact ⟨other, List.mem_of_mem_filter hother, hbad⟩
  · rintro ⟨other, hother, hbad⟩
    refine ⟨other, List.mem_filter.mpr ⟨hother, ?_⟩, hbad⟩
    apply h.stays hother
    have hself : Retention.hasInvalidSemantic sqlite db.photoAnalysis.rows other = true := by
      apply List.any_eq_true.mpr
      refine ⟨other, hother, ?_⟩
      rw [beq_self_eq_true, Bool.true_and]
      exact (Bool.and_eq_true_iff.mp hbad).2
    simp [isFixed, hself]

/-- What fixes a row is the same after a batch. -/
lemma Spares.isFixed (h : Spares sqlite ids db gone) : isFixed sqlite ids (db.deleteAnalyses gone) row = isFixed sqlite ids db row := by
  have haudit : hasAuditReference (db.deleteAnalyses gone) row = hasAuditReference db row := by
    unfold hasAuditReference
    rw [h.auditReferences]
  unfold Retention.isFixed
  rw [h.isLatest, h.isCurrent, h.hasInvalidSemantic, haudit]

end

/-! ### A batch as a pruning -/

section

variable (sqlite : Sqlite) (ids : Identities)

/-- The rows a pruning of the store that `start` began as may take. -/
abbrev Candidate (start : Store) : Finset AnalysisRow → AnalysisRow → Prop :=
  Pruning.Candidate (fun row => isFixed sqlite ids start row = true) (Names sqlite) AnalysisRow.photoId AnalysisRow.age
    defaultHistoryPerPhoto

abbrev Prunes (start : Store) : Finset AnalysisRow → Finset AnalysisRow → Prop :=
  Pruning.Prunes (fun row => isFixed sqlite ids start row = true) (Names sqlite) AnalysisRow.photoId AnalysisRow.age
    defaultHistoryPerPhoto

/-- What the rows are fixed by is what it was at the start. -/
def Agrees (start db : Store) : Prop := ∀ row, isFixed sqlite ids db row = isFixed sqlite ids start row

end

section

variable {sqlite : Sqlite} {ids : Identities} {db start : Store} {gone : List ℤ} {row : AnalysisRow}

lemma nodup_rows (db : Store) : db.photoAnalysis.rows.Nodup := db.photoAnalysis.distinct.of_map _

lemma isHistorical_free (hagrees : Agrees sqlite ids start db) : isHistorical sqlite ids db row = true ↔
    Pruning.Free (fun row => isFixed sqlite ids start row = true) (Names sqlite) db.photoAnalysis.rows.toFinset row := by
  rw [isHistorical_iff, hagrees row]
  simp only [Pruning.Free, List.mem_toFinset, Bool.not_eq_true]

/-- The window function counts the free rows ahead. -/
lemma card_ahead (hagrees : Agrees sqlite ids start db) :
    1 + (Pruning.ahead (fun row => isFixed sqlite ids start row = true) (Names sqlite) AnalysisRow.photoId AnalysisRow.age
      db.photoAnalysis.rows.toFinset row).card = rowNumber (db.photoAnalysis.rows.filter (isHistorical sqlite ids db)) row := by
  unfold Pruning.ahead rowNumber
  rw [List.countP_filter, List.countP_eq_length_filter]
  have hset : (db.photoAnalysis.rows.toFinset.filter fun other =>
      Pruning.Free (fun row => isFixed sqlite ids start row = true) (Names sqlite) db.photoAnalysis.rows.toFinset other ∧
        other.photoId = row.photoId ∧ row.age < other.age) =
      (db.photoAnalysis.rows.filter fun other =>
        decide (other.photoId = row.photoId ∧ row.age < other.age) && isHistorical sqlite ids db other).toFinset := by
    ext other
    simp only [Finset.mem_filter, List.mem_toFinset, List.mem_filter, Bool.and_eq_true, decide_eq_true_eq,
      isHistorical_free hagrees]
    tauto
  rw [hset, List.toFinset_card_of_nodup ((nodup_rows db).filter _)]

lemma retentionClass_eq_candidate : retentionClass sqlite ids db row = .candidate ↔ isHistorical sqlite ids db row = true ∧
    defaultHistoryPerPhoto < rowNumber (db.photoAnalysis.rows.filter (isHistorical sqlite ids db)) row := by
  have hhistorical : isHistorical sqlite ids db row = true ↔ ¬isLatest db.photoAnalysis.rows row = true ∧
      ¬isCurrent ids db.photoAnalysis.rows row = true ∧ ¬hasInvalidSemantic sqlite db.photoAnalysis.rows row = true ∧
      ¬hasAuditReference db row = true ∧ ¬hasInheritedReference sqlite db.photoAnalysis.rows row = true := by
    simp [isHistorical, and_assoc]
  rw [hhistorical]
  unfold retentionClass
  split_ifs with hlatest hcurrent hinvalid haudit hinherited hbuffer
  · simp [hlatest]
  · simp [hcurrent]
  · simp [hinvalid]
  · simp [haudit]
  · simp [hinherited]
  · simp only [false_iff, not_and]
    omega
  · simp only [true_iff]
    exact ⟨⟨hlatest, hcurrent, hinvalid, haudit, hinherited⟩, by omega⟩

lemma mem_candidates : row ∈ candidates sqlite ids db ↔
    row ∈ db.photoAnalysis.rows ∧ retentionClass sqlite ids db row = .candidate := by
  unfold candidates
  rw [Keyset.orderBy_perm.mem_iff, List.mem_filter, beq_iff_eq]

/-- The candidates of the statement are those of the pruning. -/
lemma candidate_iff (hagrees : Agrees sqlite ids start db) :
    Candidate sqlite ids start db.photoAnalysis.rows.toFinset row ↔ row ∈ candidates sqlite ids db := by
  rw [mem_candidates, retentionClass_eq_candidate, isHistorical_free hagrees, ← card_ahead hagrees]
  constructor
  · intro h
    have hbehind := h.behind
    exact ⟨List.mem_toFinset.mp h.mem, h.free, by omega⟩
  · rintro ⟨hrow, hfree, hcount⟩
    exact ⟨List.mem_toFinset.mpr hrow, hfree, by omega⟩

lemma mem_candidates_of_batch {batchSize : ℤ} (hrow : row ∈ db.photoAnalysis.rows)
    (hid : row.id ∈ candidateBatch sqlite ids batchSize db) : row ∈ candidates sqlite ids db := by
  obtain ⟨other, hother, hsame⟩ := List.mem_map.mp hid
  have hcandidate := List.mem_of_mem_take hother
  obtain rfl := Table.eq_of_key_eq (mem_candidates.mp hcandidate).1 hrow hsame
  exact hcandidate

/-- A batch takes candidates only. -/
lemma candidateBatch_spares (batchSize : ℤ) : Spares sqlite ids db (candidateBatch sqlite ids batchSize db) := by
  constructor
  · intro id hid
    obtain ⟨row, hrow, rfl⟩ := List.mem_map.mp hid
    exact ⟨row, (mem_candidates.mp (List.mem_of_mem_take hrow)).1, rfl⟩
  · intro row hrow hid
    exact (retentionClass_eq_candidate.mp (mem_candidates.mp (mem_candidates_of_batch hrow hid)).2).1

lemma batch_agrees (hagrees : Agrees sqlite ids start db) (batchSize : ℤ) :
    Agrees sqlite ids start (db.deleteAnalyses (candidateBatch sqlite ids batchSize db)) := by
  intro row
  rw [(candidateBatch_spares batchSize).isFixed]
  exact hagrees row

lemma batch_prunes (hagrees : Agrees sqlite ids start db) (batchSize : ℤ) :
    Prunes sqlite ids start db.photoAnalysis.rows.toFinset
      (db.deleteAnalyses (candidateBatch sqlite ids batchSize db)).photoAnalysis.rows.toFinset := by
  constructor
  · intro row hrow
    exact List.mem_toFinset.mpr (List.mem_of_mem_filter (List.mem_toFinset.mp hrow))
  · intro row hrow hout
    apply (candidate_iff hagrees).mpr
    apply mem_candidates_of_batch (List.mem_toFinset.mp hrow)
    by_contra hid
    apply hout
    exact List.mem_toFinset.mpr (List.mem_filter.mpr ⟨List.mem_toFinset.mp hrow, by simpa using hid⟩)

/-- A batch with a candidate left to take takes one. -/
lemma batch_shrinks {batchSize : ℤ} (hsize : 1 ≤ batchSize) (hleft : candidates sqlite ids db ≠ []) :
    (db.deleteAnalyses (candidateBatch sqlite ids batchSize db)).photoAnalysis.rows.length < db.photoAnalysis.rows.length := by
  obtain ⟨first, rest, hcons⟩ := List.exists_cons_of_ne_nil hleft
  obtain ⟨most, hmost⟩ : ∃ most, batchSize.toNat = most + 1 := ⟨batchSize.toNat - 1, by omega⟩
  have hid : first.id ∈ candidateBatch sqlite ids batchSize db := by
    unfold candidateBatch
    rw [hcons, hmost]
    exact List.mem_cons_self ..
  have hfirst : first ∈ candidates sqlite ids db := hcons ▸ List.mem_cons_self ..
  rw [rows_deleteAnalyses]
  apply List.length_filter_lt_length_iff_exists.mpr
  exact ⟨first, (mem_candidates.mp hfirst).1, by simpa using hid⟩

lemma final_iff (hagrees : Agrees sqlite ids start db) : candidates sqlite ids db = [] ↔
    Pruning.Final (fun row => isFixed sqlite ids start row = true) (Names sqlite) AnalysisRow.photoId AnalysisRow.age
      defaultHistoryPerPhoto db.photoAnalysis.rows.toFinset := by
  rw [List.eq_nil_iff_forall_not_mem]
  apply forall_congr'
  intro row
  rw [← candidate_iff hagrees]

end

/-! ### Runs of batches -/

section

variable {δ : Type} [DecidableEq δ] {sqlite : Sqlite} {digest : Identities → List AnalysisRow → δ}
variable {currentFingerprints currentSpecs : List String} {ids : Identities}

variable (sqlite digest) in
/-- A call that names the inventory it saw deletes its batch, and says whether it was the last. -/
lemma pruneBatch_ok (hids : identities currentFingerprints currentSpecs = .ok ids) {batchSize : ℤ}
    (hsize : 1 ≤ batchSize ∧ batchSize ≤ maxDeleteBatchSize) (db : Store) :
    ∃ pruned, pruneBatch sqlite digest currentFingerprints currentSpecs batchSize
        (inventoryWithConnection sqlite digest ids db).inventoryDigest db = .ok pruned ∧
      pruned.store = db.deleteAnalyses (candidateBatch sqlite ids batchSize db) ∧
      (pruned.complete = true ↔ candidates sqlite ids pruned.store = []) := by
  have hafter : inventory sqlite digest ids.fingerprints ids.specs (db.deleteAnalyses (candidateBatch sqlite ids batchSize db)) =
      .ok (inventoryWithConnection sqlite digest ids (db.deleteAnalyses (candidateBatch sqlite ids batchSize db))) := by
    unfold inventory
    rw [identities_again hids]
    rfl
  have hcount : ((inventoryWithConnection sqlite digest ids
      (db.deleteAnalyses (candidateBatch sqlite ids batchSize db))).classRows .candidate == 0) = true ↔
      candidates sqlite ids (db.deleteAnalyses (candidateBatch sqlite ids batchSize db)) = [] := by
    rw [beq_iff_eq, List.eq_nil_iff_forall_not_mem]
    simp only [inventoryWithConnection, List.countP_eq_zero, mem_candidates, not_and, beq_iff_eq]
  unfold pruneBatch
  rw [hids]
  simp only [require, hsize, and_self, decide_true, if_true, bind, Except.bind, hafter, pure, Except.pure]
  exact ⟨_, rfl, rfl, hcount⟩

variable (digest) in
/-- Every run of calls is a run of prunings. It ends with no candidate left, or each of its batches took a row. -/
lemma pruneBatches_run (hids : identities currentFingerprints currentSpecs = .ok ids) {start : Store} (sizes : List ℤ)
    (hsizes : ∀ size ∈ sizes, 1 ≤ size ∧ size ≤ maxDeleteBatchSize) {db : Store} (hagrees : Agrees sqlite ids start db) :
    ∃ later, pruneBatches sqlite digest currentFingerprints currentSpecs sizes db = .ok later ∧ Agrees sqlite ids start later ∧
      Relation.ReflTransGen (Prunes sqlite ids start) db.photoAnalysis.rows.toFinset later.photoAnalysis.rows.toFinset ∧
      (candidates sqlite ids later = [] ∨
        later.photoAnalysis.rows.length + sizes.length ≤ db.photoAnalysis.rows.length) := by
  induction sizes generalizing db with
  | nil => exact ⟨db, rfl, hagrees, .refl, .inr le_rfl⟩
  | cons size rest ih =>
    have hsize := hsizes size (List.mem_cons_self ..)
    obtain ⟨pruned, hpruned, hstore, -⟩ := pruneBatch_ok sqlite digest hids hsize db
    have hnext : Agrees sqlite ids start pruned.store := hstore ▸ batch_agrees hagrees size
    have hstep : Prunes sqlite ids start db.photoAnalysis.rows.toFinset pruned.store.photoAnalysis.rows.toFinset :=
      hstore ▸ batch_prunes hagrees size
    obtain ⟨later, hlater, hend, hrun, hleft⟩ := ih (fun other hother => hsizes other (List.mem_cons_of_mem _ hother)) hnext
    have hall := Relation.ReflTransGen.head hstep hrun
    refine ⟨later, ?_, hend, hall, ?_⟩
    · unfold pruneBatches inventory
      rw [hids]
      change (pruneBatch sqlite digest currentFingerprints currentSpecs size
        (inventoryWithConnection sqlite digest ids db).inventoryDigest db >>= fun pruned => _) = _
      rw [hpruned]
      exact hlater
    · by_cases hdone : candidates sqlite ids db = []
      · have hsame := Pruning.run_of_final ((final_iff hagrees).mp hdone) hall
        left
        apply (final_iff hend).mpr
        rw [hsame]
        exact (final_iff hagrees).mp hdone
      · have hfewer := batch_shrinks hsize.1 hdone
        rw [← hstore] at hfewer
        apply hleft.imp_right
        intro hle
        rw [List.length_cons]
        omega

/-- What a retention run leaves of a store. -/
structure Retains (sqlite : Sqlite) (ids : Identities) (db : Store) (kept : Finset AnalysisRow) : Prop where
  subset : kept ⊆ db.photoAnalysis.rows.toFinset
  latest : ∀ row ∈ db.photoAnalysis.rows, Newest db.photoAnalysis.rows row → row ∈ kept
  current : ∀ row ∈ db.photoAnalysis.rows, ids.matching row = true → Newest (db.photoAnalysis.rows.filter ids.matching) row →
    row ∈ kept
  audit : ∀ row ∈ db.photoAnalysis.rows, row.id ∈ auditReferences db → row ∈ kept
  invalid : ∀ row ∈ db.photoAnalysis.rows, ∀ other ∈ db.photoAnalysis.rows, other.photoId = row.photoId →
    invalidSemantic sqlite other = true → row ∈ kept
  /-- Of the rows that nothing else keeps, the two newest of each photo remain. -/
  history : ∀ row ∈ db.photoAnalysis.rows, isFixed sqlite ids db row = false → (∀ other ∈ kept, ¬Names sqlite other row) →
    (row ∈ kept ↔ (db.photoAnalysis.rows.toFinset.filter fun newer =>
      (isFixed sqlite ids db newer = false ∧ ∀ other ∈ kept, ¬Names sqlite other newer) ∧
        newer.photoId = row.photoId ∧ row.age < newer.age).card < defaultHistoryPerPhoto)
  inherited : ∀ row ∈ db.photoAnalysis.rows, row ∉ kept → ∀ other ∈ kept, ¬Names sqlite other row

lemma retains_of_final {db : Store} {kept : Finset AnalysisRow}
    (hrun : Relation.ReflTransGen (Prunes sqlite ids db) db.photoAnalysis.rows.toFinset kept)
    (hfinal : Pruning.Final (fun row => isFixed sqlite ids db row = true) (Names sqlite) AnalysisRow.photoId AnalysisRow.age
      defaultHistoryPerPhoto kept) : Retains sqlite ids db kept := by
  have hgone : ∀ row ∈ db.photoAnalysis.rows, row ∉ kept → isFixed sqlite ids db row = false ∧
      ∀ other ∈ kept, ¬Names sqlite other row := by
    intro row hrow hout
    obtain ⟨⟨hfixed, hnames⟩, -⟩ := Pruning.run_behind hrun (List.mem_toFinset.mpr hrow) hout
    exact ⟨Bool.eq_false_iff.mpr hfixed, hnames⟩
  have hkeeps : ∀ row ∈ db.photoAnalysis.rows, isFixed sqlite ids db row = true → row ∈ kept := by
    intro row hrow hfixed
    by_contra hout
    rw [(hgone row hrow hout).1] at hfixed
    cases hfixed
  refine {
    subset := Pruning.run_subset hrun
    latest := fun row hrow hnew => hkeeps row hrow ?_
    current := fun row hrow hmatching hnew => hkeeps row hrow ?_
    audit := fun row hrow haudit => hkeeps row hrow ?_
    invalid := fun row hrow other hother hphoto hbad => hkeeps row hrow ?_
    history := fun row hrow hfixed hnames => ?_
    inherited := fun row hrow hout => (hgone row hrow hout).2 }
  · have hlatest : isLatest db.photoAnalysis.rows row = true := beq_iff_eq.mpr (rowNumber_eq_one.mpr hnew)
    simp [isFixed, hlatest]
  · have hcurrent : isCurrent ids db.photoAnalysis.rows row = true :=
      Bool.and_eq_true_iff.mpr ⟨hmatching, beq_iff_eq.mpr (rowNumber_eq_one.mpr hnew)⟩
    simp [isFixed, hcurrent]
  · have hreference : hasAuditReference db row = true := decide_eq_true haudit
    simp [isFixed, hreference]
  · have hinvalid : hasInvalidSemantic sqlite db.photoAnalysis.rows row = true :=
      List.any_eq_true.mpr ⟨other, hother, Bool.and_eq_true_iff.mpr ⟨beq_iff_eq.mpr hphoto, hbad⟩⟩
    simp [isFixed, hinvalid]
  · have hiff := Pruning.mem_final_iff hrun hfinal (List.mem_toFinset.mpr hrow)
    simp only [Pruning.Free, Bool.not_eq_true] at hiff
    rw [hiff]
    apply or_iff_right
    exact not_not.mpr ⟨hfixed, hnames⟩

/-- Calls of `prune_batch` with any sizes reach a store without candidates within as many calls as there are rows, and every
store they reach without candidates has the same rows. -/
theorem retention_independent_of_batching (hids : identities currentFingerprints currentSpecs = .ok ids) (db : Store) :
    ∃ kept : Finset AnalysisRow, Retains sqlite ids db kept ∧
      ∀ sizes : List ℤ, (∀ size ∈ sizes, 1 ≤ size ∧ size ≤ maxDeleteBatchSize) →
        ∃ later, pruneBatches sqlite digest currentFingerprints currentSpecs sizes db = .ok later ∧
          (db.photoAnalysis.rows.length ≤ sizes.length → candidates sqlite ids later = []) ∧
          (candidates sqlite ids later = [] → later.photoAnalysis.rows.toFinset = kept) := by
  have hagrees : Agrees sqlite ids db db := fun row => rfl
  have hreaches : ∀ sizes : List ℤ, (∀ size ∈ sizes, 1 ≤ size ∧ size ≤ maxDeleteBatchSize) →
      ∃ later, pruneBatches sqlite digest currentFingerprints currentSpecs sizes db = .ok later ∧ Agrees sqlite ids db later ∧
        Relation.ReflTransGen (Prunes sqlite ids db) db.photoAnalysis.rows.toFinset later.photoAnalysis.rows.toFinset ∧
        (db.photoAnalysis.rows.length ≤ sizes.length → candidates sqlite ids later = []) := by
    intro sizes hsizes
    obtain ⟨later, hlater, hend, hrun, hleft⟩ := pruneBatches_run digest hids sizes hsizes hagrees
    refine ⟨later, hlater, hend, hrun, fun hlong => ?_⟩
    obtain hdone | hfewer := hleft
    · exact hdone
    · have hempty : later.photoAnalysis.rows = [] := List.length_eq_zero_iff.mp (by omega)
      rw [List.eq_nil_iff_forall_not_mem]
      intro row hrow
      have hmem := (mem_candidates.mp hrow).1
      rw [hempty] at hmem
      cases hmem
  obtain ⟨last, -, hlast, hrun, hdone⟩ := hreaches (List.replicate db.photoAnalysis.rows.length 1) (by
    intro size hsize
    rw [List.eq_of_mem_replicate hsize]
    decide)
  have hfinal := (final_iff hlast).mp (hdone (by rw [List.length_replicate]))
  refine ⟨last.photoAnalysis.rows.toFinset, retains_of_final hrun hfinal, fun sizes hsizes => ?_⟩
  obtain ⟨later, hlater, hend, hother, hlong⟩ := hreaches sizes hsizes
  refine ⟨later, hlater, hlong, fun hnone => ?_⟩
  exact Pruning.final_unique hother ((final_iff hend).mp hnone) hrun hfinal

/-- An analysis that names the first one. -/
def inheriting : String := "\x7b\"inherited_from\":\x7b\"analysis_id\":1\x7d\x7d"

def cascadeSqlite : Sqlite where
  jsonValid text := text = inheriting
  jsonType text := if text = inheriting then some "integer" else none
  jsonInteger _ := 1

/-- The oldest analysis is free once the second is gone. -/
def cascade : Store where
  photoAnalysis := ⟨[⟨1, "photo", "2026-01-01", none, none, none⟩, ⟨2, "photo", "2026-01-02", none, none, some inheriting⟩,
    ⟨3, "photo", "2026-01-03", none, none, none⟩, ⟨4, "photo", "2026-01-04", none, none, none⟩,
    ⟨5, "photo", "2026-01-05", none, none, none⟩], by decide⟩

theorem retention_independent_of_batching_cascade :
    ∃ kept : Finset AnalysisRow, Retains cascadeSqlite ⟨["current"], []⟩ cascade kept ∧
      ∀ sizes : List ℤ, (∀ size ∈ sizes, 1 ≤ size ∧ size ≤ maxDeleteBatchSize) →
        ∃ later, pruneBatches cascadeSqlite (fun _ rows => rows.map AnalysisRow.id) [" current "] [] sizes cascade = .ok later ∧
          (cascade.photoAnalysis.rows.length ≤ sizes.length → candidates cascadeSqlite ⟨["current"], []⟩ later = []) ∧
          (candidates cascadeSqlite ⟨["current"], []⟩ later = [] → later.photoAnalysis.rows.toFinset = kept) :=
  retention_independent_of_batching (by decide) cascade

end

end InkTime.Retention
