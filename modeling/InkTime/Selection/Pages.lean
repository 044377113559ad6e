import InkTime.Selection.Model
import Mathlib.Data.Prod.Lex
import Mathlib.Data.String.Basic

/-!
# The pages and the preview

The pages of pending photos are the matching photos in the order of their scores and ids, cut off at the limit. The preview counts them.
-/

namespace InkTime.Selection

variable {db : Db} {fingerprint alternate selectionMode : String}

/-- A photo that the statements select. -/
def isPending (db : Db) (fingerprint alternate selectionMode : String) (photo : Photo) : Bool :=
  photo.lifecycleStatus == .active && photo.eligible && photo.localFeaturesStatus == .complete && photo.likelihood < real 0.95 &&
    db.selects fingerprint alternate selectionMode photo && !db.isReserved photo

/-- The rows that match. -/
def pendingRows (db : Db) (fingerprint alternate selectionMode : String) : List Photo :=
  db.photos.rows.filter (isPending db fingerprint alternate selectionMode)

/-- In the order of the statement: higher scores come first, and of equal scores the lower ids. -/
def Before (photo other : Photo) : Prop :=
  other.candidateScore < photo.candidateScore ∨ (photo.candidateScore = other.candidateScore ∧ photo.id < other.id)

lemma cursorOf_lt {photo other : Photo} : cursorOf photo < cursorOf other ↔ Before photo other := Prod.Lex.lt_iff

lemma precedes_eq (photo other : Photo) : photo.precedes other = decide (cursorOf photo ≤ cursorOf other) := by
  have hle : cursorOf photo ≤ cursorOf other ↔
      other.candidateScore < photo.candidateScore ∨ (photo.candidateScore = other.candidateScore ∧ photo.id ≤ other.id) := Prod.Lex.le_iff
  unfold Photo.precedes
  rw [Bool.eq_iff_iff]
  simp only [Bool.or_eq_true, Bool.and_eq_true, decide_eq_true_eq, beq_iff_eq, hle]

/-- The statement of a page selects the first of the matching rows after its cursor. -/
lemma pendingPage_eq (cursor : Cursor) (size : Nat) :
    pendingPage db fingerprint alternate selectionMode (OrderDual.ofDual (ofLex cursor).1) (ofLex cursor).2 size =
      Keyset.page cursorOf (pendingRows db fingerprint alternate selectionMode) cursor size := by
  have hafter : ∀ photo : Photo, cursor < cursorOf photo ↔ photo.candidateScore < OrderDual.ofDual (ofLex cursor).1 ∨
      (photo.candidateScore = OrderDual.ofDual (ofLex cursor).1 ∧ (ofLex cursor).2 < photo.id) := by
    intro photo
    rw [Prod.Lex.lt_iff, eq_comm (a := photo.candidateScore)]
    exact Iff.rfl
  have horder : Photo.precedes = fun photo other => decide (cursorOf photo ≤ cursorOf other) := by
    funext photo other
    exact precedes_eq photo other
  have hrows : (db.photos.rows.filter fun photo => photo.lifecycleStatus == .active && photo.eligible &&
      photo.localFeaturesStatus == .complete && photo.likelihood < real 0.95 &&
      (photo.candidateScore < OrderDual.ofDual (ofLex cursor).1 ||
        (photo.candidateScore == OrderDual.ofDual (ofLex cursor).1 && (ofLex cursor).2 < photo.id)) &&
      db.selects fingerprint alternate selectionMode photo && !db.isReserved photo) =
      Keyset.after cursorOf cursor (pendingRows db fingerprint alternate selectionMode) := by
    unfold Keyset.after pendingRows isPending
    rw [List.filter_filter]
    apply List.filter_congr
    intro photo _
    rw [Bool.eq_iff_iff]
    simp only [Bool.and_eq_true, Bool.or_eq_true, decide_eq_true_eq, beq_iff_eq, hafter]
    tauto
  unfold pendingPage Keyset.page Keyset.orderBy
  rw [hrows, horder]

/-- The first page begins before all photos. -/
lemma after_start (rows : List Photo) : Keyset.after cursorOf start rows = rows := by
  apply List.filter_eq_self.mpr
  intro photo _
  rw [decide_eq_true_eq]
  apply Prod.Lex.lt_iff.mpr
  left
  change photo.candidateScore < ⊤
  unfold Photo.candidateScore
  cases hscore : photo.localCandidateScore with
  | none => exact WithBot.coe_lt_coe.mpr (WithTop.coe_lt_top _)
  | some score => exact lt_of_le_of_lt (photo.score_range score hscore).2 (WithBot.coe_lt_coe.mpr (WithTop.coe_lt_top _))

lemma pendingRows_distinct (db : Db) (fingerprint alternate selectionMode : String) :
    ((pendingRows db fingerprint alternate selectionMode).map Photo.id).Nodup :=
  db.photos.distinct.sublist (List.filter_sublist.map Photo.id)

lemma cursors_distinct (db : Db) (fingerprint alternate selectionMode : String) :
    ((pendingRows db fingerprint alternate selectionMode).map cursorOf).Nodup := by
  have hids : (pendingRows db fingerprint alternate selectionMode).map Photo.id =
      ((pendingRows db fingerprint alternate selectionMode).map cursorOf).map fun cursor => (ofLex cursor).2 := by
    rw [List.map_map]
    rfl
  have hdistinct := pendingRows_distinct db fingerprint alternate selectionMode
  rw [hids] at hdistinct
  exact hdistinct.of_map _

/-- The preview counts the matching rows. -/
lemma sumWhere_getD (rows : List Photo) (condition : Photo → Bool) : (sumWhere rows condition).getD 0 = rows.countP condition := by
  unfold sumWhere
  cases rows with
  | nil => rfl
  | cons photo rest => rfl

lemma pendingTotal_eq (analysisFingerprint alternateAnalysisFingerprint : Option String) (limit : Option ℤ) :
    (selectionPreview db analysisFingerprint selectionMode limit alternateAnalysisFingerprint).pendingTotal =
      (pendingRows db (orText analysisFingerprint "")
        (orText alternateAnalysisFingerprint (orText analysisFingerprint "")) selectionMode).length := by
  unfold selectionPreview pendingRows isPending
  dsimp only
  rw [sumWhere_getD, ← List.countP_eq_length_filter, List.countP_filter]
  congr 1
  funext photo
  rw [Bool.eq_iff_iff]
  simp only [Bool.and_eq_true]
  tauto

/-- The pending photos are selected once each, in the order of their scores and ids and up to the limit, and as many as the preview
tells. -/
theorem pending_ids_agree (db : Db) (analysisFingerprint : Option String) (selectionMode : String) (limit : Option ℤ)
    (alternateAnalysisFingerprint : Option String) :
    ∃ (photos : List Photo) (ids : List String),
      photos.Perm (pendingRows db (orText analysisFingerprint "") (orText alternateAnalysisFingerprint (orText analysisFingerprint ""))
        selectionMode) ∧
      photos.Pairwise Before ∧ ids = Keyset.limited limit (photos.map Photo.id) ∧ ids.Nodup ∧
      (∀ fuel > db.photos.rows.length,
        iterPendingPhotoIds db analysisFingerprint selectionMode limit alternateAnalysisFingerprint fuel = some ids) ∧
      (ids.length : ℤ) = (selectionPreview db analysisFingerprint selectionMode limit alternateAnalysisFingerprint).limitedTo := by
  set fingerprint := orText analysisFingerprint "" with hfingerprint
  set alternate := orText alternateAnalysisFingerprint fingerprint with halternate
  set rows := pendingRows db fingerprint alternate selectionMode with hrows
  have hperm : (Keyset.orderBy cursorOf rows).Perm rows := Keyset.orderBy_perm
  have hids : ((Keyset.orderBy cursorOf rows).map Photo.id).Nodup :=
    (hperm.map Photo.id).nodup_iff.mpr (pendingRows_distinct db fingerprint alternate selectionMode)
  refine ⟨Keyset.orderBy cursorOf rows, _, hperm, ?_, rfl, ?_, ?_, ?_⟩
  · exact (Keyset.orderBy_strict (cursors_distinct db fingerprint alternate selectionMode)).imp fun h => cursorOf_lt.mp h
  · cases limit with
    | none => exact hids
    | some limit => exact hids.sublist (List.take_sublist _ _)
  · intro fuel hfuel
    have hfewer : (Keyset.after cursorOf start rows).length < fuel := by
      rw [after_start]
      exact lt_of_le_of_lt (List.length_filter_le _ _) hfuel
    have hquery : (fun cursor : Cursor => pendingPage db fingerprint alternate selectionMode (OrderDual.ofDual (ofLex cursor).1)
        (ofLex cursor).2) = Keyset.page cursorOf rows := by
      funext cursor size
      exact pendingPage_eq cursor size
    change (Keyset.scan cursorOf (fun cursor : Cursor => pendingPage db fingerprint alternate selectionMode
      (OrderDual.ofDual (ofLex cursor).1) (ofLex cursor).2) 500 fuel start limit).map _ = _
    rw [hquery, Keyset.scan_page (by decide) (cursors_distinct db fingerprint alternate selectionMode) hfewer, after_start,
      Option.map_some, Keyset.map_limited]
  · have hcount : (selectionPreview db analysisFingerprint selectionMode limit alternateAnalysisFingerprint).pendingTotal = rows.length :=
      pendingTotal_eq analysisFingerprint alternateAnalysisFingerprint limit
    rw [Keyset.length_limited, List.length_map, hperm.length_eq, ← hcount]
    cases limit with
    | none => rfl
    | some limit => rfl

end InkTime.Selection
