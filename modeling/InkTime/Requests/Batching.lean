import InkTime.Library.Keyset
import InkTime.Library.Partition
import Mathlib.Data.Prod.Lex
import Mathlib.Data.String.Basic

/-!
# The batches of a full-library run

The photos that may go to AI are read in one order, grouped by year or folder, and cut into batches with
names of their own.
-/

namespace InkTime.Requests

/-- A row of `photos`, with whether a semantic analysis of it is ranked. -/
structure PhotoRow where
  id : String
  relativePath : String
  capturedAt : Option String
  createdAt : String
  ranked : Bool
  active : Bool
  neverUpload : Bool
  eligible : Bool
  exclusionStatus : String

structure Batch where
  group : String
  photoIds : List String
deriving DecidableEq

/-! ### The query -/

/-- The condition of `count_active_eligible` and of the photos a request may name. -/
def PhotoRow.activeEligible (row : PhotoRow) : Bool :=
  row.active && row.eligible && !row.neverUpload && (row.exclusionStatus == "eligible" || row.exclusionStatus == "manually_restored")

def PhotoRow.batchable (includeAllActive : Bool) (row : PhotoRow) : Bool :=
  row.active && !row.neverUpload &&
    (includeAllActive || (row.eligible && (row.exclusionStatus == "eligible" || row.exclusionStatus == "manually_restored")))

def PhotoRow.order (row : PhotoRow) : Bool ×ₗ String ×ₗ String ×ₗ String :=
  toLex (row.ranked, toLex (row.capturedAt.getD row.createdAt, toLex (row.relativePath, row.id)))

/-- `max(1, min(int(limit), 100_000))` -/
def remaining (limit : ℤ) : ℕ := (max 1 (min limit 100000)).toNat

def batchRows (limit : ℤ) (includeAllActive : Bool) (photos : List PhotoRow) : List PhotoRow :=
  (Keyset.orderBy PhotoRow.order (photos.filter (PhotoRow.batchable includeAllActive))).take (remaining limit)

def countActiveEligible (photos : List PhotoRow) : ℕ := photos.countP PhotoRow.activeEligible

/-! ### Groups and their names -/

/-- `text or other` -/
def orText (text other : String) : String := if text = "" then other else text

def groupKey (groupBy : String) (row : PhotoRow) : String :=
  let key :=
    if groupBy = "folder" then orText (String.ofList (row.relativePath.toList.takeWhile (· ≠ '/'))) "根目錄"
    else String.ofList ((orText (orText (row.capturedAt.getD "") row.createdAt) "未知").toList.take 4)
  orText key "未知"

def longer (name : String) : String := name ++ " · 分段"

/-- The names in use so far, and the batches. -/
abbrev Named := List String × List Batch

/-- One piece of a group of more than 500 photos. -/
def namePiece (key : String) (named : Named) (piece : List String × ℕ) : Named :=
  let batchKey := Partition.free longer named.1 named.1.length (key ++ " · 批次 " ++ toString (piece.2 + 1))
  (batchKey :: named.1, named.2 ++ [⟨batchKey, piece.1⟩])

def nameGroup (named : Named) (group : String × List String) : Named :=
  if group.2.length ≤ 500 then (named.1, named.2 ++ [⟨group.1, group.2⟩])
  else (Partition.pieces 500 group.2).zipIdx.foldl (namePiece group.1) named

def eligiblePhotoBatches (groupBy : String) (limit : ℤ) (includeAllActive : Bool) (photos : List PhotoRow) : List Batch :=
  let groups := Partition.groups (groupKey groupBy) PhotoRow.id (batchRows limit includeAllActive photos)
  (groups.foldl nameGroup (groups.map Prod.fst, [])).2

/-! ### Every photo is in one batch, and every batch has a name of its own -/

/-- What is named so far: names in use, batches of at most 500 photos that stand together in their group. -/
structure NamedSoFar (contents : String → List String) (keys later : List String) (photoIds : List String) (named : Named) : Prop where
  distinct : (named.2.map Batch.group).Nodup
  inUse : ∀ batch ∈ named.2, batch.group ∈ named.1
  keys : ∀ key ∈ keys, key ∈ named.1
  apart : ∀ batch ∈ named.2, batch.group ∉ later
  sized : ∀ batch ∈ named.2, 0 < batch.photoIds.length ∧ batch.photoIds.length ≤ 500
  together : ∀ batch ∈ named.2, ∃ key, batch.photoIds <:+: contents key
  photos : named.2.flatMap Batch.photoIds = photoIds

section

variable {contents : String → List String} {keys later photoIds : List String} {named : Named} {key : String}

/-- A batch under a name that no other batch has. -/
lemma NamedSoFar.add (h : NamedSoFar contents keys later photoIds named) {name : String} {reserved members : List String}
    (hname : ∀ batch ∈ named.2, batch.group ≠ name) (hreserved : ∀ other ∈ named.1, other ∈ reserved) (hin : name ∈ reserved)
    (hlater : name ∉ later) (hsized : 0 < members.length ∧ members.length ≤ 500) (htogether : members <:+: contents key) :
    NamedSoFar contents keys later (photoIds ++ members) (reserved, named.2 ++ [⟨name, members⟩]) where
  distinct := by
    rw [List.map_append, List.nodup_append]
    refine ⟨h.distinct, List.nodup_singleton _, ?_⟩
    intro group hgroup other hother heq
    obtain ⟨batch, hbatch, hbatchGroup⟩ := List.mem_map.mp hgroup
    rw [List.map_singleton, List.mem_singleton] at hother
    exact hname batch hbatch (hbatchGroup.trans (heq.trans hother))
  inUse := by
    intro batch hbatch
    obtain hold | hnew := List.mem_append.mp hbatch
    · exact hreserved _ (h.inUse batch hold)
    · rw [List.mem_singleton.mp hnew]
      exact hin
  keys := fun other hother => hreserved _ (h.keys other hother)
  apart := by
    intro batch hbatch
    obtain hold | hnew := List.mem_append.mp hbatch
    · exact h.apart batch hold
    · rw [List.mem_singleton.mp hnew]
      exact hlater
  sized := by
    intro batch hbatch
    obtain hold | hnew := List.mem_append.mp hbatch
    · exact h.sized batch hold
    · rw [List.mem_singleton.mp hnew]
      exact hsized
  together := by
    intro batch hbatch
    obtain hold | hnew := List.mem_append.mp hbatch
    · exact h.together batch hold
    · rw [List.mem_singleton.mp hnew]
      exact ⟨key, htogether⟩
  photos := by
    rw [List.flatMap_append, h.photos]
    exact congrArg (photoIds ++ ·) (List.append_nil members)

lemma length_longer (name : String) : name.length < (longer name).length := by
  unfold longer
  rw [String.length_append]
  have hsuffix : " · 分段".length = 5 := by decide
  omega

lemma NamedSoFar.piece (h : NamedSoFar contents keys later photoIds named) (hlater : ∀ other ∈ later, other ∈ keys)
    (piece : List String × ℕ) (hsized : 0 < piece.1.length ∧ piece.1.length ≤ 500) (htogether : piece.1 <:+: contents key) :
    NamedSoFar contents keys later (photoIds ++ piece.1) (namePiece key named piece) := by
  have hfree := Partition.free_notMem named.1 length_longer (key ++ " · 批次 " ++ toString (piece.2 + 1))
  apply h.add _ (fun other hother => List.mem_cons_of_mem _ hother) (List.mem_cons_self ..) _ hsized htogether
  · intro batch hbatch heq
    exact hfree (heq ▸ h.inUse batch hbatch)
  · exact fun hmem => hfree (h.keys _ (hlater _ hmem))

lemma NamedSoFar.pieces (h : NamedSoFar contents keys later photoIds named) (hlater : ∀ other ∈ later, other ∈ keys)
    {pieces : List (List String)}
    (start : ℕ) (hsized : ∀ piece ∈ pieces, 0 < piece.length ∧ piece.length ≤ 500)
    (htogether : ∀ piece ∈ pieces, piece <:+: contents key) :
    NamedSoFar contents keys later (photoIds ++ pieces.flatten) ((pieces.zipIdx start).foldl (namePiece key) named) := by
  induction pieces generalizing start photoIds named with
  | nil =>
    rw [List.flatten_nil, List.append_nil]
    exact h
  | cons piece rest ih =>
    rw [List.zipIdx_cons, List.foldl_cons, List.flatten_cons, ← List.append_assoc]
    have hpiece := h.piece hlater (piece, start) (hsized piece (List.mem_cons_self ..)) (htogether piece (List.mem_cons_self ..))
    exact ih hpiece (start + 1) (fun other hother => hsized other (List.mem_cons_of_mem _ hother))
      (fun other hother => htogether other (List.mem_cons_of_mem _ hother))

lemma infix_of_mem_flatten {α : Type} {piece : List α} {pieces : List (List α)} (h : piece ∈ pieces) : piece <:+: pieces.flatten := by
  obtain ⟨before, after, hsplit⟩ := List.append_of_mem h
  rw [hsplit, List.flatten_append, List.flatten_cons, ← List.append_assoc]
  exact List.infix_append ..

lemma NamedSoFar.group {group : String × List String} (h : NamedSoFar contents keys (group.1 :: later) photoIds named)
    (hkeys : ∀ other ∈ group.1 :: later, other ∈ keys) (hnew : group.1 ∉ later) (hne : group.2 ≠ [])
    (hcontents : group.2 = contents group.1) :
    NamedSoFar contents keys later (photoIds ++ group.2) (nameGroup named group) := by
  have hdrop : NamedSoFar contents keys later photoIds named :=
    { h with apart := fun batch hbatch hmem => h.apart batch hbatch (List.mem_cons_of_mem _ hmem) }
  have hpositive := List.length_pos_iff.mpr hne
  unfold nameGroup
  split
  · next hshort =>
    have htogether : group.2 <:+: contents group.1 := by
      rw [hcontents]
    apply hdrop.add _ (fun other hother => hother) (h.keys _ (hkeys _ (List.mem_cons_self ..))) hnew ⟨hpositive, hshort⟩ htogether
    intro batch hbatch heq
    exact h.apart batch hbatch (heq ▸ List.mem_cons_self ..)
  · have htogether : ∀ piece ∈ Partition.pieces 500 group.2, piece <:+: contents group.1 := by
      intro piece hpiece
      have hinfix := infix_of_mem_flatten hpiece
      rwa [Partition.flatten_pieces 500 group.2 (by decide), hcontents] at hinfix
    have hpieces := hdrop.pieces (fun other hother => hkeys other (List.mem_cons_of_mem _ hother)) 0
      (fun piece hpiece => Partition.length_of_mem_pieces 500 _ hpiece) htogether
    rwa [Partition.flatten_pieces 500 group.2 (by decide)] at hpieces

lemma NamedSoFar.groups {groups : List (String × List String)} (h : NamedSoFar contents keys (groups.map Prod.fst) photoIds named)
    (hkeys : ∀ group ∈ groups, group.1 ∈ keys) (hdistinct : (groups.map Prod.fst).Nodup) (hne : ∀ group ∈ groups, group.2 ≠ [])
    (hcontents : ∀ group ∈ groups, group.2 = contents group.1) :
    NamedSoFar contents keys [] (photoIds ++ groups.flatMap Prod.snd) (groups.foldl nameGroup named) := by
  induction groups generalizing photoIds named with
  | nil =>
    rw [List.flatMap_nil, List.append_nil]
    exact h
  | cons group rest ih =>
    rw [List.map_cons, List.nodup_cons] at hdistinct
    rw [List.foldl_cons, List.flatMap_cons, ← List.append_assoc]
    refine ih (h.group ?_ hdistinct.1 (hne group (List.mem_cons_self ..)) (hcontents group (List.mem_cons_self ..)))
      (fun other hother => hkeys other (List.mem_cons_of_mem _ hother)) hdistinct.2
      (fun other hother => hne other (List.mem_cons_of_mem _ hother)) (fun other hother => hcontents other (List.mem_cons_of_mem _ hother))
    intro other hother
    obtain hfirst | hrest := List.mem_cons.mp hother
    · exact hfirst ▸ hkeys group (List.mem_cons_self ..)
    · obtain ⟨found, hfound, hgroup⟩ := List.mem_map.mp hrest
      exact hgroup ▸ hkeys found (List.mem_cons_of_mem _ hfound)

end

section

variable (groupBy : String) (limit : ℤ) (includeAllActive : Bool) (photos : List PhotoRow)

/-- The photos of one group, in the query's order. -/
def groupPhotos (key : String) : List String :=
  ((batchRows limit includeAllActive photos).filter fun row => groupKey groupBy row = key).map PhotoRow.id

lemma batches_named : NamedSoFar (groupPhotos groupBy limit includeAllActive photos)
    ((Partition.groups (groupKey groupBy) PhotoRow.id (batchRows limit includeAllActive photos)).map Prod.fst) []
    ((Partition.groups (groupKey groupBy) PhotoRow.id (batchRows limit includeAllActive photos)).flatMap Prod.snd)
    ((Partition.groups (groupKey groupBy) PhotoRow.id (batchRows limit includeAllActive photos)).foldl nameGroup
      ((Partition.groups (groupKey groupBy) PhotoRow.id (batchRows limit includeAllActive photos)).map Prod.fst, [])) := by
  have hgrouped := Partition.grouped (groupKey groupBy) PhotoRow.id (batchRows limit includeAllActive photos)
  have hstart : NamedSoFar (groupPhotos groupBy limit includeAllActive photos)
      ((Partition.groups (groupKey groupBy) PhotoRow.id (batchRows limit includeAllActive photos)).map Prod.fst)
      ((Partition.groups (groupKey groupBy) PhotoRow.id (batchRows limit includeAllActive photos)).map Prod.fst) []
      ((Partition.groups (groupKey groupBy) PhotoRow.id (batchRows limit includeAllActive photos)).map Prod.fst, []) :=
    ⟨List.nodup_nil, by simp, fun key hkey => hkey, by simp, by simp, by simp, rfl⟩
  exact hstart.groups (fun group hgroup => List.mem_map_of_mem hgroup) hgrouped.distinct (fun group hgroup => hgrouped.nonempty hgroup)
    hgrouped.members

lemma batches_perm : ((eligiblePhotoBatches groupBy limit includeAllActive photos).flatMap Batch.photoIds).Perm
    ((batchRows limit includeAllActive photos).map PhotoRow.id) := by
  have hgrouped := Partition.grouped (groupKey groupBy) PhotoRow.id (batchRows limit includeAllActive photos)
  have hphotos : (eligiblePhotoBatches groupBy limit includeAllActive photos).flatMap Batch.photoIds = _ :=
    (batches_named groupBy limit includeAllActive photos).photos
  rw [hphotos]
  exact hgrouped.perm

lemma batches_distinct : ((eligiblePhotoBatches groupBy limit includeAllActive photos).map Batch.group).Nodup :=
  (batches_named groupBy limit includeAllActive photos).distinct

/-- The batches hold every photo of the query once, at most 500 together, in the query's order within one
group, and no two of them have the same name. -/
theorem eligiblePhotoBatches_partition :
    ((eligiblePhotoBatches groupBy limit includeAllActive photos).map Batch.group).Nodup ∧
    ((eligiblePhotoBatches groupBy limit includeAllActive photos).flatMap Batch.photoIds).Perm
      ((batchRows limit includeAllActive photos).map PhotoRow.id) ∧
    ∀ batch ∈ eligiblePhotoBatches groupBy limit includeAllActive photos, (0 < batch.photoIds.length ∧ batch.photoIds.length ≤ 500) ∧
      ∃ key, batch.photoIds <:+: groupPhotos groupBy limit includeAllActive photos key := by
  have hnamed := batches_named groupBy limit includeAllActive photos
  exact ⟨hnamed.distinct, batches_perm groupBy limit includeAllActive photos,
    fun batch hbatch => ⟨hnamed.sized batch hbatch, hnamed.together batch hbatch⟩⟩

/-- The number of photos that a run which is not confirmed yet is asked to confirm. -/
def queuedNow (dailyLimit : ℤ) (photos : List PhotoRow) : ℕ :=
  if dailyLimit > 0 then min (countActiveEligible photos) dailyLimit.toNat else countActiveEligible photos

lemma batchable_eq (row : PhotoRow) : row.batchable false = row.activeEligible := by
  unfold PhotoRow.batchable PhotoRow.activeEligible
  rw [Bool.false_or]
  cases row.active
  · rfl
  cases row.neverUpload
  · rw [Bool.not_false, Bool.and_true, Bool.true_and, Bool.true_and, Bool.and_true]
  · rw [Bool.not_true, Bool.and_false, Bool.and_false, Bool.false_and, Bool.false_and]

lemma length_batchRows : (batchRows limit false photos).length = min (remaining limit) (countActiveEligible photos) := by
  unfold batchRows countActiveEligible
  have hcondition : PhotoRow.batchable false = PhotoRow.activeEligible := funext batchable_eq
  rw [List.length_take, Keyset.orderBy_perm.length_eq, List.countP_eq_length_filter, hcondition]

/-- A full-library run takes up as many photos as it asked to confirm only under a daily limit: without one it
takes up a single photo. -/
theorem preview_matches_iff : ((eligiblePhotoBatches groupBy limit false photos).flatMap Batch.photoIds).length = queuedNow limit photos ↔
    if limit > 0 then limit ≤ 100000 ∨ countActiveEligible photos ≤ 100000 else countActiveEligible photos ≤ 1 := by
  rw [(batches_perm groupBy limit false photos).length_eq, List.length_map, length_batchRows]
  unfold queuedNow remaining
  split
  · omega
  · omega

end

end InkTime.Requests
