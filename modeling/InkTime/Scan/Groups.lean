import InkTime.Scan.Writing

/-!
# Duplicate groups follow the perceptual hash

When the photos with one perceptual hash share a group after a batch of new photos.
-/

namespace InkTime.Scan

open Repeats

/-- Distinct active or missing photos with one perceptual hash have one group. -/
def GroupsFollow (db : Store) (libraryId : String) : Prop :=
  ∀ hash, ∀ photo ∈ byPhash db libraryId hash, ∀ other ∈ byPhash db libraryId hash, photo.id ≠ other.id →
    photo.duplicateGroupId = other.duplicateGroupId ∧ photo.duplicateGroupId ≠ none

/-- What a perceptual hash that a batch carries asks: where no photo has it, items of one content and then of at most one other; else a
group of each photo with it, or one photo without a group and items of one content. -/
def Kept (db : Store) (libraryId : String) (items : List PreparedScanPhoto) (hash : String) : Prop :=
  let contents := (items.filter fun item => item.features.perceptualHash = some hash).map fun item => item.features.sha256
  if byPhash db libraryId hash = [] then TwoRuns contents
  else (∀ photo ∈ byPhash db libraryId hash, given photo.duplicateGroupId ≠ none) ∨
    (byPhash db libraryId hash).length = 1 ∧ Alike contents

/-- Photos, by their ids, and their groups: any two of them have one group. -/
def Follow (groups : List (String × Option String)) : Prop :=
  ∀ entry ∈ groups, ∀ other ∈ groups, entry.1 ≠ other.1 → entry.2 = other.2 ∧ entry.2 ≠ none

/-- The photos with a perceptual hash once a batch is planned, and their groups. -/
def entries (reading : Reading) (final : Batch) (hash : String) : List (String × Option String) :=
  (reading.byPhash hash).map (fun photo => (photo.id, (final.groupUpdates photo.id).or photo.duplicateGroupId)) ++
    (members hash final).map fun pending => (pending.source.id, final.planGroup pending.source.id)

section

variable {groups : List (String × Option String)} {group : String} {db later : Store} {libraryId hash : String}

lemma follow_of_all (hall : ∀ entry ∈ groups, entry.2 = some group) : Follow groups := by
  intro entry hentry other hother _
  rw [hall entry hentry, hall other hother]
  exact ⟨rfl, Option.some_ne_none group⟩

lemma groupsFollow_iff : GroupsFollow db libraryId ↔ ∀ hash, Follow (groupsOf db libraryId hash) := by
  unfold GroupsFollow Follow groupsOf
  simp only [List.mem_map, forall_exists_index, and_imp, forall_apply_eq_imp_iff₂]

end

/-! ### One perceptual hash -/

section

variable {reading : Reading} {items : List PreparedScanPhoto} {hashOf : String → Option String} {hash : String}
variable (huuids : Uuids reading) (hnew : ∀ item ∈ items, reading.New item)
variable (hhashes : ∀ item ∈ items, item.features.perceptualHash = hashOf item.features.sha256)

lemma regrouped_planBatch (reading : Reading) (items : List PreparedScanPhoto) :
    Regrouped (items.foldl (itemStep reading) {}) (planBatch reading items) :=
  regrouped_backfill reading _ _

lemma members_planBatch (reading : Reading) (items : List PreparedScanPhoto) :
    members hash (planBatch reading items) = members hash (items.foldl (itemStep reading) {}) := by
  unfold members
  rw [(regrouped_planBatch reading items).pending]

/-- The copies of the first item of a content have its group. -/
lemma Tidy.planGroup_final {first pending : Pending} {group : String} (htidy : Tidy reading items (items.foldl (itemStep reading) {}))
    (hin : first ∈ (items.foldl (itemStep reading) {}).pending) (hfirst : IsFirst (items.foldl (itemStep reading) {}) first)
    (hgroup : (items.foldl (itemStep reading) {}).planGroup first.source.id = some group) (hne : group ≠ "")
    (hpending : pending ∈ (items.foldl (itemStep reading) {}).pending) (hsha : pending.sha256 = first.sha256) :
    (planBatch reading items).planGroup pending.source.id = some group := by
  apply planGroup_backfill _ (fun other hother => htidy.hasPlan hother) (htidy.map_ids ▸ htidy.nodup) hin hfirst hgroup hne hpending hsha
  exact .inl (List.mem_eraseDups.mpr (List.mem_map_of_mem hin))

/-- Where each item with the hash has the group, it has it at the end. -/
lemma Tidy.members_final {group : String} (htidy : Tidy reading items (items.foldl (itemStep reading) {}))
    (hhashed : Hashed hashOf (items.foldl (itemStep reading) {})) (hne : group ≠ "")
    (hall : ∀ pending ∈ members hash (items.foldl (itemStep reading) {}),
      (items.foldl (itemStep reading) {}).planGroup pending.source.id = some group) {pending : Pending}
    (hpending : pending ∈ members hash (items.foldl (itemStep reading) {})) :
    (planBatch reading items).planGroup pending.source.id = some group := by
  obtain ⟨hin, hhash⟩ := mem_members.mp hpending
  cases hfind : (items.foldl (itemStep reading) {}).pending.find? (·.sha256 = pending.sha256) with
  | none => exact absurd (decide_eq_true rfl) (List.find?_eq_none.mp hfind pending hin)
  | some first =>
    have hsha : first.sha256 = pending.sha256 :=
      of_decide_eq_true (List.find?_some (p := fun other : Pending => decide (other.sha256 = pending.sha256)) hfind)
    have hmem := List.mem_of_find?_eq_some hfind
    have hfirst : IsFirst (items.foldl (itemStep reading) {}) first := by
      unfold IsFirst
      rw [hsha, hfind]
    have hphash : first.perceptualHash = some hash := by rw [hhashed first hmem, hsha, ← hhashed pending hin, hhash]
    exact htidy.planGroup_final hmem hfirst (hall first (mem_members.mpr ⟨hmem, hphash⟩)) hne hin hsha.symm

lemma mem_entries_of_members {pending : Pending} (hpending : pending ∈ members hash (items.foldl (itemStep reading) {})) :
    (pending.source.id, (planBatch reading items).planGroup pending.source.id) ∈ entries reading (planBatch reading items) hash := by
  unfold entries
  rw [members_planBatch]
  exact List.mem_append_right _ (List.mem_map_of_mem hpending)

/-- A split is seen at the end. -/
lemma Split.not_follow {first second : Pending} {group other : String} (htidy : Tidy reading items (items.foldl (itemStep reading) {}))
    (hsplit : Split hash (items.foldl (itemStep reading) {}) first second group other) :
    ¬Follow (entries reading (planBatch reading items) hash) := by
  intro hfollow
  have hfirst := (mem_members.mp hsplit.first_mem).1
  have hsecond := (mem_members.mp hsplit.second_mem).1
  have hgroup := htidy.planGroup_final hfirst hsplit.isFirst hsplit.first_group hsplit.nonempty.1 hfirst rfl
  have hgroup' := htidy.planGroup_final hsecond hsplit.isFirst' hsplit.second_group hsplit.nonempty.2 hsecond rfl
  have hids : first.source.id ≠ second.source.id := by
    intro heq
    rw [heq, hgroup'] at hgroup
    exact hsplit.groups (Option.some.inj hgroup).symm
  have hsame := (hfollow _ (mem_entries_of_members hsplit.first_mem) _ (mem_entries_of_members hsplit.second_mem) hids).1
  dsimp only at hsame
  rw [hgroup, hgroup'] at hsame
  exact hsplit.groups (Option.some.inj hsame)

lemma Split.contents_ne_nil {batch : Batch} {first second : Pending} {group other : String}
    (hsplit : Split hash batch first second group other) : InkTime.Scan.contents hash batch ≠ [] :=
  List.ne_nil_of_mem (List.mem_map_of_mem hsplit.first_mem)

include huuids hnew hhashes

lemma follow_joined {group : String} (hne : group ≠ "") (hstored : reading.byPhash hash ≠ [])
    (hgroups : ∀ photo ∈ reading.byPhash hash, photo.duplicateGroupId = some group) :
    Follow (entries reading (planBatch reading items) hash) := by
  have hstart : Joined reading hash group {} := ⟨fun pending hpending => absurd hpending List.not_mem_nil, fun photo _ => rfl⟩
  obtain ⟨htidy, hjoined⟩ := run_items huuids hnew hhashes _ hstart fun done batch item h hitem hfits hbefore =>
    hbefore.step huuids h hitem hfits hne hstored hgroups
  have hhashed := htidy.hashed hhashes
  apply follow_of_all
  intro entry hentry
  obtain hold | hadded := List.mem_append.mp hentry
  · obtain ⟨photo, hphoto, rfl⟩ := List.mem_map.mp hold
    dsimp only
    rw [(regrouped_planBatch reading items).groupUpdates, hjoined.updates photo hphoto, hgroups photo hphoto]
    rfl
  · obtain ⟨pending, hpending, rfl⟩ := List.mem_map.mp hadded
    rw [members_planBatch] at hpending
    exact htidy.members_final hhashed hne (fun other hother => (hjoined.groups other hother).2) hpending

lemma follow_unstored (hstored : reading.byPhash hash = []) :
    Follow (entries reading (planBatch reading items) hash) ↔ TwoRuns (contents hash (items.foldl (itemStep reading) {})) := by
  obtain ⟨htidy, hunstored⟩ := run_items huuids hnew hhashes (Unstored hash) (.empty rfl) fun done batch item h hitem hfits hbefore =>
    Unstored.step huuids h hitem hfits hstored hbefore
  have hhashed := htidy.hashed hhashes
  have hentries : entries reading (planBatch reading items) hash = (members hash (items.foldl (itemStep reading) {})).map
      fun pending => (pending.source.id, (planBatch reading items).planGroup pending.source.id) := by
    unfold entries
    rw [hstored, members_planBatch]
    rfl
  rw [hentries]
  cases hunstored with
  | empty hmembers =>
    unfold contents
    rw [hmembers]
    exact iff_of_true (fun entry hentry => absurd hentry List.not_mem_nil) alike_nil.twoRuns
  | one first hhead hopen hcontents hgroup =>
    refine iff_of_true ?_ (alike_of_all hcontents).twoRuns
    obtain hsingle | ⟨group, hne, hgroup⟩ := hgroup
    · rw [hsingle]
      intro entry hentry other hother hids
      rw [List.mem_singleton.mp hentry, List.mem_singleton.mp hother] at hids
      exact absurd rfl hids
    · apply follow_of_all
      intro entry hentry
      obtain ⟨pending, hpending, rfl⟩ := List.mem_map.mp hentry
      have hfirst := head_mem hhead
      exact htidy.planGroup_final (mem_members.mp hfirst).1 (hhashed.isFirst hfirst (find?_head hhead)) hgroup hne
        (mem_members.mp hpending).1 (hcontents _ (List.mem_map_of_mem hpending))
  | two first second group hne hhead hopen hsecond hheld hgroup hgroup' front back hruns hfront hback hpair hcontents =>
    refine iff_of_true ?_ ⟨front, back, hruns, alike_of_all hfront, alike_of_all hback⟩
    apply follow_of_all
    intro entry hentry
    obtain ⟨pending, hpending, rfl⟩ := List.mem_map.mp hentry
    have hin := (mem_members.mp hpending).1
    have hmem : pending.sha256 ∈ front ++ back := hruns ▸ List.mem_map_of_mem hpending
    obtain hleft | hright := List.mem_append.mp hmem
    · have hfirst := head_mem hhead
      exact htidy.planGroup_final (mem_members.mp hfirst).1 (hhashed.isFirst hfirst (find?_head hhead)) hgroup hne hin
        (hfront _ hleft)
    · have hother := List.mem_of_find?_eq_some hsecond
      exact htidy.planGroup_final (mem_members.mp hother).1 (hhashed.isFirst hother hsecond) hgroup' hne hin (hback _ hright)
  | split first second group other hsplit hruns =>
    rw [← hentries]
    exact iff_of_false (hsplit.not_follow htidy) hruns

lemma follow_alone {photo : Photo} {rest : List Photo} (hstored : reading.byPhash hash = photo :: rest)
    (hopen : given photo.duplicateGroupId = none)
    (hbefore : Follow ((reading.byPhash hash).map fun photo => (photo.id, photo.duplicateGroupId))) :
    Follow (entries reading (planBatch reading items) hash) ↔ contents hash (items.foldl (itemStep reading) {}) = [] ∨
      rest = [] ∧ Alike (contents hash (items.foldl (itemStep reading) {})) := by
  obtain ⟨htidy, halone, hrest⟩ := run_items huuids hnew hhashes
    (fun batch => Alone hash photo batch ∧ ∀ other ∈ rest, batch.groupUpdates other.id = none) ⟨.empty rfl rfl, fun other _ => rfl⟩
    fun done batch item h hitem hfits hboth => ⟨hboth.1.step huuids h hitem hfits hstored hopen, fun other hother =>
      (groupUpdates_rest huuids h hitem hfits hstored hother).trans (hboth.2 other hother)⟩
  have hhashed := htidy.hashed hhashes
  have hupdates := (regrouped_planBatch reading items).groupUpdates
  cases halone with
  | empty hmembers hupdate =>
    have hentries : entries reading (planBatch reading items) hash =
        (reading.byPhash hash).map fun photo => (photo.id, photo.duplicateGroupId) := by
      unfold entries
      rw [members_planBatch, hmembers, List.map_nil, List.append_nil]
      apply List.map_congr_left
      intro other hother
      rw [hstored] at hother
      have hnone : (planBatch reading items).groupUpdates other.id = none := by
        rw [hupdates]
        obtain rfl | htail := List.mem_cons.mp hother
        · exact hupdate
        · exact hrest other htail
      rw [hnone]
      rfl
    have hnil : contents hash (items.foldl (itemStep reading) {}) = [] := by
      unfold contents
      rw [hmembers]
      rfl
    rw [hentries]
    exact iff_of_true hbefore (.inl hnil)
  | one content group hne hsome hcontents hupdate =>
    have hfirst : (photo.id, some group) ∈ entries reading (planBatch reading items) hash := by
      apply List.mem_append_left
      rw [hstored, List.map_cons, hupdates, hupdate]
      exact List.mem_cons_self ..
    have hnil : contents hash (items.foldl (itemStep reading) {}) ≠ [] := by
      unfold contents
      exact fun hmap => hsome (List.map_eq_nil_iff.mp hmap)
    have halike : Alike (contents hash (items.foldl (itemStep reading) {})) := by
      apply alike_of_all
      intro other hother
      obtain ⟨pending, hpending, rfl⟩ := List.mem_map.mp hother
      exact (hcontents pending hpending).1
    constructor
    · intro hfollow
      refine .inr ⟨?_, halike⟩
      apply List.eq_nil_iff_forall_not_mem.mpr
      intro other hother
      have hids : photo.id ≠ other.id := by
        have hnodup := huuids.distinct hash
        rw [hstored, List.map_cons, List.nodup_cons] at hnodup
        exact fun heq => hnodup.1 (List.mem_map.mpr ⟨other, hother, heq.symm⟩)
      have hsecond : (other.id, other.duplicateGroupId) ∈ entries reading (planBatch reading items) hash := by
        apply List.mem_append_left
        refine List.mem_map.mpr ⟨other, hstored ▸ List.mem_cons_of_mem _ hother, ?_⟩
        rw [hupdates, hrest other hother]
        rfl
      have hafter := (hfollow _ hfirst _ hsecond hids).1
      have hsame := (hbefore (photo.id, photo.duplicateGroupId) (by rw [hstored]; exact List.mem_cons_self ..)
        (other.id, other.duplicateGroupId) (List.mem_map.mpr ⟨other, hstored ▸ List.mem_cons_of_mem _ hother, rfl⟩) hids).1
      have hgiven : given photo.duplicateGroupId = some group := given_eq_some.mpr ⟨hsame.trans hafter.symm, hne⟩
      rw [hgiven] at hopen
      cases hopen
    · rintro (hempty | ⟨rfl, -⟩)
      · exact absurd hempty hnil
      · apply follow_of_all
        intro entry hentry
        obtain hold | hadded := List.mem_append.mp hentry
        · rw [hstored, List.map_singleton, List.mem_singleton] at hold
          rw [hold, hupdates, hupdate]
          rfl
        · obtain ⟨pending, hpending, rfl⟩ := List.mem_map.mp hadded
          rw [members_planBatch] at hpending
          exact htidy.members_final hhashed hne (fun other hother => (hcontents other hother).2.2) hpending
  | split first second group other hsplit =>
    apply iff_of_false (hsplit.not_follow htidy)
    rintro (hempty | ⟨-, halike⟩)
    · exact hsplit.contents_ne_nil hempty
    · exact not_alike_of_split hsplit halike

end

/-! ### The batch -/

section

variable {isFile : String → Bool} {uuid : ℕ → String} {libraryId : String} {items : List PreparedScanPhoto} {db later : Store}
variable {batch final : Batch} {reading : Reading} {hash : String}

lemma Tidy.mono_final (htidy : Tidy reading items batch) (hkept : Regrouped batch final) :
    (final.plans.map Plan.id).Nodup ∧ (∀ plan ∈ final.plans, plan.existing = none) ∧
      final.pending.map (fun pending => (pending.source.id, pending.sha256, pending.perceptualHash)) =
        final.plans.map fun plan => (plan.id, plan.item.features.sha256, plan.item.features.perceptualHash) := by
  refine ⟨hkept.map_id ▸ htidy.nodup, ?_, ?_⟩
  · intro plan hplan
    have hmem : plan.existing ∈ batch.plans.map Plan.existing := hkept.map_existing ▸ List.mem_map_of_mem hplan
    obtain ⟨earlier, hearlier, heq⟩ := List.mem_map.mp hmem
    rw [← heq, htidy.existing earlier hearlier]
  · have hentries := congrArg
      (List.map fun entry => (entry.1, entry.2.1.features.sha256, entry.2.1.features.perceptualHash)) hkept.plans
    rw [List.map_map, List.map_map] at hentries
    rw [hkept.pending, htidy.pending]
    exact hentries.symm

/-- The groups of a perceptual hash after the batch: those of the stored photos, then those of the items. -/
lemma groupsOf_later (hrows : later.rows = db.rows.map (regroup final) ++ final.plans.map (Plan.photo libraryId))
    (hnodup : (final.plans.map Plan.id).Nodup)
    (hpending : final.pending.map (fun pending => (pending.source.id, pending.sha256, pending.perceptualHash)) =
      final.plans.map fun plan => (plan.id, plan.item.features.sha256, plan.item.features.perceptualHash))
    (hreading : reading.byPhash = byPhash db libraryId) : groupsOf later libraryId hash = entries reading final hash := by
  have hadded : (members hash final).map (fun pending => (pending.source.id, final.planGroup pending.source.id)) =
      (final.plans.filter fun plan => plan.item.features.perceptualHash = some hash).map
        fun plan => (plan.id, final.planGroup plan.id) := by
    have hmap := congrArg (fun entries : List (String × String × Option String) =>
      (entries.filter fun entry => entry.2.2 = some hash).map fun entry => (entry.1, final.planGroup entry.1)) hpending
    rw [List.filter_map, List.filter_map, List.map_map, List.map_map] at hmap
    exact hmap
  have hinserted : (final.plans.map (Plan.photo libraryId)).filter
        (fun photo => photo.libraryId = libraryId && photo.perceptualHash = some hash && photo.present) =
      (final.plans.filter fun plan => plan.item.features.perceptualHash = some hash).map (Plan.photo libraryId) := by
    rw [List.filter_map]
    congr 1
    apply List.filter_congr
    intro plan _
    apply Bool.eq_iff_iff.mpr
    simp only [Plan.photo, Photo.present, Function.comp_apply, decide_true, Bool.true_and, Bool.and_true, Bool.true_or]
    exact decide_eq_true_iff.trans decide_eq_true_iff.symm
  unfold groupsOf entries byPhash
  rw [hreading, hrows, List.filter_append, List.map_append, hinserted, List.filter_map, List.map_map, List.map_map, hadded,
    ← map_planGroup hnodup]
  rfl

/-- The perceptual hash that the batch gives a content. -/
def batchHash (items : List PreparedScanPhoto) (content : String) : Option String :=
  (items.find? fun item => item.features.sha256 = content).bind fun item => item.features.perceptualHash

lemma batchHash_eq (hcopies : ∀ item ∈ items, ∀ other ∈ items, item.features.sha256 = other.features.sha256 →
    item.features.perceptualHash = other.features.perceptualHash) {item : PreparedScanPhoto} (hitem : item ∈ items) :
    item.features.perceptualHash = batchHash items item.features.sha256 := by
  unfold batchHash
  cases hfind : items.find? (fun other => other.features.sha256 = item.features.sha256) with
  | none => exact absurd (decide_eq_true rfl) (List.find?_eq_none.mp hfind item hitem)
  | some other =>
    have hsha : other.features.sha256 = item.features.sha256 := of_decide_eq_true
      (List.find?_some (p := fun other : PreparedScanPhoto => decide (other.features.sha256 = item.features.sha256)) hfind)
    exact hcopies item hitem other (List.mem_of_find?_eq_some hfind) hsha.symm

lemma new_of_library (hpaths : ∀ item ∈ items, ∀ photo ∈ db.rows, photo.libraryId = libraryId →
      photo.relativePath ≠ item.relativePath)
    (hcontents : ∀ item ∈ items, byHash db libraryId item.features.sha256 = []) :
    ∀ item ∈ items, (readingOf isFile uuid libraryId items db).New item := by
  intro item hitem
  refine ⟨?_, hcontents item hitem⟩
  apply List.find?_eq_none.mpr
  intro photo hphoto hboth
  simp only [Bool.and_eq_true, decide_eq_true_eq] at hboth
  exact hpaths item hitem photo hphoto hboth.1 hboth.2

/-- A batch of new photos writes what its plans say. -/
lemma applyScanBatch_inserts (htidy : Tidy (readingOf isFile uuid libraryId items db) items
      (items.foldl (itemStep (readingOf isFile uuid libraryId items db)) {})) (hsome : items ≠ []) :
    applyScanBatch isFile uuid libraryId items db =
      ((planBatch (readingOf isFile uuid libraryId items db) items).plans.foldlM (insertPhoto libraryId)
        (updateGroups (planBatch (readingOf isFile uuid libraryId items db) items) db)).map
        fun later => (later, (planBatch (readingOf isFile uuid libraryId items db) items).results) := by
  have hkept := regrouped_planBatch (readingOf isFile uuid libraryId items db) items
  obtain ⟨-, hexisting, -⟩ := htidy.mono_final hkept
  unfold applyScanBatch
  rw [if_neg hsome]
  apply congrArg (Option.map _)
  exact writeBatch_inserts (hkept.moves.trans htidy.moves) (hkept.changed.trans htidy.changed) (hkept.old.trans htidy.old) hexisting

/-- It breaks no constraint where its paths are distinct. -/
lemma applyScanBatch_isSome (hfresh : Fresh uuid db) (hpaths : ∀ item ∈ items, ∀ photo ∈ db.rows, photo.libraryId = libraryId →
      photo.relativePath ≠ item.relativePath) (hdistinct : (items.map PreparedScanPhoto.relativePath).Nodup)
    (htidy : Tidy (readingOf isFile uuid libraryId items db) items
      (items.foldl (itemStep (readingOf isFile uuid libraryId items db)) {})) :
    (applyScanBatch isFile uuid libraryId items db).isSome = true := by
  by_cases hsome : items = []
  · unfold applyScanBatch
    rw [if_pos hsome]
    rfl
  have hkept := regrouped_planBatch (readingOf isFile uuid libraryId items db) items
  have hitems := hkept.map_item.trans htidy.items
  rw [applyScanBatch_inserts htidy hsome, Option.isSome_map]
  apply insertPhotos_some (htidy.mono_final hkept).1
  · rw [← hitems, List.map_map] at hdistinct
    exact hdistinct
  · intro plan hplan photo hphoto
    rw [rows_updateGroups] at hphoto
    obtain ⟨stored, hstored, rfl⟩ := List.mem_map.mp hphoto
    constructor
    · have hmem : plan.id ∈ (items.foldl (itemStep (readingOf isFile uuid libraryId items db)) {}).plans.map Plan.id :=
        hkept.map_id ▸ List.mem_map_of_mem hplan
      obtain ⟨n, -, hid⟩ := htidy.drawn _ hmem
      exact fun heq => hfresh.newId n stored hstored (heq.trans hid)
    · have hmem : plan.item ∈ items := hitems ▸ List.mem_map_of_mem hplan
      exact hpaths plan.item hmem stored hstored

/-- One perceptual hash, of a batch that carries it or not. -/
lemma follow_iff (hfresh : Fresh uuid db) (hbefore : GroupsFollow db libraryId)
    (hnew : ∀ item ∈ items, (readingOf isFile uuid libraryId items db).New item) {hashOf : String → Option String}
    (hhashes : ∀ item ∈ items, item.features.perceptualHash = hashOf item.features.sha256) (hash : String) :
    Follow (entries (readingOf isFile uuid libraryId items db) (planBatch (readingOf isFile uuid libraryId items db) items) hash) ↔
      contents hash (items.foldl (itemStep (readingOf isFile uuid libraryId items db)) {}) = [] ∨ Kept db libraryId items hash := by
  have huuids : Uuids (readingOf isFile uuid libraryId items db) := uuids_of_fresh hfresh
  obtain ⟨htidy, -⟩ := run_items huuids hnew hhashes (fun _ => True) trivial fun _ _ _ _ _ _ _ => trivial
  have hstored : (readingOf isFile uuid libraryId items db).byPhash hash = byPhash db libraryId hash := rfl
  unfold Kept
  rw [← contents_eq htidy hash]
  dsimp only
  cases hphotos : byPhash db libraryId hash with
  | nil =>
    rw [hphotos] at hstored
    rw [if_pos rfl, follow_unstored huuids hnew hhashes hstored]
    apply (or_iff_right_of_imp _).symm
    intro hnil
    rw [hnil]
    exact alike_nil.twoRuns
  | cons photo rest =>
    rw [hphotos] at hstored
    rw [if_neg (List.cons_ne_nil _ _)]
    cases hgiven : given photo.duplicateGroupId with
    | some group =>
      obtain ⟨hgroup, hne⟩ := given_eq_some.mp hgiven
      have hall : ∀ other ∈ photo :: rest, other.duplicateGroupId = some group := by
        intro other hother
        by_cases hid : photo.id = other.id
        · obtain rfl : photo = other := Table.eq_of_key_eq
            (List.mem_of_mem_filter (hphotos ▸ List.mem_cons_self ..)) (List.mem_of_mem_filter (hphotos ▸ hother)) hid
          exact hgroup
        · rw [← hgroup]
          exact (hbefore hash photo (hphotos ▸ List.mem_cons_self ..) other (hphotos ▸ hother) hid).1.symm
      refine iff_of_true ?_ (.inr (.inl ?_))
      · exact follow_joined huuids hnew hhashes hne (hstored ▸ List.cons_ne_nil _ _) (hstored ▸ hall)
      · intro other hother
        rw [hall other hother, given_eq_some.mpr ⟨rfl, hne⟩]
        exact Option.some_ne_none group
    | none =>
      have hgroups : Follow (((readingOf isFile uuid libraryId items db).byPhash hash).map
          fun photo => (photo.id, photo.duplicateGroupId)) := groupsFollow_iff.mp hbefore hash
      rw [follow_alone huuids hnew hhashes hstored hgiven hgroups]
      apply or_congr_right
      have hopen : ¬∀ other ∈ photo :: rest, given other.duplicateGroupId ≠ none :=
        fun hall => hall photo (List.mem_cons_self ..) hgiven
      rw [or_iff_right hopen]
      apply and_congr_left'
      rw [List.length_cons, Nat.add_eq_right, List.length_eq_zero_iff]

/-- After a batch of new photos, duplicate groups follow the perceptual hash exactly where every hash that the batch carries keeps to
its condition. -/
theorem groups_follow_iff (hfresh : Fresh uuid db) (hbefore : GroupsFollow db libraryId)
    (hpaths : ∀ item ∈ items, ∀ photo ∈ db.rows, photo.libraryId = libraryId → photo.relativePath ≠ item.relativePath)
    (hcontents : ∀ item ∈ items, byHash db libraryId item.features.sha256 = [])
    (hcopies : ∀ item ∈ items, ∀ other ∈ items, item.features.sha256 = other.features.sha256 →
      item.features.perceptualHash = other.features.perceptualHash) :
    ((items.map PreparedScanPhoto.relativePath).Nodup → (applyScanBatch isFile uuid libraryId items db).isSome = true) ∧
      ∀ later results, applyScanBatch isFile uuid libraryId items db = some (later, results) →
        (GroupsFollow later libraryId ↔
          ∀ item ∈ items, ∀ hash, item.features.perceptualHash = some hash → Kept db libraryId items hash) := by
  have huuids : Uuids (readingOf isFile uuid libraryId items db) := uuids_of_fresh hfresh
  have hnew : ∀ item ∈ items, (readingOf isFile uuid libraryId items db).New item := new_of_library hpaths hcontents
  have hhashes : ∀ item ∈ items, item.features.perceptualHash = batchHash items item.features.sha256 :=
    fun item hitem => batchHash_eq hcopies hitem
  obtain ⟨htidy, -⟩ := run_items huuids hnew hhashes (fun _ => True) trivial fun _ _ _ _ _ _ _ => trivial
  refine ⟨fun hdistinct => applyScanBatch_isSome hfresh hpaths hdistinct htidy, ?_⟩
  intro later results happly
  by_cases hsome : items = []
  · subst hsome
    obtain ⟨rfl, -⟩ := Prod.mk.inj (Option.some.inj happly)
    exact iff_of_true hbefore fun item hitem => absurd hitem List.not_mem_nil
  rw [applyScanBatch_inserts htidy hsome] at happly
  obtain ⟨written, hwritten, hpair⟩ := Option.map_eq_some_iff.mp happly
  obtain ⟨rfl, -⟩ := Prod.mk.inj hpair
  have hrows := rows_insertPhotos hwritten
  rw [rows_updateGroups] at hrows
  obtain ⟨hnodup, -, hpending⟩ := htidy.mono_final (regrouped_planBatch _ items)
  have hgroups : ∀ hash, Follow (groupsOf written libraryId hash) ↔
      contents hash (items.foldl (itemStep (readingOf isFile uuid libraryId items db)) {}) = [] ∨ Kept db libraryId items hash := by
    intro hash
    have hentries : groupsOf written libraryId hash = entries (readingOf isFile uuid libraryId items db)
        (planBatch (readingOf isFile uuid libraryId items db) items) hash := groupsOf_later hrows hnodup hpending rfl
    rw [hentries, follow_iff hfresh hbefore hnew hhashes]
  rw [groupsFollow_iff, forall_congr' hgroups]
  constructor
  · intro hall item hitem hash hhash
    apply (hall hash).resolve_left
    rw [contents_eq htidy hash]
    exact List.ne_nil_of_mem (List.mem_map_of_mem (List.mem_filter.mpr ⟨hitem, decide_eq_true hhash⟩))
  · intro hall hash
    by_cases hnil : contents hash (items.foldl (itemStep (readingOf isFile uuid libraryId items db)) {}) = []
    · exact .inl hnil
    · obtain ⟨content, hcontent⟩ := List.exists_mem_of_ne_nil _ hnil
      rw [contents_eq htidy hash] at hcontent
      obtain ⟨item, hitem, -⟩ := List.mem_map.mp hcontent
      obtain ⟨hin, hhash⟩ := List.mem_filter.mp hitem
      exact .inr (hall item hin hash (of_decide_eq_true hhash))

end

/-- Ids of growing length. -/
def tally (n : ℕ) : String := String.ofList (List.replicate (n + 1) 'u')

lemma tally_toList (n : ℕ) : (tally n).toList = List.replicate (n + 1) 'u' := String.toList_ofList

lemma tally_injective : Function.Injective tally := by
  intro n m heq
  have hlength := congrArg (fun text => text.toList.length) heq
  simp only [tally_toList, List.length_replicate] at hlength
  omega

lemma tally_ne_empty (n : ℕ) : tally n ≠ "" := by
  intro heq
  have hlength := congrArg (fun text => text.toList.length) heq
  simp [tally_toList] at hlength

/-- Three contents with one perceptual hash. -/
def variants : List PreparedScanPhoto :=
  [⟨"a.jpg", ⟨"1", some "p", true⟩⟩, ⟨"b.jpg", ⟨"2", some "p", true⟩⟩, ⟨"c.jpg", ⟨"3", some "p", true⟩⟩]

/-- A stored photo with the perceptual hash of the variants, and a group. -/
def original : Photo where
  id := "original"
  libraryId := "library"
  relativePath := "0.jpg"
  sha256 := some "0"
  perceptualHash := some "p"
  duplicateGroupId := some "g"

lemma fresh_original : Fresh tally (Table.single original) where
  injective := tally_injective
  nonempty := tally_ne_empty
  newId n photo hphoto := by
    rw [List.mem_singleton.mp hphoto]
    intro heq
    have hlist := congrArg String.toList heq
    rw [tally_toList, List.replicate_succ] at hlist
    exact absurd (List.cons.inj hlist).1 (by decide)
  newGroup n photo hphoto := by
    rw [List.mem_singleton.mp hphoto]
    intro heq
    have hlist := congrArg String.toList (Option.some.inj heq)
    rw [tally_toList, List.replicate_succ] at hlist
    exact absurd (List.cons.inj hlist).1 (by decide)

/-- The variants of a grouped photo join its group. -/
theorem variants_join_original : ∃ later results,
    applyScanBatch (fun _ => false) tally "library" variants (Table.single original) = some (later, results) ∧
      GroupsFollow later "library" := by
  have hbefore : GroupsFollow (Table.single original) "library" := by
    intro hash photo hphoto other hother hids
    have hphoto := List.mem_singleton.mp (List.mem_of_mem_filter hphoto)
    have hother := List.mem_singleton.mp (List.mem_of_mem_filter hother)
    exact absurd (by rw [hphoto, hother]) hids
  obtain ⟨hsome, hfollow⟩ := @groups_follow_iff (fun _ => false) tally "library" variants (Table.single original) fresh_original
    hbefore (by decide) (by decide) (by decide)
  obtain ⟨⟨later, results⟩, happly⟩ := Option.isSome_iff_exists.mp (hsome (by decide))
  refine ⟨later, results, happly, (hfollow later results happly).mpr ?_⟩
  intro item hitem hash hhash
  have hall : ∀ item ∈ variants, item.features.perceptualHash = some "p" := by decide
  obtain rfl := Option.some.inj ((hall item hitem).symm.trans hhash)
  unfold Kept
  rw [if_neg (by decide)]
  exact .inl (by decide)

/-- Three new variants of no stored photo end in two groups. -/
theorem variants_break_groups : ¬∀ (items : List PreparedScanPhoto) (db : Store), Fresh tally db → GroupsFollow db "library" →
    (∀ item ∈ items, ∀ photo ∈ db.rows, photo.libraryId = "library" → photo.relativePath ≠ item.relativePath) →
    (∀ item ∈ items, byHash db "library" item.features.sha256 = []) →
    ∀ later results, applyScanBatch (fun _ => false) tally "library" items db = some (later, results) →
      GroupsFollow later "library" := by
  intro hall
  have hrun : (applyScanBatch (fun _ => false) tally "library" variants Table.empty).map
      (fun answer => groupsOf answer.1 "library" "p") =
      some [("u", some "uuuuu"), ("uu", some "uuu"), ("uuuu", some "uuuuu")] := by decide +kernel
  obtain ⟨⟨later, results⟩, happly, hgroups⟩ := Option.map_eq_some_iff.mp hrun
  have hempty : Fresh tally Table.empty := ⟨tally_injective, tally_ne_empty, fun _ _ h => absurd h List.not_mem_nil,
    fun _ _ h => absurd h List.not_mem_nil⟩
  have hafter := hall variants Table.empty hempty (fun _ _ h => absurd h List.not_mem_nil) (fun _ _ _ h => absurd h List.not_mem_nil)
    (fun _ _ => rfl) later results happly
  have hfollow := groupsFollow_iff.mp hafter "p"
  rw [hgroups] at hfollow
  have hsame := (hfollow ("u", some "uuuuu") (by decide) ("uu", some "uuu") (by decide) (by decide)).1
  exact absurd hsame (by decide)

end InkTime.Scan
