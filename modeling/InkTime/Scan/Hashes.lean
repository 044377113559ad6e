import InkTime.Scan.Grouping
import InkTime.Library.Repeats

/-!
# Items with one perceptual hash

What holds of the groups of the items with one perceptual hash while a batch of new photos is planned: they share one group,
or two of them are split for good.
-/

namespace InkTime.Scan

open Repeats

section

variable (reading : Reading) (hash : String)

/-- The entries of the items with the hash. -/
def members (batch : Batch) : List Pending := batch.pending.filter fun pending => pending.perceptualHash = some hash

/-- No earlier item has the content. -/
def IsFirst (batch : Batch) (pending : Pending) : Prop := batch.pending.find? (·.sha256 = pending.sha256) = some pending

/-- Items of two contents have different groups, and neither will get the other's. -/
structure Split (batch : Batch) (first second : Pending) (group other : String) : Prop where
  first_mem : first ∈ members hash batch
  second_mem : second ∈ members hash batch
  isFirst : IsFirst batch first
  isFirst' : IsFirst batch second
  contents : first.sha256 ≠ second.sha256
  groups : group ≠ other
  nonempty : group ≠ "" ∧ other ≠ ""
  first_group : batch.planGroup first.source.id = some group
  second_group : batch.planGroup second.source.id = some other
  held : second.source.duplicateGroupId = some other
  first_held : first.source.duplicateGroupId = some group ∨ given first.source.duplicateGroupId = none

/-- The perceptual hash of every item is that of its content. -/
def Hashed (hashOf : String → Option String) (batch : Batch) : Prop :=
  ∀ pending ∈ batch.pending, pending.perceptualHash = hashOf pending.sha256

/-- The perceptual hash of the next item is that of its content too. -/
structure Fits (hashOf : String → Option String) (batch : Batch) (item : PreparedScanPhoto) : Prop where
  item : item.features.perceptualHash = hashOf item.features.sha256
  pending : Hashed hashOf batch

end

section

variable {reading : Reading} {hash : String} {done : List PreparedScanPhoto} {batch : Batch} {item : PreparedScanPhoto}
variable {hashOf : String → Option String}

lemma mem_members {pending : Pending} :
    pending ∈ members hash batch ↔ pending ∈ batch.pending ∧ pending.perceptualHash = some hash := by
  unfold members
  rw [List.mem_filter, decide_eq_true_eq]

lemma Fits.same (hfits : Fits hashOf batch item) {pending : Pending} (hpending : pending ∈ batch.pending)
    (hsha : pending.sha256 = item.features.sha256) : pending.perceptualHash = item.features.perceptualHash := by
  rw [hfits.pending pending hpending, hfits.item, hsha]

lemma not_known_fresh (huuids : Uuids reading) {drawn n : ℕ} (hle : drawn ≤ n) : ¬Known reading drawn (reading.uuid n) := by
  rintro (⟨m, hm, heq⟩ | ⟨hash, photo, hphoto, hgroup⟩)
  · have := huuids.injective heq
    omega
  · exact huuids.newGroup n hash photo hphoto hgroup

lemma Tidy.eq_of_id (h : Tidy reading done batch) {pending other : Pending} (hpending : pending ∈ batch.pending)
    (hother : other ∈ batch.pending) (hid : pending.source.id = other.source.id) : pending = other := by
  have hnodup : (batch.pending.map fun pending => pending.source.id).Nodup := h.map_ids ▸ h.nodup
  exact List.inj_on_of_nodup_map hnodup hpending hother hid

lemma Tidy.id_ne_fresh (huuids : Uuids reading) (h : Tidy reading done batch) {pending : Pending} (hpending : pending ∈ batch.pending) :
    pending.source.id ≠ reading.uuid batch.drawn := by
  intro heq
  apply h.fresh_id huuids
  rw [← heq, ← h.map_ids]
  exact List.mem_map.mpr ⟨pending, hpending, rfl⟩

/-- No stored photo has the id of an item. -/
lemma Tidy.id_ne_stored (huuids : Uuids reading) (h : Tidy reading done batch) {pending : Pending} (hpending : pending ∈ batch.pending)
    {other : String} {photo : Photo} (hphoto : photo ∈ reading.byPhash other) : photo.id ≠ pending.source.id := by
  intro heq
  have hmem : pending.source.id ∈ batch.plans.map Plan.id := h.map_ids ▸ List.mem_map.mpr ⟨pending, hpending, rfl⟩
  obtain ⟨n, -, hid⟩ := h.drawn _ hmem
  exact huuids.newId n other photo hphoto (heq.trans hid)

lemma Tidy.not_hasPlan_stored (huuids : Uuids reading) (h : Tidy reading done batch) {other : String} {photo : Photo}
    (hphoto : photo ∈ reading.byPhash other) : batch.hasPlan photo.id = false := by
  apply Bool.eq_false_iff.mpr
  intro hplan
  obtain ⟨n, -, hid⟩ := h.drawn _ (Batch.hasPlan_iff.mp hplan)
  exact huuids.newId n other photo hphoto hid

section

variable (huuids : Uuids reading) (h : Tidy reading done batch) (hitem : reading.New item)

include huuids h hitem

lemma pending_itemStep : (itemStep reading batch item).pending = batch.pending ++ [newEntry reading batch item] :=
  (itemStep_adds huuids h hitem).pending

/-- An earlier item keeps its group unless it is the source. -/
lemma planGroup_itemStep {pending : Pending} (hpending : pending ∈ batch.pending) :
    (itemStep reading batch item).planGroup pending.source.id =
      if (duplicateSource reading batch item).any (·.id = pending.source.id) then newGroup reading batch item
      else batch.planGroup pending.source.id := by
  rw [(itemStep_adds huuids h hitem).planGroup]
  have hne := h.id_ne_fresh huuids hpending
  have hplan := h.hasPlan hpending
  apply if_congr _ rfl rfl
  constructor
  · rintro (heq | ⟨hany, -⟩)
    · exact absurd heq hne
    · exact hany
  · exact fun hany => .inr ⟨hany, hplan⟩

lemma planGroup_new : (itemStep reading batch item).planGroup (reading.uuid batch.drawn) = newGroup reading batch item := by
  rw [(itemStep_adds huuids h hitem).planGroup, if_pos (.inl rfl)]

lemma groupUpdates_itemStep {other : String} {photo : Photo} (hphoto : photo ∈ reading.byPhash other) :
    (itemStep reading batch item).groupUpdates photo.id =
      if (duplicateSource reading batch item).any (fun source => source.id = photo.id ∧ given source.duplicateGroupId = none) then
        newGroup reading batch item
      else batch.groupUpdates photo.id := by
  rw [(itemStep_adds huuids h hitem).groupUpdates]
  apply if_congr _ rfl rfl
  exact and_iff_left (h.not_hasPlan_stored huuids hphoto)

/-- A source that is an earlier item is that item. -/
lemma source_of_pending {pending : Pending} (hpending : pending ∈ batch.pending)
    (hsource : (duplicateSource reading batch item).any (·.id = pending.source.id) = true) :
    duplicateSource reading batch item = some pending.source ∧ (pending.sha256 = item.features.sha256 ∨
      item.features.perceptualHash ≠ none ∧ pending.perceptualHash = item.features.perceptualHash) := by
  obtain ⟨source, hsome, hid⟩ := (Option.any_eq_true _ _).mp hsource
  have hsame : source.id = pending.source.id := of_decide_eq_true hid
  obtain ⟨other, hother, rfl, hwhy⟩ | ⟨_, -, photo, hphoto, rfl⟩ := source_cases h hitem hsome
  · obtain rfl := h.eq_of_id hother hpending hsame
    exact ⟨hsome, hwhy⟩
  · exact absurd hsame (h.id_ne_stored huuids hpending hphoto)

lemma isFirst_itemStep {pending : Pending} (hfirst : IsFirst batch pending) : IsFirst (itemStep reading batch item) pending := by
  unfold IsFirst at hfirst ⊢
  rw [pending_itemStep huuids h hitem, List.find?_append, hfirst]
  rfl

lemma mem_members_itemStep {pending : Pending} (hpending : pending ∈ members hash batch) :
    pending ∈ members hash (itemStep reading batch item) := by
  rw [mem_members] at hpending ⊢
  rw [pending_itemStep huuids h hitem]
  exact ⟨List.mem_append_left _ hpending.1, hpending.2⟩

/-- An item keeps the group that its entry has. -/
lemma planGroup_of_held {pending : Pending} (hpending : pending ∈ batch.pending) {group : String} (hne : group ≠ "")
    (hheld : pending.source.duplicateGroupId = some group) (hgroup : batch.planGroup pending.source.id = some group) :
    (itemStep reading batch item).planGroup pending.source.id = some group := by
  rw [planGroup_itemStep huuids h hitem hpending]
  split
  · next hsource =>
    obtain ⟨hsome, -⟩ := source_of_pending huuids h hitem hpending hsource
    rw [newGroup_some hsome, given_eq_some.mpr ⟨hheld, hne⟩, Option.getD_some]
  · exact hgroup

/-- An item whose entry has no group gets a new one where it is a source. -/
lemma planGroup_of_open {pending : Pending} (hpending : pending ∈ batch.pending)
    (hopen : given pending.source.duplicateGroupId = none) :
    (itemStep reading batch item).planGroup pending.source.id = batch.planGroup pending.source.id ∨
      (itemStep reading batch item).planGroup pending.source.id = some (reading.uuid (batch.drawn + 1)) := by
  rw [planGroup_itemStep huuids h hitem hpending]
  split
  · next hsource =>
    obtain ⟨hsome, -⟩ := source_of_pending huuids h hitem hpending hsource
    right
    rw [newGroup_some hsome, hopen, Option.getD_none]
  · exact .inl rfl

/-- A split is for good. -/
lemma Split.step {first second : Pending} {group other : String} (hsplit : Split hash batch first second group other) :
    ∃ group', Split hash (itemStep reading batch item) first second group' other := by
  have hfirst := (mem_members.mp hsplit.first_mem).1
  have hsecond := (mem_members.mp hsplit.second_mem).1
  have hkeeps : ∀ group', (itemStep reading batch item).planGroup first.source.id = some group' → group' ≠ other → group' ≠ "" →
      (first.source.duplicateGroupId = some group' ∨ given first.source.duplicateGroupId = none) →
      Split hash (itemStep reading batch item) first second group' other := by
    intro group' hgroup hapart hne hheld
    exact {
      first_mem := mem_members_itemStep huuids h hitem hsplit.first_mem
      second_mem := mem_members_itemStep huuids h hitem hsplit.second_mem
      isFirst := isFirst_itemStep huuids h hitem hsplit.isFirst
      isFirst' := isFirst_itemStep huuids h hitem hsplit.isFirst'
      contents := hsplit.contents
      groups := hapart
      nonempty := ⟨hne, hsplit.nonempty.2⟩
      first_group := hgroup
      second_group := planGroup_of_held huuids h hitem hsecond hsplit.nonempty.2 hsplit.held hsplit.second_group
      held := hsplit.held
      first_held := hheld }
  obtain hheld | hopen := hsplit.first_held
  · exact ⟨group, hkeeps group (planGroup_of_held huuids h hitem hfirst hsplit.nonempty.1 hheld hsplit.first_group) hsplit.groups
      hsplit.nonempty.1 (.inl hheld)⟩
  · obtain hsame | hnew := planGroup_of_open huuids h hitem hfirst hopen
    · exact ⟨group, hkeeps group (hsame.trans hsplit.first_group) hsplit.groups hsplit.nonempty.1 (.inr hopen)⟩
    · refine ⟨_, hkeeps _ hnew ?_ (huuids.nonempty _) (.inr hopen)⟩
      intro heq
      apply not_known_fresh huuids (Nat.le_succ batch.drawn)
      rw [heq]
      exact h.planned _ _ hsplit.second_group

/-! ### Items with another hash -/

lemma members_other (hother : item.features.perceptualHash ≠ some hash) :
    members hash (itemStep reading batch item) = members hash batch := by
  unfold members
  rw [pending_itemStep huuids h hitem, List.filter_append]
  simp [newEntry, hother]

lemma planGroup_other (hfits : Fits hashOf batch item) (hother : item.features.perceptualHash ≠ some hash) {pending : Pending}
    (hpending : pending ∈ members hash batch) :
    (itemStep reading batch item).planGroup pending.source.id = batch.planGroup pending.source.id := by
  obtain ⟨hin, hhash⟩ := mem_members.mp hpending
  rw [planGroup_itemStep huuids h hitem hin]
  split
  · next hsource =>
    obtain ⟨-, hsame | ⟨-, hsame⟩⟩ := source_of_pending huuids h hitem hin hsource
    · exact absurd ((hfits.same hin hsame).symm.trans hhash) hother
    · exact absurd (hsame.symm.trans hhash) hother
  · rfl

lemma groupUpdates_other (hother : item.features.perceptualHash ≠ some hash) {photo : Photo} (hphoto : photo ∈ reading.byPhash hash) :
    (itemStep reading batch item).groupUpdates photo.id = batch.groupUpdates photo.id := by
  rw [groupUpdates_itemStep huuids h hitem hphoto]
  split
  · next hsource =>
    obtain ⟨source, hsome, hboth⟩ := (Option.any_eq_true _ _).mp hsource
    have hid : source.id = photo.id := (of_decide_eq_true hboth).1
    obtain ⟨pending, hpending, rfl, -⟩ | ⟨other, hhash, photo', hphoto', rfl⟩ := source_cases h hitem hsome
    · exact absurd hid.symm (h.id_ne_stored huuids hpending hphoto)
    · exact absurd (huuids.apart other photo' hphoto' hash photo hphoto hid ▸ hhash) hother
  · rfl

/-! ### Items with the hash -/

lemma members_same (hsame : item.features.perceptualHash = some hash) : members hash (itemStep reading batch item) =
    members hash batch ++ [newEntry reading batch item] := by
  unfold members
  rw [pending_itemStep huuids h hitem, List.filter_append]
  simp [newEntry, hsame]

omit huuids in
/-- The source of an item with the hash: an earlier copy, else a stored photo with the hash, else the first item with it. -/
lemma duplicateSource_same (hfits : Fits hashOf batch item) (hsame : item.features.perceptualHash = some hash) :
    duplicateSource reading batch item =
      (((members hash batch).find? (·.sha256 = item.features.sha256)).map Pending.source).or
        (((reading.byPhash hash).head?.map Photo.source).or ((members hash batch).head?.map Pending.source)) := by
  have hexact : batch.pendingByHash item.features.sha256 =
      ((members hash batch).filter fun pending => pending.sha256 = item.features.sha256).map Pending.source := by
    unfold Batch.pendingByHash members
    rw [List.filter_filter]
    congr 1
    apply List.filter_congr
    intro pending hpending
    by_cases hsha : pending.sha256 = item.features.sha256
    · simp [hsha, hfits.same hpending hsha, hsame]
    · simp [hsha]
  unfold duplicateSource
  rw [eligibleExact_new h hitem, nearSources_new hitem hsame, hexact, List.head?_append, List.head?_append, List.head?_map,
    List.head?_map, List.head?_filter]
  congr 2
  unfold Batch.pendingByPhash
  rw [List.head?_map]
  rfl

end

/-! ### A hash that a grouped photo has -/

variable (reading hash) in
/-- Every item with the hash has the group of the stored photos. -/
structure Joined (group : String) (batch : Batch) : Prop where
  groups : ∀ pending ∈ members hash batch, pending.source.duplicateGroupId = some group ∧
    batch.planGroup pending.source.id = some group
  updates : ∀ photo ∈ reading.byPhash hash, batch.groupUpdates photo.id = none

lemma Joined.step (huuids : Uuids reading) (h : Tidy reading done batch) (hitem : reading.New item) (hfits : Fits hashOf batch item)
    {group : String} (hne : group ≠ "") (hstored : reading.byPhash hash ≠ [])
    (hgroups : ∀ photo ∈ reading.byPhash hash, photo.duplicateGroupId = some group) (hjoined : Joined reading hash group batch) :
    Joined reading hash group (itemStep reading batch item) := by
  by_cases hsame : item.features.perceptualHash = some hash
  · have hsource : ∀ source, duplicateSource reading batch item = some source → source.duplicateGroupId = some group := by
      intro source hsome
      obtain ⟨pending, hpending, rfl, hwhy⟩ | ⟨other, hhash, photo, hphoto, rfl⟩ := source_cases h hitem hsome
      · have hphash : pending.perceptualHash = some hash := by
          obtain hsha | ⟨-, heq⟩ := hwhy
          · rw [hfits.same hpending hsha, hsame]
          · rw [heq, hsame]
        exact (hjoined.groups pending (mem_members.mpr ⟨hpending, hphash⟩)).1
      · obtain rfl : other = hash := Option.some.inj (hhash.symm.trans hsame)
        exact hgroups photo hphoto
    have hnew : newGroup reading batch item = some group := by
      obtain ⟨photo, rest, hcons⟩ := List.exists_cons_of_ne_nil hstored
      have hsome : ∃ source, duplicateSource reading batch item = some source := by
        rw [duplicateSource_same h hitem hfits hsame, hcons]
        cases (members hash batch).find? (·.sha256 = item.features.sha256) with
        | none => exact ⟨_, rfl⟩
        | some pending => exact ⟨_, rfl⟩
      obtain ⟨source, hsome⟩ := hsome
      rw [newGroup_some hsome, given_eq_some.mpr ⟨hsource source hsome, hne⟩, Option.getD_some]
    constructor
    · intro pending hpending
      rw [members_same huuids h hitem hsame] at hpending
      obtain hbefore | hlast := List.mem_append.mp hpending
      · obtain ⟨hheld, hgroup⟩ := hjoined.groups pending hbefore
        exact ⟨hheld, planGroup_of_held huuids h hitem (mem_members.mp hbefore).1 hne hheld hgroup⟩
      · rw [List.mem_singleton.mp hlast]
        exact ⟨hnew, (planGroup_new huuids h hitem).trans hnew⟩
    · intro photo hphoto
      rw [groupUpdates_itemStep huuids h hitem hphoto, if_neg]
      · exact hjoined.updates photo hphoto
      · intro hany
        obtain ⟨source, hsome, hboth⟩ := (Option.any_eq_true _ _).mp hany
        have hnone := (of_decide_eq_true hboth).2
        rw [given_eq_some.mpr ⟨hsource source hsome, hne⟩] at hnone
        cases hnone
  · constructor
    · intro pending hpending
      rw [members_other huuids h hitem hsame] at hpending
      rw [planGroup_other huuids h hitem hfits hsame hpending]
      exact hjoined.groups pending hpending
    · intro photo hphoto
      rw [groupUpdates_other huuids h hitem hsame hphoto]
      exact hjoined.updates photo hphoto

/-! ### First items -/

/-- The contents of the items with the hash, in their order. -/
def contents (hash : String) (batch : Batch) : List String := (members hash batch).map Pending.sha256

/-- The first item of a content is found among the items with its hash. -/
lemma Hashed.find?_pending (hhashed : Hashed hashOf batch) {content : String} (hhash : hashOf content = some hash) :
    batch.pending.find? (·.sha256 = content) = (members hash batch).find? (·.sha256 = content) := by
  unfold members
  rw [List.find?_filter]
  apply List.find?_congr
  intro pending hpending
  by_cases hsha : pending.sha256 = content
  · have hphash : pending.perceptualHash = some hash := by rw [hhashed pending hpending, hsha, hhash]
    simp [hsha, hphash]
  · simp [hsha]

lemma find?_head {first : Pending} (hhead : (members hash batch).head? = some first) :
    (members hash batch).find? (·.sha256 = first.sha256) = some first := by
  obtain ⟨rest, hcons⟩ := List.head?_eq_some_iff.mp hhead
  rw [hcons]
  simp

lemma find?_none {content : String} (hcontents : ∀ pending ∈ members hash batch, pending.sha256 ≠ content) :
    (members hash batch).find? (·.sha256 = content) = none := by
  apply List.find?_eq_none.mpr
  intro pending hpending
  simpa using hcontents pending hpending

lemma Hashed.isFirst (hhashed : Hashed hashOf batch) {first : Pending} (hmem : first ∈ members hash batch)
    (hfind : (members hash batch).find? (·.sha256 = first.sha256) = some first) : IsFirst batch first := by
  obtain ⟨hin, hhash⟩ := mem_members.mp hmem
  unfold IsFirst
  rw [hhashed.find?_pending (by rw [← hhashed first hin]; exact hhash)]
  exact hfind

/-- An item of a new content is the first of it. -/
lemma isFirst_new (huuids : Uuids reading) (h : Tidy reading done batch) (hitem : reading.New item) (hfits : Fits hashOf batch item)
    (hsame : item.features.perceptualHash = some hash)
    (hnew : ∀ pending ∈ members hash batch, pending.sha256 ≠ item.features.sha256) :
    IsFirst (itemStep reading batch item) (newEntry reading batch item) := by
  unfold IsFirst
  have hfind : batch.pending.find? (·.sha256 = (newEntry reading batch item).sha256) = none := by
    unfold newEntry
    rw [hfits.pending.find?_pending (hfits.item.symm.trans hsame), find?_none hnew]
  rw [pending_itemStep huuids h hitem, List.find?_append, hfind]
  simp

/-! ### A hash that a photo without a group has -/

lemma not_alike_of_split {pending other : Pending} {group group' : String} (hsplit : Split hash batch pending other group group') :
    ¬Alike (contents hash batch) := by
  intro halike
  exact hsplit.contents (halike _ (List.mem_map_of_mem hsplit.first_mem) _ (List.mem_map_of_mem hsplit.second_mem))

variable (reading hash) in
/-- Items of one content share the new group that the first photo gets, or two contents are split. -/
inductive Alone (photo : Photo) (batch : Batch) : Prop where
  | empty (hmembers : members hash batch = []) (hupdate : batch.groupUpdates photo.id = none)
  | one (content group : String) (hne : group ≠ "") (hmembers : members hash batch ≠ [])
      (hcontents : ∀ pending ∈ members hash batch, pending.sha256 = content ∧ pending.source.duplicateGroupId = some group ∧
        batch.planGroup pending.source.id = some group)
      (hupdate : batch.groupUpdates photo.id = some group)
  | split (first second : Pending) (group other : String) (hsplit : Split hash batch first second group other)

section

variable (huuids : Uuids reading) (h : Tidy reading done batch) (hitem : reading.New item) (hfits : Fits hashOf batch item)

include huuids h hitem hfits

omit huuids in
/-- The source of an item of a new content, where the library has the hash. -/
lemma duplicateSource_stored (hsame : item.features.perceptualHash = some hash) {photo : Photo} {rest : List Photo}
    (hstored : reading.byPhash hash = photo :: rest)
    (hnew : ∀ pending ∈ members hash batch, pending.sha256 ≠ item.features.sha256) :
    duplicateSource reading batch item = some photo.source := by
  rw [duplicateSource_same h hitem hfits hsame, find?_none hnew, hstored]
  rfl

/-- The update of the photo that is the source. -/
lemma groupUpdates_source (hsame : item.features.perceptualHash = some hash) {photo : Photo} {rest : List Photo}
    (hstored : reading.byPhash hash = photo :: rest) (hopen : given photo.duplicateGroupId = none)
    (hnew : ∀ pending ∈ members hash batch, pending.sha256 ≠ item.features.sha256) :
    newGroup reading batch item = some (reading.uuid (batch.drawn + 1)) ∧
      (itemStep reading batch item).groupUpdates photo.id = some (reading.uuid (batch.drawn + 1)) := by
  have hsource := duplicateSource_stored h hitem hfits hsame hstored hnew
  have hgroup : newGroup reading batch item = some (reading.uuid (batch.drawn + 1)) := by
    have hnone : given photo.source.duplicateGroupId = none := hopen
    rw [newGroup_some hsource, hnone, Option.getD_none]
  have hmem : photo ∈ reading.byPhash hash := hstored ▸ List.mem_cons_self ..
  refine ⟨hgroup, ?_⟩
  rw [groupUpdates_itemStep huuids h hitem hmem, hsource, if_pos, hgroup]
  simp [Photo.source, hopen]

lemma Alone.step_same (hsame : item.features.perceptualHash = some hash) {photo : Photo} {rest : List Photo}
    (hstored : reading.byPhash hash = photo :: rest) (hopen : given photo.duplicateGroupId = none) (halone : Alone hash photo batch) :
    Alone hash photo (itemStep reading batch item) := by
  have hmembers := members_same huuids h hitem hsame
  have hplan := planGroup_new huuids h hitem
  cases halone with
  | empty hnone _ =>
    have hnew : ∀ pending ∈ members hash batch, pending.sha256 ≠ item.features.sha256 := by
      rw [hnone]
      exact fun pending hpending => absurd hpending List.not_mem_nil
    obtain ⟨hgroup, hupdate⟩ := groupUpdates_source huuids h hitem hfits hsame hstored hopen hnew
    rw [hnone, List.nil_append] at hmembers
    refine .one item.features.sha256 (reading.uuid (batch.drawn + 1)) (huuids.nonempty _) ?_ ?_ hupdate
    · rw [hmembers]
      exact List.cons_ne_nil _ _
    · intro pending hpending
      rw [hmembers, List.mem_singleton] at hpending
      rw [hpending]
      exact ⟨rfl, hgroup, hplan.trans hgroup⟩
  | one content group hne hsome hcontents hupdate =>
    obtain ⟨first, tail, hcons⟩ := List.exists_cons_of_ne_nil hsome
    have hfirst : first ∈ members hash batch := hcons ▸ List.mem_cons_self ..
    have hhead : (members hash batch).head? = some first := by rw [hcons]; rfl
    obtain ⟨hsha, hheld, hgroup⟩ := hcontents first hfirst
    by_cases hcontent : item.features.sha256 = content
    · have hsource : duplicateSource reading batch item = some first.source := by
        rw [duplicateSource_same h hitem hfits hsame, hcontent, ← hsha, find?_head hhead]
        rfl
      have hnew : newGroup reading batch item = some group := by
        rw [newGroup_some hsource, given_eq_some.mpr ⟨hheld, hne⟩, Option.getD_some]
      refine .one content group hne ?_ ?_ ?_
      · rw [hmembers]
        simp
      · intro pending hpending
        rw [hmembers] at hpending
        obtain hbefore | hlast := List.mem_append.mp hpending
        · obtain ⟨hsha', hheld', hgroup'⟩ := hcontents pending hbefore
          exact ⟨hsha', hheld', planGroup_of_held huuids h hitem (mem_members.mp hbefore).1 hne hheld' hgroup'⟩
        · rw [List.mem_singleton.mp hlast]
          exact ⟨hcontent, hnew, hplan.trans hnew⟩
      · rw [groupUpdates_itemStep huuids h hitem (hstored ▸ List.mem_cons_self ..), hsource, if_neg]
        · exact hupdate
        · rw [Option.any_some, given_eq_some.mpr ⟨hheld, hne⟩]
          simp
    · have hnew : ∀ pending ∈ members hash batch, pending.sha256 ≠ item.features.sha256 := by
        intro pending hpending
        rw [(hcontents pending hpending).1]
        exact fun heq => hcontent heq.symm
      obtain ⟨hfresh, -⟩ := groupUpdates_source huuids h hitem hfits hsame hstored hopen hnew
      refine .split first _ group (reading.uuid (batch.drawn + 1)) {
        first_mem := mem_members_itemStep huuids h hitem hfirst
        second_mem := hmembers ▸ List.mem_append_right _ (List.mem_singleton.mpr rfl)
        isFirst := isFirst_itemStep huuids h hitem (hfits.pending.isFirst hfirst (find?_head hhead))
        isFirst' := isFirst_new huuids h hitem hfits hsame hnew
        contents := hnew first hfirst
        groups := ?_
        nonempty := ⟨hne, huuids.nonempty _⟩
        first_group := planGroup_of_held huuids h hitem (mem_members.mp hfirst).1 hne hheld hgroup
        second_group := hplan.trans hfresh
        held := hfresh
        first_held := .inl hheld }
      intro heq
      apply not_known_fresh huuids (Nat.le_succ batch.drawn)
      rw [← heq]
      exact h.planned _ _ hgroup
  | split first second group other hsplit =>
    obtain ⟨group', hlater⟩ := hsplit.step huuids h hitem
    exact .split first second group' other hlater

end

lemma Alone.step (huuids : Uuids reading) (h : Tidy reading done batch) (hitem : reading.New item) (hfits : Fits hashOf batch item)
    {photo : Photo} {rest : List Photo} (hstored : reading.byPhash hash = photo :: rest) (hopen : given photo.duplicateGroupId = none)
    (halone : Alone hash photo batch) : Alone hash photo (itemStep reading batch item) := by
  by_cases hsame : item.features.perceptualHash = some hash
  · exact halone.step_same huuids h hitem hfits hsame hstored hopen
  · have hmem : photo ∈ reading.byPhash hash := hstored ▸ List.mem_cons_self ..
    have hmembers := members_other huuids h hitem hsame
    have hupdates := groupUpdates_other huuids h hitem hsame hmem
    cases halone with
    | empty hnone hupdate => exact .empty (hmembers.trans hnone) (hupdates.trans hupdate)
    | one content group hne hsome hcontents hupdate =>
      refine .one content group hne (hmembers ▸ hsome) ?_ (hupdates.trans hupdate)
      intro pending hpending
      rw [hmembers] at hpending
      rw [planGroup_other huuids h hitem hfits hsame hpending]
      exact hcontents pending hpending
    | split first second group other hsplit =>
      obtain ⟨group', hlater⟩ := hsplit.step huuids h hitem
      exact .split first second group' other hlater

/-- Only the first of the stored photos is ever updated. -/
lemma groupUpdates_rest (huuids : Uuids reading) (h : Tidy reading done batch) (hitem : reading.New item)
    (hfits : Fits hashOf batch item) {photo other : Photo} {rest : List Photo} (hstored : reading.byPhash hash = photo :: rest)
    (hother : other ∈ rest) : (itemStep reading batch item).groupUpdates other.id = batch.groupUpdates other.id := by
  have hmem : other ∈ reading.byPhash hash := hstored ▸ List.mem_cons_of_mem _ hother
  by_cases hsame : item.features.perceptualHash = some hash
  · rw [groupUpdates_itemStep huuids h hitem hmem, if_neg]
    intro hany
    obtain ⟨source, hsome, hboth⟩ := (Option.any_eq_true _ _).mp hany
    have hid : source.id = other.id := (of_decide_eq_true hboth).1
    rw [duplicateSource_same h hitem hfits hsame, hstored] at hsome
    cases hfind : (members hash batch).find? (·.sha256 = item.features.sha256) with
    | some pending =>
      rw [hfind] at hsome
      obtain rfl := Option.some.inj hsome
      exact h.id_ne_stored huuids (mem_members.mp (List.mem_of_find?_eq_some hfind)).1 hmem hid.symm
    | none =>
      rw [hfind] at hsome
      obtain rfl := Option.some.inj hsome
      have hnodup := huuids.distinct hash
      rw [hstored, List.map_cons, List.nodup_cons] at hnodup
      exact hnodup.1 (List.mem_map.mpr ⟨other, hother, hid.symm⟩)
  · exact groupUpdates_other huuids h hitem hsame hmem

end

end InkTime.Scan
