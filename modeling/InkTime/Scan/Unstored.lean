import InkTime.Scan.Hashes

/-!
# A perceptual hash that no photo has

Each item that is a copy of the first item with the hash gives it a new group. So the items keep one group while they are copies of
one content and then of one other; any later item splits them.
-/

namespace InkTime.Scan

open Repeats

section

variable {reading : Reading} {hash : String} {done : List PreparedScanPhoto} {batch : Batch} {item : PreparedScanPhoto}
variable {hashOf : String → Option String}

variable (hash) in
/-- The groups of the items with a hash that no photo has. -/
inductive Unstored (batch : Batch) : Prop where
  | empty (hmembers : members hash batch = [])
  | one (first : Pending) (hhead : (members hash batch).head? = some first) (hopen : given first.source.duplicateGroupId = none)
      (hcontents : ∀ content ∈ contents hash batch, content = first.sha256)
      (hgroup : members hash batch = [first] ∨ ∃ group, group ≠ "" ∧ batch.planGroup first.source.id = some group)
  | two (first second : Pending) (group : String) (hne : group ≠ "") (hhead : (members hash batch).head? = some first)
      (hopen : given first.source.duplicateGroupId = none)
      (hsecond : (members hash batch).find? (·.sha256 = second.sha256) = some second)
      (hheld : second.source.duplicateGroupId = some group)
      (hgroup : batch.planGroup first.source.id = some group) (hgroup' : batch.planGroup second.source.id = some group)
      (front back : List String) (hruns : contents hash batch = front ++ back) (hfront : ∀ content ∈ front, content = first.sha256)
      (hback : ∀ content ∈ back, content = second.sha256) (hpair : [first.sha256, second.sha256].Sublist (contents hash batch))
      (hcontents : first.sha256 ≠ second.sha256)
  | split (first second : Pending) (group other : String) (hsplit : Split hash batch first second group other)
      (hruns : ¬TwoRuns (contents hash batch))

lemma head_mem {first : Pending} (hhead : (members hash batch).head? = some first) : first ∈ members hash batch :=
  List.mem_of_mem_head? hhead

section

variable (huuids : Uuids reading) (h : Tidy reading done batch) (hitem : reading.New item)

include huuids h hitem

lemma contents_same (hsame : item.features.perceptualHash = some hash) :
    contents hash (itemStep reading batch item) = contents hash batch ++ [item.features.sha256] := by
  unfold contents
  rw [members_same huuids h hitem hsame, List.map_append]
  rfl

lemma head_itemStep (hsame : item.features.perceptualHash = some hash) {first : Pending}
    (hhead : (members hash batch).head? = some first) : (members hash (itemStep reading batch item)).head? = some first := by
  rw [members_same huuids h hitem hsame, List.head?_append, hhead]
  rfl

lemma find_itemStep (hsame : item.features.perceptualHash = some hash) {content : String} {first : Pending}
    (hfind : (members hash batch).find? (·.sha256 = content) = some first) :
    (members hash (itemStep reading batch item)).find? (·.sha256 = content) = some first := by
  rw [members_same huuids h hitem hsame, List.find?_append, hfind]
  rfl

/-- The first item and its copy get a new group. -/
lemma planGroup_source {first : Pending} (hfirst : first ∈ batch.pending) (hopen : given first.source.duplicateGroupId = none)
    (hsource : duplicateSource reading batch item = some first.source) :
    newGroup reading batch item = some (reading.uuid (batch.drawn + 1)) ∧
      (itemStep reading batch item).planGroup first.source.id = some (reading.uuid (batch.drawn + 1)) := by
  have hgroup : newGroup reading batch item = some (reading.uuid (batch.drawn + 1)) := by
    rw [newGroup_some hsource, hopen, Option.getD_none]
  refine ⟨hgroup, ?_⟩
  rw [planGroup_itemStep huuids h hitem hfirst, hsource, if_pos, hgroup]
  simp

end

section

variable (huuids : Uuids reading) (h : Tidy reading done batch) (hitem : reading.New item) (hfits : Fits hashOf batch item)
variable (hsame : item.features.perceptualHash = some hash) (hstored : reading.byPhash hash = [])

include h hitem hfits hsame hstored

lemma duplicateSource_unstored : duplicateSource reading batch item =
    (((members hash batch).find? (·.sha256 = item.features.sha256)).or (members hash batch).head?).map Pending.source := by
  rw [duplicateSource_same h hitem hfits hsame, hstored]
  cases (members hash batch).find? (·.sha256 = item.features.sha256) with
  | none => rfl
  | some pending => rfl

/-- The source of an item is the first item, unless an earlier item that is not a copy of the first has its content. -/
lemma source_head {first : Pending} (hhead : (members hash batch).head? = some first)
    (hcontent : ∀ content ∈ contents hash batch, content = item.features.sha256 → content = first.sha256) :
    duplicateSource reading batch item = some first.source := by
  rw [duplicateSource_unstored h hitem hfits hsame hstored]
  by_cases hcopy : first.sha256 = item.features.sha256
  · rw [← hcopy, find?_head hhead]
    rfl
  · rw [find?_none, hhead]
    · rfl
    · intro pending hpending heq
      apply hcopy
      rw [← hcontent pending.sha256 (List.mem_map_of_mem hpending) heq, heq]

include huuids

lemma Unstored.step_same (hunstored : Unstored hash batch) : Unstored hash (itemStep reading batch item) := by
  have hmembers := members_same huuids h hitem hsame
  have hcontents' := contents_same huuids h hitem hsame
  have hplan := planGroup_new huuids h hitem
  cases hunstored with
  | empty hnone =>
    have hgroup : newGroup reading batch item = none := by
      unfold newGroup
      rw [duplicateSource_unstored h hitem hfits hsame hstored, hnone]
      rfl
    rw [hnone, List.nil_append] at hmembers
    refine .one _ (by rw [hmembers]; rfl) ?_ ?_ (.inl hmembers)
    · rw [newEntry, hgroup]
      rfl
    · intro content hcontent
      unfold contents at hcontent
      rw [hmembers] at hcontent
      exact List.mem_singleton.mp hcontent
  | one first hhead hopen hcontents hgroup =>
    have hfirst := head_mem hhead
    have hin := (mem_members.mp hfirst).1
    have hsource := source_head h hitem hfits hsame hstored hhead fun content hcontent _ => hcontents content hcontent
    obtain ⟨hnew, hgroup'⟩ := planGroup_source huuids h hitem hin hopen hsource
    by_cases hcopy : item.features.sha256 = first.sha256
    · refine .one first (head_itemStep huuids h hitem hsame hhead) hopen ?_ (.inr ⟨_, huuids.nonempty _, hgroup'⟩)
      rw [hcontents']
      intro content hcontent
      obtain hbefore | hlast := List.mem_append.mp hcontent
      · exact hcontents content hbefore
      · rw [List.mem_singleton.mp hlast, hcopy]
    · have hfind : (members hash (itemStep reading batch item)).find? (·.sha256 = item.features.sha256) =
          some (newEntry reading batch item) := by
        rw [hmembers, List.find?_append, find?_none]
        · simp [newEntry]
        · intro pending hpending heq
          exact hcopy (heq.symm.trans (hcontents _ (List.mem_map_of_mem hpending)))
      have hother : first.sha256 ≠ item.features.sha256 := fun heq => hcopy heq.symm
      refine .two first (newEntry reading batch item) (reading.uuid (batch.drawn + 1)) (huuids.nonempty _)
        (head_itemStep huuids h hitem hsame hhead) hopen hfind
        hnew hgroup' (hplan.trans hnew) (contents hash batch) [item.features.sha256] hcontents' hcontents
        (fun content hcontent => List.mem_singleton.mp hcontent) ?_ hother
      rw [hcontents']
      have hmem : first.sha256 ∈ contents hash batch := List.mem_map_of_mem hfirst
      exact (List.singleton_sublist.mpr hmem).append (List.Sublist.refl [item.features.sha256])
  | two first second group hne hhead hopen hsecond hheld hgroup hgroup' front back hruns hfront hback hpair hcontents =>
    have hfirst := head_mem hhead
    have hin := (mem_members.mp hfirst).1
    have hmem := List.mem_of_find?_eq_some hsecond
    have hin' := (mem_members.mp hmem).1
    by_cases hcopy : item.features.sha256 = second.sha256
    · have hsource : duplicateSource reading batch item = some second.source := by
        rw [duplicateSource_unstored h hitem hfits hsame hstored, hcopy, hsecond]
        rfl
      have hnew : newGroup reading batch item = some group := by
        rw [newGroup_some hsource, given_eq_some.mpr ⟨hheld, hne⟩, Option.getD_some]
      have hkeeps : ∀ pending ∈ batch.pending, batch.planGroup pending.source.id = some group →
          (itemStep reading batch item).planGroup pending.source.id = some group := by
        intro pending hpending hbefore
        rw [planGroup_itemStep huuids h hitem hpending]
        split
        · exact hnew
        · exact hbefore
      refine .two first second group hne (head_itemStep huuids h hitem hsame hhead) hopen (find_itemStep huuids h hitem hsame hsecond)
        hheld (hkeeps first hin hgroup) (hkeeps second hin' hgroup') front (back ++ [item.features.sha256]) ?_ hfront ?_ ?_ hcontents
      · rw [hcontents', hruns, List.append_assoc]
      · intro content hcontent
        obtain hbefore | hlast := List.mem_append.mp hcontent
        · exact hback content hbefore
        · rw [List.mem_singleton.mp hlast, hcopy]
      · rw [hcontents']
        exact hpair.trans (List.sublist_append_left _ _)
    · have hsource : duplicateSource reading batch item = some first.source := by
        apply source_head h hitem hfits hsame hstored hhead
        intro content hcontent heq
        rw [hruns] at hcontent
        obtain hleft | hright := List.mem_append.mp hcontent
        · exact hfront content hleft
        · exact absurd (heq.symm.trans (hback content hright)) hcopy
      obtain ⟨-, hfresh⟩ := planGroup_source huuids h hitem hin hopen hsource
      refine .split first second (reading.uuid (batch.drawn + 1)) group {
        first_mem := mem_members_itemStep huuids h hitem hfirst
        second_mem := mem_members_itemStep huuids h hitem hmem
        isFirst := isFirst_itemStep huuids h hitem (hfits.pending.isFirst hfirst (find?_head hhead))
        isFirst' := isFirst_itemStep huuids h hitem (hfits.pending.isFirst hmem hsecond)
        contents := hcontents
        groups := ?_
        nonempty := ⟨huuids.nonempty _, hne⟩
        first_group := hfresh
        second_group := planGroup_of_held huuids h hitem hin' hne hheld hgroup'
        held := hheld
        first_held := .inr hopen } ?_
      · intro heq
        apply not_known_fresh huuids (Nat.le_succ batch.drawn)
        rw [heq]
        exact h.planned _ _ hgroup'
      · rw [hcontents']
        exact not_twoRuns_of_pair hpair hcontents fun heq => hcopy heq.symm
  | split first second group other hsplit hruns =>
    obtain ⟨group', hlater⟩ := hsplit.step huuids h hitem
    refine .split first second group' other hlater ?_
    rw [hcontents']
    exact fun htwo => hruns (htwo.sublist (List.sublist_append_left _ _))

end

lemma Unstored.step (huuids : Uuids reading) (h : Tidy reading done batch) (hitem : reading.New item) (hfits : Fits hashOf batch item)
    (hstored : reading.byPhash hash = []) (hunstored : Unstored hash batch) : Unstored hash (itemStep reading batch item) := by
  by_cases hsame : item.features.perceptualHash = some hash
  · exact hunstored.step_same huuids h hitem hfits hsame hstored
  · have hmembers := members_other huuids h hitem hsame
    have hcontents' : contents hash (itemStep reading batch item) = contents hash batch := by
      unfold contents
      rw [hmembers]
    cases hunstored with
    | empty hnone => exact .empty (hmembers.trans hnone)
    | one first hhead hopen hcontents hgroup =>
      refine .one first (hmembers ▸ hhead) hopen (hcontents' ▸ hcontents) ?_
      rwa [hmembers, planGroup_other huuids h hitem hfits hsame (head_mem hhead)]
    | two first second group hne hhead hopen hsecond hheld hgroup hgroup' front back hruns hfront hback hpair hcontents =>
      have hkeeps : ∀ pending ∈ members hash batch, batch.planGroup pending.source.id = some group →
          (itemStep reading batch item).planGroup pending.source.id = some group := by
        intro pending hpending hbefore
        rwa [planGroup_other huuids h hitem hfits hsame hpending]
      exact .two first second group hne (hmembers ▸ hhead) hopen (hmembers ▸ hsecond) hheld (hkeeps first (head_mem hhead) hgroup)
        (hkeeps second (List.mem_of_find?_eq_some hsecond) hgroup') front back (hcontents'.trans hruns) hfront hback
        (hcontents' ▸ hpair) hcontents
    | split first second group other hsplit hruns =>
      obtain ⟨group', hlater⟩ := hsplit.step huuids h hitem
      exact .split first second group' other hlater (hcontents' ▸ hruns)

end

end InkTime.Scan
