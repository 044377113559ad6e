import InkTime.Batches.Closed
import InkTime.Batches.Shards

/-!
# A batch in shards

`_prepare_shards` keeps the first shard in the batch and moves the others into child batches. The column
`estimated_cost`, which the tables leave out, stands beside them; its prices are exact.
-/

namespace InkTime.Batches

open Checked

structure Priced where
  db : Db
  estimatedCost : String → ℚ

inductive PrepareError where
  | unknownPhoto (photoId : String)
  | unknownBatch (batchId : String)
  | stream (error : StreamError)
  | repository (error : BatchError)

/-- `str(value)` of a text or `None` -/
def strOf : Option String → String
  | none => "None"
  | some text => text

def totalItemsOf (db : Db) (batchId : String) : Nat := ((db.batches.find batchId).map fun batch => batch.state.totalItems).getD 0

/-- `create_child_batch` with the prices it stores. -/
def Priced.createChildBatch (priced : Priced) (parentId childId : String) (itemIds : List String) (totalItems : Nat) :
    Except BatchError (Priced × Nat) := do
  let (db, count) ← InkTime.Batches.createChildBatch priced.db parentId childId itemIds totalItems
  let parentItems := totalItemsOf priced.db parentId
  let price := priced.estimatedCost parentId
  .ok ({ db, estimatedCost := fun batchId =>
    if batchId = parentId then price * (parentItems - itemIds.length) / max 1 parentItems
    else if batchId = childId then price * totalItems / max 1 parentItems
    else priced.estimatedCost batchId }, count)

/-- `by_photo[photo_id]`, where the last row of a photo counts. -/
def byPhoto (items : List Item) (photoId : String) : Except PrepareError Item :=
  orError (items.reverse.find? fun item => strOf item.photoId == photoId) (.unknownPhoto photoId)

/-- One turn of `for index, shard in enumerate(shards)`; an error carries what is committed by then. -/
def splitShard (batchId : String) (uuid : Nat → String) (state : Priced × List String) (entry : Shard × Nat) :
    Except (PrepareError × Priced) (Priced × List String) :=
  let (priced, batchIds) := state
  let (shard, index) := entry
  if index = 0 then
    if (priced.db.batches.find batchId).isSome then .ok (priced, batchIds ++ [batchId])
    else .error (.unknownBatch batchId, priced)
  else
    match priced.createChildBatch batchId (uuid index) shard.items shard.itemsCount with
    | .ok (priced, _) => .ok (priced, batchIds ++ [uuid index])
    | .error error => .error (.repository error, priced)

/-- The paths that the batches keep and the moves of their files are left out. -/
def prepareShards {κ : Type} (priced : Priced) (root : Files) (batchId : String) (candidates : List κ) (photo : κ → String)
    (factory : κ × Item → LineResult) (maxItems maxBytes : ℤ) (uuid : Nat → String) :
    Except (PrepareError × Priced) (Priced × List String) :=
  let items := itemsOf priced.db batchId
  match candidates.mapM fun candidate => (byPhoto items (photo candidate)).map fun item => (candidate, item) with
  | .error error => .error (error, priced)
  | .ok streamItems =>
    match (streamJsonlShards root streamItems (fun item => item.2.id) factory maxItems maxBytes "input").2 with
    | .error error => .error (.stream error, priced)
    | .ok shards => shards.zipIdx.foldlM (splitShard batchId uuid) (priced, [])

/-! ### One child -/

variable {db db' : Db} {batchId childId : String} {itemIds : List String}

lemma totalItemsOf_of_find {batch : Batch} (h : db.batches.find batchId = some batch) :
    totalItemsOf db batchId = batch.state.totalItems := by
  rw [totalItemsOf, h]
  rfl

lemma nodup_itemIds (db : Db) (matching : Item → Bool) : ((db.items.rows.filter matching).map Item.id).Nodup :=
  db.items.distinct.sublist (List.filter_sublist.map Item.id)

/-- The rows of another batch after some rows went to the child. -/
lemma itemsOf_moveItems_ne (h : batchId ≠ childId) :
    itemsOf (db.moveItems (fun item => itemIds.contains item.id) childId) batchId =
      (itemsOf db batchId).filter fun item => !itemIds.contains item.id := by
  change (db.items.rows.map (Table.revise _ _)).filter _ = (db.items.rows.filter _).filter _
  rw [List.filter_filter]
  generalize db.items.rows = rows
  induction rows with
  | nil => rfl
  | cons item rows ih =>
    by_cases hnamed : item.id ∈ itemIds
    · simpa [Table.revise, List.filter_cons, hnamed, h.symm] using ih
    · by_cases hbatch : item.batchId = batchId
      · simpa [Table.revise, List.filter_cons, hnamed, hbatch] using ih
      · simpa [Table.revise, List.filter_cons, hnamed, hbatch] using ih

/-- A child that had no rows has the rows that went to it. -/
lemma itemsOf_moveItems_self (h : ∀ item ∈ db.items, item.batchId ≠ childId) :
    itemsOf (db.moveItems (fun item => itemIds.contains item.id) childId) childId =
      (db.items.rows.filter fun item => itemIds.contains item.id).map fun item => { item with batchId := childId } := by
  change (db.items.rows.map (Table.revise _ _)).filter _ = _
  have hrows : ∀ item ∈ db.items.rows, item.batchId ≠ childId := h
  generalize db.items.rows = rows at hrows ⊢
  induction rows with
  | nil => rfl
  | cons item rows ih =>
    have hrest := ih fun other hother => hrows other (List.mem_cons_of_mem _ hother)
    have hitem := hrows item List.mem_cons_self
    by_cases hnamed : item.id ∈ itemIds
    · simpa [Table.revise, List.filter_cons, hnamed] using hrest
    · simpa [Table.revise, List.filter_cons, hnamed, hitem] using hrest

/-- What `create_child_batch` checked. -/
lemma createChildBatch_checked {parentId : String} {totalItems : Int} {count : Nat}
    (h : createChildBatch db parentId childId itemIds totalItems = .ok (db', count)) :
    itemIds ≠ [] ∧ itemIds.length ≤ totalItemsOf db parentId ∧
      ((db.items.rows.filter fun item => itemIds.contains item.id).map Item.id).Perm itemIds := by
  obtain ⟨_, hne, h⟩ := bind_eq_ok.mp h
  obtain ⟨parent, hparent, h⟩ := bind_eq_ok.mp h
  obtain ⟨_, hselected, h⟩ := bind_eq_ok.mp h
  obtain ⟨_, hcounts, -⟩ := bind_eq_ok.mp h
  rw [require_eq_ok] at hne hselected hcounts
  rw [beq_iff_eq] at hselected
  simp only [Bool.and_eq_true, decide_eq_true_eq] at hcounts
  have hsubset : ((db.items.rows.filter fun item => itemIds.contains item.id).map Item.id) ⊆ itemIds := by
    intro id hid
    obtain ⟨item, hitem, rfl⟩ := List.mem_map.mp hid
    simpa using (List.mem_filter.mp hitem).2
  have hlength : itemIds.length ≤ ((db.items.rows.filter fun item => itemIds.contains item.id).map Item.id).length := by
    rw [List.length_map, ← List.countP_eq_length_filter, ← hselected]
    exact List.countP_mono_left fun item _ hitem => (Bool.and_eq_true _ _ ▸ hitem).2
  refine ⟨by simpa using hne, ?_, ((nodup_itemIds _ _).subperm hsubset).perm_of_length_le hlength⟩
  rw [totalItemsOf_of_find (orError_eq_ok.mp hparent)]
  exact hcounts.2

lemma priced_createChildBatch_ok {priced priced' : Priced} {parentId : String} {totalItems count : Nat}
    (h : priced.createChildBatch parentId childId itemIds totalItems = .ok (priced', count)) :
    createChildBatch priced.db parentId childId itemIds totalItems = .ok (priced'.db, count) ∧
    priced'.estimatedCost = fun batchId =>
      if batchId = parentId then
        priced.estimatedCost parentId * (totalItemsOf priced.db parentId - itemIds.length) / max 1 (totalItemsOf priced.db parentId)
      else if batchId = childId then
        priced.estimatedCost parentId * totalItems / max 1 (totalItemsOf priced.db parentId)
      else priced.estimatedCost batchId := by
  obtain ⟨⟨db, rows⟩, hcreate, h⟩ := bind_eq_ok.mp h
  obtain ⟨rfl, rfl⟩ := Prod.mk.inj (Except.ok.inj h)
  exact ⟨hcreate, rfl⟩

/-! ### The batch and its children -/

/-- Every row belongs to a batch, as its foreign key says. -/
def RowsOwned (db : Db) : Prop := ∀ item ∈ db.items, (db.batches.find item.batchId).isSome = true

/-- The batch counts its rows. -/
def Counted (db : Db) (batchId : String) : Prop :=
  ∃ batch, db.batches.find batchId = some batch ∧ batch.state.totalItems = (itemsOf db batchId).length

/-- What a batch and its children hold after some shards moved; `children` lists what each child was given. -/
structure Splitting (before : Priced) (batchId : String) (children : List (String × List String)) (now : Priced) : Prop where
  distinct : (batchId :: children.map Prod.fst).Nodup
  counted : ∀ id ∈ batchId :: children.map Prod.fst, Counted now.db id
  owned : RowsOwned now.db
  left : ((itemsOf now.db batchId).map Item.id ++ (children.map Prod.snd).flatten).Perm
    ((itemsOf before.db batchId).map Item.id)
  taken : ∀ child ∈ children, ((itemsOf now.db child.1).map Item.id).Perm child.2
  cost : now.estimatedCost batchId + (children.map fun child => now.estimatedCost child.1).sum = before.estimatedCost batchId

lemma Counted.totalItemsOf_eq (h : Counted db batchId) : totalItemsOf db batchId = (itemsOf db batchId).length := by
  obtain ⟨batch, hfind, hcount⟩ := h
  rw [totalItemsOf_of_find hfind, hcount]

lemma Splitting.start {priced : Priced} (hcounted : Counted priced.db batchId) (howned : RowsOwned priced.db) :
    Splitting priced batchId [] priced where
  distinct := List.nodup_singleton _
  counted := by simpa using hcounted
  owned := howned
  left := by simp
  taken := by simp
  cost := by simp

/-- The rows a child was given, and those the others keep. -/
lemma createChildBatch_rows {parentId : String} {totalItems : Int} {count : Nat} (howned : RowsOwned db)
    (h : createChildBatch db parentId childId itemIds totalItems = .ok (db', count)) :
    ((itemsOf db' childId).map Item.id).Perm itemIds ∧
    ((itemsOf db' parentId).map Item.id ++ itemIds).Perm ((itemsOf db parentId).map Item.id) ∧
    ∀ batch ∈ db.batches, batch.id ≠ parentId → itemsOf db' batch.id = itemsOf db batch.id := by
  obtain ⟨-, -, hnamed⟩ := createChildBatch_checked h
  obtain ⟨parent, batches, hparent, hparentRows, hbatches, rfl⟩ := createChildBatch_ok h
  have hfresh : ∀ item ∈ db.items, item.batchId ≠ childId := by
    intro item hitem heq
    obtain ⟨batch, hfind⟩ := Option.isSome_iff_exists.mp (howned item hitem)
    obtain ⟨hmem, hid⟩ := Table.find_eq_some hfind
    exact Table.insert_fresh hbatches hmem (hid.trans heq)
  have hchild : (itemsOf (db.moveItems (fun item => itemIds.contains item.id) childId) childId).map Item.id =
      (db.items.rows.filter fun item => itemIds.contains item.id).map Item.id := by
    rw [itemsOf_moveItems_self hfresh, List.map_map]
    rfl
  refine ⟨?_, ?_, ?_⟩
  · change ((itemsOf (db.moveItems _ childId) childId).map Item.id).Perm itemIds
    rw [hchild]
    exact hnamed
  · obtain ⟨hmem, hid⟩ := Table.find_eq_some hparent
    have hne : parentId ≠ childId := fun heq => Table.insert_fresh hbatches hmem (hid.trans heq)
    have hsplit : (db.items.rows.filter fun item => itemIds.contains item.id) =
        (itemsOf db parentId).filter fun item => itemIds.contains item.id := by
      rw [itemsOf, List.filter_filter]
      apply List.filter_congr
      intro item hitem
      cases hin : itemIds.contains item.id with
      | true => rw [hparentRows item hitem hin, beq_self_eq_true, Bool.and_self]
      | false => rw [Bool.false_and]
    change ((itemsOf (db.moveItems _ childId) parentId).map Item.id ++ itemIds).Perm _
    rw [itemsOf_moveItems_ne hne]
    rw [hsplit] at hnamed
    refine (hnamed.symm.append_left _).trans ?_
    rw [← List.map_append]
    exact ((List.perm_append_comm).trans (List.filter_append_perm _ _)).map _
  · intro batch hbatch hne
    change itemsOf (db.moveItems _ childId) batch.id = _
    rw [itemsOf_moveItems_ne (Table.insert_fresh hbatches hbatch)]
    apply List.filter_eq_self.mpr
    intro item hitem
    obtain ⟨hrow, hbatchId⟩ := List.mem_filter.mp hitem
    rw [Bool.not_eq_true', Bool.eq_false_iff]
    intro hin
    exact hne ((beq_iff_eq.mp hbatchId).symm.trans (hparentRows item hrow hin))

/-- The batches after a child was made. -/
lemma createChildBatch_find {parentId : String} {totalItems : Int} {count : Nat}
    (h : createChildBatch db parentId childId itemIds totalItems = .ok (db', count)) :
    db.batches.find childId = none ∧
    (∃ child, db'.batches.find childId = some child ∧ child.state.totalItems = totalItems.toNat) ∧
    (∃ parent, db'.batches.find parentId = some parent ∧
      parent.state.totalItems = totalItemsOf db parentId - itemIds.length) ∧
    ∀ id, id ≠ parentId → id ≠ childId → db'.batches.find id = db.batches.find id := by
  obtain ⟨parent, batches, hparent, -, hbatches, rfl⟩ := createChildBatch_ok h
  have hfresh : db.batches.find childId = none := by
    cases hfind : db.batches.find childId with
    | none => rfl
    | some batch =>
      obtain ⟨hmem, hid⟩ := Table.find_eq_some hfind
      exact absurd hid (Table.insert_fresh hbatches hmem)
  have hne : childId ≠ parentId := by
    rintro rfl
    rw [hfresh] at hparent
    cases hparent
  have hafter : ∀ id, ((({ db with batches } : Db).moveItems (fun item => itemIds.contains item.id) childId).setBatches
      (fun batch => batch.id == parentId) (BatchState.resized (parent.state.totalItems - itemIds.length))).batches.find id =
      (batches.find id).map (Table.revise (fun batch => batch.id == parentId)
        fun batch => { batch with state := BatchState.resized (parent.state.totalItems - itemIds.length) batch.state }) :=
    fun id => Table.find_update batches (fun batch => batch.id == parentId)
      (fun batch => { batch with state := BatchState.resized (parent.state.totalItems - itemIds.length) batch.state })
      (fun _ => rfl) id
  refine ⟨hfresh, ?_, ?_, ?_⟩
  · have hchild := Table.find_of_mem ((Table.mem_insert hbatches).mpr (.inr rfl))
    rw [hafter, hchild, Option.map_some, Table.revise, if_neg (by simpa using hne)]
    exact ⟨_, rfl, rfl⟩
  · rw [hafter, Table.find_insert_ne hbatches hne, hparent, Option.map_some, Table.revise,
      if_pos (by simpa using (Table.find_eq_some hparent).2), totalItemsOf_of_find hparent]
    exact ⟨_, rfl, rfl⟩
  · intro id hparentId hchildId
    rw [hafter, Table.find_insert_ne hbatches (Ne.symm hchildId)]
    cases hfind : db.batches.find id with
    | none => rfl
    | some batch =>
      rw [Option.map_some, Table.revise, if_neg]
      rw [(Table.find_eq_some hfind).2]
      simpa using hparentId

lemma createChildBatch_rowsOwned {parentId : String} {totalItems : Int} {count : Nat} (howned : RowsOwned db)
    (h : createChildBatch db parentId childId itemIds totalItems = .ok (db', count)) : RowsOwned db' := by
  obtain ⟨-, ⟨child, hchild, -⟩, ⟨parent, hparent, -⟩, hothers⟩ := createChildBatch_find h
  obtain ⟨_, batches, -, -, -, hdb⟩ := createChildBatch_ok h
  intro item hitem
  by_cases hisChild : item.batchId = childId
  · rw [hisChild, hchild]
    rfl
  · by_cases hisParent : item.batchId = parentId
    · rw [hisParent, hparent]
      rfl
    · rw [hothers _ hisParent hisChild]
      rw [hdb] at hitem
      have hmoved : item ∈ db.items.update (fun item => itemIds.contains item.id)
          (fun item => { item with batchId := childId }) fun _ => rfl := hitem
      obtain ⟨old, hold, hrevised⟩ := Table.mem_update.mp hmoved
      unfold Table.revise at hrevised
      split at hrevised
      · rw [← hrevised] at hisChild
        exact absurd rfl hisChild
      · rw [← hrevised]
        exact howned old hold

/-- A child takes its rows and its share of the price from the batch. -/
lemma Splitting.child {before now next : Priced} {children : List (String × List String)} {count : Nat}
    (h : Splitting before batchId children now)
    (hcreate : now.createChildBatch batchId childId itemIds itemIds.length = .ok (next, count)) :
    Splitting before batchId (children ++ [(childId, itemIds)]) next := by
  obtain ⟨hcall, hcost⟩ := priced_createChildBatch_ok hcreate
  obtain ⟨hne, hroom, -⟩ := createChildBatch_checked hcall
  obtain ⟨hfresh, ⟨child, hchild, hchildCount⟩, ⟨parent, hparent, hparentCount⟩, hothers⟩ := createChildBatch_find hcall
  obtain ⟨hchildRows, hparentRows, hotherRows⟩ := createChildBatch_rows h.owned hcall
  have hnew : ∀ id ∈ batchId :: children.map Prod.fst, id ≠ childId := by
    rintro id hid rfl
    obtain ⟨batch, hfind, -⟩ := h.counted id hid
    rw [hfresh] at hfind
    cases hfind
  have hold : ∀ id ∈ children.map Prod.fst, id ≠ batchId := by
    rintro id hid rfl
    exact (List.nodup_cons.mp h.distinct).1 hid
  have hsame : ∀ id ∈ children.map Prod.fst,
      next.db.batches.find id = now.db.batches.find id ∧ itemsOf next.db id = itemsOf now.db id := by
    intro id hid
    refine ⟨hothers id (hold id hid) (hnew id (List.mem_cons_of_mem _ hid)), ?_⟩
    obtain ⟨batch, hfind, -⟩ := h.counted id (List.mem_cons_of_mem _ hid)
    obtain ⟨hmem, rfl⟩ := Table.find_eq_some hfind
    exact hotherRows batch hmem (hold _ hid)
  refine ⟨?_, ?_, createChildBatch_rowsOwned h.owned hcall, ?_, ?_, ?_⟩
  · rw [List.map_append, ← List.cons_append, List.nodup_append]
    refine ⟨h.distinct, List.nodup_singleton _, ?_⟩
    intro id hid other hother
    rw [List.map_singleton, List.mem_singleton] at hother
    rw [hother]
    exact hnew id hid
  · intro id hid
    rw [List.map_append, ← List.cons_append, List.mem_append, List.mem_cons] at hid
    obtain (rfl | hid) | hid := hid
    · refine ⟨parent, hparent, ?_⟩
      have hlength := hparentRows.length_eq
      rw [List.length_append, List.length_map, List.length_map] at hlength
      rw [hparentCount, (h.counted id List.mem_cons_self).totalItemsOf_eq]
      omega
    · obtain ⟨batch, hfind, hcount⟩ := h.counted id (List.mem_cons_of_mem _ hid)
      obtain ⟨hfindSame, hrowsSame⟩ := hsame id hid
      exact ⟨batch, hfindSame.trans hfind, by rw [hcount, hrowsSame]⟩
    · rw [List.map_singleton, List.mem_singleton] at hid
      rw [hid]
      have hlength := hchildRows.length_eq
      rw [List.length_map] at hlength
      exact ⟨child, hchild, by rw [hchildCount, Int.toNat_natCast, hlength]⟩
  · rw [List.map_append, List.flatten_append, List.map_singleton, List.flatten_singleton]
    refine .trans ?_ h.left
    refine .trans ?_ (hparentRows.append_right _)
    rw [List.append_assoc]
    exact List.perm_append_comm.append_left _
  · intro other hother
    obtain hother | hother := List.mem_append.mp hother
    · rw [(hsame _ (List.mem_map_of_mem hother)).2]
      exact h.taken other hother
    · rw [List.mem_singleton.mp hother]
      exact hchildRows
  · have hitems : 0 < itemIds.length := List.length_pos_of_ne_nil hne
    have hpositive : (0 : ℚ) < totalItemsOf now.db batchId := by exact_mod_cast (by omega : 0 < totalItemsOf now.db batchId)
    have hmax : max 1 (totalItemsOf now.db batchId) = totalItemsOf now.db batchId := max_eq_right (by omega)
    have hkept : (children.map fun other => next.estimatedCost other.1) =
        children.map fun other => now.estimatedCost other.1 := by
      apply List.map_congr_left
      intro other hother
      have hmem := List.mem_map_of_mem (f := Prod.fst) hother
      rw [hcost]
      dsimp only
      rw [if_neg (hold _ hmem), if_neg (hnew _ (List.mem_cons_of_mem _ hmem))]
    have hchildCost : next.estimatedCost childId =
        now.estimatedCost batchId * itemIds.length / totalItemsOf now.db batchId := by
      rw [hcost]
      dsimp only
      rw [if_neg (hnew batchId List.mem_cons_self).symm, if_pos rfl, hmax]
    have hparentCost : next.estimatedCost batchId =
        now.estimatedCost batchId * (totalItemsOf now.db batchId - itemIds.length) / totalItemsOf now.db batchId := by
      rw [hcost]
      dsimp only
      rw [if_pos rfl, hmax]
    rw [List.map_append, List.sum_append, List.map_singleton, List.sum_singleton, hkept, hchildCost, hparentCost, ← h.cost]
    field_simp
    ring

lemma foldlM_splitShard {before now after : Priced} {uuid : Nat → String} {entries : List (Shard × Nat)}
    {children : List (String × List String)} {batchIds : List String}
    (hentries : ∀ entry ∈ entries, entry.2 ≠ 0 ∧ entry.1.itemsCount = entry.1.items.length)
    (hrun : entries.foldlM (splitShard batchId uuid) (now, batchId :: children.map Prod.fst) = .ok (after, batchIds))
    (h : Splitting before batchId children now) :
    ∃ more, more.map Prod.snd = entries.map (fun entry => entry.1.items) ∧
      Splitting before batchId (children ++ more) after ∧ batchIds = batchId :: (children ++ more).map Prod.fst := by
  induction entries generalizing now children with
  | nil =>
    obtain ⟨rfl, rfl⟩ := Prod.mk.inj (Except.ok.inj hrun)
    exact ⟨[], rfl, by rwa [List.append_nil], by rw [List.append_nil]⟩
  | cons entry entries ih =>
    obtain ⟨shard, index⟩ := entry
    obtain ⟨hindex, hcount⟩ := hentries _ List.mem_cons_self
    obtain ⟨⟨next, nextIds⟩, hturn, hrest⟩ := bind_eq_ok.mp hrun
    unfold splitShard at hturn
    dsimp only at hturn hindex hcount
    rw [if_neg hindex] at hturn
    split at hturn
    · next created count hcreate =>
      obtain ⟨rfl, rfl⟩ := Prod.mk.inj (Except.ok.inj hturn)
      rw [hcount] at hcreate
      have hids : batchId :: children.map Prod.fst ++ [uuid index] =
          batchId :: (children ++ [(uuid index, shard.items)]).map Prod.fst := by simp
      rw [hids] at hrest
      obtain ⟨more, hmore, hsplitting, hbatchIds⟩ :=
        ih (fun other hother => hentries other (List.mem_cons_of_mem _ hother)) hrest (h.child hcreate)
      refine ⟨(uuid index, shard.items) :: more, by simp [hmore], ?_, ?_⟩
      · rwa [List.append_assoc] at hsplitting
      · rw [hbatchIds, List.append_assoc]
        rfl
    · cases hturn

/-! ### The whole batch -/

lemma insertItems_rows {items : List NewItem} (h : insertItems batchId db items = .ok db') :
    db'.items.rows = db.items.rows ++ items.map fun item => item.row batchId := by
  induction items generalizing db with
  | nil => rw [← Except.ok.inj h, List.map_nil, List.append_nil]
  | cons item items ih =>
    obtain ⟨next, hnext, h⟩ := bind_eq_ok.mp h
    obtain ⟨table, htable, rfl⟩ := insertItem_ok hnext
    unfold Table.insert at htable
    split at htable
    · cases htable
    · obtain rfl := Option.some.inj htable
      rw [ih h, List.append_assoc, List.singleton_append, List.map_cons]

/-- A batch that `create_with_items` makes counts its rows. -/
lemma createWithItems_counted {jobId : Option String} {status : BatchStatus} {items : List NewItem} {count : Nat}
    (howned : RowsOwned db) (h : createWithItems db batchId jobId status items = .ok (db', count)) :
    RowsOwned db' ∧ Counted db' batchId := by
  obtain ⟨batches, hbatches, hitems⟩ := createWithItems_ok h
  have hrows := insertItems_rows hitems
  have hnew := Table.find_of_mem ((Table.mem_insert hbatches).mpr (.inr rfl))
  have hdb := insertItems_batches hitems
  dsimp only at hrows hdb hnew
  constructor
  · intro item hitem
    rw [Table.mem_iff, hrows, List.mem_append] at hitem
    rw [hdb]
    obtain hold | hadded := hitem
    · obtain ⟨batch, hfind⟩ := Option.isSome_iff_exists.mp (howned item hold)
      obtain ⟨hmem, hid⟩ := Table.find_eq_some hfind
      rw [Table.find_insert_ne hbatches (hid ▸ (Table.insert_fresh hbatches hmem).symm), hfind]
      rfl
    · obtain ⟨added, -, rfl⟩ := List.mem_map.mp hadded
      change (batches.find batchId).isSome = true
      rw [hnew]
      rfl
  · refine ⟨_, by rw [hdb]; exact hnew, ?_⟩
    have hold : itemsOf db batchId = [] := by
      rw [itemsOf, List.filter_eq_nil_iff]
      intro item hitem hbatch
      obtain ⟨batch, hfind⟩ := Option.isSome_iff_exists.mp (howned item hitem)
      obtain ⟨hmem, hid⟩ := Table.find_eq_some hfind
      exact Table.insert_fresh hbatches hmem (hid.trans (beq_iff_eq.mp hbatch))
    have hadded : (items.map fun item => item.row batchId).filter (fun item => item.batchId == batchId) =
        items.map fun item => item.row batchId := by
      apply List.filter_eq_self.mpr
      intro item hitem
      obtain ⟨added, -, rfl⟩ := List.mem_map.mp hitem
      exact beq_self_eq_true batchId
    rw [itemsOf] at hold
    rw [itemsOf, hrows, List.filter_append, hold, hadded, List.nil_append, List.length_map]

/-- What `_prepare_shards` keeps of the batch it splits. -/
structure Prepared (before : Priced) (batchId : String) (after : Priced) (batchIds : List String) : Prop where
  distinct : batchIds.Nodup
  placed : ∀ item ∈ itemsOf before.db batchId, ∃! id, id ∈ batchIds ∧ item.id ∈ (itemsOf after.db id).map Item.id
  counted : ∀ id ∈ batchIds, Counted after.db id
  total : (batchIds.map (totalItemsOf after.db)).sum = totalItemsOf before.db batchId
  cost : (batchIds.map after.estimatedCost).sum = before.estimatedCost batchId

lemma Splitting.prepared {before after : Priced} {children : List (String × List String)}
    (h : Splitting before batchId children after) (hcounted : Counted before.db batchId) :
    Prepared before batchId after (batchId :: children.map Prod.fst) where
  distinct := h.distinct
  counted := h.counted
  cost := by
    rw [List.map_cons, List.sum_cons, List.map_map]
    exact h.cost
  placed := by
    intro item hitem
    have hmem : item.id ∈ (itemsOf after.db batchId).map Item.id ++ (children.map Prod.snd).flatten :=
      h.left.mem_iff.mpr (List.mem_map_of_mem hitem)
    have hplace : ∃ id ∈ batchId :: children.map Prod.fst, item.id ∈ (itemsOf after.db id).map Item.id := by
      obtain hparent | hchild := List.mem_append.mp hmem
      · exact ⟨batchId, List.mem_cons_self, hparent⟩
      · obtain ⟨listed, hlisted, hin⟩ := List.mem_flatten.mp hchild
        obtain ⟨child, hchild, rfl⟩ := List.mem_map.mp hlisted
        exact ⟨child.1, List.mem_cons_of_mem _ (List.mem_map_of_mem hchild), (h.taken child hchild).mem_iff.mpr hin⟩
    obtain ⟨id, hid, hin⟩ := hplace
    refine ⟨id, ⟨hid, hin⟩, ?_⟩
    rintro other ⟨-, hother⟩
    obtain ⟨row, hrow, hrowId⟩ := List.mem_map.mp hin
    obtain ⟨otherRow, hotherRow, hotherId⟩ := List.mem_map.mp hother
    obtain ⟨hrowMem, hrowBatch⟩ := List.mem_filter.mp hrow
    obtain ⟨hotherMem, hotherBatch⟩ := List.mem_filter.mp hotherRow
    have hsame : otherRow = row := Table.eq_of_key_eq hotherMem hrowMem (hotherId.trans hrowId.symm)
    rw [hsame] at hotherBatch
    exact (beq_iff_eq.mp hotherBatch).symm.trans (beq_iff_eq.mp hrowBatch)
  total := by
    have htotals : (batchId :: children.map Prod.fst).map (totalItemsOf after.db) =
        (batchId :: children.map Prod.fst).map fun id => (itemsOf after.db id).length :=
      List.map_congr_left fun id hid => (h.counted id hid).totalItemsOf_eq
    have hchildren : (children.map Prod.fst).map (fun id => (itemsOf after.db id).length) =
        (children.map Prod.snd).map List.length := by
      rw [List.map_map, List.map_map]
      apply List.map_congr_left
      intro child hchild
      have hlength := (h.taken child hchild).length_eq
      rwa [List.length_map] at hlength
    have hlength := h.left.length_eq
    rw [List.length_append, List.length_map, List.length_map, List.length_flatten] at hlength
    rw [htotals, List.map_cons, List.sum_cons, hchildren, hcounted.totalItemsOf_eq, hlength]

lemma byPhoto_ok {items : List Item} {photoId : String} {item : Item} (h : byPhoto items photoId = .ok item) :
    item ∈ items ∧ strOf item.photoId = photoId := by
  have hfind := orError_eq_ok.mp h
  exact ⟨List.mem_reverse.mp (List.mem_of_find?_eq_some hfind), by simpa using List.find?_some hfind⟩

lemma mapM_byPhoto_ok {κ : Type} {photo : κ → String} {items : List Item} {candidates : List κ} {pairs : List (κ × Item)}
    (h : candidates.mapM (fun candidate => (byPhoto items (photo candidate)).map fun item => (candidate, item)) = .ok pairs) :
    (pairs.map fun pair => strOf pair.2.photoId) = candidates.map photo ∧ ∀ pair ∈ pairs, pair.2 ∈ items := by
  induction candidates generalizing pairs with
  | nil =>
    obtain rfl := Except.ok.inj h
    exact ⟨rfl, by simp⟩
  | cons candidate candidates ih =>
    rw [List.mapM_cons] at h
    obtain ⟨pair, hpair, h⟩ := bind_eq_ok.mp h
    obtain ⟨rest, hrest, h⟩ := bind_eq_ok.mp h
    obtain rfl := Except.ok.inj h
    cases hfound : byPhoto items (photo candidate) with
    | error error =>
      rw [hfound] at hpair
      cases hpair
    | ok item =>
      rw [hfound] at hpair
      obtain rfl := Except.ok.inj hpair
      obtain ⟨hmem, hphoto⟩ := byPhoto_ok hfound
      obtain ⟨hphotos, hmems⟩ := ih hrest
      refine ⟨by rw [List.map_cons, List.map_cons, hphotos, hphoto], ?_⟩
      intro other hother
      obtain rfl | hother := List.mem_cons.mp hother
      · exact hmem
      · exact hmems other hother

/-- The photos of the batch, each once, are the rows of the batch, each once. -/
lemma perm_of_photos {items selected : List Item} (hmem : ∀ item ∈ selected, item ∈ items)
    (hdistinct : (items.map fun item => strOf item.photoId).Nodup)
    (hphotos : (selected.map fun item => strOf item.photoId).Perm (items.map fun item => strOf item.photoId)) :
    selected.Perm items := by
  have hnodup : selected.Nodup := List.Nodup.of_map _ (hphotos.nodup_iff.mpr hdistinct)
  have hlength := hphotos.length_eq
  rw [List.length_map, List.length_map] at hlength
  exact (hnodup.subperm hmem).perm_of_length_le hlength.ge

lemma Sharded.items_eq {α : Type} {idOf : α → String} {lineFactory : α → LineResult} {maxItems maxBytes : Nat} {items : List α}
    {files : Files} {shards : List Shard} {groups : List (List α)}
    (h : Sharded idOf lineFactory maxItems maxBytes items files shards groups) :
    (shards.map Shard.items).flatten = items.map idOf ∧ ∀ shard ∈ shards, shard.itemsCount = shard.items.length := by
  have hlisted := h.listed
  rw [← h.order]
  clear h
  induction hlisted with
  | nil => exact ⟨rfl, by simp⟩
  | cons hshard _ ih =>
    obtain ⟨hitems, hcount, -⟩ := hshard
    refine ⟨by simp [hitems, ih.1], ?_⟩
    intro shard hmem
    obtain rfl | hmem := List.mem_cons.mp hmem
    · rw [hcount, hitems, List.length_map]
    · exact ih.2 shard hmem

lemma forall₂_of_taken {P : String → List String → Prop} {children : List (String × List String)} {shards : List Shard}
    (hlisted : children.map Prod.snd = shards.map Shard.items) (h : ∀ child ∈ children, P child.1 child.2) :
    List.Forall₂ (fun id shard => P id shard.items) (children.map Prod.fst) shards := by
  induction children generalizing shards with
  | nil =>
    rw [List.map_eq_nil_iff.mp hlisted.symm]
    exact .nil
  | cons child children ih =>
    cases shards with
    | nil => cases hlisted
    | cons shard shards =>
      obtain ⟨hitems, hrest⟩ := List.cons.inj hlisted
      exact .cons (hitems ▸ h child List.mem_cons_self) (ih hrest fun other hother => h other (List.mem_cons_of_mem _ hother))

/-- A batch that counts its rows is split along its shards. -/
lemma prepareShards_ok {κ : Type} {before after : Priced} {root : Files} {candidates : List κ} {photo : κ → String}
    {factory : κ × Item → LineResult} {maxItems maxBytes : ℤ} {uuid : Nat → String} {batchIds : List String}
    (h : prepareShards before root batchId candidates photo factory maxItems maxBytes uuid = .ok (after, batchIds))
    (howned : RowsOwned before.db) (hcounted : Counted before.db batchId)
    (hdistinct : ((itemsOf before.db batchId).map fun item => strOf item.photoId).Nodup)
    (hcandidates : (candidates.map photo).Perm ((itemsOf before.db batchId).map fun item => strOf item.photoId))
    (hsome : candidates ≠ []) :
    Prepared before batchId after batchIds ∧
    ∃ streamItems files shards, (streamItems.map Prod.snd).Perm (itemsOf before.db batchId) ∧
      streamJsonlShards root streamItems (fun item => item.2.id) factory maxItems maxBytes "input" = (files, .ok shards) ∧
      List.Forall₂ (fun id shard => ((itemsOf after.db id).map Item.id).Perm shard.items) batchIds shards := by
  unfold prepareShards at h
  dsimp only at h
  split at h
  · cases h
  · next pairs hpairs =>
    obtain ⟨hphotos, hmems⟩ := mapM_byPhoto_ok hpairs
    have hselected : (pairs.map Prod.snd).Perm (itemsOf before.db batchId) := by
      refine perm_of_photos ?_ hdistinct ?_
      · intro item hitem
        obtain ⟨pair, hpair, rfl⟩ := List.mem_map.mp hitem
        exact hmems pair hpair
      · rw [List.map_map]
        exact (List.Perm.of_eq hphotos).trans hcandidates
    cases hstream : streamJsonlShards root pairs (fun item => item.2.id) factory maxItems maxBytes "input" with
    | mk files result =>
      rw [hstream] at h
      cases result with
      | error error => cases h
      | ok shards =>
        dsimp only at h
        obtain ⟨groups, hgroups⟩ := (streamJsonlShards_spec root pairs (fun item => item.2.id) factory maxItems maxBytes
          "input").1 files shards hstream
        obtain ⟨hflatten, hcounts⟩ := hgroups.items_eq
        have hids : ((shards.map Shard.items).flatten).Perm ((itemsOf before.db batchId).map Item.id) := by
          rw [hflatten, ← Function.comp_def Item.id Prod.snd, ← List.map_map]
          exact hselected.map _
        cases shards with
        | nil =>
          have hempty : (itemsOf before.db batchId).map Item.id = [] := List.perm_nil.mp hids.symm
          rw [List.map_eq_nil_iff.mp hempty] at hcandidates
          exact absurd (List.map_eq_nil_iff.mp (List.perm_nil.mp hcandidates)) hsome
        | cons shard shards =>
          rw [List.zipIdx_cons] at h
          obtain ⟨⟨now, ids⟩, hfirst, hrest⟩ := bind_eq_ok.mp h
          unfold splitShard at hfirst
          dsimp only at hfirst
          rw [if_pos rfl] at hfirst
          split at hfirst
          · obtain ⟨rfl, rfl⟩ := Prod.mk.inj (Except.ok.inj hfirst)
            have hentries : ∀ entry ∈ shards.zipIdx 1, entry.2 ≠ 0 ∧ entry.1.itemsCount = entry.1.items.length := by
              rintro ⟨other, index⟩ hentry
              have hindex := List.le_snd_of_mem_zipIdx hentry
              exact ⟨by omega, hcounts other (List.mem_cons_of_mem _ (List.fst_mem_of_mem_zipIdx hentry))⟩
            obtain ⟨more, hmore, hsplitting, rfl⟩ := foldlM_splitShard hentries hrest (Splitting.start hcounted howned)
            rw [List.nil_append] at hsplitting
            refine ⟨hsplitting.prepared hcounted, pairs, files, shard :: shards, hselected, hstream, ?_⟩
            have hchildren : more.map Prod.snd = shards.map Shard.items := by
              rw [hmore, ← List.zipIdx_map_fst 1 shards, List.map_map]
              simp
            have hparent : ((itemsOf after.db batchId).map Item.id).Perm shard.items := by
              have hleft := hsplitting.left.trans hids.symm
              rw [hchildren, List.map_cons, List.flatten_cons] at hleft
              exact (List.perm_append_right_iff _).mp hleft
            rw [List.nil_append]
            exact .cons hparent (forall₂_of_taken hchildren hsplitting.taken)
          · cases hfirst

/-- Shards that are returned cut the items into full groups, an `Exception` leaves no file, and a batch that is split keeps
its rows, its counts and its price. -/
theorem sharding_conserves :
    (∀ {α : Type} (root : Files) (items : List α) (idOf : α → String) (lineFactory : α → LineResult) (maxItems maxBytes : ℤ)
        (pathPrefix : String),
      (∀ files shards, streamJsonlShards root items idOf lineFactory maxItems maxBytes pathPrefix = (files, .ok shards) →
        ∃ groups, Sharded idOf lineFactory (clamped maxOpenaiRequests maxItems) (clamped maxOpenaiBytes maxBytes) items files
          shards groups) ∧
      (∀ files error, streamJsonlShards root items idOf lineFactory maxItems maxBytes pathPrefix = (files, .error error) →
        error.isException = true → ∀ path, files path = none)) ∧
    (∀ {κ : Type} (before after : Priced) (root : Files) (batchId : String) (candidates : List κ) (photo : κ → String)
        (factory : κ × Item → LineResult) (maxItems maxBytes : ℤ) (uuid : Nat → String) (batchIds : List String),
      prepareShards before root batchId candidates photo factory maxItems maxBytes uuid = .ok (after, batchIds) →
      RowsOwned before.db → Counted before.db batchId →
      ((itemsOf before.db batchId).map fun item => strOf item.photoId).Nodup →
      (candidates.map photo).Perm ((itemsOf before.db batchId).map fun item => strOf item.photoId) → candidates ≠ [] →
      Prepared before batchId after batchIds ∧
      ∃ streamItems files shards, (streamItems.map Prod.snd).Perm (itemsOf before.db batchId) ∧
        streamJsonlShards root streamItems (fun item => item.2.id) factory maxItems maxBytes "input" = (files, .ok shards) ∧
        List.Forall₂ (fun id shard => ((itemsOf after.db id).map Item.id).Perm shard.items) batchIds shards) :=
  ⟨fun root items idOf lineFactory maxItems maxBytes pathPrefix =>
    streamJsonlShards_spec root items idOf lineFactory maxItems maxBytes pathPrefix,
  fun _ _ _ _ _ _ _ _ _ _ _ h howned hcounted hdistinct hcandidates hsome =>
    prepareShards_ok h howned hcounted hdistinct hcandidates hsome⟩

/-- A batch of two photos whose price is 3. -/
def twoPhotos : Priced where
  db :=
    { batches := ⟨[{ id := "batch", state := { totalItems := 2 } }], by decide⟩
      items := ⟨[{ id := "i1", batchId := "batch", photoId := some "p1", customId := "c1", contentSha256 := "s1",
                   visionRequestFingerprint := "v" },
                 { id := "i2", batchId := "batch", photoId := some "p2", customId := "c2", contentSha256 := "s2",
                   visionRequestFingerprint := "v" }], by decide⟩
      jobs := ⟨Table.empty, Table.empty, Table.empty⟩ }
  estimatedCost := fun _ => 3

/-- A limit of one item sends the second photo to a child. -/
theorem sharding_conserves_twoPhotos :
    (∃ files shards, streamJsonlShards Files.cleared ["a", "b"] (fun id => id) (fun _ => .line [123, 125]) 1 100 "input" =
        (files, .ok shards) ∧
      ∃ groups, Sharded (fun id => id) (fun _ => .line [123, 125]) (clamped maxOpenaiRequests 1) (clamped maxOpenaiBytes 100)
        ["a", "b"] files shards groups) ∧
    (∃ files, streamJsonlShards Files.cleared ["a"] (fun id => id) (fun _ => .notBytes) 1 100 "input" =
        (files, .error .notBytes) ∧ ∀ path, files path = none) ∧
    ∃ after batchIds, prepareShards twoPhotos Files.cleared "batch" ["p1", "p2"] (fun photo => photo)
        (fun _ => .line [123, 125]) 1 100 (fun _ => "child") = .ok (after, batchIds) ∧
      RowsOwned twoPhotos.db ∧ Counted twoPhotos.db "batch" ∧
      ((itemsOf twoPhotos.db "batch").map fun item => strOf item.photoId).Nodup ∧
      (["p1", "p2"].map fun photo => photo).Perm ((itemsOf twoPhotos.db "batch").map fun item => strOf item.photoId) ∧
      Prepared twoPhotos "batch" after batchIds := by
  refine ⟨⟨_, _, rfl, (sharding_conserves.1 Files.cleared ["a", "b"] (fun id => id) _ 1 100 "input").1 _ _ rfl⟩,
    ⟨_, rfl, (sharding_conserves.1 Files.cleared ["a"] (fun id => id) (fun _ => .notBytes) 1 100 "input").2 _ .notBytes rfl rfl⟩, ?_⟩
  have howned : RowsOwned twoPhotos.db := by
    unfold RowsOwned twoPhotos
    decide
  have hcounted : Counted twoPhotos.db "batch" := ⟨_, rfl, rfl⟩
  have hphotos : ((itemsOf twoPhotos.db "batch").map fun item => strOf item.photoId) = ["p1", "p2"] := by decide
  exact ⟨_, _, rfl, howned, hcounted, by rw [hphotos]; decide, by rw [hphotos]; decide,
    (sharding_conserves.2 twoPhotos _ Files.cleared "batch" ["p1", "p2"] (fun photo => photo) (fun _ => .line [123, 125]) 1 100
      (fun _ => "child") _ rfl howned hcounted (by rw [hphotos]; decide) (by rw [hphotos]; decide) (by decide)).1⟩

/-- The second line ends in a `KeyboardInterrupt`. -/
def interruptedFactory (id : String) : LineResult := if id = "a" then .line [123, 125] else .raised false

/-- The file of the first line stays. -/
theorem interrupt_keeps_file :
    ["a", "b"].Nodup ∧ ∃ files,
      streamJsonlShards Files.cleared ["a", "b"] (fun id => id) interruptedFactory 500 1000 "input" =
        (files, .error (.lineFactory false)) ∧
      files "0001/input.jsonl" = some [123, 125, 10] := by
  exact ⟨by decide, _, rfl, by decide⟩

end InkTime.Batches
