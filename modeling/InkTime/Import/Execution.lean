import InkTime.Import.Interleaving
import InkTime.Import.Reading

/-!
# What a list of transactions does to an item

A run without interference: it goes through unless one of its transactions raises, the status of an item is what the last
write of it says, and a receipt that is written stays.
-/

namespace InkTime.Import

open Json (Value)
open Batches (Item ItemStatus)
open Ledger (Receipt)

def Db.statusOf (db : Db) (itemId : String) : Option ItemStatus := (db.store.items.find itemId).map Item.status

/-- The status of an item after a transaction. -/
def Op.effect (itemId : String) (status : ItemStatus) : Op → ItemStatus
  | .mark id written => if id = itemId then written else status
  | .importItem id _ _ _ _ => if id = itemId ∧ importable status = true then .imported else status
  | _ => status

/-- The transaction may write the status of the item. -/
def Op.writes (itemId : String) : Op → Bool
  | .mark id _ | .importItem id _ _ _ _ => id == itemId
  | _ => false

/-- The transaction may record a receipt of the item. -/
def Op.pays (itemId : String) : Op → Bool
  | .receipt id _ _ _ | .importItem id _ _ _ _ => id == itemId
  | _ => false

/-- Nothing but the transaction itself can stop it. -/
def Op.Able (db : Db) : Op → Prop
  | .receipt _ _ _ paid | .importItem _ _ _ _ paid => Ledger.knownReferences db.ledger paid = true
  | .mark itemId _ => (db.store.items.find itemId).isSome = true
  | _ => True

/-! ### Status -/

section Status

variable {source : Source} {db db' : Db}

lemma setItem_find (db : Db) (itemId : String) {set : Item → Item} (h : ∀ item, (set item).id = item.id) (id : String) :
    (db.setItem itemId set h).store.items.find id =
      (db.store.items.find id).map (Table.revise (fun item => item.id == itemId) set) :=
  Table.find_update _ _ _ h id

/-- An update of one item that sets a status by the old one. -/
lemma setItem_statusOf (db : Db) (itemId : String) {set : Item → Item} (h : ∀ item, (set item).id = item.id) (id : String)
    {f : ItemStatus → ItemStatus} (hset : ∀ item, (set item).status = f item.status) :
    (db.setItem itemId set h).statusOf id = (db.statusOf id).map fun status => if itemId = id then f status else status := by
  rw [Db.statusOf, Db.statusOf, setItem_find]
  cases hfound : db.store.items.find id with
  | none => rfl
  | some item =>
    obtain ⟨-, rfl⟩ := Table.find_eq_some hfound
    simp only [Option.map_some, Table.revise]
    by_cases hid : itemId = item.id
    · rw [if_pos (by simpa using hid.symm), if_pos hid, hset]
    · rw [if_neg (by simpa using Ne.symm hid), if_neg hid]

lemma map_effect_self {itemId : String} {op : Op} {option : Option ItemStatus}
    (h : ∀ status ∈ option, op.effect itemId status = status) : option = option.map fun status => op.effect itemId status := by
  cases option with
  | none => rfl
  | some status => rw [Option.map_some, h status rfl]

theorem exec_statusOf {op : Op} (h : op.exec source db = .ok db') (itemId : String) :
    db'.statusOf itemId = (db.statusOf itemId).map fun status => op.effect itemId status := by
  cases op with
  | problem | failJobItem =>
    obtain rfl := Except.ok.inj h
    exact map_effect_self fun _ _ => rfl
  | receipt id requestId raw receipt =>
    obtain ⟨ledger, -, h⟩ := Checked.bind_eq_ok.mp h
    obtain rfl := Except.ok.inj h
    have hkey : ∀ item : Item, ({ item with
        rawResponseJson := item.rawResponseJson <|> some raw, requestId := item.requestId <|> requestId } : Item).id = item.id :=
      fun _ => rfl
    rw [setItem_statusOf (db.setLedger ledger) id hkey itemId (f := fun status => status) fun _ => rfl]
    simp only [ite_self]
    rfl
  | mark id status =>
    obtain ⟨-, -, h⟩ := Checked.bind_eq_ok.mp h
    obtain rfl := Except.ok.inj h
    have hkey : ∀ item : Item, ({ item with status } : Item).id = item.id := fun _ => rfl
    rw [setItem_statusOf db id hkey itemId (f := fun _ => status) fun _ => rfl]
    rfl
  | importItem id jobItemId requestId raw receipt =>
    simp only [Op.exec] at h
    have hnamed : ∀ item, db.store.items.find id = some item → ∀ status ∈ db.statusOf itemId, id = itemId →
        status = item.status := by
      rintro item hfound status hstatus rfl
      rw [Db.statusOf, hfound] at hstatus
      exact (Option.some.inj hstatus).symm
    split at h
    · next hnone =>
      obtain rfl := Except.ok.inj h
      apply map_effect_self
      intro status hstatus
      refine if_neg ?_
      rintro ⟨rfl, -⟩
      rw [Db.statusOf, hnone] at hstatus
      cases hstatus
    · next item hfound =>
      split at h
      · next hclosed =>
        obtain rfl := Except.ok.inj h
        apply map_effect_self
        intro status hstatus
        refine if_neg ?_
        rintro ⟨hid, himportable⟩
        rw [hnamed item hfound status hstatus hid] at himportable
        simp [himportable] at hclosed
      · next hopen =>
        obtain ⟨ledger, -, h⟩ := Checked.bind_eq_ok.mp h
        have hkey : ∀ item : Item,
            ({ item with status := .imported, requestId, rawResponseJson := some raw } : Item).id = item.id := fun _ => rfl
        have hstored : db'.statusOf itemId = ((db.setLedger ledger).setItem id _ hkey).statusOf itemId := by
          split at h
          · obtain rfl := Except.ok.inj h
            rfl
          · obtain rfl := Except.ok.inj h
            rfl
        rw [hstored, setItem_statusOf (db.setLedger ledger) id hkey itemId (f := fun _ => .imported) fun _ => rfl]
        change (db.statusOf itemId).map _ = _
        apply Option.map_congr
        intro status hstatus
        by_cases hid : id = itemId
        · have himportable : importable status = true := by
            rw [hnamed item hfound status hstatus hid]
            simpa using hopen
          rw [if_pos hid, Op.effect, if_pos ⟨hid, himportable⟩]
        · rw [if_neg hid, Op.effect, if_neg fun hboth => hid hboth.1]
  | raise => cases h

end Status

/-! ### References -/

section References

variable {source : Source} {db db' : Db}

/-- No statement of a run adds or takes away a job or a photo. -/
structure SameReferences (before after : Jobs.Db) : Prop where
  jobs : ∀ jobId, (after.jobs.find jobId).isSome = (before.jobs.find jobId).isSome
  photos : after.photos = before.photos

lemma settle_sameReferences (jobs : Jobs.Db) (jobId : String) (matching : Jobs.Item → Bool) (set : Jobs.Item → Jobs.ItemState)
    (count : Jobs.JobState → Jobs.JobState) : SameReferences jobs (Jobs.settle jobs jobId matching set count).1 := by
  unfold Jobs.settle
  split
  · refine ⟨fun id => ?_, rfl⟩
    have hkey : ∀ job : Jobs.Job, ({ job with state := count job.state } : Jobs.Job).id = job.id := fun _ => rfl
    have hfind := Table.find_update jobs.jobs (fun job => job.id == jobId)
      (fun job => { job with state := count job.state }) hkey id
    change ((jobs.jobs.update _ _ hkey).find id).isSome = _
    rw [hfind, Option.isSome_map]
  · exact ⟨fun _ => rfl, rfl⟩

lemma SameReferences.knownReferences {ledger ledger' : Ledger.Db} (h : SameReferences ledger.jobs ledger'.jobs)
    (receipt : Receipt) : Ledger.knownReferences ledger' receipt = Ledger.knownReferences ledger receipt := by
  unfold Ledger.knownReferences
  rw [h.photos]
  cases receipt.jobId with
  | none => rfl
  | some jobId =>
    dsimp only
    rw [h.jobs jobId]

theorem exec_sameReferences {op : Op} (h : op.exec source db = .ok db') : SameReferences db.store.jobs db'.store.jobs := by
  have hself : ∀ jobs : Jobs.Db, SameReferences jobs jobs := fun _ => ⟨fun _ => rfl, rfl⟩
  cases op with
  | problem =>
    obtain rfl := Except.ok.inj h
    exact hself _
  | failJobItem =>
    obtain rfl := Except.ok.inj h
    exact settle_sameReferences _ _ _ _ _
  | receipt id requestId raw receipt =>
    obtain ⟨ledger, hrecord, h⟩ := Checked.bind_eq_ok.mp h
    obtain rfl := Except.ok.inj h
    change SameReferences db.store.jobs ledger.jobs
    rw [(recordBatchOnce_receipts hrecord).1]
    exact hself _
  | mark =>
    obtain ⟨-, -, h⟩ := Checked.bind_eq_ok.mp h
    obtain rfl := Except.ok.inj h
    exact hself _
  | importItem id jobItemId requestId raw receipt =>
    simp only [Op.exec] at h
    split at h
    · obtain rfl := Except.ok.inj h
      exact hself _
    · split at h
      · obtain rfl := Except.ok.inj h
        exact hself _
      · obtain ⟨ledger, hrecord, h⟩ := Checked.bind_eq_ok.mp h
        have hjobs := (recordBatchOnce_receipts hrecord).1
        split at h
        · obtain rfl := Except.ok.inj h
          change SameReferences db.store.jobs (Ledger.settleItem _ _ _ _ _ _).jobs
          rw [Ledger.settleItem_jobs]
          change SameReferences db.store.jobs (Jobs.settle ledger.jobs _ _ _ _).1
          rw [hjobs]
          exact settle_sameReferences _ _ _ _ _
        · obtain rfl := Except.ok.inj h
          change SameReferences db.store.jobs ledger.jobs
          rw [hjobs]
          exact hself _
  | raise => cases h

lemma Op.Able.exec {op other : Op} (hable : other.Able db) (h : op.exec source db = .ok db') : other.Able db' := by
  have hsame : SameReferences db.ledger.jobs db'.ledger.jobs := exec_sameReferences h
  have hknown := hsame.knownReferences
  cases other with
  | receipt id requestId raw paid => exact (hknown paid).trans hable
  | importItem id jobItemId requestId raw paid => exact (hknown paid).trans hable
  | mark itemId status =>
    have hstatus := congrArg Option.isSome (exec_statusOf h itemId)
    rw [Option.isSome_map, Db.statusOf, Db.statusOf, Option.isSome_map, Option.isSome_map] at hstatus
    exact hstatus.trans hable
  | problem | failJobItem | raise => trivial

lemma recordBatchOnce_ok {ledger : Ledger.Db} {receipt : Receipt} (itemId : String)
    (h : Ledger.knownReferences ledger receipt = true) : ∃ ledger', recordBatchOnce ledger receipt itemId = .ok ledger' := by
  have hsame : Ledger.knownReferences ledger { receipt with operationId := none, batchItemId := some itemId } = true := h
  have hrecord : ∃ answer, Ledger.recordBatchOnce .binary64 ledger receipt itemId = .ok answer := by
    unfold Ledger.recordBatchOnce
    dsimp only
    split
    · exact ⟨_, rfl⟩
    · rw [hsame]
      exact ⟨_, rfl⟩
  obtain ⟨answer, hanswer⟩ := hrecord
  exact ⟨answer.1, by rw [recordBatchOnce, hanswer]⟩

/-- What is able goes through, unless it raises. -/
theorem exec_ok {op : Op} (hable : op.Able db) (hraise : ∀ raised, op ≠ .raise raised) : ∃ db', op.exec source db = .ok db' := by
  cases op with
  | problem | failJobItem => exact ⟨_, rfl⟩
  | receipt id requestId raw paid =>
    obtain ⟨ledger, hrecord⟩ := recordBatchOnce_ok id hable
    simp only [Op.exec, hrecord]
    exact ⟨_, rfl⟩
  | mark itemId status =>
    simp only [Op.exec]
    rw [show (db.store.items.find itemId).isSome = true from hable]
    exact ⟨_, rfl⟩
  | importItem id jobItemId requestId raw paid =>
    obtain ⟨ledger, hrecord⟩ := recordBatchOnce_ok id hable
    simp only [Op.exec, hrecord, bind, Except.bind]
    split
    · exact ⟨_, rfl⟩
    · split
      · exact ⟨_, rfl⟩
      · split <;> exact ⟨_, rfl⟩
  | raise raised => exact absurd rfl (hraise raised)

end References

/-! ### Receipts -/

section Receipts

variable {source : Source} {db db' : Db}

/-- A transaction adds to the receipts of an item only where it pays for it, and then there is one. -/
theorem exec_receipts {op : Op} (h : op.exec source db = .ok db') (itemId : String) :
    (receipts db' itemId = receipts db itemId ∨ (op.pays itemId = true ∧ receipts db' itemId = max 1 (receipts db itemId))) ∧
      ∀ requestId raw paid, op = .receipt itemId requestId raw paid → 1 ≤ receipts db' itemId := by
  have hpaid : ∀ {id : String} {paid : Receipt} {ledger : Ledger.Db}, recordBatchOnce db.ledger paid id = .ok ledger →
      db'.usage = ledger.usage →
      (receipts db' itemId = receipts db itemId ∨ (id = itemId ∧ receipts db' itemId = max 1 (receipts db itemId))) ∧
        (id = itemId → 1 ≤ receipts db' itemId) := by
    intro id paid ledger hrecord husage
    obtain ⟨-, hothers, hitem⟩ := recordBatchOnce_receipts hrecord
    simp only [receipts, husage]
    by_cases hid : id = itemId
    · subst hid
      exact ⟨.inr ⟨rfl, hitem⟩, fun _ => hitem ▸ le_max_left _ _⟩
    · exact ⟨.inl (hothers itemId (Ne.symm hid)), fun heq => absurd heq hid⟩
  cases op with
  | problem | failJobItem =>
    obtain rfl := Except.ok.inj h
    exact ⟨.inl rfl, fun _ _ _ heq => by cases heq⟩
  | receipt id requestId raw paid =>
    obtain ⟨ledger, hrecord, h⟩ := Checked.bind_eq_ok.mp h
    obtain rfl := Except.ok.inj h
    obtain ⟨hcount, hone⟩ := hpaid hrecord rfl
    refine ⟨?_, ?_⟩
    · obtain hsame | ⟨rfl, hmax⟩ := hcount
      · exact .inl hsame
      · exact .inr ⟨beq_self_eq_true _, hmax⟩
    · rintro _ _ _ ⟨rfl⟩
      exact hone rfl
  | mark =>
    obtain ⟨-, -, h⟩ := Checked.bind_eq_ok.mp h
    obtain rfl := Except.ok.inj h
    exact ⟨.inl rfl, fun _ _ _ heq => by cases heq⟩
  | importItem id jobItemId requestId raw paid =>
    refine ⟨?_, fun _ _ _ heq => by cases heq⟩
    simp only [Op.exec] at h
    split at h
    · obtain rfl := Except.ok.inj h
      exact .inl rfl
    · split at h
      · obtain rfl := Except.ok.inj h
        exact .inl rfl
      · obtain ⟨ledger, hrecord, h⟩ := Checked.bind_eq_ok.mp h
        have husage : db'.usage = ledger.usage := by
          split at h
          · obtain rfl := Except.ok.inj h
            exact Ledger.settleItem_usage _ _ _ _ _
          · obtain rfl := Except.ok.inj h
            rfl
        obtain hsame | ⟨rfl, hmax⟩ := (hpaid hrecord husage).1
        · exact .inl hsame
        · exact .inr ⟨beq_self_eq_true _, hmax⟩
  | raise => cases h

end Receipts

/-! ### All transactions -/

section All

variable {source : Source} {db db' : Db} {ops : List Op}

lemma execAll_cons {op : Op} (h : execAll source db (op :: ops) = .ok db') :
    ∃ next, op.exec source db = .ok next ∧ execAll source next ops = .ok db' :=
  Checked.bind_eq_ok.mp h

theorem execAll_ok_iff (hable : ∀ op ∈ ops, op.Able db) :
    (∃ db', execAll source db ops = .ok db') ↔ ∀ raised, Op.raise raised ∉ ops := by
  induction ops generalizing db with
  | nil => exact ⟨fun _ _ h => absurd h List.not_mem_nil, fun _ => ⟨db, rfl⟩⟩
  | cons op rest ih =>
    constructor
    · rintro ⟨db', h⟩ raised hraised
      obtain ⟨next, hexec, hrest⟩ := execAll_cons h
      obtain rfl | hraised := List.mem_cons.mp hraised
      · cases hexec
      · have hnext := ih fun other hother => (hable other (List.mem_cons_of_mem _ hother)).exec hexec
        exact hnext.mp ⟨db', hrest⟩ raised hraised
    · intro hraise
      have hop : ∀ raised, op ≠ .raise raised := fun raised heq => hraise raised (heq ▸ List.mem_cons_self)
      obtain ⟨next, hexec⟩ : ∃ next, op.exec source db = .ok next := exec_ok (hable op List.mem_cons_self) hop
      have hnext := ih fun other hother => (hable other (List.mem_cons_of_mem _ hother)).exec hexec
      obtain ⟨db', hrest⟩ := hnext.mpr fun raised hmem => hraise raised (List.mem_cons_of_mem _ hmem)
      exact ⟨db', Checked.bind_eq_ok.mpr ⟨next, hexec, hrest⟩⟩

def effects (itemId : String) (ops : List Op) (status : ItemStatus) : ItemStatus :=
  ops.foldl (fun status op => op.effect itemId status) status

theorem execAll_statusOf (h : execAll source db ops = .ok db') (itemId : String) :
    db'.statusOf itemId = (db.statusOf itemId).map (effects itemId ops) := by
  induction ops generalizing db with
  | nil =>
    obtain rfl := Except.ok.inj h
    exact Option.map_id'.symm
  | cons op rest ih =>
    obtain ⟨next, hexec, hrest⟩ := execAll_cons h
    rw [ih hrest, exec_statusOf hexec, Option.map_map]
    rfl

theorem execAll_receipts (h : execAll source db ops = .ok db') (itemId : String) :
    receipts db itemId ≤ receipts db' itemId ∧
      ((∀ op ∈ ops, op.pays itemId = false) → receipts db' itemId = receipts db itemId) ∧
      ∀ requestId raw paid, Op.receipt itemId requestId raw paid ∈ ops → 1 ≤ receipts db' itemId := by
  induction ops generalizing db with
  | nil =>
    obtain rfl := Except.ok.inj h
    exact ⟨le_rfl, fun _ => rfl, fun _ _ _ hmem => absurd hmem List.not_mem_nil⟩
  | cons op rest ih =>
    obtain ⟨next, hexec, hrest⟩ := execAll_cons h
    obtain ⟨hmono, hnone, hsome⟩ := ih hrest
    obtain ⟨hcount, hone⟩ := exec_receipts hexec itemId
    refine ⟨?_, ?_, ?_⟩
    · obtain hsame | ⟨-, hmax⟩ := hcount <;> omega
    · intro hops
      rw [hnone fun other hother => hops other (List.mem_cons_of_mem _ hother)]
      obtain hsame | ⟨hpays, -⟩ := hcount
      · exact hsame
      · rw [hops op List.mem_cons_self] at hpays
        cases hpays
    · intro requestId raw paid hmem
      obtain rfl | hmem := List.mem_cons.mp hmem
      · exact (hone requestId raw paid rfl).trans hmono
      · exact hsome requestId raw paid hmem

end All

/-! ### The one that writes -/

lemma effect_of_not_writes {itemId : String} {op : Op} (h : op.writes itemId = false) (status : ItemStatus) :
    op.effect itemId status = status := by
  cases op with
  | mark id written => exact if_neg (by simpa [Op.writes] using h)
  | importItem id =>
    refine if_neg ?_
    rintro ⟨rfl, -⟩
    simp [Op.writes] at h
  | problem | receipt | failJobItem | raise => rfl

lemma effect_idem (itemId : String) (op : Op) (status : ItemStatus) :
    op.effect itemId (op.effect itemId status) = op.effect itemId status := by
  cases op with
  | mark id written =>
    simp only [Op.effect]
    split <;> rfl
  | importItem id jobItemId requestId raw paid =>
    by_cases h : id = itemId ∧ importable status = true
    · have himported : (Op.importItem id jobItemId requestId raw paid).effect itemId status = .imported := if_pos h
      rw [himported]
      exact if_neg fun hagain => by cases hagain.2
    · have hkept : (Op.importItem id jobItemId requestId raw paid).effect itemId status = status := if_neg h
      rw [hkept, hkept]
  | problem | receipt | failJobItem | raise => rfl

lemma effects_of_none {itemId : String} {ops : List Op} (h : ∀ op ∈ ops, op.writes itemId = false) (status : ItemStatus) :
    effects itemId ops status = status := by
  induction ops generalizing status with
  | nil => rfl
  | cons op rest ih =>
    rw [effects, List.foldl_cons, effect_of_not_writes (h op List.mem_cons_self)]
    exact ih (fun other hother => h other (List.mem_cons_of_mem _ hother)) status

/-- Where all writes of an item are the same, it is as after one of them. -/
lemma effects_of_one {itemId : String} {ops : List Op} {writer : Op} (hmem : writer ∈ ops)
    (h : ∀ op ∈ ops, op.writes itemId = true → op = writer) (status : ItemStatus) :
    effects itemId ops status = writer.effect itemId status := by
  -- before the first write the status is the old one, after it the new one, which another write leaves
  have hsettled : ∀ rest : List Op, (∀ op ∈ rest, op.writes itemId = true → op = writer) →
      effects itemId rest (writer.effect itemId status) = writer.effect itemId status := by
    intro rest hrest
    induction rest with
    | nil => rfl
    | cons op rest ih =>
      rw [effects, List.foldl_cons]
      have hsame : op.effect itemId (writer.effect itemId status) = writer.effect itemId status := by
        by_cases hwrites : op.writes itemId = true
        · rw [hrest op List.mem_cons_self hwrites]
          exact effect_idem itemId writer status
        · exact effect_of_not_writes (by simpa using hwrites) _
      rw [hsame]
      exact ih fun other hother => hrest other (List.mem_cons_of_mem _ hother)
  induction ops with
  | nil => cases hmem
  | cons op rest ih =>
    have hrest : ∀ other ∈ rest, other.writes itemId = true → other = writer :=
      fun other hother => h other (List.mem_cons_of_mem _ hother)
    rw [effects, List.foldl_cons]
    by_cases hsame : op = writer
    · subst hsame
      exact hsettled rest hrest
    · have hwrites : op.writes itemId = false := by
        by_contra hwrites
        exact hsame (h op List.mem_cons_self (by simpa using hwrites))
      rw [effect_of_not_writes hwrites]
      exact ih ((List.mem_cons.mp hmem).resolve_left (Ne.symm hsame)) hrest

/-- Two lists with the same writes of an item, all of them the same. -/
theorem effects_congr {itemId : String} {ops ops' : List Op} (hsame : ∀ op, op.writes itemId = true → (op ∈ ops ↔ op ∈ ops'))
    (hone : ∀ op ∈ ops', ∀ other ∈ ops', op.writes itemId = true → other.writes itemId = true → op = other)
    (status : ItemStatus) : effects itemId ops status = effects itemId ops' status := by
  by_cases hwriter : ∃ writer ∈ ops', writer.writes itemId = true
  · obtain ⟨writer, hmem, hwrites⟩ := hwriter
    rw [effects_of_one hmem (fun op hop hop' => hone op hop writer hmem hop' hwrites)]
    refine effects_of_one ((hsame writer hwrites).mpr hmem) ?_ status
    intro op hop hop'
    exact hone op ((hsame op hop').mp hop) writer hmem hop' hwrites
  · have hnone' : ∀ op ∈ ops', op.writes itemId = false := by
      intro op hop
      by_contra hwrites
      exact hwriter ⟨op, hop, by simpa using hwrites⟩
    have hnone : ∀ op ∈ ops, op.writes itemId = false := by
      intro op hop
      by_contra hwrites
      have hwrites : op.writes itemId = true := by simpa using hwrites
      exact hwriter ⟨op, (hsame op hwrites).mp hop, hwrites⟩
    rw [effects_of_none hnone, effects_of_none hnone']

end InkTime.Import
