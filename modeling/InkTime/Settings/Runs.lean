import InkTime.Settings.Undo
import InkTime.Library.Runs

/-!
# Runs

Starts and transactions in any order. A transaction may send what was prepared from settings that others have changed since, so nothing is
assumed of what it sends but that it is a dictionary.
-/

namespace InkTime.Settings

open Json (Value Text Double)
open Checked (require orError)

inductive Op where
  | start
  /-- `update_many_in_transaction` -/
  | transact (call : Call) (updates : List (String × Value))

section

variable (rt : Runtime)

/-- A call that raises leaves the database. -/
def Op.step (db : Db) : Op → Db
  | .start =>
    match ensureDefaults db with
    | .ok later => later
    | .error _ => db
  | .transact call updates =>
    match updateManyInTransaction rt call updates db with
    | .ok (later, _) => later
    | .error _ => db

/-- The updates are a dictionary. -/
def Op.IsDict : Op → Prop
  | .start => True
  | .transact _ updates => (updates.map Prod.fst).Nodup

/-- What holds of the snapshots: there are at most as many as the limit, each one that a rollback went back to is there, and each holds
values that its settings may have and none that are sensitive. -/
structure Retained (snapshots : Table Snapshot.id) : Prop where
  limit : snapshots.rows.length ≤ settingsSnapshotLimit
  source : ∀ row ∈ snapshots, ∀ source, row.rollbackSource = some source → (snapshots.find source).isSome = true
  values : ∀ row ∈ snapshots, ∀ entry ∈ row.before ++ row.after, snapshotAllowed entry.1 = true ∧ Coerced rt entry

structure Sound (db : Db) : Prop where
  valid : Valid rt db
  retained : Retained rt db.snapshots

end

section

variable {rt : Runtime} {db later : Db} {call : Call} {updates : List (String × Value)} {changed : List (String × SettingValue)}
variable {snapshots inserted : Table Snapshot.id} {row : Snapshot} {entry : String × SettingValue}

lemma mapM_coerce_eq_ok {normalized : List (String × SettingValue)}
    (h : updates.mapM (fun entry => (coerce rt entry.1 entry.2).map fun value => (entry.1, value)) = .ok normalized) :
    normalized.map Prod.fst = updates.map Prod.fst ∧ ∀ entry ∈ normalized, Coerced rt entry := by
  have hall := Checked.mapM_eq_ok.mp h
  clear h
  induction hall with
  | nil => exact ⟨rfl, fun entry hentry => absurd hentry (List.not_mem_nil)⟩
  | cons hfirst _ ih =>
    obtain ⟨value, hcoerce, rfl⟩ := Checked.map_eq_ok.mp hfirst
    refine ⟨by rw [List.map_cons, List.map_cons, ih.1], ?_⟩
    rintro entry (_ | ⟨_, hentry⟩)
    · exact coerce_raw hcoerce
    · exact ih.2 entry hentry

/-- What a transaction did: nothing, or a change with a snapshot. -/
lemma transaction_cases (hvalid : Valid rt db) (hnodup : (updates.map Prod.fst).Nodup) {result : UpdateResult}
    (h : updateManyInTransaction rt call updates db = .ok (later, result)) : later = db ∨ ∃ changed, Updated rt db call changed later ∧
      (call.rollbackSource.all fun source => (db.snapshots.find source).isSome || source = call.snapshotId) = true := by
  unfold updateManyInTransaction at h
  obtain ⟨normalized, hnormalized, h⟩ := Checked.bind_eq_ok.mp h
  obtain ⟨_, hsound, h⟩ := Checked.bind_eq_ok.mp h
  obtain ⟨hkeys, hcoerced⟩ := mapM_coerce_eq_ok hnormalized
  have hdistinct : (normalized.map Prod.fst).Nodup := hkeys ▸ hnodup
  dsimp only at h
  split at h
  · exact .inl (congrArg Prod.fst (Except.ok.inj h)).symm
  · obtain ⟨pruned, hcreate, h⟩ := Checked.bind_eq_ok.mp h
    obtain ⟨rfl, -⟩ := Prod.mk.inj (Except.ok.inj h)
    obtain ⟨hsource, inserted, hinserted, hpruned⟩ := createSnapshot_eq_ok.mp hcreate
    have hcoerced' : ∀ entry ∈ changes (valueOf db) normalized, Coerced rt entry := fun entry hentry =>
      hcoerced entry (mem_changes.mp hentry).1
    have hnodup' := nodup_changes (valueOf db) hdistinct
    have hmerged := merged_changes (valueOf db) hdistinct
    have hvalues := valueOf_writes call.changedBy pruned hnodup' fun entry hentry => (hcoerced' entry hentry).find hvalid
    refine .inr ⟨changes (valueOf db) normalized, ?_, hsource⟩
    exact {
      nodup := hnodup'
      coerced := hcoerced'
      differ := fun entry hentry => (mem_changes.mp hentry).2
      values := hvalues
      snapshots := ⟨inserted, hmerged ▸ hinserted, hpruned.symm⟩
      rows := fun key hkey => isSome_find_writes call.changedBy hnodup' hkey
      validated := by rw [hvalues, hmerged, hsound] }

lemma forget_id (removable : List String) (row : Snapshot) : (row.forget removable).id = row.id := rfl

/-- Pruning keeps the snapshots as they are to be. -/
lemma retained_pruneSnapshots
    (hsource : ∀ row ∈ snapshots, ∀ source, row.rollbackSource = some source → (snapshots.find source).isSome = true)
    (hvalues : ∀ row ∈ snapshots, ∀ entry ∈ row.before ++ row.after, snapshotAllowed entry.1 = true ∧ Coerced rt entry) :
    Retained rt (pruneSnapshots snapshots) := by
  unfold pruneSnapshots
  dsimp only
  rw [List.length_insertionSort]
  split
  · next hmany =>
    have hperm := List.perm_insertionSort newerFirst snapshots.rows
    generalize hkeep : keepIds settingsSnapshotLimit (protectedIds (snapshots.rows.insertionSort newerFirst))
      (snapshots.rows.insertionSort newerFirst) = keep
    generalize hremovable : ((snapshots.rows.insertionSort newerFirst).map Snapshot.id).filter (fun id => id ∉ keep) = removable
    have hremoved : ∀ row ∈ snapshots, row.id ∈ removable ↔ row.id ∉ keep := by
      intro row hrow
      rw [← hremovable, List.mem_filter, decide_eq_true_eq, and_iff_right]
      exact List.mem_map_of_mem (hperm.mem_iff.mpr hrow)
    have hleft : ∀ row, row ∈ (snapshots.update (fun _ => true) (Snapshot.forget removable) (forget_id removable)).delete
        (fun row => row.id ∈ removable) ↔ ∃ old ∈ snapshots, old.id ∈ keep ∧ old.forget removable = row := by
      intro row
      rw [Table.mem_delete, Table.mem_update, decide_eq_false_iff_not]
      constructor
      · rintro ⟨⟨old, hold, rfl⟩, hstays⟩
        exact ⟨old, hold, not_not.mp fun hnot => hstays ((hremoved old hold).mpr hnot), rfl⟩
      · rintro ⟨old, hold, hin, rfl⟩
        exact ⟨⟨old, hold, rfl⟩, fun hremoves => (hremoved old hold).mp hremoves hin⟩
    generalize (snapshots.update (fun _ => true) (Snapshot.forget removable) (forget_id removable)).delete
      (fun row => row.id ∈ removable) = pruned at hleft ⊢
    refine ⟨?_, ?_, ?_⟩
    · have hsubset : (pruned.rows.map Snapshot.id).toFinset ⊆ keep := by
        intro id hid
        obtain ⟨row, hrow, rfl⟩ := List.mem_map.mp (List.mem_toFinset.mp hid)
        obtain ⟨old, -, hin, rfl⟩ := (hleft row).mp hrow
        exact hin
      have hcard := Finset.card_le_card hsubset
      rw [List.toFinset_card_of_nodup pruned.distinct, List.length_map] at hcard
      have hkept := card_keepIds settingsSnapshotLimit (protectedIds (snapshots.rows.insertionSort newerFirst))
        (snapshots.rows.insertionSort newerFirst)
      have htwo := card_protectedIds (snapshots.rows.insertionSort newerFirst)
      have hlimit : settingsSnapshotLimit = 100 := rfl
      rw [hkeep] at hkept
      omega
    · intro row hrow source hsourceRow
      obtain ⟨old, hold, hin, rfl⟩ := (hleft row).mp hrow
      obtain ⟨hbefore, hstays⟩ := Option.filter_eq_some_iff.mp hsourceRow
      obtain ⟨target, htarget⟩ := Option.isSome_iff_exists.mp (hsource old hold source hbefore)
      obtain ⟨htargetMem, rfl⟩ := Table.find_eq_some htarget
      have hkept : target.id ∈ keep := not_not.mp fun hnot => of_decide_eq_true hstays ((hremoved target htargetMem).mpr hnot)
      have hforget : (target.forget removable).id = target.id := rfl
      rw [← hforget, Table.find_of_mem ((hleft _).mpr ⟨target, htargetMem, hkept, rfl⟩)]
      rfl
    · intro row hrow
      obtain ⟨old, hold, hin, rfl⟩ := (hleft row).mp hrow
      exact hvalues old hold
  · next hfew => exact ⟨not_lt.mp hfew, hsource, hvalues⟩

lemma values_of_insert (hvalid : Valid rt db) (h : Updated rt db call changed later) :
    ∀ entry ∈ snapshotValues (valueOf db) ++ snapshotValues (merged (valueOf db) changed), snapshotAllowed entry.1 = true ∧
      Coerced rt entry := by
  rw [← h.values]
  intro entry hentry
  obtain hbefore | hafter := List.mem_append.mp hentry
  · obtain ⟨hknown, hallowed, hvalue⟩ := mem_snapshotValues.mp hbefore
    exact ⟨hallowed, hvalid.coerced _ _ hknown hvalue⟩
  · obtain ⟨hknown, hallowed, hvalue⟩ := mem_snapshotValues.mp hafter
    exact ⟨hallowed, (h.valid hvalid).coerced _ _ hknown hvalue⟩

lemma Updated.sound (h : Updated rt db call changed later) (hsound : Sound rt db)
    (hcall : (call.rollbackSource.all fun source => (db.snapshots.find source).isSome || source = call.snapshotId) = true) :
    Sound rt later := by
  obtain ⟨inserted, hinserted, hpruned⟩ := h.snapshots
  have hadded : ∀ source, (db.snapshots.find source).isSome = true → (inserted.find source).isSome = true := by
    intro source hsome
    obtain ⟨row, hrow⟩ := Option.isSome_iff_exists.mp hsome
    obtain ⟨hmem, rfl⟩ := Table.find_eq_some hrow
    rw [Table.find_of_mem ((Table.mem_insert hinserted).mpr (.inl hmem))]
    rfl
  refine ⟨h.valid hsound.valid, hpruned ▸ retained_pruneSnapshots ?_ ?_⟩
  · intro row hrow source hsource
    obtain hold | rfl := (Table.mem_insert hinserted).mp hrow
    · exact hadded source (hsound.retained.source row hold source hsource)
    · dsimp only at hsource
      rw [hsource, Option.all_some, Bool.or_eq_true, decide_eq_true_eq] at hcall
      obtain hfound | rfl := hcall
      · exact hadded source hfound
      · rw [Table.find_of_mem hrow]
        rfl
  · intro row hrow
    obtain hold | rfl := (Table.mem_insert hinserted).mp hrow
    · exact hsound.retained.values row hold
    · dsimp only
      exact values_of_insert hsound.valid h

lemma step_start (hvalid : Valid rt db) : Op.step rt db .start = db := by
  unfold Op.step
  rw [ensureDefaults_of_valid hvalid]

/-- What a step preserves. -/
lemma Sound.step (h : Sound rt db) {op : Op} (hdict : op.IsDict) : Sound rt (op.step rt db) := by
  cases op with
  | start =>
    rw [step_start h.valid]
    exact h
  | transact call updates =>
    unfold Op.step
    dsimp only
    cases hcall : updateManyInTransaction rt call updates db with
    | error error => exact h
    | ok result =>
      obtain ⟨later, result⟩ := result
      obtain rfl | ⟨changed, hupdated, hsource⟩ := transaction_cases h.valid hdict hcall
      · exact h
      · exact hupdated.sound h hsource

lemma Sound.run (h : Sound rt db) {ops : List Op} (hdict : ∀ op ∈ ops, op.IsDict) : Sound rt (Runs.run (Op.step rt) db ops) :=
  Runs.invariant_of_along (fun _ _ hsound hop => hsound.step hop) h (Runs.Along.of_forall hdict fun _ _ hop => hop)

lemma sound_start (hrt : ReadsDefaults rt)
    (hstored : ∀ key value, (definitionOf key).isSome = true → stored db.settings key = some value → Repairable rt key value)
    (htogether : validateAll (lengthsAside (startValue db.settings)) = .ok ()) (hretained : Retained rt db.snapshots) :
    Sound rt (Op.step rt db .start) := by
  obtain ⟨later, hlater, hvalid, hsnapshots, -⟩ := ensureDefaults_valid db hrt hstored htogether
  unfold Op.step
  rw [hlater]
  exact ⟨hvalid, hsnapshots ▸ hretained⟩

lemma retained_empty : Retained rt .empty :=
  ⟨Nat.zero_le _, fun _ hrow => absurd hrow List.not_mem_nil, fun _ hrow => absurd hrow List.not_mem_nil⟩

def Op.isStart : Op → Bool
  | .start => true
  | .transact .. => false

/-- Later starts change nothing: a run is the run of its transactions. -/
theorem run_without_starts (hsound : Sound rt db) {ops : List Op} (hdict : ∀ op ∈ ops, op.IsDict) :
    Runs.run (Op.step rt) db ops = Runs.run (Op.step rt) db (ops.filter fun op => !op.isStart) := by
  induction ops generalizing db with
  | nil => rfl
  | cons op rest ih =>
    obtain ⟨hop, hrest⟩ := List.forall_mem_cons.mp hdict
    rw [Runs.run_cons, ih (hsound.step hop) hrest]
    cases op with
    | start => rw [step_start hsound.valid, List.filter_cons_of_neg (by decide)]
    | transact call updates => rw [List.filter_cons_of_pos rfl, Runs.run_cons]

/-- A start between two transactions -/
theorem run_without_starts_between : ∃ db, ensureDefaults ⟨.empty, .empty⟩ = .ok db ∧
    Runs.run (Op.step leastRuntime) db [.transact firstCall [("analysis.concurrency", .int 4)], .start,
        .transact secondCall [("analysis.ai_mode", .str (.utf8 "off"))]] =
      Runs.run (Op.step leastRuntime) db [.transact firstCall [("analysis.concurrency", .int 4)],
        .transact secondCall [("analysis.ai_mode", .str (.utf8 "off"))]] := by
  obtain ⟨db, hstart, hvalid⟩ := valid_start_new readsDefaults_least
  have hsound : Sound leastRuntime db := ⟨hvalid, (values_start_new hstart).1.symm ▸ retained_empty⟩
  refine ⟨db, hstart, run_without_starts hsound ?_⟩
  have hsingle : ∀ (call : Call) (update : String × Value), (Op.transact call [update]).IsDict :=
    fun call update => List.nodup_singleton update.1
  intro op hop
  simp only [List.mem_cons, List.not_mem_nil, or_false] at hop
  obtain rfl | rfl | rfl := hop
  · exact hsingle _ _
  · trivial
  · exact hsingle _ _

end

end InkTime.Settings
