import InkTime.Settings.Starts

/-!
# When a rollback undoes an update

The condition on what an update sends and on the settings before it.
-/

namespace InkTime.Settings

open Json (Value Text Double)
open Checked (require orError)

section

variable (rt : Runtime) (db : Db) (updates : List (String × Value))

/-- The value that an update sends for a setting. -/
def sentValue (key : String) : Option SettingValue := (updates.lookup key).bind fun raw => (coerce rt key raw).toOption

/-- The execution mode that an update sends, or that its AI mode stands for. -/
def sentMode : Option SettingValue :=
  (sentValue rt updates executionMode).or ((sentValue rt updates aiMode).map fun mode =>
    .text (legacyExecutionMode mode ((sentValue rt updates prefilterEnabled).all SettingValue.truthy)))

/-- The update sends another value than the one there. -/
def alters (key : String) : Bool := (sentValue rt updates key).any fun value => valueOf db key ≠ some value

def altersMode : Bool := (sentMode rt updates).any fun value => valueOf db executionMode ≠ some value

/-- An update of the AI mode is one of the execution mode too, or the execution mode is the one that the AI mode of before stands for. -/
def KeepsMode : Prop := alters rt db updates aiMode = true → altersMode rt db updates = true ∨ ∀ mode, valueOf db aiMode = some mode →
  valueOf db executionMode = some (.text (legacyExecutionMode mode
    ((if alters rt db updates prefilterEnabled then valueOf db prefilterEnabled else none).all SettingValue.truthy)))

end

section

variable {rt : Runtime} {db later : Db} {call undo : Call} {updates : List (String × Value)} {sent changed : List (String × SettingValue)}
variable {key : String}

lemma lookup_sent {reject : Bool} (h : updates.mapM (normalizeEntry rt reject) = .ok sent) :
    sent.lookup key = sentValue rt updates key := by
  have hall := Checked.mapM_eq_ok.mp h
  clear h
  unfold sentValue
  induction hall with
  | nil => rfl
  | cons hfirst _ ih =>
    obtain ⟨hkey, hcoerce, -⟩ := normalizeEntry_eq_ok.mp hfirst
    rw [List.lookup_cons, List.lookup_cons, hkey]
    split
    · next hsame =>
      rw [beq_iff_eq] at hsame
      rw [Option.bind_some, hsame, hcoerce]
      rfl
    · exact ih

lemma lookup_withExecutionMode (entries : List (String × SettingValue)) : (withExecutionMode entries).lookup key =
    if key = executionMode then (entries.lookup executionMode).or ((entries.lookup aiMode).map fun mode =>
      .text (legacyExecutionMode mode ((entries.lookup prefilterEnabled).all SettingValue.truthy)))
    else entries.lookup key := by
  obtain ⟨mode, hai, hnone, heq⟩ | ⟨hwhich, heq⟩ := withExecutionMode_cases entries
  · rw [heq, List.lookup_append, List.lookup_cons, List.lookup_nil, hai, hnone]
    by_cases hkey : key = executionMode
    · subst hkey
      rw [if_pos rfl, hnone, beq_self_eq_true]
      rfl
    · rw [if_neg hkey, beq_eq_false_iff_ne.mpr hkey, Option.or_none]
  · rw [heq]
    split
    · next hkey =>
      subst hkey
      obtain hai | hmode := hwhich
      · rw [hai, Option.map_none, Option.or_none]
      · obtain ⟨value, hvalue⟩ := Option.ne_none_iff_exists'.mp hmode
        rw [hvalue, Option.some_or]
    · rfl

lemma mem_keys_changes {current : String → Option SettingValue} {entries : List (String × SettingValue)}
    (hnodup : (entries.map Prod.fst).Nodup) : key ∈ (changes current entries).map Prod.fst ↔
      ((entries.lookup key).any fun value => current key ≠ some value) = true := by
  rw [List.mem_map, Option.any_eq_true]
  constructor
  · rintro ⟨⟨name, value⟩, hentry, rfl⟩
    obtain ⟨hin, hne⟩ := mem_changes.mp hentry
    exact ⟨value, (lookup_eq_some hnodup).mpr hin, decide_eq_true hne⟩
  · rintro ⟨value, hlookup, hne⟩
    exact ⟨(key, value), mem_changes.mpr ⟨(lookup_eq_some hnodup).mp hlookup, of_decide_eq_true hne⟩, rfl⟩

/-- The keys that an update changes, read off what it sends. -/
lemma mem_changed {reject : Bool} (hnodup : (updates.map Prod.fst).Nodup)
    (h : prepareUpdates rt reject (valueOf db) updates = .ok changed) :
    (executionMode ∈ changed.map Prod.fst ↔ altersMode rt db updates = true) ∧
      ∀ key, key ≠ executionMode → (key ∈ changed.map Prod.fst ↔ alters rt db updates key = true) := by
  obtain ⟨sent, hsent, -, rfl⟩ := prepareUpdates_eq_ok.mp h
  have hdistinct := nodup_withExecutionMode ((mapM_normalizeEntry hsent).1 ▸ hnodup)
  constructor
  · rw [mem_keys_changes hdistinct, lookup_withExecutionMode, if_pos rfl, lookup_sent hsent, lookup_sent hsent, lookup_sent hsent]
    exact Iff.rfl
  · intro key hkey
    rw [mem_keys_changes hdistinct, lookup_withExecutionMode, if_neg hkey, lookup_sent hsent]
    exact Iff.rfl

lemma keepsMode_iff {reject : Bool} (hnodup : (updates.map Prod.fst).Nodup)
    (h : prepareUpdates rt reject (valueOf db) updates = .ok changed) : KeepsMode rt db updates ↔
      ∀ mode, aiMode ∈ changed.map Prod.fst → executionMode ∉ changed.map Prod.fst → valueOf db aiMode = some mode →
        valueOf db executionMode = some (formerMode db changed mode) := by
  obtain ⟨hmode, hkeys⟩ := mem_changed hnodup h
  have hai := hkeys aiMode (by decide)
  have hprefilter := hkeys prefilterEnabled (by decide)
  unfold KeepsMode formerMode
  rw [hai, hmode]
  simp only [hprefilter]
  constructor
  · intro hkeeps mode halters hnot hvalue
    exact (hkeeps halters).resolve_left hnot mode hvalue
  · intro hall halters
    by_cases hchanged : altersMode rt db updates = true
    · exact .inl hchanged
    · exact .inr fun mode hvalue => hall mode halters hchanged hvalue

section

variable (hvalid : Valid rt db) (hnodup : (updates.map Prod.fst).Nodup) {result : UpdateResult} {id : String}
variable (hupdate : updateMany rt call updates db = .ok (later, result)) (hid : result.snapshotId = some id)
variable (hkeys : Restorable result.changedKeys)

include hvalid hnodup hupdate hid hkeys

variable (undo) in
/-- A rollback to a snapshot that survived restores everything, or everything but the execution mode. -/
lemma rollback_values (hfresh : later.snapshots.find undo.snapshotId = none) (hsurvives : Survives db call) :
    ∃ changed final undone, prepareUpdates rt call.rejectControlCenter (valueOf db) updates = .ok changed ∧
      rollback rt id undo later = .ok (final, undone) ∧
        ((aiMode ∈ changed.map Prod.fst → executionMode ∈ changed.map Prod.fst) ∧ valueOf final = valueOf db ∨
          ∃ mode, aiMode ∈ changed.map Prod.fst ∧ executionMode ∉ changed.map Prod.fst ∧ valueOf db aiMode = some mode ∧
            valueOf final = Function.update (valueOf db) executionMode (some (formerMode db changed mode))) := by
  obtain ⟨changed, hprepared, hupdated, rfl, hchanged⟩ := updated_of_ok hvalid hnodup hupdate hid
  have hrestorable : Restorable (changed.map Prod.fst) := by
    intro key hkey
    apply hkeys
    rw [hchanged]
    exact (List.mem_insertionSort _).mpr hkey
  obtain ⟨inserted, hinserted, hpruned⟩ := hupdated.snapshots
  have hmem := (Table.mem_insert hinserted).mpr (.inr rfl)
  have hkept := (kept_iff_survives call hinserted rfl).mpr hsurvives
  obtain ⟨target, hfind, hbefore, -, htarget⟩ := find_pruneSnapshots hmem hkept
  dsimp only at hfind hbefore htarget
  have hrecords : Records db changed target := ⟨hbefore, htarget⟩
  rw [← hpruned] at hfind
  obtain ⟨final, undone, hrollback, hvalues⟩ := rollback_ok hvalid hupdated hrestorable hrecords hfind hfresh
  have hmerged := merged_withExecutionMode hvalid hupdated hrestorable hrecords
  rw [← hvalues] at hmerged
  exact ⟨changed, final, undone, hprepared, hrollback, hmerged⟩

omit hkeys in
/-- No rollback goes back to a snapshot that did not. -/
lemma survives_of_rollback (hrollback : ∃ final undone, rollback rt id undo later = .ok (final, undone)) : Survives db call := by
  obtain ⟨changed, -, hupdated, rfl, -⟩ := updated_of_ok hvalid hnodup hupdate hid
  obtain ⟨inserted, hinserted, hpruned⟩ := hupdated.snapshots
  have hmem := (Table.mem_insert hinserted).mpr (.inr rfl)
  have hblank := kept_iff_survives call hinserted rfl
  dsimp only at hblank
  by_contra hnot
  obtain ⟨final, undone, hrollback⟩ := hrollback
  rw [rollback_unknown (hpruned ▸ find_pruneSnapshots_none hmem fun hkept => hnot (hblank.mp hkept))] at hrollback
  cases hrollback

/-- An update is undone by the rollback of its snapshot exactly where its AI mode keeps the execution mode and its snapshot survives. -/
theorem rollback_undoes_iff (hfresh : later.snapshots.find undo.snapshotId = none) :
    (∃ final undone, rollback rt id undo later = .ok (final, undone) ∧ ∀ key, valueOf final key = valueOf db key) ↔
      KeepsMode rt db updates ∧ Survives db call := by
  constructor
  · rintro ⟨final, undone, hrollback, hsame⟩
    have hsurvives := survives_of_rollback hvalid hnodup hupdate hid ⟨final, undone, hrollback⟩
    refine ⟨?_, hsurvives⟩
    obtain ⟨changed, final', undone', hprepared, hrollback', hcases⟩ :=
      rollback_values undo hvalid hnodup hupdate hid hkeys hfresh hsurvives
    obtain ⟨rfl, -⟩ := Prod.mk.inj (Except.ok.inj (hrollback'.symm.trans hrollback))
    rw [keepsMode_iff hnodup hprepared]
    intro mode hai hmode hvalue
    obtain ⟨himplies, -⟩ | ⟨mode', -, -, hvalue', hafter⟩ := hcases
    · exact absurd (himplies hai) hmode
    · obtain rfl := Option.some.inj (hvalue.symm.trans hvalue')
      rw [← hsame executionMode, hafter, Function.update_self]
  · rintro ⟨hkeeps, hsurvives⟩
    obtain ⟨changed, final, undone, hprepared, hrollback, hcases⟩ :=
      rollback_values undo hvalid hnodup hupdate hid hkeys hfresh hsurvives
    refine ⟨final, undone, hrollback, ?_⟩
    obtain ⟨-, hsame⟩ | ⟨mode, hai, hmode, hvalue, hafter⟩ := hcases
    · rw [hsame]
      exact fun key => rfl
    · rw [hafter, ← (keepsMode_iff hnodup hprepared).mp hkeeps mode hai hmode hvalue, Function.update_eq_self]
      exact fun key => rfl

end

end

/-! ### On a new database -/

def firstCall : Call := { now := 0, snapshotId := "snapshot-1", changedBy := "admin" }

def secondCall : Call := { now := 1, snapshotId := "snapshot-2", changedBy := "admin" }

section

variable {db : Db} {updates : List (String × Value)} {changed : List (String × SettingValue)}

/-- The first update of a new database, by the values that it prepares. -/
lemma first_update (hsnapshots : db.snapshots = .empty) (hnodup : (updates.map Prod.fst).Nodup)
    (hprepared : prepareUpdates leastRuntime false (valueOf db) updates = .ok changed) (hchanged : changed ≠ []) :
    ∃ later result, updateMany leastRuntime firstCall updates db = .ok (later, result) ∧ result.snapshotId = some "snapshot-1" ∧
      result.changedKeys = (changed.map Prod.fst).insertionSort (· ≤ ·) ∧ later.snapshots.find "snapshot-2" = none := by
  have hupdate := updateMany_prepared firstCall hnodup hprepared
  rw [if_neg hchanged, hsnapshots] at hupdate
  refine ⟨_, _, hupdate, rfl, rfl, rfl⟩

lemma survives_first (hsnapshots : db.snapshots = .empty) : Survives db firstCall := by
  apply Or.inl
  rw [hsnapshots]
  decide

end

/-- The update of the AI mode moves the execution mode along, and the rollback brings both back. -/
theorem rollback_undoes_ai_mode : ∃ db later result, ensureDefaults ⟨.empty, .empty⟩ = .ok db ∧
    updateMany leastRuntime firstCall [("analysis.ai_mode", .str (.utf8 "off"))] db = .ok (later, result) ∧
      result.changedKeys = ["analysis.ai_mode", "analysis.execution_mode"] ∧
      ∃ final undone, rollback leastRuntime "snapshot-1" secondCall later = .ok (final, undone) ∧
        ∀ key, valueOf final key = valueOf db key := by
  obtain ⟨db, hstart, hvalid⟩ := valid_start_new readsDefaults_least
  obtain ⟨hsnapshots, hvalues⟩ := values_start_new hstart
  have hprepared : prepareUpdates leastRuntime false (valueOf db) [("analysis.ai_mode", .str (.utf8 "off"))] =
      .ok [("analysis.ai_mode", .text "off"), ("analysis.execution_mode", .text "local_only")] := by
    rw [hvalues]
    rfl
  obtain ⟨later, result, hupdate, hid, hkeys, hfresh⟩ := first_update hsnapshots (by decide) hprepared (by decide)
  have hsorted : result.changedKeys = ["analysis.ai_mode", "analysis.execution_mode"] := by
    rw [hkeys]
    decide
  have hrestorable : Restorable result.changedKeys := by
    rw [hsorted]
    decide
  refine ⟨db, later, result, hstart, hupdate, hsorted, ?_⟩
  refine (rollback_undoes_iff hvalid (by decide) hupdate hid hrestorable hfresh).mpr ⟨?_, survives_first hsnapshots⟩
  rw [keepsMode_iff (by decide) hprepared]
  intro mode _ hunmoved
  exact absurd (by decide) hunmoved

/-- An update that sends the execution mode that is there already, and another AI mode. -/
theorem rollback_alters_execution_mode : ¬∀ (rt : Runtime) (db later : Db) (call undo : Call) (updates : List (String × Value))
    (result : UpdateResult) (id : String), Valid rt db → (updates.map Prod.fst).Nodup →
      updateMany rt call updates db = .ok (later, result) →
      result.snapshotId = some id → Restorable result.changedKeys → later.snapshots.find undo.snapshotId = none →
        ∃ final undone, rollback rt id undo later = .ok (final, undone) ∧ ∀ key, valueOf final key = valueOf db key := by
  intro h
  obtain ⟨db, hstart, hvalid⟩ := valid_start_new readsDefaults_least
  obtain ⟨hsnapshots, hvalues⟩ := values_start_new hstart
  have hprepared : prepareUpdates leastRuntime false (valueOf db)
      [("analysis.ai_mode", .str (.utf8 "off")), ("analysis.execution_mode", .str (.utf8 "seasonal_ai"))] =
        .ok [("analysis.ai_mode", .text "off")] := by
    rw [hvalues]
    rfl
  obtain ⟨later, result, hupdate, hid, hkeys, hfresh⟩ := first_update hsnapshots (by decide) hprepared (by decide)
  have hrestorable : Restorable result.changedKeys := by
    rw [hkeys]
    decide
  obtain ⟨final, undone, hrollback, hsame⟩ := h leastRuntime db later firstCall secondCall _ result _ hvalid (by decide) hupdate hid
    hrestorable hfresh
  obtain ⟨changed, final', undone', hprepared', hrollback', hcases⟩ :=
    rollback_values secondCall hvalid (by decide) hupdate hid hrestorable hfresh (survives_first hsnapshots)
  obtain ⟨rfl, -⟩ := Prod.mk.inj (Except.ok.inj (hrollback'.symm.trans hrollback))
  obtain rfl := Except.ok.inj (hprepared'.symm.trans hprepared)
  obtain ⟨himplies, -⟩ | ⟨mode, -, -, hmode, hafter⟩ := hcases
  · exact absurd (himplies (by decide)) (by decide)
  · have hexecution := hsame executionMode
    rw [hvalues] at hmode
    obtain rfl := Option.some.inj hmode
    rw [hafter, Function.update_self, hvalues] at hexecution
    have hstays : some (SettingValue.text "local_with_manual_ai") = some (.text "seasonal_ai") := hexecution
    exact absurd hstays (by decide)

end InkTime.Settings
