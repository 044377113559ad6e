import InkTime.Settings.Model

/-!
# What an update writes

The values of an accepted update pass their own checks, and the settings read afterwards as the update says.
-/

namespace InkTime.Settings

open Json (Value Text Double)
open Checked (require orError)

/-! ### Values that pass their own checks -/

lemma isInt_iff {value : ℚ} : value.isInt = true ↔ (value.num : ℚ) = value := by
  unfold Rat.isInt
  rw [beq_iff_eq, Rat.den_eq_one_iff]

lemma raw_num (value : ℚ) : SettingValue.raw (.num value) = if value.isInt then .int value.num else .float (.finite value) := rfl

lemma isInt_intCast (value : ℤ) : (value : ℚ).isInt = true := isInt_iff.mpr (by simp)

section

variable {rt : Runtime} {key : String} {type : ValueType} {raw : Value} {value : SettingValue}

lemma convert_integer {value : ℚ} (h : value.isInt = true) :
    convert rt key .integer (SettingValue.raw (.num value)) = .ok (.num value) := by
  rw [raw_num, if_pos h]
  unfold convert
  dsimp only
  rw [isInt_iff.mp h]

lemma convert_number {value : ℚ} (h : rt.float value = some value) :
    convert rt key .number (SettingValue.raw (.num value)) = .ok (.num value) := by
  rw [raw_num]
  split
  · next hint =>
    unfold convert
    dsimp only
    rw [isInt_iff.mp hint, h]
  · unfold convert
    dsimp only
    rw [h]

/-- What a value of a type is converted to is converted to itself. -/
lemma convert_raw (h : convert rt key type raw = .ok value) : convert rt key type value.raw = .ok value := by
  cases type with
  | integer =>
    unfold convert at h
    dsimp only at h
    split at h
    · obtain rfl := Except.ok.inj h
      exact convert_integer (isInt_intCast _)
    · split at h
      · next hint =>
        obtain rfl := Except.ok.inj h
        exact convert_integer hint
      · cases h
    · split at h
      · obtain rfl := Except.ok.inj h
        exact convert_integer (isInt_intCast _)
      · cases h
    · cases h
  | number =>
    unfold convert at h
    dsimp only at h
    split at h
    · split at h
      · next hfloat =>
        obtain rfl := Except.ok.inj h
        exact convert_number (rt.float_float _ _ hfloat)
      · cases h
    · split at h
      · next hfloat =>
        obtain rfl := Except.ok.inj h
        exact convert_number (rt.float_float _ _ hfloat)
      · cases h
    · cases h
    · split at h
      · next hfloat =>
        obtain rfl := Except.ok.inj h
        exact convert_number (rt.float_parseFloat _ _ hfloat)
      · cases h
      · cases h
    · cases h
  | boolean =>
    unfold convert at h
    dsimp only at h
    split at h
    · obtain rfl := Except.ok.inj h
      rfl
    · split at h
      · obtain rfl := Except.ok.inj h
        rfl
      · split at h
        · obtain rfl := Except.ok.inj h
          rfl
        · cases h
    · cases h
  | string =>
    unfold convert at h
    dsimp only at h
    split at h
    · obtain rfl := Except.ok.inj h
      rfl
    · cases h

lemma coerce_eq_ok : coerce rt key raw = .ok value ↔ ∃ definition, definitionOf key = some definition ∧
    convert rt key definition.type raw = .ok value ∧ check rt key definition value = .ok () := by
  unfold coerce
  rw [Checked.bind_eq_ok]
  constructor
  · rintro ⟨definition, hdefinition, h⟩
    obtain ⟨converted, hconverted, h⟩ := Checked.bind_eq_ok.mp h
    obtain ⟨_, hcheck, h⟩ := Checked.bind_eq_ok.mp h
    obtain rfl := Except.ok.inj h
    exact ⟨definition, Checked.orError_eq_ok.mp hdefinition, hconverted, hcheck⟩
  · rintro ⟨definition, hdefinition, hconverted, hcheck⟩
    refine ⟨definition, Checked.orError_eq_ok.mpr hdefinition, Checked.bind_eq_ok.mpr ⟨value, hconverted, ?_⟩⟩
    exact Checked.bind_eq_ok.mpr ⟨(), hcheck, rfl⟩

/-- A coerced value is coerced to itself. -/
lemma coerce_raw (h : coerce rt key raw = .ok value) : coerce rt key value.raw = .ok value := by
  obtain ⟨definition, hdefinition, hconvert, hcheck⟩ := coerce_eq_ok.mp h
  exact coerce_eq_ok.mpr ⟨definition, hdefinition, convert_raw hconvert, hcheck⟩

/-- A setting with a value that it may have. -/
def Coerced (rt : Runtime) (entry : String × SettingValue) : Prop := coerce rt entry.1 entry.2.raw = .ok entry.2

lemma Coerced.isSome {entry : String × SettingValue} (h : Coerced rt entry) : (definitionOf entry.1).isSome = true := by
  obtain ⟨definition, hdefinition, -⟩ := coerce_eq_ok.mp h
  rw [hdefinition]
  rfl

/-- A legacy mode is an execution mode. -/
lemma coerced_legacy (mode : SettingValue) (localProcessingEnabled : Bool) :
    Coerced rt (executionMode, .text (legacyExecutionMode mode localProcessingEnabled)) := by
  have hall : ∀ text ∈ ["local_with_manual_ai", "automatic_ai", "local_only", "disabled"], Coerced rt (executionMode, .text text) := by
    intro text htext
    apply coerce_eq_ok.mpr
    refine ⟨_, rfl, rfl, ?_⟩
    fin_cases htext
    · rfl
    · rfl
    · rfl
    · rfl
  apply hall
  unfold legacyExecutionMode
  split
  · simp
  · split
    · simp
    · split
      · simp
      · simp

/-- A setting that may be sent, with a value that it may have. -/
structure Accepted (rt : Runtime) (reject : Bool) (entry : String × SettingValue) : Prop where
  coerced : Coerced rt entry
  wired : runtimeWired entry.1 = true
  outside : (reject && (definitionOf entry.1).any Definition.controlCenter) = false

lemma normalizeEntry_eq_ok {reject : Bool} {entry : String × Value} {result : String × SettingValue} :
    normalizeEntry rt reject entry = .ok result ↔ result.1 = entry.1 ∧ coerce rt entry.1 entry.2 = .ok result.2 ∧
      runtimeWired entry.1 = true ∧ (reject && (definitionOf entry.1).any Definition.controlCenter) = false := by
  unfold normalizeEntry
  rw [Checked.bind_eq_ok]
  constructor
  · rintro ⟨definition, hdefinition, h⟩
    obtain ⟨_, hreject, h⟩ := Checked.bind_eq_ok.mp h
    obtain ⟨_, hwired, h⟩ := Checked.bind_eq_ok.mp h
    obtain ⟨value, hvalue, h⟩ := Checked.bind_eq_ok.mp h
    obtain rfl := Except.ok.inj h
    rw [Checked.orError_eq_ok] at hdefinition
    rw [Checked.require_eq_ok] at hreject hwired
    refine ⟨rfl, hvalue, hwired, ?_⟩
    rw [hdefinition, Option.any_some]
    rwa [Bool.not_eq_true'] at hreject
  · rintro ⟨hkey, hcoerce, hwired, hreject⟩
    obtain ⟨definition, hdefinition, -⟩ := coerce_eq_ok.mp hcoerce
    rw [hdefinition, Option.any_some] at hreject
    refine ⟨definition, Checked.orError_eq_ok.mpr hdefinition, Checked.bind_eq_ok.mpr ⟨(), Checked.require_eq_ok.mpr ?_, ?_⟩⟩
    · rwa [Bool.not_eq_true']
    refine Checked.bind_eq_ok.mpr ⟨(), Checked.require_eq_ok.mpr hwired, Checked.bind_eq_ok.mpr ⟨result.2, hcoerce, ?_⟩⟩
    rw [← hkey]
    rfl

lemma accepted_of_normalizeEntry {reject : Bool} {entry : String × Value} {result : String × SettingValue}
    (h : normalizeEntry rt reject entry = .ok result) : Accepted rt reject result := by
  obtain ⟨hkey, hcoerce, hwired, hreject⟩ := normalizeEntry_eq_ok.mp h
  rw [← hkey] at hcoerce hwired hreject
  exact ⟨coerce_raw hcoerce, hwired, hreject⟩

lemma Accepted.normalizeEntry {reject : Bool} {entry : String × SettingValue} (h : Accepted rt reject entry) :
    normalizeEntry rt reject (entry.1, entry.2.raw) = .ok entry :=
  normalizeEntry_eq_ok.mpr ⟨rfl, h.coerced, h.wired, h.outside⟩

end

/-! ### Entries with distinct keys -/

section

variable {entries : List (String × SettingValue)} {current : String → Option SettingValue} {key : String} {value : SettingValue}

lemma lookup_eq_some (hnodup : (entries.map Prod.fst).Nodup) : entries.lookup key = some value ↔ (key, value) ∈ entries := by
  induction entries with
  | nil => simp
  | cons entry rest ih =>
    obtain ⟨name, first⟩ := entry
    rw [List.map_cons, List.nodup_cons] at hnodup
    rw [List.lookup_cons]
    by_cases hkey : key = name
    · subst hkey
      have hnot : (key, value) ∉ rest := fun hmem => hnodup.1 (List.mem_map.mpr ⟨(key, value), hmem, rfl⟩)
      simp [hnot, eq_comm]
    · have hbeq : (key == name) = false := beq_eq_false_iff_ne.mpr hkey
      rw [hbeq]
      simp [hkey, ih hnodup.2]

lemma lookup_eq_none : entries.lookup key = none ↔ key ∉ entries.map Prod.fst := by
  rw [List.lookup_eq_none_iff, List.mem_map]
  constructor
  · rintro hall ⟨entry, hentry, rfl⟩
    have := hall entry hentry
    simp at this
  · intro hnot entry hentry
    exact bne_iff_ne.mpr fun heq => hnot ⟨entry, hentry, heq.symm⟩

variable (current) in
lemma nodup_changes (hnodup : (entries.map Prod.fst).Nodup) : ((changes current entries).map Prod.fst).Nodup :=
  hnodup.sublist (List.filter_sublist.map Prod.fst)

lemma mem_changes {entry : String × SettingValue} : entry ∈ changes current entries ↔ entry ∈ entries ∧ current entry.1 ≠ some entry.2 := by
  unfold changes
  rw [List.mem_filter, decide_eq_true_eq]

variable (current) in
/-- Entries that change nothing do not count. -/
lemma merged_changes (hnodup : (entries.map Prod.fst).Nodup) : merged current (changes current entries) = merged current entries := by
  funext key
  unfold merged
  cases hlookup : entries.lookup key with
  | none =>
    have hnone : (changes current entries).lookup key = none := by
      rw [lookup_eq_none] at hlookup ⊢
      exact fun hmem => hlookup ((List.filter_sublist.map Prod.fst).subset hmem)
    rw [hnone]
  | some value =>
    have hmem := (lookup_eq_some hnodup).mp hlookup
    by_cases hsame : current key = some value
    · have hnone : (changes current entries).lookup key = none := by
        rw [lookup_eq_none]
        intro hkey
        obtain ⟨⟨name, other⟩, hentry, rfl⟩ := List.mem_map.mp hkey
        obtain ⟨hin, hne⟩ := mem_changes.mp hentry
        have hother := (lookup_eq_some hnodup).mpr hin
        obtain rfl := Option.some.inj (hlookup.symm.trans hother)
        exact hne hsame
      rw [hnone, hsame]
      rfl
    · have hsome : (changes current entries).lookup key = some value :=
        (lookup_eq_some (nodup_changes _ hnodup)).mpr (mem_changes.mpr ⟨hmem, hsame⟩)
      rw [hsome]

lemma changes_eq_self (h : ∀ entry ∈ entries, current entry.1 ≠ some entry.2) : changes current entries = entries := by
  apply List.filter_eq_self.mpr
  intro entry hentry
  exact decide_eq_true (h entry hentry)

lemma withExecutionMode_cases (entries : List (String × SettingValue)) :
    (∃ mode, entries.lookup aiMode = some mode ∧ entries.lookup executionMode = none ∧ withExecutionMode entries =
      entries ++ [(executionMode, .text (legacyExecutionMode mode ((entries.lookup prefilterEnabled).all SettingValue.truthy)))]) ∨
    (entries.lookup aiMode = none ∨ entries.lookup executionMode ≠ none) ∧ withExecutionMode entries = entries := by
  unfold withExecutionMode
  cases hai : entries.lookup aiMode with
  | none => exact .inr ⟨.inl rfl, rfl⟩
  | some mode =>
    cases hmode : entries.lookup executionMode with
    | none => exact .inl ⟨mode, rfl, rfl, rfl⟩
    | some other => exact .inr ⟨.inr (Option.some_ne_none other), rfl⟩

lemma nodup_withExecutionMode (hnodup : (entries.map Prod.fst).Nodup) : ((withExecutionMode entries).map Prod.fst).Nodup := by
  obtain ⟨mode, -, hnone, heq⟩ | ⟨-, heq⟩ := withExecutionMode_cases entries
  · rw [heq, List.map_append, List.nodup_append]
    refine ⟨hnodup, List.nodup_singleton _, ?_⟩
    intro name hname other hother
    have hlast : other = executionMode := List.mem_singleton.mp hother
    exact fun hsame => lookup_eq_none.mp hnone (hlast ▸ hsame ▸ hname)
  · rwa [heq]

end

/-! ### Preparation -/

section

variable {rt : Runtime} {reject : Bool} {current : String → Option SettingValue} {updates : List (String × Value)}
variable {sent changed : List (String × SettingValue)}

lemma mapM_normalizeEntry (h : updates.mapM (normalizeEntry rt reject) = .ok sent) :
    sent.map Prod.fst = updates.map Prod.fst ∧ ∀ entry ∈ sent, Accepted rt reject entry := by
  have hall := Checked.mapM_eq_ok.mp h
  clear h
  induction hall with
  | nil => exact ⟨rfl, fun entry hentry => absurd hentry List.not_mem_nil⟩
  | cons hfirst _ ih =>
    obtain ⟨hkeys, hrest⟩ := ih
    rw [List.map_cons, List.map_cons, hkeys, (normalizeEntry_eq_ok.mp hfirst).1]
    refine ⟨rfl, ?_⟩
    intro entry hentry
    obtain rfl | hmem := List.mem_cons.mp hentry
    · exact accepted_of_normalizeEntry hfirst
    · exact hrest entry hmem

lemma mapM_raw (h : ∀ entry ∈ sent, Accepted rt reject entry) :
    (sent.map fun entry => (entry.1, entry.2.raw)).mapM (normalizeEntry rt reject) = .ok sent := by
  rw [Checked.mapM_eq_ok, List.forall₂_map_left_iff, List.forall₂_same]
  exact fun entry hentry => (h entry hentry).normalizeEntry

lemma prepareUpdates_eq_ok : prepareUpdates rt reject current updates = .ok changed ↔
    ∃ sent, updates.mapM (normalizeEntry rt reject) = .ok sent ∧ validateAll (merged current (withExecutionMode sent)) = .ok () ∧
      changed = changes current (withExecutionMode sent) := by
  unfold prepareUpdates
  rw [Checked.bind_eq_ok]
  constructor
  · rintro ⟨sent, hsent, h⟩
    obtain ⟨_, hvalid, h⟩ := Checked.bind_eq_ok.mp h
    exact ⟨sent, hsent, hvalid, (Except.ok.inj h).symm⟩
  · rintro ⟨sent, hsent, hvalid, rfl⟩
    exact ⟨sent, hsent, Checked.bind_eq_ok.mpr ⟨(), hvalid, rfl⟩⟩

/-- What is written has values that the settings may have. -/
lemma coerced_withExecutionMode (h : ∀ entry ∈ sent, Accepted rt reject entry) :
    ∀ entry ∈ withExecutionMode sent, Coerced rt entry := by
  obtain ⟨mode, -, -, heq⟩ | ⟨-, heq⟩ := withExecutionMode_cases sent
  · rw [heq]
    intro entry hentry
    obtain hbefore | hlast := List.mem_append.mp hentry
    · exact (h entry hbefore).coerced
    · rw [List.mem_singleton.mp hlast]
      exact coerced_legacy mode _
  · rw [heq]
    exact fun entry hentry => (h entry hentry).coerced

/-- Where every value that is sent differs from the one there, what was prepared is prepared to itself. -/
lemma prepareUpdates_again (h : ∀ entry ∈ sent, Accepted rt false entry)
    (hdiffer : ∀ entry ∈ sent, current entry.1 ≠ some entry.2)
    (hvalid : validateAll (merged current (withExecutionMode sent)) = .ok ()) :
    prepareUpdates rt false current ((changes current (withExecutionMode sent)).map fun entry => (entry.1, entry.2.raw)) =
      .ok (changes current (withExecutionMode sent)) := by
  have haccepted : ∀ entry ∈ withExecutionMode sent, Accepted rt false entry := by
    intro entry hentry
    obtain ⟨mode, -, -, heq⟩ | ⟨-, heq⟩ := withExecutionMode_cases sent
    · rw [heq] at hentry
      obtain hbefore | hlast := List.mem_append.mp hentry
      · exact h entry hbefore
      · rw [List.mem_singleton.mp hlast]
        exact ⟨coerced_legacy mode _, rfl, rfl⟩
    · exact h entry (heq ▸ hentry)
  have hagain : withExecutionMode (changes current (withExecutionMode sent)) = withExecutionMode sent := by
    obtain ⟨mode, hai, hnone, heq⟩ | ⟨hwhich, heq⟩ := withExecutionMode_cases sent
    · by_cases hsame : current executionMode =
          some (.text (legacyExecutionMode mode ((sent.lookup prefilterEnabled).all SettingValue.truthy)))
      · have hchanges : changes current (withExecutionMode sent) = sent := by
          rw [heq]
          unfold changes
          rw [List.filter_append, List.filter_singleton, decide_eq_false (not_not.mpr hsame)]
          exact (List.append_nil _).trans (changes_eq_self hdiffer)
        rw [hchanges]
      · have hchanges : changes current (withExecutionMode sent) = withExecutionMode sent := by
          apply changes_eq_self
          rw [heq]
          intro entry hentry
          obtain hbefore | hlast := List.mem_append.mp hentry
          · exact hdiffer entry hbefore
          · rw [List.mem_singleton.mp hlast]
            exact hsame
        have hlookup : (withExecutionMode sent).lookup executionMode ≠ none := by
          rw [heq, Ne, lookup_eq_none]
          simp
        rw [hchanges]
        obtain ⟨_, -, hlater, -⟩ | ⟨-, hstays⟩ := withExecutionMode_cases (withExecutionMode sent)
        · exact absurd hlater hlookup
        · exact hstays
    · rw [heq, changes_eq_self hdiffer, heq]
  apply prepareUpdates_eq_ok.mpr
  refine ⟨_, mapM_raw fun entry hentry => haccepted entry (mem_changes.mp hentry).1, ?_, ?_⟩
  · rw [hagain]
    exact hvalid
  · rw [hagain]

end

/-! ### Writing -/

section

variable {rt : Runtime} {db later : Db} {call : Call} {entries changed : List (String × SettingValue)} {key : String}

/-- The value in a row, without the default. -/
def stored (settings : Table SettingRow.key) (key : String) : Option SettingValue := (settings.find key).map SettingRow.value

lemma stored_writeSetting (who : String) (settings : Table SettingRow.key) (entry : String × SettingValue) :
    stored (writeSetting who settings entry) key =
      if key = entry.1 then (stored settings key).map fun _ => entry.2 else stored settings key := by
  unfold stored writeSetting
  rw [Table.find_update, Option.map_map]
  cases hfind : settings.find key with
  | none => simp
  | some row =>
    have hkey := (Table.find_eq_some hfind).2
    by_cases hsame : key = entry.1
    · simp [Table.revise, hkey, hsame]
    · simp [Table.revise, hkey, hsame]

variable (key) in
lemma stored_foldl (who : String) (settings : Table SettingRow.key) (hnodup : (entries.map Prod.fst).Nodup) :
    stored (entries.foldl (writeSetting who) settings) key = (stored settings key).map fun value => (entries.lookup key).getD value := by
  induction entries generalizing settings with
  | nil => simp
  | cons entry rest ih =>
    rw [List.map_cons, List.nodup_cons] at hnodup
    rw [List.foldl_cons, ih _ hnodup.2, stored_writeSetting, List.lookup_cons]
    by_cases hsame : key = entry.1
    · have hnone : rest.lookup key = none := lookup_eq_none.mpr (hsame ▸ hnodup.1)
      rw [if_pos hsame, hnone, beq_iff_eq.mpr hsame, Option.map_map]
      rfl
    · rw [if_neg hsame, beq_eq_false_iff_ne.mpr hsame]

/-- The settings read as the update says. -/
lemma valueOf_writes (who : String) (snapshots : Table Snapshot.id) (hnodup : (entries.map Prod.fst).Nodup)
    (hrows : ∀ entry ∈ entries, (db.settings.find entry.1).isSome = true) :
    valueOf ⟨entries.foldl (writeSetting who) db.settings, snapshots⟩ = merged (valueOf db) entries := by
  funext key
  have hafter := stored_foldl key who db.settings hnodup
  have hvalue : ∀ db : Db, valueOf db key = (stored db.settings key).or ((definitionOf key).map Definition.default) := fun _ => rfl
  rw [hvalue, hafter, merged, hvalue]
  cases hlookup : entries.lookup key with
  | none => simp
  | some value =>
    obtain ⟨row, hrow⟩ := Option.isSome_iff_exists.mp (hrows _ ((lookup_eq_some hnodup).mp hlookup))
    dsimp only at hrow
    simp [stored, hrow]

lemma createSnapshot_eq_ok {before after : String → Option SettingValue} {snapshots added : Table Snapshot.id} :
    createSnapshot call before after changed snapshots = .ok added ↔
      (call.rollbackSource.all fun source => (snapshots.find source).isSome || source = call.snapshotId) = true ∧
        ∃ inserted, snapshots.insert ⟨call.snapshotId, call.now, snapshotValues before, snapshotValues after,
          (changed.map Prod.fst).insertionSort (· ≤ ·), call.rollbackSource⟩ = some inserted ∧ pruneSnapshots inserted = added := by
  unfold createSnapshot
  rw [Checked.bind_eq_ok]
  constructor
  · rintro ⟨_, hsource, h⟩
    obtain ⟨inserted, hinserted, h⟩ := Checked.bind_eq_ok.mp h
    exact ⟨Checked.require_eq_ok.mp hsource, inserted, Checked.orError_eq_ok.mp hinserted, Except.ok.inj h⟩
  · rintro ⟨hsource, inserted, hinserted, rfl⟩
    exact ⟨(), Checked.require_eq_ok.mpr hsource, Checked.bind_eq_ok.mpr ⟨inserted, Checked.orError_eq_ok.mpr hinserted, rfl⟩⟩

lemma mapM_coerce (h : ∀ entry ∈ changed, Coerced rt entry) :
    (changed.map fun entry => (entry.1, entry.2.raw)).mapM
      (fun entry => (coerce rt entry.1 entry.2).map fun value => (entry.1, value)) = .ok changed := by
  rw [Checked.mapM_eq_ok, List.forall₂_map_left_iff, List.forall₂_same]
  intro entry hentry
  rw [show coerce rt entry.1 entry.2.raw = .ok entry.2 from h entry hentry]
  rfl

/-- What a transaction does with entries that were prepared. -/
lemma updateManyInTransaction_prepared (hcoerced : ∀ entry ∈ changed, Coerced rt entry)
    (hchanged : ∀ entry ∈ changed, valueOf db entry.1 ≠ some entry.2) (hsome : changed ≠ [])
    (hvalid : validateAll (merged (valueOf db) changed) = .ok ()) :
    updateManyInTransaction rt call (changed.map fun entry => (entry.1, entry.2.raw)) db =
      (createSnapshot call (valueOf db) (merged (valueOf db) changed) changed db.snapshots).map fun snapshots =>
        (⟨changed.foldl (writeSetting call.changedBy) db.settings, snapshots⟩,
          ⟨(changed.map Prod.fst).insertionSort (· ≤ ·), some call.snapshotId⟩) := by
  unfold updateManyInTransaction
  rw [mapM_coerce hcoerced]
  simp only [bind, Except.bind, hvalid, changes_eq_self hchanged, if_neg hsome]
  cases createSnapshot call (valueOf db) (merged (valueOf db) changed) changed db.snapshots with
  | error error => rfl
  | ok snapshots => rfl

variable (call) in
/-- An update whose preparation is known. -/
lemma updateMany_prepared {updates : List (String × Value)} (hnodup : (updates.map Prod.fst).Nodup)
    (hprepared : prepareUpdates rt call.rejectControlCenter (valueOf db) updates = .ok changed) :
    updateMany rt call updates db = if changed = [] then .ok (db, ⟨[], none⟩) else
      (createSnapshot call (valueOf db) (merged (valueOf db) changed) changed db.snapshots).map fun snapshots =>
        (⟨changed.foldl (writeSetting call.changedBy) db.settings, snapshots⟩,
          ⟨(changed.map Prod.fst).insertionSort (· ≤ ·), some call.snapshotId⟩) := by
  obtain ⟨sent, hsent, hvalid, rfl⟩ := prepareUpdates_eq_ok.mp hprepared
  obtain ⟨hkeys, haccepted⟩ := mapM_normalizeEntry hsent
  have hdistinct := nodup_withExecutionMode (hkeys ▸ hnodup)
  unfold updateMany
  rw [hprepared]
  by_cases hnil : changes (valueOf db) (withExecutionMode sent) = []
  · simp only [bind, Except.bind, if_pos hnil]
    rfl
  · simp only [bind, Except.bind, if_neg hnil]
    apply updateManyInTransaction_prepared
    · exact fun entry hentry => coerced_withExecutionMode haccepted entry (mem_changes.mp hentry).1
    · exact fun entry hentry => (mem_changes.mp hentry).2
    · exact hnil
    · rwa [merged_changes _ hdistinct]

/-- Every setting has a row with a value that it may have, and the values go together. -/
structure Valid (rt : Runtime) (db : Db) : Prop where
  rows : ∀ key, (definitionOf key).isSome = true → (db.settings.find key).isSome = true
  coerced : ∀ key value, (definitionOf key).isSome = true → valueOf db key = some value → Coerced rt (key, value)
  validated : validateAll (valueOf db) = .ok ()

end

end InkTime.Settings
