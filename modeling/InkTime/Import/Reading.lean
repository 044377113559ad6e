import InkTime.Import.Model

/-!
# What reading the files leaves

For each custom id the staged record is a function of the lines that carry the id, in their order, and reading fails
exactly where a line cannot be stored, or the status code of the first line of an id is infinite.
-/

namespace InkTime.Import

open Json (Value)

/-- The lines of both files, each with whether it is in the error file. -/
def Files.lines (files : Files) : List (Bool × Option Value) :=
  files.output.map (fun line => (false, line)) ++ files.error.map fun line => (true, line)

/-- The records that carry a custom id. -/
def carrying (id : String) (lines : List (Option Value)) : List Value :=
  lines.filterMap fun line => line.filter fun record => customId record == some id

/-- The same over both files. -/
def own (id : String) (lines : List (Bool × Option Value)) : List (Bool × Value) :=
  lines.filterMap fun line => (line.2.filter fun record => customId record == some id).map fun record => (line.1, record)

lemma own_append (id : String) (lines more : List (Bool × Option Value)) : own id (lines ++ more) = own id lines ++ own id more :=
  List.filterMap_append

lemma own_lines (id : String) (files : Files) :
    own id files.lines = (carrying id files.output).map (fun record => (false, record)) ++
      (carrying id files.error).map fun record => (true, record) := by
  rw [Files.lines, own_append]
  congr 1
  · simp only [own, carrying, List.filterMap_map, List.map_filterMap]
    rfl
  · simp only [own, carrying, List.filterMap_map, List.map_filterMap]
    rfl

section Reading

variable (runtime : Runtime)

def readAll (lines : List (Bool × Option Value)) : Reading :=
  lines.foldl (fun reading line => readLine runtime line.1 reading line.2) {}

lemma readFiles_eq (files : Files) : readFiles runtime files = readAll runtime files.lines := by
  simp only [readFiles, readResults, readAll, Files.lines, List.foldl_append, List.foldl_map]

/-- The record that stays staged of the lines of an id. -/
def stagedOf (id : String) : List (Bool × Value) → Option Staged
  | [] => none
  | [line] =>
    match classify runtime line.1 line.2 with
    | .ok kind => some ⟨id, kind, line.2⟩
    | .error _ => none
  | _ :: second :: rest => some ⟨id, .duplicate, ((second :: rest).getLast (List.cons_ne_nil _ _)).2⟩

lemma stagedOf_append_of_ne_nil (id : String) {lines : List (Bool × Value)} (h : lines ≠ []) (line : Bool × Value) :
    stagedOf runtime id (lines ++ [line]) = some ⟨id, .duplicate, line.2⟩ := by
  match lines with
  | [first] => rfl
  | first :: second :: rest =>
    rw [List.cons_append, List.cons_append, stagedOf]
    simp

lemma stagedOf_eq_none_of {id : String} {lines : List (Bool × Value)} (h : stagedOf runtime id lines = none)
    (hclassified : ∀ line, lines = [line] → (classify runtime line.1 line.2).isOk = true) : lines = [] := by
  match lines with
  | [] => rfl
  | [line] =>
    have hok := hclassified line rfl
    rw [stagedOf] at h
    cases hkind : classify runtime line.1 line.2 with
    | ok kind =>
      rw [hkind] at h
      cases h
    | error raised =>
      rw [hkind] at hok
      cases hok
  | first :: second :: rest => cases h

/-- Every line that carries an id can be stored, and the first one of its id classified. -/
structure Clean (lines : List (Bool × Option Value)) : Prop where
  encodable : ∀ id, ∀ line ∈ own id lines, line.2.encodable = true
  classified : ∀ id line, (own id lines).head? = some line → (classify runtime line.1 line.2).isOk = true

/-- The state after some lines. -/
structure Reads (lines : List (Bool × Option Value)) (reading : Reading) : Prop where
  clean : reading.raised = none ↔ Clean runtime lines
  find : reading.raised = none → ∀ id, reading.records.find id = stagedOf runtime id (own id lines)

variable {runtime}

lemma own_singleton (id : String) (isError : Bool) (record : Value) :
    own id [(isError, some record)] = if customId record = some id then [(isError, record)] else [] := by
  by_cases h : customId record = some id
  · simp [own, h]
  · simp [own, h]

lemma clean_append_of_none {lines : List (Bool × Option Value)} {line : Bool × Option Value} (h : ∀ id, own id [line] = []) :
    Clean runtime (lines ++ [line]) ↔ Clean runtime lines := by
  have hsame : ∀ id, own id (lines ++ [line]) = own id lines := fun id => by rw [own_append, h id, List.append_nil]
  constructor
  · rintro ⟨hencodable, hclassified⟩
    exact ⟨fun id => hsame id ▸ hencodable id, fun id => hsame id ▸ hclassified id⟩
  · rintro ⟨hencodable, hclassified⟩
    exact ⟨fun id => (hsame id).symm ▸ hencodable id, fun id => (hsame id).symm ▸ hclassified id⟩

lemma clean_append {lines : List (Bool × Option Value)} {isError : Bool} {record : Value} {carried : String}
    (h : customId record = some carried) :
    Clean runtime (lines ++ [(isError, some record)]) ↔ Clean runtime lines ∧ record.encodable = true ∧
      (own carried lines = [] → (classify runtime isError record).isOk = true) := by
  have hcarried : own carried (lines ++ [(isError, some record)]) = own carried lines ++ [(isError, record)] := by
    rw [own_append, own_singleton, if_pos h]
  have hothers : ∀ id, id ≠ carried → own id (lines ++ [(isError, some record)]) = own id lines := by
    intro id hne
    have hnot : ¬customId record = some id := by
      rw [h]
      simpa using hne.symm
    rw [own_append, own_singleton, if_neg hnot, List.append_nil]
  constructor
  · rintro ⟨hencodable, hclassified⟩
    refine ⟨⟨?_, ?_⟩, ?_, ?_⟩
    · intro id line hline
      exact hencodable id line (by rw [own_append]; exact List.mem_append_left _ hline)
    · intro id line hline
      refine hclassified id line ?_
      rw [own_append, List.head?_append, hline]
      rfl
    · exact hencodable carried (isError, record) (by rw [hcarried]; simp)
    · intro hnone
      exact hclassified carried (isError, record) (by rw [hcarried, hnone]; rfl)
  · rintro ⟨⟨hencodable, hclassified⟩, hrecord, hfirst⟩
    refine ⟨?_, ?_⟩
    · intro id line hline
      by_cases hid : id = carried
      · subst hid
        rw [hcarried] at hline
        obtain hold | hnew := List.mem_append.mp hline
        · exact hencodable id line hold
        · rw [List.mem_singleton.mp hnew]
          exact hrecord
      · rw [hothers id hid] at hline
        exact hencodable id line hline
    · intro id line hline
      by_cases hid : id = carried
      · subst hid
        rw [hcarried] at hline
        cases hlines : own id lines with
        | nil =>
          rw [hlines] at hline
          obtain rfl := Option.some.inj hline
          exact hfirst hlines
        | cons first rest =>
          rw [hlines] at hline
          obtain rfl := Option.some.inj hline
          exact hclassified id first (by rw [hlines]; rfl)
      · rw [hothers id hid] at hline
        exact hclassified id line hline

/-- A line that carries no id leaves the records as they are. -/
lemma readLine_of_none (reading : Reading) (isError : Bool) {line : Option Value}
    (h : ∀ record, line = some record → customId record = none) :
    (readLine runtime isError reading line).raised = reading.raised ∧
      (readLine runtime isError reading line).records = reading.records := by
  unfold readLine
  split
  · exact ⟨rfl, rfl⟩
  · split
    · exact ⟨rfl, rfl⟩
    · next record =>
      rw [h record rfl]
      split <;> exact ⟨rfl, rfl⟩

lemma isObject_of_customId {record : Value} {id : String} (h : customId record = some id) : record.isObject = true := by
  cases record with
  | object => rfl
  | null | bool | int | float | str | array => cases h

lemma readLine_of_some {reading : Reading} {isError : Bool} {record : Value} {id : String} (hopen : reading.raised = none)
    (h : customId record = some id) :
    readLine runtime isError reading (some record) =
      if (reading.records.find id).isSome then reading.stage ⟨id, .duplicate, record⟩
      else match classify runtime isError record with
        | .ok kind => reading.stage ⟨id, kind, record⟩
        | .error raised => { reading with raised := some raised } := by
  have hopened : ¬ reading.raised.isSome = true := by simp [hopen]
  have hobject : ¬ (!record.isObject) = true := by simp [isObject_of_customId h]
  refine (if_neg hopened).trans ((if_neg hobject).trans ?_)
  split
  · next hnone => cases h.symm.trans hnone
  · next customId hsome =>
    obtain rfl := Option.some.inj (h.symm.trans hsome)
    rfl

lemma readLine_of_raised {reading : Reading} (h : reading.raised.isSome = true) (isError : Bool) (line : Option Value) :
    readLine runtime isError reading line = reading := by
  unfold readLine
  rw [if_pos h]

lemma stage_raised {reading : Reading} (hopen : reading.raised = none) (staged : Staged) :
    (reading.stage staged).raised = none ↔ staged.record.encodable = true := by
  unfold Reading.stage
  split
  · next h => simp [h, hopen]
  · next h => simp [h]

lemma stage_find {reading : Reading} {staged : Staged} (hencodable : staged.record.encodable = true) (id : String) :
    (reading.stage staged).records.find id = if staged.customId = id then some staged else reading.records.find id := by
  rw [Reading.stage, if_pos hencodable]
  split
  · next hfound => exact Table.find_put hfound id
  · next hfound => exact Table.find_add (Option.not_isSome_iff_eq_none.mp hfound) id

lemma Reads.own_ne_nil {lines : List (Bool × Option Value)} {reading : Reading} (h : Reads runtime lines reading)
    (hopen : reading.raised = none) (id : String) : (reading.records.find id).isSome = true ↔ own id lines ≠ [] := by
  have hclean := h.clean.mp hopen
  rw [h.find hopen id]
  constructor
  · intro hstaged hnil
    rw [hnil] at hstaged
    cases hstaged
  · intro hne
    rw [Option.isSome_iff_ne_none]
    intro hnone
    apply hne
    apply stagedOf_eq_none_of runtime hnone
    intro line hline
    exact hclean.classified id line (by rw [hline]; rfl)

/-- A line that carries an id. -/
lemma Reads.readLine_of_some {lines : List (Bool × Option Value)} {reading : Reading} (h : Reads runtime lines reading)
    (isError : Bool) {record : Value} {id : String} (hid : customId record = some id) :
    Reads runtime (lines ++ [(isError, some record)]) (readLine runtime isError reading (some record)) := by
  have hothers : ∀ other, id ≠ other → own other (lines ++ [(isError, some record)]) = own other lines := by
    intro other hne
    rw [own_append, own_singleton, if_neg (by simp [hid, hne]), List.append_nil]
  have hown : own id (lines ++ [(isError, some record)]) = own id lines ++ [(isError, record)] := by
    rw [own_append, own_singleton, if_pos hid]
  by_cases hopen : reading.raised = none
  · have hclean := h.clean.mp hopen
    have hfind := h.find hopen
    rw [Import.readLine_of_some hopen hid]
    by_cases hfound : (reading.records.find id).isSome = true
    · have hne := (h.own_ne_nil hopen id).mp hfound
      rw [if_pos hfound]
      refine ⟨?_, ?_⟩
      · rw [stage_raised hopen, clean_append hid]
        exact ⟨fun hencodable => ⟨hclean, hencodable, fun hnil => absurd hnil hne⟩, fun hafter => hafter.2.1⟩
      · intro hstaged other
        rw [stage_find ((stage_raised hopen _).mp hstaged)]
        split
        · next hsame =>
          subst hsame
          rw [hown, stagedOf_append_of_ne_nil runtime id hne]
        · next hother => rw [hothers other hother, hfind other]
    · have hnil : own id lines = [] := by
        by_contra hne
        exact hfound ((h.own_ne_nil hopen id).mpr hne)
      rw [if_neg hfound]
      cases hkind : classify runtime isError record with
      | ok kind =>
        refine ⟨?_, ?_⟩
        · rw [stage_raised hopen, clean_append hid, hkind]
          exact ⟨fun hencodable => ⟨hclean, hencodable, fun _ => rfl⟩, fun hafter => hafter.2.1⟩
        · intro hstaged other
          rw [stage_find ((stage_raised hopen _).mp hstaged)]
          split
          · next hsame =>
            subst hsame
            rw [hown, hnil, List.nil_append, stagedOf, hkind]
          · next hother => rw [hothers other hother, hfind other]
      | error raised =>
        refine ⟨?_, fun hafter => by cases hafter⟩
        rw [clean_append hid, hkind]
        constructor
        · intro hafter
          cases hafter
        · rintro ⟨-, -, hfirst⟩
          cases hfirst hnil
  · rw [readLine_of_raised (Option.isSome_iff_ne_none.mpr hopen)]
    refine ⟨?_, fun hafter => absurd hafter hopen⟩
    rw [clean_append hid]
    exact ⟨fun hafter => absurd hafter hopen, fun hafter => absurd (h.clean.mpr hafter.1) hopen⟩

theorem Reads.readLine {lines : List (Bool × Option Value)} {reading : Reading} (h : Reads runtime lines reading)
    (isError : Bool) (line : Option Value) : Reads runtime (lines ++ [(isError, line)]) (readLine runtime isError reading line) := by
  by_cases hcarried : ∃ record id, line = some record ∧ customId record = some id
  · obtain ⟨record, id, rfl, hid⟩ := hcarried
    exact h.readLine_of_some isError hid
  · have hnone : ∀ record, line = some record → customId record = none := by
      intro record hline
      cases hid : customId record with
      | none => rfl
      | some id => exact absurd ⟨record, id, hline, hid⟩ hcarried
    have hempty : ∀ id, own id [(isError, line)] = [] := by
      intro id
      cases line with
      | none => rfl
      | some record =>
        rw [own_singleton, hnone record rfl, if_neg (by simp)]
    obtain ⟨hraised, hrecords⟩ := readLine_of_none reading isError hnone
    refine ⟨?_, ?_⟩
    · rw [hraised, clean_append_of_none hempty]
      exact h.clean
    · intro hopen id
      rw [hrecords, own_append, hempty id, List.append_nil]
      exact h.find (hraised ▸ hopen) id

theorem readAll_reads (lines : List (Bool × Option Value)) : Reads runtime lines (readAll runtime lines) := by
  induction lines using List.reverseRecOn with
  | nil => exact ⟨⟨fun _ => ⟨fun _ _ h => absurd h List.not_mem_nil, fun _ _ h => by cases h⟩, fun _ => rfl⟩, fun _ _ => rfl⟩
  | append_singleton lines line ih =>
    rw [readAll, List.foldl_append]
    exact ih.readLine line.1 line.2

end Reading

end InkTime.Import
