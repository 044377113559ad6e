import InkTime.Import.Lines

/-!
# When lines are independent

The transactions of a run are those of its items, each drawn up from the lines of the item. A run meets what is promised of
it exactly where its lines are harmless.
-/

namespace InkTime.Import

open Json (Value)
open Batches (Item ItemStatus)

variable {runtime : Runtime} {source : Source} {view : Item → Freshness}

/-! ### One item -/

/-- The staged record of some lines is that of the last one. -/
lemma stagedOf_last {id : String} {lines : List (Bool × Value)} {staged : Staged} (h : stagedOf runtime id lines = some staged) :
    ∃ line, lines.getLast? = some line ∧ staged.record = line.2 ∧
      ((staged.kind = .duplicate ∧ ∀ only, lines ≠ [only]) ∨
        (lines = [line] ∧ classify runtime line.1 line.2 = .ok staged.kind)) := by
  match lines with
  | [] => cases h
  | [line] =>
    rw [stagedOf] at h
    cases hkind : classify runtime line.1 line.2 with
    | error raised =>
      rw [hkind] at h
      cases h
    | ok kind =>
      rw [hkind] at h
      obtain rfl := Option.some.inj h
      exact ⟨line, rfl, rfl, .inr ⟨rfl, hkind⟩⟩
  | first :: second :: rest =>
    obtain rfl := Option.some.inj h
    refine ⟨_, ?_, rfl, .inl ⟨rfl, fun only heq => by cases heq⟩⟩
    rw [List.getLast?_cons_cons, List.getLast?_eq_some_getLast (List.cons_ne_nil _ _)]

lemma stagedOf_isSome {id : String} {lines : List (Bool × Value)} (hne : lines ≠ [])
    (hclassified : ∀ line, lines = [line] → (classify runtime line.1 line.2).isOk = true) :
    ∃ staged, stagedOf runtime id lines = some staged := by
  rw [← Option.isSome_iff_exists, Option.isSome_iff_ne_none]
  exact fun hnone => hne (stagedOf_eq_none_of runtime hnone hclassified)

lemma missingResult_mem {item : Item} {op : Op} (h : op ∈ missingResult item) :
    op = .mark item.id .retryPending ∨ ∃ jobItemId, op = .failJobItem jobItemId := by
  unfold missingResult at h
  split at h
  · cases h
  · obtain rfl | h := List.mem_cons.mp h
    · exact .inl rfl
    · split at h
      · exact .inr ⟨_, List.mem_singleton.mp h⟩
      · cases h

/-- What the transactions of an item ask of its lines. -/
structure Passes (runtime : Runtime) (source : Source) (view : Item → Freshness) (item : Item) (lines : List (Bool × Value)) :
    Prop where
  bound : ∀ line body, lines.getLast? = some line → responseBody line.2 = some body → bindable (receiptId line.2 body) = true
  error : ∀ line, lines = [line] → classify runtime line.1 line.2 = .ok .error → errorReadable line.2 = true
  choices : ∀ line body, lines = [line] → classify runtime line.1 line.2 = .ok (.success body) → importable item.status = true →
    view item = .fresh → source.responses = false → choicesReadable body = true

lemma group_no_raise (item : Item) {lines : List (Bool × Value)}
    (hclassified : ∀ line, lines = [line] → (classify runtime line.1 line.2).isOk = true) :
    (∀ raised, Op.raise raised ∉ group runtime source view item lines) ↔ Passes runtime source view item lines := by
  by_cases hnil : lines = []
  · subst hnil
    refine ⟨fun _ => ⟨?_, ?_, ?_⟩, fun _ raised hmem => ?_⟩
    · rintro _ _ ⟨⟩
    · rintro _ ⟨⟩
    · rintro _ _ ⟨⟩
    · obtain heq | ⟨_, heq⟩ := missingResult_mem hmem <;> cases heq
  · obtain ⟨staged, hstaged⟩ : ∃ staged, stagedOf runtime item.customId lines = some staged :=
      stagedOf_isSome hnil hclassified
    obtain ⟨last, hlast, hrecord, hkind⟩ := stagedOf_last hstaged
    rw [group, hstaged, applyRecord_no_raise, hrecord]
    constructor
    · rintro ⟨hbound, herror, hsuccess⟩
      refine ⟨?_, ?_, ?_⟩
      · intro line body hline
        obtain rfl := Option.some.inj (hlast.symm.trans hline)
        exact hbound body
      · intro line hline hclassify
        obtain ⟨-, hmany⟩ | ⟨rfl, hstagedKind⟩ := hkind
        · exact absurd hline (hmany line)
        · obtain ⟨rfl⟩ := hline
          exact herror (Except.ok.inj (hstagedKind.symm.trans hclassify))
      · intro line body hline hclassify
        obtain ⟨-, hmany⟩ | ⟨rfl, hstagedKind⟩ := hkind
        · exact absurd hline (hmany line)
        · obtain ⟨rfl⟩ := hline
          have hok := (hsuccess body (Except.ok.inj (hstagedKind.symm.trans hclassify))).2
          exact (importOutcome_isOk_iff item body).mp hok
    · intro h
      refine ⟨fun body => h.bound last body hlast, ?_, ?_⟩
      · intro herror
        obtain ⟨hduplicate, -⟩ | ⟨rfl, hstagedKind⟩ := hkind
        · rw [hduplicate] at herror
          cases herror
        · exact h.error last rfl (herror ▸ hstagedKind)
      · intro body hsuccess
        obtain ⟨hduplicate, -⟩ | ⟨rfl, hstagedKind⟩ := hkind
        · rw [hduplicate] at hsuccess
          cases hsuccess
        · have hclassify : classify runtime last.1 last.2 = .ok (.success body) := hsuccess ▸ hstagedKind
          exact ⟨h.bound last body rfl (classify_success hclassify),
            (importOutcome_isOk_iff item body).mpr (h.choices last body rfl hclassify)⟩

/-- The body of the last line is paid for. -/
lemma group_receipt (item : Item) {lines : List (Bool × Value)} {last : Bool × Value} {body : Value}
    (hclassified : ∀ line, lines = [line] → (classify runtime line.1 line.2).isOk = true)
    (hlast : lines.getLast? = some last) (hbody : responseBody last.2 = some body)
    (hbound : bindable (receiptId last.2 body) = true) :
    ∃ requestId raw paid, Op.receipt item.id requestId raw paid ∈ group runtime source view item lines := by
  have hne : lines ≠ [] := by
    rintro rfl
    cases hlast
  obtain ⟨staged, hstaged⟩ : ∃ staged, stagedOf runtime item.customId lines = some staged := stagedOf_isSome hne hclassified
  obtain ⟨line, hline, hrecord, -⟩ := stagedOf_last hstaged
  obtain rfl := Option.some.inj (hlast.symm.trans hline)
  have hpersist : persistReceipt runtime source item last.2 body = .receipt item.id (runtime.column (receiptId last.2 body))
      (runtime.dumps last.2) (receiptOf runtime source item body) := if_pos hbound
  have hmem : persistReceipt runtime source item last.2 body ∈ group runtime source view item lines := by
    rw [group, hstaged]
    unfold applyRecord
    dsimp only
    rw [hrecord, hbody, Option.map_some]
    exact List.mem_append_left _ (List.mem_singleton.mpr rfl)
  rw [hpersist] at hmem
  exact ⟨_, _, _, hmem⟩

lemma markItemError_pays (item : Item) (status : ItemStatus) {op : Op} (h : op ∈ markItemError source item status) (id : String) :
    op.pays id = false := by
  unfold markItemError at h
  split at h
  · cases h
  · obtain rfl | h := List.mem_cons.mp h
    · rfl
    · split at h
      · obtain rfl := List.mem_singleton.mp h
        rfl
      · cases h

/-- Without a body on the last line nothing is paid for. -/
lemma group_pays (item : Item) {lines : List (Bool × Value)}
    (hlast : ∀ line, lines.getLast? = some line → responseBody line.2 = none) (id : String) :
    ∀ op ∈ group runtime source view item lines, op.pays id = false := by
  intro op hop
  unfold group at hop
  split at hop
  · next staged hstaged =>
    obtain ⟨line, hline, hrecord, hkind⟩ := stagedOf_last hstaged
    have hnone := hlast line hline
    rw [applyRecord, hrecord, hnone] at hop
    simp only [Option.map_none, Option.toList_none, List.nil_append] at hop
    split at hop
    · exact markItemError_pays item _ hop id
    · split at hop
      · exact markItemError_pays item _ hop id
      · obtain rfl := List.mem_singleton.mp hop
        rfl
    · exact markItemError_pays item _ hop id
    · next body hsuccess =>
      obtain ⟨hduplicate, -⟩ | ⟨-, hclassify⟩ := hkind
      · rw [hduplicate] at hsuccess
        cases hsuccess
      · rw [hsuccess] at hclassify
        rw [classify_success hclassify] at hnone
        cases hnone
  · obtain rfl | ⟨jobItemId, rfl⟩ := missingResult_mem hop <;> rfl

/-! ### The verdict -/

variable (runtime source view) in
/-- The status of an item after its lines in the output and the error file. -/
def verdict (item : Item) (output error : List Value) : ItemStatus :=
  effects item.id (group runtime source view item
    (output.map (fun record => (false, record)) ++ error.map fun record => (true, record))) item.status

lemma effects_append (itemId : String) (ops more : List Op) (status : ItemStatus) :
    effects itemId (ops ++ more) status = effects itemId more (effects itemId ops status) :=
  List.foldl_append

lemma effects_markItemError (item : Item) (status : ItemStatus) :
    effects item.id (markItemError source item status) item.status =
      if item.status = .imported then .imported else status := by
  unfold markItemError
  by_cases himported : item.status = .imported
  · simp [himported, effects]
  · rw [if_neg himported, if_neg (by simpa using himported)]
    split <;> simp [effects, Op.effect]

/-- Several lines of one item, whatever they are. -/
lemma effects_duplicate (item : Item) (first second : Bool × Value) (rest : List (Bool × Value)) :
    effects item.id (group runtime source view item (first :: second :: rest)) item.status =
      if item.status = .imported then .imported else .duplicateCustomId := by
  have hnone : ∀ record : Value, ∀ op ∈ ((responseBody record).map (persistReceipt runtime source item record)).toList,
      op.writes item.id = false := by
    intro record op hop
    obtain ⟨body, -, rfl⟩ := Option.map_eq_some_iff.mp (Option.mem_toList.mp hop)
    unfold persistReceipt
    dsimp only
    split <;> rfl
  rw [group, stagedOf]
  simp only [applyRecord]
  rw [effects_append, effects_of_none (hnone _), effects_markItemError]

theorem verdict_perm (item : Item) {output output' error error' : List Value} (houtput : output.Perm output')
    (herror : error.Perm error') :
    verdict runtime source view item output error = verdict runtime source view item output' error' := by
  unfold verdict
  have hlength : (output.map (fun record => (false, record)) ++ error.map fun record => (true, record)).length =
      (output'.map (fun record => (false, record)) ++ error'.map fun record => (true, record)).length := by
    simp [houtput.length_eq, herror.length_eq]
  have hperm : (output.map (fun record => (false, record)) ++ error.map fun record => (true, record)).Perm
      (output'.map (fun record => (false, record)) ++ error'.map fun record => (true, record)) :=
    (houtput.map _).append (herror.map _)
  generalize output.map (fun record => (false, record)) ++ error.map (fun record => (true, record)) = lines at *
  generalize output'.map (fun record => (false, record)) ++ error'.map (fun record => (true, record)) = lines' at *
  match lines, lines' with
  | [], [] => rfl
  | [line], [line'] => rw [List.perm_singleton.mp hperm]
  | first :: second :: rest, first' :: second' :: rest' => rw [effects_duplicate, effects_duplicate]
  | [], _ :: _ => cases hlength
  | [_], [] => cases hlength
  | [_], _ :: _ :: _ => simp at hlength
  | _ :: _ :: _, [] => cases hlength
  | _ :: _ :: _, [_] => simp at hlength

lemma verdict_missing {item : Item} (h : settled item.status = false) :
    verdict runtime source view item [] [] = .retryPending := by
  change effects item.id (missingResult item) item.status = .retryPending
  unfold missingResult
  rw [if_neg (by simp [h])]
  split <;> simp [effects, Op.effect]

/-! ### Programs -/

section Programs

variable {db : Db}

lemma expected_eq_some {items : List Item} (hunique : ∀ item ∈ items, ∀ other ∈ items, item.customId = other.customId → item = other)
    {id : String} {item : Item} :
    (items.find? fun item => item.customId == id) = some item ↔ item ∈ items ∧ item.customId = id := by
  constructor
  · intro h
    exact ⟨List.mem_of_find?_eq_some h, by simpa using List.find?_some h⟩
  · rintro ⟨hitem, rfl⟩
    cases hfound : items.find? fun other => other.customId == item.customId with
    | none => exact absurd (List.find?_eq_none.mp hfound item hitem) (by simp)
    | some other =>
      have hother := List.mem_of_find?_eq_some hfound
      have hsame : other.customId = item.customId := by simpa using List.find?_some hfound
      rw [hunique other hother item hitem hsame]

/-- Besides the notes on the batch, a run does what its items ask for. -/
theorem program_mem {items : List Item} (hunique : ∀ item ∈ items, ∀ other ∈ items, item.customId = other.customId → item = other)
    {lines : List (Bool × Option Value)} (hopen : (readAll runtime lines).raised = none) {op : Op}
    (hop : ∀ code, op ≠ .problem code) :
    op ∈ program runtime source view items (readAll runtime lines) ↔
      ∃ item ∈ items, op ∈ group runtime source view item (own item.customId lines) := by
  have hfind := (readAll_reads lines).find hopen
  have hnotes : ∀ codes : List String, op ∉ codes.map Op.problem := by
    intro codes hmem
    obtain ⟨code, -, heq⟩ := List.mem_map.mp hmem
    exact hop code heq.symm
  have hunknown : ∀ c : Bool, op ∉ if c then [Op.problem "unexpected_custom_id"] else [] := by
    intro c hmem
    cases c with
    | true => exact hop _ (List.mem_singleton.mp hmem)
    | false => cases hmem
  unfold program
  dsimp only
  rw [hopen]
  simp only [List.mem_append, hnotes, hunknown, false_or, List.mem_flatMap, List.mem_filter, Option.isNone_iff_eq_none]
  constructor
  · rintro (⟨staged, hstaged, hmem⟩ | ⟨item, ⟨hitem, hnone⟩, hmem⟩)
    · split at hmem
      · cases hmem
      · next item hexpected =>
        obtain ⟨hitem, hid⟩ := (expected_eq_some hunique).mp hexpected
        have hrow : staged ∈ (readAll runtime lines).records := (List.mem_insertionSort _).mp hstaged
        have hfound := Table.find_of_mem hrow
        rw [hfind, ← hid] at hfound
        refine ⟨item, hitem, ?_⟩
        rw [group, hfound]
        exact hmem
    · refine ⟨item, hitem, ?_⟩
      rw [hfind] at hnone
      rw [group, hnone]
      exact hmem
  · rintro ⟨item, hitem, hmem⟩
    cases hstaged : stagedOf runtime item.customId (own item.customId lines) with
    | some staged =>
      rw [group, hstaged] at hmem
      obtain ⟨hrow, hid⟩ := Table.find_eq_some ((hfind item.customId).trans hstaged)
      refine .inl ⟨staged, (List.mem_insertionSort _).mpr hrow, ?_⟩
      rw [(expected_eq_some hunique).mpr ⟨hitem, hid.symm⟩]
      exact hmem
    | none =>
      rw [group, hstaged] at hmem
      exact .inr ⟨item, ⟨hitem, (hfind item.customId).trans hstaged⟩, hmem⟩

lemma mem_own_lines {id : String} {files : Files} {record : Value} :
    (∃ isError, (isError, record) ∈ own id files.lines) ↔ record ∈ carrying id files.output ++ carrying id files.error := by
  rw [own_lines, List.mem_append]
  simp [List.mem_append, exists_or]

lemma clean_iff (files : Files) :
    Clean runtime files.lines ↔
      (∀ id, ∀ record ∈ carrying id files.output ++ carrying id files.error, record.encodable = true) ∧
      ∀ id record, (carrying id files.output).head? = some record → statusOverflows record = false := by
  constructor
  · rintro ⟨hencodable, hclassified⟩
    refine ⟨?_, ?_⟩
    · intro id record hrecord
      obtain ⟨isError, hmem⟩ := mem_own_lines.mpr hrecord
      exact hencodable id _ hmem
    · intro id record hhead
      have hfirst : (own id files.lines).head? = some (false, record) := by
        rw [own_lines, List.head?_append, List.head?_map, hhead]
        rfl
      have hok := hclassified id (false, record) hfirst
      rw [classify_isOk_iff] at hok
      exact hok.resolve_left (by simp)
  · rintro ⟨hencodable, hstatus⟩
    refine ⟨?_, ?_⟩
    · rintro id ⟨isError, record⟩ hline
      exact hencodable id record (mem_own_lines.mp ⟨isError, hline⟩)
    · intro id line hhead
      rw [classify_isOk_iff]
      rw [own_lines, List.head?_append, List.head?_map] at hhead
      cases houtput : (carrying id files.output).head? with
      | some record =>
        rw [houtput] at hhead
        obtain rfl := Option.some.inj hhead
        exact .inr (hstatus id record houtput)
      | none =>
        rw [houtput, List.head?_map] at hhead
        obtain ⟨record, -, rfl⟩ := Option.map_eq_some_iff.mp hhead
        exact .inl rfl

end Programs

/-! ### Runs -/

section Runs

variable (runtime source view)

/-- The run goes through, the status of each item follows from its own lines, and what was paid for it is recorded. -/
def Reconciled (status : Item → List Value → List Value → ItemStatus) (db : Db) (files : Files) : Prop :=
  ∃ db', reconcile runtime source view db files = .ok db' ∧ ∀ item ∈ db.itemsOf source.id,
    db'.statusOf item.id = some (status item (carrying item.customId files.output) (carrying item.customId files.error)) ∧
    ((∃ record ∈ carrying item.customId files.output ++ carrying item.customId files.error, (responseBody record).isSome = true) →
      1 ≤ receipts db' item.id)

variable {runtime source view} {db db' : Db} {files : Files}

lemma program_able (hwell : WellFormed source db) (hopen : (readAll runtime files.lines).raised = none) :
    ∀ op ∈ program runtime source view (db.itemsOf source.id) (readAll runtime files.lines), op.Able db := by
  intro op hop
  by_cases hproblem : ∃ code, op = .problem code
  · obtain ⟨code, rfl⟩ := hproblem
    trivial
  · obtain ⟨item, hitem, hmem⟩ :=
      (program_mem hwell.customIds hopen fun code heq => hproblem ⟨code, heq⟩).mp hop
    exact group_able hwell hitem _ op hmem

/-- A run that goes through has read its files. -/
lemma clean_of_ok (h : reconcile runtime source view db files = .ok db') : Clean runtime files.lines := by
  rw [← (readAll_reads files.lines).clean]
  by_contra hraised
  obtain ⟨raised, hraised⟩ := Option.ne_none_iff_exists'.mp hraised
  rw [reconcile, readFiles_eq] at h
  have hprogram : program runtime source view (db.itemsOf source.id) (readAll runtime files.lines) =
      (readAll runtime files.lines).problems.map Op.problem ++ [.raise raised] := by
    unfold program
    rw [hraised]
  have hable : ∀ op ∈ program runtime source view (db.itemsOf source.id) (readAll runtime files.lines), op.Able db := by
    intro op hop
    rw [hprogram, List.mem_append, List.mem_singleton, List.mem_map] at hop
    obtain ⟨code, -, rfl⟩ | rfl := hop <;> trivial
  apply (execAll_ok_iff hable).mp ⟨db', h⟩ raised
  rw [hprogram]
  exact List.mem_append_right _ (List.mem_singleton.mpr rfl)

lemma classified_of_clean (h : Clean runtime files.lines) (id : String) :
    ∀ line, own id files.lines = [line] → (classify runtime line.1 line.2).isOk = true := by
  intro line hline
  exact h.classified id line (by rw [hline]; rfl)

theorem reconcile_ok_iff (hwell : WellFormed source db) (hclean : Clean runtime files.lines) :
    (∃ db', reconcile runtime source view db files = .ok db') ↔
      ∀ item ∈ db.itemsOf source.id, Passes runtime source view item (own item.customId files.lines) := by
  have hopen := (readAll_reads files.lines).clean.mpr hclean
  rw [reconcile, readFiles_eq, execAll_ok_iff (program_able hwell hopen)]
  constructor
  · intro h item hitem
    apply (group_no_raise item (classified_of_clean hclean item.customId)).mp
    intro raised hmem
    exact h raised ((program_mem hwell.customIds hopen fun _ heq => by cases heq).mpr ⟨item, hitem, hmem⟩)
  · intro h raised hmem
    obtain ⟨item, hitem, hgroup⟩ := (program_mem hwell.customIds hopen fun _ heq => by cases heq).mp hmem
    exact (group_no_raise item (classified_of_clean hclean item.customId)).mpr (h item hitem) raised hgroup

/-- A transaction of the program about an item is one of its own. -/
lemma program_own (hwell : WellFormed source db) (hopen : (readAll runtime files.lines).raised = none) {item : Item}
    (hitem : item ∈ db.itemsOf source.id) {op : Op} (hop : op.writes item.id = true ∨ op.pays item.id = true) :
    op ∈ program runtime source view (db.itemsOf source.id) (readAll runtime files.lines) ↔
      op ∈ group runtime source view item (own item.customId files.lines) := by
  have hnote : ∀ code, op ≠ .problem code := by
    rintro code rfl
    obtain hop | hop := hop <;> cases hop
  rw [program_mem hwell.customIds hopen hnote]
  constructor
  · rintro ⟨other, hother, hmem⟩
    have hid : item.id = other.id := by
      obtain hwrites | hpays := hop
      · exact (about_group other _).writes op hmem item.id hwrites
      · exact (about_group other _).pays op hmem item.id hpays
    rw [Table.eq_of_key_eq (List.mem_filter.mp hitem).1 (List.mem_filter.mp hother).1 hid]
    exact hmem
  · intro hmem
    exact ⟨item, hitem, hmem⟩

theorem reconcile_statusOf (hwell : WellFormed source db) (hclean : Clean runtime files.lines)
    (h : reconcile runtime source view db files = .ok db') {item : Item} (hitem : item ∈ db.itemsOf source.id) :
    db'.statusOf item.id = some (verdict runtime source view item (carrying item.customId files.output)
      (carrying item.customId files.error)) := by
  have hopen := (readAll_reads files.lines).clean.mpr hclean
  rw [reconcile, readFiles_eq] at h
  rw [execAll_statusOf h, Db.statusOf, Table.find_of_mem (List.mem_filter.mp hitem).1, Option.map_some, Option.map_some,
    verdict, ← own_lines]
  congr 1
  apply effects_congr
  · intro op hwrites
    exact program_own hwell hopen hitem (.inl hwrites)
  · exact (about_group item _).one

theorem reconcile_receipts (hwell : WellFormed source db) (hclean : Clean runtime files.lines)
    (h : reconcile runtime source view db files = .ok db') {item : Item} (hitem : item ∈ db.itemsOf source.id) :
    1 ≤ receipts db' item.id ↔
      (∃ line, (own item.customId files.lines).getLast? = some line ∧ (responseBody line.2).isSome = true) ∨
        1 ≤ receipts db item.id := by
  have hopen := (readAll_reads files.lines).clean.mpr hclean
  have hpasses := (reconcile_ok_iff hwell hclean).mp ⟨db', h⟩ item hitem
  rw [reconcile, readFiles_eq] at h
  obtain ⟨hmono, hnone, hsome⟩ := execAll_receipts h item.id
  constructor
  · intro hone
    by_contra hneither
    rw [not_or, not_exists] at hneither
    have hlast : ∀ line, (own item.customId files.lines).getLast? = some line → responseBody line.2 = none := by
      intro line hline
      by_contra hbody
      exact hneither.1 line ⟨hline, Option.isSome_iff_ne_none.mpr hbody⟩
    have hunpaid : ∀ op ∈ program runtime source view (db.itemsOf source.id) (readAll runtime files.lines),
        op.pays item.id = false := by
      intro op hop
      by_contra hpays
      have hpays : op.pays item.id = true := by simpa using hpays
      rw [group_pays item hlast item.id op ((program_own hwell hopen hitem (.inr hpays)).mp hop)] at hpays
      cases hpays
    rw [hnone hunpaid] at hone
    exact hneither.2 hone
  · rintro (⟨line, hline, hbody⟩ | hbefore)
    · obtain ⟨body, hbody⟩ := Option.isSome_iff_exists.mp hbody
      obtain ⟨requestId, raw, paid, hmem⟩ :=
        group_receipt item (classified_of_clean hclean item.customId) hline hbody (hpasses.bound line body hline hbody)
      apply hsome requestId raw paid
      exact (program_own hwell hopen hitem (.inr (beq_self_eq_true _))).mpr hmem
    · exact hbefore.trans hmono

/-- Lines are independent exactly where they are harmless. -/
theorem lines_independent_iff (runtime : Runtime) (source : Source) (view : Item → Freshness) :
    ∃ status : Item → List Value → List Value → ItemStatus,
      (∀ item {output output' error error' : List Value}, output.Perm output' → error.Perm error' →
        status item output error = status item output' error') ∧
      (∀ item, settled item.status = false → status item [] [] = .retryPending) ∧
      ∀ db files, WellFormed source db →
        (Reconciled runtime source view status db files ↔ Harmless runtime source view db files) := by
  refine ⟨verdict runtime source view, fun item _ _ _ _ => verdict_perm item, fun _ => verdict_missing, ?_⟩
  intro db files hwell
  constructor
  · rintro ⟨db', h, hitems⟩
    have hclean := clean_of_ok h
    obtain ⟨hencodable, hstatus⟩ := (clean_iff files).mp hclean
    refine ⟨hencodable, hstatus, ?_⟩
    intro item hitem
    have hpasses := (reconcile_ok_iff hwell hclean).mp ⟨db', h⟩ item hitem
    refine ⟨hpasses.bound, hpasses.error, hpasses.choices, ?_⟩
    rintro ⟨line, hline, hbody⟩
    rw [← reconcile_receipts hwell hclean h hitem]
    exact (hitems item hitem).2 ⟨line.2, mem_own_lines.mp ⟨line.1, hline⟩, hbody⟩
  · intro h
    have hclean : Clean runtime files.lines := (clean_iff files).mpr ⟨h.encodable, h.status⟩
    obtain ⟨db', hdb⟩ := (reconcile_ok_iff hwell hclean).mpr fun item hitem =>
      ⟨(h.items item hitem).bound, (h.items item hitem).error, (h.items item hitem).choices⟩
    refine ⟨db', hdb, fun item hitem => ⟨reconcile_statusOf hwell hclean hdb hitem, ?_⟩⟩
    rintro ⟨record, hrecord, hbody⟩
    obtain ⟨isError, hline⟩ := mem_own_lines.mpr hrecord
    rw [reconcile_receipts hwell hclean hdb hitem]
    exact (h.items item hitem).paid ⟨(isError, record), hline, hbody⟩

end Runs

lemma submittedItem_wellFormed : WellFormed batchSource submittedItem where
  customIds := by decide
  job := fun _ => by decide
  photos := by
    intro item hitem
    obtain rfl : item = _ := List.mem_singleton.mp hitem
    exact ⟨"photo", rfl, by decide⟩

lemma oneAnswer_carrying (id : String) :
    carrying id oneAnswer.output ++ carrying id oneAnswer.error =
      if id = firstId then [answerLine firstId "answer"] else [] := by
  have hid : customId (answerLine firstId "answer") = some firstId := by decide
  simp only [oneAnswer, carrying, List.filterMap_cons, List.filterMap_nil, List.append_nil, Option.filter_some, hid]
  by_cases h : id = firstId
  · simp [h]
  · simp [h, Ne.symm h]

theorem oneAnswer_reconciled :
    ∃ status, Reconciled plainRuntime batchSource (fun _ => .fresh) status submittedItem oneAnswer := by
  obtain ⟨status, -, -, h⟩ := lines_independent_iff plainRuntime batchSource fun _ => .fresh
  refine ⟨status, (h submittedItem oneAnswer submittedItem_wellFormed).mpr ⟨?_, ?_, ?_⟩⟩
  · intro id record hrecord
    rw [oneAnswer_carrying] at hrecord
    split at hrecord
    · obtain rfl := List.mem_singleton.mp hrecord
      decide
    · cases hrecord
  · intro id record hhead
    have hmem := List.mem_append_left (carrying id oneAnswer.error) (List.mem_of_mem_head? hhead)
    rw [oneAnswer_carrying] at hmem
    split at hmem
    · obtain rfl := List.mem_singleton.mp hmem
      decide
    · cases hmem
  · intro item hitem
    obtain rfl : item = _ := List.mem_singleton.mp hitem
    have hown : own firstId oneAnswer.lines = [(false, answerLine firstId "answer")] := by rfl
    change HarmlessItem _ _ _ _ _ (own firstId oneAnswer.lines)
    rw [hown]
    refine ⟨?_, ?_, ?_, ?_⟩
    · rintro _ body ⟨rfl⟩ hbody
      obtain rfl := Option.some.inj hbody
      decide
    · rintro _ ⟨rfl⟩ _
      decide
    · rintro _ body ⟨rfl⟩ hclassify - - -
      obtain ⟨rfl⟩ := Except.ok.inj hclassify
      decide
    · intro _
      exact .inl ⟨_, rfl, by decide⟩

/-- A line of an item with an error in place of an answer. -/
def errorLine (customId : String) (error : Value) : Value :=
  .object [(.utf8 "custom_id", .str (.utf8 customId)), (.utf8 "error", error)]

/-- An error that is a text ends the run. An error line that follows an answer hides what was paid for it. -/
theorem lines_dependent :
    (reconcile plainRuntime batchSource (fun _ => .fresh) submittedItem
      ⟨[some (errorLine firstId (.str (.utf8 "rate limited")))], []⟩).isOk = false ∧
    ((reconcile plainRuntime batchSource (fun _ => .fresh) submittedItem
      ⟨[some (answerLine firstId "answer")], [some (errorLine firstId (.object []))]⟩).toOption.map fun db =>
        receipts db "item") = some 0 := by
  decide +kernel

end InkTime.Import
