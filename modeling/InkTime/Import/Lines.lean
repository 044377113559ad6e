import InkTime.Import.Execution

/-!
# Lines are independent

What a run does to an item is drawn up from the record of the item alone. It follows when a run goes through, which status
an item then has, and when its receipt is missing: a later line takes the place of the record of an earlier one.
-/

namespace InkTime.Import

open Json (Value)
open Batches (Item ItemStatus)
open Ledger (Receipt)

/-! ### The condition -/

/-- `int()` of the status code raises `OverflowError`. -/
def statusOverflows (record : Value) : Bool :=
  (record.get "error").isNull && ((record.get "response").get "status_code").isInfinite

/-- `record.get("error") or {}` has fields. -/
def errorReadable (record : Value) : Bool := !(record.get "error").truthy || (record.get "error").isObject

/-- The choices are absent, or their first has the shape of a chat completion as far as it is read. -/
def choicesReadable (body : Value) : Bool :=
  !(body.get "choices").truthy ||
    match body.get "choices" with
    | .array (choice :: _) =>
      choice.isObject && (choice.get "finish_reason").hashable &&
        ((choice.get "finish_reason").isText "length" || (choice.get "finish_reason").isText "content_filter" ||
          (choice.get "finish_reason").isText "max_tokens" || (choice.field "message").all Value.isObject)
    | _ => false

/-- The request id that is stored with a receipt. -/
def receiptId (record body : Value) : Value := (requestId record).orElse (body.get "id")

section Condition

variable (runtime : Runtime) (source : Source) (view : Item → Freshness)

/-- The lines of an item, those of the error file last. -/
structure HarmlessItem (db : Db) (item : Item) (lines : List (Bool × Value)) : Prop where
  /-- SQLite takes the request id of the last line. -/
  bound : ∀ line body, lines.getLast? = some line → responseBody line.2 = some body → bindable (receiptId line.2 body) = true
  /-- The error of a single line is an object, or nothing. -/
  error : ∀ line, lines = [line] → classify runtime line.1 line.2 = .ok .error → errorReadable line.2 = true
  /-- The choices of a single line that is imported can be read. -/
  choices : ∀ line body, lines = [line] → classify runtime line.1 line.2 = .ok (.success body) → importable item.status = true →
    view item = .fresh → source.responses = false → choicesReadable body = true
  /-- What was paid is on the last line, or recorded already. -/
  paid : (∃ line ∈ lines, (responseBody line.2).isSome = true) →
    (∃ line, lines.getLast? = some line ∧ (responseBody line.2).isSome = true) ∨ 1 ≤ receipts db item.id

structure Harmless (db : Db) (files : Files) : Prop where
  encodable : ∀ id, ∀ record ∈ carrying id files.output ++ carrying id files.error, record.encodable = true
  /-- The first line of an id has no infinite status code. -/
  status : ∀ id record, (carrying id files.output).head? = some record → statusOverflows record = false
  items : ∀ item ∈ db.itemsOf source.id, HarmlessItem runtime source view db item (own item.customId files.lines)

end Condition

/-! ### Replies -/

section Replies

variable {runtime : Runtime}

lemma statusCode_isOk (value : Value) : (statusCode runtime value).isOk = !value.isInfinite := by
  cases value with
  | float value => cases value <;> rfl
  | str text => cases text <;> rfl
  | null | bool | int | array | object => rfl

/-- A default and a falsy value are finite. -/
lemma isInfinite_default (response : Value) :
    (((response.field "status_code").getD (.int 0)).orElse (.int 0)).isInfinite = (response.get "status_code").isInfinite := by
  unfold Value.get
  cases response.field "status_code" with
  | none => rfl
  | some value =>
    rw [Option.getD_some, Option.getD_some, Value.orElse]
    split
    · rfl
    · next hfalsy =>
      cases value with
      | float value =>
        cases value with
        | finite => rfl
        | infinite | nan => exact absurd rfl hfalsy
      | null | bool | int | str | array | object => rfl

lemma get_of_not_object {value : Value} (h : value.isObject = false) (key : String) : value.get key = .null := by
  cases value with
  | object => cases h
  | null | bool | int | float | str | array => rfl

lemma classify_isOk_iff (isError : Bool) (record : Value) :
    (classify runtime isError record).isOk = true ↔ (isError = true ∨ statusOverflows record = false) := by
  unfold classify statusOverflows
  cases isError with
  | true => simp [Except.isOk, Except.toBool]
  | false =>
    cases hnull : (record.get "error").isNull with
    | false => simp [Except.isOk, Except.toBool]
    | true =>
      cases hobject : (record.get "response").isObject with
      | false =>
        rw [get_of_not_object hobject]
        simp [Except.isOk, Except.toBool, Value.isInfinite]
      | true =>
        have hok : ∀ status : Int, (if status ≠ 200 then (pure .error : Except Raised Kind)
            else if (!((record.get "response").get "body").isObject) = true then pure .schemaInvalid
            else pure (.success ((record.get "response").get "body"))).isOk = true := by
          intro status
          split
          · rfl
          · split <;> rfl
        simp only [Bool.false_or, Bool.not_true, Bool.false_eq_true, if_false, Bool.true_and, false_or]
        rw [Checked.isOk_bind_of_forall hok, statusCode_isOk, isInfinite_default]
        simp

lemma classify_success {isError : Bool} {record body : Value} (h : classify runtime isError record = .ok (.success body)) :
    responseBody record = some body := by
  unfold classify at h
  split at h
  · cases h
  · split at h
    · cases h
    · next hobject =>
      obtain ⟨status, -, h⟩ := Checked.bind_eq_ok.mp h
      split at h
      · cases h
      · split at h
        · cases h
        · next hbody =>
          obtain ⟨rfl⟩ := Except.ok.inj h
          simp only [Bool.not_eq_true', Bool.not_eq_false] at hobject hbody
          rw [responseBody, hobject, hbody]
          rfl

lemma orElse_isObject (message : Value) :
    (message.orElse (.object [])).isObject = (!message.truthy || message.isObject) := by
  unfold Value.orElse
  cases message.truthy <;> rfl

/-- What is read of the first choice. -/
lemma chatReply_of_choice {body choice : Value} {rest : List Value} (h : body.get "choices" = .array (choice :: rest)) :
    (chatReply runtime body).isOk = (choice.isObject && (choice.get "finish_reason").hashable &&
      ((choice.get "finish_reason").isText "length" || (choice.get "finish_reason").isText "content_filter" ||
        (choice.get "finish_reason").isText "max_tokens" || (choice.field "message").all Value.isObject)) := by
  have hfirst : firstChoice (body.get "choices") = .ok choice := by
    rw [h]
    rfl
  have htruthy : (body.get "choices").truthy = true := by
    rw [h]
    rfl
  unfold chatReply
  rw [hfirst]
  change (Checked.require choice.isObject _ >>= _).isOk = _
  rw [Checked.isOk_require_bind, Checked.isOk_require_bind, Bool.and_assoc]
  congr 2
  split
  · next hcut =>
    rw [hcut]
    rfl
  · next hwhole =>
    rw [Bool.not_eq_true] at hwhole
    rw [hwhole, Bool.false_or, Checked.isOk_require_bind, orElse_isObject, htruthy]
    simp only [Bool.not_true, Bool.false_eq_true, if_false]
    cases hmessage : choice.field "message" with
    | none =>
      have hnull : choice.get "message" = .null := by rw [Value.get, hmessage, Option.getD_none]
      rw [hnull]
      rfl
    | some message =>
      have hget : choice.get "message" = message := by rw [Value.get, hmessage, Option.getD_some]
      rw [hget, Option.getD_some, Option.all_some]
      cases hobject : message.isObject with
      | false =>
        rw [get_of_not_object hobject]
        exact Bool.and_false _
      | true =>
        rw [Bool.or_true, Bool.true_and]
        split
        · rfl
        · cases message.get "content" with
          | null | bool | int | float | array | object => rfl
          | str value => cases value <;> rfl

lemma chatReply_isOk_iff (body : Value) : (chatReply runtime body).isOk = true ↔ choicesReadable body = true := by
  unfold choicesReadable
  cases htruthy : (body.get "choices").truthy with
  | false =>
    have hfirst : firstChoice (body.get "choices") = .ok (.object []) := by
      unfold firstChoice
      rw [htruthy]
      rfl
    have hreply : chatReply runtime body = .ok .blank := by
      unfold chatReply
      rw [hfirst, htruthy]
      rfl
    rw [hreply]
    exact ⟨fun _ => rfl, fun _ => rfl⟩
  | true =>
    rw [Bool.not_true, Bool.false_or]
    cases hchoices : body.get "choices" with
    | array items =>
      cases items with
      | nil =>
        rw [hchoices] at htruthy
        cases htruthy
      | cons choice rest => rw [chatReply_of_choice hchoices]
    | null | bool | int | float | str | object =>
      rw [hchoices] at htruthy
      have hraised : (chatReply runtime body).isOk = false := by
        unfold chatReply firstChoice
        rw [hchoices, htruthy]
        rfl
      rw [hraised]

lemma responses_readable {payload body : Value} (h : responsesToCompletion runtime payload = some body) :
    choicesReadable body = true := by
  unfold responsesToCompletion at h
  dsimp only at h
  split at h
  · split at h
    · obtain ⟨gathered, -, h⟩ := Option.bind_eq_some_iff.mp h
      split at h
      · obtain rfl := Option.some.inj h
        simp [choicesReadable, Value.get, Value.field, Value.truthy, Value.isObject, Value.hashable]
      · cases h
    · cases h
  · cases h

end Replies

/-! ### The transactions of an item -/

section Group

variable (runtime : Runtime) (source : Source) (view : Item → Freshness)

/-- What a run does about an item whose lines are these. -/
def group (item : Item) (lines : List (Bool × Value)) : List Op :=
  match stagedOf runtime item.customId lines with
  | some staged => applyRecord runtime source view item staged
  | none => missingResult item

variable {runtime source view}

/-- Everything a run does about an item names it, and at most one transaction writes its status. -/
structure About (item : Item) (ops : List Op) : Prop where
  writes : ∀ op ∈ ops, ∀ id, op.writes id = true → id = item.id
  pays : ∀ op ∈ ops, ∀ id, op.pays id = true → id = item.id
  one : ∀ op ∈ ops, ∀ other ∈ ops, op.writes item.id = true → other.writes item.id = true → op = other
  problem : ∀ code, Op.problem code ∉ ops

lemma About.nil (item : Item) : About item [] where
  writes := fun _ h => absurd h List.not_mem_nil
  pays := fun _ h => absurd h List.not_mem_nil
  one := fun _ h => absurd h List.not_mem_nil
  problem := fun _ => List.not_mem_nil

/-- A transaction in front that does not write the status. -/
lemma About.cons {item : Item} {op : Op} {ops : List Op} (h : About item ops) (hwrites : ∀ id, op.writes id = false)
    (hpays : ∀ id, op.pays id = true → id = item.id) (hproblem : ∀ code, op ≠ .problem code) : About item (op :: ops) where
  writes := by
    intro other hother id hid
    obtain rfl | hother := List.mem_cons.mp hother
    · rw [hwrites id] at hid
      cases hid
    · exact h.writes other hother id hid
  pays := by
    intro other hother id hid
    obtain rfl | hother := List.mem_cons.mp hother
    · exact hpays id hid
    · exact h.pays other hother id hid
  one := by
    intro first hfirst second hsecond hone htwo
    obtain rfl | hfirst := List.mem_cons.mp hfirst
    · rw [hwrites] at hone
      cases hone
    · obtain rfl | hsecond := List.mem_cons.mp hsecond
      · rw [hwrites] at htwo
        cases htwo
      · exact h.one first hfirst second hsecond hone htwo
  problem := by
    intro code hmem
    obtain heq | hmem := List.mem_cons.mp hmem
    · exact hproblem code heq.symm
    · exact h.problem code hmem

/-- A write of the status, and what follows it. -/
lemma about_mark (item : Item) (status : ItemStatus) (jobItems : List String) :
    About item (.mark item.id status :: jobItems.map Op.failJobItem) where
  writes := by
    intro op hop id hid
    obtain rfl | hop := List.mem_cons.mp hop
    · exact (beq_iff_eq.mp hid).symm
    · obtain ⟨jobItem, -, rfl⟩ := List.mem_map.mp hop
      cases hid
  pays := by
    intro op hop id hid
    obtain rfl | hop := List.mem_cons.mp hop
    · cases hid
    · obtain ⟨jobItem, -, rfl⟩ := List.mem_map.mp hop
      cases hid
  one := by
    intro op hop other hother hone htwo
    obtain rfl | hop := List.mem_cons.mp hop
    · obtain rfl | hother := List.mem_cons.mp hother
      · rfl
      · obtain ⟨jobItem, -, rfl⟩ := List.mem_map.mp hother
        cases htwo
    · obtain ⟨jobItem, -, rfl⟩ := List.mem_map.mp hop
      cases hone
  problem := by
    intro code hmem
    obtain heq | hmem := List.mem_cons.mp hmem
    · cases heq
    · obtain ⟨jobItem, -, heq⟩ := List.mem_map.mp hmem
      cases heq

lemma about_markItemError (item : Item) (status : ItemStatus) : About item (markItemError source item status) := by
  unfold markItemError
  split
  · exact About.nil item
  · split
    · exact about_mark item status [item.jobItemId.getD ""]
    · exact about_mark item status []

lemma about_missingResult (item : Item) : About item (missingResult item) := by
  unfold missingResult
  split
  · exact About.nil item
  · split
    · exact about_mark item .retryPending [item.jobItemId.getD ""]
    · exact about_mark item .retryPending []

lemma about_raise (item : Item) (raised : Raised) : About item [.raise raised] :=
  (About.nil item).cons (fun _ => rfl) (fun _ h => by cases h) fun _ h => by cases h

lemma About.persistReceipt {item : Item} {ops : List Op} (h : About item ops) (record body : Value) :
    About item (persistReceipt runtime source item record body :: ops) := by
  unfold Import.persistReceipt
  dsimp only
  split
  · exact h.cons (fun _ => rfl) (fun id hid => (beq_iff_eq.mp hid).symm) fun _ heq => by cases heq
  · exact h.cons (fun _ => rfl) (fun _ hid => by cases hid) fun _ heq => by cases heq

lemma about_importItem (item : Item) (jobItemId requestId : Option String) (raw : String) (receipt : Receipt) :
    About item [.importItem item.id jobItemId requestId raw receipt] where
  writes := by
    intro op hop id hid
    obtain rfl := List.mem_singleton.mp hop
    exact (beq_iff_eq.mp hid).symm
  pays := by
    intro op hop id hid
    obtain rfl := List.mem_singleton.mp hop
    exact (beq_iff_eq.mp hid).symm
  one := by
    intro op hop other hother _ _
    rw [List.mem_singleton.mp hop, List.mem_singleton.mp hother]
  problem := by
    intro code hmem
    cases List.mem_singleton.mp hmem

lemma About.receipts {item : Item} {ops : List Op} (h : About item ops) (record : Value) (body : Option Value) :
    About item ((body.map (Import.persistReceipt runtime source item record)).toList ++ ops) := by
  cases body with
  | none => exact h
  | some body => exact h.persistReceipt _ _

theorem about_group (item : Item) (lines : List (Bool × Value)) : About item (group runtime source view item lines) := by
  have hsuccess : ∀ record body, About item (importSuccess runtime source view item record body) := by
    intro record body
    unfold importSuccess
    apply About.persistReceipt
    split
    · exact about_raise item _
    · exact About.nil item
    · exact about_markItemError item _
    · exact about_importItem item _ _ _ _
  unfold group
  split
  · next staged _ =>
    unfold applyRecord
    apply About.receipts
    split
    · exact about_markItemError item _
    · split
      · exact about_markItemError item _
      · exact about_raise item _
    · exact about_markItemError item _
    · exact hsuccess _ _
  · exact about_missingResult item

/-- The foreign keys of the batch and its items, and the unique index on `custom_id`. -/
structure WellFormed (source : Source) (db : Db) : Prop where
  customIds : ∀ item ∈ db.itemsOf source.id, ∀ other ∈ db.itemsOf source.id, item.customId = other.customId → item = other
  job : Batches.truthy source.jobId = true → (db.store.jobs.jobs.find (source.jobId.getD "")).isSome = true
  photos : ∀ item ∈ db.itemsOf source.id, ∃ photoId, item.photoId = some photoId ∧
    (db.store.jobs.photos.find photoId).isSome = true

lemma receiptOf_known {db : Db} (h : WellFormed source db) {item : Item} (hitem : item ∈ db.itemsOf source.id) (body : Value) :
    Ledger.knownReferences db.ledger (receiptOf runtime source item body) = true := by
  obtain ⟨photoId, hphoto, hfound⟩ := h.photos item hitem
  unfold Ledger.knownReferences receiptOf
  simp only [hphoto, Option.getD_some, Bool.and_eq_true]
  refine ⟨?_, hfound⟩
  cases hjob : Batches.truthy source.jobId with
  | false => rfl
  | true =>
    have hknown := h.job hjob
    cases hid : source.jobId with
    | none => rfl
    | some jobId =>
      rw [hid] at hknown
      exact hknown

/-- Nothing about an item of the batch fails for want of its rows. -/
theorem group_able {db : Db} (h : WellFormed source db) {item : Item} (hitem : item ∈ db.itemsOf source.id)
    (lines : List (Bool × Value)) : ∀ op ∈ group runtime source view item lines, op.Able db := by
  have hfound : (db.store.items.find item.id).isSome = true := by
    rw [Table.find_of_mem (List.mem_filter.mp hitem).1]
    rfl
  have hmark : ∀ status, ∀ op ∈ markItemError source item status, op.Able db := by
    intro status op hop
    unfold markItemError at hop
    split at hop
    · cases hop
    · obtain rfl | hop := List.mem_cons.mp hop
      · exact hfound
      · split at hop
        · obtain rfl := List.mem_singleton.mp hop
          trivial
        · cases hop
  have hpersist : ∀ record body, (persistReceipt runtime source item record body).Able db := by
    intro record body
    unfold persistReceipt
    dsimp only
    split
    · exact receiptOf_known h hitem body
    · trivial
  intro op hop
  unfold group at hop
  split at hop
  · unfold applyRecord at hop
    obtain hop | hop := List.mem_append.mp hop
    · obtain ⟨body, -, rfl⟩ := Option.map_eq_some_iff.mp (Option.mem_toList.mp hop)
      exact hpersist _ body
    · split at hop
      · exact hmark _ op hop
      · split at hop
        · exact hmark _ op hop
        · obtain rfl := List.mem_singleton.mp hop
          trivial
      · exact hmark _ op hop
      · unfold importSuccess at hop
        obtain rfl | hop := List.mem_cons.mp hop
        · exact hpersist _ _
        · split at hop
          · obtain rfl := List.mem_singleton.mp hop
            trivial
          · cases hop
          · exact hmark _ op hop
          · obtain rfl := List.mem_singleton.mp hop
            exact receiptOf_known h hitem _
  · unfold missingResult at hop
    split at hop
    · cases hop
    · obtain rfl | hop := List.mem_cons.mp hop
      · exact hfound
      · split at hop
        · obtain rfl := List.mem_singleton.mp hop
          trivial
        · cases hop

/-! When the transactions of an item go through -/

lemma importOutcome_isOk_iff (item : Item) (body : Value) :
    (importOutcome runtime source view item body).isOk = true ↔
      (importable item.status = true → view item = .fresh → source.responses = false → choicesReadable body = true) := by
  unfold importOutcome
  cases himportable : importable item.status with
  | false => simp [Except.isOk, Except.toBool]
  | true =>
    by_cases hfresh : view item = .fresh
    · simp only [Bool.not_true, Bool.false_eq_true, if_false, hfresh, ne_eq, not_true_eq_false, forall_const]
      cases hresponses : source.responses with
      | false =>
        simp only [Bool.false_eq_true, if_false, forall_const]
        rw [Checked.isOk_bind_of_forall (fun reply => by cases reply <;> rfl), chatReply_isOk_iff]
      | true =>
        simp only [if_true, Bool.true_eq_false, false_imp_iff, iff_true]
        cases hcompletion : responsesToCompletion runtime body with
        | none => rfl
        | some completion =>
          dsimp only
          rw [Checked.isOk_bind_of_forall (fun reply => by cases reply <;> rfl), chatReply_isOk_iff]
          exact responses_readable hcompletion
    · simp [hfresh, Except.isOk, Except.toBool]

lemma markItemError_no_raise (item : Item) (status : ItemStatus) (raised : Raised) :
    Op.raise raised ∉ markItemError source item status := by
  intro hmem
  unfold markItemError at hmem
  split at hmem
  · cases hmem
  · obtain heq | hmem := List.mem_cons.mp hmem
    · cases heq
    · split at hmem
      · cases List.mem_singleton.mp hmem
      · cases hmem

lemma persistReceipt_no_raise (item : Item) (record body : Value) :
    (∀ raised, persistReceipt runtime source item record body ≠ .raise raised) ↔ bindable (receiptId record body) = true := by
  unfold persistReceipt
  dsimp only
  split
  · next hbound => exact ⟨fun _ => hbound, fun _ _ heq => by cases heq⟩
  · next hunbound => exact ⟨fun h => absurd rfl (h _), fun hbound => absurd hbound hunbound⟩

lemma importSuccess_no_raise (item : Item) (record body : Value) :
    (∀ raised, Op.raise raised ∉ importSuccess runtime source view item record body) ↔
      bindable (receiptId record body) = true ∧ (importOutcome runtime source view item body).isOk = true := by
  unfold importSuccess
  simp only [List.mem_cons, not_or, forall_and]
  have hfirst : (∀ raised, ¬Op.raise raised = persistReceipt runtime source item record body) ↔
      bindable (receiptId record body) = true := by
    rw [← persistReceipt_no_raise]
    exact forall_congr' fun raised => not_congr eq_comm
  rw [hfirst]
  refine and_congr_right fun _ => ?_
  cases houtcome : importOutcome runtime source view item body with
  | error raised => exact ⟨fun h => absurd (List.mem_singleton.mpr rfl) (h raised), fun h => by cases h⟩
  | ok outcome =>
    refine ⟨fun _ => rfl, fun _ raised hmem => ?_⟩
    cases outcome with
    | kept => cases hmem
    | marked status => exact markItemError_no_raise item status raised hmem
    | imported => cases List.mem_singleton.mp hmem

lemma applyRecord_no_raise (item : Item) (staged : Staged) :
    (∀ raised, Op.raise raised ∉ applyRecord runtime source view item staged) ↔
      (∀ body, responseBody staged.record = some body → bindable (receiptId staged.record body) = true) ∧
      (staged.kind = .error → errorReadable staged.record = true) ∧
      ∀ body, staged.kind = .success body → bindable (receiptId staged.record body) = true ∧
        (importOutcome runtime source view item body).isOk = true := by
  unfold applyRecord
  simp only [List.mem_append, not_or, forall_and]
  refine and_congr ?_ ?_
  · cases hbody : responseBody staged.record with
    | none => simp
    | some body =>
      have hfirst : (∀ raised, persistReceipt runtime source item staged.record body ≠ .raise raised) ↔
          bindable (receiptId staged.record body) = true := persistReceipt_no_raise item staged.record body
      simp only [Option.map_some, Option.toList_some, List.mem_singleton, Option.some.injEq, forall_eq']
      rw [← hfirst]
      exact forall_congr' fun raised => not_congr eq_comm
  · cases hkind : staged.kind with
    | duplicate => simpa using markItemError_no_raise item .duplicateCustomId
    | schemaInvalid => simpa using markItemError_no_raise item .schemaInvalid
    | error =>
      simp only [orElse_isObject, forall_const, reduceCtorEq, false_imp_iff]
      rw [errorReadable]
      split
      · next hreadable => simpa [hreadable] using markItemError_no_raise item .failed
      · next hunreadable => simp [hunreadable]
    | success body =>
      simp only [reduceCtorEq, false_imp_iff, true_and, Kind.success.injEq, forall_eq']
      exact importSuccess_no_raise item staged.record body

end Group

end InkTime.Import
