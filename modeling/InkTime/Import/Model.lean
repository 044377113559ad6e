import InkTime.Batches.Operations
import InkTime.Ledger.Model
import InkTime.Library.Json

/-!
# Importing the results of a batch

`BatchAnalysisService.import_batch` from the point at which both result files are on disk. The files are read into staged
records, one for each custom id; the records are then applied in the order of their ids, and the items without a record
wait for a retry. A run is the list of its transactions, drawn up from the items as they are when it has read the files.
-/

namespace InkTime.Import

open Json (Text Value)
open Batches (Item ItemStatus)
open Ledger (Receipt CostSource)
open Checked

/-! ### What is outside -/

/-- `providers.base.Usage` -/
structure Usage where
  inputTokens : Nat
  outputTokens : Nat
  cachedTokens : Nat
  reasoningTokens : Nat
  cacheWriteTokens : Nat
  providerReportedCost : Option ℚ
  tokensReported : Bool

/-- Functions of the language, the schema validation and the prices of the provider. -/
structure Runtime where
  /-- `int(text)`, without an answer where it raises `ValueError`. -/
  intText : String → Option Int
  /-- `float(number)` and `float(text)` -/
  floatInt : Int → Option Json.Double
  floatText : String → Option Json.Double
  /-- `str(value)` -/
  str : Value → String
  /-- `json.dumps(line, ensure_ascii=False, separators=(",", ":"))` -/
  dumps : Value → String
  /-- What a TEXT column stores of a value. -/
  column : Value → Option String
  /-- `provider.estimate_batch_cost` -/
  estimateBatchCost : String → Usage → Option ℚ
  /-- `validate_model_response` returns a result. -/
  accepts : String → Bool

/-- Exceptions that end a run. -/
inductive Raised where
  | overflow | attribute | key | type | binding | unencodable | integrity
  deriving DecidableEq

/-- How the photo and the settings compare with what was sent. -/
inductive Freshness where
  | fresh | fingerprintChanged | photoMissing | contentChanged
  deriving DecidableEq

/-- What a run reads of the batch when it starts. -/
structure Source where
  id : String
  jobId : Option String
  model : String := ""
  submittedAt : Nat := 0
  /-- The endpoint is `/v1/responses`. -/
  responses : Bool := false

/-! ### Reading the files -/

def isHex (c : Char) : Bool := ('0' ≤ c && c ≤ '9') || ('a' ≤ c && c ≤ 'f')

/-- `CUSTOM_ID_RE.fullmatch` -/
def wellFormedId (text : String) : Bool :=
  let chars := text.toList
  chars.length == 40 && chars.take 4 == ['i', 'b', 't', ':'] &&
    (chars.zipIdx.drop 4).all fun (c, index) => if [12, 17, 22, 27].contains index then c == '-' else isHex c

def customId (record : Value) : Option String :=
  match record.get "custom_id" with
  | .str (.utf8 text) => if wellFormedId text then some text else none
  | _ => none

inductive Kind where
  | duplicate | error | schemaInvalid
  | success (body : Value)

/-- A row of `batch_result_staging`. -/
structure Staged where
  customId : String
  kind : Kind
  record : Value

section Reading

variable (runtime : Runtime)

/-- `int(value)`, where `TypeError` and `ValueError` give zero. -/
def statusCode : Value → Except Raised Int
  | .bool value => .ok (if value then 1 else 0)
  | .int value => .ok value
  | .float (.finite value) => .ok (if value < 0 then -⌊-value⌋ else ⌊value⌋)
  | .float (.infinite _) => .error .overflow
  | .str (.utf8 text) => .ok ((runtime.intText text).getD 0)
  | _ => .ok 0

/-- The kind of the first line of a custom id. -/
def classify (isError : Bool) (record : Value) : Except Raised Kind :=
  if isError || !(record.get "error").isNull then .ok .error
  else if !(record.get "response").isObject then .ok .error
  else do
    let response := record.get "response"
    let status ← statusCode runtime (((response.field "status_code").getD (.int 0)).orElse (.int 0))
    if status ≠ 200 then return .error
    else if !(response.get "body").isObject then return .schemaInvalid
    else return .success (response.get "body")

structure Reading where
  records : Table Staged.customId := .empty
  problems : List String := []
  raised : Option Raised := none

/-- `records[custom_id] = ...` -/
def Reading.stage (reading : Reading) (staged : Staged) : Reading :=
  if staged.record.encodable then
    { reading with
      records := if (reading.records.find staged.customId).isSome then reading.records.put staged
        else reading.records.add staged }
  else { reading with raised := some .unencodable }

/-- One line, `none` where it is not JSON. -/
def readLine (isError : Bool) (reading : Reading) (line : Option Value) : Reading :=
  if reading.raised.isSome then reading
  else match line with
    | none => { reading with problems := reading.problems ++ ["invalid_jsonl"] }
    | some record =>
      if !record.isObject then { reading with problems := reading.problems ++ ["invalid_jsonl"] }
      else match customId record with
        | none => { reading with problems := reading.problems ++ ["unexpected_custom_id"] }
        | some customId =>
          if (reading.records.find customId).isSome then reading.stage ⟨customId, .duplicate, record⟩
          else match classify runtime isError record with
            | .ok kind => reading.stage ⟨customId, kind, record⟩
            | .error raised => { reading with raised := some raised }

/-- `_read_results` -/
def readResults (isError : Bool) (reading : Reading) (lines : List (Option Value)) : Reading :=
  lines.foldl (readLine runtime isError) reading

/-- The two result files. -/
structure Files where
  output : List (Option Value)
  error : List (Option Value)

def readFiles (files : Files) : Reading := readResults runtime true (readResults runtime false {} files.output) files.error

end Reading

/-! ### Receipts -/

section Receipts

variable (runtime : Runtime)

/-- `value if isinstance(value, dict) else {}` -/
def asObject (value : Value) : Value := if value.isObject then value else .object []

def tokenCount : Value → Option Nat
  | .int value => if 0 ≤ value ∧ value ≤ 9223372036854775807 then some value.toNat else none
  | _ => none

def reportedCost (cost : Value) : Option ℚ :=
  let number := match cost with
    | .int value => runtime.floatInt value
    | .float value => some value
    | .str (.utf8 text) => runtime.floatText text
    | _ => none
  match number with
  | some (.finite value) => if value < 0 then none else some value
  | _ => none

/-- `OpenAICompatibleProvider._usage` -/
def usageFromBody (payload : Value) : Usage :=
  let usage := asObject (payload.get "usage")
  let details := asObject ((usage.get "prompt_tokens_details").orElse (usage.get "input_tokens_details"))
  let completionDetails := asObject ((usage.get "completion_tokens_details").orElse (usage.get "output_tokens_details"))
  let counted := fun (details : Value) key => tokenCount ((details.field key).getD ((usage.field key).getD (.int 0)))
  let input := tokenCount ((usage.field "prompt_tokens").getD (usage.get "input_tokens"))
  let output := tokenCount ((usage.field "completion_tokens").getD (usage.get "output_tokens"))
  let cached := counted details "cached_tokens"
  let reasoning := counted completionDetails "reasoning_tokens"
  let cacheWrite := counted details "cache_write_tokens"
  let detailObjectsValid :=
    ["prompt_tokens_details", "input_tokens_details", "completion_tokens_details", "output_tokens_details"].all fun key =>
      (usage.get key).isNull || (usage.get key).isObject
  { inputTokens := input.getD 0
    outputTokens := output.getD 0
    cachedTokens := cached.getD 0
    reasoningTokens := reasoning.getD 0
    cacheWriteTokens := cacheWrite.getD 0
    providerReportedCost := reportedCost runtime (if (usage.get "cost").isNull then payload.get "cost" else usage.get "cost")
    tokensReported := detailObjectsValid && input.isSome && output.isSome && cached.isSome && reasoning.isSome &&
      cacheWrite.isSome && decide (cached.getD 0 + cacheWrite.getD 0 ≤ input.getD 0) &&
      decide (reasoning.getD 0 ≤ output.getD 0) }

def receiptOf (source : Source) (item : Item) (body : Value) : Receipt :=
  let usage := usageFromBody runtime body
  let model := runtime.str ((body.get "model").orElse (.str (.utf8 source.model)))
  let estimated := runtime.estimateBatchCost model usage
  { jobId := if Batches.truthy source.jobId then source.jobId else none
    photoId := some (item.photoId.getD "None")
    estimatedCost := estimated
    actualCost := usage.providerReportedCost
    costSource := if usage.providerReportedCost.isSome then .providerReported else if estimated.isSome then .estimated
      else .unknown
    startedAt := source.submittedAt }

/-- What SQLite takes as a parameter. -/
def bindable : Value → Bool
  | .array _ | .object _ => false
  | .int value => decide (-9223372036854775808 ≤ value) && decide (value ≤ 9223372036854775807)
  | .str text => text.encodable
  | _ => true

/-- `response.get("request_id") or line.get("request_id")` -/
def requestId (record : Value) : Value := ((record.get "response").get "request_id").orElse (record.get "request_id")

/-- The body of the response of a line, if it is an object. -/
def responseBody (record : Value) : Option Value :=
  if (record.get "response").isObject && ((record.get "response").get "body").isObject then
    some ((record.get "response").get "body")
  else none

end Receipts

/-! ### Replies -/

/-- `(choices or [{}])[0]`; the first character of a text is a text. -/
def firstChoice (choices : Value) : Except Raised Value :=
  if !choices.truthy then .ok (.object [])
  else match choices with
    | .array (choice :: _) => .ok choice
    | .str text => .ok (.str text)
    | .object _ => .error .key
    | _ => .error .type

inductive Reply where
  | incomplete | blank
  | content (text : String)
  deriving DecidableEq

def Reply.ofText (text : String) : Reply := if Texts.strip text = "" then .blank else .content text

section Replies

variable (runtime : Runtime)

/-- What `_import_success` takes from the choices. -/
def chatReply (body : Value) : Except Raised Reply := do
  let choice ← firstChoice (body.get "choices")
  require choice.isObject .attribute
  require (choice.get "finish_reason").hashable .type
  if (choice.get "finish_reason").isText "length" || (choice.get "finish_reason").isText "content_filter" ||
      (choice.get "finish_reason").isText "max_tokens" then
    return .incomplete
  else do
    require ((choice.get "message").orElse (.object [])).isObject .attribute
    if ((choice.get "message").get "refusal").truthy then
      return .incomplete
    else if !(body.get "choices").truthy then
      return .blank
    else do
      -- an absent message is an empty one, a null is not
      require ((choice.field "message").getD (.object [])).isObject .attribute
      match (choice.get "message").get "content" with
      | .array parts =>
        return .ofText (String.join ((parts.filter Value.isObject).map fun part =>
          runtime.str ((part.field "text").getD (.str (.utf8 "")))))
      | .str (.utf8 text) => return .ofText text
      | _ => return .blank

/-- Texts, refusals and whether a message is incomplete. -/
structure Gathered where
  texts : List Text := []
  refusals : List Text := []
  incomplete : Bool := false

def gatherPart (gathered : Gathered) (part : Value) : Gathered :=
  match (part.get "type").isText "output_text", part.get "text" with
  | true, .str text => { gathered with texts := gathered.texts ++ [text] }
  | _, _ =>
    if (part.get "type").isText "refusal" then
      { gathered with
        refusals := gathered.refusals ++
          [.utf8 (runtime.str ((part.get "refusal").orElse (.str (.utf8 "Provider refused"))))] }
    else gathered

def gatherItem (gathered : Gathered) (item : Value) : Option Gathered :=
  if !(item.get "type").isText "message" then some gathered
  else match item.get "content" with
    | .array parts =>
      let status := item.get "status"
      if status.hashable then
        some (parts.foldl (gatherPart runtime)
          { gathered with incomplete := gathered.incomplete || !(status.isNull || status.isText "completed") })
      else none
    | _ => none

/-- `responses_to_completion`, without an answer where it raises. -/
def responsesToCompletion (payload : Value) : Option Value :=
  let status := payload.get "status"
  let incomplete := payload.get "incomplete_details"
  match payload.get "output" with
  | .array output =>
    if ["completed", "incomplete", "failed", "cancelled"].any status.isText then do
      let gathered ← output.foldlM (gatherItem runtime) {}
      if incomplete.isNull || incomplete.isObject then
        let finishReason :=
          if gathered.incomplete || (status.isText "completed" && gathered.texts.isEmpty && gathered.refusals.isEmpty) then
            "content_filter"
          else if status.isText "completed" then "stop"
          else if (incomplete.get "reason").isText "max_output_tokens" then "length"
          else "content_filter"
        let refusal := Text.join (.utf8 " ") gathered.refusals
        some (.object
          [(.utf8 "id", payload.get "id"), (.utf8 "model", payload.get "model"), (.utf8 "usage", payload.get "usage"),
            (.utf8 "choices", .array [.object
              [(.utf8 "finish_reason", .str (.utf8 finishReason)),
                (.utf8 "message", .object
                  [(.utf8 "content", .str (Text.join (.utf8 "") gathered.texts)),
                    (.utf8 "refusal", if refusal = .utf8 "" then .null else .str refusal)])]])])
      else none
    else none
  | _ => none

end Replies

/-! ### Transactions -/

inductive Op where
  /-- `update_batch(reconciliation_error_code=...)` -/
  | problem (code : String)
  /-- `_persist_result_receipt` -/
  | receipt (itemId : String) (requestId : Option String) (raw : String) (receipt : Receipt)
  /-- `update_item(status=...)` with an error -/
  | mark (itemId : String) (status : ItemStatus)
  | failJobItem (jobItemId : String)
  /-- The transaction of `_import_success`. -/
  | importItem (itemId : String) (jobItemId : Option String) (requestId : Option String) (raw : String) (receipt : Receipt)
  | raise (raised : Raised)

/-- `{"pending", "submitted", "retry_pending"}` -/
def importable : ItemStatus → Bool
  | .pending | .submitted | .retryPending => true
  | _ => false

/-- Statuses an item without a line keeps. -/
def settled : ItemStatus → Bool
  | .imported | .failed | .schemaInvalid | .stale | .duplicateCustomId => true
  | _ => false

inductive Outcome where
  | kept
  | marked (status : ItemStatus)
  | imported
  deriving DecidableEq

section Program

variable (runtime : Runtime) (source : Source) (view : Item → Freshness)

/-- How `_import_success` ends, as far as the item and the body decide. -/
def importOutcome (item : Item) (body : Value) : Except Raised Outcome :=
  if !importable item.status then .ok .kept
  else if view item ≠ .fresh then .ok (.marked .stale)
  else match if source.responses then responsesToCompletion runtime body else some body with
    | none => .ok (.marked .schemaInvalid)
    | some body => do
      match ← chatReply runtime body with
      | .incomplete | .blank => return .marked .schemaInvalid
      | .content text => return if runtime.accepts text then .imported else .marked .schemaInvalid

def jobIdText : String := source.jobId.getD "None"

def persistReceipt (item : Item) (record body : Value) : Op :=
  let id := (requestId record).orElse (body.get "id")
  if bindable id then .receipt item.id (runtime.column id) (runtime.dumps record) (receiptOf runtime source item body)
  else .raise .binding

/-- `_mark_item_error` -/
def markItemError (item : Item) (status : ItemStatus) : List Op :=
  if item.status == .imported then []
  else .mark item.id status ::
    if Batches.truthy item.jobItemId && jobIdText source != "" then [.failJobItem (item.jobItemId.getD "")] else []

def importSuccess (item : Item) (record body : Value) : List Op :=
  persistReceipt runtime source item record body ::
    match importOutcome runtime source view item body with
    | .error raised => [.raise raised]
    | .ok .kept => []
    | .ok (.marked status) => markItemError source item status
    | .ok .imported =>
      [.importItem item.id item.jobItemId (if (requestId record).truthy then some (runtime.str (requestId record)) else none)
        (runtime.dumps record) (receiptOf runtime source item body)]

/-- One record of an expected item. -/
def applyRecord (item : Item) (staged : Staged) : List Op :=
  ((responseBody staged.record).map (persistReceipt runtime source item staged.record)).toList ++
    match staged.kind with
    | .duplicate => markItemError source item .duplicateCustomId
    | .error =>
      if ((staged.record.get "error").orElse (.object [])).isObject then markItemError source item .failed
      else [.raise .attribute]
    | .schemaInvalid => markItemError source item .schemaInvalid
    | .success body => importSuccess runtime source view item staged.record body

/-- An expected item without a record. -/
def missingResult (item : Item) : List Op :=
  if settled item.status then []
  else .mark item.id .retryPending :: if Batches.truthy item.jobItemId then [.failJobItem (item.jobItemId.getD "")] else []

def byCustomId (first second : Staged) : Prop := first.customId ≤ second.customId

instance : DecidableRel byCustomId := fun first second => inferInstanceAs (Decidable (first.customId ≤ second.customId))

/-- `ORDER BY custom_id` -/
def sortedRecords (records : Table Staged.customId) : List Staged := records.rows.insertionSort byCustomId

/-- The transactions of a run that has read the files and the items of its batch. -/
def program (items : List Item) (reading : Reading) : List Op :=
  let expected := fun customId => items.find? fun item => item.customId == customId
  reading.problems.map Op.problem ++
    match reading.raised with
    | some raised => [.raise raised]
    | none =>
      (if reading.records.any fun staged => (expected staged.customId).isNone then [.problem "unexpected_custom_id"] else []) ++
      (sortedRecords reading.records).flatMap (fun staged =>
        match expected staged.customId with
        | none => []
        | some item => applyRecord runtime source view item staged) ++
      (items.filter fun item => (reading.records.find item.customId).isNone).flatMap missingResult

end Program

/-! ### Execution -/

structure Db where
  store : Batches.Db
  spent : String → ℚ
  usage : Ledger.UsageTable
  archive : Table Ledger.Archive.key

namespace Db

def ledger (db : Db) : Ledger.Db := ⟨db.store.jobs, db.spent, db.usage, db.archive⟩

def setLedger (db : Db) (ledger : Ledger.Db) : Db where
  store := { db.store with jobs := ledger.jobs }
  spent := ledger.spent
  usage := ledger.usage
  archive := ledger.archive

/-- `UPDATE analysis_batch_items SET ... WHERE id=?` -/
def setItem (db : Db) (itemId : String) (set : Item → Item) (h : ∀ item, (set item).id = item.id) : Db :=
  { db with store := { db.store with items := db.store.items.update (fun item => item.id == itemId) set h } }

/-- `self.batches.items(batch_id)` -/
def itemsOf (db : Db) (batchId : String) : List Item := db.store.items.rows.filter fun item => item.batchId == batchId

end Db

def recordBatchOnce (ledger : Ledger.Db) (receipt : Receipt) (itemId : String) : Except Raised Ledger.Db :=
  match Ledger.recordBatchOnce .binary64 ledger receipt itemId with
  | .ok (ledger, _) => .ok ledger
  | .error _ => .error .integrity

def Op.exec (source : Source) (db : Db) : Op → Except Raised Db
  | .problem code =>
    .ok { db with
      store := db.store.setBatches (fun batch => batch.id == source.id)
        fun state => { state with reconciliationErrorCode := some code } }
  | .receipt itemId requestId raw paid => do
    let ledger ← recordBatchOnce db.ledger paid itemId
    return (db.setLedger ledger).setItem itemId
      (fun item => { item with
        rawResponseJson := item.rawResponseJson <|> some raw
        requestId := item.requestId <|> requestId }) fun _ => rfl
  | .mark itemId status => do
    require (db.store.items.find itemId).isSome .key
    return db.setItem itemId (fun item => { item with status }) (Item.id_status status)
  | .failJobItem jobItemId =>
    .ok { db with
      store := { db.store with jobs := (Jobs.failBatchItem db.store.jobs (jobIdText source) jobItemId).1 } }
  | .importItem itemId jobItemId requestId raw paid =>
    match db.store.items.find itemId with
    | none => .ok db
    | some item =>
      if !importable item.status then .ok db
      else do
        let ledger ← recordBatchOnce db.ledger paid itemId
        let stored := (db.setLedger ledger).setItem itemId
          (fun item => { item with status := .imported, requestId, rawResponseJson := some raw }) fun _ => rfl
        if Batches.truthy jobItemId then
          return stored.setLedger (Ledger.completeBatchItem .binary64 stored.ledger (jobIdText source) (jobItemId.getD "")
            ((paid.actualCost <|> paid.estimatedCost).getD 0))
        else return stored
  | .raise raised => .error raised

/-- The transactions one after another, up to the first that raises. -/
def execAll (source : Source) : Db → List Op → Except Raised Db
  | db, [] => .ok db
  | db, op :: rest => do execAll source (← op.exec source db) rest

/-- `import_batch`, from reading the files to the last item. -/
def reconcile (runtime : Runtime) (source : Source) (view : Item → Freshness) (db : Db) (files : Files) : Except Raised Db :=
  execAll source db (program runtime source view (db.itemsOf source.id) (readFiles runtime files))

end InkTime.Import
