import InkTime.Import.Model
import InkTime.Providers.Router

/-!
# The provider for compatible interfaces

`OpenAICompatibleProvider.analyze` and its subclass for the Responses interface: one POST, and the exceptions that each layer
makes of its outcome. What the exceptions say beside the flags and codes that the router reads is left out.
-/

namespace InkTime.Providers

open Json (Value)
open Checked

inductive Kind where
  | openai | openrouter | other
  deriving DecidableEq

structure Provider where
  kind : Kind := .other
  /-- `OpenAIResponsesProvider` -/
  responses : Bool := false

/-! ### What a POST meets -/

/-- `response.json()`: a value, a `ValueError`, or a `RecursionError`. -/
inductive Body where
  | json (value : Value)
  | notJson
  | tooDeep

/-- `retryAfter` is what `_retry_after` reads from the headers. -/
structure Response where
  status : ℤ
  body : Body
  retryAfter : Option ℚ := none

/-- What `session.post` raises to `_send` or returns. The session over the SDK raises a `ReadTimeout` for every timeout, that
of a connection too, so `connectTimeout` comes from Requests alone. -/
inductive Transport where
  | connectTimeout
  | readTimeout
  | requestException
  | response (response : Response)

/-- How `bounded_text(self._redact(str(value)))` ends; it decodes the text once more. -/
inductive Bounded where
  | text | valueError | tooDeep
  deriving DecidableEq

structure Runtime where
  bounded : Value → Bounded
  texts : Import.Runtime

/-! ### Exceptions -/

/-- `ProviderHTTPError` -/
structure HttpError where
  code : String
  retryAfter : Option ℚ := none
  ambiguous : Bool := false
  httpStatus : Option ℤ := none
  visionStarted : Bool := ambiguous
  requestStarted : Bool := ambiguous

inductive Failure where
  | http (error : HttpError)
  | recursion | attribute | type

/-- The flags the router reads; the other exceptions have none. -/
def Failure.raised : Failure → Raised
  | .http error =>
    { httpError := true
      code := error.code
      retryAfter := match error.retryAfter with
        | none => .absent
        | some seconds => .seconds seconds
      ambiguous := error.ambiguous
      visionStarted := error.visionStarted
      requestStarted := error.requestStarted }
  | .recursion | .attribute | .type => {}

def HttpError.started (error : HttpError) : HttpError := { error with visionStarted := true, requestStarted := true }

/-! ### The layers -/

def billingCodes : List String :=
  ["insufficient_quota", "credit_balance_exhausted", "billing_hard_limit_reached", "organization_spend_limit_exceeded",
    "project_spend_limit_exceeded", "organization_usage_limit_exceeded"]

/-- The code in the body says that the account has no money left. -/
def exhausted (body : Value) : Bool :=
  body.isObject &&
    let error := (body.field "error").getD (.object [])
    error.isObject && billingCodes.any ((error.get "code").orElse (error.get "type")).isText

/-- `_raise_openai_billing_error` -/
def raiseOpenaiBillingError (provider : Provider) (response : Response) : Except Failure Unit :=
  if provider.kind ≠ .openai ∨ ¬ (response.status = 402 ∨ response.status = 429) then .ok ()
  else
    match response.body with
    | .tooDeep => .error .recursion
    | .notJson => .ok ()
    | .json body =>
      if exhausted body then
        .error (.http { code := "API_CREDIT_EXHAUSTED", httpStatus := some response.status, visionStarted := true, requestStarted := true })
      else .ok ()

/-- `_send` of a POST under `AMBIGUOUS_VISION_ANALYSIS`, which allows one attempt. -/
def send (provider : Provider) : Transport → Except Failure Response
  | .connectTimeout => .error (.http { code := "VLM-001" })
  | .readTimeout => .error (.http { code := "VLM-AMBIGUOUS", ambiguous := true, requestStarted := true })
  | .requestException => .error (.http { code := "VLM-AMBIGUOUS", ambiguous := true, requestStarted := true })
  | .response response =>
    if 300 ≤ response.status ∧ response.status < 400 then
      .error (.http { code := "VLM-003", httpStatus := some response.status })
    else if response.status = 429 then do
      raiseOpenaiBillingError provider response
      .ok response
    else if 500 ≤ response.status then
      .error (.http
        { code := "VLM-007"
          retryAfter := response.retryAfter
          ambiguous := true
          httpStatus := some response.status
          requestStarted := true
          visionStarted := true })
    else .ok response

/-- The code and the message of the provider's error; a `ValueError` ends the reading, a `RecursionError` escapes. -/
def errorInfo (runtime : Runtime) (body : Value) : Except Failure Unit :=
  if body.isObject then
    let error := if (body.get "error").isObject then body.get "error" else body
    let code := (error.get "code").orElse (error.get "type")
    let message := error.get "message"
    match if code.truthy then runtime.bounded code else .text with
    | .tooDeep => .error .recursion
    | .valueError => .ok ()
    | .text =>
      match if message.truthy then runtime.bounded message else .text with
      | .tooDeep => .error .recursion
      | .valueError => .ok ()
      | .text => .ok ()
  else .ok ()

/-- The code of a refusal, for an `error_code` of `VLM-006`. -/
def classifiedCode (status : ℤ) : String :=
  if status = 429 then "VLM-002"
  else if status = 401 ∨ status = 403 then "AUTH_REQUIRED"
  else if status = 400 ∨ status = 404 ∨ status = 413 ∨ status = 422 then "CONFIG_INVALID"
  else "VLM-006"

/-- The body of a refusal as far as it can be read. -/
def describe (runtime : Runtime) : Body → Except Failure Unit
  | .tooDeep => .error .recursion
  | .notJson => .ok ()
  | .json body => errorInfo runtime body

/-- `_json_response` with `error_code="VLM-006"` and `ambiguous_on_invalid=True` -/
def jsonResponse (runtime : Runtime) (provider : Provider) (response : Response) : Except Failure Value :=
  if 400 ≤ response.status then do
    describe runtime response.body
    raiseOpenaiBillingError provider response
    .error (.http
      { code := classifiedCode response.status
        retryAfter := response.retryAfter
        httpStatus := some response.status
        requestStarted := true
        visionStarted := true })
  else
    match response.body with
    | .tooDeep => .error .recursion
    | .notJson => .error (.http { code := "VLM-006", ambiguous := true })
    | .json payload => if payload.isObject then .ok payload else .error (.http { code := "VLM-006", ambiguous := true })

def malformed : Failure := .http { code := "VLM-006", ambiguous := true }

/-- What one item of `output` can raise; its status is looked up in a set. -/
def checkItem (item : Value) : Except Failure Unit :=
  if !(item.get "type").isText "message" then .ok ()
  else
    match item.get "content" with
    | .array _ => if (item.get "status").hashable then .ok () else .error .type
    | _ => .error malformed

def checkOutput : Value → Except Failure Unit
  | .array output => output.forM checkItem
  | _ => .error malformed

/-- `responses_to_completion`; its result is the one the import of a batch takes. -/
def responsesToCompletion (runtime : Runtime) (payload : Value) : Except Failure Value := do
  require (payload.get "status").hashable .type
  require (["completed", "incomplete", "failed", "cancelled"].any (payload.get "status").isText) malformed
  checkOutput (payload.get "output")
  orError (Import.responsesToCompletion runtime.texts payload) malformed

def completionPayload (runtime : Runtime) (provider : Provider) (payload : Value) : Except Failure Value :=
  if provider.responses then responsesToCompletion runtime payload else .ok payload

/-- `payload["choices"][0]["message"]`, where none stands for a `KeyError`, an `IndexError` or a `TypeError`. -/
def choiceMessage (payload : Value) : Option Value :=
  match payload.field "choices" with
  | some (.array (choice :: _)) => choice.field "message"
  | _ => none

/-- The tokens of `_usage`. -/
def usageOf (payload : Value) : Usage :=
  let usage := Import.asObject (payload.get "usage")
  { inputTokens := (Import.tokenCount ((usage.field "prompt_tokens").getD (usage.get "input_tokens"))).getD 0
    outputTokens := (Import.tokenCount ((usage.field "completion_tokens").getD (usage.get "output_tokens"))).getD 0 }

/-- The part of `_post_completion` after the POST was answered. -/
def readCompletion (runtime : Runtime) (provider : Provider) (response : Response) : Except Failure Usage :=
  match jsonResponse runtime provider response >>= completionPayload runtime provider with
  | .error (.http error) => .error (.http error.started)
  | .error failure => .error failure
  | .ok payload =>
    match choiceMessage payload with
    | none => .error (.http { code := "VLM-006", ambiguous := true })
    | some message => if message.isObject then .ok (usageOf payload) else .error .attribute

/-- `_post_completion` without an upload guard -/
def postCompletion (runtime : Runtime) (provider : Provider) (transport : Transport) : Except Failure Usage :=
  match send provider transport with
  | .error (.http error) => .error (.http (if error.ambiguous || error.httpStatus.isSome then error.started else error))
  | .error failure => .error failure
  | .ok response => readCompletion runtime provider response

/-- What one call of `analyze` meets: the body of the request may fail to build before anything is sent. -/
structure Exchange where
  bodyBuilds : Bool := true
  transport : Transport

def analyze (runtime : Runtime) (provider : Provider) (exchange : Exchange) : Except Raised Usage :=
  if exchange.bodyBuilds then
    match postCompletion runtime provider exchange.transport with
    | .error failure => .error failure.raised
    | .ok usage => .ok usage
  else .error {}

end InkTime.Providers
