import InkTime.Library.Texts
import InkTime.Library.Checked
import InkTime.Library.JsonFields
import InkTime.Library.Rounding

/-!
# Analysis plans

`build_analysis_plan`, `normalize_analysis_plan` and the fingerprints of `plan.py`. A plan is a dictionary of JSON values.
-/

namespace InkTime.Analysis

open Checked (require orError)
open Json (Text Value Fields)
open Json.Fields

inductive PlanError where
  | value (message : String)
  | conversion | type | overflow | encoding
  deriving DecidableEq

/-- Functions of the language. -/
structure Runtime where
  /-- `int(text)`, without an answer where it raises `ValueError`. -/
  intText : Text → Option ℤ
  /-- `dict(value)` of what is no dictionary -/
  dictOther : Value → Except PlanError Fields
  /-- `str(value)` of a number with a fraction, a list or a dictionary -/
  written : Value → String
  /-- It is never empty. -/
  written_ne : ∀ value, written value ≠ ""
  /-- `str.casefold` of one character beyond ASCII -/
  foldOther : Char → List Char
  /-- `json.dumps(value, ensure_ascii=False, sort_keys=True, separators=(",", ":"))` -/
  canonicalJson : Value → Text
  /-- `hashlib.sha256(text.encode("utf-8")).hexdigest()` -/
  sha256 : String → String

inductive Strategy where
  | single | localOnly
  deriving DecidableEq

def text (value : String) : Value := .str (.utf8 value)

def visionInputVersion : String := "vision-input-v3"

def providerPromptContractVersion : String := "provider-prompt-contract-v3"

def aiImageJpegQuality : ℤ := 88

def schemaVersion : ℤ := 6

def reasoningEfforts : List String := ["none", "low", "medium", "high", "xhigh", "max"]

def singleAnalysisStrategies : List String := ["single", "single_high", "high_quality"]

def legacyAnalysisStrategies : List String := ["custom", "low_cost", "smart", "smart_two_stage"]

def repairTokenCap : ℤ := 1200

def Strategy.text : Strategy → String
  | .single => "single"
  | .localOnly => "local"

def Strategy.schemaKind : Strategy → String
  | .single => "full"
  | .localOnly => "basic"

section Plans

variable (runtime : Runtime)

/-! ### The language -/

/-- `str(value)` -/
def str : Value → Text
  | .null => .utf8 "None"
  | .bool value => .utf8 (if value then "True" else "False")
  | .int value => .utf8 (toString value)
  | .str text => text
  | value => .utf8 (runtime.written value)

/-- `int(value)` -/
def int : Value → Except PlanError ℤ
  | .bool value => .ok (if value then 1 else 0)
  | .int value => .ok value
  | .float (.finite value) => .ok (Rounding.truncate value)
  | .float (.infinite _) => .error .overflow
  | .float .nan => .error .conversion
  | .str text => orError (runtime.intText text) .conversion
  | _ => .error .type

/-- `dict(value)` -/
def dict : Value → Except PlanError Fields
  | .object fields => .ok fields
  | value => runtime.dictOther value

/-- `text.strip()`; an unpaired surrogate is no space. -/
def strip : Text → Text
  | .utf8 value => .utf8 (Texts.strip value)
  | .unpaired => .unpaired

/-- `text.casefold()` -/
def casefold : Text → Text
  | .utf8 value => .utf8 (String.ofList (value.toList.flatMap fun c => if c.toNat < 128 then [c.toLower] else runtime.foldOther c))
  | .unpaired => .unpaired

/-- `hashlib.sha256(text.encode("utf-8")).hexdigest()` -/
def sha256 : Text → Except PlanError String
  | .utf8 value => .ok (runtime.sha256 value)
  | .unpaired => .error .encoding

/-- `list(value)`, where only the first item is read. -/
def list : Value → Except PlanError (List Value)
  | .array items => .ok items
  | .object fields => .ok (fields.map fun field => .str field.1)
  | .str (.utf8 value) => .ok (value.toList.map fun c => text (String.singleton c))
  | .str .unpaired => .ok [.str .unpaired]
  | _ => .error .type

/-! ### Parts of a plan -/

def normalizeAnalysisStrategy (value : Value) : Except PlanError Strategy :=
  let resolved := casefold runtime (strip (str runtime (value.orElse (text "single"))))
  if resolved ∈ singleAnalysisStrategies.map Text.utf8 then .ok .single
  else if resolved ∈ legacyAnalysisStrategies.map Text.utf8 then .ok .single
  else if resolved = .utf8 "local" then .ok .localOnly
  else .error (.value "不支援的分析策略")

def normalizeReasoningEffort (value : Value) : Except PlanError Text :=
  let resolved := casefold runtime (strip (str runtime (value.orElse (text "none"))))
  if resolved ∈ reasoningEfforts.map Text.utf8 then .ok resolved
  else .error (.value ("reasoning_effort 只允許：" ++ "、".intercalate reasoningEfforts))

def fingerprint (value : Fields) : Except PlanError String := sha256 runtime (runtime.canonicalJson (.object value))

def storedAnalysisFingerprint (plan : Fields) : Except PlanError String :=
  fingerprint runtime (pop "repair_policy" (pop "caption_display_controls" plan))

def providerPromptContractSha256 (promptVersion scoringRulesSha256 : Text) (schemaVersion : ℤ) (schemaKind : Text)
    (captionGenerationControls reasoningEffort : Value) (providerBehaviorRevision : Text) : Except PlanError String := do
  let controls ← dict runtime (captionGenerationControls.orElse (.object []))
  let effort ← normalizeReasoningEffort runtime reasoningEffort
  fingerprint runtime
    [(.utf8 "provider_prompt_contract_version", text providerPromptContractVersion),
      (.utf8 "prompt_version", .str promptVersion),
      (.utf8 "scoring_rules_sha256", .str scoringRulesSha256),
      (.utf8 "schema_version", .int schemaVersion),
      (.utf8 "schema_kind", .str schemaKind),
      (.utf8 "caption_generation_controls", .object controls),
      (.utf8 "reasoning_effort", .str effort),
      (.utf8 "provider_behavior_revision", .str providerBehaviorRevision)]

/-- The side of the image that is sent. -/
def imageSide (side : ℤ) : ℤ := if side = 512 ∨ side = 1024 ∨ side = 1600 then side else 1024

/-- `int(...)` of the cap on repairs, where `TypeError` and `ValueError` give the greatest, and then its bounds. -/
def repairMaxTokens (value : Value) : Except PlanError ℤ :=
  match int runtime value with
  | .ok tokens => .ok (max 256 (min repairTokenCap tokens))
  | .error .conversion | .error .type => .ok (max 256 (min repairTokenCap repairTokenCap))
  | .error error => .error error

def repairPolicyOf (configuredRepair : Fields) (model : Text) (maxTokens : ℤ) : Value :=
  .object
    [(.utf8 "enabled", .bool (getOr "enabled" (.bool true) configuredRepair).truthy),
      (.utf8 "model", .str model),
      (.utf8 "max_tokens", .int maxTokens),
      (.utf8 "max_attempts", .int 1),
      (.utf8 "text_only", .bool true)]

def defaultVisionInput (side : ℤ) : Fields :=
  [(.utf8 "detail", text "high"), (.utf8 "max_side", .int side), (.utf8 "jpeg_quality", .int aiImageJpegQuality),
    (.utf8 "exif_transpose", .bool true), (.utf8 "preprocessing_version", text visionInputVersion)]

/-! ### A new plan -/

/-- The arguments that the body of `build_analysis_plan` reads. -/
structure PlanArguments where
  strategy : Value
  providerRoute : List Fields
  highModel : Value
  scoringProfileId : Value
  captionControls : Value
  promptVersion : Value
  highImageMaxSide : Value
  captionDisplayControls : Value := .null
  prefilter : Value := .null
  executionPolicy : Value := .null
  scoringRules : Value := text ""
  reasoningEffort : Value := text "none"
  repairPolicy : Value := .null
  providerBehaviorRevision : Value := text ""

def configRevisionOf (item : Fields) : Text :=
  str runtime ((get "config_revision" item).orElse ((get "updated_at" item).orElse (text "")))

def routeItem (item : Fields) : Except PlanError Fields := do
  let priority ← int runtime (getOr "priority" (.int 100) item)
  let lane := get "complementary_lane" item
  require lane.hashable .type
  let configuredModel := strip (str runtime ((get "model" item).orElse (text "")))
  return [(.utf8 "provider_id", .str (str runtime ((get "provider_id" item).orElse ((get "id" item).orElse (text ""))))),
      (.utf8 "display_name", .str (str runtime ((get "display_name" item).orElse ((get "name" item).orElse (text ""))))),
      (.utf8 "priority", .int priority),
      (.utf8 "config_revision", .str (configRevisionOf runtime item))] ++
    (if (get "usage_scope" item).isText "backfill" then [(.utf8 "usage_scope", text "backfill")] else []) ++
    (if lane.isText "openai_backfill" || lane.isText "openrouter_daily" then
      [(.utf8 "complementary_lane", .str (str runtime lane))] else []) ++
    (if configuredModel ≠ .utf8 "" then [(.utf8 "model", .str configuredModel)] else [])

def buildAnalysisPlan (arguments : PlanArguments) : Except PlanError Fields := do
  let strategy ← normalizeAnalysisStrategy runtime arguments.strategy
  let side ← int runtime arguments.highImageMaxSide
  let route ← arguments.providerRoute.mapM (routeItem runtime)
  let scoringRules := str runtime arguments.scoringRules
  let rulesSha256 ← sha256 runtime scoringRules
  let configuredRepair ← dict runtime (arguments.repairPolicy.orElse (.object []))
  let repairModel := strip (str runtime ((get "model" configuredRepair).orElse arguments.highModel))
  let maxTokens ← repairMaxTokens runtime (getOr "max_tokens" (.int repairTokenCap) configuredRepair)
  let effort ← normalizeReasoningEffort runtime arguments.reasoningEffort
  let behaviorRevision := str runtime (arguments.providerBehaviorRevision.orElse ((route.head?.map (get "config_revision")).getD (text "")))
  let promptVersion := str runtime arguments.promptVersion
  let contractSha256 ← providerPromptContractSha256 runtime promptVersion (.utf8 rulesSha256) schemaVersion (.utf8 strategy.schemaKind)
    arguments.captionControls (.str effort) behaviorRevision
  let captionControls ← dict runtime (arguments.captionControls.orElse (.object []))
  let captionDisplayControls ← dict runtime (arguments.captionDisplayControls.orElse (.object []))
  let prefilter ← dict runtime (arguments.prefilter.orElse (.object []))
  let executionPolicy ← dict runtime (arguments.executionPolicy.orElse (.object []))
  return [(.utf8 "strategy", text strategy.text),
    (.utf8 "model", .str (str runtime arguments.highModel)),
    (.utf8 "provider_route", .array (route.map Value.object)),
    (.utf8 "scoring_profile_id", .str (str runtime arguments.scoringProfileId)),
    (.utf8 "scoring_rules_sha256", text rulesSha256),
    (.utf8 "scoring_rules", .str scoringRules),
    (.utf8 "provider_behavior_revision", .str behaviorRevision),
    (.utf8 "provider_prompt_contract_version", text providerPromptContractVersion),
    (.utf8 "provider_prompt_contract_sha256", text contractSha256),
    (.utf8 "caption_controls", .object captionControls),
    (.utf8 "caption_display_controls", .object captionDisplayControls),
    (.utf8 "prompt_version", .str promptVersion),
    (.utf8 "schema_version", .int schemaVersion),
    (.utf8 "schema_kind", text strategy.schemaKind),
    (.utf8 "analysis_call_policy", .object
      [(.utf8 "max_image_calls_per_photo", .int 1), (.utf8 "repair_calls_are_text_only", .bool true),
        (.utf8 "legacy_two_stage_replay", .bool false)]),
    (.utf8 "vision_input", .object (defaultVisionInput (imageSide side))),
    (.utf8 "prefilter", .object prefilter),
    (.utf8 "ai_execution_policy", .object executionPolicy),
    (.utf8 "reasoning_effort", .str effort),
    (.utf8 "repair_policy", repairPolicyOf configuredRepair repairModel maxTokens)]

/-! ### A frozen plan -/

def upgradeModel (raw : Fields) : Fields :=
  if has "model" raw then raw
  else set "model" (.str (str runtime ((get "high_model" raw).orElse ((get "low_model" raw).orElse (text ""))))) raw

/-- `str(raw.get("model") or "").strip()` is not empty. -/
def hasModel (raw : Fields) : Bool := strip (str runtime ((get "model" raw).orElse (text ""))) ≠ .utf8 ""

def normalizeVision (vision : Fields) : Except PlanError Fields := do
  let side ← int runtime (getOr "max_side" (.int 1024) vision)
  let quality ← int runtime (getOr "jpeg_quality" (.int aiImageJpegQuality) vision)
  return set "preprocessing_version" (text visionInputVersion) <|
    set "exif_transpose" (.bool (getOr "exif_transpose" (.bool true) vision).truthy) <| set "jpeg_quality" (.int quality) <|
      set "max_side" (.int (imageSide side)) <| set "detail" (.str (str runtime (getOr "detail" (text "high") vision))) vision

def givenVision (raw : Fields) : Except PlanError Fields :=
  if has "vision_input" raw then dict runtime (get "vision_input" raw)
  else dict runtime ((get "high_vision_input" raw).orElse ((get "low_vision_input" raw).orElse (.object (defaultVisionInput 1024))))

def upgradeVision (raw : Fields) : Except PlanError Fields := do
  let given ← givenVision runtime raw
  let vision ← normalizeVision runtime given
  return set "vision_input" (.object vision) raw

def displayControlsOf (controls display : Fields) : Fields :=
  match lookup "copy_default_style" controls with
  | none => display
  | some style => setDefault "copy_default_style" style display

def upgradeCaptions (raw : Fields) : Except PlanError Fields := do
  let controls ← dict runtime ((get "caption_controls" raw).orElse (.object []))
  let display ← dict runtime ((get "caption_display_controls" raw).orElse (.object []))
  return set "caption_display_controls" (.object (displayControlsOf controls display)) (set "caption_controls" (.object controls) raw)

def upgradeSchema (strategy : Strategy) (raw : Fields) : Except PlanError Fields := do
  let raw := set "schema_kind" (text strategy.schemaKind) (set "strategy" (text strategy.text) raw)
  let version ← int runtime ((get "schema_version" raw).orElse (.int 5))
  require (version = 5 || version = schemaVersion) (.value "分析計畫的 Schema 版本不支援")
  return set "schema_version" (.int version) raw

def rulesSha256Of (raw : Fields) : Except PlanError Text :=
  let held := get "scoring_rules_sha256" raw
  if held.truthy then .ok (str runtime held)
  else do
    let digest ← sha256 runtime (str runtime (getOr "scoring_rules" (text "") raw))
    return .utf8 digest

/-- The revision of the first provider of a route. -/
def routeRevision : List Value → Value
  | .object item :: _ => get "config_revision" item
  | _ => text ""

def behaviorRevisionOf (raw : Fields) : Except PlanError Text := do
  let route ← list ((get "provider_route" raw).orElse (.array []))
  return str runtime ((get "provider_behavior_revision" raw).orElse ((routeRevision route).orElse (text "")))

def contractSha256Of (rulesSha256 behaviorRevision : Text) (raw : Fields) : Except PlanError String := do
  let version ← int runtime (get "schema_version" raw)
  providerPromptContractSha256 runtime (str runtime (getOr "prompt_version" (text "") raw)) rulesSha256 version
    (str runtime (get "schema_kind" raw)) (get "caption_controls" raw) (getOr "reasoning_effort" (text "none") raw) behaviorRevision

def upgradeContract (raw : Fields) : Except PlanError Fields :=
  if has "scoring_rules" raw || has "scoring_rules_sha256" raw then do
    let rulesSha256 ← rulesSha256Of runtime raw
    let behaviorRevision ← behaviorRevisionOf runtime raw
    let contractSha256 ← contractSha256Of runtime rulesSha256 behaviorRevision raw
    return set "provider_prompt_contract_sha256" (text contractSha256) <|
      set "provider_prompt_contract_version" (text providerPromptContractVersion) <|
        set "provider_behavior_revision" (.str behaviorRevision) <| set "scoring_rules_sha256" (.str rulesSha256) raw
  else .ok raw

def canonicalPolicy (policy : Fields) : Fields :=
  set "legacy_two_stage_replay" (.bool false) <| set "repair_calls_are_text_only" (.bool true) <|
    set "max_image_calls_per_photo" (.int 1) policy

def upgradePolicy (raw : Fields) : Except PlanError Fields := do
  let policy ← dict runtime ((get "analysis_call_policy" raw).orElse (.object []))
  return set "analysis_call_policy" (.object (canonicalPolicy policy)) raw

/-- The model for repairs of a plan whose policy for repairs names none. -/
def fallbackRepairModel (raw : Fields) : Value :=
  (get "repair_model" raw).orElse <| (get "model" raw).orElse <| (get "high_model" raw).orElse <| (get "low_model" raw).orElse (text "")

def legacyRepairModel (configuredRepair raw : Fields) : Text :=
  strip (str runtime ((get "model" configuredRepair).orElse (fallbackRepairModel raw)))

def upgradeRepair (raw : Fields) : Except PlanError Fields := do
  let configuredRepair ← dict runtime ((get "repair_policy" raw).orElse (.object []))
  let maxTokens ← repairMaxTokens runtime (getOr "max_tokens" (.int repairTokenCap) configuredRepair)
  return set "repair_policy" (repairPolicyOf configuredRepair (legacyRepairModel runtime configuredRepair raw) maxTokens) raw

def normalizeAnalysisPlan (plan : Fields) : Except PlanError Fields := do
  let raw := pop "favorite_override" (pop "favorite_bonus" (pop "ranking_weights" plan))
  let strategy ← normalizeAnalysisStrategy runtime (getOr "strategy" (text "single") raw)
  let raw := upgradeModel runtime raw
  require (hasModel runtime raw || strategy = .localOnly) (.value "分析計畫缺少 model")
  let raw ← upgradeVision runtime raw
  let raw ← upgradeCaptions runtime raw
  let raw ← upgradeSchema runtime strategy raw
  let raw ← upgradeContract runtime raw
  let raw ← upgradePolicy runtime raw
  upgradeRepair runtime raw

end Plans

end InkTime.Analysis
