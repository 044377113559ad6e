import InkTime.Analysis.Plan
import Mathlib.Data.List.DropRight

/-!
# Normalizing a plan again

Each part of a normalized plan is settled: to upgrade it again changes nothing. The policy for repairs is the exception, since its
model is stripped after it was preferred to the others.
-/

namespace InkTime.Analysis

open Checked (require orError bind_eq_ok)
open Json (Text Value Fields)
open Json.Fields

variable {runtime : Runtime}

/-! ### The language -/

lemma strip_strip (value : Text) : strip (strip value) = strip value := by
  cases value with
  | unpaired => rfl
  | utf8 value => exact congrArg Text.utf8 (Texts.strip_strip value)

lemma toString_ne (value : ℤ) : toString value ≠ "" := by
  cases value with
  | ofNat n => exact Nat.repr_ne_empty
  | negSucc n =>
    intro h
    simpa [toString, Int.repr] using congrArg String.toList h

lemma str_ne {value : Value} (h : value.truthy = true) : str runtime value ≠ .utf8 "" := by
  cases value with
  | null => cases h
  | bool value =>
    cases value with
    | true => simp [str]
    | false => cases h
  | int value => exact fun heq => toString_ne value (Text.utf8.inj heq)
  | float value => exact fun heq => runtime.written_ne _ (Text.utf8.inj heq)
  | str value => exact bne_iff_ne.mp h
  | array items => exact fun heq => runtime.written_ne _ (Text.utf8.inj heq)
  | object fields => exact fun heq => runtime.written_ne _ (Text.utf8.inj heq)

lemma dict_orElse (fields : Fields) : dict runtime ((Value.object fields).orElse (.object [])) = .ok fields := by
  cases fields with
  | nil => rfl
  | cons field rest => rfl

lemma normalizeAnalysisStrategy_text (strategy : Strategy) : normalizeAnalysisStrategy runtime (text strategy.text) = .ok strategy := by
  cases strategy with
  | single => rfl
  | localOnly => rfl

lemma imageSide_again (side : ℤ) : imageSide (imageSide side) = imageSide side := by
  unfold imageSide
  by_cases hside : side = 512 ∨ side = 1024 ∨ side = 1600
  · rw [if_pos hside, if_pos hside]
  · rw [if_neg hside, if_pos (by omega)]

lemma repairMaxTokens_again {value : Value} {tokens : ℤ} (h : repairMaxTokens runtime value = .ok tokens) :
    repairMaxTokens runtime (.int tokens) = .ok tokens := by
  have hbounds : 256 ≤ tokens ∧ tokens ≤ repairTokenCap := by
    unfold repairMaxTokens at h
    unfold repairTokenCap at h ⊢
    split at h
    · cases h
      omega
    · cases h
      omega
    · cases h
      omega
    · cases h
  unfold repairMaxTokens int
  dsimp only
  congr 1
  omega

/-! ### Parts of a plan -/

lemma normalizeVision_self {vision : Fields} {detail : Text} {side quality : ℤ} {transpose : Bool}
    (hdetail : lookup "detail" vision = some (.str detail)) (hside : lookup "max_side" vision = some (.int side))
    (hcanonical : imageSide side = side) (hquality : lookup "jpeg_quality" vision = some (.int quality))
    (htranspose : lookup "exif_transpose" vision = some (.bool transpose))
    (hversion : lookup "preprocessing_version" vision = some (text visionInputVersion)) : normalizeVision runtime vision = .ok vision := by
  refine bind_eq_ok.mpr ⟨side, ?_, bind_eq_ok.mpr ⟨quality, ?_, ?_⟩⟩
  · rw [getOr_of_lookup hside]
    rfl
  · rw [getOr_of_lookup hquality]
    rfl
  · have hstr : Value.str (str runtime (.str detail)) = .str detail := rfl
    have hbool : Value.bool (Value.bool transpose).truthy = .bool transpose := rfl
    rw [getOr_of_lookup hdetail, getOr_of_lookup htranspose, hstr, hbool, hcanonical, set_eq_self hdetail, set_eq_self hside,
      set_eq_self hquality, set_eq_self htranspose, set_eq_self hversion]
    rfl

lemma normalizeVision_again {given vision : Fields} (h : normalizeVision runtime given = .ok vision) :
    normalizeVision runtime vision = .ok vision := by
  obtain ⟨side, -, h⟩ := bind_eq_ok.mp h
  obtain ⟨quality, -, h⟩ := bind_eq_ok.mp h
  obtain rfl := Except.ok.inj h
  exact normalizeVision_self (by simp; rfl) (by simp) (imageSide_again side) (by simp; rfl) (by simp; rfl) (by simp)

lemma upgradeVision_self {raw vision : Fields} (h : lookup "vision_input" raw = some (.object vision))
    (hvision : normalizeVision runtime vision = .ok vision) : upgradeVision runtime raw = .ok raw := by
  refine bind_eq_ok.mpr ⟨vision, ?_, bind_eq_ok.mpr ⟨vision, hvision, ?_⟩⟩
  · unfold givenVision
    rw [if_pos (has_of_lookup h), get_of_lookup h]
    rfl
  · rw [set_eq_self h]
    rfl

lemma upgradeVision_ok {raw plan : Fields} (h : upgradeVision runtime raw = .ok plan) :
    ∃ vision, normalizeVision runtime vision = .ok vision ∧ plan = set "vision_input" (.object vision) raw := by
  obtain ⟨given, -, h⟩ := bind_eq_ok.mp h
  obtain ⟨vision, hvision, h⟩ := bind_eq_ok.mp h
  exact ⟨vision, normalizeVision_again hvision, (Except.ok.inj h).symm⟩

lemma displayControlsOf_again (controls display : Fields) :
    displayControlsOf controls (displayControlsOf controls display) = displayControlsOf controls display := by
  unfold displayControlsOf
  cases lookup "copy_default_style" controls with
  | none => rfl
  | some style => exact setDefault_again

lemma upgradeCaptions_eq {plan controls : Fields} (h : lookup "caption_controls" plan = some (.object controls)) :
    upgradeCaptions runtime plan = (dict runtime ((get "caption_display_controls" plan).orElse (.object []))).map fun display =>
      set "caption_display_controls" (.object (displayControlsOf controls display)) plan := by
  unfold upgradeCaptions
  rw [get_of_lookup h, dict_orElse]
  cases dict runtime ((get "caption_display_controls" plan).orElse (.object [])) with
  | error e => rfl
  | ok display =>
    change Except.ok (set _ _ (set _ _ plan)) = Except.ok _
    rw [set_eq_self h]

lemma upgradeCaptions_self {plan controls display : Fields} (h : lookup "caption_controls" plan = some (.object controls))
    (hdisplay : lookup "caption_display_controls" plan = some (.object (displayControlsOf controls display))) :
    upgradeCaptions runtime plan = .ok plan := by
  rw [upgradeCaptions_eq h, get_of_lookup hdisplay, dict_orElse]
  change Except.ok (set _ (.object (displayControlsOf controls (displayControlsOf controls display))) plan) = Except.ok plan
  rw [displayControlsOf_again, set_eq_self hdisplay]

lemma upgradeCaptions_ok {raw plan : Fields} (h : upgradeCaptions runtime raw = .ok plan) :
    ∃ controls display, plan = set "caption_display_controls" (.object (displayControlsOf controls display))
      (set "caption_controls" (.object controls) raw) := by
  obtain ⟨controls, -, h⟩ := bind_eq_ok.mp h
  obtain ⟨display, -, h⟩ := bind_eq_ok.mp h
  exact ⟨controls, display, (Except.ok.inj h).symm⟩

lemma canonicalPolicy_again (policy : Fields) : canonicalPolicy (canonicalPolicy policy) = canonicalPolicy policy := by
  have hcalls : lookup "max_image_calls_per_photo" (canonicalPolicy policy) = some (.int 1) := by simp [canonicalPolicy]
  have htext : lookup "repair_calls_are_text_only" (canonicalPolicy policy) = some (.bool true) := by simp [canonicalPolicy]
  have hreplay : lookup "legacy_two_stage_replay" (canonicalPolicy policy) = some (.bool false) := by simp [canonicalPolicy]
  conv_lhs => unfold canonicalPolicy
  change set _ _ (set _ _ (set _ _ (canonicalPolicy policy))) = canonicalPolicy policy
  rw [set_eq_self hcalls, set_eq_self htext, set_eq_self hreplay]

lemma upgradePolicy_self {raw policy : Fields} (h : lookup "analysis_call_policy" raw = some (.object policy))
    (hpolicy : canonicalPolicy policy = policy) : upgradePolicy runtime raw = .ok raw := by
  refine bind_eq_ok.mpr ⟨policy, ?_, ?_⟩
  · rw [get_of_lookup h]
    exact dict_orElse policy
  · rw [hpolicy, set_eq_self h]
    rfl

lemma upgradePolicy_ok {raw plan : Fields} (h : upgradePolicy runtime raw = .ok plan) :
    ∃ policy, canonicalPolicy policy = policy ∧ plan = set "analysis_call_policy" (.object policy) raw := by
  obtain ⟨policy, -, h⟩ := bind_eq_ok.mp h
  exact ⟨_, canonicalPolicy_again policy, (Except.ok.inj h).symm⟩

lemma upgradeSchema_self {raw : Fields} {strategy : Strategy} {version : ℤ} (hstrategy : lookup "strategy" raw = some (text strategy.text))
    (hkind : lookup "schema_kind" raw = some (text strategy.schemaKind)) (hversion : lookup "schema_version" raw = some (.int version))
    (hknown : version = 5 ∨ version = schemaVersion) : upgradeSchema runtime strategy raw = .ok raw := by
  unfold upgradeSchema
  dsimp only
  rw [set_eq_self hstrategy, set_eq_self hkind]
  have hread : int runtime ((get "schema_version" raw).orElse (.int 5)) = .ok version := by
    rw [get_of_lookup hversion]
    obtain rfl | rfl := hknown
    · rfl
    · rfl
  rw [hread]
  refine bind_eq_ok.mpr ⟨version, rfl, bind_eq_ok.mpr ⟨(), Checked.require_eq_ok.mpr ?_, ?_⟩⟩
  · simpa only [Bool.or_eq_true, decide_eq_true_eq] using hknown
  · rw [set_eq_self hversion]
    rfl

lemma upgradeSchema_ok {strategy : Strategy} {raw plan : Fields} (h : upgradeSchema runtime strategy raw = .ok plan) :
    ∃ version, (version = 5 ∨ version = schemaVersion) ∧ plan = set "schema_version" (.int version)
      (set "schema_kind" (text strategy.schemaKind) (set "strategy" (text strategy.text) raw)) := by
  obtain ⟨version, -, h⟩ := bind_eq_ok.mp h
  obtain ⟨_, hknown, h⟩ := bind_eq_ok.mp h
  exact ⟨version, by simpa using Checked.require_eq_ok.mp hknown, (Except.ok.inj h).symm⟩

/-! ### The contract -/

/-- A plan that names the contract of its own fields. -/
structure ContractSettled (runtime : Runtime) (plan : Fields) (rulesSha256 behaviorRevision : Text) (contractSha256 : String) : Prop where
  rules : lookup "scoring_rules_sha256" plan = some (.str rulesSha256)
  noRules : rulesSha256 = .utf8 "" → sha256 runtime (str runtime (getOr "scoring_rules" (text "") plan)) = .ok ""
  revision : lookup "provider_behavior_revision" plan = some (.str behaviorRevision)
  route : ∃ route, list ((get "provider_route" plan).orElse (.array [])) = .ok route ∧
    (behaviorRevision = .utf8 "" → (routeRevision route).truthy = false)
  version : lookup "provider_prompt_contract_version" plan = some (text providerPromptContractVersion)
  held : lookup "provider_prompt_contract_sha256" plan = some (text contractSha256)
  contract : contractSha256Of runtime rulesSha256 behaviorRevision plan = .ok contractSha256

lemma ContractSettled.congr {plan plan' : Fields} {rulesSha256 behaviorRevision : Text} {contractSha256 : String}
    (h : ContractSettled runtime plan rulesSha256 behaviorRevision contractSha256)
    (hagree : ∀ key, key ≠ "caption_display_controls" → key ≠ "analysis_call_policy" → key ≠ "repair_policy" →
      lookup key plan' = lookup key plan) : ContractSettled runtime plan' rulesSha256 behaviorRevision contractSha256 := by
  have hgetOr : ∀ key default, key ≠ "caption_display_controls" → key ≠ "analysis_call_policy" → key ≠ "repair_policy" →
      getOr key default plan' = getOr key default plan := by
    intro key default hcaption hpolicy hrepair
    unfold getOr
    rw [hagree key hcaption hpolicy hrepair]
  have hget : ∀ key, key ≠ "caption_display_controls" → key ≠ "analysis_call_policy" → key ≠ "repair_policy" →
      get key plan' = get key plan := fun key hcaption hpolicy hrepair => hgetOr key .null hcaption hpolicy hrepair
  constructor
  · rw [hagree _ (by decide) (by decide) (by decide)]
    exact h.rules
  · rw [hgetOr _ _ (by decide) (by decide) (by decide)]
    exact h.noRules
  · rw [hagree _ (by decide) (by decide) (by decide)]
    exact h.revision
  · rw [hget _ (by decide) (by decide) (by decide)]
    exact h.route
  · rw [hagree _ (by decide) (by decide) (by decide)]
    exact h.version
  · rw [hagree _ (by decide) (by decide) (by decide)]
    exact h.held
  · unfold contractSha256Of
    rw [hget "schema_version" (by decide) (by decide) (by decide), hgetOr "prompt_version" _ (by decide) (by decide) (by decide),
      hget "schema_kind" (by decide) (by decide) (by decide), hget "caption_controls" (by decide) (by decide) (by decide),
      hgetOr "reasoning_effort" _ (by decide) (by decide) (by decide)]
    exact h.contract

lemma upgradeContract_self {plan : Fields} {rulesSha256 behaviorRevision : Text} {contractSha256 : String}
    (h : ContractSettled runtime plan rulesSha256 behaviorRevision contractSha256) : upgradeContract runtime plan = .ok plan := by
  have hrules : rulesSha256Of runtime plan = .ok rulesSha256 := by
    unfold rulesSha256Of
    dsimp only
    rw [get_of_lookup h.rules]
    by_cases hempty : rulesSha256 = .utf8 ""
    · rw [if_neg (by simp [Value.truthy, hempty]), h.noRules hempty, hempty]
      rfl
    · rw [if_pos (by simpa [Value.truthy] using hempty)]
      rfl
  have hrevision : behaviorRevisionOf runtime plan = .ok behaviorRevision := by
    obtain ⟨route, hroute, hfirst⟩ := h.route
    refine bind_eq_ok.mpr ⟨route, hroute, ?_⟩
    rw [get_of_lookup h.revision]
    unfold Value.orElse
    by_cases hempty : behaviorRevision = .utf8 ""
    · rw [if_neg (by simp [Value.truthy, hempty]), if_neg (by simp [hfirst hempty]), hempty]
      rfl
    · rw [if_pos (by simpa [Value.truthy] using hempty)]
      rfl
  unfold upgradeContract
  rw [if_pos (by rw [has_of_lookup h.rules, Bool.or_true])]
  refine bind_eq_ok.mpr ⟨_, hrules, bind_eq_ok.mpr ⟨_, hrevision, bind_eq_ok.mpr ⟨_, h.contract, ?_⟩⟩⟩
  rw [set_eq_self h.rules, set_eq_self h.revision, set_eq_self h.version, set_eq_self h.held]
  rfl

lemma rulesSha256Of_empty {raw : Fields} (h : rulesSha256Of runtime raw = .ok (.utf8 "")) :
    sha256 runtime (str runtime (getOr "scoring_rules" (text "") raw)) = .ok "" := by
  unfold rulesSha256Of at h
  dsimp only at h
  split at h
  · next htruthy => exact absurd (Except.ok.inj h) (str_ne htruthy)
  · obtain ⟨digest, hdigest, h⟩ := bind_eq_ok.mp h
    rw [hdigest, Text.utf8.inj (Except.ok.inj h)]

/-- Without a revision, the first provider has none. -/
lemma behaviorRevisionOf_route {raw : Fields} {behaviorRevision : Text} (h : behaviorRevisionOf runtime raw = .ok behaviorRevision) :
    ∃ route, list ((get "provider_route" raw).orElse (.array [])) = .ok route ∧
      (behaviorRevision = .utf8 "" → (routeRevision route).truthy = false) := by
  obtain ⟨route, hroute, h⟩ := bind_eq_ok.mp h
  refine ⟨route, hroute, ?_⟩
  rintro rfl
  by_contra hfirst
  rw [Bool.not_eq_false] at hfirst
  have hempty := Except.ok.inj h
  unfold Value.orElse at hempty
  rw [if_pos hfirst] at hempty
  split at hempty
  · next htruthy => exact str_ne htruthy hempty
  · exact str_ne hfirst hempty

/-- A contract that was upgraded is settled, or there is none. -/
lemma upgradeContract_settled {raw plan : Fields} (h : upgradeContract runtime raw = .ok plan) :
    (plan = raw ∧ lookup "scoring_rules" raw = none ∧ lookup "scoring_rules_sha256" raw = none) ∨
      ∃ rulesSha256 behaviorRevision contractSha256, ContractSettled runtime plan rulesSha256 behaviorRevision contractSha256 ∧
        plan = set "provider_prompt_contract_sha256" (text contractSha256)
          (set "provider_prompt_contract_version" (text providerPromptContractVersion)
            (set "provider_behavior_revision" (.str behaviorRevision) (set "scoring_rules_sha256" (.str rulesSha256) raw))) := by
  unfold upgradeContract at h
  split at h
  · right
    obtain ⟨rulesSha256, hrules, h⟩ := bind_eq_ok.mp h
    obtain ⟨behaviorRevision, hrevision, h⟩ := bind_eq_ok.mp h
    obtain ⟨contractSha256, hcontract, h⟩ := bind_eq_ok.mp h
    obtain rfl := Except.ok.inj h
    refine ⟨rulesSha256, behaviorRevision, contractSha256, ?_, rfl⟩
    constructor
    · simp
    · rintro rfl
      simp only [getOr_set, String.reduceEq, if_false]
      exact rulesSha256Of_empty hrules
    · simp
    · simp only [get_set, String.reduceEq, if_false]
      exact behaviorRevisionOf_route hrevision
    · simp
    · simp
    · unfold contractSha256Of at hcontract ⊢
      simpa only [get_set, getOr_set, String.reduceEq, if_false] using hcontract
  · next hnone =>
    left
    rw [Bool.not_eq_true, Bool.or_eq_false_iff, has_eq_false, has_eq_false] at hnone
    exact ⟨(Except.ok.inj h).symm, hnone⟩

lemma upgradeContract_lookup {raw plan : Fields} (h : upgradeContract runtime raw = .ok plan) {key : String}
    (hrules : key ≠ "scoring_rules_sha256") (hrevision : key ≠ "provider_behavior_revision")
    (hversion : key ≠ "provider_prompt_contract_version") (hcontract : key ≠ "provider_prompt_contract_sha256") :
    lookup key plan = lookup key raw := by
  obtain ⟨rfl, -, -⟩ | ⟨rulesSha256, behaviorRevision, contractSha256, -, rfl⟩ := upgradeContract_settled h
  · rfl
  · rw [lookup_set, if_neg hcontract, lookup_set, if_neg hversion, lookup_set, if_neg hrevision, lookup_set, if_neg hrules]

/-! ### The model -/

lemma upgradeModel_lookup {raw : Fields} {key : String} (h : key ≠ "model") : lookup key (upgradeModel runtime raw) = lookup key raw := by
  unfold upgradeModel
  split
  · rfl
  · rw [lookup_set, if_neg h]

lemma has_upgradeModel (raw : Fields) : has "model" (upgradeModel runtime raw) = true := by
  unfold upgradeModel
  split
  · assumption
  · unfold has
    rw [lookup_set, if_pos rfl]
    rfl

lemma lookup_upgradeModel_congr {raw raw' : Fields} (hmodel : lookup "model" raw' = lookup "model" raw)
    (hhigh : lookup "high_model" raw' = lookup "high_model" raw) (hlow : lookup "low_model" raw' = lookup "low_model" raw) :
    lookup "model" (upgradeModel runtime raw') = lookup "model" (upgradeModel runtime raw) := by
  have hhas : has "model" raw' = has "model" raw := congrArg Option.isSome hmodel
  unfold upgradeModel
  rw [hhas, get_congr hhigh, get_congr hlow]
  split
  · exact hmodel
  · rw [lookup_set, lookup_set, if_pos rfl, if_pos rfl]

end InkTime.Analysis
