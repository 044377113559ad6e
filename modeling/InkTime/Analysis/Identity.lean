import InkTime.Analysis.Normalization

/-!
# The paid identity of a plan

A plan that was normalized is settled but for its policy for repairs, which normalizing again fills in where its model was blank. A
plan that was just built keeps its stored fingerprint, which leaves that policy out.
-/

namespace InkTime.Analysis

open Checked (require orError bind_eq_ok)
open Json (Text Value Fields)
open Json.Fields

variable {runtime : Runtime}

/-- A plan that normalizing changes in what is shown of captions and in its policy for repairs only. -/
structure Settled (runtime : Runtime) (plan : Fields) : Prop where
  ranking : lookup "ranking_weights" plan = none
  bonus : lookup "favorite_bonus" plan = none
  favorite : lookup "favorite_override" plan = none
  strategy : ∃ strategy : Strategy, lookup "strategy" plan = some (text strategy.text) ∧
    lookup "schema_kind" plan = some (text strategy.schemaKind) ∧ (hasModel runtime plan || strategy = .localOnly) = true
  model : has "model" plan = true
  vision : ∃ vision, lookup "vision_input" plan = some (.object vision) ∧ normalizeVision runtime vision = .ok vision
  captions : ∃ controls, lookup "caption_controls" plan = some (.object controls)
  version : ∃ version, (version = 5 ∨ version = schemaVersion) ∧ lookup "schema_version" plan = some (.int version)
  contract : (lookup "scoring_rules" plan = none ∧ lookup "scoring_rules_sha256" plan = none) ∨
    ∃ rulesSha256 behaviorRevision contractSha256, ContractSettled runtime plan rulesSha256 behaviorRevision contractSha256
  policy : ∃ policy, lookup "analysis_call_policy" plan = some (.object policy) ∧ canonicalPolicy policy = policy

lemma Settled.congr {plan plan' : Fields} (h : Settled runtime plan)
    (hagree : ∀ key, key ≠ "caption_display_controls" → key ≠ "repair_policy" → lookup key plan' = lookup key plan) :
    Settled runtime plan' := by
  have hmodel : hasModel runtime plan' = hasModel runtime plan := by
    unfold hasModel
    rw [get_congr (hagree "model" (by decide) (by decide))]
  constructor
  · exact (hagree _ (by decide) (by decide)).trans h.ranking
  · exact (hagree _ (by decide) (by decide)).trans h.bonus
  · exact (hagree _ (by decide) (by decide)).trans h.favorite
  · rw [hagree _ (by decide) (by decide), hagree _ (by decide) (by decide), hmodel]
    exact h.strategy
  · exact (congrArg Option.isSome (hagree _ (by decide) (by decide))).trans h.model
  · rw [hagree _ (by decide) (by decide)]
    exact h.vision
  · rw [hagree _ (by decide) (by decide)]
    exact h.captions
  · rw [hagree _ (by decide) (by decide)]
    exact h.version
  · rw [hagree _ (by decide) (by decide), hagree _ (by decide) (by decide)]
    obtain hnone | ⟨rulesSha256, behaviorRevision, contractSha256, hcontract⟩ := h.contract
    · exact Or.inl hnone
    · exact Or.inr ⟨_, _, _, hcontract.congr fun key hcaption _ hrepair => hagree key hcaption hrepair⟩
  · rw [hagree _ (by decide) (by decide)]
    exact h.policy

lemma Settled.upgradeContract_eq {plan : Fields} (h : Settled runtime plan) : upgradeContract runtime plan = .ok plan := by
  obtain ⟨hrules, hsha256⟩ | ⟨rulesSha256, behaviorRevision, contractSha256, hcontract⟩ := h.contract
  · unfold upgradeContract
    rw [if_neg]
    rw [Bool.not_eq_true, Bool.or_eq_false_iff]
    exact ⟨has_eq_false.mpr hrules, has_eq_false.mpr hsha256⟩
  · exact upgradeContract_self hcontract

theorem normalize_of_settled {plan : Fields} (h : Settled runtime plan) :
    normalizeAnalysisPlan runtime plan = (upgradeCaptions runtime plan >>= upgradeRepair runtime) := by
  obtain ⟨strategy, hstrategy, hkind, hmodel⟩ := h.strategy
  obtain ⟨vision, hvision, hcanonical⟩ := h.vision
  obtain ⟨controls, hcontrols⟩ := h.captions
  unfold normalizeAnalysisPlan
  rw [pop_eq_self h.ranking, pop_eq_self h.bonus, pop_eq_self h.favorite]
  dsimp only
  rw [getOr_of_lookup hstrategy, normalizeAnalysisStrategy_text]
  change (require (hasModel runtime (upgradeModel runtime plan) || strategy = .localOnly) _ >>= fun _ =>
    upgradeVision runtime (upgradeModel runtime plan) >>= _) = _
  have hupgraded : upgradeModel runtime plan = plan := if_pos h.model
  rw [hupgraded, hmodel, upgradeVision_self hvision hcanonical]
  change (upgradeCaptions runtime plan >>= _) = _
  rw [upgradeCaptions_eq hcontrols]
  cases dict runtime ((get "caption_display_controls" plan).orElse (.object [])) with
  | error e => rfl
  | ok display =>
    set raw := set "caption_display_controls" (.object (displayControlsOf controls display)) plan
    have hraw : Settled runtime raw := h.congr fun key hcaption _ => by rw [lookup_set, if_neg hcaption]
    have hkeeps : ∀ key, key ≠ "caption_display_controls" → lookup key raw = lookup key plan :=
      fun key hcaption => by rw [lookup_set, if_neg hcaption]
    obtain ⟨version, hknown, hversion⟩ := hraw.version
    obtain ⟨policy, hpolicy, hpolicy'⟩ := hraw.policy
    change (upgradeSchema runtime strategy raw >>= _) = upgradeRepair runtime raw
    rw [upgradeSchema_self ((hkeeps _ (by decide)).trans hstrategy) ((hkeeps _ (by decide)).trans hkind) hversion hknown]
    change (upgradeContract runtime raw >>= _) = upgradeRepair runtime raw
    rw [hraw.upgradeContract_eq]
    change (upgradePolicy runtime raw >>= _) = upgradeRepair runtime raw
    rw [upgradePolicy_self hpolicy hpolicy']
    rfl

/-! ### What normalizing leaves -/

/-- Before its policy for repairs is upgraded, a plan is settled, and what that policy is made from is as it was given. -/
theorem normalize_upgraded {raw plan : Fields} (h : normalizeAnalysisPlan runtime raw = .ok plan) :
    ∃ upgraded, Settled runtime upgraded ∧ (∃ controls display, lookup "caption_controls" upgraded = some (.object controls) ∧
        lookup "caption_display_controls" upgraded = some (.object (displayControlsOf controls display))) ∧
      upgradeRepair runtime upgraded = .ok plan ∧ lookup "model" upgraded = lookup "model" (upgradeModel runtime raw) ∧
      ∀ key ∈ ["repair_policy", "repair_model", "high_model", "low_model"], lookup key upgraded = lookup key raw := by
  obtain ⟨strategy, -, h⟩ := bind_eq_ok.mp h
  obtain ⟨_, hmodel, h⟩ := bind_eq_ok.mp h
  obtain ⟨seen, hseen, h⟩ := bind_eq_ok.mp h
  obtain ⟨captioned, hcaptioned, h⟩ := bind_eq_ok.mp h
  obtain ⟨typed, htyped, h⟩ := bind_eq_ok.mp h
  obtain ⟨contracted, hcontracted, h⟩ := bind_eq_ok.mp h
  obtain ⟨upgraded, hupgraded, h⟩ := bind_eq_ok.mp h
  set popped := pop "favorite_override" (pop "favorite_bonus" (pop "ranking_weights" raw)) with hpopped
  set modeled := upgradeModel runtime popped with hmodeled
  obtain ⟨vision, hvision, rfl⟩ := upgradeVision_ok hseen
  obtain ⟨controls, display, rfl⟩ := upgradeCaptions_ok hcaptioned
  obtain ⟨version, hknown, rfl⟩ := upgradeSchema_ok htyped
  obtain ⟨policy, hpolicy, rfl⟩ := upgradePolicy_ok hupgraded
  have hupper : ∀ key, key ≠ "analysis_call_policy" → key ≠ "scoring_rules_sha256" → key ≠ "provider_behavior_revision" →
      key ≠ "provider_prompt_contract_version" → key ≠ "provider_prompt_contract_sha256" →
      lookup key (set "analysis_call_policy" (.object policy) contracted) = lookup key (set "schema_version" (.int version)
        (set "schema_kind" (text strategy.schemaKind) (set "strategy" (text strategy.text) (set "caption_display_controls"
          (.object (displayControlsOf controls display)) (set "caption_controls" (.object controls)
            (set "vision_input" (.object vision) modeled)))))) := by
    intro key hpolicy hrules hrevision hversion hheld
    rw [lookup_set, if_neg hpolicy]
    exact upgradeContract_lookup hcontracted hrules hrevision hversion hheld
  have hpopped : ∀ key, key ≠ "ranking_weights" → key ≠ "favorite_bonus" → key ≠ "favorite_override" →
      lookup key popped = lookup key raw := by
    intro key hranking hbonus hfavorite
    rw [lookup_pop, if_neg hfavorite, lookup_pop, if_neg hbonus, lookup_pop, if_neg hranking]
  have hmodeled : lookup "model" modeled = lookup "model" (upgradeModel runtime raw) :=
    lookup_upgradeModel_congr (hpopped _ (by decide) (by decide) (by decide)) (hpopped _ (by decide) (by decide) (by decide))
      (hpopped _ (by decide) (by decide) (by decide))
  have hheldModel : lookup "model" (set "analysis_call_policy" (.object policy) contracted) = lookup "model" modeled := by
    rw [hupper _ (by decide) (by decide) (by decide) (by decide) (by decide)]
    simp
  have hpops : ∀ key ∈ ["ranking_weights", "favorite_bonus", "favorite_override"],
      lookup key (set "analysis_call_policy" (.object policy) contracted) = none := by
    intro key hkey
    simp only [List.mem_cons, List.not_mem_nil, or_false] at hkey
    obtain rfl | rfl | rfl := hkey
    all_goals
      rw [hupper _ (by decide) (by decide) (by decide) (by decide) (by decide)]
      simp [modeled, upgradeModel_lookup, popped]
  have hcaptions : lookup "caption_controls" (set "analysis_call_policy" (.object policy) contracted) = some (.object controls) := by
    rw [hupper _ (by decide) (by decide) (by decide) (by decide) (by decide)]
    simp
  have hdisplay : lookup "caption_display_controls" (set "analysis_call_policy" (.object policy) contracted) =
      some (.object (displayControlsOf controls display)) := by
    rw [hupper _ (by decide) (by decide) (by decide) (by decide) (by decide)]
    simp
  refine ⟨set "analysis_call_policy" (.object policy) contracted, ?_, ?_, h, hheldModel.trans hmodeled, ?_⟩
  · constructor
    · exact hpops _ (by simp)
    · exact hpops _ (by simp)
    · exact hpops _ (by simp)
    · refine ⟨strategy, ?_, ?_, ?_⟩
      · rw [hupper _ (by decide) (by decide) (by decide) (by decide) (by decide)]
        simp
      · rw [hupper _ (by decide) (by decide) (by decide) (by decide) (by decide)]
        simp
      · have hsame : hasModel runtime (set "analysis_call_policy" (.object policy) contracted) = hasModel runtime modeled := by
          unfold hasModel
          rw [get_congr hheldModel]
        rw [hsame]
        exact Checked.require_eq_ok.mp hmodel
    · exact (congrArg Option.isSome hheldModel).trans (has_upgradeModel popped)
    · refine ⟨vision, ?_, hvision⟩
      rw [hupper _ (by decide) (by decide) (by decide) (by decide) (by decide)]
      simp
    · exact ⟨controls, hcaptions⟩
    · refine ⟨version, hknown, ?_⟩
      rw [hupper _ (by decide) (by decide) (by decide) (by decide) (by decide)]
      simp
    · obtain ⟨rfl, hrules, hsha256⟩ | ⟨rulesSha256, behaviorRevision, contractSha256, hsettled, -⟩ := upgradeContract_settled hcontracted
      · left
        constructor
        · rw [lookup_set, if_neg (by decide)]
          exact hrules
        · rw [lookup_set, if_neg (by decide)]
          exact hsha256
      · right
        refine ⟨rulesSha256, behaviorRevision, contractSha256, hsettled.congr ?_⟩
        intro key _ hkey _
        rw [lookup_set, if_neg hkey]
    · exact ⟨policy, by simp, hpolicy⟩
  · exact ⟨controls, display, hcaptions, hdisplay⟩
  · intro key hkey
    simp only [List.mem_cons, List.not_mem_nil, or_false] at hkey
    obtain rfl | rfl | rfl | rfl := hkey
    all_goals
      rw [hupper _ (by decide) (by decide) (by decide) (by decide) (by decide)]
      simp [modeled, upgradeModel_lookup, popped]

/-! ### The policy for repairs -/

lemma upgradeRepair_ok {raw plan : Fields} (h : upgradeRepair runtime raw = .ok plan) :
    ∃ configuredRepair maxTokens, dict runtime ((get "repair_policy" raw).orElse (.object [])) = .ok configuredRepair ∧
      repairMaxTokens runtime (.int maxTokens) = .ok maxTokens ∧
      plan = set "repair_policy" (repairPolicyOf configuredRepair (legacyRepairModel runtime configuredRepair raw) maxTokens) raw := by
  obtain ⟨configuredRepair, hconfigured, h⟩ := bind_eq_ok.mp h
  obtain ⟨maxTokens, htokens, h⟩ := bind_eq_ok.mp h
  exact ⟨configuredRepair, maxTokens, hconfigured, repairMaxTokens_again htokens, (Except.ok.inj h).symm⟩

lemma fallbackRepairModel_congr {plan plan' : Fields} (hrepair : lookup "repair_model" plan' = lookup "repair_model" plan)
    (hmodel : lookup "model" plan' = lookup "model" plan) (hhigh : lookup "high_model" plan' = lookup "high_model" plan)
    (hlow : lookup "low_model" plan' = lookup "low_model" plan) : fallbackRepairModel plan' = fallbackRepairModel plan := by
  unfold fallbackRepairModel
  rw [get_congr hrepair, get_congr hmodel, get_congr hhigh, get_congr hlow]

/-- Upgrading the policy again finds the model that it set. -/
lemma upgradeRepair_again (raw configuredRepair : Fields) (model : Text) {maxTokens : ℤ}
    (htokens : repairMaxTokens runtime (.int maxTokens) = .ok maxTokens) :
    upgradeRepair runtime (set "repair_policy" (repairPolicyOf configuredRepair model maxTokens) raw) =
      .ok (set "repair_policy" (repairPolicyOf configuredRepair (strip (str runtime ((Value.str model).orElse (fallbackRepairModel raw))))
        maxTokens) raw) := by
  have hfallback : fallbackRepairModel (set "repair_policy" (repairPolicyOf configuredRepair model maxTokens) raw) =
      fallbackRepairModel raw := by
    apply fallbackRepairModel_congr
    · rw [lookup_set, if_neg (by decide)]
    · rw [lookup_set, if_neg (by decide)]
    · rw [lookup_set, if_neg (by decide)]
    · rw [lookup_set, if_neg (by decide)]
  unfold upgradeRepair legacyRepairModel
  rw [hfallback, get_set, if_pos rfl]
  refine bind_eq_ok.mpr ⟨_, dict_orElse _, bind_eq_ok.mpr ⟨maxTokens, htokens, ?_⟩⟩
  rw [set_set]
  rfl

lemma strip_str_orElse {model : Text} {other : Value} :
    strip (str runtime ((Value.str model).orElse other)) = if model = .utf8 "" then strip (str runtime other) else strip model := by
  unfold Value.orElse
  by_cases hempty : model = .utf8 ""
  · rw [if_pos hempty, if_neg (by simp [Value.truthy, hempty])]
  · rw [if_neg hempty, if_pos (by simpa [Value.truthy] using hempty)]
    rfl

/-- A model that is blank is filled in when it is looked for again. -/
lemma repairModel_again_iff {configuredRepair raw : Fields} :
    strip (str runtime ((Value.str (legacyRepairModel runtime configuredRepair raw)).orElse (fallbackRepairModel raw))) =
        legacyRepairModel runtime configuredRepair raw ↔
      ¬ ((get "model" configuredRepair).truthy = true ∧ strip (str runtime (get "model" configuredRepair)) = .utf8 "" ∧
        strip (str runtime (fallbackRepairModel raw)) ≠ .utf8 "") := by
  rw [strip_str_orElse]
  unfold legacyRepairModel Value.orElse
  by_cases hnamed : (get "model" configuredRepair).truthy = true
  · rw [if_pos hnamed]
    by_cases hblank : strip (str runtime (get "model" configuredRepair)) = .utf8 ""
    · rw [if_pos hblank, hblank]
      simp [hnamed]
    · rw [if_neg hblank, strip_strip]
      simp [hblank]
  · rw [if_neg hnamed]
    split
    · simp [hnamed]
    · rw [strip_strip]
      simp [hnamed]

/-- The text of the fallback is the same before a plan is given the model that it lacks. -/
lemma str_fallbackRepairModel (raw : Fields) :
    str runtime (fallbackRepairModel (upgradeModel runtime raw)) = str runtime (fallbackRepairModel raw) := by
  by_cases hhas : has "model" raw = true
  · unfold upgradeModel
    rw [if_pos hhas]
  · set other := (get "high_model" raw).orElse ((get "low_model" raw).orElse (text "")) with hother
    have hnone : get "model" raw = .null := by
      rw [Bool.not_eq_true, has_eq_false] at hhas
      exact congrArg (Option.getD · .null) hhas
    have hagain : str runtime ((Value.str (str runtime other)).orElse other) = str runtime other := by
      unfold Value.orElse
      split
      · rfl
      · rfl
    unfold upgradeModel fallbackRepairModel
    rw [if_neg hhas]
    simp only [get_set, String.reduceEq, if_false, if_true, hnone, ← hother]
    change str runtime ((get "repair_model" raw).orElse ((Value.str (str runtime other)).orElse other)) =
      str runtime ((get "repair_model" raw).orElse other)
    unfold Value.orElse at hagain ⊢
    split
    · rfl
    · exact hagain

/-- The policy for repairs names a blank model, where the plan has another. -/
def BlankRepairModel (runtime : Runtime) (plan : Fields) : Prop :=
  ∃ configuredRepair, dict runtime ((get "repair_policy" plan).orElse (.object [])) = .ok configuredRepair ∧
    (get "model" configuredRepair).truthy = true ∧ strip (str runtime (get "model" configuredRepair)) = .utf8 "" ∧
      strip (str runtime (fallbackRepairModel plan)) ≠ .utf8 ""

/-! ### A new plan -/

lemma routeRevision_map {route : List Fields} {given : Value}
    (h : str runtime (given.orElse ((route.head?.map (get "config_revision")).getD (text ""))) = .utf8 "") :
    (routeRevision (route.map Value.object)).truthy = false := by
  cases route with
  | nil => rfl
  | cons item rest =>
    change (get "config_revision" item).truthy = false
    by_contra hfirst
    rw [Bool.not_eq_false] at hfirst
    change str runtime (given.orElse (get "config_revision" item)) = _ at h
    unfold Value.orElse at h
    split at h
    · next htruthy => exact str_ne htruthy h
    · exact str_ne hfirst h

lemma providerPromptContractSha256_controls {promptVersion rulesSha256 schemaKind behaviorRevision : Text} {version : ℤ}
    {given effort : Value} {controls : Fields} (h : dict runtime (given.orElse (.object [])) = .ok controls) :
    providerPromptContractSha256 runtime promptVersion rulesSha256 version schemaKind (.object controls) effort behaviorRevision =
      providerPromptContractSha256 runtime promptVersion rulesSha256 version schemaKind given effort behaviorRevision := by
  unfold providerPromptContractSha256
  rw [dict_orElse, h]

/-- A plan that was just built is settled. -/
theorem buildAnalysisPlan_settled {arguments : PlanArguments} {plan : Fields} (h : buildAnalysisPlan runtime arguments = .ok plan)
    (hmodel : strip (str runtime arguments.highModel) ≠ .utf8 "" ∨ normalizeAnalysisStrategy runtime arguments.strategy = .ok .localOnly) :
    Settled runtime plan ∧ ∃ display configuredRepair model maxTokens, repairMaxTokens runtime (.int maxTokens) = .ok maxTokens ∧
      lookup "caption_display_controls" plan = some (.object display) ∧
      lookup "repair_policy" plan = some (repairPolicyOf configuredRepair model maxTokens) := by
  obtain ⟨strategy, hstrategy, h⟩ := bind_eq_ok.mp h
  obtain ⟨side, -, h⟩ := bind_eq_ok.mp h
  obtain ⟨route, -, h⟩ := bind_eq_ok.mp h
  obtain ⟨rulesSha256, hrules, h⟩ := bind_eq_ok.mp h
  obtain ⟨configuredRepair, -, h⟩ := bind_eq_ok.mp h
  obtain ⟨maxTokens, htokens, h⟩ := bind_eq_ok.mp h
  obtain ⟨effort, heffort, h⟩ := bind_eq_ok.mp h
  obtain ⟨contractSha256, hcontract, h⟩ := bind_eq_ok.mp h
  obtain ⟨captionControls, hcaptions, h⟩ := bind_eq_ok.mp h
  obtain ⟨captionDisplayControls, -, h⟩ := bind_eq_ok.mp h
  obtain ⟨prefilter, -, h⟩ := bind_eq_ok.mp h
  obtain ⟨executionPolicy, -, h⟩ := bind_eq_ok.mp h
  obtain rfl := Except.ok.inj h
  refine ⟨?_, captionDisplayControls, configuredRepair, _, maxTokens, repairMaxTokens_again htokens, rfl, rfl⟩
  constructor
  · rfl
  · rfl
  · rfl
  · refine ⟨strategy, rfl, rfl, ?_⟩
    rw [Bool.or_eq_true, decide_eq_true_eq]
    obtain hset | hlocal := hmodel
    · left
      change decide (strip (str runtime ((Value.str (str runtime arguments.highModel)).orElse (text ""))) ≠ .utf8 "") = true
      rw [strip_str_orElse, if_neg, decide_eq_true_eq]
      · exact hset
      · intro hempty
        rw [hempty] at hset
        exact hset rfl
    · right
      rw [hlocal] at hstrategy
      exact (Except.ok.inj hstrategy).symm
  · rfl
  · exact ⟨defaultVisionInput (imageSide side), rfl, normalizeVision_self rfl rfl (imageSide_again side) rfl rfl rfl⟩
  · exact ⟨captionControls, rfl⟩
  · exact ⟨schemaVersion, Or.inr rfl, rfl⟩
  · right
    refine ⟨.utf8 rulesSha256, str runtime (arguments.providerBehaviorRevision.orElse
      ((route.head?.map (get "config_revision")).getD (text ""))), contractSha256, ?_⟩
    constructor
    · rfl
    · rintro hempty
      obtain rfl := Text.utf8.inj hempty
      exact hrules
    · rfl
    · refine ⟨route.map Value.object, ?_, routeRevision_map⟩
      cases route with
      | nil => rfl
      | cons item rest => rfl
    · rfl
    · rfl
    · rw [← providerPromptContractSha256_controls hcaptions] at hcontract
      exact hcontract
  · exact ⟨_, rfl, rfl⟩

/-! ### Identities -/

/-- Normalizing a plan that was just built keeps its stored fingerprint. -/
lemma build_keeps_fingerprint {arguments : PlanArguments} {plan : Fields} (h : buildAnalysisPlan runtime arguments = .ok plan)
    (hmodel : strip (str runtime arguments.highModel) ≠ .utf8 "" ∨ normalizeAnalysisStrategy runtime arguments.strategy = .ok .localOnly) :
    ∃ normalized, normalizeAnalysisPlan runtime plan = .ok normalized ∧
      storedAnalysisFingerprint runtime normalized = storedAnalysisFingerprint runtime plan := by
  obtain ⟨hsettled, display, configuredRepair, model, maxTokens, htokens, hdisplay, hrepair⟩ := buildAnalysisPlan_settled h hmodel
  obtain ⟨controls, hcontrols⟩ := hsettled.captions
  set captioned := set "caption_display_controls" (.object (displayControlsOf controls display)) plan with hcaptioned
  have hrepair' : lookup "repair_policy" captioned = some (repairPolicyOf configuredRepair model maxTokens) := by
    rw [hcaptioned, lookup_set, if_neg (by decide)]
    exact hrepair
  have hrun : normalizeAnalysisPlan runtime plan = upgradeRepair runtime captioned := by
    rw [normalize_of_settled hsettled, upgradeCaptions_eq hcontrols, get_of_lookup hdisplay, dict_orElse]
    rfl
  have hagain := upgradeRepair_again captioned configuredRepair model htokens
  rw [set_eq_self hrepair'] at hagain
  refine ⟨_, hrun.trans hagain, ?_⟩
  unfold storedAnalysisFingerprint
  rw [pop_comm, pop_set_same, pop_comm, hcaptioned, pop_set_same]

/-- What normalizing leaves is normalized, unless the model of its policy for repairs was blank. The policy is then another. Plans that
were built keep their identity. -/
theorem plan_identity_kept_iff (runtime : Runtime) :
    (∀ raw plan, normalizeAnalysisPlan runtime raw = .ok plan →
      (normalizeAnalysisPlan runtime plan = .ok plan ↔ ¬ BlankRepairModel runtime raw) ∧
      (BlankRepairModel runtime raw → ∃ again, normalizeAnalysisPlan runtime plan = .ok again ∧
        get "repair_policy" again ≠ get "repair_policy" plan)) ∧
    ∀ arguments plan, buildAnalysisPlan runtime arguments = .ok plan →
      strip (str runtime arguments.highModel) ≠ .utf8 "" ∨ normalizeAnalysisStrategy runtime arguments.strategy = .ok .localOnly →
      ∃ normalized, normalizeAnalysisPlan runtime plan = .ok normalized ∧
        storedAnalysisFingerprint runtime normalized = storedAnalysisFingerprint runtime plan := by
  refine ⟨fun raw plan h => ?_, fun arguments plan h hmodel => build_keeps_fingerprint h hmodel⟩
  obtain ⟨upgraded, hsettled, ⟨controls, display, hcontrols, hdisplay⟩, hrepair, hmodel, hkept⟩ := normalize_upgraded h
  obtain ⟨configuredRepair, maxTokens, hconfigured, htokens, rfl⟩ := upgradeRepair_ok hrepair
  set model := legacyRepairModel runtime configuredRepair upgraded with hnamed
  set plan := set "repair_policy" (repairPolicyOf configuredRepair model maxTokens) upgraded with hplan
  set again := set "repair_policy" (repairPolicyOf configuredRepair
    (strip (str runtime ((Value.str model).orElse (fallbackRepairModel upgraded)))) maxTokens) upgraded with hagain
  have hkeeps : ∀ key, key ≠ "repair_policy" → lookup key plan = lookup key upgraded :=
    fun key hkey => by rw [hplan, lookup_set, if_neg hkey]
  have hrun : normalizeAnalysisPlan runtime plan = .ok again := by
    rw [normalize_of_settled (hsettled.congr fun key _ hkey => hkeeps key hkey),
      upgradeCaptions_self ((hkeeps _ (by decide)).trans hcontrols) ((hkeeps _ (by decide)).trans hdisplay)]
    exact upgradeRepair_again upgraded configuredRepair model htokens
  have hfallback : str runtime (fallbackRepairModel upgraded) = str runtime (fallbackRepairModel raw) := by
    rw [← str_fallbackRepairModel raw]
    congr 1
    apply fallbackRepairModel_congr
    · rw [hkept _ (by simp), upgradeModel_lookup (by decide)]
    · exact hmodel
    · rw [hkept _ (by simp), upgradeModel_lookup (by decide)]
    · rw [hkept _ (by simp), upgradeModel_lookup (by decide)]
  have hblank : BlankRepairModel runtime raw ↔ (get "model" configuredRepair).truthy = true ∧
      strip (str runtime (get "model" configuredRepair)) = .utf8 "" ∧ strip (str runtime (fallbackRepairModel upgraded)) ≠ .utf8 "" := by
    rw [get_congr (hkept "repair_policy" (by simp))] at hconfigured
    rw [hfallback]
    constructor
    · rintro ⟨configuredRepair', hconfigured', hblank⟩
      obtain rfl := Except.ok.inj (hconfigured'.symm.trans hconfigured)
      exact hblank
    · exact fun hblank => ⟨configuredRepair, hconfigured, hblank⟩
  have hsame : get "repair_policy" again = get "repair_policy" plan ↔
      strip (str runtime ((Value.str model).orElse (fallbackRepairModel upgraded))) = model := by
    rw [hagain, hplan, get_set, if_pos rfl, get_set, if_pos rfl]
    constructor
    · intro heq
      simpa [repairPolicyOf] using heq
    · exact fun heq => by rw [heq]
  have hiff : get "repair_policy" again = get "repair_policy" plan ↔ ¬ BlankRepairModel runtime raw := by
    rw [hsame, hblank, hnamed]
    exact repairModel_again_iff
  refine ⟨⟨fun hsettles => ?_, fun hnamed => ?_⟩, fun hblank => ⟨again, hrun, fun heq => hiff.mp heq hblank⟩⟩
  · rw [hrun] at hsettles
    exact hiff.mp (by rw [Except.ok.inj hsettles])
  · rw [hrun, hagain, hsame.mp (hiff.mpr hnamed)]

/-- Functions that are those of the language on plain texts and numbers. -/
def plainRuntime : Runtime where
  intText := fun _ => none
  dictOther := fun _ => .error .type
  written := fun _ => "{}"
  written_ne := fun _ => by decide
  foldOther := fun c => [c]
  canonicalJson := fun _ => .utf8 "{}"
  sha256 := fun text => text

/-- Writes the keys of a dictionary with the texts under them. -/
def writeTexts : Value → Text
  | .object fields => .utf8 (",".intercalate (fields.map fun field => match field with
    | (.utf8 key, .str (.utf8 value)) => key ++ ":" ++ value
    | (.utf8 key, _) => key
    | _ => ""))
  | _ => .utf8 ""

def listing : Runtime := { plainRuntime with canonicalJson := writeTexts }

/-- A plan whose policy for repairs has a blank model. -/
def blankRepairs : PlanArguments where
  strategy := text "single"
  providerRoute := [[(.utf8 "id", text "openai"), (.utf8 "model", text "gpt"), (.utf8 "config_revision", text "r1")]]
  highModel := text "gpt"
  scoringProfileId := text "default"
  captionControls := .object [(.utf8 "side_caption_min_chars", .int 4), (.utf8 "side_caption_max_chars", .int 12)]
  promptVersion := text "v6"
  highImageMaxSide := .int 1024
  captionDisplayControls := .object [(.utf8 "side_caption_max_chars", .int 30)]
  repairPolicy := .object [(.utf8 "model", text "   ")]

/-- The plan that is built is not normalized, and normalizing leaves its identity. -/
theorem plan_identity_kept_iff_built : ∃ plan normalized, buildAnalysisPlan listing blankRepairs = .ok plan ∧
    normalizeAnalysisPlan listing plan = .ok normalized ∧ normalized ≠ plan ∧
      storedAnalysisFingerprint listing normalized = storedAnalysisFingerprint listing plan := by
  have hmodel : strip (str listing blankRepairs.highModel) ≠ .utf8 "" := by decide +kernel
  obtain ⟨normalized, hnormalized, hsame⟩ := (plan_identity_kept_iff listing).2 blankRepairs _ rfl (.inl hmodel)
  refine ⟨_, normalized, rfl, hnormalized, fun h => ?_, hsame⟩
  rw [h] at hnormalized
  have hmodels : repairPolicyOf [] (.utf8 "gpt") 1200 = repairPolicyOf [] (.utf8 "") 1200 :=
    congrArg (fun result : Except PlanError Fields => (result.toOption.map (get "repair_policy")).getD .null) hnormalized
  simp [repairPolicyOf] at hmodels

/-- The first pass makes a model of spaces the empty one, and the second takes the model of the plan in its place. -/
theorem blank_repair_model_filled_in :
    ∃ plan, normalizeAnalysisPlan plainRuntime
        [(.utf8 "model", text "gpt"), (.utf8 "repair_policy", .object [(.utf8 "model", text "   ")])] = .ok plan ∧
      normalizeAnalysisPlan plainRuntime plan ≠ .ok plan := by
  refine ⟨_, rfl, fun h => ?_⟩
  have hmodels : repairPolicyOf [] (.utf8 "gpt") 1200 = repairPolicyOf [] (.utf8 "") 1200 :=
    congrArg (fun result : Except PlanError Fields => (result.toOption.map (get "repair_policy")).getD .null) h
  simp [repairPolicyOf] at hmodels

end InkTime.Analysis
