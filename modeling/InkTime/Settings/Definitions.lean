import Mathlib.Tactic

/-!
# Setting definitions

`SETTING_DEFINITIONS`: the type, the default and the checks of every setting, and which settings are wired and may be in snapshots.
-/

namespace InkTime.Settings

/-- What a setting holds. A number is an integer or a double, written exactly: equal numbers are equal values. -/
inductive SettingValue where
  | bool (value : Bool)
  | num (value : ℚ)
  | text (value : String)
  deriving DecidableEq

inductive ValueType where
  | integer | number | boolean | string
  deriving DecidableEq

inductive Pattern where
  | timeHhmm | optionalHttpsUrl
  deriving DecidableEq

structure Definition where
  type : ValueType
  default : SettingValue
  choices : Option (List SettingValue) := none
  min : Option ℚ := none
  max : Option ℚ := none
  minLength : Option ℕ := none
  maxLength : Option ℕ := none
  pattern : Option Pattern := none
  controlCenter : Bool := false

def oneOf (texts : List String) : Option (List SettingValue) := some (texts.map .text)

def sideCaptionMinChars : ℚ := 1

def sideCaptionMaxChars : ℚ := 20

def defaultSideCaptionMaxChars : ℚ := 16

def maxSourcePixels : ℚ := 60000000

def maxSourceEdge : ℚ := 12000

def maxFileBytes : ℚ := 200 * 1024 * 1024

def defaultScoringRules : String :=
  "memory_score：普通照片約 40～60，使用完整範圍。評一般回看價值，不是私人回憶重要程度；依人物、互動、活動" ++
    "、日常紀錄與故事資訊量判斷。\n" ++
    "visual_score：普通照片約 40～60。依構圖、光線、主體突出、色彩明暗、平衡及整體吸引力評分；女性、男性、孩" ++
    "子、寵物或旅行題材本身不加分。\n" ++
    "special_level 參考：0 普通；1 稍有特色；2 明確活動、合照、旅行紀錄或難得互動；3 重要典禮、舞台、大" ++
    "型合照或難重現事件；4 極罕見人生里程碑或無法重現的重要紀錄。非常保守使用 3、4。"

def settingDefinitions : List (String × Definition) := [
    ("general.timezone", { type := .string, default := .text "Asia/Taipei" }),
    ("observability.debug_enabled", { type := .boolean, default := .bool false }),
    ("observability.debug_level", { type := .string, default := .text "normal", choices := oneOf ["normal", "detailed"] }),
    ("observability.debug_components", { type := .string, default := .text "", maxLength := some 2000 }),
    ("observability.debug_auto_disable_minutes", { type := .integer, default := .num 60, min := some 1, max := some 1440 }),
    ("observability.activity_retention_days", { type := .integer, default := .num 14, min := some 1, max := some 365 }),
    ("observability.debug_retention_hours", { type := .integer, default := .num 24, min := some 1, max := some 168 }),
    ("observability.activity_max_rows", { type := .integer, default := .num 50000, min := some 1000, max := some 500000 }),
    ("observability.activity_poll_seconds", { type := .integer, default := .num 5, min := some 3, max := some 60 }),
    ("observability.stuck_job_minutes", { type := .integer, default := .num 5, min := some 1, max := some 120 }),
    ("observability.ai_trace_enabled", { type := .boolean, default := .bool true }),
    ("analysis.strategy", { type := .string, default := .text "single", choices := oneOf ["local", "single"] }),
    ("analysis.side_caption_min_chars",
      { type := .integer, default := .num sideCaptionMinChars, min := some sideCaptionMinChars, max := some sideCaptionMaxChars }),
    ("analysis.side_caption_max_chars",
      { type := .integer, default := .num defaultSideCaptionMaxChars, min := some sideCaptionMinChars, max := some sideCaptionMaxChars }),
    ("analysis.side_caption_custom_rules", { type := .string, default := .text "", maxLength := some 1000 }),
    ("analysis.execution_mode",
      { type := .string, default := .text "seasonal_ai", choices := oneOf ["disabled", "local_only", "local_with_manual_ai",
        "automatic_ai", "seasonal_ai"] }),
    ("analysis.ai_mode",
      { type := .string, default := .text "on_demand", choices := oneOf ["off", "top_candidates", "eligible", "full_library",
        "on_demand"] }),
    ("display.weekly_schedule_enabled", { type := .boolean, default := .bool true }),
    ("display.weekday_times", { type := .string, default := .text "08:00,18:00,20:00,22:00" }),
    ("display.weekend_times", { type := .string, default := .text "08:00,10:00,12:00,14:00,16:00,18:00,20:00,22:00" }),
    ("analysis.prepare_ahead_days", { type := .integer, default := .num 1, min := some 1, max := some 1 }),
    ("analysis.require_delivery_ack", { type := .boolean, default := .bool true }),
    ("analysis.seasonal_window_days", { type := .integer, default := .num 5, min := some 0, max := some 31 }),
    ("analysis.ai_top_n", { type := .integer, default := .num 50, min := some 1, max := some 10000 }),
    ("analysis.ai_daily_photo_limit", { type := .integer, default := .num 0, min := some 0, max := some 100000 }),
    ("analysis.ai_monthly_photo_limit", { type := .integer, default := .num 0, min := some 0, max := some 1000000 }),
    ("analysis.stage_two_threshold", { type := .number, default := .num 65, min := some 0, max := some 100 }),
    ("analysis.high_image_max_side", { type := .integer, default := .num 1024, choices := some [.num 1024, .num 1600] }),
    ("analysis.image_max_side", { type := .integer, default := .num 1024, choices := some [.num 1024, .num 1600] }),
    ("analysis.exclude_sexualized_content", { type := .boolean, default := .bool true }),
    ("analysis.exclude_explicit_nudity", { type := .boolean, default := .bool true }),
    ("analysis.exclude_female_glamour_portraits", { type := .boolean, default := .bool true }),
    ("analysis.content_filter_min_confidence",
      { type := .number, default := .num (7656119366529843 / 2 ^ 53), min := some 0, max := some 1 }),
    ("analysis.female_glamour_min_confidence",
      { type := .number, default := .num (8106479329266893 / 2 ^ 53), min := some 0, max := some 1 }),
    ("analysis.prefilter_enabled", { type := .boolean, default := .bool true }),
    ("analysis.prefilter_screenshots", { type := .boolean, default := .bool true }),
    ("analysis.prefilter_low_quality", { type := .boolean, default := .bool true }),
    ("analysis.prefilter_sensitivity",
      { type := .string, default := .text "conservative", choices := oneOf ["conservative", "balanced", "aggressive"] }),
    ("analysis.e6_prefilter_enabled", { type := .boolean, default := .bool true }),
    ("analysis.e6_min_score", { type := .number, default := .num 25, min := some 0, max := some 100 }),
    ("analysis.scoring_rules",
      { type := .string, default := .text defaultScoringRules, minLength := some 1, maxLength := some 12000, controlCenter := true }),
    ("analysis.concurrency", { type := .integer, default := .num 1, min := some 1, max := some 8 }),
    ("worker.queue_multiplier", { type := .integer, default := .num 1, min := some 1, max := some 4 }),
    ("worker.poll_seconds", { type := .number, default := .num 15, min := some 1, max := some 60 }),
    ("worker.progress_items", { type := .integer, default := .num 50, min := some 5, max := some 10000 }),
    ("worker.progress_seconds", { type := .integer, default := .num 300, min := some 30, max := some 3600 }),
    ("scanner.disk_batch_size", { type := .integer, default := .num 1000, min := some 100, max := some 10000 }),
    ("scanner.write_batch_size", { type := .integer, default := .num 200, min := some 100, max := some 2000 }),
    ("scanner.max_file_bytes", { type := .integer, default := .num maxFileBytes, min := some 1048576, max := some maxFileBytes }),
    ("scanner.max_pixels", { type := .integer, default := .num maxSourcePixels, min := some 1000000, max := some maxSourcePixels }),
    ("scanner.max_edge_px", { type := .integer, default := .num maxSourceEdge, min := some 1000, max := some maxSourceEdge }),
    ("scanner.thumbnail_capacity_check_interval", { type := .integer, default := .num 500, min := some 50, max := some 10000 }),
    ("thumbnail_cache.max_bytes", { type := .integer, default := .num 5368709120, min := some 104857600, max := some 107374182400 }),
    ("thumbnail_cache.retention_days", { type := .integer, default := .num 30, min := some 1, max := some 3650 }),
    ("scanner.missing_threshold_percent", { type := .number, default := .num 10, min := some 0, max := some 100 }),
    ("scheduler.poll_seconds", { type := .integer, default := .num 60, min := some 30, max := some 3600 }),
    ("offline.server_prefetch_margin_minutes", { type := .integer, default := .num 15, min := some 0, max := some 60 }),
    ("offline.future_schedule_prepare_hour_local", { type := .integer, default := .num 8, min := some 0, max := some 23 }),
    ("analysis.max_retries", { type := .integer, default := .num 3, min := some 0, max := some 10 }),
    ("model.low_model", { type := .string, default := .text "gpt-4o-mini" }),
    ("model.analysis_model", { type := .string, default := .text "gpt-4o" }),
    ("model.repair_model", { type := .string, default := .text "gpt-4o-mini" }),
    ("model.high_model", { type := .string, default := .text "gpt-4o" }),
    ("batch.model", { type := .string, default := .text "gpt-5.6-luna" }),
    ("batch.reasoning_effort",
      { type := .string, default := .text "none", choices := oneOf ["none", "low", "medium", "high", "xhigh", "max"] }),
    ("batch.max_items_per_shard", { type := .integer, default := .num 500, min := some 1, max := some 50000 }),
    ("batch.max_jsonl_bytes", { type := .integer, default := .num 157286400, min := some 1048576, max := some 209715200 }),
    ("batch.poll_seconds", { type := .integer, default := .num 300, min := some 60, max := some 3600 }),
    ("batch.output_expires_after_seconds", { type := .integer, default := .num 86400, min := some 3600, max := some 2592000 }),
    ("batch.local_retention_days", { type := .integer, default := .num 0, min := some 0, max := some 3650 }),
    ("budget.daily_warning", { type := .number, default := .num 5.0, min := some 0, max := some 100000 }),
    ("budget.daily_stop", { type := .number, default := .num 10.0, min := some 0, max := some 100000 }),
    ("budget.monthly_warning", { type := .number, default := .num 50.0, min := some 0, max := some 1000000 }),
    ("budget.monthly_stop", { type := .number, default := .num 100.0, min := some 0, max := some 1000000 }),
    ("budget.job_default", { type := .number, default := .num 10.0, min := some 0, max := some 100000 }),
    ("budget.photo_max", { type := .number, default := .num 0.25, min := some 0, max := some 1000 }),
    ("budget.unknown_request_reserve", { type := .number, default := .num 0.25, min := some (5764607523034235 / 2 ^ 59), max := some 100 }),
    ("budget.max_tokens", { type := .integer, default := .num 8000, min := some 256, max := some 1000000 }),
    ("budget.full_analysis_max_tokens", { type := .integer, default := .num 512, min := some 256, max := some 1200 }),
    ("budget.caption_variants_max_tokens", { type := .integer, default := .num 1200, min := some 256, max := some 1200 }),
    ("budget.repair_max_tokens", { type := .integer, default := .num 1200, min := some 256, max := some 1200 }),
    ("render.memory_threshold", { type := .number, default := .num 70, min := some 0, max := some 100 }),
    ("render.seasonal_priority_min_score", { type := .number, default := .num 60, min := some 0, max := some 100 }),
    ("render.content_mode", { type := .string, default := .text "photo_caption", choices := oneOf ["photo_only", "photo_caption"] }),
    ("render.caption_wrap_enabled", { type := .boolean, default := .bool false }),
    ("render.caption_max_lines", { type := .integer, default := .num 2, min := some 1, max := some 2 }),
    ("render.caption_min_font_size", { type := .integer, default := .num 17, min := some 10, max := some 24 }),
    ("render.quantity", { type := .integer, default := .num 5, min := some 1, max := some 50 }),
    ("render.selection_mode", { type := .string, default := .text "history_today", choices := oneOf ["history_today", "top_ranked"] }),
    ("render.repeat_high_score", { type := .number, default := .num 75, min := some 0, max := some 100 }),
    ("render.seasonal_outside_fallback", { type := .boolean, default := .bool true }),
    ("render.history_today_window_days", { type := .integer, default := .num 5, min := some 0, max := some 31 }),
    ("render.history_today_fallback",
      { type := .string, default := .text "nearby_then_ranked", choices := oneOf ["nearby_then_ranked", "nearby_only", "ranked", "none"] }),
    ("render.local_candidate_limit", { type := .integer, default := .num 200, min := some 20, max := some 1000 }),
    ("render.e6_weight", { type := .number, default := .num 20, min := some 0, max := some 60 }),
    ("render.layout",
      { type := .string, default := .text "auto_photo", choices := oneOf ["full", "auto_photo", "postcard", "photo_info", "photo_pair",
        "photo_pair_caption", "adaptive_memory", "calendar", "weather_sensor"] }),
    ("render.frame_orientation", { type := .string, default := .text "landscape", choices := oneOf ["portrait", "landscape"] }),
    ("render.fit_mode", { type := .string, default := .text "cover", choices := oneOf ["stretch_fill", "contain", "cover"] }),
    ("render.show_capture_date", { type := .boolean, default := .bool true }),
    ("render.weather_enabled", { type := .boolean, default := .bool false }),
    ("render.weather_latitude", { type := .number, default := .num (1761540772999463 / 2 ^ 46), min := some (-90), max := some 90 }),
    ("render.weather_longitude", { type := .number, default := .num (8554404533455395 / 2 ^ 46), min := some (-180), max := some 180 }),
    ("render.weather_location_name", { type := .string, default := .text "所在地" }),
    ("render.sensor_device_id", { type := .string, default := .text "" }),
    ("render.font_path", { type := .string, default := .text "builtin:iansui" }),
    ("location.auto_enrich", { type := .boolean, default := .bool true }),
    ("render.show_location", { type := .boolean, default := .bool true }),
    ("render.location_max_distance_km", { type := .number, default := .num 80, min := some 1, max := some 500 }),
    ("render.profile",
      { type := .string, default := .text "gdep073e01_6c", choices := oneOf ["safe_4c", "gdep073e01_6c", "gdey073d46_7c"] }),
    ("render.dither",
      { type := .string, default := .text "natural_d", choices := oneOf ["none", "floyd_steinberg", "gooddisplay", "warm_vivid_c",
        "natural_d", "photo_smooth", "atkinson", "bayer4", "bayer8", "nearest", "bayer_ordered", "serpentine_floyd_steinberg"] }),
    ("render.auto_photo_smooth_enabled", { type := .boolean, default := .bool false }),
    ("render.dither_strength", { type := .number, default := .num 1.0, min := some 0, max := some 2 }),
    ("render.color_distance", { type := .string, default := .text "oklab", choices := oneOf ["oklab", "rgb"] }),
    ("render.custom_photo_presets", { type := .string, default := .text "\x7b\x7d", maxLength := some 50000 }),
    ("device.legacy_api_enabled", { type := .boolean, default := .bool false }),
    ("device.default_timezone", { type := .string, default := .text "Asia/Taipei" }),
    ("device.default_schedule", { type := .string, default := .text "08:00", pattern := some .timeHhmm }),
    ("device.default_rotation", { type := .integer, default := .num 0, choices := some [.num 0, .num 180] }),
    ("device.default_panel_profile",
      { type := .string, default := .text "gdep073e01_6c", choices := oneOf ["safe_4c", "gdep073e01_6c", "gdey073d46_7c"] }),
    ("notification.device_offline_enabled", { type := .boolean, default := .bool true }),
    ("notification.device_offline_hours", { type := .number, default := .num 30, min := some 1, max := some 720 }),
    ("notification.device_recovery_enabled", { type := .boolean, default := .bool true }),
    ("notification.device_offline_repeat_enabled", { type := .boolean, default := .bool false }),
    ("notification.device_offline_cooldown_hours", { type := .number, default := .num 24, min := some 1, max := some 720 }),
    ("notification.scan_seconds", { type := .integer, default := .num 300, min := some 60, max := some 3600 }),
    ("notification.webhook_enabled", { type := .boolean, default := .bool false }),
    ("notification.webhook_url", { type := .string, default := .text "", maxLength := some 2048, pattern := some .optionalHttpsUrl }),
    ("notification.webhook_timeout_seconds", { type := .integer, default := .num 10, min := some 2, max := some 30 }),
    ("system.log_level", { type := .string, default := .text "INFO", choices := oneOf ["DEBUG", "INFO", "WARNING", "ERROR", "CRITICAL"] }),
    ("system.log_format", { type := .string, default := .text "json", choices := oneOf ["human", "json"] }),
    ("system.diagnostics_cache_seconds", { type := .integer, default := .num 21600, min := some 30, max := some 86400 }),
    ("security.session_minutes", { type := .integer, default := .num 30, min := some 5, max := some 1440 }),
    ("backup.schedule_enabled", { type := .boolean, default := .bool true }),
    ("backup.hour", { type := .integer, default := .num 3, min := some 0, max := some 23 }),
    ("backup.retention", { type := .integer, default := .num 14, min := some 1, max := some 365 }),
    ("analysis.complementary_enabled", { type := .boolean, default := .bool false }),
    ("analysis.openai_provider_id", { type := .string, default := .text "", maxLength := some 200 }),
    ("analysis.daily_openrouter_provider_id", { type := .string, default := .text "", maxLength := some 200 }),
    ("analysis.openai_backfill_enabled", { type := .boolean, default := .bool false }),
    ("analysis.openai_backfill_concurrency", { type := .integer, default := .num 1, min := some 1, max := some 8 }),
    ("analysis.openai_backfill_mode", { type := .string, default := .text "realtime", choices := oneOf ["realtime", "batch"] }),
    ("analysis.openai_backfill_chunk", { type := .integer, default := .num 50, min := some 1, max := some 500 }),
    ("analysis.openai_batch_consent", { type := .boolean, default := .bool false }),
    ("openai_budget.cycle_limit", { type := .number, default := .num 20, min := some (5764607523034235 / 2 ^ 59), max := some 100000 }),
    ("openai_budget.daily_limit", { type := .number, default := .num 0, min := some 0, max := some 100000 }),
    ("openai_budget.cycle_anchor", { type := .string, default := .text "2026-01-01", maxLength := some 10 }),
    ("openai_budget.cycle_months", { type := .integer, default := .num 1, min := some 1, max := some 12 }),
    ("openai_budget.stop_percent", { type := .number, default := .num 98, min := some 1, max := some 100 }),
    ("openai_budget.warning_percent", { type := .number, default := .num 80, min := some 1, max := some 100 }),
    ("openai_budget.auto_resume", { type := .boolean, default := .bool true })]

def settingsSnapshotLimit : ℕ := 100

def sensitiveStatusKeys : List String :=
  ["home_latitude", "home_longitude", "render.weather_latitude", "render.weather_longitude", "render.font_path", "notification.webhook_url"]

def runtimeUnwiredKeys : List String :=
  ["observability.debug_level", "observability.debug_components", "observability.activity_poll_seconds", "budget.daily_warning",
    "budget.monthly_warning", "budget.job_default", "device.legacy_api_enabled"]

/-- `SETTING_DEFINITIONS.get(key)` -/
def definitionOf (key : String) : Option Definition := settingDefinitions.lookup key

def runtimeWired (key : String) : Bool := key ∉ runtimeUnwiredKeys

def snapshotAllowed (key : String) : Bool := key ∉ sensitiveStatusKeys

end InkTime.Settings
