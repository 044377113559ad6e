import InkTime.Pairing.Model

/-!
# Settings that normalization keeps

A configuration that shows valid settings normalizes to these settings.
-/

namespace InkTime.Pairing

open Texts (strip)
open Checked (require orError)
open Devices (Device Settings Runtime)
open Json (Value Text)

/-! ### Fields -/

lemma field_append (fields more : Fields) (key : String) :
    (Value.object (fields ++ more)).field key = ((Value.object more).field key).or ((Value.object fields).field key) := by
  simp only [Value.field, List.reverse_append, List.find?_append, Option.map_or]

/-- The fields that `normalizeConfig` reads. -/
def configKeys : List String :=
  ["name", "timezone", "schedule", "minimum_schedule_gap_minutes", "sync_strategy", "sync_time", "schedule_times", "rotation",
    "panel_profile", "delivery_mode", "prefetch_lead_minutes", "button_wake_action", "frame_orientation", "layout_mode", "fit_mode"]

/-- The source has the settings in every field that is read. -/
def Shows (source : Fields) (settings : Settings) : Prop :=
  ∀ key ∈ configKeys, (Value.object source).field key = (Value.object (configFields settings 0)).field key

lemma shows_configFields (settings : Settings) (maximumSlots : Nat) : Shows (configFields settings maximumSlots) settings := by
  intro key hkey
  simp only [configKeys, List.mem_cons, List.not_mem_nil, or_false] at hkey
  rcases hkey with rfl | rfl | rfl | rfl | rfl | rfl | rfl | rfl | rfl | rfl | rfl | rfl | rfl | rfl | rfl <;> rfl

lemma Shows.get {source : Fields} {settings : Settings} (h : Shows source settings) {key : String} (hkey : key ∈ configKeys)
    (default : Value) : source.get key default = (configFields settings 0).get key default := by
  rw [Fields.get, Fields.get, h key hkey]

/-! ### Validity -/

/-- Settings that the administrator's forms let through, for a device with this many slots. -/
structure Valid (runtime : Runtime) (slots : Nat) (settings : Settings) : Prop where
  name : strip settings.name = settings.name ∧ settings.name ≠ "" ∧ settings.name.length ≤ 100
  timezone : strip settings.timezone = settings.timezone ∧ settings.timezone ≠ "" ∧ settings.timezone.length ≤ 64
  zone : runtime.zone settings.timezone = true
  schedule : strip settings.schedule = settings.schedule ∧ settings.schedule ≠ "" ∧ settings.schedule.length ≤ 5 ∧
    Schedule.isTime settings.schedule = true
  gap : 30 ≤ settings.minimumScheduleGapMinutes ∧ settings.minimumScheduleGapMinutes ≤ 360
  sync : (settings.syncStrategy = .firstDisplayLead ∧ settings.syncTime = none) ∨
    (settings.syncStrategy = .fixedDaily ∧ ∃ time, settings.syncTime = some time ∧ strip time = time ∧ Schedule.isTime time = true)
  times : ∃ times : List String, settings.scheduleTimes = some (times.map some) ∧ settings.schedule ∈ times ∧ times.length ≤ slots ∧
    (∀ time ∈ times, strip time = time ∧ time ≠ "" ∧ Schedule.isTime time = true) ∧
    (((times.filterMap Schedule.scheduleMinutes).zip (times.filterMap Schedule.scheduleMinutes).tail).all
      fun pair => pair.1 < pair.2) = true ∧
    (Schedule.validateOfflineSchedule (times.map some) slots settings.minimumScheduleGapMinutes).isOk = true
  rotation : settings.rotation = 0 ∨ settings.rotation = 180
  panelProfile : strip settings.panelProfile = settings.panelProfile ∧ settings.panelProfile ≠ "" ∧ settings.panelProfile.length ≤ 128
  deliveryMode : settings.deliveryMode ≠ .stockCompat
  lead : 0 ≤ settings.prefetchLeadMinutes ∧ settings.prefetchLeadMinutes ≤ 120

/-! ### Steps of the normalization -/

lemma validateText_valid {text : String} {maximum : Nat} {required : Bool} (hstrip : strip text = text)
    (hrequired : required = true → text ≠ "") (hlength : text.length ≤ maximum) :
    validateText (ofText text) maximum required = .ok text := by
  have hpresent : (!(required && text == "")) = true := by
    cases required with
    | false => rfl
    | true =>
      rw [Bool.true_and, beq_false_of_ne (hrequired rfl)]
      rfl
  unfold validateText
  refine Checked.bind_eq_ok.mpr ⟨text, congrArg Except.ok hstrip, ?_⟩
  refine Checked.bind_eq_ok.mpr ⟨(), Checked.require_eq_ok.mpr hpresent, ?_⟩
  exact Checked.bind_eq_ok.mpr ⟨(), Checked.require_eq_ok.mpr (decide_eq_true hlength), rfl⟩

lemma integerBetween_valid {value low high : Int} (h : low ≤ value ∧ value ≤ high) :
    integerBetween (.int value) low high = .ok value := if_pos h

lemma optionalMode_valid {α : Type} {read : String → Option α} {text : α → String} {mode : Option α} {maximum : Nat}
    (hread : ∀ a, read (text a) = some a) (htext : ∀ a, strip (text a) = text a ∧ text a ≠ "" ∧ (text a).length ≤ maximum) :
    optionalMode read (textOrNull (mode.map text)) maximum = .ok mode := by
  cases mode with
  | none => rfl
  | some mode =>
    obtain ⟨hstrip, hne, hlength⟩ := htext mode
    unfold optionalMode
    refine Checked.bind_eq_ok.mpr ⟨text mode, validateText_valid hstrip (fun h => by cases h) hlength, ?_⟩
    rw [if_neg hne, hread]
    rfl

lemma mapM_textOf (times : List String) : ((times.map some).map Devices.textOrNull).mapM Schedule.textOf = some times := by
  induction times with
  | nil => rfl
  | cons time rest ih =>
    rw [List.map_cons, List.map_cons, List.mapM_cons, ih]
    rfl

lemma scheduleValues_valid {times : List String} {fallback : String} {gap : Int} {maximum : Nat} (hlength : times.length ≤ maximum)
    (hne : times ≠ []) (htimes : ∀ time ∈ times, strip time = time ∧ time ≠ "" ∧ Schedule.isTime time = true)
    (hascending : (((times.filterMap Schedule.scheduleMinutes).zip (times.filterMap Schedule.scheduleMinutes).tail).all
      fun pair => pair.1 < pair.2) = true)
    (hschedule : (Schedule.validateOfflineSchedule (times.map some) maximum gap).isOk = true) :
    scheduleValues (scheduleArray (times.map some)) fallback gap maximum = .ok times := by
  have hstrip : times.map strip = times := by
    conv_rhs => rw [← List.map_id times]
    exact List.map_congr_left fun time htime => (htimes time htime).1
  have hfilter : times.filter (· ≠ "") = times :=
    List.filter_eq_self.mpr fun time htime => decide_eq_true (htimes time htime).2.1
  have hall : times.all Schedule.isTime = true := List.all_eq_true.mpr fun time htime => (htimes time htime).2.2
  have hread : orError ((((times.map some).map textOrNull).mapM Schedule.textOf).map fun texts =>
      (texts.map strip).filter (· ≠ "")) invalid = .ok times := by
    have hmapM : ((times.map some).map textOrNull).mapM Schedule.textOf = some times := mapM_textOf times
    rw [hmapM, Option.map_some, hstrip, hfilter]
    rfl
  have hcheck : (decide (times ≠ []) && decide (times.length ≤ maximum) && times.all Schedule.isTime) = true := by
    rw [hall, decide_eq_true hne, decide_eq_true hlength]
    rfl
  obtain ⟨ordered, hordered⟩ := Checked.isOk_iff.mp hschedule
  unfold scheduleValues
  refine Checked.bind_eq_ok.mpr ⟨times, hread, ?_⟩
  refine Checked.bind_eq_ok.mpr ⟨(), Checked.require_eq_ok.mpr hcheck, ?_⟩
  refine Checked.bind_eq_ok.mpr ⟨(), Checked.require_eq_ok.mpr hascending, ?_⟩
  rw [hordered]
  rfl

lemma normalizeSyncStrategy_valid {strategy : Schedule.SyncStrategy} {syncTime : Option String}
    (h : (strategy = .firstDisplayLead ∧ syncTime = none) ∨
      (strategy = .fixedDaily ∧ ∃ time, syncTime = some time ∧ strip time = time ∧ Schedule.isTime time = true)) :
    Schedule.normalizeSyncStrategy (ofText strategy.text) (textOrNull syncTime) = .ok (strategy, syncTime) := by
  obtain ⟨rfl, rfl⟩ | ⟨rfl, time, rfl, hstrip, htime⟩ := h
  · decide +kernel
  · have hne : time ≠ "" := by
      rintro rfl
      exact absurd htime (by decide)
    have hpresent : (Value.isNull (.str (.utf8 time)) || Value.isText "" (.str (.utf8 time))) = false := by
      have hdiffer : (Text.utf8 time == Text.utf8 "") = false := beq_false_of_ne fun heq => hne (Text.utf8.inj heq)
      simp only [Value.isNull, Value.isText, hdiffer, Bool.or_self]
    have hstrategy : orError ((Schedule.textOf ((ofText Schedule.SyncStrategy.fixedDaily.text).orElse
        (.str (.utf8 "first_display_lead")))).bind fun text => Schedule.SyncStrategy.ofText (strip text))
        (⟨"DEVICE-008 sync_strategy 不合法"⟩ : Schedule.Refused) = .ok .fixedDaily := by decide +kernel
    unfold Schedule.normalizeSyncStrategy
    refine Checked.bind_eq_ok.mpr ⟨.fixedDaily, hstrategy, ?_⟩
    simp only [textOrNull, Devices.textOrNull, hpresent, Schedule.textOf, Option.map_some, hstrip]
    exact Checked.bind_eq_ok.mpr ⟨(), Checked.require_eq_ok.mpr htime, rfl⟩

lemma deliveryMode_ofText (mode : Schedule.DeliveryMode) : Schedule.DeliveryMode.ofText mode.text = some mode := by cases mode <;> rfl

lemma deliveryMode_text (mode : Schedule.DeliveryMode) : strip mode.text = mode.text ∧ mode.text ≠ "" ∧ mode.text.length ≤ 64 := by
  cases mode <;> decide +kernel

lemma buttonWakeAction_ofText (action : Devices.ButtonWakeAction) : Devices.ButtonWakeAction.ofText action.text = some action := by
  cases action <;> rfl

lemma buttonWakeAction_text (action : Devices.ButtonWakeAction) :
    strip action.text = action.text ∧ action.text ≠ "" ∧ action.text.length ≤ 64 := by cases action <;> decide +kernel

lemma frameOrientation_ofText (orientation : Devices.FrameOrientation) :
    Devices.FrameOrientation.ofText orientation.text = some orientation := by cases orientation <;> rfl

lemma frameOrientation_text (orientation : Devices.FrameOrientation) :
    strip orientation.text = orientation.text ∧ orientation.text ≠ "" ∧ orientation.text.length ≤ 32 := by
  cases orientation <;> decide +kernel

lemma layoutMode_ofText (mode : Devices.LayoutMode) : Devices.LayoutMode.ofText mode.text = some mode := by cases mode <;> rfl

lemma layoutMode_text (mode : Devices.LayoutMode) : strip mode.text = mode.text ∧ mode.text ≠ "" ∧ mode.text.length ≤ 64 := by
  cases mode <;> decide +kernel

lemma fitMode_ofText (mode : Devices.FitMode) : Devices.FitMode.ofText mode.text = some mode := by cases mode <;> rfl

lemma fitMode_text (mode : Devices.FitMode) : strip mode.text = mode.text ∧ mode.text ≠ "" ∧ mode.text.length ≤ 32 := by
  cases mode <;> decide +kernel

/-! ### The fixed point -/

theorem normalizeConfig_valid {runtime : Runtime} {source : Fields} {settings : Settings} {fallback : String} {slots : Nat}
    (hshows : Shows source settings) (hvalid : Valid runtime (Schedule.resolveOfflineScheduleMaxSlots (.int slots)) settings) :
    normalizeConfig runtime source fallback slots = .ok settings := by
  obtain ⟨times, htimes, hschedule, hlength, hall, hascending, hok⟩ := hvalid.times
  have hget : ∀ {key : String} (default : Value), key ∈ configKeys →
      source.get key default = (configFields settings 0).get key default := fun default hkey => hshows.get hkey default
  have hne : times ≠ [] := by
    rintro rfl
    cases hschedule
  unfold normalizeConfig
  refine Checked.bind_eq_ok.mpr ⟨settings.name, ?_, ?_⟩
  · rw [hget _ (by decide)]
    exact validateText_valid hvalid.name.1 (fun h => by cases h) hvalid.name.2.2
  refine Checked.bind_eq_ok.mpr ⟨settings.timezone, ?_, ?_⟩
  · rw [hget _ (by decide)]
    exact validateText_valid hvalid.timezone.1 (fun h => by cases h) hvalid.timezone.2.2
  refine Checked.bind_eq_ok.mpr ⟨(), Checked.require_eq_ok.mpr hvalid.zone, ?_⟩
  refine Checked.bind_eq_ok.mpr ⟨settings.schedule, ?_, ?_⟩
  · rw [hget _ (by decide)]
    exact validateText_valid hvalid.schedule.1 (fun _ => hvalid.schedule.2.1) hvalid.schedule.2.2.1
  refine Checked.bind_eq_ok.mpr ⟨(), Checked.require_eq_ok.mpr hvalid.schedule.2.2.2, ?_⟩
  refine Checked.bind_eq_ok.mpr ⟨settings.minimumScheduleGapMinutes, ?_, ?_⟩
  · rw [hget _ (by decide)]
    exact integerBetween_valid hvalid.gap
  refine Checked.bind_eq_ok.mpr ⟨(settings.syncStrategy, settings.syncTime), ?_, ?_⟩
  · rw [hget _ (by decide), hget _ (by decide)]
    exact congrArg (Except.mapError fun _ => invalid) (normalizeSyncStrategy_valid hvalid.sync)
  refine Checked.bind_eq_ok.mpr ⟨times, ?_, ?_⟩
  · rw [hget _ (by decide)]
    have hraw : (configFields settings 0).get "schedule_times" .null = scheduleArray (times.map some) := by
      have hfield : (configFields settings 0).get "schedule_times" .null = scheduleArray (settings.scheduleTimes.getD []) := rfl
      rw [hfield, htimes, Option.getD_some]
    rw [hraw]
    exact scheduleValues_valid hlength hne hall hascending hok
  refine Checked.bind_eq_ok.mpr ⟨settings.rotation, ?_, ?_⟩
  · rw [hget _ (by decide)]
    exact integerBetween_valid (by obtain h | h := hvalid.rotation <;> omega)
  refine Checked.bind_eq_ok.mpr ⟨(), Checked.require_eq_ok.mpr ?_, ?_⟩
  · rw [Bool.or_eq_true, decide_eq_true_eq, decide_eq_true_eq]
    exact hvalid.rotation
  refine Checked.bind_eq_ok.mpr ⟨settings.panelProfile, ?_, ?_⟩
  · rw [hget _ (by decide)]
    exact validateText_valid hvalid.panelProfile.1 (fun _ => hvalid.panelProfile.2.1) hvalid.panelProfile.2.2
  refine Checked.bind_eq_ok.mpr ⟨settings.deliveryMode.text, ?_, ?_⟩
  · rw [hget _ (by decide)]
    obtain ⟨hstrip, -, hlength⟩ := deliveryMode_text settings.deliveryMode
    exact validateText_valid hstrip (fun h => by cases h) hlength
  refine Checked.bind_eq_ok.mpr ⟨settings.deliveryMode, Checked.orError_eq_ok.mpr ?_, ?_⟩
  · rw [deliveryMode_ofText, Option.filter_some, if_pos (decide_eq_true hvalid.deliveryMode)]
  refine Checked.bind_eq_ok.mpr ⟨settings.prefetchLeadMinutes, ?_, ?_⟩
  · rw [hget _ (by decide)]
    exact integerBetween_valid hvalid.lead
  refine Checked.bind_eq_ok.mpr ⟨settings.buttonWakeAction.text, ?_, ?_⟩
  · rw [hget _ (by decide)]
    obtain ⟨hstrip, -, hlength⟩ := buttonWakeAction_text settings.buttonWakeAction
    exact validateText_valid hstrip (fun h => by cases h) hlength
  refine Checked.bind_eq_ok.mpr ⟨settings.buttonWakeAction, Checked.orError_eq_ok.mpr (buttonWakeAction_ofText _), ?_⟩
  refine Checked.bind_eq_ok.mpr ⟨settings.frameOrientation, ?_, ?_⟩
  · rw [hget _ (by decide)]
    exact optionalMode_valid frameOrientation_ofText frameOrientation_text
  refine Checked.bind_eq_ok.mpr ⟨settings.layoutMode, ?_, ?_⟩
  · rw [hget _ (by decide)]
    exact optionalMode_valid layoutMode_ofText layoutMode_text
  refine Checked.bind_eq_ok.mpr ⟨settings.fitMode, ?_, ?_⟩
  · rw [hget _ (by decide)]
    exact optionalMode_valid fitMode_ofText fitMode_text
  rw [if_neg hvalid.name.2.1, if_pos hschedule, ← htimes]
  rfl

end InkTime.Pairing
