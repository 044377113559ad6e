import InkTime.Settings.Rollback
import Mathlib.Data.List.TakeWhile

/-!
# Defaults

`ensure_defaults`: what each start writes, on a new database and on one of an older version.
-/

namespace InkTime.Settings

open Json (Value Text Double)
open Checked (require orError)

def sideCaptionMinimum : String := "analysis.side_caption_min_chars"

def sideCaptionMaximum : String := "analysis.side_caption_max_chars"

def imageMaxSide : String := "analysis.image_max_side"

def defaultRow (entry : String × Definition) : SettingRow := { key := entry.1, value := entry.2.default }

/-- `INSERT OR IGNORE` of every definition but that of the execution mode. -/
def seed (settings : Table SettingRow.key) : Table SettingRow.key :=
  (settingDefinitions.filter fun entry => entry.1 ≠ executionMode).foldl (fun settings entry => settings.add (defaultRow entry)) settings

/-- A new database starts seasonal; an older one keeps what its AI mode stands for. -/
def firstMode (existing : Table SettingRow.key) : String :=
  if existing.rows = [] then "seasonal_ai"
  else legacyExecutionMode ((stored existing aiMode).getD (.text "off")) ((stored existing prefilterEnabled).all SettingValue.truthy)

def seedMode (existing settings : Table SettingRow.key) : Table SettingRow.key :=
  if (existing.find executionMode).isNone then settings.add { key := executionMode, value := .text (firstMode existing) } else settings

/-- `normalize_caption_controls` -/
def captionMaximum (most : ℤ) : ℤ := max sideCaptionMinChars.num (min sideCaptionMaxChars.num most)

def captionMinimum (least most : ℤ) : ℤ := max sideCaptionMinChars.num (min (captionMaximum most) least)

/-- Python's `==` of a stored value and an integer, where `True` is `1`. -/
def SettingValue.equals (value : SettingValue) (number : ℤ) : Bool :=
  match value with
  | .bool value => (if value then 1 else 0) = number
  | .num value => value = number
  | .text _ => false

def replaceUnequal (key : String) (number : ℤ) (settings : Table SettingRow.key) : Table SettingRow.key :=
  settings.update (fun row => row.key = key && !row.value.equals number) (fun row => { row with value := .num number }) fun _ => rfl

def normalizeCaptions (settings : Table SettingRow.key) : Except SettingError (Table SettingRow.key) := do
  let least ← orError (stored settings sideCaptionMinimum) (.unknown sideCaptionMinimum)
  let most ← orError (stored settings sideCaptionMaximum) (.unknown sideCaptionMaximum)
  let most ← most.int
  let least ← least.int
  return replaceUnequal sideCaptionMaximum (captionMaximum most) (replaceUnequal sideCaptionMinimum (captionMinimum least most) settings)

/-- A side that is no longer a choice becomes the least one that is. The statement compares the stored text with `512`, as `_coerce` writes
the number; a `512.0` that something else wrote would stay. -/
def raiseImageSide (settings : Table SettingRow.key) : Table SettingRow.key :=
  settings.update (fun row => row.key = imageMaxSide && row.value = .num 512) (fun row => { row with value := .num 1024 }) fun _ => rfl

def ensureDefaults (db : Db) : Except SettingError Db := do
  let settings ← normalizeCaptions (seedMode db.settings (seed db.settings))
  return { db with settings := raiseImageSide settings }

/-! ### What is stored after a start -/

section

variable {settings existing : Table SettingRow.key} {key : String}

lemma find_foldl_add (entries : List (String × Definition)) (settings : Table SettingRow.key) (key : String) :
    (entries.foldl (fun settings entry => settings.add (defaultRow entry)) settings).find key =
      (settings.find key).or ((entries.lookup key).map fun definition => defaultRow (key, definition)) := by
  induction entries generalizing settings with
  | nil => rw [List.foldl_nil, List.lookup_nil, Option.map_none, Option.or_none]
  | cons entry rest ih =>
    have hrow : (defaultRow entry).key = entry.1 := rfl
    rw [List.foldl_cons, ih, Table.find_add_or, List.lookup_cons, Option.or_assoc, hrow]
    congr 1
    by_cases hkey : key = entry.1
    · rw [beq_iff_eq.mpr hkey, if_pos hkey.symm, Option.some_or, hkey]
      rfl
    · rw [beq_eq_false_iff_ne.mpr hkey, if_neg fun heq => hkey heq.symm, Option.none_or]

lemma lookup_filter_ne (entries : List (String × Definition)) (name key : String) :
    (entries.filter fun entry => entry.1 ≠ name).lookup key = if key = name then none else entries.lookup key := by
  induction entries with
  | nil => exact (ite_self _).symm
  | cons entry rest ih =>
    rw [List.filter_cons]
    by_cases hname : entry.1 = name
    · rw [if_neg (by simpa using hname), ih, List.lookup_cons]
      split
      · rfl
      · next hkey => rw [beq_eq_false_iff_ne.mpr (hname ▸ hkey)]
    · rw [if_pos (by simpa using hname), List.lookup_cons, List.lookup_cons, ih]
      by_cases hkey : key = entry.1
      · subst hkey
        rw [if_neg hname, if_neg hname]
      · rw [beq_eq_false_iff_ne.mpr hkey]

/-- The value that a key starts with. -/
def startValue (existing : Table SettingRow.key) (key : String) : Option SettingValue :=
  (stored existing key).or (if key = executionMode then some (.text (firstMode existing)) else (definitionOf key).map Definition.default)

lemma find_seed (settings : Table SettingRow.key) (key : String) : (seed settings).find key =
    (settings.find key).or
      (if key = executionMode then none else (definitionOf key).map fun definition => defaultRow (key, definition)) := by
  unfold seed
  rw [find_foldl_add, lookup_filter_ne]
  split
  · rfl
  · rfl

lemma stored_seedMode (existing : Table SettingRow.key) (key : String) :
    stored (seedMode existing (seed existing)) key = startValue existing key := by
  unfold startValue seedMode stored
  split
  · next hnone =>
    rw [Table.find_add_or, find_seed]
    by_cases hkey : key = executionMode
    · subst hkey
      rw [Option.isNone_iff_eq_none.mp hnone, if_pos rfl, if_pos rfl, if_pos rfl]
      rfl
    · rw [if_neg hkey, if_neg hkey, if_neg fun heq => hkey heq.symm, Option.or_none, Option.map_or, Option.map_map]
      rfl
  · next hsome =>
    rw [find_seed]
    by_cases hkey : key = executionMode
    · subst hkey
      obtain ⟨row, hrow⟩ := Option.ne_none_iff_exists'.mp fun hnone => hsome (Option.isNone_iff_eq_none.mpr hnone)
      rw [hrow]
      rfl
    · rw [if_neg hkey, if_neg hkey, Option.map_or, Option.map_map]
      rfl

/-- The number that a value equal to it already is, or the number itself. -/
def SettingValue.towards (value : SettingValue) (number : ℤ) : SettingValue := if value.equals number then value else .num number

lemma stored_update {p : SettingValue → Bool} {value : SettingValue} (name : String) (settings : Table SettingRow.key) (key : String) :
    stored (settings.update (fun row => row.key = name && p row.value) (fun row => { row with value := value }) fun _ => rfl) key =
      if key = name then (stored settings key).map fun old => if p old then value else old else stored settings key := by
  unfold stored
  rw [Table.find_update, Option.map_map]
  cases hfind : settings.find key with
  | none => simp
  | some row =>
    have hkey := (Table.find_eq_some hfind).2
    rw [Option.map_some, Option.map_some, Option.map_some]
    unfold Table.revise Function.comp
    by_cases hname : key = name
    · cases hp : p row.value with
      | false => simp [hkey, hname, hp]
      | true => simp [hkey, hname, hp]
    · simp [hkey, hname]

lemma stored_replaceUnequal (name : String) (number : ℤ) (settings : Table SettingRow.key) (key : String) :
    stored (replaceUnequal name number settings) key =
      if key = name then (stored settings key).map (·.towards number) else stored settings key := by
  unfold replaceUnequal
  rw [stored_update (p := fun value => !value.equals number)]
  congr 2
  funext value
  unfold SettingValue.towards
  cases value.equals number with
  | false => rfl
  | true => rfl

lemma stored_raiseImageSide (settings : Table SettingRow.key) (key : String) : stored (raiseImageSide settings) key =
    if key = imageMaxSide then (stored settings key).map fun old => if old = .num 512 then .num 1024 else old else stored settings key := by
  unfold raiseImageSide
  rw [stored_update (p := fun value => value = .num 512)]
  simp only [decide_eq_true_eq]

/-- What a key holds after a start, with the caption lengths that were stored. -/
def finalValue (least most : ℤ) (key : String) (value : SettingValue) : SettingValue :=
  if key = sideCaptionMinimum then value.towards (captionMinimum least most)
  else if key = sideCaptionMaximum then value.towards (captionMaximum most)
  else if key = imageMaxSide ∧ value = .num 512 then .num 1024
  else value

lemma ensureDefaults_eq_ok {db later : Db} (h : ensureDefaults db = .ok later) : later.snapshots = db.snapshots ∧
    ∃ leastValue mostValue least most, startValue db.settings sideCaptionMinimum = some leastValue ∧ leastValue.int = .ok least ∧
      startValue db.settings sideCaptionMaximum = some mostValue ∧ mostValue.int = .ok most ∧
        ∀ key, stored later.settings key = (startValue db.settings key).map (finalValue least most key) := by
  obtain ⟨settings, hnormalized, h⟩ := Checked.bind_eq_ok.mp h
  obtain rfl := Except.ok.inj h
  obtain ⟨leastValue, hleast, hnormalized⟩ := Checked.bind_eq_ok.mp hnormalized
  obtain ⟨mostValue, hmost, hnormalized⟩ := Checked.bind_eq_ok.mp hnormalized
  obtain ⟨most, hmostInt, hnormalized⟩ := Checked.bind_eq_ok.mp hnormalized
  obtain ⟨least, hleastInt, hnormalized⟩ := Checked.bind_eq_ok.mp hnormalized
  obtain rfl := Except.ok.inj hnormalized
  rw [Checked.orError_eq_ok, stored_seedMode] at hleast hmost
  refine ⟨rfl, leastValue, mostValue, least, most, hleast, hleastInt, hmost, hmostInt, ?_⟩
  intro key
  dsimp only
  rw [stored_raiseImageSide, stored_replaceUnequal, stored_replaceUnequal, stored_seedMode]
  unfold finalValue
  by_cases hleastKey : key = sideCaptionMinimum
  · subst hleastKey
    rw [if_neg (by decide), if_neg (by decide), if_pos rfl]
    rfl
  · by_cases hmostKey : key = sideCaptionMaximum
    · subst hmostKey
      rw [if_neg (by decide), if_pos rfl, if_neg (by decide)]
      rfl
    · rw [if_neg hmostKey, if_neg hleastKey]
      simp only [hleastKey, hmostKey, if_false]
      by_cases himage : key = imageMaxSide
      · simp only [himage, if_true, true_and]
      · simp only [himage, if_false, false_and, Option.map_id']

end

/-! ### Every default is a value that its setting may have -/

section

variable {rt other : Runtime} {key : String} {definition : Definition} {value : SettingValue}

/-- A runtime that knows more time zones and reads more URLs accepts more. -/
lemma check_mono (hzone : ∀ text, other.zone text = true → rt.zone text = true)
    (hurl : ∀ text, isHttpsUrl other text = true → isHttpsUrl rt text = true)
    (h : check other key definition value = .ok ()) : check rt key definition value = .ok () := by
  unfold check at h ⊢
  obtain ⟨_, hlength, h⟩ := Checked.bind_eq_ok.mp h
  obtain ⟨_, hchoices, h⟩ := Checked.bind_eq_ok.mp h
  obtain ⟨_, htext, hrange⟩ := Checked.bind_eq_ok.mp h
  refine Checked.bind_eq_ok.mpr ⟨(), hlength, Checked.bind_eq_ok.mpr ⟨(), hchoices, Checked.bind_eq_ok.mpr ⟨(), ?_, hrange⟩⟩⟩
  cases value with
  | bool value => rfl
  | num value => rfl
  | text text =>
    unfold checkText at htext ⊢
    obtain ⟨_, hclock, htext⟩ := Checked.bind_eq_ok.mp htext
    obtain ⟨_, hlink, htext⟩ := Checked.bind_eq_ok.mp htext
    have hlink' := Checked.require_eq_ok.mp hlink
    rw [Bool.or_eq_true] at hlink'
    refine Checked.bind_eq_ok.mpr ⟨(), hclock, Checked.bind_eq_ok.mpr ⟨(), Checked.require_eq_ok.mpr ?_, ?_⟩⟩
    · rw [Bool.or_eq_true]
      exact hlink'.imp_right (hurl text)
    · have hend : ∀ {error : SettingError},
          require (!(key = "general.timezone" || key = "device.default_timezone") || other.zone text) error = .ok () →
            require (!(key = "general.timezone" || key = "device.default_timezone") || rt.zone text) error = .ok () := by
        intro error hother
        rw [Checked.require_eq_ok, Bool.or_eq_true] at hother ⊢
        exact hother.imp_right (hzone text)
      split at htext
      · next hdisplay =>
        rw [if_pos hdisplay]
        obtain ⟨ordered, hordered, htext⟩ := Checked.bind_eq_ok.mp htext
        exact Checked.bind_eq_ok.mpr ⟨ordered, hordered, hend htext⟩
      · next hdisplay =>
        rw [if_neg hdisplay]
        exact hend htext

/-- The defaults are of the type of their setting. -/
def SettingValue.fits : SettingValue → ValueType → Bool
  | .num value, .integer => value.isInt
  | .num _, .number => true
  | .bool _, .boolean => true
  | .text _, .string => true
  | _, _ => false

lemma convert_fits (h : value.fits definition.type = true)
    (hdouble : ∀ number, definition.type = .number → value = .num number → rt.float number = some number) :
    convert rt key definition.type value.raw = .ok value := by
  generalize definition.type = type at h hdouble
  cases value with
  | bool value =>
    cases type with
    | boolean => rfl
    | _ => cases h
  | num value =>
    cases type with
    | integer => exact convert_integer h
    | number => exact convert_number (hdouble value rfl rfl)
    | _ => cases h
  | text value =>
    cases type with
    | string => rfl
    | _ => cases h

/-- A runtime with the one time zone of the defaults, that reads no URL. -/
def leastRuntime : Runtime where
  float value := some value
  parseFloat _ := none
  urlparse _ := none
  zone text := text = "Asia/Taipei"
  float_float _ _ h := by
    obtain rfl := Option.some.inj h
    rfl
  float_parseFloat _ _ h := by cases h

/-- Checks that are run on their own: a long text, and a list of times. -/
def lengthyKeys : List String := ["analysis.scoring_rules", "display.weekend_times"]

def acceptsDefault (entry : String × Definition) : Bool :=
  entry.2.default.fits entry.2.type && (entry.1 ∈ lengthyKeys || (check leastRuntime entry.1 entry.2 entry.2.default).isOk)

lemma acceptsDefault_all : settingDefinitions.all acceptsDefault = true := by decide +kernel

lemma check_plain {first : Char} {rest : List Char} {default : SettingValue} {most : ℕ} (hspace : Texts.isSpace first = false)
    (hlength : rest.length < most) : check leastRuntime "analysis.scoring_rules"
      { type := .string, default := default, minLength := some 1, maxLength := some most, controlCenter := true }
      (.text (String.ofList (first :: rest))) = .ok () := by
  have hmost : (String.ofList (first :: rest)).length ≤ most := by
    rw [String.length_ofList, List.length_cons]
    exact hlength
  unfold check checkLength
  dsimp only [Option.all_some]
  rw [decide_eq_true (Texts.length_strip_pos hspace), decide_eq_true hmost]
  rfl

lemma exists_ofList_append {text more : String} {first : Char} {most : ℕ}
    (h : ∃ chars : List Char, text = String.ofList chars ∧ chars.head? = some first ∧ chars.length ≤ most)
    (hmore : ∃ chars : List Char, more = String.ofList chars ∧ chars.length ≤ 100) :
    ∃ chars : List Char, text ++ more = String.ofList chars ∧ chars.head? = some first ∧ chars.length ≤ most + 100 := by
  obtain ⟨chars, rfl, hfirst, hlength⟩ := h
  obtain ⟨rest, rfl, hrest⟩ := hmore
  refine ⟨chars ++ rest, String.ofList_append.symm, ?_, ?_⟩
  · rw [List.head?_append, hfirst, Option.some_or]
  · rw [List.length_append]
    omega

set_option maxRecDepth 2000 in
lemma defaultScoringRules_eq :
    ∃ chars : List Char, defaultScoringRules = String.ofList chars ∧ chars.head? = some 'm' ∧ chars.length ≤ 600 := by
  unfold defaultScoringRules
  iterate 5 refine exists_ofList_append ?_ ⟨_, rfl, by decide +kernel⟩
  exact ⟨_, rfl, by decide +kernel, by decide +kernel⟩

lemma check_scoringRules : ∀ definition, definitionOf "analysis.scoring_rules" = some definition →
    check leastRuntime "analysis.scoring_rules" definition definition.default = .ok () := by
  obtain ⟨chars, hrules, hfirst, hlength⟩ := defaultScoringRules_eq
  obtain ⟨rest, rfl⟩ := List.head?_eq_some_iff.mp hfirst
  rw [List.length_cons] at hlength
  intro definition hdefinition
  obtain rfl := Option.some.inj (hdefinition.symm.trans (rfl : definitionOf "analysis.scoring_rules" = some
    { type := .string, default := .text defaultScoringRules, minLength := some 1, maxLength := some 12000, controlCenter := true }))
  dsimp only
  rw [hrules]
  exact check_plain (by decide) (by omega)

lemma check_weekendTimes : ∀ definition, definitionOf "display.weekend_times" = some definition →
    check leastRuntime "display.weekend_times" definition definition.default = .ok () := by
  have hitems : ("08:00,10:00,12:00,14:00,16:00,18:00,20:00,22:00".toList.splitOn ',').map (fun item => some (String.ofList item)) =
      ["08:00", "10:00", "12:00", "14:00", "16:00", "18:00", "20:00", "22:00"].map some := by decide +kernel
  have htimes : (Schedule.validateOfflineSchedule (["08:00", "10:00", "12:00", "14:00", "16:00", "18:00", "20:00", "22:00"].map some)
      16 30).isOk = true := by decide +kernel
  obtain ⟨ordered, hordered⟩ := Checked.isOk_iff.mp htimes
  intro definition hdefinition
  obtain rfl := Option.some.inj (hdefinition.symm.trans (rfl : definitionOf "display.weekend_times" = some
    { type := .string, default := .text "08:00,10:00,12:00,14:00,16:00,18:00,20:00,22:00" }))
  unfold check checkText
  dsimp only
  rw [hitems, hordered]
  rfl

/-- What the defaults need of a runtime: their time zone, and that they are doubles. -/
structure ReadsDefaults (rt : Runtime) : Prop where
  zone : rt.zone "Asia/Taipei" = true
  double : ∀ key definition value, definitionOf key = some definition → definition.type = .number → definition.default = .num value →
    rt.float value = some value

lemma readsDefaults_least : ReadsDefaults leastRuntime := ⟨by decide, fun _ _ _ _ _ _ => rfl⟩

lemma coerced_default (hrt : ReadsDefaults rt) (h : definitionOf key = some definition) : Coerced rt (key, definition.default) := by
  obtain ⟨before, after, hsplit, -⟩ := List.lookup_eq_some_iff.mp h
  have hmem : (key, definition) ∈ settingDefinitions := hsplit ▸ List.mem_append_right _ (List.mem_cons_self ..)
  have haccepts := List.all_eq_true.mp acceptsDefault_all _ hmem
  unfold acceptsDefault at haccepts
  rw [Bool.and_eq_true, Bool.or_eq_true, decide_eq_true_eq] at haccepts
  have hconvert : convert rt key definition.type definition.default.raw = .ok definition.default :=
    convert_fits haccepts.1 fun number hnumber hvalue => hrt.double key definition number h hnumber hvalue
  refine coerce_eq_ok.mpr ⟨definition, h, hconvert, ?_⟩
  have hleast : check leastRuntime key definition definition.default = .ok () := by
    obtain hlengthy | hcheck := haccepts.2
    · simp only [lengthyKeys, List.mem_cons, List.not_mem_nil, or_false] at hlengthy
      obtain rfl | rfl := hlengthy
      · exact check_scoringRules definition h
      · exact check_weekendTimes definition h
    · exact (Checked.isOk_iff.mp hcheck).choose_spec
  apply check_mono _ _ hleast
  · intro text htext
    rw [of_decide_eq_true htext]
    exact hrt.zone
  · intro text htext
    cases htext

end

end InkTime.Settings
