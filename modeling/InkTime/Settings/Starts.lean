import InkTime.Settings.Defaults

/-!
# Starts

A start repairs what an older version left and changes nothing else, so a second one changes nothing.
-/

namespace InkTime.Settings

open Json (Value Text Double)
open Checked (require orError)

section

variable {rt : Runtime} {db later : Db} {key : String} {value : SettingValue}

/-- A stored value that a start leaves or repairs. -/
def Repairable (rt : Runtime) (key : String) (value : SettingValue) : Prop :=
  Coerced rt (key, value) ∨ (key = imageMaxSide ∧ value = .num 512) ∨
    ((key = sideCaptionMinimum ∨ key = sideCaptionMaximum) ∧ value.int.isOk = true ∧ ∀ flag, value ≠ .bool flag)

/-- The caption lengths put in order. -/
def lengthsAside (values : String → Option SettingValue) (key : String) : Option SettingValue :=
  if key = sideCaptionMinimum ∨ key = sideCaptionMaximum then (definitionOf key).map Definition.default else values key

lemma int_num (number : ℤ) : SettingValue.int (.num number) = .ok number := by
  unfold SettingValue.int
  dsimp only
  rw [Int.floor_intCast, Int.ceil_intCast, ite_self]

lemma towards_eq {number : ℤ} (h : ∀ flag, value ≠ .bool flag) : value.towards number = .num number := by
  unfold SettingValue.towards SettingValue.equals
  cases value with
  | bool flag => exact absurd rfl (h flag)
  | num value =>
    dsimp only
    split
    · next heq => rw [of_decide_eq_true heq]
    · rfl
  | text value => rfl

lemma captionMaximum_range (most : ℤ) : 1 ≤ captionMaximum most ∧ captionMaximum most ≤ 20 := by
  have hlow : sideCaptionMinChars.num = 1 := rfl
  have hhigh : sideCaptionMaxChars.num = 20 := rfl
  unfold captionMaximum
  omega

lemma captionMinimum_range (least most : ℤ) : 1 ≤ captionMinimum least most ∧ captionMinimum least most ≤ captionMaximum most := by
  have hlow : sideCaptionMinChars.num = 1 := rfl
  have hmost := captionMaximum_range most
  unfold captionMinimum
  omega

lemma coerced_caption {number : ℤ} (hkey : key = sideCaptionMinimum ∨ key = sideCaptionMaximum) (hlow : 1 ≤ number) (hhigh : number ≤ 20) :
    Coerced rt (key, .num number) := by
  have hdefinition : ∃ definition, definitionOf key = some definition ∧ definition.type = .integer ∧ definition.choices = none ∧
      definition.min = some 1 ∧ definition.max = some 20 := by
    obtain rfl | rfl := hkey
    · exact ⟨_, rfl, rfl, rfl, rfl, rfl⟩
    · exact ⟨_, rfl, rfl, rfl, rfl, rfl⟩
  obtain ⟨definition, hdefinition, htype, hchoices, hmin, hmax⟩ := hdefinition
  refine coerce_eq_ok.mpr ⟨definition, hdefinition, ?_, ?_⟩
  · rw [htype]
    exact convert_integer (isInt_intCast number)
  · have hlow' : (1 : ℚ) ≤ number := by exact_mod_cast hlow
    have hhigh' : (number : ℚ) ≤ 20 := by exact_mod_cast hhigh
    unfold check inRange
    rw [hchoices, hmin, hmax]
    dsimp only [Option.all_some]
    rw [decide_eq_true hlow', decide_eq_true hhigh']
    rfl

lemma coerced_firstMode (existing : Table SettingRow.key) : Coerced rt (executionMode, .text (firstMode existing)) := by
  unfold firstMode
  split
  · exact coerce_eq_ok.mpr ⟨_, rfl, rfl, rfl⟩
  · exact coerced_legacy _ _

/-- Without the caption lengths, the checks of all settings read the same. -/
lemma validateAll_lengths {values other : String → Option SettingValue} {least most : ℤ}
    (hsame : ∀ key ∈ validatedKeys, key ≠ sideCaptionMinimum → key ≠ sideCaptionMaximum → values key = other key)
    (hleast : values sideCaptionMinimum = some (.num least)) (hmost : values sideCaptionMaximum = some (.num most))
    (hlow : 1 ≤ least) (horder : least ≤ most) (hhigh : most ≤ 20) (hother : validateAll other = .ok ()) : validateAll values = .ok () := by
  have hat : ∀ key ∈ validatedKeys, key ≠ sideCaptionMinimum → key ≠ sideCaptionMaximum → valueAt values key = valueAt other key :=
    fun key hkey hminimum hmaximum => congrArg (orError · _) (hsame key hkey hminimum hmaximum)
  have hanchor := hat "openai_budget.cycle_anchor" (by decide) (by decide) (by decide)
  have hwarning := hat "openai_budget.warning_percent" (by decide) (by decide) (by decide)
  have hstop := hat "openai_budget.stop_percent" (by decide) (by decide) (by decide)
  have hmode := hat "analysis.openai_backfill_mode" (by decide) (by decide) (by decide)
  have henabled := hat "analysis.openai_backfill_enabled" (by decide) (by decide) (by decide)
  have hconsent := hat "analysis.openai_batch_consent" (by decide) (by decide) (by decide)
  have hdays := hat "observability.activity_retention_days" (by decide) (by decide) (by decide)
  have hrows := hat "observability.activity_max_rows" (by decide) (by decide) (by decide)
  have hcaption : validateCaptionRanges values = .ok () := by
    unfold validateCaptionRanges valueAt
    change (orError (values sideCaptionMinimum) _ >>= _) = _
    refine Checked.bind_eq_ok.mpr ⟨_, Checked.orError_eq_ok.mpr hleast, Checked.bind_eq_ok.mpr ⟨least, int_num least, ?_⟩⟩
    refine Checked.bind_eq_ok.mpr ⟨_, Checked.orError_eq_ok.mpr hmost, Checked.bind_eq_ok.mpr ⟨most, int_num most, ?_⟩⟩
    rw [Checked.require_eq_ok]
    have hlow' : sideCaptionMinChars ≤ (least : ℚ) := by
      have hone : sideCaptionMinChars = ((1 : ℤ) : ℚ) := by norm_num [sideCaptionMinChars]
      rw [hone]
      exact_mod_cast hlow
    have hhigh' : (most : ℚ) ≤ sideCaptionMaxChars := by
      have htwenty : sideCaptionMaxChars = ((20 : ℤ) : ℚ) := by norm_num [sideCaptionMaxChars]
      rw [htwenty]
      exact_mod_cast hhigh
    rw [decide_eq_true hlow', decide_eq_true horder, decide_eq_true hhigh']
    rfl
  unfold validateAll at hother ⊢
  obtain ⟨_, -, hrest⟩ := Checked.bind_eq_ok.mp hother
  refine Checked.bind_eq_ok.mpr ⟨(), hcaption, ?_⟩
  rw [hanchor, hwarning, hstop, hmode, henabled, hconsent, hdays, hrows]
  exact hrest

lemma ensureDefaults_ok {leastValue mostValue : SettingValue} {least most : ℤ}
    (hleast : startValue db.settings sideCaptionMinimum = some leastValue) (hleastInt : leastValue.int = .ok least)
    (hmost : startValue db.settings sideCaptionMaximum = some mostValue) (hmostInt : mostValue.int = .ok most) :
    ∃ later, ensureDefaults db = .ok later := by
  refine ⟨_, Checked.bind_eq_ok.mpr ⟨_, Checked.bind_eq_ok.mpr ⟨leastValue, ?_, Checked.bind_eq_ok.mpr ⟨mostValue, ?_,
    Checked.bind_eq_ok.mpr ⟨most, hmostInt, Checked.bind_eq_ok.mpr ⟨least, hleastInt, rfl⟩⟩⟩⟩, rfl⟩⟩
  · rw [stored_seedMode, hleast]
    rfl
  · rw [stored_seedMode, hmost]
    rfl

lemma isSome_startValue (existing : Table SettingRow.key) (h : (definitionOf key).isSome = true) :
    (startValue existing key).isSome = true := by
  unfold startValue
  rw [Option.isSome_or]
  split
  · exact Bool.or_true _
  · rw [Option.isSome_map, h, Bool.or_true]

/-- A start leaves or repairs every value that it finds or brings in. -/
lemma repairable_startValue (hrt : ReadsDefaults rt)
    (hstored : ∀ key value, (definitionOf key).isSome = true → stored db.settings key = some value → Repairable rt key value)
    (hkey : (definitionOf key).isSome = true) (hvalue : startValue db.settings key = some value) : Repairable rt key value := by
  unfold startValue at hvalue
  cases hfound : stored db.settings key with
  | some old =>
    rw [hfound, Option.some_or] at hvalue
    exact hstored key value hkey (hfound.trans hvalue)
  | none =>
    rw [hfound, Option.none_or] at hvalue
    split at hvalue
    · next hmode =>
      obtain rfl := Option.some.inj hvalue
      exact .inl (hmode ▸ coerced_firstMode _)
    · obtain ⟨definition, hdefinition, rfl⟩ := Option.map_eq_some_iff.mp hvalue
      exact .inl (coerced_default hrt hdefinition)

lemma integer_of_convert (h : convert rt key .integer value.raw = .ok value) : ∃ number : ℤ, value = .num number := by
  cases value with
  | bool flag => cases h
  | num value =>
    rw [raw_num] at h
    split at h
    · next hint => exact ⟨value.num, congrArg SettingValue.num (isInt_iff.mp hint).symm⟩
    · next hint =>
      unfold convert at h
      dsimp only at h
      rw [if_neg hint] at h
      cases h
  | text text =>
    unfold convert SettingValue.raw at h
    dsimp only at h
    split at h
    · cases h
    · cases h

/-- A valid value of a caption length is an integer. -/
lemma num_of_coerced (hkey : key = sideCaptionMinimum ∨ key = sideCaptionMaximum) (h : Coerced rt (key, value)) :
    ∃ number : ℤ, value = .num number := by
  have htype : ∃ definition, definitionOf key = some definition ∧ definition.type = .integer := by
    obtain rfl | rfl := hkey
    · exact ⟨_, rfl, rfl⟩
    · exact ⟨_, rfl, rfl⟩
  obtain ⟨definition, hdefinition, htype⟩ := htype
  obtain ⟨definition', hdefinition', hconvert, -⟩ := coerce_eq_ok.mp h
  obtain rfl := Option.some.inj (hdefinition.symm.trans hdefinition')
  rw [htype] at hconvert
  exact integer_of_convert hconvert

lemma Repairable.caption (h : Repairable rt key value) (hkey : key = sideCaptionMinimum ∨ key = sideCaptionMaximum) :
    value.int.isOk = true ∧ ∀ flag, value ≠ .bool flag := by
  obtain hcoerced | ⟨rfl, -⟩ | ⟨-, hcaption⟩ := h
  · obtain ⟨number, rfl⟩ := num_of_coerced hkey hcoerced
    exact ⟨rfl, fun flag => by simp⟩
  · obtain hkey | hkey := hkey
    · exact absurd hkey (by decide)
    · exact absurd hkey (by decide)
  · exact hcaption

lemma coerced_finalValue {least most : ℤ} (h : Repairable rt key value) : Coerced rt (key, finalValue least most key value) := by
  unfold finalValue
  have hmaximum := captionMaximum_range most
  have hminimum := captionMinimum_range least most
  split
  · next hkey =>
    rw [towards_eq (h.caption (.inl hkey)).2]
    exact coerced_caption (.inl hkey) (by omega) (by omega)
  · next hnotMinimum =>
    split
    · next hkey =>
      rw [towards_eq (h.caption (.inr hkey)).2]
      exact coerced_caption (.inr hkey) (by omega) (by omega)
    · next hnotMaximum =>
      split
      · next himage =>
        rw [himage.1]
        exact coerce_eq_ok.mpr ⟨_, rfl, rfl, rfl⟩
      · next himage =>
        obtain hcoerced | hold | ⟨hkey, -⟩ := h
        · exact hcoerced
        · exact absurd hold himage
        · obtain rfl | rfl := hkey
          · exact absurd rfl hnotMinimum
          · exact absurd rfl hnotMaximum

lemma not_coerced_oldSide : ¬Coerced rt (imageMaxSide, .num 512) := by
  intro h
  have hok := Checked.isOk_iff.mpr ⟨_, h⟩
  cases hok

lemma validatedKeys_known : ∀ key ∈ validatedKeys, (definitionOf key).isSome = true := by decide

variable (db) in
/-- After a start every setting has a value that it may have, and the values go together; a value that already was one is left. -/
theorem ensureDefaults_valid (hrt : ReadsDefaults rt)
    (hstored : ∀ key value, (definitionOf key).isSome = true → stored db.settings key = some value → Repairable rt key value)
    (htogether : validateAll (lengthsAside (startValue db.settings)) = .ok ()) : ∃ later, ensureDefaults db = .ok later ∧ Valid rt later ∧
      later.snapshots = db.snapshots ∧ ∀ key value, stored db.settings key = some value → Coerced rt (key, value) →
        key ≠ sideCaptionMinimum → key ≠ sideCaptionMaximum → valueOf later key = some value := by
  have hrepairable : ∀ key value, (definitionOf key).isSome = true → startValue db.settings key = some value → Repairable rt key value :=
    fun key value hkey hvalue => repairable_startValue hrt hstored hkey hvalue
  obtain ⟨leastValue, hleast⟩ := Option.isSome_iff_exists.mp
    (isSome_startValue db.settings (rfl : (definitionOf sideCaptionMinimum).isSome = true))
  obtain ⟨mostValue, hmost⟩ := Option.isSome_iff_exists.mp
    (isSome_startValue db.settings (rfl : (definitionOf sideCaptionMaximum).isSome = true))
  have hleastCaption := (hrepairable _ _ rfl hleast).caption (.inl rfl)
  have hmostCaption := (hrepairable _ _ rfl hmost).caption (.inr rfl)
  obtain ⟨least, hleastInt⟩ := Checked.isOk_iff.mp hleastCaption.1
  obtain ⟨most, hmostInt⟩ := Checked.isOk_iff.mp hmostCaption.1
  obtain ⟨later, hlater⟩ := ensureDefaults_ok hleast hleastInt hmost hmostInt
  obtain ⟨hsnapshots, leastValue', mostValue', least', most', hleast', hleastInt', hmost', hmostInt', hvalues⟩ :=
    ensureDefaults_eq_ok hlater
  obtain rfl := Option.some.inj (hleast.symm.trans hleast')
  obtain rfl := Option.some.inj (hmost.symm.trans hmost')
  obtain rfl := Except.ok.inj (hleastInt.symm.trans hleastInt')
  obtain rfl := Except.ok.inj (hmostInt.symm.trans hmostInt')
  have hvalueOf : ∀ key value, startValue db.settings key = some value → valueOf later key = some (finalValue least most key value) := by
    intro key value hvalue
    change (stored later.settings key).or _ = _
    rw [hvalues, hvalue]
    rfl
  have hknown : ∀ key, (definitionOf key).isSome = true → ∃ value, startValue db.settings key = some value ∧
      valueOf later key = some (finalValue least most key value) := by
    intro key hkey
    obtain ⟨value, hvalue⟩ := Option.isSome_iff_exists.mp (isSome_startValue db.settings hkey)
    exact ⟨value, hvalue, hvalueOf key value hvalue⟩
  refine ⟨later, hlater, ⟨?_, ?_, ?_⟩, hsnapshots, ?_⟩
  · intro key hkey
    have hsome := isSome_startValue db.settings hkey
    have hrow := congrArg Option.isSome (hvalues key)
    unfold stored at hrow
    rwa [Option.isSome_map, Option.isSome_map, hsome] at hrow
  · intro key value hkey hvalue
    obtain ⟨start, hstart, hfinal⟩ := hknown key hkey
    obtain rfl := Option.some.inj (hvalue.symm.trans hfinal)
    exact coerced_finalValue (hrepairable key start hkey hstart)
  · have hminimum := captionMinimum_range least most
    have hmaximum := captionMaximum_range most
    have hleastAfter : valueOf later sideCaptionMinimum = some (.num (captionMinimum least most)) := by
      rw [hvalueOf _ _ hleast, ← towards_eq hleastCaption.2]
      rfl
    have hmostAfter : valueOf later sideCaptionMaximum = some (.num (captionMaximum most)) := by
      rw [hvalueOf _ _ hmost, ← towards_eq hmostCaption.2]
      rfl
    apply validateAll_lengths _ hleastAfter hmostAfter hminimum.1 hminimum.2 hmaximum.2 htogether
    intro key hkey hnotMinimum hnotMaximum
    have himage : key ≠ imageMaxSide := by
      rintro rfl
      exact absurd hkey (by decide)
    obtain ⟨value, hvalue, hfinal⟩ := hknown key (validatedKeys_known key hkey)
    unfold lengthsAside
    rw [hfinal, if_neg (not_or.mpr ⟨hnotMinimum, hnotMaximum⟩), hvalue]
    unfold finalValue
    rw [if_neg hnotMinimum, if_neg hnotMaximum, if_neg fun hboth => himage hboth.1]
  · intro key value hvalue hcoerced hnotMinimum hnotMaximum
    have hstart : startValue db.settings key = some value := by
      unfold startValue
      rw [hvalue, Option.some_or]
    rw [hvalueOf key value hstart]
    unfold finalValue
    rw [if_neg hnotMinimum, if_neg hnotMaximum, if_neg]
    rintro ⟨rfl, rfl⟩
    exact absurd hcoerced not_coerced_oldSide

/-! ### A second start -/

lemma foldl_add_eq_self {entries : List (String × Definition)} {settings : Table SettingRow.key}
    (h : ∀ entry ∈ entries, (settings.find entry.1).isSome = true) :
    entries.foldl (fun settings entry => settings.add (defaultRow entry)) settings = settings := by
  induction entries with
  | nil => rfl
  | cons entry rest ih =>
    obtain ⟨hfirst, hrest⟩ := List.forall_mem_cons.mp h
    have hadd : settings.add (defaultRow entry) = settings := Table.add_of_find hfirst
    rw [List.foldl_cons, hadd, ih hrest]

lemma equals_towards (value : SettingValue) (number : ℤ) : (value.towards number).equals number = true := by
  unfold SettingValue.towards
  split
  · next hequals => exact hequals
  · exact decide_eq_true rfl

lemma int_of_equals {number : ℤ} (h : value.equals number = true) : value.int = .ok number := by
  unfold SettingValue.equals at h
  cases value with
  | bool flag => exact congrArg Except.ok (of_decide_eq_true h)
  | num value =>
    have hvalue : value = number := of_decide_eq_true h
    rw [hvalue, int_num]
  | text text => cases h

lemma value_of_stored {settings : Table SettingRow.key} {row : SettingRow} (hrow : row ∈ settings) :
    stored settings row.key = some row.value := by
  unfold stored
  rw [Table.find_of_mem hrow]
  rfl

lemma replaceUnequal_eq_self {settings : Table SettingRow.key} {number : ℤ} (h : stored settings key = some value)
    (hequals : value.equals number = true) : replaceUnequal key number settings = settings := by
  apply Table.update_eq_self
  apply List.countP_eq_zero.mpr
  intro row hrow hmatch
  rw [Bool.and_eq_true, decide_eq_true_eq] at hmatch
  obtain ⟨rfl, hunequal⟩ := hmatch
  obtain rfl := Option.some.inj (h.symm.trans (value_of_stored hrow))
  rw [hequals] at hunequal
  cases hunequal

lemma raiseImageSide_eq_self {settings : Table SettingRow.key} (h : stored settings imageMaxSide ≠ some (.num 512)) :
    raiseImageSide settings = settings := by
  apply Table.update_eq_self
  apply List.countP_eq_zero.mpr
  intro row hrow hmatch
  rw [Bool.and_eq_true, decide_eq_true_eq, decide_eq_true_eq] at hmatch
  rw [← hmatch.1, value_of_stored hrow, hmatch.2] at h
  exact h rfl

lemma captionMaximum_again (most : ℤ) : captionMaximum (captionMaximum most) = captionMaximum most := by
  unfold captionMaximum
  omega

lemma captionMinimum_again (least most : ℤ) :
    captionMinimum (captionMinimum least most) (captionMaximum most) = captionMinimum least most := by
  unfold captionMinimum
  rw [captionMaximum_again]
  omega

lemma ensureDefaults_eq_self {leastValue mostValue : SettingValue} {least most : ℤ}
    (hfind : ∀ key, (definitionOf key).isSome = true → (db.settings.find key).isSome = true)
    (hleast : stored db.settings sideCaptionMinimum = some leastValue) (hleastEquals : leastValue.equals (captionMinimum least most) = true)
    (hmost : stored db.settings sideCaptionMaximum = some mostValue) (hmostEquals : mostValue.equals (captionMaximum most) = true)
    (himage : stored db.settings imageMaxSide ≠ some (.num 512)) : ensureDefaults db = .ok db := by
  have hseed : seed db.settings = db.settings := by
    apply foldl_add_eq_self
    intro entry hentry
    apply hfind
    exact mem_settingDefinitions.mp (List.mem_map_of_mem (List.mem_filter.mp hentry).1)
  have hmode : seedMode db.settings db.settings = db.settings := by
    unfold seedMode
    rw [if_neg]
    intro hnone
    have hsome := hfind executionMode rfl
    rw [Option.isNone_iff_eq_none.mp hnone] at hsome
    cases hsome
  have hcaptions : normalizeCaptions db.settings = .ok db.settings := by
    unfold normalizeCaptions
    rw [hleast, hmost]
    simp only [orError, bind, Except.bind, int_of_equals hleastEquals, int_of_equals hmostEquals]
    rw [captionMinimum_again, captionMaximum_again, replaceUnequal_eq_self hleast hleastEquals, replaceUnequal_eq_self hmost hmostEquals]
    rfl
  unfold ensureDefaults
  rw [hseed, hmode, hcaptions]
  change Except.ok { db with settings := raiseImageSide db.settings } = _
  rw [raiseImageSide_eq_self himage]

lemma captions_of_validateAll {values : String → Option SettingValue} {least most : ℤ}
    (hleast : values sideCaptionMinimum = some (.num least)) (hmost : values sideCaptionMaximum = some (.num most))
    (h : validateAll values = .ok ()) : 1 ≤ least ∧ least ≤ most ∧ most ≤ 20 := by
  obtain ⟨_, hcaption, -⟩ := Checked.bind_eq_ok.mp h
  obtain ⟨leastValue, hleast', hcaption⟩ := Checked.bind_eq_ok.mp hcaption
  obtain rfl := Option.some.inj (hleast.symm.trans (Checked.orError_eq_ok.mp hleast'))
  obtain ⟨least', hleastInt, hcaption⟩ := Checked.bind_eq_ok.mp hcaption
  obtain rfl := Except.ok.inj ((int_num _).symm.trans hleastInt)
  obtain ⟨mostValue, hmost', hcaption⟩ := Checked.bind_eq_ok.mp hcaption
  obtain rfl := Option.some.inj (hmost.symm.trans (Checked.orError_eq_ok.mp hmost'))
  obtain ⟨most', hmostInt, hcaption⟩ := Checked.bind_eq_ok.mp hcaption
  obtain rfl := Except.ok.inj ((int_num _).symm.trans hmostInt)
  rw [Checked.require_eq_ok, Bool.and_eq_true, Bool.and_eq_true, decide_eq_true_eq, decide_eq_true_eq, decide_eq_true_eq] at hcaption
  have hone : sideCaptionMinChars = ((1 : ℤ) : ℚ) := by norm_num [sideCaptionMinChars]
  have htwenty : sideCaptionMaxChars = ((20 : ℤ) : ℚ) := by norm_num [sideCaptionMaxChars]
  obtain ⟨⟨hlow, horder⟩, hhigh⟩ := hcaption
  rw [hone] at hlow
  rw [htwenty] at hhigh
  exact ⟨by exact_mod_cast hlow, by exact_mod_cast horder, by exact_mod_cast hhigh⟩

/-- A second start changes nothing. -/
theorem ensureDefaults_again (h : ensureDefaults db = .ok later) : ensureDefaults later = .ok later := by
  obtain ⟨-, leastValue, mostValue, least, most, hleast, -, hmost, -, hvalues⟩ := ensureDefaults_eq_ok h
  refine ensureDefaults_eq_self ?_ ((hvalues _).trans (congrArg _ hleast)) (equals_towards _ _) ((hvalues _).trans (congrArg _ hmost))
    (equals_towards _ _) ?_
  · intro key hkey
    have hsome := congrArg Option.isSome (hvalues key)
    unfold stored at hsome
    rwa [Option.isSome_map, Option.isSome_map, isSome_startValue _ hkey] at hsome
  · rw [hvalues, Ne, Option.map_eq_some_iff]
    rintro ⟨value, -, hvalue⟩
    unfold finalValue at hvalue
    rw [if_neg (by decide), if_neg (by decide)] at hvalue
    split at hvalue
    · cases hvalue
    · next hnot => exact hnot ⟨rfl, hvalue⟩

/-- Caption lengths out of order, a side that is no longer a choice, and a value that no start repairs. -/
def oldSettings : Table SettingRow.key :=
  ⟨[{ key := sideCaptionMinimum, value := .num 30 }, { key := sideCaptionMaximum, value := .num 12 },
    { key := imageMaxSide, value := .num 512 }, { key := "analysis.concurrency", value := .text "many" }], by decide⟩

theorem ensureDefaults_again_old : ∃ db, ensureDefaults ⟨oldSettings, .empty⟩ = .ok db ∧
    stored db.settings sideCaptionMinimum = some (.num 12) ∧ stored db.settings imageMaxSide = some (.num 1024) ∧
      stored db.settings "analysis.concurrency" = some (.text "many") ∧ ensureDefaults db = .ok db := by
  have hstarts : ∃ db, ensureDefaults ⟨oldSettings, .empty⟩ = .ok db := ensureDefaults_ok rfl rfl rfl rfl
  obtain ⟨db, hdb⟩ := hstarts
  obtain ⟨-, leastValue, mostValue, least, most, hleast, hleastInt, hmost, hmostInt, hvalues⟩ := ensureDefaults_eq_ok hdb
  obtain rfl := Option.some.inj hleast
  obtain rfl := Option.some.inj hmost
  obtain rfl := Except.ok.inj hleastInt
  obtain rfl := Except.ok.inj hmostInt
  exact ⟨db, hdb, (hvalues _).trans rfl, (hvalues _).trans rfl, (hvalues _).trans rfl, ensureDefaults_again hdb⟩

/-- A start of a valid database changes nothing. -/
lemma ensureDefaults_of_valid (hvalid : Valid rt db) : ensureDefaults db = .ok db := by
  have hnumber : ∀ key, (definitionOf key).isSome = true → (key = sideCaptionMinimum ∨ key = sideCaptionMaximum) →
      ∃ number : ℤ, stored db.settings key = some (.num number) ∧ valueOf db key = some (.num number) := by
    intro key hkey hcaption
    obtain ⟨row, hrow⟩ := Option.isSome_iff_exists.mp (hvalid.rows key hkey)
    have hvalue : valueOf db key = some row.value := by
      unfold valueOf
      rw [hrow]
      rfl
    obtain ⟨number, hnumber⟩ := num_of_coerced hcaption (hvalid.coerced key row.value hkey hvalue)
    refine ⟨number, ?_, hnumber ▸ hvalue⟩
    unfold stored
    rw [hrow, ← hnumber]
    rfl
  obtain ⟨least, hleast, hleastValue⟩ := hnumber sideCaptionMinimum rfl (.inl rfl)
  obtain ⟨most, hmost, hmostValue⟩ := hnumber sideCaptionMaximum rfl (.inr rfl)
  obtain ⟨hlow, horder, hhigh⟩ := captions_of_validateAll hleastValue hmostValue hvalid.validated
  have hmaximum : captionMaximum most = most := by
    have hmin : sideCaptionMinChars.num = 1 := rfl
    have hmax : sideCaptionMaxChars.num = 20 := rfl
    unfold captionMaximum
    omega
  have hminimum : captionMinimum least most = least := by
    have hmin : sideCaptionMinChars.num = 1 := rfl
    unfold captionMinimum
    omega
  apply ensureDefaults_eq_self hvalid.rows hleast (decide_eq_true (by rw [hminimum])) hmost (decide_eq_true (by rw [hmaximum]))
  intro himage
  have hvalue : valueOf db imageMaxSide = some (.num 512) := by
    change (stored db.settings imageMaxSide).or _ = _
    rw [himage, Option.some_or]
  exact not_coerced_oldSide (hvalid.coerced _ _ rfl hvalue)

/-! ### A new database -/

lemma valid_start_new (hrt : ReadsDefaults rt) : ∃ later, ensureDefaults ⟨.empty, .empty⟩ = .ok later ∧ Valid rt later := by
  have hstored : ∀ key value, (definitionOf key).isSome = true → stored (.empty : Table SettingRow.key) key = some value →
      Repairable rt key value := fun key value _ hvalue => by cases hvalue
  have htogether : validateAll (lengthsAside (startValue .empty)) = .ok () := by rfl
  obtain ⟨later, hlater, hvalid, -⟩ := ensureDefaults_valid ⟨.empty, .empty⟩ hrt hstored htogether
  exact ⟨later, hlater, hvalid⟩

lemma values_start_new (h : ensureDefaults ⟨.empty, .empty⟩ = .ok later) :
    later.snapshots = .empty ∧ valueOf later = fun key => (definitionOf key).map Definition.default := by
  obtain ⟨hsnapshots, leastValue, mostValue, least, most, hleast, hleastInt, hmost, hmostInt, hvalues⟩ := ensureDefaults_eq_ok h
  obtain rfl := Option.some.inj hleast
  obtain rfl := Option.some.inj hmost
  obtain rfl := Except.ok.inj hleastInt
  obtain rfl := Except.ok.inj hmostInt
  refine ⟨hsnapshots, ?_⟩
  funext key
  change (stored later.settings key).or _ = _
  have hstart : startValue (.empty : Table SettingRow.key) key = (definitionOf key).map Definition.default := by
    unfold startValue
    split
    · next hmode =>
      subst hmode
      rfl
    · rfl
  rw [hvalues, hstart]
  cases hdefinition : definitionOf key with
  | none => rfl
  | some definition =>
    rw [Option.map_some, Option.map_some, Option.some_or]
    apply congrArg some
    unfold finalValue
    split
    · next hkey =>
      subst hkey
      obtain rfl := Option.some.inj hdefinition
      rfl
    · split
      · next hkey =>
        subst hkey
        obtain rfl := Option.some.inj hdefinition
        rfl
      · split
        · next himage =>
          obtain ⟨rfl, himage⟩ := himage
          obtain rfl := Option.some.inj hdefinition
          cases himage
        · rfl

end

end InkTime.Settings
