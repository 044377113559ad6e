import InkTime.Library.Json

/-!
# The fields of a dictionary

A dictionary as the list of its fields, in the order in which they were set.
-/

namespace Json

abbrev Fields := List (Text × Value)

namespace Fields

def lookup (key : String) : Fields → Option Value
  | [] => none
  | (name, value) :: rest => if name = .utf8 key then some value else lookup key rest

/-- `key in fields` -/
def has (key : String) (fields : Fields) : Bool := (lookup key fields).isSome

/-- `fields.get(key, default)` -/
def getOr (key : String) (default : Value) (fields : Fields) : Value := (lookup key fields).getD default

/-- `fields.get(key)` -/
def get (key : String) (fields : Fields) : Value := getOr key .null fields

/-- `fields[key] = value` -/
def set (key : String) (value : Value) : Fields → Fields
  | [] => [(.utf8 key, value)]
  | (name, held) :: rest => if name = .utf8 key then (name, value) :: rest else (name, held) :: set key value rest

/-- `fields.pop(key, None)` -/
def pop (key : String) (fields : Fields) : Fields := fields.filter fun field => field.1 ≠ .utf8 key

/-- `fields.setdefault(key, value)` -/
def setDefault (key : String) (value : Value) (fields : Fields) : Fields := if has key fields then fields else set key value fields

variable {key other : String} {value : Value} {fields : Fields}

lemma utf8_inj {name : Text} (h : key ≠ other) (hname : name = .utf8 key) : name ≠ .utf8 other := by
  intro heq
  exact h (Text.utf8.inj (hname.symm.trans heq))

@[simp]
lemma lookup_set : lookup other (set key value fields) = if other = key then some value else lookup other fields := by
  induction fields with
  | nil =>
    by_cases hsame : other = key
    · rw [if_pos hsame, hsame, set, lookup, if_pos rfl]
    · simp only [set, lookup, if_neg hsame, if_neg (utf8_inj (Ne.symm hsame) rfl)]
  | cons field rest ih =>
    obtain ⟨name, held⟩ := field
    unfold set
    by_cases hname : name = .utf8 key
    · rw [if_pos hname]
      by_cases hsame : other = key
      · rw [if_pos hsame, hsame, lookup, if_pos hname]
      · rw [if_neg hsame, lookup, lookup, if_neg (utf8_inj (Ne.symm hsame) hname), if_neg (utf8_inj (Ne.symm hsame) hname)]
    · rw [if_neg hname]
      unfold lookup
      by_cases hother : name = .utf8 other
      · rw [if_pos hother, if_neg, if_pos hother]
        rintro rfl
        exact hname hother
      · rw [if_neg hother, if_neg hother]
        exact ih

@[simp]
lemma getOr_set {default : Value} :
    getOr other default (set key value fields) = if other = key then value else getOr other default fields := by
  unfold getOr
  rw [lookup_set]
  split
  · rfl
  · rfl

@[simp]
lemma get_set : get other (set key value fields) = if other = key then value else get other fields := getOr_set

@[simp]
lemma lookup_pop : lookup other (pop key fields) = if other = key then none else lookup other fields := by
  induction fields with
  | nil => simp [pop, lookup]
  | cons field rest ih =>
    obtain ⟨name, held⟩ := field
    unfold pop at ih ⊢
    by_cases hname : name = .utf8 key
    · rw [List.filter_cons_of_neg (by simp [hname]), ih]
      by_cases hsame : other = key
      · rw [if_pos hsame, if_pos hsame]
      · rw [if_neg hsame, if_neg hsame, lookup, if_neg (utf8_inj (Ne.symm hsame) hname)]
    · rw [List.filter_cons_of_pos (by simp [hname]), lookup, ih]
      by_cases hother : name = .utf8 other
      · rw [if_pos hother, lookup, if_pos hother, if_neg]
        rintro rfl
        exact hname hother
      · rw [if_neg hother, lookup, if_neg hother]

lemma getOr_of_lookup {default : Value} (h : lookup key fields = some value) : getOr key default fields = value := by
  unfold getOr
  rw [h]
  rfl

lemma get_congr {fields' : Fields} (h : lookup key fields' = lookup key fields) : get key fields' = get key fields := by
  unfold get getOr
  rw [h]

lemma get_of_lookup (h : lookup key fields = some value) : get key fields = value := getOr_of_lookup h

lemma has_of_lookup (h : lookup key fields = some value) : has key fields = true := by
  unfold has
  rw [h]
  rfl

/-- What was set by default stays. -/
lemma setDefault_again : setDefault key value (setDefault key value fields) = setDefault key value fields := by
  unfold setDefault
  by_cases hhas : has key fields = true
  · rw [if_pos hhas, if_pos hhas]
  · rw [if_neg hhas, if_pos]
    unfold has
    rw [lookup_set, if_pos rfl]
    rfl

lemma has_eq_false : has key fields = false ↔ lookup key fields = none := Option.isSome_eq_false_iff.trans Option.isNone_iff_eq_none

/-- Setting what a field holds changes nothing. -/
lemma set_eq_self (h : lookup key fields = some value) : set key value fields = fields := by
  induction fields with
  | nil => cases h
  | cons field rest ih =>
    obtain ⟨name, held⟩ := field
    unfold lookup at h
    unfold set
    by_cases hname : name = .utf8 key
    · rw [if_pos hname] at h ⊢
      rw [Option.some.inj h]
    · rw [if_neg hname] at h ⊢
      rw [ih h]

/-- The last of two values that are set stays. -/
lemma set_set {value' : Value} : set key value (set key value' fields) = set key value fields := by
  induction fields with
  | nil => simp only [set, if_true]
  | cons field rest ih =>
    obtain ⟨name, held⟩ := field
    by_cases hname : name = .utf8 key
    · simp only [set, if_pos hname]
    · simp only [set, if_neg hname, ih]

lemma pop_eq_self (h : lookup key fields = none) : pop key fields = fields := by
  induction fields with
  | nil => rfl
  | cons field rest ih =>
    obtain ⟨name, held⟩ := field
    unfold lookup at h
    by_cases hname : name = .utf8 key
    · rw [if_pos hname] at h
      cases h
    · rw [if_neg hname] at h
      unfold pop at ih ⊢
      rw [List.filter_cons_of_pos (by simp [hname]), ih h]

/-- A field that is popped may have been set. -/
lemma pop_set_same : pop key (set key value fields) = pop key fields := by
  induction fields with
  | nil => simp [pop, set]
  | cons field rest ih =>
    obtain ⟨name, held⟩ := field
    unfold pop at ih ⊢
    unfold set
    by_cases hname : name = .utf8 key
    · simp [hname]
    · rw [if_neg hname, List.filter_cons_of_pos (by simp [hname]), List.filter_cons_of_pos (by simp [hname]), ih]

lemma pop_comm : pop key (pop other fields) = pop other (pop key fields) := by
  unfold pop
  rw [List.filter_filter, List.filter_filter]
  congr 1
  funext field
  exact Bool.and_comm _ _

end Fields

end Json
