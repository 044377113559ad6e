import Mathlib.Tactic

/-!
# Months of the calendar

Days counted from the first day of the year 1, and months counted from the first month of the year 0, of the Gregorian
calendar.
-/

namespace Months

/-- `calendar.isleap` -/
def isLeap (year : ℤ) : Bool := year % 4 = 0 && (year % 100 ≠ 0 || year % 400 = 0)

/-- The days before the first day of a year. -/
def daysBefore (year : ℤ) : ℤ := (year - 1) * 365 + (year - 1) / 4 - (year - 1) / 100 + (year - 1) / 400

/-- The length of a month of a year, the first month being month 0. -/
def lengthIn (year : ℤ) : Nat → ℤ
  | 1 => if isLeap year then 29 else 28
  | 3 | 5 | 8 | 10 => 30
  | _ => 31

def daysBeforeMonth (year : ℤ) : Nat → ℤ
  | 0 => 0
  | month + 1 => daysBeforeMonth year month + lengthIn year month

def yearOf (month : ℤ) : ℤ := month / 12

def monthInYear (month : ℤ) : Nat := (month % 12).toNat

def firstDay (month : ℤ) : ℤ := daysBefore (yearOf month) + daysBeforeMonth (yearOf month) (monthInYear month)

/-- `calendar.monthrange(year, month)[1]` -/
def monthLength (month : ℤ) : ℤ := lengthIn (yearOf month) (monthInYear month)

/-- The year of a day is the year that its share of 400 years falls in, or one next to it. -/
def yearOfDay (day : ℤ) : ℤ :=
  if daysBefore (400 * day / 146097 + 2) ≤ day then 400 * day / 146097 + 2
  else if daysBefore (400 * day / 146097 + 1) ≤ day then 400 * day / 146097 + 1
  else 400 * day / 146097

def monthOf (day : ℤ) : ℤ :=
  12 * yearOfDay day + Nat.findGreatest (fun month => daysBefore (yearOfDay day) + daysBeforeMonth (yearOfDay day) month ≤ day) 11

/-- The day of the month, from 1. -/
def dayInMonth (day : ℤ) : ℤ := day - firstDay (monthOf day) + 1

def padded (width : Nat) (number : ℤ) : String :=
  String.ofList (List.replicate (width - (toString number).length) '0') ++ toString number

lemma padded_inj {width number number' : Nat} (h : padded width number = padded width number') : number = number' := by
  have hread : ∀ number : Nat, Nat.ofDigitChars 10 (padded width number).toList 0 = number := by
    intro number
    have hdigits : (toString (number : ℤ)).toList = Nat.toDigits 10 number := Nat.toList_repr
    rw [padded, String.toList_append, String.toList_ofList, hdigits, Nat.ofDigitChars_append, Nat.ofDigitChars_replicate_zero,
      mul_zero, Nat.ofDigitChars_ten_toDigits]
  rw [← hread number, ← hread number', h]

/-- `date.isoformat` -/
def isoformat (day : ℤ) : String :=
  padded 4 (yearOf (monthOf day)) ++ "-" ++ padded 2 (monthInYear (monthOf day) + 1) ++ "-" ++ padded 2 (dayInMonth day)

example : isoformat 738885 = "2024-01-01" := by decide +kernel

/-! ### Lengths -/

lemma lengthIn_bounds (year : ℤ) (month : Nat) : 28 ≤ lengthIn year month ∧ lengthIn year month ≤ 31 := by
  unfold lengthIn
  split
  · split
    · omega
    · omega
  · omega
  · omega
  · omega
  · omega
  · omega

lemma daysBefore_succ (year : ℤ) : daysBefore (year + 1) = daysBefore year + daysBeforeMonth year 12 := by
  have hyear : daysBeforeMonth year 12 = 365 + if isLeap year then 1 else 0 := by
    simp only [daysBeforeMonth, lengthIn]
    split
    · rfl
    · rfl
  rw [hyear]
  unfold daysBefore
  by_cases hleap : isLeap year = true
  · rw [if_pos hleap]
    simp only [isLeap, Bool.and_eq_true, Bool.or_eq_true, decide_eq_true_eq, ne_eq] at hleap
    omega
  · rw [if_neg hleap]
    simp only [isLeap, Bool.and_eq_true, Bool.or_eq_true, decide_eq_true_eq, ne_eq] at hleap
    omega

lemma firstDay_succ (month : ℤ) : firstDay (month + 1) = firstDay month + monthLength month := by
  unfold firstDay monthLength yearOf monthInYear
  by_cases hlast : month % 12 = 11
  · have hyear : (month + 1) / 12 = month / 12 + 1 := by omega
    have hmonth : (month + 1) % 12 = 0 := by omega
    rw [hyear, hmonth, hlast, daysBefore_succ]
    exact (add_zero _).trans (add_assoc (daysBefore (month / 12)) _ _).symm
  · have hyear : (month + 1) / 12 = month / 12 := by omega
    have hmonth : ((month + 1) % 12).toNat = (month % 12).toNat + 1 := by omega
    rw [hyear, hmonth, daysBeforeMonth, add_assoc]

lemma monthLength_bounds (month : ℤ) : 28 ≤ monthLength month ∧ monthLength month ≤ 31 := lengthIn_bounds _ _

lemma firstDay_strictMono : StrictMono firstDay :=
  strictMono_int_of_lt_succ fun month => by
    have := monthLength_bounds month
    rw [firstDay_succ]
    linarith

/-! ### Days -/

lemma yearOfDay_spec (day : ℤ) : daysBefore (yearOfDay day) ≤ day ∧ day < daysBefore (yearOfDay day + 1) := by
  unfold yearOfDay
  split_ifs with hnext hsame
  · refine ⟨hnext, ?_⟩
    unfold daysBefore
    omega
  · refine ⟨hsame, ?_⟩
    rw [add_assoc]
    exact not_le.mp hnext
  · refine ⟨?_, not_le.mp hsame⟩
    unfold daysBefore
    omega

/-- A day lies in its month. -/
theorem monthOf_spec (day : ℤ) : firstDay (monthOf day) ≤ day ∧ day < firstDay (monthOf day + 1) := by
  obtain ⟨hyear, hnext⟩ := yearOfDay_spec day
  set year := yearOfDay day
  set month := Nat.findGreatest (fun month => daysBefore year + daysBeforeMonth year month ≤ day) 11 with hmonth
  have hle : month ≤ 11 := Nat.findGreatest_le 11
  have hday : daysBefore year + daysBeforeMonth year month ≤ day :=
    Nat.findGreatest_spec (P := fun month => daysBefore year + daysBeforeMonth year month ≤ day) (Nat.zero_le 11)
      ((add_zero _).trans_le hyear)
  have hsplit : yearOf (12 * year + month) = year ∧ monthInYear (12 * year + month) = month := by
    unfold yearOf monthInYear
    omega
  have hof : monthOf day = 12 * year + month := rfl
  rw [hof, firstDay_succ]
  unfold firstDay monthLength
  rw [hsplit.1, hsplit.2]
  refine ⟨hday, ?_⟩
  by_cases hlast : month = 11
  · rw [daysBefore_succ] at hnext
    rw [hlast, add_assoc]
    exact hnext
  · have := Nat.findGreatest_is_greatest (Nat.lt_succ_self month) (by omega : month + 1 ≤ 11)
    rw [add_assoc]
    exact not_le.mp this

lemma dayInMonth_bounds (day : ℤ) : 1 ≤ dayInMonth day ∧ dayInMonth day ≤ monthLength (monthOf day) := by
  have hspec := monthOf_spec day
  rw [firstDay_succ] at hspec
  unfold dayInMonth
  omega

end Months
