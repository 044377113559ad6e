import InkTime.Library.Months

/-!
# Days of the year

The day of the year a date is written as without its year, and the date a year has there.
-/

namespace Months

/-- `date.strftime("%m-%d")` -/
def monthDay (day : ℤ) : String := padded 2 (monthInYear (monthOf day) + 1) ++ "-" ++ padded 2 (dayInMonth day)

/-- `date(year, month, day)`, without an answer where it raises `ValueError`. -/
def dateIn (year month day : ℤ) : Option ℤ :=
  if 1 ≤ month ∧ month ≤ 12 ∧ 1 ≤ day ∧ day ≤ lengthIn year (month - 1).toNat then
    some (firstDay (12 * year + (month - 1)) + day - 1)
  else none

example : (dateIn 2000 2 29).map monthDay = some "02-29" := by decide +kernel

lemma yearOf_mul_add (year : ℤ) {month : ℤ} (h : 0 ≤ month ∧ month < 12) : yearOf (12 * year + month) = year := by
  unfold yearOf
  omega

lemma monthInYear_mul_add (year : ℤ) {month : ℤ} (h : 0 ≤ month ∧ month < 12) :
    monthInYear (12 * year + month) = month.toNat := by
  unfold monthInYear
  omega

/-- A day between the first days of a month and of the next one lies in that month. -/
lemma monthOf_eq {day month : ℤ} (hfirst : firstDay month ≤ day) (hnext : day < firstDay (month + 1)) : monthOf day = month := by
  obtain ⟨hlow, hhigh⟩ := monthOf_spec day
  have hle := firstDay_strictMono.lt_iff_lt.mp (hlow.trans_lt hnext)
  have hge := firstDay_strictMono.lt_iff_lt.mp (hfirst.trans_lt hhigh)
  omega

/-- A date has the month and the day it was made from. -/
lemma dateIn_spec {year month day date : ℤ} (h : dateIn year month day = some date) :
    monthOf date = 12 * year + (month - 1) ∧ dayInMonth date = day := by
  unfold dateIn at h
  split at h
  · next hvalid =>
    obtain rfl := Option.some.inj h
    have hmonth : 0 ≤ month - 1 ∧ month - 1 < 12 := by omega
    have hlength : monthLength (12 * year + (month - 1)) = lengthIn year (month - 1).toNat := by
      rw [monthLength, yearOf_mul_add year hmonth, monthInYear_mul_add year hmonth]
    have hof : monthOf (firstDay (12 * year + (month - 1)) + day - 1) = 12 * year + (month - 1) := by
      apply monthOf_eq
      · omega
      · rw [firstDay_succ, hlength]
        omega
    refine ⟨hof, ?_⟩
    unfold dayInMonth
    rw [hof]
    omega
  · cases h

/-! ### Two digits -/

lemma padded_two : ∀ number : Fin 100, (padded 2 (number : ℕ)).toList.length = 2 := by decide +kernel

lemma length_padded {number : ℤ} (h : 0 ≤ number ∧ number < 100) : (padded 2 number).toList.length = 2 := by
  have htwo := padded_two ⟨number.toNat, by omega⟩
  rwa [Int.toNat_of_nonneg h.1] at htwo

lemma monthInYear_lt (month : ℤ) : monthInYear month < 12 := by
  unfold monthInYear
  omega

lemma length_monthPart (day : ℤ) : (padded 2 (monthInYear (monthOf day) + 1)).toList.length = 2 := by
  have hlt := monthInYear_lt (monthOf day)
  apply length_padded
  omega

lemma monthDay_toList (day : ℤ) : (monthDay day).toList =
    (padded 2 (monthInYear (monthOf day) + 1)).toList ++ '-' :: (padded 2 (dayInMonth day)).toList := by
  have hdash : "-".toList = ['-'] := rfl
  rw [monthDay, String.toList_append, String.toList_append, hdash, List.append_assoc]
  rfl

/-- The month and the day can be read off the text. -/
lemma monthDay_inj {day day' : ℤ} : monthDay day = monthDay day' ↔
    monthInYear (monthOf day) = monthInYear (monthOf day') ∧ dayInMonth day = dayInMonth day' := by
  constructor
  · intro h
    have hlist := congrArg String.toList h
    rw [monthDay_toList, monthDay_toList] at hlist
    obtain ⟨hmonth, hrest⟩ := List.append_inj hlist (by rw [length_monthPart, length_monthPart])
    have hnumber : monthInYear (monthOf day) + 1 = monthInYear (monthOf day') + 1 := padded_inj (String.toList_injective hmonth)
    have hone := (dayInMonth_bounds day).1
    have hone' := (dayInMonth_bounds day').1
    have hday : padded 2 ((dayInMonth day).toNat : ℤ) = padded 2 ((dayInMonth day').toNat : ℤ) := by
      rw [Int.toNat_of_nonneg (by omega), Int.toNat_of_nonneg (by omega)]
      exact String.toList_injective (List.cons.inj hrest).2
    have hday := padded_inj hday
    omega
  · rintro ⟨hmonth, hday⟩
    rw [monthDay, monthDay, hmonth, hday]

/-! ### Near days -/

lemma firstDay_add (month : ℤ) (count : ℕ) : firstDay month + 28 * count ≤ firstDay (month + count) := by
  induction count with
  | zero => simp
  | succ count ih =>
    have hlength := monthLength_bounds (month + count)
    have hsucc : month + ((count + 1 : ℕ) : ℤ) = month + count + 1 := by
      push_cast
      ring
    rw [hsucc, firstDay_succ]
    push_cast
    linarith

/-- Two days of one month and day of the year are months apart. -/
lemma eq_of_monthDay_eq {day day' : ℤ} (h : monthDay day = monthDay day') (hnear : |day - day'| < 336) : day = day' := by
  obtain ⟨hmonth, hday⟩ := monthDay_inj.mp h
  have hpart : monthOf day % 12 = monthOf day' % 12 := by
    unfold monthInYear at hmonth
    omega
  unfold dayInMonth at hday
  obtain heq | hlt | hgt : monthOf day = monthOf day' ∨ monthOf day + 12 ≤ monthOf day' ∨ monthOf day' + 12 ≤ monthOf day := by
    omega
  · rw [heq] at hday
    omega
  · have hfar := firstDay_add (monthOf day) 12
    have hle : firstDay (monthOf day + (12 : ℕ)) ≤ firstDay (monthOf day') := firstDay_strictMono.monotone hlt
    rw [abs_lt] at hnear
    push_cast at hfar hle
    linarith
  · have hfar := firstDay_add (monthOf day') 12
    have hle : firstDay (monthOf day' + (12 : ℕ)) ≤ firstDay (monthOf day) := firstDay_strictMono.monotone hgt
    rw [abs_lt] at hnear
    push_cast at hfar hle
    linarith

lemma lengthIn_le_of_isLeap {year : ℤ} (hleap : isLeap year = true) (other : ℤ) (month : ℕ) :
    lengthIn other month ≤ lengthIn year month := by
  unfold lengthIn
  split
  · rw [if_pos hleap]
    split
    · exact le_rfl
    · omega
  · exact le_rfl
  · exact le_rfl
  · exact le_rfl
  · exact le_rfl
  · exact le_rfl

/-- A leap year has every day of the year. -/
lemma exists_dateIn_leap (year : ℤ) (hleap : isLeap year = true) (day : ℤ) :
    ∃ date, dateIn year (monthInYear (monthOf day) + 1) (dayInMonth day) = some date ∧ monthDay date = monthDay day := by
  have hlt := monthInYear_lt (monthOf day)
  have hbounds := dayInMonth_bounds day
  have hle := lengthIn_le_of_isLeap hleap (yearOf (monthOf day)) (monthInYear (monthOf day))
  have hsome : ∃ date, dateIn year (monthInYear (monthOf day) + 1) (dayInMonth day) = some date := by
    unfold dateIn
    rw [if_pos]
    · exact ⟨_, rfl⟩
    · unfold monthLength at hbounds
      rw [add_sub_cancel_right, Int.toNat_natCast]
      omega
  obtain ⟨date, hdate⟩ := hsome
  refine ⟨date, hdate, ?_⟩
  obtain ⟨hmonth, hday⟩ := dateIn_spec hdate
  apply monthDay_inj.mpr
  rw [hmonth, add_sub_cancel_right, monthInYear_mul_add year (by omega), Int.toNat_natCast]
  exact ⟨rfl, hday⟩

end Months
