import InkTime.Cron.Text

/-!
# The earliest next run

What `_next_run` finds for a cron text: of the whole minutes after an instant at which the text matches and the clock shows a
minute that it has not shown since, the first.
-/

namespace InkTime.Cron

open Checked

/-! ### What a text matches -/

section Matching

variable (unicode : Unicode)

/-- A part `*`, `*/n` or a number stands for a value; a stride counts from the lower bound. -/
def PartLists (bounds : Bounds) (value : Nat) (part : List Char) : Prop :=
  part = ['*']
    ∨ (∃ digits, ∃ interval : Nat, part = '*' :: '/' :: digits ∧ unicode.int digits = some (interval : Int) ∧
      interval ∣ value - bounds.lower)
    ∨ (isDigits unicode part = true ∧ unicode.int part = some (value : Int))

/-- A field with its parts between commas stands for a value within the bounds. -/
def Lists (bounds : Bounds) (field : List Char) (value : Nat) : Prop :=
  bounds.lower ≤ value ∧ value ≤ bounds.upper ∧ ∃ part ∈ field.splitOn ',', PartLists unicode bounds value part

/-- Sunday is 0, and 7 as well. -/
def ListsWeekday (field : List Char) (number : Nat) : Prop :=
  Lists unicode weekdayBounds field number ∨ number = 0 ∧ Lists unicode weekdayBounds field 7

/-- A local minute matches the five fields and the filter of weekdays. -/
structure Matches (minute hour day month weekday : List Char) (weekdays : List Nat) (wall : Int) : Prop where
  minute : Lists unicode minuteBounds minute ((wall % 1440).toNat % 60)
  hour : Lists unicode hourBounds hour ((wall % 1440).toNat / 60)
  month : Lists unicode monthBounds month (dateOfDay (wall / 1440)).month
  both : '*' ∈ day ∨ '*' ∈ weekday → Lists unicode dayBounds day (dateOfDay (wall / 1440)).day ∧
    ListsWeekday unicode weekday (((dateOfDay (wall / 1440)).weekday + 1) % 7)
  either : '*' ∉ day → '*' ∉ weekday → Lists unicode dayBounds day (dateOfDay (wall / 1440)).day ∨
    ListsWeekday unicode weekday (((dateOfDay (wall / 1440)).weekday + 1) % 7)
  filter : weekdays = [] ∨ (dateOfDay (wall / 1440)).weekday ∈ weekdays

variable {unicode} {bounds : Bounds} {part : List Char} {parsed : Part} {value : Nat}

/-- The three ways in which a part is accepted. -/
lemma parsePart_cases (h : parsePart unicode bounds part = some parsed) :
    (part = ['*'] ∧ parsed = .star)
      ∨ (∃ digits, ∃ interval : Nat, part = '*' :: '/' :: digits ∧ unicode.int digits = some (interval : Int) ∧ 0 < interval ∧
        parsed = .stride interval)
      ∨ (isDigits unicode part = true ∧ startsStride part = false ∧
        ∃ number : Nat, unicode.int part = some (number : Int) ∧ parsed = .number number ∧ bounds.lower ≤ number ∧
          number ≤ bounds.upper) := by
  unfold parsePart at h
  split at h
  · rename_i hstar
    exact .inl ⟨hstar, (Option.some.inj h).symm⟩
  · split at h
    · rename_i hstride
      split at h
      · obtain ⟨interval, hint, h⟩ := Option.bind_eq_some_iff.mp h
        split at h
        · rename_i hpositive
          refine .inr (.inl ⟨part.drop 2, interval.toNat, ?_, ?_, by omega, (Option.some.inj h).symm⟩)
          · have htake := beq_iff_eq.mp hstride
            rw [← List.take_append_drop 2 part, htake]
            rfl
          · rw [hint, Int.toNat_of_nonneg hpositive.le]
        · cases h
      · cases h
    · rename_i hstride
      split at h
      · rename_i hdigits
        obtain ⟨number, hint, h⟩ := Option.bind_eq_some_iff.mp h
        split at h
        · rename_i hbounds
          rw [Bool.and_eq_true, decide_eq_true_eq, decide_eq_true_eq] at hbounds
          refine .inr (.inr ⟨hdigits, Bool.eq_false_iff.mpr hstride, number.toNat, ?_, (Option.some.inj h).symm, ?_, ?_⟩)
          · rw [hint, Int.toNat_of_nonneg (by omega)]
          · omega
          · omega
        · cases h
      · cases h

lemma notMem_of_isDigits (h : isDigits unicode part = true) : '*' ∉ part := by
  intro hmem
  unfold isDigits at h
  rw [Bool.and_eq_true, List.all_eq_true] at h
  have hstar := h.2 '*' hmem
  rw [unicode.star] at hstar
  cases hstar

/-- A part that is accepted stands for the values that it lists. -/
lemma parsePart_contains (h : parsePart unicode bounds part = some parsed) :
    parsed.contains bounds value = true ↔ bounds.lower ≤ value ∧ value ≤ bounds.upper ∧ PartLists unicode bounds value part := by
  obtain ⟨rfl, rfl⟩ | ⟨digits, interval, rfl, hint, -, rfl⟩ | ⟨hdigits, -, number, hint, rfl, hlower, hupper⟩ := parsePart_cases h
  · simp [Part.contains, PartLists]
  · simp only [Part.contains, Bool.and_eq_true, decide_eq_true_eq, beq_iff_eq, and_assoc]
    constructor
    · rintro ⟨hlower, hupper, hmod⟩
      exact ⟨hlower, hupper, .inr (.inl ⟨digits, interval, rfl, hint, Nat.dvd_of_mod_eq_zero hmod⟩)⟩
    · rintro ⟨hlower, hupper, hlists⟩
      refine ⟨hlower, hupper, ?_⟩
      obtain hstar | ⟨other, step, heq, hstep, hdvd⟩ | ⟨hdigits, -⟩ := hlists
      · cases hstar
      · obtain rfl : digits = other := by simpa using heq
        rw [hint, Option.some.injEq, Int.natCast_inj] at hstep
        rw [hstep]
        exact Nat.mod_eq_zero_of_dvd hdvd
      · exact absurd List.mem_cons_self (notMem_of_isDigits hdigits)
  · simp only [Part.contains, beq_iff_eq]
    constructor
    · rintro rfl
      exact ⟨hlower, hupper, .inr (.inr ⟨hdigits, hint⟩)⟩
    · rintro ⟨-, -, rfl | ⟨other, step, rfl, -⟩ | ⟨-, hvalue⟩⟩
      · exact absurd List.mem_cons_self (notMem_of_isDigits hdigits)
      · exact absurd List.mem_cons_self (notMem_of_isDigits hdigits)
      · rw [hint, Option.some.injEq, Int.natCast_inj] at hvalue
        exact hvalue.symm

def Part.starred : Part → Bool
  | .number _ => false
  | _ => true

lemma hasStar_eq (field : Field) : field.hasStar = field.any Part.starred := rfl

lemma parsePart_starred (h : parsePart unicode bounds part = some parsed) : parsed.starred = true ↔ '*' ∈ part := by
  obtain ⟨rfl, rfl⟩ | ⟨digits, interval, rfl, -, -, rfl⟩ | ⟨hdigits, -, number, -, rfl, -⟩ := parsePart_cases h
  · simp [Part.starred]
  · simp [Part.starred]
  · simpa [Part.starred] using notMem_of_isDigits hdigits

/-- Splitting a list keeps its entries but for the separators. -/
lemma mem_splitOnP {α : Type} {p : α → Bool} {a : α} (ha : p a = false) (xs : List α) :
    a ∈ xs ↔ ∃ part ∈ xs.splitOnP p, a ∈ part := by
  induction xs with
  | nil => simp
  | cons x rest ih =>
    rw [List.splitOnP_cons_eq_if_modifyHead, List.mem_cons]
    cases hx : p x with
    | true =>
      have hne : a ≠ x := by
        rintro rfl
        rw [ha] at hx
        cases hx
      simp [hne, ih]
    | false =>
      obtain ⟨first, later, hsplit⟩ := List.exists_cons_of_ne_nil (List.splitOnP_ne_nil p rest)
      rw [hsplit] at ih ⊢
      rw [if_neg Bool.false_ne_true, List.modifyHead_cons, List.exists_mem_cons_iff, ih, List.exists_mem_cons_iff,
        List.mem_cons, or_assoc]

/-- What holds of some value of a list holds of the value of some part. -/
lemma any_of_mapM {α β : Type} {f : α → Option β} {p : β → Bool} {xs : List α} {ys : List β} (h : xs.mapM f = some ys) :
    ys.any p = true ↔ ∃ x ∈ xs, ∃ y, f x = some y ∧ p y = true := by
  induction xs generalizing ys with
  | nil =>
    obtain rfl : [] = ys := by simpa using h
    simp
  | cons x rest ih =>
    rw [List.mapM_cons] at h
    obtain ⟨y, hy, h⟩ := Option.bind_eq_some_iff.mp h
    obtain ⟨later, hlater, h⟩ := Option.bind_eq_some_iff.mp h
    obtain rfl := Option.some.inj h
    rw [List.any_cons, Bool.or_eq_true, ih hlater]
    constructor
    · rintro (hp | ⟨other, hother, found⟩)
      · exact ⟨x, List.mem_cons_self, y, hy, hp⟩
      · exact ⟨other, List.mem_cons_of_mem _ hother, found⟩
    · rintro ⟨other, hother, z, hz, hp⟩
      obtain rfl | hother := List.mem_cons.mp hother
      · obtain rfl : y = z := Option.some.inj (hy.symm.trans hz)
        exact .inl hp
      · exact .inr ⟨other, hother, z, hz, hp⟩

lemma isSome_of_mapM {α β : Type} {f : α → Option β} {xs : List α} {ys : List β} (h : xs.mapM f = some ys) :
    ∀ x ∈ xs, ∃ y, f x = some y := by
  induction xs generalizing ys with
  | nil =>
    intro x hx
    cases hx
  | cons x rest ih =>
    rw [List.mapM_cons] at h
    obtain ⟨y, hy, h⟩ := Option.bind_eq_some_iff.mp h
    obtain ⟨later, hlater, -⟩ := Option.bind_eq_some_iff.mp h
    intro other hother
    obtain rfl | hother := List.mem_cons.mp hother
    · exact ⟨y, hy⟩
    · exact ih hlater other hother

variable {text : List Char} {field : Field}

/-- The parts of an accepted field make up the set of the values that it lists. -/
lemma fieldValues_contains (h : fieldValues unicode bounds text = some field) (value : Nat) :
    field.contains bounds value = true ↔ Lists unicode bounds text value := by
  unfold Field.contains
  rw [any_of_mapM h]
  constructor
  · rintro ⟨part, hpart, parsed, hparsed, hcontains⟩
    obtain ⟨hlower, hupper, hlists⟩ := (parsePart_contains hparsed).mp hcontains
    exact ⟨hlower, hupper, part, hpart, hlists⟩
  · rintro ⟨hlower, hupper, part, hpart, hlists⟩
    obtain ⟨parsed, hparsed⟩ := isSome_of_mapM h part hpart
    exact ⟨part, hpart, parsed, hparsed, (parsePart_contains hparsed).mpr ⟨hlower, hupper, hlists⟩⟩

/-- A field contains a star where one of its parts is not a number. -/
lemma fieldValues_star (h : fieldValues unicode bounds text = some field) : field.hasStar = true ↔ '*' ∈ text := by
  have hjoin : '*' ∈ text ↔ ∃ part ∈ text.splitOn ',', '*' ∈ part := by
    rw [List.splitOn_eq_splitOnP]
    exact mem_splitOnP (by decide) text
  rw [hasStar_eq, any_of_mapM h, hjoin]
  constructor
  · rintro ⟨part, hpart, parsed, hparsed, hstar⟩
    exact ⟨part, hpart, (parsePart_starred hparsed).mp hstar⟩
  · rintro ⟨part, hpart, hstar⟩
    obtain ⟨parsed, hparsed⟩ := isSome_of_mapM h part hpart
    exact ⟨part, hpart, parsed, hparsed, (parsePart_starred hparsed).mpr hstar⟩

lemma parsePart_valid (h : parsePart unicode bounds part = some parsed) : parsed.valid bounds = true := by
  obtain ⟨-, rfl⟩ | ⟨-, interval, -, -, hpositive, rfl⟩ | ⟨-, -, number, -, rfl, hlower, hupper⟩ := parsePart_cases h
  · rfl
  · exact decide_eq_true hpositive
  · simp [Part.valid, hlower, hupper]

lemma fieldValues_valid (h : fieldValues unicode bounds text = some field) : field.all (·.valid bounds) = true := by
  rw [List.all_eq_not_any_not, Bool.not_eq_true', Bool.eq_false_iff, ne_eq, any_of_mapM h]
  rintro ⟨part, -, parsed, hparsed, hinvalid⟩
  rw [parsePart_valid hparsed] at hinvalid
  cases hinvalid

lemma cronFields_valid {cron : List Char} {expression : Expression} (h : cronFields unicode cron = some expression) :
    expression.valid = true := by
  unfold cronFields at h
  split at h
  · split at h
    · obtain ⟨minutes, hminutes, h⟩ := Option.bind_eq_some_iff.mp h
      obtain ⟨hours, hhours, h⟩ := Option.bind_eq_some_iff.mp h
      obtain ⟨days, hdays, h⟩ := Option.bind_eq_some_iff.mp h
      obtain ⟨months, hmonths, h⟩ := Option.bind_eq_some_iff.mp h
      obtain ⟨numbers, hnumbers, h⟩ := Option.bind_eq_some_iff.mp h
      obtain rfl := Option.some.inj h
      unfold Expression.valid
      rw [fieldValues_valid hminutes, fieldValues_valid hhours, fieldValues_valid hdays, fieldValues_valid hmonths,
        fieldValues_valid hnumbers]
      rfl
    · cases h
  · cases h

/-- An accepted text has five fields, and fires in the minutes that match them. -/
lemma cronFields_fires {cron : List Char} {expression : Expression} (h : cronFields unicode cron = some expression) :
    ∃ minute hour day month weekday, words unicode cron = [minute, hour, day, month, weekday] ∧ ∀ weekdays wall,
      expression.fires weekdays wall = true ↔ Matches unicode minute hour day month weekday weekdays wall := by
  unfold cronFields at h
  split at h
  · rename_i minute hour day month weekday hwords
    refine ⟨minute, hour, day, month, weekday, hwords, ?_⟩
    split at h
    · obtain ⟨minutes, hminutes, h⟩ := Option.bind_eq_some_iff.mp h
      obtain ⟨hours, hhours, h⟩ := Option.bind_eq_some_iff.mp h
      obtain ⟨days, hdays, h⟩ := Option.bind_eq_some_iff.mp h
      obtain ⟨months, hmonths, h⟩ := Option.bind_eq_some_iff.mp h
      obtain ⟨numbers, hnumbers, h⟩ := Option.bind_eq_some_iff.mp h
      obtain rfl := Option.some.inj h
      intro weekdays wall
      have hday := fieldValues_contains hdays (dateOfDay (wall / 1440)).day
      have hweekday : ({ minute := minutes, hour := hours, day := days, month := months, weekday := numbers } :
          Expression).hasWeekday (((dateOfDay (wall / 1440)).weekday + 1) % 7) = true ↔
          ListsWeekday unicode weekday (((dateOfDay (wall / 1440)).weekday + 1) % 7) := by
        unfold Expression.hasWeekday ListsWeekday
        rw [Bool.or_eq_true, Bool.and_eq_true, beq_iff_eq, fieldValues_contains hnumbers, fieldValues_contains hnumbers]
      have hstars : (days.hasStar || numbers.hasStar) = true ↔ '*' ∈ day ∨ '*' ∈ weekday := by
        rw [Bool.or_eq_true, fieldValues_star hdays, fieldValues_star hnumbers]
      have hfilter : (weekdays.isEmpty || weekdays.contains (dateOfDay (wall / 1440)).weekday) = true ↔
          weekdays = [] ∨ (dateOfDay (wall / 1440)).weekday ∈ weekdays := by simp
      unfold Expression.fires
      simp only [Bool.and_eq_true, hfilter, fieldValues_contains hminutes, fieldValues_contains hhours,
        fieldValues_contains hmonths]
      cases hstar : days.hasStar || numbers.hasStar with
      | true =>
        rw [if_pos rfl, Bool.and_eq_true, hday, hweekday]
        have hsome := hstars.mp hstar
        constructor
        · rintro ⟨⟨⟨⟨hminute, hhour⟩, hmonth⟩, hdate⟩, hweekdays⟩
          exact ⟨hminute, hhour, hmonth, fun _ => hdate, fun _ _ => .inl hdate.1, hweekdays⟩
        · intro hmatches
          exact ⟨⟨⟨⟨hmatches.minute, hmatches.hour⟩, hmatches.month⟩, hmatches.both hsome⟩, hmatches.filter⟩
      | false =>
        rw [if_neg Bool.false_ne_true, Bool.or_eq_true, hday, hweekday]
        have hnone : ¬('*' ∈ day ∨ '*' ∈ weekday) := by
          rw [← hstars, hstar]
          exact Bool.false_ne_true
        constructor
        · rintro ⟨⟨⟨⟨hminute, hhour⟩, hmonth⟩, hdate⟩, hweekdays⟩
          exact ⟨hminute, hhour, hmonth, fun hsome => absurd hsome hnone, fun _ _ => hdate, hweekdays⟩
        · intro hmatches
          have hdate := hmatches.either (fun hstar => hnone (.inl hstar)) fun hstar => hnone (.inr hstar)
          exact ⟨⟨⟨⟨hmatches.minute, hmatches.hour⟩, hmatches.month⟩, hdate⟩, hmatches.filter⟩
    · cases h
  · cases h

end Matching

/-! ### The search -/

section Search

/-- An entry of a sequence is greater than a bound and than all entries before it. -/
def IsRecord (f : ℕ → ℤ) (bound : ℤ) (k : ℕ) : Prop := bound < f k ∧ ∀ j < k, f j < f k

variable {zone : Zone} {fires : Int → Except CronError Bool} {f : ℕ → ℤ} {bound : ℤ} {k : ℕ}

lemma isRecord_zero : IsRecord f bound 0 ↔ bound < f 0 := by
  unfold IsRecord
  constructor
  · exact fun h => h.1
  · intro h
    exact ⟨h, fun j hj => absurd hj (Nat.not_lt_zero j)⟩

/-- A later entry is a record where it is one over the greater of the bound and the first entry. -/
lemma isRecord_succ : IsRecord f bound (k + 1) ↔ IsRecord (fun j => f (j + 1)) (max bound (f 0)) k := by
  unfold IsRecord
  rw [max_lt_iff]
  constructor
  · rintro ⟨hbound, hbefore⟩
    exact ⟨⟨hbound, hbefore 0 (Nat.succ_pos k)⟩, fun j hj => hbefore (j + 1) (Nat.succ_lt_succ hj)⟩
  · rintro ⟨⟨hbound, hfirst⟩, hbefore⟩
    refine ⟨hbound, ?_⟩
    intro j hj
    cases j with
    | zero => exact hfirst
    | succ j => exact hbefore j (Nat.lt_of_succ_lt_succ hj)

/-- The minutes that the clock shows, minute by minute from a candidate on. -/
def walls (zone : Zone) (candidate : Int) (k : ℕ) : ℤ := wallMinute zone (candidate + k * microsecondsPerMinute)

lemma walls_succ (candidate : Int) : (fun j => walls zone candidate (j + 1)) = walls zone (candidate + microsecondsPerMinute) := by
  funext j
  unfold walls
  congr 1
  push_cast
  ring

lemma walls_zero (candidate : Int) : walls zone candidate 0 = wallMinute zone candidate := by
  unfold walls
  simp

/-- The search stops at an index: a record at which it fires, after candidates that all have dates and of which no record fires. -/
structure Found (zone : Zone) (fires : Int → Except CronError Bool) (candidate bound : Int) (k : ℕ) : Prop where
  dates : ∀ j ≤ k, representable zone (candidate + j * microsecondsPerMinute) = true
  record : IsRecord (walls zone candidate) bound k
  fired : fires (walls zone candidate k) = .ok true
  before : ∀ j < k, IsRecord (walls zone candidate) bound j → fires (walls zone candidate j) = .ok false

lemma found_zero {candidate : Int} : Found zone fires candidate bound 0 ↔
    representable zone candidate = true ∧ bound < wallMinute zone candidate ∧ fires (wallMinute zone candidate) = .ok true := by
  constructor
  · intro h
    have hrepresentable := h.dates 0 le_rfl
    have hrecord := isRecord_zero.mp h.record
    have hfires := h.fired
    rw [walls_zero] at hrecord hfires
    exact ⟨by simpa using hrepresentable, hrecord, hfires⟩
  · rintro ⟨hrepresentable, hlater, hfires⟩
    refine ⟨?_, isRecord_zero.mpr (by rwa [walls_zero]), by rwa [walls_zero], fun j hj => absurd hj (Nat.not_lt_zero j)⟩
    intro j hj
    obtain rfl := Nat.le_zero.mp hj
    simpa using hrepresentable

lemma found_succ {candidate : Int} : Found zone fires candidate bound (k + 1) ↔
    representable zone candidate = true ∧ (bound < wallMinute zone candidate → fires (wallMinute zone candidate) = .ok false) ∧
      Found zone fires (candidate + microsecondsPerMinute) (max bound (wallMinute zone candidate)) k := by
  have hshift : ∀ j : ℕ, candidate + microsecondsPerMinute + j * microsecondsPerMinute =
      candidate + (j + 1 : ℕ) * microsecondsPerMinute := by
    intro j
    push_cast
    ring
  have hwall : ∀ j, walls zone (candidate + microsecondsPerMinute) j = walls zone candidate (j + 1) := by
    intro j
    rw [← walls_succ]
  constructor
  · intro h
    refine ⟨by simpa using h.dates 0 (Nat.zero_le _), ?_, ?_, ?_, ?_, ?_⟩
    · intro hlater
      have hfirst := h.before 0 (Nat.succ_pos k) (isRecord_zero.mpr (by rwa [walls_zero]))
      rwa [walls_zero] at hfirst
    · intro j hj
      rw [hshift]
      exact h.dates (j + 1) (Nat.succ_le_succ hj)
    · have hrecord := isRecord_succ.mp h.record
      rwa [walls_succ, walls_zero] at hrecord
    · rw [hwall]
      exact h.fired
    · intro j hj hrecord
      rw [hwall]
      apply h.before (j + 1) (Nat.succ_lt_succ hj)
      rw [isRecord_succ, walls_succ, walls_zero]
      exact hrecord
  · rintro ⟨hrepresentable, hfirst, h⟩
    refine ⟨?_, ?_, ?_, ?_⟩
    · intro j hj
      cases j with
      | zero => simpa using hrepresentable
      | succ j =>
        rw [← hshift]
        exact h.dates j (Nat.le_of_succ_le_succ hj)
    · rw [isRecord_succ, walls_succ, walls_zero]
      exact h.record
    · rw [← hwall]
      exact h.fired
    · intro j hj hrecord
      cases j with
      | zero =>
        rw [walls_zero]
        apply hfirst
        exact (walls_zero candidate).symm ▸ isRecord_zero.mp hrecord
      | succ j =>
        rw [← hwall]
        apply h.before j (Nat.lt_of_succ_lt_succ hj)
        rwa [isRecord_succ, walls_succ, walls_zero] at hrecord

/-- The search returns the candidate that it stops at. -/
theorem searchDates_eq_ok {count : ℕ} {candidate found : Int} : searchDates zone fires count candidate bound = .ok found ↔
    ∃ k < count, Found zone fires candidate bound k ∧ found = candidate + k * microsecondsPerMinute := by
  induction count generalizing candidate bound with
  | zero => simp [searchDates]
  | succ count ih =>
    have hsplit : (∃ k < count + 1, Found zone fires candidate bound k ∧ found = candidate + k * microsecondsPerMinute) ↔
        (Found zone fires candidate bound 0 ∧ found = candidate) ∨
          ∃ k < count, Found zone fires candidate bound (k + 1) ∧
            found = candidate + microsecondsPerMinute + k * microsecondsPerMinute := by
      constructor
      · rintro ⟨k, hk, h, rfl⟩
        cases k with
        | zero => exact .inl ⟨h, by simp⟩
        | succ k =>
          refine .inr ⟨k, Nat.lt_of_succ_lt_succ hk, h, ?_⟩
          push_cast
          ring
      · rintro (⟨h, rfl⟩ | ⟨k, hk, h, rfl⟩)
        · exact ⟨0, Nat.succ_pos count, h, by simp⟩
        · refine ⟨k + 1, Nat.succ_lt_succ hk, h, ?_⟩
          push_cast
          ring
    rw [hsplit, found_zero]
    simp only [found_succ]
    unfold searchDates
    cases hrepresentable : representable zone candidate with
    | false => simp
    | true =>
      rw [Bool.not_true, if_neg Bool.false_ne_true]
      by_cases hle : wallMinute zone candidate ≤ bound
      · rw [if_pos hle, ih, max_eq_left hle]
        have hnot : ¬ bound < wallMinute zone candidate := not_lt.mpr hle
        simp [hnot]
      · rw [if_neg hle]
        have hlater : bound < wallMinute zone candidate := not_le.mp hle
        cases hfires : fires (wallMinute zone candidate) with
        | error error => simp [hlater]
        | ok fired =>
          cases fired with
          | true => simp [hlater, eq_comm]
          | false =>
            dsimp only
            rw [ih, max_eq_right hlater.le]
            simp [hlater]

end Search

/-! ### The next run of a text -/

/-- A zone by its offsets in minutes. -/
structure MinuteZone where
  offset : Int → Int

def MinuteZone.zone (zone : MinuteZone) : Zone := fun instant => zone.offset instant * 60

/-- A whole minute after an instant at which a text matches, and at which the clock shows a later minute than at the instant and
at every whole minute in between. -/
structure Occurs (unicode : Unicode) (zone : Zone) (cron : List Char) (weekdays : List Nat) (after instant : Int) : Prop where
  later : after < instant
  whole : instant % microsecondsPerMinute = 0
  matches' : ∃ minute hour day month weekday, words unicode cron = [minute, hour, day, month, weekday] ∧
    Matches unicode minute hour day month weekday weekdays (wallMinute zone instant)
  ahead : wallMinute zone after < wallMinute zone instant
  between : ∀ other, other % microsecondsPerMinute = 0 → after < other → other < instant →
    wallMinute zone other < wallMinute zone instant

section NextRun

variable {unicode : Unicode} {zone : Zone} {cron : List Char} {weekdays : List Nat} {expression : Expression} {after instant : Int}

lemma minuteAfter_eq (after : Int) (k : ℕ) : minuteAfter after k = minuteAfter after 0 + k * microsecondsPerMinute := by
  unfold minuteAfter
  push_cast
  ring

lemma minuteAfter_whole (after : Int) (k : ℕ) : minuteAfter after k % microsecondsPerMinute = 0 := by
  unfold minuteAfter microsecondsPerMinute
  omega

lemma lt_minuteAfter (after : Int) (k : ℕ) : after < minuteAfter after k := by
  unfold minuteAfter microsecondsPerMinute
  omega

lemma minuteAfter_lt {j k : ℕ} : minuteAfter after j < minuteAfter after k ↔ j < k := by
  unfold minuteAfter microsecondsPerMinute
  omega

/-- The whole minutes after an instant. -/
lemma exists_minuteAfter (hlater : after < instant) (hwhole : instant % microsecondsPerMinute = 0) :
    ∃ k, instant = minuteAfter after k := by
  refine ⟨((instant - minuteAfter after 0) / microsecondsPerMinute).toNat, ?_⟩
  unfold minuteAfter microsecondsPerMinute at *
  omega

lemma walls_eq (zone : Zone) (after : Int) (k : ℕ) : walls zone (minuteAfter after 0) k = wallMinute zone (minuteAfter after k) := by
  rw [walls, ← minuteAfter_eq]

/-- The instants at which a text is due are the records of the clock in which it fires. -/
lemma occurs_iff (h : cronFields unicode cron = some expression) (k : ℕ) :
    Occurs unicode zone cron weekdays after (minuteAfter after k) ↔
      IsRecord (walls zone (minuteAfter after 0)) (wallMinute zone after) k ∧
        expression.fires weekdays (walls zone (minuteAfter after 0) k) = true := by
  obtain ⟨minute, hour, day, month, weekday, hwords, hfires⟩ := cronFields_fires h
  rw [hfires, walls_eq]
  constructor
  · rintro ⟨-, -, ⟨minute', hour', day', month', weekday', hwords', hmatches⟩, hahead, hbetween⟩
    rw [hwords] at hwords'
    injection hwords' with hminute hwords'
    injection hwords' with hhour hwords'
    injection hwords' with hday hwords'
    injection hwords' with hmonth hwords'
    injection hwords' with hweekday
    subst hminute hhour hday hmonth hweekday
    refine ⟨⟨by rwa [walls_eq], ?_⟩, hmatches⟩
    intro j hj
    rw [walls_eq, walls_eq]
    exact hbetween _ (minuteAfter_whole after j) (lt_minuteAfter after j) (minuteAfter_lt.mpr hj)
  · rintro ⟨⟨hahead, hbefore⟩, hmatches⟩
    rw [walls_eq] at hahead hbefore
    refine ⟨lt_minuteAfter after k, minuteAfter_whole after k, ⟨minute, hour, day, month, weekday, hwords, hmatches⟩, hahead, ?_⟩
    intro other hwhole hlater hother
    obtain ⟨j, rfl⟩ := exists_minuteAfter hlater hwhole
    rw [← walls_eq]
    exact hbefore j (minuteAfter_lt.mp hother)

/-- What `_next_run` returns, for either version of the meaning of a text. -/
lemma nextRunAt_eq_ok {semantics : Semantics} {found : Int} :
    nextRunAt unicode zone semantics cron weekdays after = .ok found ↔
      ∃ fires, firesOf unicode semantics cron weekdays = .ok fires ∧ inCalendar after = true ∧
        ∃ k < 527041, Found zone fires (minuteAfter after 0) (wallMinute zone after) k ∧ found = minuteAfter after k := by
  unfold nextRunAt
  rw [bind_eq_ok]
  constructor
  · rintro ⟨fires, hfires, h⟩
    obtain ⟨_, hcalendar, h⟩ := bind_eq_ok.mp h
    obtain ⟨k, hk, hfound, rfl⟩ := searchDates_eq_ok.mp h
    exact ⟨fires, hfires, require_eq_ok.mp hcalendar, k, hk, hfound, (minuteAfter_eq after k).symm⟩
  · rintro ⟨fires, hfires, hcalendar, k, hk, hfound, rfl⟩
    refine ⟨fires, hfires, bind_eq_ok.mpr ⟨(), require_eq_ok.mpr hcalendar, ?_⟩⟩
    exact searchDates_eq_ok.mpr ⟨k, hk, hfound, minuteAfter_eq after k⟩

lemma firesOf_cronie (h : cronFields unicode cron = some expression) (weekdays : List Nat) :
    firesOf unicode .cronieV2 cron weekdays = .ok fun wall => .ok (expression.fires weekdays wall) := by
  unfold firesOf
  simp only [h]
  rfl

/-- With the newer meaning, the search stops at the first instant at which an accepted text is due. -/
lemma found_iff (h : cronFields unicode cron = some expression) {k : ℕ} :
    Found zone (fun wall => .ok (expression.fires weekdays wall)) (minuteAfter after 0) (wallMinute zone after) k ↔
      (∀ j ≤ k, representable zone (minuteAfter after j) = true) ∧ Occurs unicode zone cron weekdays after (minuteAfter after k) ∧
        ∀ j < k, ¬ Occurs unicode zone cron weekdays after (minuteAfter after j) := by
  constructor
  · rintro ⟨hdates, hrecord, hfired, hbefore⟩
    refine ⟨?_, (occurs_iff h k).mpr ⟨hrecord, Except.ok.inj hfired⟩, ?_⟩
    · intro j hj
      rw [minuteAfter_eq]
      exact hdates j hj
    · intro j hj hoccurs
      obtain ⟨hrecord, hfires⟩ := (occurs_iff h j).mp hoccurs
      have hfalse := Except.ok.inj (hbefore j hj hrecord)
      rw [hfires] at hfalse
      cases hfalse
  · rintro ⟨hdates, hoccurs, hbefore⟩
    obtain ⟨hrecord, hfires⟩ := (occurs_iff h k).mp hoccurs
    refine ⟨?_, hrecord, congrArg Except.ok hfires, ?_⟩
    · intro j hj
      rw [← minuteAfter_eq]
      exact hdates j hj
    · intro j hj hrecord
      refine congrArg Except.ok (Bool.eq_false_iff.mpr ?_)
      intro hfires
      exact hbefore j hj ((occurs_iff h j).mpr ⟨hrecord, hfires⟩)

/-- `_next_run` returns the earliest instant at which an accepted text is due. It raises where there is none among 527041 whole
minutes, up to the first of them that has no datetime. -/
theorem nextRunAt_earliest (haccepted : (cronFields unicode cron).isSome = true) (zone : MinuteZone) (weekdays : List Nat)
    (after : Int) :
    (∀ instant, nextRunAt unicode zone.zone .cronieV2 cron weekdays after = .ok instant →
      IsLeast {other | Occurs unicode zone.zone cron weekdays after other} instant ∧
        (instant + zone.zone instant * 1000000) % microsecondsPerMinute = 0) ∧
    ((∃ error, nextRunAt unicode zone.zone .cronieV2 cron weekdays after = .error error) ↔
      ¬ ∃ k < 527041, Occurs unicode zone.zone cron weekdays after (minuteAfter after k) ∧ inCalendar after = true ∧
        ∀ j ≤ k, representable zone.zone (minuteAfter after j) = true) := by
  obtain ⟨expression, hexpression⟩ := Option.isSome_iff_exists.mp haccepted
  have hok : ∀ instant, nextRunAt unicode zone.zone .cronieV2 cron weekdays after = .ok instant ↔ inCalendar after = true ∧
      ∃ k < 527041, (∀ j ≤ k, representable zone.zone (minuteAfter after j) = true) ∧
        Occurs unicode zone.zone cron weekdays after (minuteAfter after k) ∧
        (∀ j < k, ¬ Occurs unicode zone.zone cron weekdays after (minuteAfter after j)) ∧ instant = minuteAfter after k := by
    intro instant
    rw [nextRunAt_eq_ok, firesOf_cronie hexpression]
    simp only [Except.ok.injEq, exists_eq_left', found_iff hexpression, and_assoc]
  constructor
  · intro instant h
    obtain ⟨-, k, -, -, hoccurs, hbefore, rfl⟩ := (hok instant).mp h
    refine ⟨⟨hoccurs, ?_⟩, ?_⟩
    · intro other hother
      obtain ⟨j, rfl⟩ := exists_minuteAfter hother.later hother.whole
      by_contra hlt
      exact hbefore j (minuteAfter_lt.mp (not_le.mp hlt)) hother
    · have hwhole := minuteAfter_whole after k
      unfold MinuteZone.zone microsecondsPerMinute at *
      omega
  · constructor
    · rintro ⟨error, herror⟩ ⟨k, hk, hoccurs, hcalendar, hdates⟩
      classical
      -- the first of the instants is found
      have hsome : ∃ k, Occurs unicode zone.zone cron weekdays after (minuteAfter after k) := ⟨k, hoccurs⟩
      have hle := Nat.find_min' hsome hoccurs
      have hfound := (hok (minuteAfter after (Nat.find hsome))).mpr ⟨hcalendar, Nat.find hsome, lt_of_le_of_lt hle hk,
        fun j hj => hdates j (hj.trans hle), Nat.find_spec hsome, fun j hj => Nat.find_min hsome hj, rfl⟩
      rw [herror] at hfound
      cases hfound
    · intro hnone
      cases hresult : nextRunAt unicode zone.zone .cronieV2 cron weekdays after with
      | error error => exact ⟨error, rfl⟩
      | ok instant =>
        obtain ⟨hcalendar, k, hk, hdates, hoccurs, -⟩ := (hok instant).mp hresult
        exact absurd ⟨k, hk, hoccurs, hcalendar, hdates⟩ hnone

/-- The next run of the parsed expression is the one of its text. -/
theorem nextRun_of_nextRunAt (hexpression : cronFields unicode cron = some expression)
    (h : nextRunAt unicode zone .cronieV2 cron weekdays after = .ok instant) :
    nextRun zone ⟨expression, weekdays⟩ after = some instant := by
  have hsearch : ∀ {count : ℕ} {candidate bound : Int},
      searchDates zone (fun wall => .ok (expression.fires weekdays wall)) count candidate bound = .ok instant →
        search zone (expression.fires weekdays) count candidate bound = some instant := by
    intro count
    induction count with
    | zero =>
      intro candidate bound h
      cases h
    | succ count ih =>
      intro candidate bound h
      unfold searchDates at h
      unfold search
      split at h
      · cases h
      · split at h
        · rename_i hle
          rw [if_pos hle]
          exact ih h
        · rename_i hle
          rw [if_neg hle]
          cases hfires : expression.fires weekdays (wallMinute zone candidate) with
          | true =>
            rw [hfires] at h
            exact congrArg some (Except.ok.inj h)
          | false =>
            rw [hfires] at h
            rw [if_neg Bool.false_ne_true]
            exact ih h
  unfold nextRunAt at h
  rw [firesOf_cronie hexpression] at h
  obtain ⟨fires, hfires, h⟩ := bind_eq_ok.mp h
  obtain rfl := Except.ok.inj hfires
  obtain ⟨_, -, h⟩ := bind_eq_ok.mp h
  unfold nextRun
  rw [if_pos (cronFields_valid hexpression)]
  have hfound := hsearch h
  unfold minuteAfter at hfound
  simpa using hfound

end NextRun

/-! ### Texts in ASCII -/

def asciiInt (text : List Char) : Option Int :=
  if !text.isEmpty && text.all Char.isDigit then some (text.foldl (fun number digit => 10 * number + (digit.toNat - 48)) 0) else none

def ascii : Unicode := ⟨(· == ' '), Char.isDigit, asciiInt, by decide⟩

def utcZone : MinuteZone := ⟨fun _ => 0⟩

theorem nextRunAt_earliest_halfPast :
    nextRunAt ascii utcZone.zone .cronieV2 "30 * * * *".toList [] 0 = .ok 1800000000 ∧
      IsLeast {other | Occurs ascii utcZone.zone "30 * * * *".toList [] 0 other} 1800000000 :=
  ⟨by decide +kernel, ((nextRunAt_earliest (by decide +kernel) utcZone [] 0).1 _ (by decide +kernel)).1⟩

/-- One hour ahead of UTC. -/
def hourAhead : MinuteZone := ⟨fun _ => 60⟩

/-- Half past midnight of the first day of the year 1 in that zone: in UTC this is no datetime. -/
def firstNight : Int := -62135598600000000

/-- The next minute is due, and a datetime of the zone; the search raises as it turns to UTC. -/
theorem first_night_overflows : (cronFields ascii "* * * * *".toList).isSome = true ∧
    inCalendar (firstNight + hourAhead.zone firstNight * 1000000) = true ∧
    ¬ ((∃ error, nextRunAt ascii hourAhead.zone .cronieV2 "* * * * *".toList [] firstNight = .error error) ↔
      ¬ ∃ k < 527041, Occurs ascii hourAhead.zone "* * * * *".toList [] firstNight (minuteAfter firstNight k) ∧
        inCalendar (minuteAfter firstNight k + hourAhead.zone (minuteAfter firstNight k) * 1000000) = true) := by
  refine ⟨by decide +kernel, by decide +kernel, ?_⟩
  intro h
  have hraises : ∃ error, nextRunAt ascii hourAhead.zone .cronieV2 "* * * * *".toList [] firstNight = .error error :=
    ⟨.overflow, by decide +kernel⟩
  obtain ⟨expression, hexpression⟩ := Option.isSome_iff_exists.mp
    (show (cronFields ascii "* * * * *".toList).isSome = true by decide +kernel)
  refine h.mp hraises ⟨0, by omega, (occurs_iff hexpression 0).mpr ⟨isRecord_zero.mpr (by decide +kernel), ?_⟩, by decide +kernel⟩
  have hfires : (cronFields ascii "* * * * *".toList).any
      (·.fires [] (walls hourAhead.zone (minuteAfter firstNight 0) 0)) = true := by decide +kernel
  rw [hexpression] at hfires
  exact hfires

end InkTime.Cron
