import InkTime.Cron.Occurrences
import InkTime.Library.Checked

/-!
# Cron texts

`ScheduledTaskRepository._cron`, `_field_values`, `_matches` and `_next_run` as they read a cron text, with both versions of
its meaning and the limits of the calendar.
-/

namespace InkTime.Cron

open Checked

/-- What the language knows about characters and numbers. -/
structure Unicode where
  isSpace : Char → Bool
  isDigit : Char → Bool
  /-- `int(text)`, without an answer where it raises `ValueError`. -/
  int : List Char → Option Int
  star : isDigit '*' = false

inductive Semantics where
  | legacyV1 | cronieV2
  deriving DecidableEq

/-- Exceptions of `_next_run`: `ValueError`, and `OverflowError` for a time outside of the calendar. -/
inductive CronError where
  | value | overflow
  deriving DecidableEq

section Texts

variable (unicode : Unicode)

/-- `text.isdigit()` -/
def isDigits (text : List Char) : Bool := !text.isEmpty && text.all unicode.isDigit

/-- `text.split()` -/
def words (text : List Char) : List (List Char) := (text.splitOnP unicode.isSpace).filter (· ≠ [])

def startsStride (part : List Char) : Bool := part.take 2 == ['*', '/']

/-- One turn of the loop of `_field_values`. -/
def parsePart (bounds : Bounds) (part : List Char) : Option Part :=
  if part = ['*'] then some .star
  else if startsStride part then
    if isDigits unicode (part.drop 2) then do
      let interval ← unicode.int (part.drop 2)
      if 0 < interval then some (.stride interval.toNat) else none
    else none
  else if isDigits unicode part then do
    let value ← unicode.int part
    if bounds.lower ≤ value && value ≤ bounds.upper then some (.number value.toNat) else none
  else none

/-- `_field_values`: the parts that make up the set of values. -/
def fieldValues (bounds : Bounds) (field : List Char) : Option Field := (field.splitOn ',').mapM (parsePart unicode bounds)

/-- `_cron`: the five fields, without an answer where it raises. -/
def cronFields (value : List Char) : Option Expression :=
  match words unicode value with
  | [minute, hour, day, month, weekday] =>
    if value.length ≤ 256 then do
      return {
        minute := ← fieldValues unicode minuteBounds minute
        hour := ← fieldValues unicode hourBounds hour
        day := ← fieldValues unicode dayBounds day
        month := ← fieldValues unicode monthBounds month
        weekday := ← fieldValues unicode weekdayBounds weekday }
    else none
  | _ => none

/-- What `_cron` returns: the fields joined by blanks. -/
def normalCron (value : List Char) : List Char := [' '].intercalate (words unicode value)

/-- `_matches` -/
def legacyMatches (value : Nat) : List (List Char) → Except CronError Bool
  | [] => .ok false
  | part :: rest =>
    if part = ['*'] || part = (toString value).toList then .ok true
    else if startsStride part then
      match unicode.int (part.drop 2) with
      | none => .error .value
      | some interval => if 0 < interval && (value : Int) % interval == 0 then .ok true else legacyMatches value rest
    else legacyMatches value rest

/-- The conditions of the `if` for `legacy_v1`, one after another. -/
def legacyFires (fields : List (List Char)) (weekdays : List Nat) (wall : Int) : Except CronError Bool :=
  let date := dateOfDay (wall / 1440)
  let minuteOfDay := (wall % 1440).toNat
  let values := [minuteOfDay % 60, minuteOfDay / 60, date.day, date.month, (date.weekday + 1) % 7]
  (fields.zip values).foldr (fun (field, value) rest => do
    if ← legacyMatches unicode value (field.splitOn ',') then rest else return false)
    (.ok (weekdays.isEmpty || weekdays.contains date.weekday))

/-- Whether a cron text fires in a wall-clock minute; an error where `_next_run` raises before it looks at any. -/
def firesOf (semantics : Semantics) (cron : List Char) (weekdays : List Nat) :
    Except CronError (Int → Except CronError Bool) :=
  match semantics with
  | .legacyV1 =>
    if (words unicode cron).length = 5 then .ok (legacyFires unicode (words unicode cron) weekdays) else .error .value
  | .cronieV2 => do
    let expression ← orError (cronFields unicode cron) .value
    return fun wall => .ok (expression.fires weekdays wall)

end Texts

/-! ### The calendar -/

/-- From the first microsecond of the year 1 to the last of the year 9999. -/
def inCalendar (microseconds : Int) : Bool := -62135596800000000 ≤ microseconds && microseconds < 253402300800000000

/-- An instant has a datetime in UTC and one in a zone. -/
def representable (zone : Zone) (instant : Int) : Bool := inCalendar instant && inCalendar (instant + zone instant * 1000000)

/-- The loop of `_next_run` over `count` candidates. -/
def searchDates (zone : Zone) (fires : Int → Except CronError Bool) : Nat → Int → Int → Except CronError Int
  | 0, _, _ => .error .value
  | count + 1, candidate, maxWallMinute =>
    if !representable zone candidate then .error .overflow
    else if wallMinute zone candidate ≤ maxWallMinute then
      searchDates zone fires count (candidate + microsecondsPerMinute) maxWallMinute
    else
      match fires (wallMinute zone candidate) with
      | .error error => .error error
      | .ok true => .ok candidate
      | .ok false => searchDates zone fires count (candidate + microsecondsPerMinute) (wallMinute zone candidate)

/-- The `k`th whole minute after an instant, counted from 0. -/
def minuteAfter (after : Int) (k : Nat) : Int :=
  after / microsecondsPerMinute * microsecondsPerMinute + microsecondsPerMinute + k * microsecondsPerMinute

/-- `_next_run` after an aware datetime. -/
def nextRunAt (unicode : Unicode) (zone : Zone) (semantics : Semantics) (cron : List Char) (weekdays : List Nat) (after : Int) :
    Except CronError Int := do
  let fires ← firesOf unicode semantics cron weekdays
  require (inCalendar after) .overflow
  searchDates zone fires 527041 (minuteAfter after 0) (wallMinute zone after)

end InkTime.Cron
