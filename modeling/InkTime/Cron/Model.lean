import InkTime.Library.Runs

/-!
# Scheduled tasks and their cursor

`ScheduledTaskRepository._next_run` with `cronie_v2` semantics, and what a scheduler tick does to the `next_run` of a task.
An instant is a number of microseconds since the epoch, and what `julianday` makes of its text is a parameter: SQLite
compares by the millisecond, so that a tick may come a little before the `next_run` that it finds due. A wall-clock
minute is its number, counted in local time since the epoch: the tuples (year, month, day, hour, minute) that the source
compares are in the same order.
-/

namespace InkTime.Cron

/-! ### Cron expressions -/

/-- A part of a comma-separated field. -/
inductive Part where
  | star
  | stride (interval : Nat)
  | number (value : Nat)
  deriving DecidableEq, Repr

structure Bounds where
  lower : Nat
  upper : Nat

def Part.valid (bounds : Bounds) : Part → Bool
  | .star => true
  | .stride interval => 0 < interval
  | .number value => bounds.lower ≤ value && value ≤ bounds.upper

def Part.contains (bounds : Bounds) (value : Nat) : Part → Bool
  | .star => bounds.lower ≤ value && value ≤ bounds.upper
  | .stride interval => bounds.lower ≤ value && value ≤ bounds.upper && (value - bounds.lower) % interval == 0
  | .number expected => value == expected

abbrev Field := List Part

/-- `value in _field_values(field, *bounds)` -/
def Field.contains (bounds : Bounds) (field : Field) (value : Nat) : Bool := field.any (·.contains bounds value)

/-- `"*" in field` -/
def Field.hasStar (field : Field) : Bool :=
  field.any fun part => match part with
    | .number _ => false
    | _ => true

structure Expression where
  minute : Field
  hour : Field
  day : Field
  month : Field
  weekday : Field
  deriving DecidableEq, Repr

def minuteBounds : Bounds := ⟨0, 59⟩
def hourBounds : Bounds := ⟨0, 23⟩
def dayBounds : Bounds := ⟨1, 31⟩
def monthBounds : Bounds := ⟨1, 12⟩
def weekdayBounds : Bounds := ⟨0, 7⟩

def Expression.valid (cron : Expression) : Bool :=
  cron.minute.all (·.valid minuteBounds) && cron.hour.all (·.valid hourBounds) && cron.day.all (·.valid dayBounds)
    && cron.month.all (·.valid monthBounds) && cron.weekday.all (·.valid weekdayBounds)

/-- Sunday is 0, and 7 as well. -/
def Expression.hasWeekday (cron : Expression) (weekday : Nat) : Bool :=
  cron.weekday.contains weekdayBounds weekday || (weekday == 0 && cron.weekday.contains weekdayBounds 7)

/-! ### Local time -/

/-- The UTC offset in seconds that is in force at an instant. -/
def Zone := Int → Int

def microsecondsPerMinute : Int := 60000000

def wallMinute (zone : Zone) (instant : Int) : Int := (instant + zone instant * 1000000) / microsecondsPerMinute

structure Date where
  month : Nat
  day : Nat
  /-- Monday is 0. -/
  weekday : Nat
  deriving DecidableEq, Repr

/-- The Gregorian date of a day counted from the epoch; `shifted` counts from a 1st of March in eras of 400 years. -/
def dateOfDay (dayNumber : Int) : Date :=
  let shifted := dayNumber + 719468
  let dayOfEra := (shifted % 146097).toNat
  let yearOfEra := (dayOfEra - dayOfEra / 1460 + dayOfEra / 36524 - dayOfEra / 146096) / 365
  let dayOfYear := dayOfEra - (365 * yearOfEra + yearOfEra / 4 - yearOfEra / 100)
  let monthFromMarch := (5 * dayOfYear + 2) / 153
  { month := if monthFromMarch < 10 then monthFromMarch + 3 else monthFromMarch - 9
    day := dayOfYear - (153 * monthFromMarch + 2) / 5 + 1
    weekday := ((dayNumber + 3) % 7).toNat }

example : dateOfDay 20751 = ⟨10, 25, 6⟩ := by decide

/-! ### The next run -/

/-- Whether a cron expression and a filter of weekdays fire in a wall-clock minute. -/
def Expression.fires (cron : Expression) (weekdays : List Nat) (wall : Int) : Bool :=
  let date := dateOfDay (wall / 1440)
  let minuteOfDay := (wall % 1440).toNat
  let dayMatch := cron.day.contains dayBounds date.day
  let weekdayMatch := cron.hasWeekday ((date.weekday + 1) % 7)
  let dateMatch := if cron.day.hasStar || cron.weekday.hasStar then dayMatch && weekdayMatch else dayMatch || weekdayMatch
  cron.minute.contains minuteBounds (minuteOfDay % 60) && cron.hour.contains hourBounds (minuteOfDay / 60)
    && cron.month.contains monthBounds date.month && dateMatch && (weekdays.isEmpty || weekdays.contains date.weekday)

/-- The first of `count` candidates, minute by minute, that fires and whose wall-clock minute is later than `maxWallMinute` and
than those of the candidates before it. -/
def search (zone : Zone) (fires : Int → Bool) : Nat → Int → Int → Option Int
  | 0, _, _ => none
  | count + 1, candidate, maxWallMinute =>
    if wallMinute zone candidate ≤ maxWallMinute then
      search zone fires count (candidate + microsecondsPerMinute) maxWallMinute
    else if fires (wallMinute zone candidate) then some candidate
    else search zone fires count (candidate + microsecondsPerMinute) (wallMinute zone candidate)

structure Task where
  cron : Expression
  weekdays : List Nat
  deriving DecidableEq, Repr

/-- `_next_run`; `none` where it raises. -/
def nextRun (zone : Zone) (task : Task) (after : Int) : Option Int :=
  if task.cron.valid then
    search zone (task.cron.fires task.weekdays) 527041 (after / microsecondsPerMinute * microsecondsPerMinute + microsecondsPerMinute)
      (wallMinute zone after)
  else none

/-! ### Ticks -/

structure Cursor where
  nextRun : Int
  /-- Every `next_run` stored so far, this one included. -/
  stored : List Int
  /-- The occurrences for which a job was created. -/
  enqueued : List Int
  deriving DecidableEq, Repr

def Cursor.start (nextRun : Int) : Cursor := ⟨nextRun, [nextRun], []⟩

structure Tick where
  now : Int
  /-- `false` where a job of the task is still active, or a missed occurrence is not caught up. -/
  creates : Bool
  deriving DecidableEq, Repr

/-- SQLite counts in milliseconds. -/
def roundedJulianday (instant : Int) : Int := (instant + 500) / 1000

section

variable (julianday : Int → Int)

/-- `julianday(next_run)<=julianday(?)` -/
def Cursor.due (cursor : Cursor) (now : Int) : Bool := julianday cursor.nextRun ≤ julianday now

/-- `mark_enqueued` -/
def Cursor.mark (zone : Zone) (task : Task) (now : Int) (cursor : Cursor) : Cursor :=
  match Cron.nextRun zone task now with
  | none => cursor
  | some next => { cursor with nextRun := next, stored := cursor.stored ++ [next] }

def Cursor.enqueue (cursor : Cursor) : Cursor := { cursor with enqueued := cursor.enqueued ++ [cursor.nextRun] }

/-- What the due loop of a tick does with the task. -/
def tick (zone : Zone) (task : Task) (cursor : Cursor) (t : Tick) : Cursor :=
  if cursor.due julianday t.now then (if t.creates then cursor.enqueue else cursor).mark zone task t.now else cursor

end

end InkTime.Cron
