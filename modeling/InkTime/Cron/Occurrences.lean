import InkTime.Cron.Model

/-!
# One run for one wall-clock minute

As long as no tick comes before the occurrence that it finds due, or finds the clock set back behind it, the stored
`next_run` only moves forward, and the wall-clock minutes of the occurrences a task is enqueued for are distinct.
-/

namespace InkTime.Cron

variable {julianday : Int → Int} {zone : Zone} {task : Task} {cursor : Cursor} {t : Tick}

/-! ### The next run -/

lemma search_spec {fires : Int → Bool} {count : Nat} {candidate maxWallMinute next : Int}
    (h : search zone fires count candidate maxWallMinute = some next) :
    candidate ≤ next ∧ maxWallMinute < wallMinute zone next ∧ fires (wallMinute zone next) = true := by
  induction count generalizing candidate maxWallMinute with
  | zero => cases h
  | succ count ih =>
    rw [search] at h
    split at h
    · have hnext := ih h
      rw [microsecondsPerMinute] at hnext
      exact ⟨by omega, hnext.2⟩
    · rename_i hlater
      split at h
      · rename_i hfires
        obtain rfl := Option.some.inj h
        exact ⟨le_rfl, by omega, hfires⟩
      · have hnext := ih h
        rw [microsecondsPerMinute] at hnext
        exact ⟨by omega, by omega, hnext.2.2⟩

/-- The next run is a later instant, shows a later minute on the wall, and is one at which the expression fires. -/
theorem nextRun_spec {after next : Int} (h : nextRun zone task after = some next) :
    after < next ∧ wallMinute zone after < wallMinute zone next
      ∧ task.cron.fires task.weekdays (wallMinute zone next) = true := by
  rw [nextRun] at h
  split at h
  · have hnext := search_spec h
    rw [microsecondsPerMinute] at hnext
    exact ⟨by omega, hnext.2⟩
  · cases h

/-! ### A tick -/

/-- A task found due is marked without an exception. -/
def Marks (julianday : Int → Int) (zone : Zone) (task : Task) (cursor : Cursor) (t : Tick) : Prop :=
  cursor.due julianday t.now = true → (nextRun zone task t.now).isSome = true

/-- A task is found due when its occurrence has come, by a clock that does not show an earlier minute than its occurrence. -/
def NotSetBack (julianday : Int → Int) (zone : Zone) (cursor : Cursor) (t : Tick) : Prop :=
  cursor.due julianday t.now = true → cursor.nextRun ≤ t.now ∧ wallMinute zone cursor.nextRun ≤ wallMinute zone t.now

instance : Decidable (Marks julianday zone task cursor t) := inferInstanceAs (Decidable (_ → _))

instance : Decidable (NotSetBack julianday zone cursor t) := inferInstanceAs (Decidable (_ → _))

/-- All that a tick can do. -/
lemma tick_cases (julianday : Int → Int) (zone : Zone) (task : Task) (cursor : Cursor) (t : Tick) :
    tick julianday zone task cursor t = cursor
      ∨ (cursor.due julianday t.now = true ∧ nextRun zone task t.now = none ∧ (tick julianday zone task cursor t).stored = cursor.stored
        ∧ (tick julianday zone task cursor t).nextRun = cursor.nextRun)
      ∨ ∃ next, cursor.due julianday t.now = true ∧ nextRun zone task t.now = some next ∧ tick julianday zone task cursor t =
        ⟨next, cursor.stored ++ [next], if t.creates then cursor.enqueued ++ [cursor.nextRun] else cursor.enqueued⟩ := by
  unfold tick
  cases hdue : cursor.due julianday t.now with
  | false => exact .inl rfl
  | true =>
    right
    cases hnext : nextRun zone task t.now with
    | none =>
      refine .inl ⟨rfl, rfl, ?_⟩
      cases t.creates <;> simp [Cursor.mark, Cursor.enqueue, hnext]
    | some next =>
      refine .inr ⟨next, rfl, rfl, ?_⟩
      cases t.creates <;> simp [Cursor.mark, Cursor.enqueue, hnext]

/-! ### Runs -/

/-- The stored values so far, in order, with the current one last. -/
structure Forward (cursor : Cursor) : Prop where
  increasing : cursor.stored.Pairwise (· < ·)
  last : ∀ instant ∈ cursor.stored, instant ≤ cursor.nextRun

lemma Forward.tick (h : Forward cursor) (hclock : NotSetBack julianday zone cursor t) : Forward (tick julianday zone task cursor t) := by
  rcases tick_cases julianday zone task cursor t with heq | ⟨-, -, hstored, hnextRun⟩ | ⟨next, hdue, hnext, heq⟩
  · rw [heq]
    exact h
  · exact ⟨hstored ▸ h.increasing, by rw [hstored, hnextRun]; exact h.last⟩
  · have hlater : cursor.nextRun < next := lt_of_le_of_lt (hclock hdue).1 (nextRun_spec hnext).1
    rw [heq]
    refine ⟨List.pairwise_append.mpr ⟨h.increasing, List.pairwise_singleton _ _, ?_⟩, ?_⟩
    · intro instant hinstant other hother
      rw [List.mem_singleton.mp hother]
      exact lt_of_le_of_lt (h.last instant hinstant) hlater
    · intro instant hinstant
      rcases List.mem_append.mp hinstant with hinstant | hinstant
      · exact (lt_of_le_of_lt (h.last instant hinstant) hlater).le
      · exact (List.mem_singleton.mp hinstant).le

/-- The minutes enqueued so far, in order and all earlier than that of the current occurrence. -/
structure Separate (zone : Zone) (cursor : Cursor) : Prop where
  increasing : (cursor.enqueued.map (wallMinute zone)).Pairwise (· < ·)
  earlier : ∀ instant ∈ cursor.enqueued, wallMinute zone instant < wallMinute zone cursor.nextRun

lemma Separate.tick (h : Separate zone cursor) (hmarks : Marks julianday zone task cursor t)
    (hclock : NotSetBack julianday zone cursor t) : Separate zone (tick julianday zone task cursor t) := by
  rcases tick_cases julianday zone task cursor t with heq | ⟨hdue, hnone, -⟩ | ⟨next, hdue, hnext, heq⟩
  · rw [heq]
    exact h
  · have hsome := hmarks hdue
    rw [hnone] at hsome
    cases hsome
  · have hlater : wallMinute zone cursor.nextRun < wallMinute zone next :=
      lt_of_le_of_lt (hclock hdue).2 (nextRun_spec hnext).2.1
    have hearlier : ∀ instant ∈ cursor.enqueued, wallMinute zone instant < wallMinute zone next :=
      fun instant hinstant => (h.earlier instant hinstant).trans hlater
    rw [heq]
    cases t.creates with
    | false => exact ⟨h.increasing, hearlier⟩
    | true =>
      refine ⟨?_, ?_⟩
      · rw [if_pos rfl, List.map_append]
        refine List.pairwise_append.mpr ⟨h.increasing, List.pairwise_singleton _ _, ?_⟩
        intro minute hminute other hother
        obtain ⟨instant, hinstant, rfl⟩ := List.mem_map.mp hminute
        rw [List.mem_singleton.mp hother]
        exact h.earlier instant hinstant
      · intro instant hinstant
        rcases List.mem_append.mp hinstant with hinstant | hinstant
        · exact hearlier instant hinstant
        · rw [List.mem_singleton.mp hinstant]
          exact hlater

/-- The stored values of `next_run` are strictly increasing. -/
theorem stored_increasing {first : Int} {ticks : List Tick}
    (hclock : Runs.Along (tick julianday zone task) (NotSetBack julianday zone) (Cursor.start first) ticks) :
    (Runs.run (tick julianday zone task) (Cursor.start first) ticks).stored.Pairwise (· < ·) := by
  have hstart : Forward (Cursor.start first) := ⟨List.pairwise_singleton _ _, by simp [Cursor.start]⟩
  exact (Runs.invariant_of_along (fun _ _ h hop => h.tick hop) hstart hclock).increasing

/-- However `julianday` rounds, and whatever offsets the zone has had. -/
theorem one_wall_minute_one_run {first : Int} {ticks : List Tick}
    (hmarks : Runs.Along (tick julianday zone task) (Marks julianday zone task) (Cursor.start first) ticks)
    (hclock : Runs.Along (tick julianday zone task) (NotSetBack julianday zone) (Cursor.start first) ticks) :
    (Runs.run (tick julianday zone task) (Cursor.start first) ticks).stored.Pairwise (· < ·)
      ∧ ((Runs.run (tick julianday zone task) (Cursor.start first) ticks).enqueued.map (wallMinute zone)).Nodup := by
  have hstart : Separate zone (Cursor.start first) := ⟨List.Pairwise.nil, by simp [Cursor.start]⟩
  have hseparate := Runs.invariant_of_along (fun _ _ h hop => h.tick hop.1 hop.2) hstart (hmarks.and hclock)
  exact ⟨stored_increasing hclock, hseparate.increasing.imp fun hlt => ne_of_lt hlt⟩

/-! ### A night in autumn -/

/-- Two hours ahead of UTC, and one from 2026-10-25 01:00 UTC on. -/
def setBackInOctober : Zone := fun instant => if instant < 1792890000000000 then 7200 else 3600

/-- `30 * * * *` -/
def halfPast : Task := ⟨⟨[.number 30], [.star], [.star], [.star], [.star]⟩, []⟩

/-- The first 02:30 of the night. -/
def firstHalfPastTwo : Int := 1792888200000000

/-- 02:31 before the clock is set back, then 03:31 after it. -/
theorem one_wall_minute_one_run_punctual :
    (Runs.run (tick roundedJulianday setBackInOctober halfPast) (Cursor.start firstHalfPastTwo)
        [⟨1792888260000000, true⟩, ⟨1792895460000000, true⟩]).stored.Pairwise (· < ·)
      ∧ ((Runs.run (tick roundedJulianday setBackInOctober halfPast) (Cursor.start firstHalfPastTwo)
        [⟨1792888260000000, true⟩, ⟨1792895460000000, true⟩]).enqueued.map (wallMinute setBackInOctober)).Nodup :=
  one_wall_minute_one_run (by decide +kernel) (by decide +kernel)

/-- A tick at the second 02:10 runs the first 02:30, and a tick at the second 02:31 runs 02:30 again. -/
theorem repeated_hour_runs_twice :
    Runs.Along (tick roundedJulianday setBackInOctober halfPast) (Marks roundedJulianday setBackInOctober halfPast)
      (Cursor.start firstHalfPastTwo)
        [⟨1792890600000000, true⟩, ⟨1792891860000000, true⟩]
      ∧ ¬((Runs.run (tick roundedJulianday setBackInOctober halfPast) (Cursor.start firstHalfPastTwo)
        [⟨1792890600000000, true⟩, ⟨1792891860000000, true⟩]).enqueued.map (wallMinute setBackInOctober)).Nodup := by
  decide +kernel

def greenwich : Zone := fun _ => 0

/-- `0 9 * * *` -/
def atNine : Task := ⟨⟨[.number 0], [.number 9], [.star], [.star], [.star]⟩, []⟩

/-- 2024-01-01 09:00 UTC. -/
def nineOClock : Int := 1704099600000000

/-- A tick 300 microseconds before 09:00 finds 09:00 due and stores it again, and a tick after it runs it again. -/
theorem early_tick_runs_twice :
    Runs.Along (tick roundedJulianday greenwich atNine) (Marks roundedJulianday greenwich atNine) (Cursor.start nineOClock)
        [⟨nineOClock - 300, true⟩, ⟨nineOClock + 20000000, true⟩]
      ∧ (Runs.run (tick roundedJulianday greenwich atNine) (Cursor.start nineOClock)
        [⟨nineOClock - 300, true⟩, ⟨nineOClock + 20000000, true⟩]).stored.take 2 = [nineOClock, nineOClock]
      ∧ (Runs.run (tick roundedJulianday greenwich atNine) (Cursor.start nineOClock)
        [⟨nineOClock - 300, true⟩, ⟨nineOClock + 20000000, true⟩]).enqueued = [nineOClock, nineOClock] := by
  decide +kernel

end InkTime.Cron
