import InkTime.Quota.Model
import InkTime.Library.Windows

/-!
# The quota holds for all workers together

A reservation that was not cancelled keeps its row for a minute after it was acquired, and as long as its lease runs: a
release moves `started_at` forward, unless its clock shows less than that of the `acquire`, and rows are collected only
when both are over. So the admission test sees every other reservation of the last minute, and every lease.
-/

namespace InkTime.Quota

variable {channel : String → Channel}

/-- Neither released, cancelled nor, at an instant, past its lease. -/
def World.live (w : World) (scope : String) (instant : ℚ) (grant : Grant) : Bool :=
  grant.scope == scope && !w.released.contains grant.id && !w.cancelled.contains grant.id && decide (instant < grant.leaseUntil)

/-- Acquired for the scope after some time, and not cancelled or released early. -/
def World.recent (w : World) (scope : String) (since : ℚ) (grant : Grant) : Bool :=
  grant.scope == scope && !w.cancelled.contains grant.id && !w.early.contains grant.id && decide (since < grant.at_)

/-- The row of a reservation, or why it has none. -/
def Tracked (w : World) (grant : Grant) : Prop :=
  (∃ event ∈ w.db.events, event.id = grant.id ∧ event.scope = grant.scope ∧ grant.at_ ≤ event.startedAt ∧
      (grant.id ∈ w.released ∨ event.leaseUntil = grant.leaseUntil)) ∨
    ∃ last, w.last = some last ∧ grant.at_ ≤ last - 60 ∧ (grant.id ∈ w.released ∨ grant.leaseUntil ≤ last)

/-- A worker that releases has acquired before. -/
def Waits (w : World) : Pending → Prop
  | .acquire _ _ => True
  | .release scope id _ => ∃ grant ∈ w.grants, grant.id = id ∧ grant.scope = scope

structure Shared (channel : String → Channel) (w : World) : Prop where
  numbered : w.grants.map Grant.id = List.range w.grants.length
  old : ∀ event ∈ w.db.events, event.id < w.grants.length
  waits : ∀ worker ∈ w.workers, Waits w worker.pending
  early : ∀ id ∈ w.early, id ∈ w.released
  tracked : ∀ grant ∈ w.grants, grant.id ∉ w.cancelled → grant.id ∉ w.early → Tracked w grant
  /-- An admitted reservation found fewer than the limit in the minute before it. -/
  spaced : ∀ earlier grant later, w.grants = earlier ++ grant :: later → ∀ limit, limit ≠ 0 →
    (channel grant.scope).requestsPerMinute = some limit →
      earlier.countP (w.recent grant.scope (grant.at_ - 60)) < limit
  bounded : ∀ scope instant, (∀ last, w.last = some last → last ≤ instant) →
    w.grants.countP (w.live scope instant) ≤ (channel scope).maxConcurrency

/-! ### The admission test -/

lemma allowed_bounds {db : Db} {scope : String} {channel : Channel} {now : ℚ} (h : allowed db scope channel now = true) :
    (∀ circuit, db.circuits.find scope = some circuit → circuit.circuitUntil ≤ now) ∧
      (∀ limit, limit ≠ 0 → channel.requestsPerMinute = some limit → requests db scope now < limit) ∧
      leases db scope now < channel.maxConcurrency := by
  simp only [allowed, Bool.and_eq_true, Bool.not_eq_true', decide_eq_true_eq] at h
  obtain ⟨⟨⟨hcircuit, hrequests⟩, -⟩, hleases⟩ := h
  refine ⟨?_, ?_, hleases⟩
  · intro circuit hfound
    rwa [hfound, Option.any_some, decide_eq_false_iff_not, not_lt] at hcircuit
  · intro limit hlimit hset
    rw [hset] at hrequests
    cases limit with
    | zero => exact absurd rfl hlimit
    | succ limit => simpa [within] using hrequests

lemma mem_collect {db : Db} {now : ℚ} {event : Event} :
    event ∈ (collect db now).events ↔ event ∈ db.events ∧ (now < event.leaseUntil ∨ now - 60 < event.startedAt) := by
  simp only [collect, Table.mem_delete, Bool.and_eq_false_iff, decide_eq_false_iff_not, not_le]

section Admission

variable {w : World} {scope : String} {now : ℚ}

lemma numbered_nodup (h : Shared channel w) : (w.grants.map Grant.id).Nodup := by
  rw [h.numbered]
  exact List.nodup_range

/-- Every reservation of the last minute is counted. -/
lemma recent_le_requests (h : Shared channel w) (hlast : ∀ last, w.last = some last → last ≤ now) :
    w.grants.countP (w.recent scope (now - 60)) ≤ requests (collect w.db now) scope now := by
  apply Table.countP_le_count (numbered_nodup h)
  intro grant hgrant hrecent
  simp only [World.recent, Bool.and_eq_true, Bool.not_eq_true', beq_iff_eq, List.contains_eq_mem, decide_eq_false_iff_not,
    decide_eq_true_eq] at hrecent
  obtain ⟨⟨⟨hscope, hcancelled⟩, hearly⟩, hsince⟩ := hrecent
  obtain ⟨event, hevent, hid, hevent_scope, hstarted, -⟩ | ⟨last, hlast_eq, hold, -⟩ := h.tracked grant hgrant hcancelled hearly
  · have hnew : now - 60 < event.startedAt := lt_of_lt_of_le hsince hstarted
    refine ⟨event, mem_collect.mpr ⟨hevent, .inr hnew⟩, hid, ?_⟩
    simp [Event.counts, hevent_scope, hscope, hnew]
  · have hle := hlast last hlast_eq
    linarith

/-- Every lease is counted. -/
lemma live_le_leases (h : Shared channel w) (hlast : ∀ last, w.last = some last → last ≤ now) {instant : ℚ} (hnow : now ≤ instant) :
    w.grants.countP (w.live scope instant) ≤ leases (collect w.db now) scope now := by
  apply Table.countP_le_count (numbered_nodup h)
  intro grant hgrant hlive
  simp only [World.live, Bool.and_eq_true, Bool.not_eq_true', beq_iff_eq, List.contains_eq_mem, decide_eq_false_iff_not,
    decide_eq_true_eq] at hlive
  obtain ⟨⟨⟨hscope, hreleased⟩, hcancelled⟩, hlease⟩ := hlive
  have hahead : now < grant.leaseUntil := lt_of_le_of_lt hnow hlease
  have hearly : grant.id ∉ w.early := fun hmem => hreleased (h.early _ hmem)
  obtain ⟨event, hevent, hid, hevent_scope, -, hends⟩ | ⟨last, hlast_eq, -, hends⟩ := h.tracked grant hgrant hcancelled hearly
  · have hsame : event.leaseUntil = grant.leaseUntil := hends.resolve_left hreleased
    rw [← hsame] at hahead
    refine ⟨event, mem_collect.mpr ⟨hevent, .inl hahead⟩, hid, ?_⟩
    have hcounts : event.counts scope now = true := by
      simp only [Event.counts, hevent_scope, hscope, beq_self_eq_true, Bool.true_and, hahead, decide_true, Bool.or_eq_true,
        decide_eq_true_eq]
      exact lt_or_ge _ _
    simp [hcounts, hahead]
  · have hle := hlast last hlast_eq
    have hover := hends.resolve_left hreleased
    linarith

end Admission

/-! ### Steps -/

section Steps

variable {w w' : World}

/-- What is recorded about old reservations only grows. -/
structure Grows (w w' : World) : Prop where
  released : ∀ id ∈ w.released, id ∈ w'.released
  cancelled : ∀ id ∈ w.cancelled, id ∈ w'.cancelled
  early : ∀ id ∈ w.early, id ∈ w'.early
  last : ∀ instant, (∀ last, w'.last = some last → last ≤ instant) → ∀ last, w.last = some last → last ≤ instant

lemma Grows.live (h : Grows w w') (scope : String) (instant : ℚ) (grant : Grant) (hlive : w'.live scope instant grant = true) :
    w.live scope instant grant = true := by
  simp only [World.live, Bool.and_eq_true, Bool.not_eq_true', beq_iff_eq, List.contains_eq_mem, decide_eq_false_iff_not,
    decide_eq_true_eq] at hlive ⊢
  obtain ⟨⟨⟨hscope, hreleased⟩, hcancelled⟩, hlease⟩ := hlive
  exact ⟨⟨⟨hscope, fun hmem => hreleased (h.released _ hmem)⟩, fun hmem => hcancelled (h.cancelled _ hmem)⟩, hlease⟩

lemma Grows.recent (h : Grows w w') (scope : String) (since : ℚ) (grant : Grant) (hrecent : w'.recent scope since grant = true) :
    w.recent scope since grant = true := by
  simp only [World.recent, Bool.and_eq_true, Bool.not_eq_true', beq_iff_eq, List.contains_eq_mem, decide_eq_false_iff_not,
    decide_eq_true_eq] at hrecent ⊢
  obtain ⟨⟨⟨hscope, hcancelled⟩, hearly⟩, hsince⟩ := hrecent
  exact ⟨⟨⟨hscope, fun hmem => hcancelled (h.cancelled _ hmem)⟩, fun hmem => hearly (h.early _ hmem)⟩, hsince⟩

/-- Nothing new is acquired, so the limits stay. -/
lemma Shared.unchanged (h : Shared channel w) (hgrows : Grows w w') (hgrants : w'.grants = w.grants)
    (hold : ∀ event ∈ w'.db.events, event.id < w.grants.length) (hwaits : ∀ worker ∈ w'.workers, Waits w' worker.pending)
    (hearly : ∀ id ∈ w'.early, id ∈ w'.released)
    (htracked : ∀ grant ∈ w.grants, grant.id ∉ w'.cancelled → grant.id ∉ w'.early → Tracked w' grant) : Shared channel w' := by
  refine ⟨by rw [hgrants]; exact h.numbered, by rw [hgrants]; exact hold, hwaits, hearly, by rw [hgrants]; exact htracked, ?_, ?_⟩
  · rw [hgrants]
    intro earlier grant later heq limit hlimit hset
    refine lt_of_le_of_lt ?_ (h.spaced earlier grant later heq limit hlimit hset)
    exact List.countP_mono_left fun other _ hrecent => hgrows.recent _ _ other hrecent
  · rw [hgrants]
    intro scope instant hinstant
    refine le_trans ?_ (h.bounded scope instant (hgrows.last instant hinstant))
    exact List.countP_mono_left fun other _ hlive => hgrows.live _ _ other hlive

lemma Tracked.of_same {grant : Grant} (h : Tracked w grant) (hevents : w'.db.events = w.db.events)
    (hreleased : w'.released = w.released) (hlast : w'.last = w.last) : Tracked w' grant := by
  unfold Tracked at h ⊢
  rwa [hevents, hreleased, hlast]

lemma Waits.of_same {pending : Pending} (h : Waits w pending) (hgrants : w'.grants = w.grants) : Waits w' pending := by
  cases pending with
  | acquire scope now => trivial
  | release scope id now =>
    unfold Waits at h ⊢
    rwa [hgrants]

/-- A worker that starts to wait. -/
lemma Shared.wait (h : Shared channel w) (worker : Worker) (hwaits : Waits w worker.pending) :
    Shared channel { w with workers := w.workers.add worker } := by
  refine h.unchanged ⟨fun _ h => h, fun _ h => h, fun _ h => h, fun _ h => h⟩ rfl h.old ?_ h.early ?_
  · intro other hother
    obtain hold | ⟨rfl, -⟩ := Table.mem_add hother
    · exact (h.waits other hold).of_same rfl
    · exact hwaits.of_same rfl
  · exact fun grant hgrant hcancelled hearly => (h.tracked grant hgrant hcancelled hearly).of_same rfl rfl rfl

lemma known_iff {scope : String} {id : Nat} :
    (w.grants.any fun grant => grant.id == id && grant.scope == scope) = true ↔
      ∃ grant ∈ w.grants, grant.id = id ∧ grant.scope = scope := by
  simp

lemma Shared.leave (h : Shared channel w) (worker scope : String) (id : Nat) (now : ℚ) :
    Shared channel (step channel w (.leave worker scope id now)) := by
  simp only [step]
  split
  · next hknown => exact h.wait ⟨worker, .release scope id now⟩ (known_iff.mp hknown)
  · exact h

lemma Shared.cancel (h : Shared channel w) (scope : String) (id : Nat) :
    Shared channel (step channel w (.cancel scope id)) := by
  simp only [step]
  split
  · refine h.unchanged ⟨fun _ h => h, fun _ h => List.mem_cons_of_mem _ h, fun _ h => h, fun _ h => h⟩ rfl ?_ ?_ h.early ?_
    · intro event hevent
      exact h.old event (Table.mem_delete.mp hevent).1
    · exact fun worker hworker => (h.waits worker hworker).of_same rfl
    · intro grant hgrant hcancelled hearly
      obtain ⟨hne, hcancelled⟩ := not_or.mp (fun hmem => hcancelled (List.mem_cons.mpr hmem))
      obtain ⟨event, hevent, hid, hscope, hrest⟩ | hgone := h.tracked grant hgrant hcancelled hearly
      · refine .inl ⟨event, Table.mem_delete.mpr ⟨hevent, ?_⟩, hid, hscope, hrest⟩
        rw [hid, Bool.and_eq_false_iff]
        exact .inl (beq_eq_false_iff_ne.mpr hne)
      · exact .inr hgone
  · exact h

/-- A release moves the row of its reservation forward, unless it is early. -/
lemma Shared.release (h : Shared channel w) (worker scope : String) (id : Nat) (now : ℚ) (usage : Option Nat)
    (error : Option Error) (threshold : Nat) :
    Shared channel { w with
      db := Quota.release w.db scope (channel scope) now id usage error threshold
      workers := w.workers.delete fun other => other.id == worker
      released := id :: w.released
      early := if w.grants.any fun grant => grant.id == id && decide (now < grant.at_) then id :: w.early else w.early } := by
  have hkey : ∀ event : Event, ({ event with
      leaseUntil := 0, startedAt := now, tokens := usage.getD (channel scope).requestTokenReserve } : Event).id = event.id :=
    fun _ => rfl
  have hmoved : ∀ event ∈ w.db.events, ∃ after ∈ (Quota.release w.db scope (channel scope) now id usage error threshold).events,
      after.id = event.id ∧ after.scope = event.scope ∧
        ((event.id = id ∧ after.startedAt = now) ∨ after = event) := by
    intro event hevent
    refine ⟨_, (@Table.mem_update _ _ _ _ _ _ hkey _).mpr ⟨event, hevent, rfl⟩, ?_⟩
    unfold Table.revise
    split
    · next hmatch =>
      simp only [Bool.and_eq_true, beq_iff_eq] at hmatch
      exact ⟨rfl, rfl, .inl ⟨hmatch.1, rfl⟩⟩
    · exact ⟨rfl, rfl, .inr rfl⟩
  -- what is not early now was not early before, and was not made so by this release
  have hearly : ∀ grant ∈ w.grants, grant.id ∉ (if w.grants.any fun grant => grant.id == id && decide (now < grant.at_) then
      id :: w.early else w.early) → grant.id ∉ w.early ∧ (grant.id = id → grant.at_ ≤ now) := by
    intro grant hgrant hnot
    split at hnot
    · obtain ⟨hne, hbefore⟩ := not_or.mp fun hmem => hnot (List.mem_cons.mpr hmem)
      exact ⟨hbefore, fun hid => absurd hid hne⟩
    · next hnone =>
      refine ⟨hnot, fun hid => not_lt.mp fun hlt => hnone ?_⟩
      exact List.any_eq_true.mpr ⟨grant, hgrant, by simp [hid, hlt]⟩
  refine h.unchanged ⟨fun _ h => List.mem_cons_of_mem _ h, fun _ h => h, ?_, fun _ h => h⟩ rfl ?_ ?_ ?_ ?_
  · intro other hother
    dsimp only
    split
    · exact List.mem_cons_of_mem _ hother
    · exact hother
  · intro after hafter
    obtain ⟨event, hevent, rfl⟩ := (@Table.mem_update _ _ _ _ _ _ hkey _).mp hafter
    rw [Table.key_revise hkey]
    exact h.old event hevent
  · exact fun other hother => (h.waits other (Table.mem_delete.mp hother).1).of_same rfl
  · intro other hother
    dsimp only at hother
    split at hother
    · obtain rfl | hbefore := List.mem_cons.mp hother
      · exact List.mem_cons_self
      · exact List.mem_cons_of_mem _ (h.early other hbefore)
    · exact List.mem_cons_of_mem _ (h.early other hother)
  · intro grant hgrant hcancelled hnot
    obtain ⟨hbefore, htime⟩ := hearly grant hgrant hnot
    obtain ⟨event, hevent, hid, hscope, hstarted, hlease⟩ | ⟨last, hlast, hold, hlease⟩ := h.tracked grant hgrant hcancelled hbefore
    · obtain ⟨after, hafter, hafter_id, hafter_scope, ⟨hmatch, hnow⟩ | rfl⟩ := hmoved event hevent
      · refine .inl ⟨after, hafter, hafter_id.trans hid, hafter_scope.trans hscope, ?_, ?_⟩
        · rw [hnow]
          exact htime (hid.symm.trans hmatch)
        · exact .inl (by rw [← hid, hmatch]; exact List.mem_cons_self)
      · exact .inl ⟨after, hafter, hid, hscope, hstarted, hlease.imp_left (List.mem_cons_of_mem _)⟩
    · exact .inr ⟨last, hlast, hold, hlease.imp_left (List.mem_cons_of_mem _)⟩

/-- Collecting leaves a reservation its row, or the reason why it has none. -/
lemma Tracked.collected {grant : Grant} {now : ℚ} (h : Tracked w grant) (hlast : ∀ last, w.last = some last → last ≤ now)
    (hevents : ∀ event ∈ (collect w.db now).events, event ∈ w'.db.events) (hreleased : w'.released = w.released)
    (hnow : w'.last = some now) : Tracked w' grant := by
  unfold Tracked
  rw [hreleased]
  obtain ⟨event, hevent, hid, hscope, hstarted, hlease⟩ | ⟨last, hlast_eq, hold, hlease⟩ := h
  · by_cases hstays : now < event.leaseUntil ∨ now - 60 < event.startedAt
    · exact .inl ⟨event, hevents event (mem_collect.mpr ⟨hevent, hstays⟩), hid, hscope, hstarted, hlease⟩
    · obtain ⟨hover, hminute⟩ := not_or.mp hstays
      rw [not_lt] at hover hminute
      refine .inr ⟨now, hnow, le_trans hstarted hminute, hlease.imp_right fun hsame => ?_⟩
      rwa [← hsame]
  · have hle := hlast last hlast_eq
    exact .inr ⟨now, hnow, by linarith, hlease.imp_right fun hends => le_trans hends hle⟩

/-- A worker that was refused has only collected. -/
lemma Shared.refused (h : Shared channel w) {worker : String} {now : ℚ} (hlast : ∀ last, w.last = some last → last ≤ now) :
    Shared channel { w with
      db := collect w.db now, workers := w.workers.delete fun other => other.id == worker, last := some now } := by
  have hlater : ∀ instant, (∀ last, some now = some last → last ≤ instant) → ∀ last, w.last = some last → last ≤ instant :=
    fun instant hinstant last hlast_eq => le_trans (hlast last hlast_eq) (hinstant now rfl)
  refine h.unchanged ⟨fun _ h => h, fun _ h => h, fun _ h => h, hlater⟩ rfl ?_ ?_ h.early ?_
  · exact fun event hevent => h.old event (mem_collect.mp hevent).1
  · exact fun other hother => (h.waits other (Table.mem_delete.mp hother).1).of_same rfl
  · exact fun grant hgrant hcancelled hearly =>
      (h.tracked grant hgrant hcancelled hearly).collected hlast (fun event hevent => hevent) rfl rfl

/-- A worker that was admitted found room for one more. -/
lemma Shared.admitted (h : Shared channel w) {worker scope : String} {now : ℚ}
    (hlast : ∀ last, w.last = some last → last ≤ now) (hallowed : allowed (collect w.db now) scope (channel scope) now = true) :
    Shared channel { w with
      db := { collect w.db now with
        events := (collect w.db now).events.add
          { id := w.grants.length, scope, startedAt := now, tokens := (channel scope).requestTokenReserve,
            leaseUntil := (channel scope).leaseUntil now } }
      workers := w.workers.delete fun other => other.id == worker
      grants := w.grants ++ [⟨w.grants.length, scope, now, (channel scope).leaseUntil now⟩]
      last := some now } := by
  obtain ⟨-, hrequests, hleases⟩ := allowed_bounds hallowed
  have hfresh : (collect w.db now).events.find w.grants.length = none := by
    by_contra hfound
    obtain ⟨event, hfound⟩ := Option.ne_none_iff_exists'.mp hfound
    obtain ⟨hevent, hid⟩ := Table.find_eq_some hfound
    have hlt := h.old event (mem_collect.mp hevent).1
    omega
  refine ⟨?_, ?_, ?_, ?_, ?_, ?_, ?_⟩
  · simp [h.numbered, List.range_succ]
  · intro event hevent
    rw [List.length_append, List.length_singleton]
    obtain hold | ⟨rfl, -⟩ := Table.mem_add hevent
    · exact Nat.lt_succ_of_lt (h.old event (mem_collect.mp hold).1)
    · exact Nat.lt_succ_self _
  · intro other hother
    have hbefore := h.waits other (Table.mem_delete.mp hother).1
    cases hpending : other.pending with
    | acquire otherScope otherNow => trivial
    | release otherScope id otherNow =>
      rw [hpending] at hbefore
      obtain ⟨known, hknown, hknown_id, hknown_scope⟩ := hbefore
      exact ⟨known, List.mem_append_left _ hknown, hknown_id, hknown_scope⟩
  · exact h.early
  · intro grant hgrant hcancelled hearly
    obtain hold | hnew := List.mem_append.mp hgrant
    · exact (h.tracked grant hold hcancelled hearly).collected hlast (fun event hevent => Table.mem_add_of_mem hevent) rfl rfl
    · obtain rfl := List.mem_singleton.mp hnew
      exact .inl ⟨_, Table.mem_add_self hfresh, rfl, rfl, le_rfl, .inr rfl⟩
  · intro earlier grant later heq limit hlimit hset
    obtain ⟨rfl, rfl⟩ | ⟨rest, hrest⟩ := List.append_singleton_eq_append_cons heq
    · exact lt_of_le_of_lt (recent_le_requests h hlast) (hrequests limit hlimit hset)
    · exact h.spaced earlier grant rest hrest limit hlimit hset
  · intro other instant hinstant
    have hnow : now ≤ instant := hinstant now rfl
    rw [List.countP_append, List.countP_singleton]
    by_cases hother : other = scope
    · subst hother
      have hbefore := lt_of_le_of_lt (live_le_leases h hlast hnow) hleases
      split
      · exact hbefore
      · exact le_of_lt hbefore
    · rw [if_neg (by simp [World.live, Ne.symm hother])]
      exact h.bounded other instant fun last hlast_eq => le_trans (hlast last hlast_eq) hnow

end Steps

lemma timely_last {w : World} {worker scope : String} {now : ℚ} {id : String} (h : timely w (.commitAcquire worker) = true)
    (hfound : w.workers.find worker = some ⟨id, .acquire scope now⟩) : ∀ last, w.last = some last → last ≤ now := by
  intro last hlast
  simpa [timely, hfound, hlast] using h

theorem step_shared {w : World} {act : Act} (h : Shared channel w) (htimely : timely w act = true) :
    Shared channel (step channel w act) := by
  cases act with
  | enter worker scope now => exact h.wait ⟨worker, .acquire scope now⟩ trivial
  | leave worker scope id now => exact h.leave worker scope id now
  | cancel scope id => exact h.cancel scope id
  | commitAcquire worker =>
    simp only [step]
    split
    · next id scope now hfound =>
      have hlast := timely_last htimely hfound
      by_cases hallowed : allowed (collect w.db now) scope (channel scope) now = true
      · simp only [acquire, hallowed, if_true]
        exact h.admitted hlast hallowed
      · simp only [acquire, hallowed, Bool.false_eq_true, if_false]
        exact h.refused hlast
    · exact h
  | commitRelease worker usage error threshold =>
    simp only [step]
    split
    · next id scope reservation now hfound => exact h.release worker scope reservation now usage error threshold
    · exact h

lemma start_shared : Shared channel World.start where
  numbered := rfl
  old := fun _ h => absurd h List.not_mem_nil
  waits := fun _ h => absurd h List.not_mem_nil
  early := fun _ h => absurd h List.not_mem_nil
  tracked := fun _ h => absurd h List.not_mem_nil
  spaced := fun earlier _ _ h => by simp [World.start] at h
  bounded := fun _ _ _ => Nat.zero_le _

/-- The reservations of the scope in a stretch of time, without the cancelled ones. -/
def World.within (w : World) (scope : String) (stretch : ℚ → Bool) (grant : Grant) : Bool :=
  grant.scope == scope && !w.cancelled.contains grant.id && stretch grant.at_

/-- No stretch shorter than a minute has more reservations than the limit, those that were released early apart. -/
theorem Shared.window {w : World} (h : Shared channel w) {scope : String} {limit : Nat} (hlimit : limit ≠ 0)
    (hset : (channel scope).requestsPerMinute = some limit) {stretch : ℚ → Bool}
    (hshort : ∀ a b, stretch a = true → stretch b = true → b - 60 < a) :
    w.grants.countP (fun grant => w.within scope stretch grant && !w.early.contains grant.id) ≤ limit := by
  apply List.countP_le_of_earlier
  intro earlier grant later heq hgrant
  simp only [World.within, Bool.and_eq_true, beq_iff_eq] at hgrant
  obtain ⟨⟨⟨hscope, -⟩, hstretch⟩, -⟩ := hgrant
  subst hscope
  refine lt_of_le_of_lt ?_ (h.spaced earlier grant later heq limit hlimit hset)
  apply List.countP_mono_left
  intro other _ hother
  simp only [World.within, Bool.and_eq_true] at hother
  simp only [World.recent, Bool.and_eq_true, decide_eq_true_eq]
  obtain ⟨⟨hmine, hstretched⟩, hearly⟩ := hother
  exact ⟨⟨hmine, hearly⟩, hshort _ _ hstretched hstretch⟩

/-! ### The circuit -/

lemma Circuit.failed_circuitUntil (circuit : Circuit) (channel : Channel) (now : ℚ) (error : Error) (threshold : Nat) :
    circuit.circuitUntil ≤ (circuit.failed channel now error threshold).circuitUntil := by
  unfold Circuit.failed
  dsimp only
  split
  · exact le_max_left _ _
  · exact le_rfl

def Circuit.Opens (before after : Circuit) : Prop := before.circuitUntil ≤ after.circuitUntil

lemma Circuit.opens_trans (a b c : Circuit) (hab : a.Opens b) (hbc : b.Opens c) : a.Opens c := le_trans hab hbc

/-- No transaction takes `circuit_until` back. -/
theorem step_circuits (w : World) (act : Act) :
    Table.Follows Circuit.Opens w.db.circuits (step channel w act).db.circuits := by
  have hrefl : ∀ circuit : Circuit, circuit.Opens circuit := fun circuit => le_refl circuit.circuitUntil
  cases act with
  | commitRelease worker usage error threshold =>
    simp only [step]
    split
    · next id scope reservation now hfound =>
      have hadded := @Table.Follows.add _ _ _ _ w.db.circuits _ hrefl { scope, failures := 0, circuitUntil := 0 }
      apply hadded.trans Circuit.opens_trans
      refine Table.Follows.update hrefl (Circuit.reported_scope _ _ _ _) ?_
      intro circuit _ _
      unfold Circuit.reported
      cases error with
      | none => exact hrefl circuit
      | some error => exact circuit.failed_circuitUntil _ _ _ _
    · exact Table.Follows.refl hrefl _
  | commitAcquire worker =>
    simp only [step]
    split
    · next id scope now hfound =>
      unfold acquire
      dsimp only
      split <;> exact Table.Follows.refl hrefl _
    · exact Table.Follows.refl hrefl _
  | leave worker scope id now =>
    simp only [step]
    split <;> exact Table.Follows.refl hrefl _
  | cancel scope id =>
    simp only [step]
    split <;> exact Table.Follows.refl hrefl _
  | enter => exact Table.Follows.refl hrefl _

/-- A reservation is acquired when the circuit is closed again. -/
theorem step_closed {w : World} {act : Act} {grant : Grant} (h : (step channel w act).grants = w.grants ++ [grant])
    {circuit : Circuit} (hfound : w.db.circuits.find grant.scope = some circuit) : circuit.circuitUntil ≤ grant.at_ := by
  cases act with
  | commitAcquire worker =>
    simp only [step] at h
    split at h
    · next id scope now _ =>
      by_cases hallowed : allowed (collect w.db now) scope (channel scope) now = true
      · simp only [acquire, hallowed, if_true, List.append_cancel_left_eq, List.cons.injEq, and_true] at h
        subst h
        exact (allowed_bounds hallowed).1 circuit hfound
      · simp [acquire, hallowed] at h
    · simp at h
  | commitRelease worker usage error threshold =>
    simp only [step] at h
    split at h <;> simp at h
  | leave | cancel =>
    simp only [step] at h
    split at h <;> simp at h
  | enter => simp [step] at h

/-! ### Runs -/

/-- A half-open minute. -/
def minuteFrom (start time : ℚ) : Bool := decide (start ≤ time) && decide (time < start + 60)

/-- What the workers of one account share. -/
structure QuotaKept (channel : String → Channel) (acts : List Act) : Prop where
  /-- At most `requests_per_minute` reservations in every half-open minute, those that were released early apart. -/
  minutes : ∀ scope limit, limit ≠ 0 → (channel scope).requestsPerMinute = some limit → ∀ start : ℚ,
    (run channel acts).grants.countP (fun grant =>
      (run channel acts).within scope (minuteFrom start) grant && !(run channel acts).early.contains grant.id) ≤ limit
  /-- At every instant since the last `acquire`. -/
  concurrent : ∀ scope instant, (∀ last, (run channel acts).last = some last → last ≤ instant) →
    (run channel acts).grants.countP ((run channel acts).live scope instant) ≤ (channel scope).maxConcurrency
  /-- `circuit_until` never decreases. -/
  circuits : ∀ earlier later, acts = earlier ++ later → ∀ scope circuit,
    (run channel earlier).db.circuits.find scope = some circuit →
      ∃ after, (run channel acts).db.circuits.find scope = some after ∧ circuit.circuitUntil ≤ after.circuitUntil
  /-- Nothing is acquired before it. -/
  closed : ∀ earlier act later, acts = earlier ++ act :: later → ∀ grant,
    (run channel (earlier ++ [act])).grants = (run channel earlier).grants ++ [grant] → ∀ circuit,
      (run channel earlier).db.circuits.find grant.scope = some circuit → circuit.circuitUntil ≤ grant.at_

theorem run_circuits (w : World) (acts : List Act) :
    Table.Follows Circuit.Opens w.db.circuits (Runs.run (step channel) w acts).db.circuits := by
  induction acts generalizing w with
  | nil => exact Table.Follows.refl (fun circuit => le_refl circuit.circuitUntil) _
  | cons act rest ih => exact (step_circuits w act).trans Circuit.opens_trans (ih (step channel w act))

/-- Every interleaving of workers keeps the shared quota, as long as the clocks of `acquire` are in order. -/
theorem quota_kept (channel : String → Channel) (acts : List Act)
    (h : Runs.Along (step channel) (fun w act => timely w act = true) World.start acts) : QuotaKept channel acts := by
  have hshared : Shared channel (run channel acts) := Runs.invariant_of_along (fun _ _ => step_shared) start_shared h
  refine ⟨?_, hshared.bounded, ?_, ?_⟩
  · intro scope limit hlimit hset start
    apply hshared.window hlimit hset
    intro a b ha hb
    simp only [minuteFrom, Bool.and_eq_true, decide_eq_true_eq] at ha hb
    linarith
  · rintro earlier later rfl scope circuit hfound
    rw [run, Runs.run_append]
    exact (run_circuits _ later).find hfound
  · rintro earlier act later - grant hgrants circuit hfound
    rw [run, Runs.run_append] at hgrants
    exact step_closed hgrants hfound

/-- One request a minute. -/
def onceAMinute (_ : String) : Channel := { requestsPerMinute := some 1 }

/-- The second worker is refused within the minute, and admitted after it. -/
def twoWorkers : List Act :=
  [.enter "a" "account" 1000, .enter "b" "account" 1000, .commitAcquire "a", .commitAcquire "b", .leave "a" "account" 0 1001,
    .commitRelease "a" none none 3, .enter "b" "account" 1061, .commitAcquire "b"]

theorem quota_kept_of_twoWorkers :
    Runs.Along (step onceAMinute) (fun w act => timely w act = true) World.start twoWorkers ∧
      (run onceAMinute twoWorkers).grants.map Grant.at_ = [1000, 1061] ∧ (run onceAMinute twoWorkers).early = [] ∧
      QuotaKept onceAMinute twoWorkers :=
  ⟨by decide +kernel, by decide +kernel, by decide +kernel, quota_kept _ twoWorkers (by decide +kernel)⟩

/-- The clock is set back before the release. -/
def setBack : List Act :=
  [.enter "a" "account" 1000, .commitAcquire "a", .leave "a" "account" 0 900, .commitRelease "a" none none 3,
    .enter "b" "account" 1001, .commitAcquire "b"]

/-- The row that the release has moved to the past is collected, and a second request of the minute is admitted. -/
theorem early_release_forgotten :
    Runs.Along (step onceAMinute) (fun w act => timely w act = true) World.start setBack ∧
      (run onceAMinute setBack).grants.map Grant.at_ = [1000, 1001] ∧
      ¬ (run onceAMinute setBack).grants.countP ((run onceAMinute setBack).within "account" (minuteFrom 1000)) ≤ 1 :=
  ⟨by decide +kernel, by decide +kernel, by decide +kernel⟩

end InkTime.Quota
