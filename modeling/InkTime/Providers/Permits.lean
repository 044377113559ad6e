import InkTime.Library.Runs
import InkTime.Providers.Router

/-!
# The permits of a channel

A permit is out for every selection that is not released, and the thread that selected has one reservation noted for it, as
long as no call outside the router raises where the permit is not given back.
-/

namespace InkTime.Providers

/-! ### The counts of one channel -/

/-- Unfinished reservations or slots that the thread has noted. -/
def recorded (channel : Channel) (cell : Cell) (thread : Nat) : Nat :=
  if channel.sharedQuota then (cell.quotaReservations thread).isSome.toNat else (cell.requestSlots thread).isSome.toNat

/-- Permits taken, and what each thread has noted. -/
def counts (channel : Channel) (cell : Cell) : Nat × (Nat → Nat) := (cell.taken, recorded channel cell)

/-- The counts with one more use by the thread, which had none. -/
def taken (thread : Nat) (before : Nat × (Nat → Nat)) : Nat × (Nat → Nat) := (before.1 + 1, Function.update before.2 thread 1)

/-- The counts with one use less. -/
def returned (thread : Nat) (before : Nat × (Nat → Nat)) : Nat × (Nat → Nat) := (before.1 - 1, Function.update before.2 thread 0)

/-- The calls outside the router raise nowhere that keeps the permit. -/
structure Attempt.WellBehaved (attempt : Attempt) : Prop where
  acquire : ∀ error, attempt.quotaAcquire ≠ .error error
  cancel : attempt.quotaCancel = none
  gate : ∀ error, attempt.gate = some error → error.isException = true
  call : ∀ error, attempt.call = .error error → error.isException = true ∧ error.retryAfter.read ≠ none

/-- The shared quota, or the limits of the channel, grant a reservation. -/
def reserves (channel : Channel) (attempt : Attempt) (cell : Cell) : Bool :=
  if channel.sharedQuota then
    match attempt.quotaAcquire with
    | .ok (some _) => true
    | _ => false
  else canUseChannel channel attempt.reserveAt (pruneQuotaEvents attempt.reserveAt cell)

/-- A permit is free and the reservation is granted. -/
def grants (channel : Channel) (attempt : Attempt) (cell : Cell) : Bool :=
  cell.taken < channel.permits && reserves channel attempt cell

variable {channel : Channel} {thread : Nat} {attempt : Attempt} {cell cell' : Cell}

lemma returned_taken (before : Nat × (Nat → Nat)) (h : before.2 thread = 0) : returned thread (taken thread before) = before := by
  obtain ⟨permits, notes⟩ := before
  simp only [returned, taken, Nat.add_sub_cancel, Function.update_idem, Prod.mk.injEq, true_and]
  rw [← h]
  exact Function.update_eq_self thread notes

lemma counts_releasePermit (cell : Cell) : counts channel (releasePermit cell).1 = (cell.taken - 1, recorded channel cell) := by
  unfold releasePermit
  split
  · next h => rw [counts, h]
  · rfl

lemma recorded_update_reservations (h : channel.sharedQuota = true) (noted : Option Nat) :
    recorded channel { cell with quotaReservations := Function.update cell.quotaReservations thread noted } =
      Function.update (recorded channel cell) thread noted.isSome.toNat := by
  funext other
  simp only [recorded, h, if_true, Function.update_apply]
  split
  · rfl
  · rfl

lemma recorded_update_slots (h : channel.sharedQuota = false) (noted : Option ℚ) :
    recorded channel { cell with requestSlots := Function.update cell.requestSlots thread noted } =
      Function.update (recorded channel cell) thread noted.isSome.toNat := by
  funext other
  simp only [recorded, h, Bool.false_eq_true, if_false, Function.update_apply]
  split
  · rfl
  · rfl

/-- Notes of the other kind are not counted. -/
lemma recorded_slots_of_shared (h : channel.sharedQuota = true) (slots : Nat → Option ℚ) :
    recorded channel { cell with requestSlots := slots } = recorded channel cell := by
  funext other
  simp only [recorded, h, if_true]

lemma counts_settle (channel : Channel) (failureThreshold : Nat) (usage : Option Usage) (error : Option Raised) (now : ℚ)
    (cell : Cell) : counts channel (settle channel failureThreshold usage error now cell).1 = counts channel cell := by
  unfold settle
  split
  · dsimp only
    split
    · split
      · rfl
      · rfl
    · rfl
  · dsimp only
    split
    · rfl
    · split
      · rfl
      · rfl

lemma settle_readable {failureThreshold : Nat} {usage : Option Usage} {error : Option Raised} {now : ℚ}
    (h : ∀ e, error = some e → e.retryAfter.read ≠ none) :
    (settle channel failureThreshold usage error now cell).2 = true := by
  unfold settle
  cases error with
  | none =>
    cases usage with
    | none => rfl
    | some usage => rfl
  | some error =>
    dsimp only
    split
    · split
      · next hread => exact absurd hread (h error rfl)
      · rfl
    · rfl

lemma recorded_forget (channel : Channel) (thread : Nat) (cell : Cell) :
    recorded channel (forget channel thread cell) = Function.update (recorded channel cell) thread 0 := by
  unfold forget
  cases hshared : channel.sharedQuota with
  | true => exact (recorded_slots_of_shared hshared _).trans (recorded_update_reservations hshared none)
  | false => exact recorded_update_slots hshared none

lemma taken_forget (channel : Channel) (thread : Nat) (cell : Cell) : (forget channel thread cell).taken = cell.taken := by
  unfold forget
  cases channel.sharedQuota with
  | true => rfl
  | false => rfl

lemma counts_giveBack (channel : Channel) (thread : Nat) (quotaRelease : Option Raised) (cell : Cell) :
    counts channel (giveBack channel thread quotaRelease cell).1 = returned thread (counts channel cell) := by
  change counts channel (releasePermit (forget channel thread cell)).1 = _
  rw [counts_releasePermit, taken_forget, recorded_forget]
  rfl

/-- A release takes the use back, whatever the shared quota does. -/
lemma counts_releaseChannel {failureThreshold : Nat} {usage : Option Usage} {error : Option Raised} {now : ℚ}
    {quotaRelease : Option Raised} (h : ∀ e, error = some e → e.retryAfter.read ≠ none) :
    counts channel (releaseChannel channel failureThreshold thread usage error now quotaRelease cell).1 =
      returned thread (counts channel cell) := by
  have hread : (settle channel failureThreshold usage error now cell).2 = true := settle_readable h
  have hcounts := counts_settle channel failureThreshold usage error now cell
  unfold releaseChannel
  cases hsettle : settle channel failureThreshold usage error now cell with
  | mk settled readable =>
    rw [hsettle] at hread hcounts
    dsimp only at hread hcounts ⊢
    rw [hread]
    dsimp only
    rw [counts_giveBack, hcounts]

/-- A call gives the channel back however it ends. -/
lemma counts_complete (channel : Channel) (failureThreshold thread : Nat) (cell : Cell) (h : attempt.WellBehaved) :
    counts channel (complete channel failureThreshold thread attempt cell).1 = returned thread (counts channel cell) := by
  unfold complete
  split
  · next usage hcall =>
    have hreleased : counts channel (releaseChannel channel failureThreshold thread (some usage) none attempt.releaseAt
        attempt.quotaRelease cell).1 = returned thread (counts channel cell) := counts_releaseChannel (by simp)
    split
    · next heq => rwa [heq] at hreleased
    · next heq => rwa [heq] at hreleased
  · next error hcall =>
    obtain ⟨hexception, hreadable⟩ := h.call error hcall
    have hreleased : counts channel (releaseChannel channel failureThreshold thread none (some error) attempt.releaseAt
        attempt.quotaRelease cell).1 = returned thread (counts channel cell) :=
      counts_releaseChannel (by rintro e ⟨⟩; exact hreadable)
    rw [hexception, Bool.not_true, if_neg Bool.false_ne_true]
    split
    · next heq => rwa [heq] at hreleased
    · next heq => rwa [heq] at hreleased

/-! ### Acquiring a channel -/

lemma reserve_true (h : reserveRequestSlot channel thread attempt cell = (cell', .ok true)) :
    reserves channel attempt cell = true ∧ counts channel cell' = (cell.taken, Function.update (recorded channel cell) thread 1) ∧
      (channel.sharedQuota = false → ∀ slot, cell'.requestSlots thread = some slot → slot ∈ cell'.requestTimes) := by
  unfold reserveRequestSlot at h
  unfold reserves
  cases hshared : channel.sharedQuota with
  | true =>
    rw [hshared, if_pos rfl] at h
    rw [if_pos rfl]
    split at h
    · cases h
    · cases h
    · next reservation hacquire =>
      obtain ⟨rfl, -⟩ := Prod.mk.inj h
      rw [hacquire]
      exact ⟨rfl, Prod.ext rfl (recorded_update_reservations hshared _), fun hfalse => by cases hfalse⟩
  | false =>
    rw [hshared, if_neg Bool.false_ne_true] at h
    rw [if_neg Bool.false_ne_true]
    dsimp only at h
    split at h
    · next huse =>
      obtain ⟨rfl, -⟩ := Prod.mk.inj h
      refine ⟨huse, Prod.ext rfl (recorded_update_slots hshared _), fun _ slot hslot => ?_⟩
      dsimp only at hslot ⊢
      rw [Function.update_self, Option.some.injEq] at hslot
      rw [← hslot]
      exact List.mem_append_right _ List.mem_cons_self
    · cases (Prod.mk.inj h).2

lemma reserve_false (h : reserveRequestSlot channel thread attempt cell = (cell', .ok false)) :
    reserves channel attempt cell = false ∧ counts channel cell' = counts channel cell := by
  unfold reserveRequestSlot at h
  unfold reserves
  split at h
  · next hshared =>
    rw [if_pos hshared]
    split at h
    · cases h
    · next hacquire =>
      obtain ⟨rfl, -⟩ := Prod.mk.inj h
      rw [hacquire]
      exact ⟨rfl, rfl⟩
    · cases h
  · next hlocal =>
    rw [if_neg hlocal]
    dsimp only at h
    split at h
    · cases (Prod.mk.inj h).2
    · next huse =>
      obtain ⟨rfl, -⟩ := Prod.mk.inj h
      exact ⟨by simpa using huse, rfl⟩

lemma reserve_ne_error (h : attempt.WellBehaved) (error : Raised) :
    reserveRequestSlot channel thread attempt cell ≠ (cell', .error error) := by
  intro heq
  unfold reserveRequestSlot at heq
  split at heq
  · split at heq
    · next failure hacquire => exact h.acquire failure hacquire
    · cases heq
    · cases heq
  · dsimp only at heq
    split at heq
    · cases heq
    · cases heq

/-- A reservation that was just noted can be cancelled. -/
lemma cancel_ok (thread : Nat) (h : attempt.WellBehaved) (htaken : 0 < cell.taken)
    (hslot : channel.sharedQuota = false → ∀ slot, cell.requestSlots thread = some slot → slot ∈ cell.requestTimes) :
    ∃ cell', cancelLocalReservation channel thread attempt cell = (cell', none) ∧
      counts channel cell' = returned thread (counts channel cell) := by
  have hrelease : ∀ other : Cell, other.taken = cell.taken →
      ∃ released, releasePermit other = (released, none) ∧ counts channel released = (cell.taken - 1, recorded channel other) := by
    intro other hother
    refine ⟨{ other with taken := other.taken - 1 }, ?_, ?_⟩
    · rw [releasePermit, if_neg (by omega)]
    · rw [← hother]
      rfl
  unfold cancelLocalReservation
  cases hshared : channel.sharedQuota with
  | true =>
    obtain ⟨released, hreleased, hcounts⟩ := hrelease
      { cell with quotaReservations := Function.update cell.quotaReservations thread none } rfl
    rw [if_pos rfl, h.cancel]
    refine ⟨released, ?_, hcounts.trans (Prod.ext rfl (recorded_update_reservations hshared none))⟩
    cases (cell.quotaReservations thread).isSome with
    | true => exact hreleased
    | false => exact hreleased
  | false =>
    rw [if_neg Bool.false_ne_true]
    split
    · next hnone =>
      obtain ⟨released, hreleased, hcounts⟩ := hrelease cell rfl
      refine ⟨released, hreleased, hcounts.trans (Prod.ext rfl ?_)⟩
      funext other
      change recorded channel cell other = Function.update (recorded channel cell) thread 0 other
      rw [Function.update_apply]
      split
      · next hthread => simp [recorded, hshared, hthread, hnone]
      · rfl
    · next slot hnoted =>
      obtain ⟨released, hreleased, hcounts⟩ := hrelease { cell with
        requestSlots := Function.update cell.requestSlots thread none
        requestTimes := cell.requestTimes.erase slot } rfl
      dsimp only
      rw [if_pos (hslot hshared slot hnoted)]
      exact ⟨released, hreleased, hcounts.trans (Prod.ext rfl (recorded_update_slots hshared none))⟩

/-- The gate keeps the photo waiting. -/
def refuses (attempt : Attempt) : Bool := attempt.gate.any Raised.defers

lemma acquire_true (h : acquireChannel channel thread attempt cell = (cell', .ok true)) :
    grants channel attempt cell = true ∧ counts channel cell' = taken thread (counts channel cell) := by
  unfold acquireChannel at h
  split at h
  · cases (Prod.mk.inj h).2
  · next hfree =>
    have hpermit : decide (cell.taken < channel.permits) = true := decide_eq_true (by omega)
    split at h
    · cases (Prod.mk.inj h).2
    · cases (Prod.mk.inj h).2
    · next reserved hreserved =>
      obtain ⟨hreserves, hcounts, -⟩ := reserve_true hreserved
      split at h
      · obtain ⟨rfl, -⟩ := Prod.mk.inj h
        refine ⟨?_, hcounts⟩
        unfold grants
        rw [hpermit, Bool.true_and]
        exact hreserves
      · split at h
        · cases (Prod.mk.inj h).2
        · split at h
          · cases (Prod.mk.inj h).2
          · have hresult := (Prod.mk.inj h).2
            split at hresult
            · cases hresult
            · cases hresult

/-- An attempt that does not get the channel leaves the counts as they were. -/
lemma acquire_other {result : Except Raised Bool} (h : attempt.WellBehaved)
    (hnone : grants channel attempt cell = true → recorded channel cell thread = 0)
    (heq : acquireChannel channel thread attempt cell = (cell', result)) (hresult : result ≠ .ok true) :
    counts channel cell' = counts channel cell ∧
      (result = .ok false → grants channel attempt cell = false ∨ refuses attempt = true) := by
  unfold acquireChannel at heq
  split at heq
  · next hfull =>
    obtain ⟨rfl, rfl⟩ := Prod.mk.inj heq
    refine ⟨rfl, fun _ => .inl ?_⟩
    rw [grants, decide_eq_false (by omega), Bool.false_and]
  · next hfree =>
    have hpermit : decide (cell.taken < channel.permits) = true := decide_eq_true (by omega)
    split at heq
    · next reserved error hreserved => exact absurd hreserved (reserve_ne_error h error)
    · next reserved hreserved =>
      obtain ⟨hreserves, hcounts⟩ := reserve_false hreserved
      obtain ⟨rfl, rfl⟩ := Prod.mk.inj heq
      refine ⟨?_, fun _ => .inl ?_⟩
      · have htaken : reserved.taken = cell.taken + 1 := congrArg Prod.fst hcounts
        have hrecorded : recorded channel reserved = recorded channel cell := congrArg Prod.snd hcounts
        rw [counts_releasePermit, htaken, hrecorded, Nat.add_sub_cancel, counts]
      · rw [grants, hpermit, Bool.true_and]
        exact hreserves
    · next reserved hreserved =>
      obtain ⟨hreserves, hcounts, hslot⟩ := reserve_true hreserved
      have hgrants : grants channel attempt cell = true := by
        rw [grants, hpermit, Bool.true_and]
        exact hreserves
      have htaken : reserved.taken = cell.taken + 1 := congrArg Prod.fst hcounts
      have hback : returned thread (counts channel reserved) = counts channel cell := by
        rw [hcounts]
        exact returned_taken (counts channel cell) (hnone hgrants)
      split at heq
      · exact absurd (Prod.mk.inj heq).2.symm hresult
      · next error hgate =>
        rw [h.gate error hgate, Bool.not_true, if_neg Bool.false_ne_true] at heq
        obtain ⟨cancelled, hcancel, hcancelled⟩ := cancel_ok thread h (by omega : 0 < reserved.taken) hslot
        rw [hcancel] at heq
        dsimp only at heq
        obtain ⟨rfl, rfl⟩ := Prod.mk.inj heq
        refine ⟨hcancelled.trans hback, fun hfalse => .inr ?_⟩
        split at hfalse
        · next hdefers =>
          rw [refuses, hgate]
          exact hdefers
        · cases hfalse

/-! ### Along the channels -/

section

variable {κ : Type} [DecidableEq κ]

/-- No channel that is granted on the way is one the thread has noted. -/
def FreeAlong (goesOn granted : κ → Bool) (free : κ → Prop) : List κ → Prop
  | [] => True
  | id :: rest => (granted id = true → free id) ∧ (goesOn id = true → FreeAlong goesOn granted free rest)

omit [DecidableEq κ] in
lemma FreeAlong.congr {goesOn goesOn' granted granted' : κ → Bool} {free free' : κ → Prop} {ids : List κ}
    (h : ∀ id ∈ ids, goesOn' id = goesOn id ∧ granted' id = granted id ∧ (free id → free' id))
    (hfree : FreeAlong goesOn granted free ids) : FreeAlong goesOn' granted' free' ids := by
  induction ids with
  | nil => trivial
  | cons id rest ih =>
    obtain ⟨hgoesOn, hgranted, hid⟩ := h id List.mem_cons_self
    refine ⟨?_, ?_⟩
    · rw [hgranted]
      exact fun hgrant => hid (hfree.1 hgrant)
    · rw [hgoesOn]
      exact fun hgo => ih (fun other hother => h other (List.mem_cons_of_mem _ hother)) (hfree.2 hgo)

/-- `_execute` goes on to the next channel. -/
def routeGoesOn (channel : Channel) (attempt : Attempt) (cell : Cell) : Bool :=
  !grants channel attempt cell || refuses attempt ||
    match attempt.call with
    | .ok _ => false
    | .error error => !error.started

/-- `select_channel` goes on to the next channel. -/
def selectGoesOn (channel : Channel) (attempt : Attempt) (cell : Cell) : Bool :=
  !grants channel attempt cell || refuses attempt

lemma complete_failedOver {failureThreshold : Nat} {error : Raised}
    (h : complete channel failureThreshold thread attempt cell = (cell', .failedOver error)) :
    attempt.call = .error error ∧ error.started = false := by
  unfold complete at h
  split at h
  · split at h
    · cases (Prod.mk.inj h).2
    · cases (Prod.mk.inj h).2
  · next failure hcall =>
    split at h
    · cases (Prod.mk.inj h).2
    · split at h
      · cases (Prod.mk.inj h).2
      · have hcompleted := (Prod.mk.inj h).2
        split at hcompleted
        · cases hcompleted
        · next hstarted =>
          obtain rfl := Completed.failedOver.inj hcompleted
          exact ⟨hcall, by simpa using hstarted⟩

/-- The counts of every channel are the same in both states. -/
def SameCounts (router : Router κ) (state state' : State κ) : Prop :=
  ∀ id, counts (router.channel id) (state' id) = counts (router.channel id) (state id)

lemma SameCounts.update {router : Router κ} {state : State κ} {id : κ} {cell : Cell}
    (h : counts (router.channel id) cell = counts (router.channel id) (state id)) :
    SameCounts router state (Function.update state id cell) := by
  intro other
  by_cases hother : other = id
  · rw [hother, Function.update_self, h]
  · rw [Function.update_of_ne hother]

variable {router : Router κ} {attempts : κ → Attempt}

/-- The way through the channels where no selection of the thread is in the way. -/
def RouteFree (router : Router κ) (thread : Nat) (attempts : κ → Attempt)
    (goesOn : Channel → Attempt → Cell → Bool) (state : State κ) (ids : List κ) : Prop :=
  FreeAlong (fun id => goesOn (router.channel id) (attempts id) (state id))
    (fun id => grants (router.channel id) (attempts id) (state id))
    (fun id => recorded (router.channel id) (state id) thread = 0) ids

lemma RouteFree.update {goesOn : Channel → Attempt → Cell → Bool} {state : State κ} {ids : List κ} {id : κ} (cell : Cell)
    (hnew : id ∉ ids) (h : RouteFree router thread attempts goesOn state ids) :
    RouteFree router thread attempts goesOn (Function.update state id cell) ids := by
  refine h.congr fun other hother => ?_
  have hne : other ≠ id := fun heq => hnew (heq ▸ hother)
  rw [Function.update_of_ne hne]
  exact ⟨rfl, rfl, fun hfree => hfree⟩

lemma routeGoesOn_of_select {cell : Cell} (h : grants channel attempt cell = false ∨ refuses attempt = true) :
    routeGoesOn channel attempt cell = true ∧ selectGoesOn channel attempt cell = true := by
  unfold routeGoesOn selectGoesOn
  obtain h | h := h
  · rw [h]
    exact ⟨rfl, rfl⟩
  · rw [h, Bool.or_true]
    exact ⟨rfl, rfl⟩

lemma route_sameCounts {ids : List κ} {lastError : Option Raised} {state : State κ}
    (hwell : ∀ id ∈ ids, (attempts id).WellBehaved) (hnodup : ids.Nodup)
    (hfree : RouteFree router thread attempts routeGoesOn state ids) :
    SameCounts router state (route router thread attempts ids lastError state).1 := by
  induction ids generalizing lastError state with
  | nil => exact fun id => rfl
  | cons id rest ih =>
    obtain ⟨hnew, hrest⟩ := List.nodup_cons.mp hnodup
    have hid := hwell id List.mem_cons_self
    -- the tail of the route, in a state that differs at `id` only
    have htail : ∀ (cell : Cell) (lastError : Option Raised),
        counts (router.channel id) cell = counts (router.channel id) (state id) →
        routeGoesOn (router.channel id) (attempts id) (state id) = true →
        SameCounts router state (route router thread attempts rest lastError (Function.update state id cell)).1 := by
      intro cell lastError hcounts hgo other
      have hrestFree : RouteFree router thread attempts routeGoesOn state rest := hfree.2 hgo
      have hsame : SameCounts router (Function.update state id cell)
          (route router thread attempts rest lastError (Function.update state id cell)).1 :=
        ih (fun other hother => hwell other (List.mem_cons_of_mem _ hother)) hrest (hrestFree.update cell hnew)
      exact (hsame other).trans (SameCounts.update hcounts other)
    unfold route
    split
    · next cell error hacquire =>
      exact SameCounts.update (acquire_other hid hfree.1 hacquire (by simp)).1
    · next cell hacquire =>
      obtain ⟨hcounts, hgo⟩ := acquire_other hid hfree.1 hacquire (by simp)
      exact htail cell lastError hcounts (routeGoesOn_of_select (hgo rfl)).1
    · next acquired hacquire =>
      obtain ⟨hgrants, htaken⟩ := acquire_true hacquire
      have hback : ∀ {cell : Cell} {completed : Completed},
          complete (router.channel id) router.failureThreshold thread (attempts id) acquired = (cell, completed) →
          counts (router.channel id) cell = counts (router.channel id) (state id) := by
        intro cell completed hcomplete
        have hcounts := counts_complete (router.channel id) router.failureThreshold thread acquired hid
        rw [hcomplete, htaken] at hcounts
        exact hcounts.trans (returned_taken (counts (router.channel id) (state id)) (hfree.1 hgrants))
      split
      · next cell usage hcomplete => exact SameCounts.update (hback hcomplete)
      · next cell error hcomplete => exact SameCounts.update (hback hcomplete)
      · next cell error hcomplete =>
        obtain ⟨hcall, hstarted⟩ := complete_failedOver hcomplete
        refine htail cell (some error) (hback hcomplete) ?_
        rw [routeGoesOn, hcall]
        dsimp only
        rw [hstarted, Bool.not_false, Bool.or_true]

lemma selectFrom_counts {excluded : List String} {ids : List κ} {state : State κ}
    (hwell : ∀ id ∈ ids, (attempts id).WellBehaved) (hnodup : ids.Nodup)
    (hfree : RouteFree router thread attempts selectGoesOn state
      (ids.filter fun id => decide ((router.channel id).providerId ∉ excluded))) :
    (∃ state' id, selectFrom router thread excluded attempts ids state = (state', .selected id) ∧
      recorded (router.channel id) (state id) thread = 0 ∧
      counts (router.channel id) (state' id) = taken thread (counts (router.channel id) (state id)) ∧
      ∀ other ≠ id, counts (router.channel other) (state' other) = counts (router.channel other) (state other)) ∨
    ∃ state' error, selectFrom router thread excluded attempts ids state = (state', .raised error) ∧
      SameCounts router state state' := by
  induction ids generalizing state with
  | nil => exact .inr ⟨state, unavailable, rfl, fun id => rfl⟩
  | cons id rest ih =>
    obtain ⟨hnew, hrest⟩ := List.nodup_cons.mp hnodup
    have hwellRest : ∀ other ∈ rest, (attempts other).WellBehaved := fun other hother => hwell other (List.mem_cons_of_mem _ hother)
    unfold selectFrom
    by_cases hexcluded : (router.channel id).providerId ∈ excluded
    · rw [List.filter_cons_of_neg (by simpa using hexcluded)] at hfree
      rw [if_pos hexcluded]
      exact ih hwellRest hrest hfree
    · rw [List.filter_cons_of_pos (by simpa using hexcluded)] at hfree
      rw [if_neg hexcluded]
      split
      · next cell error hacquire =>
        have hcounts := (acquire_other (hwell id List.mem_cons_self) hfree.1 hacquire (by simp)).1
        exact .inr ⟨_, error, rfl, SameCounts.update hcounts⟩
      · next cell hacquire =>
        obtain ⟨hcounts, hgo⟩ := acquire_other (hwell id List.mem_cons_self) hfree.1 hacquire (by simp)
        have hrestFree : RouteFree router thread attempts selectGoesOn state
            (rest.filter fun id => decide ((router.channel id).providerId ∉ excluded)) :=
          hfree.2 (routeGoesOn_of_select (hgo rfl)).2
        have hsame : SameCounts router state (Function.update state id cell) := SameCounts.update hcounts
        obtain ⟨state', other, hselect, hnone, htaken, hothers⟩ | ⟨state', error, hselect, hcountsRest⟩ :=
          ih hwellRest hrest (hrestFree.update cell fun hmem => hnew (List.mem_of_mem_filter hmem))
        · refine .inl ⟨state', other, hselect, ?_, ?_, ?_⟩
          · have hrecorded := congrFun (congrArg Prod.snd (hsame other)) thread
            exact hrecorded.symm.trans hnone
          · rw [htaken, hsame other]
          · intro third hthird
            rw [hothers third hthird, hsame third]
        · exact .inr ⟨state', error, hselect, fun other => (hcountsRest other).trans (hsame other)⟩
      · next acquired hacquire =>
        obtain ⟨hgrants, htaken⟩ := acquire_true hacquire
        refine .inl ⟨_, id, rfl, hfree.1 hgrants, ?_, ?_⟩
        · rw [Function.update_self, htaken]
        · intro other hother
          rw [Function.update_of_ne hother]

lemma executeSticky_sameCounts {id : κ} {attempt : Attempt} {state : State κ} (hwell : attempt.WellBehaved)
    (hfree : grants (router.channel id) attempt (state id) = true → recorded (router.channel id) (state id) thread = 0) :
    SameCounts router state (executeSticky router thread id attempt state).1 := by
  unfold executeSticky
  split
  · next cell error hacquire => exact SameCounts.update (acquire_other hwell hfree hacquire (by simp)).1
  · next cell hacquire => exact SameCounts.update (acquire_other hwell hfree hacquire (by simp)).1
  · next acquired hacquire =>
    obtain ⟨hgrants, htaken⟩ := acquire_true hacquire
    have hcounts := counts_complete (router.channel id) router.failureThreshold thread acquired hwell
    rw [htaken, returned_taken _ (hfree hgrants)] at hcounts
    split
    · next cell usage hcomplete =>
      rw [hcomplete] at hcounts
      exact SameCounts.update hcounts
    · next cell error hcomplete =>
      rw [hcomplete] at hcounts
      exact SameCounts.update hcounts
    · next cell error hcomplete =>
      rw [hcomplete] at hcounts
      exact SameCounts.update hcounts

/-! ### Runs -/

/-- The router, and the selections that are not released yet. -/
abbrev Books (κ : Type) := State κ × List (Nat × κ)

/-- One call of a thread, and what it means for the selections. -/
def step (router : Router κ) (books : Books κ) (turn : Nat × Op κ) : Books κ :=
  let (state, outcome) := call router turn.1 books.1 turn.2
  match turn.2, outcome with
  | .selectChannel _ _, .selected id => (state, (turn.1, id) :: books.2)
  | .releaseChannel id _ _ _ _, _ => (state, books.2.erase (turn.1, id))
  | _, _ => (state, books.2)

def opening : Books κ := (fun _ => {}, [])

/-- What the selections that are not released account for at a channel. -/
def uses (selections : List (Nat × κ)) (id : κ) : Nat × (Nat → Nat) :=
  (selections.countP fun selection => selection.2 = id, fun thread => selections.count (thread, id))

/-- Permits and notes of every channel are those of its selections. -/
def Balanced (router : Router κ) (books : Books κ) : Prop :=
  ∀ id, counts (router.channel id) (books.1 id) = uses books.2 id

/-- Nothing is raised where a permit is kept, a reservation is noted only where the thread has no selection, and a selection is
released by its own thread. -/
def Unspoiled (router : Router κ) (books : Books κ) (turn : Nat × Op κ) : Prop :=
  let free := fun id => (turn.1, id) ∉ books.2
  match turn.2 with
  | .execute attempts | .analyzeIsolated attempts =>
    (∀ id ∈ router.channels, (attempts id).WellBehaved) ∧
      FreeAlong (fun id => routeGoesOn (router.channel id) (attempts id) (books.1 id))
        (fun id => grants (router.channel id) (attempts id) (books.1 id)) free router.channels
  | .executeSticky id attempt =>
    attempt.WellBehaved ∧ (grants (router.channel id) attempt (books.1 id) = true → free id)
  | .selectChannel excluded attempts =>
    (∀ id ∈ router.channels, (attempts id).WellBehaved) ∧
      FreeAlong (fun id => selectGoesOn (router.channel id) (attempts id) (books.1 id))
        (fun id => grants (router.channel id) (attempts id) (books.1 id)) free
        (router.channels.filter fun id => decide ((router.channel id).providerId ∉ excluded))
  | .releaseChannel id _ error _ _ =>
    (∀ e, error = some e → e.retryAfter.read ≠ none) ∧ ((turn.1, id) ∈ books.2 ∨ (books.1 id).taken = 0)

lemma recorded_le_one (channel : Channel) (cell : Cell) (thread : Nat) : recorded channel cell thread ≤ 1 := by
  unfold recorded
  split
  · exact Bool.toNat_le _
  · exact Bool.toNat_le _

lemma uses_cons_self {selections : List (Nat × κ)} {id : κ} (h : selections.count (thread, id) = 0) :
    uses ((thread, id) :: selections) id = taken thread (uses selections id) := by
  refine Prod.ext (by simp [uses, taken]) ?_
  funext other
  change ((thread, id) :: selections).count (other, id) = Function.update (fun thread => selections.count (thread, id)) thread 1 other
  rw [Function.update_apply]
  by_cases hother : other = thread
  · rw [if_pos hother, hother, List.count_cons_self, h]
  · rw [if_neg hother, List.count_cons_of_ne (by simp [Ne.symm hother])]

lemma uses_cons_ne {selections : List (Nat × κ)} {id other : κ} (h : other ≠ id) :
    uses ((thread, id) :: selections) other = uses selections other := by
  refine Prod.ext (by simp [uses, h.symm]) ?_
  funext third
  exact List.count_cons_of_ne (by simp [h.symm])

lemma uses_erase_self {selections : List (Nat × κ)} {id : κ} (h : (thread, id) ∈ selections)
    (hone : selections.count (thread, id) ≤ 1) :
    uses (selections.erase (thread, id)) id = returned thread (uses selections id) := by
  refine Prod.ext ?_ ?_
  · change (selections.erase (thread, id)).countP _ = selections.countP _ - 1
    rw [List.countP_erase, if_pos ⟨h, by simp⟩]
  · funext other
    change (selections.erase (thread, id)).count (other, id) =
      Function.update (fun thread => selections.count (thread, id)) thread 0 other
    rw [Function.update_apply]
    by_cases hother : other = thread
    · rw [if_pos hother, hother, List.count_erase_self]
      omega
    · rw [if_neg hother, List.count_erase_of_ne (by simp [hother])]

lemma uses_erase_ne {selections : List (Nat × κ)} {id other : κ} (h : other ≠ id) :
    uses (selections.erase (thread, id)) other = uses selections other := by
  refine Prod.ext ?_ ?_
  · change (selections.erase (thread, id)).countP _ = selections.countP _
    rw [List.countP_erase, if_neg (by simp [h.symm]), Nat.sub_zero]
  · funext third
    exact List.count_erase_of_ne (by simp [h])

lemma Balanced.recorded_eq {books : Books κ} (h : Balanced router books) (id : κ) (thread : Nat) :
    recorded (router.channel id) (books.1 id) thread = books.2.count (thread, id) :=
  congrFun (congrArg Prod.snd (h id)) thread

/-- Where the thread has no selection, it has nothing noted. -/
lemma Balanced.routeFree {books : Books κ} {goesOn : Channel → Attempt → Cell → Bool} {ids : List κ} (h : Balanced router books)
    (hfree : FreeAlong (fun id => goesOn (router.channel id) (attempts id) (books.1 id))
      (fun id => grants (router.channel id) (attempts id) (books.1 id)) (fun id => (thread, id) ∉ books.2) ids) :
    RouteFree router thread attempts goesOn books.1 ids :=
  hfree.congr fun id _ => ⟨rfl, rfl, fun hnone => (h.recorded_eq id thread).trans (List.count_eq_zero.mpr hnone)⟩

lemma Balanced.same {books : Books κ} {state : State κ} (h : Balanced router books) (hsame : SameCounts router books.1 state) :
    Balanced router (state, books.2) :=
  fun id => (hsame id).trans (h id)

lemma step_release (router : Router κ) (books : Books κ) (thread : Nat) (id : κ) (usage : Option Usage) (error : Option Raised)
    (now : ℚ) (quotaRelease : Option Raised) :
    step router books (thread, .releaseChannel id usage error now quotaRelease) =
      (Function.update books.1 id (releaseChannel (router.channel id) router.failureThreshold thread usage error now
        quotaRelease (books.1 id)).1, books.2.erase (thread, id)) := by
  unfold step call
  dsimp only
  cases releaseChannel (router.channel id) router.failureThreshold thread usage error now quotaRelease (books.1 id) with
  | mk cell failure =>
    cases failure with
    | none => rfl
    | some failure => rfl

lemma balanced_release {books : Books κ} {id : κ} {usage : Option Usage} {error : Option Raised} {now : ℚ}
    {quotaRelease : Option Raised} (h : Balanced router books)
    (hunspoiled : Unspoiled router books (thread, .releaseChannel id usage error now quotaRelease)) :
    Balanced router (step router books (thread, .releaseChannel id usage error now quotaRelease)) := by
  obtain ⟨hread, hown⟩ := hunspoiled
  rw [step_release]
  intro other
  by_cases hother : other = id
  · rw [hother]
    dsimp only
    rw [Function.update_self, counts_releaseChannel hread, h id]
    have hone : books.2.count (thread, id) ≤ 1 := h.recorded_eq id thread ▸ recorded_le_one _ _ _
    by_cases hmem : (thread, id) ∈ books.2
    · rw [uses_erase_self hmem hone]
    · -- nothing is out at this channel, so nothing can be given back
      have hidle : (books.1 id).taken = 0 := hown.resolve_left hmem
      have hpermits : (uses books.2 id).1 = 0 := (congrArg Prod.fst (h id)).symm.trans hidle
      rw [List.erase_of_not_mem hmem]
      refine Prod.ext ?_ (funext fun third => ?_)
      · rw [returned, hpermits]
      · change Function.update (uses books.2 id).2 thread 0 third = (uses books.2 id).2 third
        rw [Function.update_apply]
        split
        · next hthird => exact hthird ▸ (List.count_eq_zero.mpr hmem).symm
        · rfl
  · dsimp only
    rw [Function.update_of_ne hother, h other, uses_erase_ne hother]

/-- What one call preserves. -/
theorem step_balanced {books : Books κ} {turn : Nat × Op κ} (h : Balanced router books)
    (hunspoiled : Unspoiled router books turn) : Balanced router (step router books turn) := by
  obtain ⟨thread, op⟩ := turn
  cases op with
  | execute attempts => exact h.same (route_sameCounts hunspoiled.1 router.distinct (h.routeFree hunspoiled.2))
  | analyzeIsolated attempts => exact h.same (route_sameCounts hunspoiled.1 router.distinct (h.routeFree hunspoiled.2))
  | executeSticky id attempt =>
    refine h.same (executeSticky_sameCounts hunspoiled.1 fun hgrants => ?_)
    exact (h.recorded_eq id thread).trans (List.count_eq_zero.mpr (hunspoiled.2 hgrants))
  | selectChannel excluded attempts =>
    obtain ⟨state, id, hselect, hnone, htaken, hothers⟩ | ⟨state, error, hselect, hsame⟩ :=
      selectFrom_counts hunspoiled.1 router.distinct (h.routeFree hunspoiled.2)
    · have hstep : step router books (thread, .selectChannel excluded attempts) = (state, (thread, id) :: books.2) := by
        dsimp only at hselect
        unfold step call selectChannel
        dsimp only
        rw [hselect]
      rw [hstep]
      intro other
      by_cases hother : other = id
      · rw [hother]
        have hcount : books.2.count (thread, id) = 0 := (h.recorded_eq id thread).symm.trans hnone
        rw [uses_cons_self hcount, htaken, h id]
      · rw [uses_cons_ne hother, hothers other hother, h other]
    · have hstep : step router books (thread, .selectChannel excluded attempts) = (state, books.2) := by
        dsimp only at hselect
        unfold step call selectChannel
        dsimp only
        rw [hselect]
      rw [hstep]
      exact h.same hsame
  | releaseChannel id usage error now quotaRelease => exact balanced_release h hunspoiled

lemma opening_balanced (router : Router κ) : Balanced router opening := by
  intro id
  refine Prod.ext rfl (funext fun thread => ?_)
  change recorded (router.channel id) {} thread = 0
  unfold recorded
  split
  · rfl
  · rfl

/-- In a run without a spoiling call, permits and notes are those of the selections after every call. -/
theorem permits_balanced (router : Router κ) (turns : List (Nat × Op κ))
    (h : Runs.Along (step router) (Unspoiled router) opening turns) : Balanced router (Runs.run (step router) opening turns) :=
  Runs.invariant_of_along (fun _ _ => step_balanced) (opening_balanced router) h

end

/-- One channel with a shared quota. -/
def oneShared : Router Unit where
  channels := [()]
  distinct := by decide
  channel := fun _ => { sharedQuota := true }

/-- A selection, a request on the second permit by another thread, and the release. -/
def selectedAndReleased : List (Nat × Op Unit) :=
  [(0, .selectChannel [] fun _ => { quotaAcquire := .ok (some 1) }),
    (1, .execute fun _ => { quotaAcquire := .ok (some 2), call := .error {}, quotaRelease := some {} }),
    (0, .releaseChannel () none none 0 none)]

theorem permits_balanced_selectedAndReleased :
    Runs.Along (step oneShared) (Unspoiled oneShared) opening selectedAndReleased ∧
      Balanced oneShared (Runs.run (step oneShared) opening selectedAndReleased) := by
  have hunspoiled : Runs.Along (step oneShared) (Unspoiled oneShared) opening selectedAndReleased := by
    refine ⟨⟨fun _ _ => ⟨by simp, rfl, by simp, by simp⟩, fun _ => by decide, fun _ => trivial⟩,
      ⟨fun _ _ => ⟨by simp, rfl, by simp, ?_⟩, fun _ => by decide, fun _ => trivial⟩, ⟨by simp, .inl (by decide)⟩, trivial⟩
    rintro error ⟨⟩
    exact ⟨rfl, by simp [RetryAfter.read]⟩
  exact ⟨hunspoiled, permits_balanced oneShared selectedAndReleased hunspoiled⟩

/-- The shared quota raises, and the permit is not given back. -/
theorem failed_reservation_keeps_permit :
    ¬ Balanced oneShared (Runs.run (step oneShared) opening [(0, .selectChannel [] fun _ => { quotaAcquire := .error {} })]) := by
  intro h
  have hpermits := congrArg Prod.fst (h ())
  revert hpermits
  decide

end InkTime.Providers
