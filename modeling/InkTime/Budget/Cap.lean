import InkTime.Budget.Model
import InkTime.Ledger.Spending

/-!
# The caps hold

A meter counts the known costs of some requests by period. What it has counted and what active reservations may still
add to a period stays under the cap: a reservation is checked against all active ones, its request starts no earlier
than it was made, and what is recorded for it no longer counts as reserved.
-/

namespace InkTime.Budget

open Ledger (Usage CostSource Receipt)

/-! ### Meters -/

/-- `covers` says which jobs and photos it counts, `index` the period of an instant. -/
structure Meter where
  covers : Option String → Option String → Bool
  index : Nat → Nat
  mono : Monotone index

namespace Meter

variable (meter : Meter)

/-- The known cost of the usage rows that started in the period. -/
def known (db : Db) (period : Nat) : ℚ :=
  db.ledger.usage.rows.total fun usage =>
    if meter.covers usage.jobId usage.photoId && meter.index usage.startedAt == period then usage.knownCost else 0

/-- What a reservation made up to the period may still cost. -/
def share (period : Nat) (reservation : Reservation) : ℚ :=
  if reservation.active && meter.covers reservation.jobId reservation.photoId && decide (meter.index reservation.createdAt ≤ period)
  then reservation.amount - reservation.used else 0

def held (db : Db) (period : Nat) : ℚ := db.reservations.total (meter.share period)

/-- All that is reserved. -/
def pledged (db : Db) : ℚ :=
  reserved db fun reservation => meter.covers reservation.jobId reservation.photoId

def Within (cap : ℚ) (w : World) : Prop := ∀ period, meter.known w.db period + meter.held w.db period ≤ cap

end Meter

/-! ### Honest runs -/

/-- The answer belongs to a request that was sent under the reservation: for its job, after it was made and before it is
released, with a cost it covers. -/
def covered (w : World) (reservationId : String) (jobId : Option String) (startedAt : Nat) (cost : ℚ) : Bool :=
  (w.db.reservations.find reservationId).any fun reservation => reservation.active && reservation.jobId == jobId &&
    decide (reservation.createdAt ≤ startedAt) && decide (startedAt ≤ w.clock) && decide (0 ≤ cost) &&
    decide (reservation.used + cost ≤ reservation.amount)

def honest (w : World) : Act → Bool
  | .reserve request answer => (w.db.reservations.find request.id).isNone && !answer.dedicated
  | .record reservationId receipt _ => covered w reservationId receipt.jobId receipt.startedAt (knownCost receipt false)
  | .recordBatchOnce reservationId receipt _ _ =>
    covered w reservationId receipt.jobId receipt.startedAt (knownCost receipt true)
  | _ => true

/-- What the meter counts was reserved for it. -/
def Meter.names (meter : Meter) (w : World) : Act → Bool
  | .record reservationId receipt _ | .recordBatchOnce reservationId receipt _ _ =>
    !meter.covers receipt.jobId receipt.photoId ||
      (w.db.reservations.find reservationId).any fun reservation => meter.covers reservation.jobId reservation.photoId
  | _ => true

/-- What the tables show in honest runs. -/
structure Sane (w : World) : Prop where
  used : ∀ reservation ∈ w.db.reservations, 0 ≤ reservation.used ∧ reservation.used ≤ reservation.amount
  started : ∀ usage ∈ w.db.ledger.usage.rows, usage.startedAt ≤ w.clock
  cost : ∀ usage ∈ w.db.ledger.usage.rows, 0 ≤ usage.knownCost
  archive : w.db.ledger.archive = .empty

section Sums

variable {meter : Meter} {w : World}

lemma held_le_pledged (h : Sane w) (period : Nat) : meter.held w.db period ≤ meter.pledged w.db := by
  apply Table.total_le_total
  intro reservation hreservation
  obtain ⟨hused, hamount⟩ := h.used reservation hreservation
  unfold Meter.share
  split
  · next hcounts =>
    simp only [Bool.and_eq_true] at hcounts
    rw [if_pos (by simp [hcounts.1.1, hcounts.1.2])]
    linarith
  · split
    · linarith
    · exact le_rfl

lemma known_nonneg (h : Sane w) (period : Nat) : 0 ≤ meter.known w.db period := by
  have hzero : (0 : ℚ) = w.db.ledger.usage.rows.total fun _ => (0 : ℚ) := by simp [Table.total]
  rw [hzero]
  apply Table.total_le_total
  intro usage husage
  split
  · exact h.cost usage husage
  · exact le_rfl

/-- Nothing has started in a period to come. -/
lemma known_future (h : Sane w) {period : Nat} (hfuture : meter.index w.clock < period) : meter.known w.db period = 0 := by
  have hzero : meter.known w.db period = w.db.ledger.usage.rows.total fun _ => (0 : ℚ) := by
    apply Table.total_congr
    intro usage husage
    have hindex := meter.mono (h.started usage husage)
    rw [if_neg]
    simp only [Bool.and_eq_true, beq_iff_eq, not_and]
    omega
  rw [hzero]
  simp [Table.total]

end Sums

/-! ### Steps -/

section Steps

variable {meter : Meter} {cap : ℚ} {w : World}

/-- A reservation that passed its check stays within the cap in every period. -/
theorem within_reserve (h : meter.Within cap w) (hsane : Sane w) {reservation : Reservation}
    (hfresh : w.db.reservations.find reservation.id = none) (hnow : reservation.createdAt = w.clock)
    (hused : reservation.used = 0)
    (hcheck : meter.covers reservation.jobId reservation.photoId = true →
      meter.known w.db (meter.index w.clock) + meter.pledged w.db + reservation.amount ≤ cap) :
    meter.Within cap { w with db := { w.db with reservations := w.db.reservations.add reservation } } := by
  obtain ⟨table, hinsert⟩ := Table.exists_insert hfresh
  intro period
  have hheld : meter.held { w.db with reservations := w.db.reservations.add reservation } period =
      meter.held w.db period + meter.share period reservation := by
    rw [Meter.held, Table.add, hinsert]
    exact Table.total_insert hinsert _
  change meter.known w.db period + meter.held { w.db with reservations := w.db.reservations.add reservation } period ≤ cap
  rw [hheld, Meter.share]
  split
  · next hcounts =>
    simp only [Bool.and_eq_true, decide_eq_true_eq, hnow] at hcounts
    have hcheck := hcheck hcounts.1.2
    have hpledged : meter.held w.db period ≤ meter.pledged w.db := held_le_pledged hsane period
    rw [hused]
    obtain heq | hlt := eq_or_lt_of_le hcounts.2
    · rw [← heq] at hpledged ⊢
      linarith
    · rw [known_future hsane hlt]
      have hnonneg : 0 ≤ meter.known w.db (meter.index w.clock) := known_nonneg hsane _
      linarith
  · have hbefore := h period
    linarith

/-- The reservation of an answer that is recorded. -/
lemma covered_iff {reservationId : String} {jobId : Option String} {startedAt : Nat} {cost : ℚ}
    (h : covered w reservationId jobId startedAt cost = true) :
    ∃ reservation ∈ w.db.reservations, w.db.reservations.find reservationId = some reservation ∧ reservation.id = reservationId ∧
      reservation.active = true ∧ reservation.jobId = jobId ∧ reservation.createdAt ≤ startedAt ∧ startedAt ≤ w.clock ∧ 0 ≤ cost ∧
      reservation.used + cost ≤ reservation.amount := by
  unfold covered at h
  cases hfound : w.db.reservations.find reservationId with
  | none =>
    rw [hfound] at h
    cases h
  | some reservation =>
    rw [hfound, Option.any_some] at h
    simp only [Bool.and_eq_true, decide_eq_true_eq, beq_iff_eq] at h
    obtain ⟨⟨⟨⟨⟨hactive, hjob⟩, hcreated⟩, hstarted⟩, hcost⟩, hused⟩ := h
    obtain ⟨hmem, hid⟩ := Table.find_eq_some hfound
    exact ⟨reservation, hmem, rfl, hid, hactive, hjob, hcreated, hstarted, hcost, hused⟩

/-- What is recorded no longer counts as reserved. -/
theorem within_charge (h : meter.Within cap w) {ledger : Ledger.Db} {row : Usage} {reservationId : String} {evidence : Evidence}
    (husage : ledger.usage = w.db.ledger.usage.append row)
    (hcovered : covered w reservationId row.jobId row.startedAt row.knownCost = true)
    (hnames : meter.covers row.jobId row.photoId = true →
      (w.db.reservations.find reservationId).any (fun reservation => meter.covers reservation.jobId reservation.photoId) = true) :
    meter.Within cap { w with db := charge w.db ledger reservationId row.knownCost evidence } := by
  obtain ⟨reservation, hmem, hfound, hid, hactive, -, hcreated, -, hcost, -⟩ := covered_iff hcovered
  rw [hfound, Option.any_some] at hnames
  have hgrew : ¬ledger.usage.lastId = w.db.ledger.usage.lastId := by
    rw [husage]
    exact Nat.succ_ne_self _
  have hkey : ∀ reservation : Reservation,
      ({ reservation with used := reservation.used + row.knownCost } : Reservation).id = reservation.id := fun _ => rfl
  intro period
  have hbefore := h period
  have hknown : meter.known (charge w.db ledger reservationId row.knownCost evidence) period = meter.known w.db period +
      if meter.covers row.jobId row.photoId && meter.index row.startedAt == period then row.knownCost else 0 := by
    rw [charge, if_neg hgrew]
    simp only [Meter.known, husage]
    rw [Ledger.append_total]
    rfl
  have hmatching : ∀ other : Reservation, (other.id == reservationId) = true ↔ other.id = reservation.id := by
    intro other
    rw [hid]
    exact beq_iff_eq
  have hheld : meter.held (charge w.db ledger reservationId row.knownCost evidence) period + meter.share period reservation =
      meter.held w.db period + meter.share period { reservation with used := reservation.used + row.knownCost } := by
    rw [charge, if_neg hgrew]
    exact Table.total_update_one hmem hmatching hkey (meter.share period)
  change meter.known (charge w.db ledger reservationId row.knownCost evidence) period +
    meter.held (charge w.db ledger reservationId row.knownCost evidence) period ≤ cap
  rw [hknown]
  simp only [Meter.share, hactive, Bool.true_and] at hheld
  by_cases hcounts : (meter.covers row.jobId row.photoId && meter.index row.startedAt == period) = true
  · -- the request started after its reservation was made, so the reservation counts in the period
    rw [if_pos hcounts]
    rw [Bool.and_eq_true, beq_iff_eq] at hcounts
    have hindex : meter.index reservation.createdAt ≤ period := hcounts.2 ▸ meter.mono hcreated
    rw [if_pos (by simp [hnames hcounts.1, hindex]), if_pos (by simp [hnames hcounts.1, hindex])] at hheld
    linarith
  · rw [if_neg hcounts]
    split at hheld
    · linarith
    · linarith

/-- A release only takes away. -/
theorem within_release (h : meter.Within cap w) (hsane : Sane w) (reservationId : String) :
    meter.Within cap { w with db := release w.db reservationId } := by
  intro period
  refine le_trans ?_ (h period)
  refine add_le_add le_rfl ?_
  have hkey : ∀ reservation : Reservation, ({ reservation with active := false } : Reservation).id = reservation.id :=
    fun _ => rfl
  refine Table.total_update_le hkey ?_
  intro reservation hreservation _
  obtain ⟨-, hamount⟩ := hsane.used reservation hreservation
  simp only [Meter.share, Bool.false_and, Bool.false_eq_true, if_false]
  split
  · linarith
  · exact le_rfl

end Steps

end InkTime.Budget
