import InkTime.Budget.Cap

/-!
# Honest steps

What a step of an honest run does, what the checks of a reservation say, and that the tables stay sane.
-/

namespace InkTime.Budget

open Ledger (Usage Receipt)

/-! ### Ledger calls -/

/-- A ledger call appends a row or leaves the ledger as it is. -/
lemma record_usage {db db' : Ledger.Db} {receipt : Receipt} {id : Nat} (h : Ledger.record .exact db receipt = .ok (db', id)) :
    db' = db ∨ (db'.usage = db.usage.append (Ledger.usageOf receipt receipt.actualCost) ∧ db'.archive = db.archive) := by
  unfold Ledger.record at h
  split at h
  · exact .inl (Prod.mk.inj (Except.ok.inj h)).1.symm
  · obtain ⟨-, -, h⟩ := Checked.bind_eq_ok.mp h
    obtain ⟨rfl, -⟩ := Prod.mk.inj (Except.ok.inj h)
    exact .inr (Ledger.appendUsage_usage _ _ _)

lemma recordBatchOnce_usage {db db' : Ledger.Db} {receipt : Receipt} {batchItemId : String} {stored : Bool}
    (h : Ledger.recordBatchOnce .exact db receipt batchItemId = .ok (db', stored)) :
    db' = db ∨ (∃ row : Usage, db'.usage = db.usage.append row ∧ row.jobId = receipt.jobId ∧ row.photoId = receipt.photoId ∧
      row.startedAt = receipt.startedAt ∧ row.knownCost = knownCost receipt true ∧ db'.archive = db.archive) := by
  unfold Ledger.recordBatchOnce at h
  dsimp only at h
  split at h
  · exact .inl (Prod.mk.inj (Except.ok.inj h)).1.symm
  · obtain ⟨-, -, h⟩ := Checked.bind_eq_ok.mp h
    obtain ⟨rfl, -⟩ := Prod.mk.inj (Except.ok.inj h)
    obtain ⟨husage, harchive⟩ := Ledger.appendUsage_usage db { receipt with operationId := none, batchItemId := some batchItemId }
      (Ledger.usageOf { receipt with operationId := none, batchItemId := some batchItemId } (receipt.actualCost.map (max 0)))
    exact .inr ⟨_, husage, rfl, rfl, rfl, rfl, harchive⟩

/-- A call that stored nothing charges nothing. -/
lemma charge_self (db : Db) (id : String) (cost : ℚ) (evidence : Evidence) : charge db db.ledger id cost evidence = db := by
  simp [charge]

/-! ### Effects -/

section Effects

variable (settings : Settings) (calendar : Calendar) (budgetLimit : String → Option ℚ)

/-- What an honest step does. -/
inductive Effect (w : World) (act : Act) : World → Prop where
  | idle {clock : Nat} (h : w.clock ≤ clock) : Effect w act { w with clock }
  | reserved {request : Request} {answer : Answer} {reservation : Reservation}
      (hfresh : w.db.reservations.find reservation.id = none) (hnow : reservation.createdAt = w.clock)
      (hused : reservation.used = 0) (hamount : 0 ≤ reservation.amount) (hrequest : request.amount = reservation.amount)
      (hjob : request.jobId = reservation.jobId) (hphoto : request.photoId = reservation.photoId)
      (hlane : answer.dedicated = false)
      (hpassed : refusal settings (snapshot settings calendar budgetLimit w.db w.clock request.jobId request.photoId) request
        answer = none) :
      Effect w act { w with db := { w.db with reservations := w.db.reservations.add reservation } }
  | charged {ledger : Ledger.Db} {row : Usage} {reservationId : String} {evidence : Evidence}
      (husage : ledger.usage = w.db.ledger.usage.append row) (harchive : ledger.archive = w.db.ledger.archive)
      (hcovered : covered w reservationId row.jobId row.startedAt row.knownCost = true)
      (hnames : ∀ meter : Meter, meter.names w act = true → meter.covers row.jobId row.photoId = true →
        (w.db.reservations.find reservationId).any (fun reservation => meter.covers reservation.jobId reservation.photoId) = true) :
      Effect w act { w with db := charge w.db ledger reservationId row.knownCost evidence }
  | released (reservationId : String) : Effect w act { w with db := release w.db reservationId }

variable {settings calendar budgetLimit}

lemma Effect.same (w : World) (act : Act) : Effect settings calendar budgetLimit w act w := Effect.idle le_rfl

theorem reserve_effect {w : World} {request : Request} {answer : Answer} {db : Db}
    (hhonest : honest w (.reserve request answer) = true)
    (h : reserve settings calendar budgetLimit w.db w.clock request answer = .ok db) :
    Effect settings calendar budgetLimit w (.reserve request answer) { w with db } := by
  simp only [honest, Bool.and_eq_true, Option.isNone_iff_eq_none, Bool.not_eq_true'] at hhonest
  obtain ⟨hfresh, hlane⟩ := hhonest
  unfold reserve at h
  split at h
  · cases h
  · split at h
    · cases h
    · next hamount =>
      split at h
      · obtain rfl := Except.ok.inj h
        exact Effect.same w _
      · split at h
        · cases h
        · cases h
        · next hpassed =>
          obtain rfl := Except.ok.inj h
          rw [enter, hfresh]
          exact Effect.reserved hfresh rfl rfl (not_lt.mp hamount) rfl rfl rfl hlane hpassed

theorem step_effect {w : World} {act : Act} (h : honest w act = true) :
    Effect settings calendar budgetLimit w act (step settings calendar budgetLimit w act) := by
  cases act with
  | tick now => exact Effect.idle (le_max_left _ _)
  | reserve request answer =>
    simp only [step]
    split
    · next hreserve => exact reserve_effect h hreserve
    · exact Effect.same w _
  | record reservationId receipt evidence =>
    simp only [step]
    split
    · next ledger id hrecord =>
      obtain rfl | ⟨husage, harchive⟩ := record_usage hrecord
      · rw [charge_self]
        exact Effect.same w _
      · refine Effect.charged husage harchive h ?_
        intro meter hnames hcovers
        exact (Bool.or_eq_true _ _ ▸ hnames).resolve_left (by simpa [Ledger.usageOf] using hcovers)
    · exact Effect.same w _
  | recordBatchOnce reservationId receipt batchItemId evidence =>
    simp only [step]
    split
    · next ledger stored hrecord =>
      obtain rfl | ⟨row, husage, hjob, hphoto, hstarted, hcost, harchive⟩ := recordBatchOnce_usage hrecord
      · rw [charge_self]
        exact Effect.same w _
      · rw [← hcost]
        refine Effect.charged husage harchive ?_ ?_
        · rw [hjob, hstarted, hcost]
          exact h
        · intro meter hnames hcovers
          rw [hjob, hphoto] at hcovers
          exact (Bool.or_eq_true _ _ ▸ hnames).resolve_left (by simpa using hcovers)
    · exact Effect.same w _
  | release reservationId => exact Effect.released reservationId

end Effects

/-! ### Sanity -/

section Sanity

variable {settings : Settings} {calendar : Calendar} {budgetLimit : String → Option ℚ} {w : World}

lemma sane_charge (h : Sane w) {ledger : Ledger.Db} {row : Usage} {reservationId : String} {evidence : Evidence}
    (husage : ledger.usage = w.db.ledger.usage.append row) (harchive : ledger.archive = w.db.ledger.archive)
    (hcovered : covered w reservationId row.jobId row.startedAt row.knownCost = true) :
    Sane { w with db := charge w.db ledger reservationId row.knownCost evidence } := by
  obtain ⟨reservation, hmem, hfound, hid, -, -, -, hstarted, hcost, hused⟩ := covered_iff hcovered
  have hgrew : ¬ledger.usage.lastId = w.db.ledger.usage.lastId := by
    rw [husage]
    exact Nat.succ_ne_self _
  have hledger : (charge w.db ledger reservationId row.knownCost evidence).ledger = ledger := by simp [charge, hgrew]
  have hrows : ∀ usage ∈ ledger.usage.rows,
      usage ∈ w.db.ledger.usage.rows ∨ usage = { row with id := w.db.ledger.usage.lastId + 1 } := by
    intro usage hmem
    rw [husage] at hmem
    exact Ledger.mem_append.mp hmem
  refine ⟨?_, ?_, ?_, ?_⟩
  · intro other hother
    simp only [charge, hgrew, if_false] at hother
    obtain ⟨before, hbefore, rfl⟩ := Table.mem_update.mp hother
    obtain ⟨hnonneg, hle⟩ := h.used before hbefore
    unfold Table.revise
    split
    · next hmatch =>
      have hsame : before = reservation := Table.eq_of_key_eq hbefore hmem ((beq_iff_eq.mp hmatch).trans hid.symm)
      subst hsame
      exact ⟨add_nonneg hnonneg hcost, hused⟩
    · exact ⟨hnonneg, hle⟩
  · intro usage hmem
    rw [hledger] at hmem
    obtain hmem | rfl := hrows usage hmem
    · exact h.started usage hmem
    · exact hstarted
  · intro usage hmem
    rw [hledger] at hmem
    obtain hmem | rfl := hrows usage hmem
    · exact h.cost usage hmem
    · exact hcost
  · rw [hledger, harchive]
    exact h.archive

theorem Effect.sane {act : Act} {w' : World} (heffect : Effect settings calendar budgetLimit w act w') (h : Sane w) :
    Sane w' := by
  cases heffect with
  | idle hclock => exact { h with started := fun usage husage => (h.started usage husage).trans hclock }
  | reserved hfresh hnow hused hamount =>
    refine { h with used := ?_ }
    intro other hother
    obtain hold | ⟨rfl, -⟩ := Table.mem_add hother
    · exact h.used other hold
    · rw [hused]
      exact ⟨le_rfl, hamount⟩
  | charged husage harchive hcovered => exact sane_charge h husage harchive hcovered
  | released reservationId =>
    have hkey : ∀ reservation : Reservation, ({ reservation with active := false } : Reservation).id = reservation.id :=
      fun _ => rfl
    refine { h with used := ?_ }
    intro other hother
    obtain ⟨before, hbefore, rfl⟩ := (@Table.mem_update _ _ _ _ _ _ hkey _).mp hother
    unfold Table.revise
    split
    · exact h.used before hbefore
    · exact h.used before hbefore

lemma start_sane (jobs : Jobs.Db) : Sane (World.start jobs) where
  used := fun _ h => absurd h List.not_mem_nil
  started := fun _ h => absurd h List.not_mem_nil
  cost := fun _ h => absurd h List.not_mem_nil
  archive := rfl

end Sanity

end InkTime.Budget
