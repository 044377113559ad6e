import InkTime.Firmware.WakeCycle

/-!
# Retry plans in machine words

`buildOfflineRetryPlan` and what it calls, over the 64-bit types of the firmware. The bodies are written once over what an
unsigned subtraction does: the machine wraps around, and `subtractExactly` has no value where it would. The plans of
`WakeCycle`, over natural numbers, are what these compute for the epochs a wake passes.
-/

namespace InkTime.Firmware.RetryPlan

def kOfflineRetryFirstSeconds : UInt64 := 15 * 60

def kOfflineRetrySecondSeconds : UInt64 := 30 * 60

def kOfflineRetryMaximumSeconds : UInt64 := 60 * 60

def kOfflineRetryMaximumHorizonSeconds : UInt64 := 7 * 24 * 60 * 60

def offlineRetryFallbackSeconds (attempt : UInt8) : UInt64 :=
  if attempt = 0 then kOfflineRetryFirstSeconds
  else if attempt = 1 then kOfflineRetrySecondSeconds
  else kOfflineRetryMaximumSeconds

structure OfflineRetryPlan where
  sleepUntilEpoch : UInt64
  nextAttempt : UInt8
  serverProvided : Bool
  deriving DecidableEq

/-! ### Bodies -/

section Bodies

variable {m : Type → Type} [Monad m] (subtract : UInt64 → UInt64 → m UInt64)

/-- A `nextSlotEpoch` of zero says that there is no next slot. -/
def validOfflineRetryEpochWith (nowEpoch : UInt64) (retryEpoch nextSlotEpoch : Int64) : m Bool :=
  if nextSlotEpoch < 0 then pure false
  else if retryEpoch ≤ nowEpoch.toInt64 then pure false
  else do
    let ahead ← subtract retryEpoch.toUInt64 nowEpoch
    if ahead > kOfflineRetryMaximumHorizonSeconds then return false
    else if nextSlotEpoch > 0 ∧ (nextSlotEpoch ≤ nowEpoch.toInt64 ∨ retryEpoch ≥ nextSlotEpoch) then return false
    else return true

def safeDeadlineWith (nextSlotEpoch : UInt64) : m UInt64 :=
  if nextSlotEpoch > 60 then subtract nextSlotEpoch 60 else pure 0

/-- The fallback, moved before the next slot where it would cross it. -/
def beforeNextSlotWith (nowEpoch : UInt64) (nextSlotEpoch : Int64) (fallback : UInt64) : m UInt64 :=
  if nextSlotEpoch > nowEpoch.toInt64 ∧ fallback ≥ nextSlotEpoch.toUInt64 then do
    let safeDeadline ← safeDeadlineWith subtract nextSlotEpoch.toUInt64
    if safeDeadline > nowEpoch ∧ safeDeadline < nextSlotEpoch.toUInt64 then return safeDeadline
    else if nextSlotEpoch.toUInt64 > nowEpoch + 1 then subtract nextSlotEpoch.toUInt64 1
    else return fallback
  else pure fallback

def buildOfflineRetryPlanWith (nowEpoch : UInt64) (attempt : UInt8) (serverRetryEpoch nextSlotEpoch : Int64) :
    m OfflineRetryPlan := do
  if ← validOfflineRetryEpochWith subtract nowEpoch serverRetryEpoch nextSlotEpoch then
    return ⟨serverRetryEpoch.toUInt64, 0, true⟩
  else
    let boundedAttempt : UInt8 := if attempt > 2 then 2 else attempt
    let nextAttempt : UInt8 := if boundedAttempt ≥ 2 then 2 else boundedAttempt + 1
    let fallback ← beforeNextSlotWith subtract nowEpoch nextSlotEpoch (nowEpoch + offlineRetryFallbackSeconds boundedAttempt)
    return ⟨fallback, nextAttempt, false⟩

end Bodies

/-! ### The machine, and subtractions that must not wrap -/

def subtractWrapping (x y : UInt64) : Id UInt64 := x - y

def subtractExactly (x y : UInt64) : Option UInt64 := if y ≤ x then some (x - y) else none

def validOfflineRetryEpoch (nowEpoch : UInt64) (retryEpoch nextSlotEpoch : Int64) : Bool :=
  (validOfflineRetryEpochWith subtractWrapping nowEpoch retryEpoch nextSlotEpoch).run

def buildOfflineRetryPlan (nowEpoch : UInt64) (attempt : UInt8) (serverRetryEpoch nextSlotEpoch : Int64) : OfflineRetryPlan :=
  (buildOfflineRetryPlanWith subtractWrapping nowEpoch attempt serverRetryEpoch nextSlotEpoch).run

/-! ### The words as numbers -/

lemma toInt_toInt64 {x : UInt64} (h : x.toNat < 2 ^ 63) : x.toInt64.toInt = x.toNat := by
  rw [← Int64.toInt_toBitVec, UInt64.toBitVec_toInt64, BitVec.toInt_eq_toNat_of_lt]
  · rfl
  · rw [UInt64.toNat_toBitVec]
    omega

lemma toNat_toUInt64 {y : Int64} (h : 0 ≤ y.toInt) : (y.toUInt64.toNat : ℤ) = y.toInt := by
  have hle : (0 : Int64) ≤ y := by rwa [Int64.le_iff_toInt_le]
  rw [Int64.toNat_toUInt64_of_le hle, Int64.toNatClampNeg, Int.toNat_of_nonneg h]

lemma fallbackSeconds_bounds (attempt : UInt8) :
    0 < (offlineRetryFallbackSeconds attempt).toNat ∧ (offlineRetryFallbackSeconds attempt).toNat ≤ 3600 := by
  unfold offlineRetryFallbackSeconds
  split
  · decide
  split
  · decide
  · decide

/-! ### No subtraction wraps -/

section Exact

variable {m : Type → Type} [Monad m] {subtract : UInt64 → UInt64 → m UInt64}

/-- Subtracts where the result is not negative. -/
def Subtracts (subtract : UInt64 → UInt64 → m UInt64) : Prop := ∀ x y, y ≤ x → subtract x y = pure (x - y)

lemma subtractWrapping_subtracts : Subtracts subtractWrapping := fun _ _ _ => rfl

lemma subtractExactly_subtracts : Subtracts subtractExactly := fun _ _ h => if_pos h

variable {nowEpoch : UInt64} {attempt : UInt8} {serverRetryEpoch retryEpoch nextSlotEpoch : Int64}

lemma validOfflineRetryEpochWith_eq [LawfulMonad m] (hsub : Subtracts subtract) (hnow : nowEpoch.toNat < 2 ^ 62) :
    validOfflineRetryEpochWith subtract nowEpoch retryEpoch nextSlotEpoch =
      pure (validOfflineRetryEpoch nowEpoch retryEpoch nextSlotEpoch) := by
  have hint := toInt_toInt64 (x := nowEpoch) (by omega)
  unfold validOfflineRetryEpoch validOfflineRetryEpochWith
  by_cases hslot : nextSlotEpoch < 0
  · rw [if_pos hslot, if_pos hslot]
    rfl
  rw [if_neg hslot, if_neg hslot]
  by_cases hpast : retryEpoch ≤ nowEpoch.toInt64
  · rw [if_pos hpast, if_pos hpast]
    rfl
  rw [if_neg hpast, if_neg hpast]
  have hle : nowEpoch ≤ retryEpoch.toUInt64 := by
    rw [Int64.le_iff_toInt_le, hint, not_le] at hpast
    have hretry := toNat_toUInt64 (y := retryEpoch) (by omega)
    rw [UInt64.le_iff_toNat_le]
    omega
  rw [hsub _ _ hle, subtractWrapping_subtracts _ _ hle, pure_bind, pure_bind]
  by_cases hfar : retryEpoch.toUInt64 - nowEpoch > kOfflineRetryMaximumHorizonSeconds
  · rw [if_pos hfar, if_pos hfar]
    rfl
  rw [if_neg hfar, if_neg hfar]
  by_cases hcross : nextSlotEpoch > 0 ∧ (nextSlotEpoch ≤ nowEpoch.toInt64 ∨ retryEpoch ≥ nextSlotEpoch)
  · rw [if_pos hcross, if_pos hcross]
    rfl
  · rw [if_neg hcross, if_neg hcross]
    rfl

lemma safeDeadlineWith_eq (hsub : Subtracts subtract) (nextSlotEpoch : UInt64) : ∃ safeDeadline,
    safeDeadlineWith subtract nextSlotEpoch = pure safeDeadline ∧
      safeDeadlineWith subtractWrapping nextSlotEpoch = pure safeDeadline := by
  unfold safeDeadlineWith
  by_cases hlate : nextSlotEpoch > 60
  · have hle : 60 ≤ nextSlotEpoch := UInt64.le_of_lt hlate
    rw [if_pos hlate, if_pos hlate, hsub _ _ hle]
    exact ⟨_, rfl, rfl⟩
  · rw [if_neg hlate, if_neg hlate]
    exact ⟨0, rfl, rfl⟩

lemma beforeNextSlotWith_eq [LawfulMonad m] (hsub : Subtracts subtract) (fallback : UInt64) :
    beforeNextSlotWith subtract nowEpoch nextSlotEpoch fallback =
      pure (beforeNextSlotWith subtractWrapping nowEpoch nextSlotEpoch fallback).run := by
  unfold beforeNextSlotWith
  by_cases hcross : nextSlotEpoch > nowEpoch.toInt64 ∧ fallback ≥ nextSlotEpoch.toUInt64
  swap
  · rw [if_neg hcross, if_neg hcross]
    rfl
  rw [if_pos hcross, if_pos hcross]
  obtain ⟨safeDeadline, hleft, hright⟩ := safeDeadlineWith_eq hsub nextSlotEpoch.toUInt64
  rw [hleft, hright, pure_bind, pure_bind]
  by_cases hsafe : safeDeadline > nowEpoch ∧ safeDeadline < nextSlotEpoch.toUInt64
  · rw [if_pos hsafe, if_pos hsafe]
    rfl
  rw [if_neg hsafe, if_neg hsafe]
  by_cases hafter : nextSlotEpoch.toUInt64 > nowEpoch + 1
  swap
  · rw [if_neg hafter, if_neg hafter]
    rfl
  rw [if_pos hafter, if_pos hafter]
  have hle : 1 ≤ nextSlotEpoch.toUInt64 := by
    rw [gt_iff_lt, UInt64.lt_iff_toNat_lt, UInt64.toNat_add] at hafter
    rw [UInt64.le_iff_toNat_le]
    have hone : (1 : UInt64).toNat = 1 := rfl
    omega
  rw [hsub _ _ hle]
  rfl

/-- Whatever does the subtractions, the plan is that of the machine. -/
lemma buildOfflineRetryPlanWith_eq [LawfulMonad m] (hsub : Subtracts subtract) (hnow : nowEpoch.toNat < 2 ^ 62) :
    buildOfflineRetryPlanWith subtract nowEpoch attempt serverRetryEpoch nextSlotEpoch =
      pure (buildOfflineRetryPlan nowEpoch attempt serverRetryEpoch nextSlotEpoch) := by
  unfold buildOfflineRetryPlan buildOfflineRetryPlanWith
  rw [validOfflineRetryEpochWith_eq hsub hnow, pure_bind]
  have hmachine : validOfflineRetryEpochWith subtractWrapping nowEpoch serverRetryEpoch nextSlotEpoch =
      pure (validOfflineRetryEpoch nowEpoch serverRetryEpoch nextSlotEpoch) := rfl
  rw [hmachine, pure_bind]
  cases validOfflineRetryEpoch nowEpoch serverRetryEpoch nextSlotEpoch with
  | true => rfl
  | false =>
    simp only [Bool.false_eq_true, if_false]
    rw [beforeNextSlotWith_eq hsub, pure_bind]
    rfl

end Exact

/-! ### The plan -/

section Plan

variable {nowEpoch : UInt64} {attempt : UInt8} {serverRetryEpoch retryEpoch nextSlotEpoch : Int64}

lemma validOfflineRetryEpoch_iff (hnow : nowEpoch.toNat < 2 ^ 62) :
    validOfflineRetryEpoch nowEpoch retryEpoch nextSlotEpoch = true ↔
      nowEpoch.toNat < retryEpoch.toInt ∧ retryEpoch.toInt ≤ nowEpoch.toNat + 7 * 24 * 60 * 60 ∧
        (nextSlotEpoch.toInt = 0 ∨ (nowEpoch.toNat < nextSlotEpoch.toInt ∧ retryEpoch.toInt < nextSlotEpoch.toInt)) := by
  have hint := toInt_toInt64 (x := nowEpoch) (by omega)
  have hzero : (0 : Int64).toInt = 0 := rfl
  unfold validOfflineRetryEpoch validOfflineRetryEpochWith
  by_cases hslot : nextSlotEpoch < 0
  · rw [if_pos hslot]
    rw [Int64.lt_iff_toInt_lt] at hslot
    simp only [Id.run_pure, Bool.false_eq_true, false_iff]
    omega
  rw [if_neg hslot]
  by_cases hpast : retryEpoch ≤ nowEpoch.toInt64
  · rw [if_pos hpast]
    rw [Int64.le_iff_toInt_le, hint] at hpast
    simp only [Id.run_pure, Bool.false_eq_true, false_iff]
    omega
  rw [if_neg hpast]
  rw [Int64.lt_iff_toInt_lt] at hslot
  rw [Int64.le_iff_toInt_le, hint] at hpast
  have hretry := toNat_toUInt64 (y := retryEpoch) (by omega)
  have hle : nowEpoch ≤ retryEpoch.toUInt64 := by
    rw [UInt64.le_iff_toNat_le]
    omega
  rw [subtractWrapping_subtracts _ _ hle, pure_bind]
  have hahead : retryEpoch.toUInt64 - nowEpoch > kOfflineRetryMaximumHorizonSeconds ↔
      nowEpoch.toNat + 7 * 24 * 60 * 60 < retryEpoch.toInt := by
    have hhorizon : kOfflineRetryMaximumHorizonSeconds.toNat = 7 * 24 * 60 * 60 := rfl
    rw [gt_iff_lt, UInt64.lt_iff_toNat_lt, UInt64.toNat_sub_of_le _ _ hle, hhorizon]
    rw [UInt64.le_iff_toNat_le] at hle
    omega
  have hcross : (nextSlotEpoch > 0 ∧ (nextSlotEpoch ≤ nowEpoch.toInt64 ∨ retryEpoch ≥ nextSlotEpoch)) ↔
      0 < nextSlotEpoch.toInt ∧ (nextSlotEpoch.toInt ≤ nowEpoch.toNat ∨ nextSlotEpoch.toInt ≤ retryEpoch.toInt) := by
    rw [gt_iff_lt, ge_iff_le, Int64.lt_iff_toInt_lt, Int64.le_iff_toInt_le, Int64.le_iff_toInt_le, hint, hzero]
  simp only [hahead, hcross]
  split
  · simp only [Id.run_pure, Bool.false_eq_true, false_iff]
    omega
  split
  · simp only [Id.run_pure, Bool.false_eq_true, false_iff]
    omega
  · simp only [Id.run_pure, true_iff]
    omega

/-- What the fallback becomes, over natural numbers. -/
lemma beforeNextSlot_toNat {fallback : UInt64} (nextSlotEpoch : Int64) (hnow : nowEpoch.toNat < 2 ^ 62) :
    (beforeNextSlotWith subtractWrapping nowEpoch nextSlotEpoch fallback).run.toNat =
      if nowEpoch.toNat < nextSlotEpoch.toInt.toNat ∧ nextSlotEpoch.toInt.toNat ≤ fallback.toNat then
        if nowEpoch.toNat < nextSlotEpoch.toInt.toNat - 60 then nextSlotEpoch.toInt.toNat - 60
        else if nowEpoch.toNat + 1 < nextSlotEpoch.toInt.toNat then nextSlotEpoch.toInt.toNat - 1
        else fallback.toNat
      else fallback.toNat := by
  have hint := toInt_toInt64 (x := nowEpoch) (by omega)
  unfold beforeNextSlotWith
  by_cases hcross : nextSlotEpoch > nowEpoch.toInt64 ∧ fallback ≥ nextSlotEpoch.toUInt64
  swap
  · rw [if_neg hcross]
    rw [gt_iff_lt, ge_iff_le, Int64.lt_iff_toInt_lt, hint, UInt64.le_iff_toNat_le] at hcross
    have hapart : ¬ (nowEpoch.toNat < nextSlotEpoch.toInt.toNat ∧ nextSlotEpoch.toInt.toNat ≤ fallback.toNat) := by
      rintro ⟨hafter, hle⟩
      have hword := toNat_toUInt64 (y := nextSlotEpoch) (by omega)
      omega
    rw [if_neg hapart]
    rfl
  rw [if_pos hcross]
  rw [gt_iff_lt, ge_iff_le, Int64.lt_iff_toInt_lt, hint, UInt64.le_iff_toNat_le] at hcross
  have hword := toNat_toUInt64 (y := nextSlotEpoch) (by omega)
  have hslot : nextSlotEpoch.toInt.toNat = nextSlotEpoch.toUInt64.toNat := by omega
  have hcrossing : nowEpoch.toNat < nextSlotEpoch.toUInt64.toNat ∧ nextSlotEpoch.toUInt64.toNat ≤ fallback.toNat := by omega
  rw [hslot, if_pos hcrossing]
  have hsixty : (60 : UInt64).toNat = 60 := rfl
  have hone : (1 : UInt64).toNat = 1 := rfl
  have hdeadline : ∃ safeDeadline, safeDeadlineWith subtractWrapping nextSlotEpoch.toUInt64 = pure safeDeadline ∧
      safeDeadline.toNat = nextSlotEpoch.toUInt64.toNat - 60 := by
    unfold safeDeadlineWith
    by_cases hlate : nextSlotEpoch.toUInt64 > 60
    · refine ⟨nextSlotEpoch.toUInt64 - 60, if_pos hlate, ?_⟩
      rw [UInt64.toNat_sub_of_le _ _ (UInt64.le_of_lt hlate), hsixty]
    · refine ⟨0, if_neg hlate, ?_⟩
      rw [gt_iff_lt, UInt64.lt_iff_toNat_lt, hsixty] at hlate
      have hzero : (0 : UInt64).toNat = 0 := rfl
      omega
  obtain ⟨safeDeadline, hrun, hsafe⟩ := hdeadline
  rw [hrun, pure_bind]
  by_cases hearly : safeDeadline > nowEpoch ∧ safeDeadline < nextSlotEpoch.toUInt64
  · rw [if_pos hearly]
    rw [gt_iff_lt, UInt64.lt_iff_toNat_lt, hsafe] at hearly
    rw [if_pos hearly.1]
    exact hsafe
  rw [if_neg hearly]
  rw [gt_iff_lt, UInt64.lt_iff_toNat_lt, UInt64.lt_iff_toNat_lt, hsafe] at hearly
  have hlate : ¬ nowEpoch.toNat < nextSlotEpoch.toUInt64.toNat - 60 := by omega
  rw [if_neg hlate]
  have hafter : nextSlotEpoch.toUInt64 > nowEpoch + 1 ↔ nowEpoch.toNat + 1 < nextSlotEpoch.toUInt64.toNat := by
    rw [gt_iff_lt, UInt64.lt_iff_toNat_lt, UInt64.toNat_add, hone]
    omega
  by_cases hroom : nowEpoch.toNat + 1 < nextSlotEpoch.toUInt64.toNat
  · have hle : 1 ≤ nextSlotEpoch.toUInt64 := by
      rw [UInt64.le_iff_toNat_le]
      omega
    rw [if_pos (hafter.mpr hroom), if_pos hroom, subtractWrapping_subtracts _ _ hle]
    exact UInt64.toNat_sub_of_le _ _ hle
  · rw [if_neg (mt hafter.mp hroom), if_neg hroom]
    rfl

/-- The fallback stays in the future, and before a next slot that leaves room for it. -/
lemma beforeNextSlot_bounds {fallback : UInt64} (nextSlotEpoch : Int64) (hnow : nowEpoch.toNat < 2 ^ 62)
    (hfallback : nowEpoch.toNat < fallback.toNat) :
    nowEpoch.toNat < (beforeNextSlotWith subtractWrapping nowEpoch nextSlotEpoch fallback).run.toNat ∧
      (nowEpoch.toNat < nextSlotEpoch.toInt →
        (beforeNextSlotWith subtractWrapping nowEpoch nextSlotEpoch fallback).run.toNat < nextSlotEpoch.toInt ∨
          nextSlotEpoch.toInt = nowEpoch.toNat + 1) := by
  rw [beforeNextSlot_toNat nextSlotEpoch hnow]
  split
  · split
    · omega
    split
    · omega
    · omega
  · omega

lemma nextAttempt_toNat {boundedAttempt : UInt8} (h : boundedAttempt.toNat ≤ 2) :
    (if boundedAttempt ≥ 2 then 2 else boundedAttempt + 1 : UInt8).toNat = min (boundedAttempt.toNat + 1) 2 := by
  have htwo : (2 : UInt8).toNat = 2 := rfl
  have hone : (1 : UInt8).toNat = 1 := rfl
  split
  · next hhigh =>
    rw [ge_iff_le, UInt8.le_iff_toNat_le, htwo] at hhigh
    rw [htwo]
    omega
  · next hlow =>
    rw [ge_iff_le, UInt8.le_iff_toNat_le, htwo] at hlow
    rw [UInt8.toNat_add, hone]
    omega

lemma buildOfflineRetryPlan_eq (nowEpoch : UInt64) (attempt : UInt8) (serverRetryEpoch nextSlotEpoch : Int64) :
    buildOfflineRetryPlan nowEpoch attempt serverRetryEpoch nextSlotEpoch =
      if validOfflineRetryEpoch nowEpoch serverRetryEpoch nextSlotEpoch then ⟨serverRetryEpoch.toUInt64, 0, true⟩
      else
        let boundedAttempt : UInt8 := if attempt > 2 then 2 else attempt
        ⟨(beforeNextSlotWith subtractWrapping nowEpoch nextSlotEpoch
            (nowEpoch + offlineRetryFallbackSeconds boundedAttempt)).run,
          if boundedAttempt ≥ 2 then 2 else boundedAttempt + 1, false⟩ := by
  have hmachine : validOfflineRetryEpochWith subtractWrapping nowEpoch serverRetryEpoch nextSlotEpoch =
      pure (validOfflineRetryEpoch nowEpoch serverRetryEpoch nextSlotEpoch) := rfl
  unfold buildOfflineRetryPlan buildOfflineRetryPlanWith
  rw [hmachine, pure_bind]
  cases validOfflineRetryEpoch nowEpoch serverRetryEpoch nextSlotEpoch with
  | true => rfl
  | false => rfl

lemma boundedAttempt_toNat (attempt : UInt8) : (if attempt > 2 then 2 else attempt : UInt8).toNat = min attempt.toNat 2 := by
  have htwo : (2 : UInt8).toNat = 2 := rfl
  split
  · next hhigh =>
    rw [gt_iff_lt, UInt8.lt_iff_toNat_lt, htwo] at hhigh
    rw [htwo]
    omega
  · next hlow =>
    rw [gt_iff_lt, UInt8.lt_iff_toNat_lt, htwo] at hlow
    omega

lemma offlineRetryFallbackSeconds_toNat (attempt : UInt8) :
    (offlineRetryFallbackSeconds attempt).toNat = Firmware.offlineRetryFallbackSeconds attempt.toNat := by
  unfold offlineRetryFallbackSeconds Firmware.offlineRetryFallbackSeconds
  by_cases hzero : attempt = 0
  · subst hzero
    rfl
  by_cases hone : attempt = 1
  · subst hone
    rfl
  rw [if_neg hzero, if_neg hone]
  split
  · next h => exact absurd (UInt8.toNat_inj.mp h) hzero
  · next h => exact absurd (UInt8.toNat_inj.mp h) hone
  · rfl

/-- The plans of the wakes are those of the machine. -/
theorem buildOfflineRetryPlan_refines (attempt : UInt8) (hnow : nowEpoch.toNat < 2 ^ 62) (hserver : 0 ≤ serverRetryEpoch.toInt)
    (hslot : 0 ≤ nextSlotEpoch.toInt) :
    Firmware.buildOfflineRetryPlan nowEpoch.toNat attempt.toNat serverRetryEpoch.toInt.toNat nextSlotEpoch.toInt.toNat =
      let plan := buildOfflineRetryPlan nowEpoch attempt serverRetryEpoch nextSlotEpoch
      (plan.sleepUntilEpoch.toNat, plan.nextAttempt.toNat) := by
  have hvalid : Firmware.validOfflineRetryEpoch nowEpoch.toNat serverRetryEpoch.toInt.toNat nextSlotEpoch.toInt.toNat =
      validOfflineRetryEpoch nowEpoch serverRetryEpoch nextSlotEpoch := by
    have hhorizon : offlineRetryMaximumHorizonSeconds = 7 * 24 * 60 * 60 := rfl
    rw [Bool.eq_iff_iff, validOfflineRetryEpoch_iff hnow]
    simp only [Firmware.validOfflineRetryEpoch, Bool.and_eq_true, Bool.or_eq_true, decide_eq_true_eq, beq_iff_eq]
    omega
  have hword := toNat_toUInt64 hserver
  unfold Firmware.buildOfflineRetryPlan
  rw [hvalid, buildOfflineRetryPlan_eq]
  cases validOfflineRetryEpoch nowEpoch serverRetryEpoch nextSlotEpoch with
  | true =>
    simp only [if_true]
    rw [← hword, Int.toNat_natCast]
    rfl
  | false =>
    simp only [Bool.false_eq_true, if_false]
    have hbounded := boundedAttempt_toNat attempt
    generalize (if attempt > 2 then 2 else attempt : UInt8) = boundedAttempt at hbounded
    have hseconds := fallbackSeconds_bounds boundedAttempt
    have hfallback : (nowEpoch + offlineRetryFallbackSeconds boundedAttempt).toNat =
        nowEpoch.toNat + Firmware.offlineRetryFallbackSeconds (min attempt.toNat 2) := by
      rw [UInt64.toNat_add, ← hbounded, ← offlineRetryFallbackSeconds_toNat]
      omega
    rw [beforeNextSlot_toNat nextSlotEpoch hnow, hfallback, nextAttempt_toNat, hbounded]
    · omega

/-- A retry sleeps into the future but not across the next slot, no subtraction on the way to it wraps, and an epoch of the
server is taken only within the coming seven days and before the next slot. -/
theorem retry_plan_safe (nowEpoch : UInt64) (attempt : UInt8) (serverRetryEpoch nextSlotEpoch : Int64) (hnow : nowEpoch.toNat < 2 ^ 62) :
    let plan := buildOfflineRetryPlan nowEpoch attempt serverRetryEpoch nextSlotEpoch
    buildOfflineRetryPlanWith subtractExactly nowEpoch attempt serverRetryEpoch nextSlotEpoch = some plan ∧
      nowEpoch < plan.sleepUntilEpoch ∧ plan.nextAttempt ≤ 2 ∧
      (nowEpoch.toNat < nextSlotEpoch.toInt →
        plan.sleepUntilEpoch.toNat < nextSlotEpoch.toInt ∨ nextSlotEpoch.toInt = nowEpoch.toNat + 1) ∧
      (plan.serverProvided = true →
        plan.sleepUntilEpoch.toNat = serverRetryEpoch.toInt ∧ nowEpoch.toNat < serverRetryEpoch.toInt ∧
          serverRetryEpoch.toInt ≤ nowEpoch.toNat + 7 * 24 * 60 * 60 ∧
          (nextSlotEpoch.toInt = 0 ∨ serverRetryEpoch.toInt < nextSlotEpoch.toInt)) := by
  intro plan
  refine ⟨buildOfflineRetryPlanWith_eq subtractExactly_subtracts hnow, ?_⟩
  have hplan : plan = _ := buildOfflineRetryPlan_eq nowEpoch attempt serverRetryEpoch nextSlotEpoch
  cases hvalid : validOfflineRetryEpoch nowEpoch serverRetryEpoch nextSlotEpoch with
  | true =>
    rw [hvalid, if_pos rfl] at hplan
    obtain ⟨hafter, hhorizon, hbefore⟩ := (validOfflineRetryEpoch_iff hnow).mp hvalid
    have hserver := toNat_toUInt64 (y := serverRetryEpoch) (by omega)
    rw [hplan, UInt64.lt_iff_toNat_lt]
    dsimp only
    refine ⟨by omega, UInt8.le_iff_toNat_le.mpr (by decide), fun hslot => by omega, fun _ => ⟨hserver, hafter, hhorizon, ?_⟩⟩
    omega
  | false =>
    rw [hvalid] at hplan
    simp only [Bool.false_eq_true, if_false] at hplan
    have hbounded := boundedAttempt_toNat attempt
    generalize (if attempt > 2 then 2 else attempt : UInt8) = boundedAttempt at hplan hbounded
    have hseconds := fallbackSeconds_bounds boundedAttempt
    have hfallback : nowEpoch.toNat < (nowEpoch + offlineRetryFallbackSeconds boundedAttempt).toNat := by
      rw [UInt64.toNat_add]
      omega
    obtain ⟨hfuture, hslot⟩ := beforeNextSlot_bounds nextSlotEpoch hnow hfallback
    rw [hplan, UInt64.lt_iff_toNat_lt]
    refine ⟨hfuture, ?_, hslot, fun h => by cases h⟩
    rw [UInt8.le_iff_toNat_le]
    dsimp only
    rw [nextAttempt_toNat (by omega)]
    exact Nat.min_le_right _ _

/-- Two minutes before a slot the fallback is moved ahead of it. -/
theorem retry_plan_safe_imminent :
    (buildOfflineRetryPlan 1000 0 0 1120).sleepUntilEpoch.toNat < (1120 : Int64).toInt ∨ (1120 : Int64).toInt = 1001 :=
  (retry_plan_safe 1000 0 0 1120 (by decide)).2.2.2.1 (by decide)

example : buildOfflineRetryPlan 1000 1 0 1030 = ⟨1029, 2, false⟩ := by decide

end Plan

end InkTime.Firmware.RetryPlan
