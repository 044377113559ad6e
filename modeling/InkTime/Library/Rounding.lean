import Mathlib.Data.Int.Log
import Mathlib.Tactic

/-!
# Rounding

The nearest integer of a rational number, half-way cases to the even one, and the nearest binary64 number.
-/

namespace Rounding

/-- `round` -/
def roundHalfEven (q : ℚ) : ℤ :=
  if Int.fract q < 1 / 2 then ⌊q⌋
  else if 1 / 2 < Int.fract q then ⌊q⌋ + 1
  else if ⌊q⌋ % 2 = 0 then ⌊q⌋ else ⌊q⌋ + 1

/-- `int` of a number -/
def truncate (q : ℚ) : ℤ := if 0 ≤ q then ⌊q⌋ else ⌈q⌉

/-- The binary64 number nearest to a number in the range of the normal ones. -/
def nearestDouble (q : ℚ) : ℚ := roundHalfEven (q / 2 ^ (Int.log 2 |q| - 52)) * 2 ^ (Int.log 2 |q| - 52)

lemma floor_le_roundHalfEven (q : ℚ) : ⌊q⌋ ≤ roundHalfEven q := by
  unfold roundHalfEven
  split_ifs
  · omega
  · omega
  · omega
  · omega

lemma roundHalfEven_le (q : ℚ) : (roundHalfEven q : ℚ) ≤ q + 1 / 2 := by
  have hfloor := Int.floor_add_fract q
  have hle := Int.floor_le q
  unfold roundHalfEven
  split_ifs with hlow hhigh
  · linarith
  · push_cast
    linarith
  · linarith
  · push_cast
    linarith

lemma le_roundHalfEven {n : ℤ} {q : ℚ} (h : (n : ℚ) ≤ q) : n ≤ roundHalfEven q :=
  le_trans (Int.le_floor.mpr h) (floor_le_roundHalfEven q)

lemma roundHalfEven_le_of_le {n : ℤ} {q : ℚ} (h : q ≤ n) : roundHalfEven q ≤ n := by
  have hfloor := Int.floor_add_fract q
  have hle : (⌊q⌋ : ℚ) ≤ n := le_trans (Int.floor_le q) h
  have hbelow : ⌊q⌋ ≤ n := by exact_mod_cast hle
  unfold roundHalfEven
  split_ifs with hlow
  · exact hbelow
  all_goals
    have hlt : (⌊q⌋ : ℚ) < n := by linarith [not_lt.mp hlow]
    have hlt : ⌊q⌋ < n := by exact_mod_cast hlt
    omega

/-- Below 2³⁴ a number of millionths has the same integer part as the binary64 number nearest to it. -/
theorem floor_nearestDouble {m : ℤ} (hpositive : 0 ≤ m) (hlt : m < 2 ^ 34 * 1000000) :
    ⌊nearestDouble ((m : ℚ) / 1000000)⌋ = m / 1000000 := by
  set q : ℚ := (m : ℚ) / 1000000 with hq
  have hwhole : ⌊q⌋ = m / 1000000 := by
    rw [hq, Int.floor_eq_iff]
    constructor
    · rw [le_div_iff₀ (by norm_num)]
      exact_mod_cast (show m / 1000000 * 1000000 ≤ m by omega)
    · rw [div_lt_iff₀ (by norm_num)]
      exact_mod_cast (show m < (m / 1000000 + 1) * 1000000 by omega)
  have hnonneg : 0 ≤ q := by positivity
  obtain hzero | hpos := hnonneg.eq_or_lt
  · rw [← hwhole, ← hzero]
    simp [nearestDouble, roundHalfEven]
  set e := Int.log 2 |q| - 52 with he
  set u : ℚ := (2 : ℚ) ^ e with hu
  have hupos : 0 < u := zpow_pos (by norm_num) e
  have hlow : e ≤ -19 := by
    have hq34 : |q| < (2 : ℕ) ^ (34 : ℤ) := by
      rw [abs_of_pos hpos, hq, div_lt_iff₀ (by norm_num)]
      exact_mod_cast hlt
    have := (Int.lt_zpow_iff_log_lt (by norm_num) (abs_pos.mpr hpos.ne')).mp hq34
    omega
  have hsmall : u ≤ 1 / 524288 := by
    have := zpow_le_zpow_right₀ (by norm_num : (1 : ℚ) ≤ 2) hlow
    norm_num at this ⊢
    exact this
  -- the integer part is a multiple of the unit in the last place
  obtain ⟨k, hk⟩ : ∃ k : ℤ, (k : ℚ) * u = 1 := by
    refine ⟨2 ^ (-e).toNat, ?_⟩
    rw [hu]
    push_cast
    rw [← zpow_natCast, Int.toNat_of_nonneg (by omega), ← zpow_add₀ (by norm_num)]
    simp
  have hbelow : (⌊q⌋ : ℚ) ≤ nearestDouble q := by
    have hscaled : ((⌊q⌋ * k : ℤ) : ℚ) ≤ q / u := by
      rw [le_div_iff₀ hupos]
      push_cast
      rw [mul_assoc, hk, mul_one]
      exact Int.floor_le q
    have hround : ((⌊q⌋ * k : ℤ) : ℚ) ≤ (roundHalfEven (q / u) : ℚ) := by exact_mod_cast le_roundHalfEven hscaled
    calc (⌊q⌋ : ℚ) = ((⌊q⌋ * k : ℤ) : ℚ) * u := by push_cast; rw [mul_assoc, hk, mul_one]
      _ ≤ roundHalfEven (q / u) * u := by gcongr
  have habove : nearestDouble q < ⌊q⌋ + 1 := by
    have hgap : q + 1 / 1000000 ≤ ⌊q⌋ + 1 := by
      have hmod : m + 1 ≤ (m / 1000000 + 1) * 1000000 := by omega
      rw [hwhole, hq, ← add_div, div_le_iff₀ (by norm_num)]
      exact_mod_cast hmod
    calc nearestDouble q = roundHalfEven (q / u) * u := rfl
      _ ≤ (q / u + 1 / 2) * u := by gcongr; exact roundHalfEven_le _
      _ = q + u / 2 := by field_simp
      _ < ⌊q⌋ + 1 := by linarith
  rw [← hwhole, Int.floor_eq_iff]
  exact ⟨hbelow, habove⟩

/-- A number up to an integer stays up to it when it is rounded and cut off. -/
theorem truncate_nearestDouble_le {q : ℚ} {p : ℤ} (hsmall : |q| < 2 ^ 52) (h : q ≤ p) : truncate (nearestDouble q) ≤ p := by
  have hround : nearestDouble q ≤ p := by
    obtain rfl | hne := eq_or_ne q 0
    · simpa [nearestDouble, roundHalfEven] using h
    set e := Int.log 2 |q| - 52 with he
    have hlow : e ≤ 0 := by
      have hsmall : |q| < (2 : ℕ) ^ (52 : ℤ) := by exact_mod_cast hsmall
      have := (Int.lt_zpow_iff_log_lt (by norm_num) (abs_pos.mpr hne)).mp hsmall
      omega
    have hupos : (0 : ℚ) < 2 ^ e := zpow_pos (by norm_num) e
    -- the integer is a multiple of the unit in the last place
    obtain ⟨k, hk⟩ : ∃ k : ℤ, (k : ℚ) * 2 ^ e = 1 := by
      refine ⟨2 ^ (-e).toNat, ?_⟩
      push_cast
      rw [← zpow_natCast, Int.toNat_of_nonneg (by omega), ← zpow_add₀ (by norm_num)]
      simp
    have hscaled : q / 2 ^ e ≤ ((p * k : ℤ) : ℚ) := by
      rw [div_le_iff₀ hupos]
      push_cast
      rwa [mul_assoc, hk, mul_one]
    have hrounded : (roundHalfEven (q / 2 ^ e) : ℚ) ≤ ((p * k : ℤ) : ℚ) := by exact_mod_cast roundHalfEven_le_of_le hscaled
    calc nearestDouble q = roundHalfEven (q / 2 ^ e) * 2 ^ e := rfl
      _ ≤ ((p * k : ℤ) : ℚ) * 2 ^ e := by gcongr
      _ = p := by push_cast; rw [mul_assoc, hk, mul_one]
  unfold truncate
  split_ifs
  · have hfloor : (⌊nearestDouble q⌋ : ℚ) ≤ p := le_trans (Int.floor_le _) hround
    exact_mod_cast hfloor
  · exact Int.ceil_le.mpr hround

end Rounding
