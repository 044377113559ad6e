import Mathlib.Tactic
import InkTime.Library.WireFormat

/-!
# Cyclic redundancy registers

A reflected shift register over `w` bits that takes its input byte by byte, low bits first. For a polynomial
whose highest coefficient is set the register loses nothing, so that two inputs that differ only within a window
of at most `w` bits leave it in different states.
-/

namespace CyclicRedundancy

open WireFormat

variable {w : Nat}

def shiftBit (polynomial register : BitVec w) : BitVec w :=
  if register.getLsbD 0 then (register >>> 1) ^^^ polynomial else register >>> 1

def shiftByte (polynomial register : BitVec w) (byte : UInt8) : BitVec w :=
  (shiftBit polynomial)^[8] (register ^^^ BitVec.ofNat w byte.toNat)

def shiftAll (polynomial register : BitVec w) (bytes : Bytes) : BitVec w := bytes.foldl (shiftByte polynomial) register

variable {polynomial register register' : BitVec w} {bytes bytes' : Bytes}

/-! ### One bit -/

lemma shiftBit_xor (x y : BitVec w) : shiftBit polynomial (x ^^^ y) = shiftBit polynomial x ^^^ shiftBit polynomial y := by
  unfold shiftBit
  rw [BitVec.getLsbD_xor, BitVec.ushiftRight_xor_distrib]
  cases x.getLsbD 0 with
  | false =>
    cases y.getLsbD 0 with
    | false => rfl
    | true => exact BitVec.xor_assoc ..
  | true =>
    cases y.getLsbD 0 with
    | false =>
      change x >>> 1 ^^^ y >>> 1 ^^^ polynomial = x >>> 1 ^^^ polynomial ^^^ y >>> 1
      rw [BitVec.xor_assoc, BitVec.xor_comm (y >>> 1), BitVec.xor_assoc]
    | true =>
      change x >>> 1 ^^^ y >>> 1 = x >>> 1 ^^^ polynomial ^^^ (y >>> 1 ^^^ polynomial)
      rw [BitVec.xor_comm (y >>> 1), BitVec.xor_assoc, ← BitVec.xor_assoc polynomial, BitVec.xor_self, BitVec.zero_xor]

lemma iterate_shiftBit_xor (count : Nat) (x y : BitVec w) :
    (shiftBit polynomial)^[count] (x ^^^ y) = (shiftBit polynomial)^[count] x ^^^ (shiftBit polynomial)^[count] y := by
  induction count generalizing x y with
  | zero => rfl
  | succ count ih =>
    simp only [Function.iterate_succ_apply]
    rw [shiftBit_xor, ih]

/-- The highest bit of the outcome tells whether the polynomial was added. -/
lemma msb_shiftBit (hw : 0 < w) (hpolynomial : polynomial.msb = true) :
    (shiftBit polynomial register).msb = register.getLsbD 0 := by
  have hclear : (register >>> 1).msb = false := by
    rw [BitVec.msb_eq_getLsbD_last, BitVec.getLsbD_ushiftRight]
    exact BitVec.getLsbD_of_ge _ _ (by omega)
  unfold shiftBit
  cases register.getLsbD 0 with
  | false => exact hclear
  | true =>
    change (register >>> 1 ^^^ polynomial).msb = true
    rw [BitVec.msb_xor, hclear, hpolynomial]
    rfl

lemma shiftBit_injective (hw : 0 < w) (hpolynomial : polynomial.msb = true) : Function.Injective (shiftBit polynomial) := by
  intro x y h
  have hlow : x.getLsbD 0 = y.getLsbD 0 :=
    calc x.getLsbD 0 = (shiftBit polynomial x).msb := (msb_shiftBit hw hpolynomial).symm
      _ = (shiftBit polynomial y).msb := by rw [h]
      _ = y.getLsbD 0 := msb_shiftBit hw hpolynomial
  have hhigh : x >>> 1 = y >>> 1 := by
    unfold shiftBit at h
    rw [hlow] at h
    split at h
    · exact (BitVec.xor_left_inj polynomial).mp h
    · exact h
  apply BitVec.eq_of_getLsbD_eq
  intro i hi
  cases i with
  | zero => exact hlow
  | succ i =>
    have := congrArg (fun z => z.getLsbD i) hhigh
    simpa [BitVec.getLsbD_ushiftRight, Nat.add_comm 1] using this

/-! ### Bytes -/

lemma shiftByte_injective (hw : 0 < w) (hpolynomial : polynomial.msb = true) (byte : UInt8) :
    Function.Injective fun register => shiftByte polynomial register byte := by
  intro x y h
  exact (BitVec.xor_left_inj _).mp ((shiftBit_injective hw hpolynomial).iterate 8 h)

lemma shiftAll_append (register : BitVec w) (first second : Bytes) :
    shiftAll polynomial register (first ++ second) = shiftAll polynomial (shiftAll polynomial register first) second :=
  List.foldl_append

lemma shiftAll_injective (hw : 0 < w) (hpolynomial : polynomial.msb = true) (bytes : Bytes) :
    Function.Injective fun register => shiftAll polynomial register bytes := by
  induction bytes with
  | nil => exact Function.injective_id
  | cons byte bytes ih => exact ih.comp (shiftByte_injective hw hpolynomial byte)

/-! ### Windows -/

lemma iterate_shiftBit_ofNat {value count : Nat} (h : value * 2 ^ count < 2 ^ w) :
    (shiftBit polynomial)^[count] (BitVec.ofNat w (value <<< count)) = BitVec.ofNat w value := by
  induction count with
  | zero => rfl
  | succ count ih =>
    have hdouble : value <<< (count + 1) = 2 * (value <<< count) := by
      rw [Nat.shiftLeft_eq, Nat.shiftLeft_eq, pow_succ]
      ring
    have hless : 2 * (value <<< count) < 2 ^ w := by
      rw [← hdouble, Nat.shiftLeft_eq]
      exact h
    have hstep : shiftBit polynomial (BitVec.ofNat w (value <<< (count + 1))) = BitVec.ofNat w (value <<< count) := by
      have heven : (BitVec.ofNat w (value <<< (count + 1))).getLsbD 0 = false := by
        rw [hdouble, BitVec.getLsbD_ofNat]
        simp
      unfold shiftBit
      rw [heven, hdouble]
      apply BitVec.eq_of_toNat_eq
      simp only [Bool.false_eq_true, if_false, BitVec.toNat_ushiftRight, BitVec.toNat_ofNat]
      rw [Nat.mod_eq_of_lt hless, Nat.mod_eq_of_lt (by omega), Nat.shiftRight_eq_div_pow]
      omega
    rw [Function.iterate_succ_apply, hstep]
    apply ih
    rw [Nat.shiftLeft_eq] at hless
    omega

lemma leValue_cons_xor (byte : UInt8) (bytes : Bytes) :
    leValue (byte :: bytes) = byte.toNat ^^^ (leValue bytes <<< 8) := by
  have hbyte : byte.toNat < 2 ^ 8 := byte.toNat_lt
  apply Nat.eq_of_testBit_eq
  intro i
  rw [leValue, Nat.testBit_or, Nat.testBit_xor, Nat.testBit_shiftLeft]
  by_cases hi : 8 ≤ i
  · have hclear : byte.toNat.testBit i = false := Nat.testBit_lt_two_pow (lt_of_lt_of_le hbyte (Nat.pow_le_pow_right (by decide) hi))
    simp [hclear]
  · simp [hi]

/-- A window that fits the register acts as one word. -/
theorem shiftAll_window (register : BitVec w) (h : 8 * bytes.length ≤ w) :
    shiftAll polynomial register bytes =
      (shiftBit polynomial)^[8 * bytes.length] (register ^^^ BitVec.ofNat w (leValue bytes)) := by
  induction bytes generalizing register with
  | nil => simp [shiftAll, leValue]
  | cons byte bytes ih =>
    rw [List.length_cons] at h
    have hfits : leValue bytes * 2 ^ 8 < 2 ^ w := by
      have hvalue : leValue bytes < 2 ^ (8 * bytes.length) := by
        rw [pow_mul]
        exact leValue_lt bytes
      calc leValue bytes * 2 ^ 8 < 2 ^ (8 * bytes.length) * 2 ^ 8 := by omega
        _ = 2 ^ (8 * bytes.length + 8) := (pow_add ..).symm
        _ ≤ 2 ^ w := Nat.pow_le_pow_right (by decide) (by omega)
    have hword : BitVec.ofNat w (leValue (byte :: bytes)) =
        BitVec.ofNat w byte.toNat ^^^ BitVec.ofNat w (leValue bytes <<< 8) := by
      rw [leValue_cons_xor, BitVec.ofNat_xor]
    calc shiftAll polynomial register (byte :: bytes)
        = shiftAll polynomial (shiftByte polynomial register byte) bytes := rfl
      _ = (shiftBit polynomial)^[8 * bytes.length]
            (shiftByte polynomial register byte ^^^ BitVec.ofNat w (leValue bytes)) := ih _ (by omega)
      _ = (shiftBit polynomial)^[8 * bytes.length] ((shiftBit polynomial)^[8]
            (register ^^^ BitVec.ofNat w byte.toNat ^^^ BitVec.ofNat w (leValue bytes <<< 8))) := by
          rw [shiftByte, ← iterate_shiftBit_ofNat hfits, ← iterate_shiftBit_xor]
      _ = (shiftBit polynomial)^[8 * (byte :: bytes).length] (register ^^^ BitVec.ofNat w (leValue (byte :: bytes))) := by
          rw [hword, ← BitVec.xor_assoc, ← Function.iterate_add_apply, List.length_cons, mul_add]

lemma leValue_inj (hlength : bytes.length = bytes'.length) (h : leValue bytes = leValue bytes') : bytes = bytes' := by
  rw [← leBytes_leValue bytes, ← leBytes_leValue bytes', hlength, h]

lemma shiftAll_window_inj (hw : 0 < w) (hpolynomial : polynomial.msb = true) (hlength : bytes.length = bytes'.length)
    (hfits : 8 * bytes.length ≤ w) (h : shiftAll polynomial register bytes = shiftAll polynomial register bytes') :
    bytes = bytes' := by
  rw [shiftAll_window register hfits, shiftAll_window register (hlength ▸ hfits), hlength] at h
  have hword := (BitVec.xor_right_inj register).mp ((shiftBit_injective hw hpolynomial).iterate _ h)
  have hbound : ∀ window : Bytes, 8 * window.length ≤ w → leValue window < 2 ^ w := by
    intro window hwindow
    have hvalue := leValue_lt window
    rw [show (256 : Nat) = 2 ^ 8 from rfl, ← pow_mul] at hvalue
    exact lt_of_lt_of_le hvalue (Nat.pow_le_pow_right (by decide) hwindow)
  have hvalue := congrArg BitVec.toNat hword
  rw [BitVec.toNat_ofNat, BitVec.toNat_ofNat, Nat.mod_eq_of_lt (hbound bytes hfits),
    Nat.mod_eq_of_lt (hbound bytes' (hlength ▸ hfits))] at hvalue
  exact leValue_inj hlength hvalue

/-! ### Bursts -/

/-- The two strings differ, and only within `size` consecutive bytes. -/
def Burst (size : Nat) (bytes bytes' : Bytes) : Prop :=
  ∃ before window window' after, bytes = before ++ window ++ after ∧ bytes' = before ++ window' ++ after ∧
    window.length = window'.length ∧ window.length ≤ size ∧ window ≠ window'

lemma Burst.length_eq {size : Nat} (h : Burst size bytes bytes') : bytes.length = bytes'.length := by
  obtain ⟨before, window, window', after, rfl, rfl, hlength, -, -⟩ := h
  simp [hlength]

/-- A burst that fits the register changes its final state. -/
theorem Burst.shiftAll_ne {size : Nat} (h : Burst size bytes bytes') (hw : 0 < w) (hsize : 8 * size ≤ w)
    (hpolynomial : polynomial.msb = true) (register : BitVec w) :
    shiftAll polynomial register bytes ≠ shiftAll polynomial register bytes' := by
  obtain ⟨before, window, window', after, rfl, rfl, hlength, hle, hne⟩ := h
  intro heq
  simp only [shiftAll_append] at heq
  exact hne (shiftAll_window_inj hw hpolynomial hlength (by omega) (shiftAll_injective hw hpolynomial after heq))

/-- A string that ends in the complement of its register leaves a state that does not depend on the string. -/
theorem shiftAll_checked {body check : Bytes} (hlength : 8 * check.length = w) (register : BitVec w)
    (h : BitVec.ofNat w (leValue check) = ~~~ shiftAll polynomial register body) :
    shiftAll polynomial register (body ++ check) = (shiftBit polynomial)^[w] (BitVec.allOnes w) := by
  have hall : shiftAll polynomial register body ^^^ BitVec.ofNat w (leValue check) = BitVec.allOnes w := by
    rw [h]
    apply BitVec.eq_of_getLsbD_eq
    intro i hi
    simp [hi]
  rw [shiftAll_append, shiftAll_window _ hlength.le, hall, hlength]

end CyclicRedundancy
