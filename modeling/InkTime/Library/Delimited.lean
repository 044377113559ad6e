import Mathlib.Tactic
import InkTime.Library.WireFormat

/-!
# Delimited texts

Fields that are joined by a separator can be told apart from the right, as far as the last ones do not contain it.
Decimal numbers are such fields for every separator that is not a digit.
-/

namespace Delimited

open WireFormat

lemma append_separator_inj {α : Type} {separator : α} {before before' last last' : List α} (h : separator ∉ last)
    (h' : separator ∉ last') (heq : before ++ separator :: last = before' ++ separator :: last') :
    before = before' ∧ last = last' := by
  obtain ⟨middle, hbefore, hlast⟩ | ⟨middle, hbefore, hlast⟩ := List.append_eq_append_iff.mp heq
  · cases middle with
    | nil =>
      rw [List.nil_append, List.cons.injEq] at hlast
      exact ⟨by rw [hbefore, List.append_nil], hlast.2⟩
    | cons first middle =>
      rw [List.cons_append, List.cons.injEq] at hlast
      exact absurd (by rw [hlast.2]; simp) h
  · cases middle with
    | nil =>
      rw [List.nil_append, List.cons.injEq] at hlast
      exact ⟨by rw [hbefore, List.append_nil], hlast.2.symm⟩
    | cons first middle =>
      rw [List.cons_append, List.cons.injEq] at hlast
      exact absurd (by rw [hlast.2]; simp) h'

def digitByte (digit : Nat) : UInt8 := UInt8.ofNat (48 + digit)

/-- A number in decimal digits, without leading zeros. -/
def decimal (number : Nat) : Bytes :=
  if number = 0 then [digitByte 0] else ((Nat.digits 10 number).map digitByte).reverse

lemma digitByte_inj {digit digit' : Nat} (h : digit < 10) (h' : digit' < 10) (heq : digitByte digit = digitByte digit') :
    digit = digit' := by
  have hvalue := congrArg UInt8.toNat heq
  rw [digitByte, digitByte, UInt8.toNat_ofNat', UInt8.toNat_ofNat', Nat.mod_eq_of_lt (by omega), Nat.mod_eq_of_lt (by omega)]
    at hvalue
  omega

lemma mem_decimal {number : Nat} {byte : UInt8} (h : byte ∈ decimal number) : ∃ digit < 10, byte = digitByte digit := by
  unfold decimal at h
  split at h
  · rw [List.mem_singleton] at h
    exact ⟨0, by decide, h⟩
  · rw [List.mem_reverse, List.mem_map] at h
    obtain ⟨digit, hdigit, rfl⟩ := h
    exact ⟨digit, Nat.digits_lt_base (by decide) hdigit, rfl⟩

lemma map_digitByte_inj {digits digits' : List Nat} (h : ∀ digit ∈ digits, digit < 10) (h' : ∀ digit ∈ digits', digit < 10)
    (heq : digits.map digitByte = digits'.map digitByte) : digits = digits' := by
  induction digits generalizing digits' with
  | nil => exact (List.map_eq_nil_iff.mp heq.symm).symm
  | cons digit digits ih =>
    cases digits' with
    | nil => cases heq
    | cons digit' digits' =>
      rw [List.map_cons, List.map_cons, List.cons.injEq] at heq
      rw [digitByte_inj (h digit List.mem_cons_self) (h' digit' List.mem_cons_self) heq.1,
        ih (fun d hd => h d (List.mem_cons_of_mem _ hd)) (fun d hd => h' d (List.mem_cons_of_mem _ hd)) heq.2]

lemma decimal_eq_of_pos {number : Nat} (h : number ≠ 0) : decimal number = ((Nat.digits 10 number).map digitByte).reverse := by
  rw [decimal, if_neg h]

theorem decimal_injective : Function.Injective decimal := by
  have hpos : ∀ {number : Nat}, number ≠ 0 → decimal number ≠ decimal 0 := by
    intro number hnumber heq
    rw [decimal_eq_of_pos hnumber] at heq
    have hmap : (Nat.digits 10 number).map digitByte = [0].map digitByte := by
      rw [← List.reverse_reverse ((Nat.digits 10 number).map digitByte), heq]
      rfl
    have hdigits := map_digitByte_inj (fun d hd => Nat.digits_lt_base (by decide) hd) (by simp) hmap
    have hvalue := Nat.ofDigits_digits 10 number
    rw [hdigits] at hvalue
    exact hnumber hvalue.symm
  intro number number' heq
  by_cases h : number = 0
  · subst h
    by_contra hne
    exact hpos (Ne.symm hne) heq.symm
  · by_cases h' : number' = 0
    · subst h'
      exact absurd heq (hpos h)
    · rw [decimal_eq_of_pos h, decimal_eq_of_pos h', List.reverse_inj] at heq
      exact Nat.digits_inj_iff.mp (map_digitByte_inj (fun d hd => Nat.digits_lt_base (by decide) hd)
        (fun d hd => Nat.digits_lt_base (by decide) hd) heq)

end Delimited
