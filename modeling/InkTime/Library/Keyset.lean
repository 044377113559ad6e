import Mathlib.Data.List.Sort
import Mathlib.Tactic

/-!
# Keyset pagination

A loop reads the rows of a query page by page. Each page begins after the key of the last row before it. The pages are the rows in the
order of their keys, cut off at a limit.
-/

namespace Keyset

variable {ρ κ : Type} [LinearOrder κ] (key : ρ → κ)

/-- `ORDER BY` -/
def orderBy (rows : List ρ) : List ρ := rows.mergeSort fun a b => decide (key a ≤ key b)

def after (cursor : κ) (rows : List ρ) : List ρ := rows.filter fun row => decide (cursor < key row)

/-- The first rows after a cursor. -/
def page (rows : List ρ) (cursor : κ) (size : Nat) : List ρ := (orderBy key (after key cursor rows)).take size

/-- The size of the next page. -/
def pageSize (most : Nat) : Option ℤ → Nat
  | none => most
  | some remaining => min most remaining.toNat

/-- `while remaining is None or remaining > 0`, until a page is empty. Nothing is returned without enough fuel. -/
def scan (query : κ → Nat → List ρ) (most : Nat) : Nat → κ → Option ℤ → Option (List ρ)
  | 0, _, _ => none
  | fuel + 1, cursor, remaining =>
    if remaining.any (· ≤ 0) then some []
    else
      let rows := query cursor (pageSize most remaining)
      match rows.getLast? with
      | none => some []
      | some last => (scan query most fuel (key last) (remaining.map fun remaining => remaining - rows.length)).map (rows ++ ·)

def limited (limit : Option ℤ) (rows : List ρ) : List ρ :=
  match limit with
  | none => rows
  | some limit => rows.take limit.toNat

variable {key} {rows : List ρ} {cursor : κ}

lemma orderBy_perm : (orderBy key rows).Perm rows := List.mergeSort_perm rows _

lemma orderBy_sorted : (orderBy key rows).Pairwise fun a b => key a ≤ key b := by
  have htrans : ∀ a b c : ρ, decide (key a ≤ key b) = true → decide (key b ≤ key c) = true → decide (key a ≤ key c) = true := by
    simp only [decide_eq_true_eq]
    exact fun a b c => le_trans
  have htotal : ∀ a b : ρ, (decide (key a ≤ key b) || decide (key b ≤ key a)) = true := by
    simp only [Bool.or_eq_true, decide_eq_true_eq]
    exact fun a b => le_total (key a) (key b)
  exact (List.pairwise_mergeSort htrans htotal rows).imp fun h => of_decide_eq_true h

/-- Rows with distinct keys are in strict order. -/
lemma orderBy_strict (h : (rows.map key).Nodup) : (orderBy key rows).Pairwise fun a b => key a < key b := by
  have hdistinct : (orderBy key rows).Pairwise fun a b => key a ≠ key b :=
    List.pairwise_map.mp ((orderBy_perm.map key).nodup_iff.mpr h)
  exact orderBy_sorted.imp₂ (fun a b hle hne => lt_of_le_of_ne hle hne) hdistinct

lemma nodup_after (h : (rows.map key).Nodup) : ((after key cursor rows).map key).Nodup :=
  h.sublist (List.filter_sublist.map key)

/-- The order of the rows after a later cursor is that of the rows after the earlier one. -/
lemma orderBy_after (h : (rows.map key).Nodup) {later : κ} (hle : cursor ≤ later) :
    orderBy key (after key later rows) = after key later (orderBy key (after key cursor rows)) := by
  have hafter : after key later (after key cursor rows) = after key later rows := by
    unfold after
    rw [List.filter_filter]
    apply List.filter_congr
    intro row _
    by_cases hlater : later < key row
    · simp [hlater, lt_of_le_of_lt hle hlater]
    · simp [hlater]
  apply List.Perm.eq_of_pairwise (fun a b _ _ hlt hgt => absurd hgt (lt_asymm hlt)) (orderBy_strict (nodup_after h))
  · exact (orderBy_strict (nodup_after h)).sublist List.filter_sublist
  · exact orderBy_perm.trans ((List.Perm.of_eq hafter.symm).trans (orderBy_perm.symm.filter _))

/-- After the last row of a first part comes the rest. -/
lemma after_last {front back : List ρ} {last : ρ} (h : (front ++ back).Pairwise fun a b => key a < key b)
    (hlast : front.getLast? = some last) : after key (key last) (front ++ back) = back := by
  obtain ⟨before, rfl⟩ := List.getLast?_eq_some_iff.mp hlast
  rw [List.pairwise_append, List.pairwise_append] at h
  obtain ⟨⟨-, -, hbefore⟩, -, hback⟩ := h
  unfold after
  rw [List.filter_append, List.filter_append]
  have hnone : before.filter (fun row => decide (key last < key row)) = [] := by
    apply List.filter_eq_nil_iff.mpr
    intro row hrow
    have := hbefore row hrow last (List.mem_singleton_self last)
    simpa using le_of_lt this
  have hall : back.filter (fun row => decide (key last < key row)) = back := by
    apply List.filter_eq_self.mpr
    intro row hrow
    simpa using hback last (List.mem_append_right _ (List.mem_singleton_self last)) row hrow
  rw [hnone, hall]
  simp

/-- Cutting off a first page cuts as much off the limit. -/
lemma limited_page (limit : Option ℤ) (most : Nat) (rows : List ρ) :
    rows.take (pageSize most limit) ++ limited (limit.map fun count => count - (rows.take (pageSize most limit)).length)
      (rows.drop (pageSize most limit)) = limited limit rows := by
  cases limit with
  | none => exact List.take_append_drop most rows
  | some limit =>
    unfold limited pageSize
    dsimp only [Option.map_some]
    set size := min most limit.toNat with hsize
    rw [List.length_take]
    by_cases hshort : rows.length ≤ size
    · rw [List.take_of_length_le hshort, List.drop_eq_nil_of_le hshort, List.take_nil, List.append_nil,
        List.take_of_length_le (by omega)]
    · have hrest : (limit - (min size rows.length : Nat)).toNat = limit.toNat - size := by omega
      have htake : rows.take size = (rows.take limit.toNat).take size := by
        rw [List.take_take, Nat.min_eq_left (Nat.min_le_right most limit.toNat)]
      rw [hrest, ← List.drop_take, htake]
      exact List.take_append_drop size (rows.take limit.toNat)

/-- The pages of a loop are the rows after its cursor, in order and cut off at the limit. -/
theorem scan_page {most : Nat} (hmost : 0 < most) (h : (rows.map key).Nodup) {fuel : Nat} {limit : Option ℤ}
    (hfuel : (after key cursor rows).length < fuel) :
    scan key (page key rows) most fuel cursor limit = some (limited limit (orderBy key (after key cursor rows))) := by
  induction fuel generalizing cursor limit with
  | zero => exact absurd hfuel (Nat.not_lt_zero _)
  | succ fuel ih =>
    set ordered := orderBy key (after key cursor rows) with hordered
    have hstrict : ordered.Pairwise fun a b => key a < key b := orderBy_strict (nodup_after h)
    have hlength : ordered.length = (after key cursor rows).length := orderBy_perm.length_eq
    unfold scan
    by_cases hdone : limit.any (· ≤ 0) = true
    · rw [if_pos hdone]
      cases limit with
      | none => cases hdone
      | some limit =>
        have hzero : limit.toNat = 0 := Int.toNat_of_nonpos (of_decide_eq_true hdone)
        change some [] = some (ordered.take limit.toNat)
        rw [hzero, List.take_zero]
    · rw [if_neg hdone]
      have hsize : 0 < pageSize most limit := by
        cases limit with
        | none => exact hmost
        | some limit =>
          change 0 < min most limit.toNat
          simp only [Option.any_some, decide_eq_true_eq] at hdone
          omega
      set front := ordered.take (pageSize most limit) with hfront
      set back := ordered.drop (pageSize most limit) with hback
      have hsplit : front ++ back = ordered := List.take_append_drop _ _
      change (match front.getLast? with
        | none => some []
        | some last => (scan key (page key rows) most fuel (key last) (limit.map fun count => count - front.length)).map (front ++ ·)) = _
      cases hlast : front.getLast? with
      | none =>
        -- an empty page of a positive size is all that is left
        have hnil : ordered = [] := by
          have := congrArg List.length (List.getLast?_eq_none_iff.mp hlast)
          rw [hfront, List.length_take, List.length_nil] at this
          exact List.length_eq_zero_iff.mp (by omega)
        rw [hnil]
        cases limit with
        | none => rfl
        | some limit => exact congrArg some List.take_nil.symm
      | some last =>
        have hmem : last ∈ after key cursor rows :=
          orderBy_perm.mem_iff.mp (List.mem_of_mem_take (List.mem_of_getLast? hlast))
        have hlater : cursor < key last := of_decide_eq_true (List.mem_filter.mp hmem).2
        have hrest : orderBy key (after key (key last) rows) = back := by
          rw [orderBy_after h (le_of_lt hlater), ← hordered]
          rw [← hsplit] at hstrict ⊢
          exact after_last hstrict hlast
        have hfewer : (after key (key last) rows).length < fuel := by
          have hcount : (after key (key last) rows).length = back.length := by rw [← hrest, orderBy_perm.length_eq]
          rw [hcount, hback, List.length_drop]
          have := List.length_pos_of_mem (List.mem_of_getLast? hlast)
          have := List.length_take_le (pageSize most limit) ordered
          have : 0 < ordered.length := List.length_pos_of_mem (List.mem_of_mem_take (List.mem_of_getLast? hlast))
          omega
        dsimp only
        rw [ih hfewer, hrest, Option.map_some, hfront, hback, limited_page]

lemma length_limited (limit : Option ℤ) (rows : List ρ) :
    ((limited limit rows).length : ℤ) = limit.elim (rows.length : ℤ) fun count => min (rows.length : ℤ) (max 0 count) := by
  cases limit with
  | none => rfl
  | some limit =>
    change ((rows.take limit.toNat).length : ℤ) = min (rows.length : ℤ) (max 0 limit)
    rw [List.length_take]
    omega

lemma map_limited {α : Type} (f : ρ → α) (limit : Option ℤ) (rows : List ρ) :
    (limited limit rows).map f = limited limit (rows.map f) := by
  cases limit with
  | none => rfl
  | some limit => exact List.map_take

end Keyset
