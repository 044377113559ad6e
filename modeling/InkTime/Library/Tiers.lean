import Mathlib.Tactic

/-!
# Selection by tiers

Elements are taken from a pool until there are enough, and one of a later tier only when every element of the earlier tiers is
taken.
-/

namespace Tiers

variable {α : Type} (tier : α → ℕ)

/-- Enough elements of the pool, none of a later tier before all of the earlier ones. -/
structure Fills (pool : List α) (needed : ℕ) (selected : List α) : Prop where
  subset : selected ⊆ pool
  nodup : selected.Nodup
  length : selected.length = min needed pool.length
  earlier : ∀ a ∈ selected, ∀ b ∈ pool, tier b < tier a → b ∈ selected

/-- Every tier of the pool begins with room left by the ones before it. -/
def Admitted (pool : List α) (needed : ℕ) : Prop := ∀ a ∈ pool, (pool.filter fun b => tier b < tier a).length < needed

/-- A tier joins the pool where what is there is not enough. -/
def accept (needed : ℕ) (pool stage : List α) : List α := if pool.length < needed then pool ++ stage else pool

variable {tier} {pool later selected more : List α} {needed : ℕ}

lemma fills_nil : Fills tier [] needed [] where
  subset := List.Subset.refl _
  nodup := List.nodup_nil
  length := by rw [List.length_nil, Nat.min_zero]
  earlier := fun a ha => absurd ha List.not_mem_nil

lemma Fills.length_le (h : Fills tier pool needed selected) : selected.length ≤ needed := by
  rw [h.length]
  exact Nat.min_le_left _ _

/-- A selection that is not full has the whole pool. -/
lemma Fills.mem_of_short (h : Fills tier pool needed selected) (hshort : selected.length < needed) {a : α} (ha : a ∈ pool) :
    a ∈ selected := by
  have hlen := h.length
  have hle : pool.length ≤ selected.length := by omega
  exact ((h.nodup.subperm h.subset).perm_of_length_le hle).symm.subset ha

/-- The next tier is drawn on for what is missing. -/
lemma Fills.append (h : Fills tier pool needed selected) (hpool : (pool ++ later).Nodup)
    (hlater : ∀ a ∈ pool, ∀ b ∈ later, tier a < tier b) (hsame : ∀ a ∈ later, ∀ b ∈ later, tier a = tier b)
    (hsubset : more ⊆ later) (hmore : more.Nodup) (hlength : more.length = min (needed - selected.length) later.length) :
    Fills tier (pool ++ later) needed (selected ++ more) := by
  obtain ⟨-, -, hdisjoint⟩ := List.nodup_append.mp hpool
  have hlen := h.length
  refine ⟨?_, ?_, ?_, ?_⟩
  · exact List.append_subset.mpr ⟨List.subset_append_of_subset_left _ h.subset, List.subset_append_of_subset_right _ hsubset⟩
  · apply List.nodup_append.mpr
    exact ⟨h.nodup, hmore, fun a ha b hb => hdisjoint a (h.subset ha) b (hsubset hb)⟩
  · rw [List.length_append, List.length_append]
    omega
  · intro a ha b hb htier
    rw [List.mem_append] at ha hb ⊢
    obtain ha | ha := ha
    · obtain hb | hb := hb
      · exact .inl (h.earlier a ha b hb htier)
      · exact absurd htier (not_lt.mpr (hlater a (h.subset ha) b hb).le)
    · obtain hb | hb := hb
      · left
        apply h.mem_of_short _ hb
        have hpos : 0 < more.length := List.length_pos_of_mem ha
        omega
      · exact absurd htier (hsame b hb a (hsubset ha)).not_lt

/-- A full selection stays one when later tiers join the pool. -/
lemma Fills.widen (h : Fills tier pool needed selected) (hfull : needed ≤ pool.length)
    (hlater : ∀ a ∈ pool, ∀ b ∈ later, tier a < tier b) : Fills tier (pool ++ later) needed selected := by
  refine ⟨List.subset_append_of_subset_left _ h.subset, h.nodup, ?_, ?_⟩
  · rw [h.length, List.length_append]
    omega
  · intro a ha b hb htier
    obtain hb | hb := List.mem_append.mp hb
    · exact h.earlier a ha b hb htier
    · exact absurd htier (not_lt.mpr (hlater a (h.subset ha) b hb).le)

lemma Fills.of_accept (h : Fills tier (accept needed pool later) needed selected)
    (hlater : ∀ a ∈ pool, ∀ b ∈ later, tier a < tier b) : Fills tier (pool ++ later) needed selected := by
  unfold accept at h
  split at h
  · exact h
  · exact h.widen (not_lt.mp ‹_›) hlater

lemma Admitted.accept (h : Admitted tier pool needed) (hlater : ∀ a ∈ pool, ∀ b ∈ later, tier a < tier b)
    (hsame : ∀ a ∈ later, ∀ b ∈ later, tier a = tier b) : Admitted tier (accept needed pool later) needed := by
  unfold Tiers.accept
  split
  · next hroom =>
    intro a ha
    rw [List.filter_append, List.length_append]
    obtain ha | ha := List.mem_append.mp ha
    · have hnone : later.filter (fun b => tier b < tier a) = [] := by
        apply List.filter_eq_nil_iff.mpr
        intro b hb
        have := hlater a ha b hb
        simp only [decide_eq_true_eq]
        omega
      have hcount := h a ha
      rw [hnone, List.length_nil]
      omega
    · have hnone : later.filter (fun b => tier b < tier a) = [] := by
        apply List.filter_eq_nil_iff.mpr
        intro b hb
        have := hsame a ha b hb
        simp only [decide_eq_true_eq]
        omega
      have hcount := List.length_filter_le (fun b => tier b < tier a) pool
      rw [hnone, List.length_nil]
      omega
  · exact h

lemma Fills.perm {pool' selected' : List α} (h : Fills tier pool needed selected) (hpool : pool.Perm pool')
    (hselected : selected.Perm selected') : Fills tier pool' needed selected' := by
  refine ⟨?_, hselected.nodup_iff.mp h.nodup, ?_, ?_⟩
  · exact fun a ha => hpool.subset (h.subset (hselected.symm.subset ha))
  · rw [← hselected.length_eq, ← hpool.length_eq]
    exact h.length
  · intro a ha b hb htier
    exact hselected.subset (h.earlier a (hselected.symm.subset ha) b (hpool.symm.subset hb) htier)

/-- Where every tier was admitted with room left, a full selection in the order of its tiers ends in the last tier there is. -/
lemma Fills.tier_le_last {last : α} {front : List α} (h : Fills tier pool needed (front ++ [last]))
    (hsorted : (front ++ [last]).Pairwise fun a b => tier a ≤ tier b) (hpool : Admitted tier pool needed)
    (hfull : (front ++ [last]).length = needed) {a : α} (ha : a ∈ pool) : tier a ≤ tier last := by
  by_contra hlt
  have hall : front ++ [last] ⊆ pool.filter fun b => tier b < tier a := by
    intro b hb
    refine List.mem_filter.mpr ⟨h.subset hb, decide_eq_true ?_⟩
    obtain hfront | hlast := List.mem_append.mp hb
    · have hle := (List.pairwise_append.mp hsorted).2.2 b hfront last (List.mem_singleton.mpr rfl)
      omega
    · rw [List.mem_singleton.mp hlast]
      exact not_le.mp hlt
  have hcount := (h.nodup.subperm hall).length_le
  have hroom := hpool a ha
  omega

/-- Another element of the pool takes the second place, and what comes after the last place is dropped: the element that had
the last place is of the last tier, as the new one is or may be. -/
theorem Fills.pin [DecidableEq α] {first second : α} {tail : List α} (h : Fills tier pool needed (first :: tail))
    (hsorted : (first :: tail).Pairwise fun a b => tier a ≤ tier b) (hpool : Admitted tier pool needed)
    (hsecond : second ∈ pool) (hne : second ≠ first) :
    Fills tier pool needed ((first :: second :: tail.filter fun a => a ≠ first ∧ a ≠ second).take needed) := by
  have hfirst : first ∉ tail := (List.nodup_cons.mp h.nodup).1
  have htail : tail.Nodup := (List.nodup_cons.mp h.nodup).2
  have hle := h.length_le
  rw [List.length_cons] at hle
  by_cases hmem : second ∈ tail
  · have hfilter : (tail.filter fun a => a ≠ first ∧ a ≠ second) = tail.erase second := by
      rw [htail.erase_eq_filter]
      apply List.filter_congr
      intro a ha
      have haf : a ≠ first := fun heq => hfirst (heq ▸ ha)
      simp [haf, bne, Bool.beq_eq_decide_eq]
    have hperm : (first :: second :: tail.erase second).Perm (first :: tail) := (List.perm_cons_erase hmem).symm.cons first
    rw [hfilter, List.take_of_length_le (by rw [hperm.length_eq]; exact h.length_le)]
    exact h.perm (List.Perm.refl _) hperm.symm
  · have hfilter : (tail.filter fun a => a ≠ first ∧ a ≠ second) = tail := by
      apply List.filter_eq_self.mpr
      intro a ha
      have haf : a ≠ first := fun heq => hfirst (heq ▸ ha)
      have has : a ≠ second := fun heq => hmem (heq ▸ ha)
      simp [haf, has]
    have hout : second ∉ first :: tail := by
      rw [List.mem_cons]
      exact fun hor => hor.elim hne hmem
    have hfull : (first :: tail).length = needed := by
      by_contra hshort
      exact hout (h.mem_of_short (lt_of_le_of_ne h.length_le hshort) hsecond)
    rw [hfilter]
    obtain rfl | ⟨front, last, rfl⟩ := List.eq_nil_or_concat' tail
    · obtain rfl : needed = 1 := hfull.symm
      exact h
    · have htake : (first :: second :: (front ++ [last])).take needed = first :: second :: front := by
        rw [← hfull, List.length_cons, List.length_append, List.length_singleton, List.take_succ_cons, List.take_succ_cons,
          List.take_left]
      rw [htake]
      rw [← List.cons_append] at h hsorted hfull hout
      have hlast : ∀ a ∈ pool, tier a ≤ tier last := fun a ha => h.tier_le_last hsorted hpool hfull ha
      have hperm : (first :: second :: front).Perm (second :: first :: front) := List.Perm.swap _ _ _
      obtain ⟨hfront, -, hapart⟩ := List.nodup_append.mp h.nodup
      suffices hswap : Fills tier pool needed (second :: first :: front) from hswap.perm (List.Perm.refl _) hperm.symm
      have hkept : ∀ b ∈ (first :: front) ++ [last], tier b < tier last → b ∈ second :: first :: front := by
        intro b hb htier
        obtain hb | hb := List.mem_append.mp hb
        · exact List.mem_cons_of_mem _ hb
        · rw [List.mem_singleton.mp hb] at htier
          exact absurd htier (lt_irrefl _)
      refine ⟨?_, ?_, ?_, ?_⟩
      · apply List.cons_subset.mpr
        exact ⟨hsecond, fun a ha => h.subset (List.mem_append_left _ ha)⟩
      · exact List.nodup_cons.mpr ⟨fun hin => hout (List.mem_append_left _ hin), hfront⟩
      · rw [← h.length]
        simp
      · intro a ha b hb htier
        have hbelow : tier b < tier last := by
          obtain rfl | ha := List.mem_cons.mp ha
          · exact htier.trans_le (hlast a hsecond)
          · exact htier.trans_le (hlast a (h.subset (List.mem_append_left _ ha)))
        exact hkept b (h.earlier last (List.mem_append_right _ (List.mem_singleton.mpr rfl)) b hb hbelow) hbelow

end Tiers
