import Mathlib.Tactic

/-!
# Groups of a list

A list is split into groups by a key, in the order in which the keys first occur, and a long group into
pieces of bounded length. A name that is taken is lengthened until it is free.
-/

namespace Partition

/-! ### Groups -/

section Groups

variable {ρ κ α : Type} [DecidableEq κ]

/-- A value joins the group of its key. -/
def addTo (key : κ) (value : α) : List (κ × List α) → List (κ × List α)
  | [] => [(key, [value])]
  | group :: rest => if group.1 = key then (key, group.2 ++ [value]) :: rest else group :: addTo key value rest

def groups (key : ρ → κ) (value : ρ → α) (rows : List ρ) : List (κ × List α) :=
  rows.foldl (fun found row => addTo (key row) (value row) found) []

variable {key : κ} {value : α} {found : List (κ × List α)}

lemma keys_addTo : (addTo key value found).map Prod.fst =
    if key ∈ found.map Prod.fst then found.map Prod.fst else found.map Prod.fst ++ [key] := by
  induction found with
  | nil => rfl
  | cons group rest ih =>
    unfold addTo
    by_cases hgroup : group.1 = key
    · rw [if_pos hgroup, List.map_cons, List.map_cons, if_pos (by rw [hgroup]; exact List.mem_cons_self ..), hgroup]
    · have hmem : key ∈ (group :: rest).map Prod.fst ↔ key ∈ rest.map Prod.fst := by
        rw [List.map_cons, List.mem_cons, or_iff_right (Ne.symm hgroup)]
      rw [if_neg hgroup, List.map_cons, ih]
      by_cases hrest : key ∈ rest.map Prod.fst
      · rw [if_pos hrest, if_pos (hmem.mpr hrest), List.map_cons]
      · rw [if_neg hrest, if_neg (mt hmem.mp hrest), List.map_cons, List.cons_append]

lemma mem_addTo {group : κ × List α} (hdistinct : (found.map Prod.fst).Nodup) (h : group ∈ addTo key value found) :
    (group ∈ found ∧ group.1 ≠ key) ∨ (group = (key, [value]) ∧ key ∉ found.map Prod.fst) ∨
      ∃ members, (key, members) ∈ found ∧ group = (key, members ++ [value]) := by
  induction found with
  | nil =>
    rw [addTo, List.mem_singleton] at h
    exact .inr (.inl ⟨h, List.not_mem_nil⟩)
  | cons first rest ih =>
    rw [List.map_cons, List.nodup_cons] at hdistinct
    unfold addTo at h
    split at h
    · next hfirst =>
      obtain hgroup | hrest := List.mem_cons.mp h
      · exact .inr (.inr ⟨first.2, hfirst ▸ List.mem_cons_self .., hgroup⟩)
      · refine .inl ⟨List.mem_cons_of_mem _ hrest, ?_⟩
        intro hkey
        exact hdistinct.1 (hfirst.trans hkey.symm ▸ List.mem_map_of_mem hrest)
    · next hfirst =>
      obtain hgroup | hrest := List.mem_cons.mp h
      · rw [hgroup]
        exact .inl ⟨List.mem_cons_self .., hfirst⟩
      obtain ⟨hmem, hkey⟩ | ⟨hgroup, hnew⟩ | ⟨members, hmembers, hgroup⟩ := ih hdistinct.2 hrest
      · exact .inl ⟨List.mem_cons_of_mem _ hmem, hkey⟩
      · refine .inr (.inl ⟨hgroup, ?_⟩)
        rw [List.map_cons, List.mem_cons, not_or]
        exact ⟨Ne.symm hfirst, hnew⟩
      · exact .inr (.inr ⟨members, List.mem_cons_of_mem _ hmembers, hgroup⟩)

lemma addTo_perm : ((addTo key value found).flatMap Prod.snd).Perm (found.flatMap Prod.snd ++ [value]) := by
  induction found with
  | nil => exact List.Perm.refl _
  | cons group rest ih =>
    unfold addTo
    split
    · rw [List.flatMap_cons, List.flatMap_cons, List.append_assoc, List.append_assoc]
      exact List.Perm.append_left _ List.perm_append_comm
    · rw [List.flatMap_cons, List.flatMap_cons, List.append_assoc]
      exact List.Perm.append_left _ ih

/-- The groups of some rows: one for each key, with the values of the rows that have it in their order. -/
structure Grouped (key : ρ → κ) (value : ρ → α) (rows : List ρ) (found : List (κ × List α)) : Prop where
  distinct : (found.map Prod.fst).Nodup
  keys : ∀ k, k ∈ found.map Prod.fst ↔ k ∈ rows.map key
  members : ∀ group ∈ found, group.2 = (rows.filter fun row => key row = group.1).map value
  perm : (found.flatMap Prod.snd).Perm (rows.map value)

lemma Grouped.snoc {key : ρ → κ} {value : ρ → α} {rows : List ρ} {found : List (κ × List α)} (h : Grouped key value rows found)
    (row : ρ) : Grouped key value (rows ++ [row]) (addTo (key row) (value row) found) where
  distinct := by
    rw [keys_addTo]
    split
    · exact h.distinct
    · next hnew =>
      rw [List.nodup_append]
      refine ⟨h.distinct, List.nodup_singleton _, ?_⟩
      intro k hk other hother heq
      rw [List.mem_singleton.mp hother] at heq
      exact hnew (heq ▸ hk)
  keys := by
    intro k
    rw [keys_addTo, List.map_append, List.mem_append, List.map_singleton, List.mem_singleton, ← h.keys]
    split
    · next hold =>
      refine ⟨.inl, ?_⟩
      rintro (hk | hk)
      · exact hk
      · exact hk ▸ hold
    · rw [List.mem_append, List.mem_singleton]
  members := by
    intro group hgroup
    rw [List.filter_append, List.map_append]
    obtain ⟨hmem, hkey⟩ | ⟨hnew, hfresh⟩ | ⟨members, hmem, hnew⟩ := mem_addTo h.distinct hgroup
    · rw [List.filter_singleton, decide_eq_false (Ne.symm hkey), h.members group hmem]
      exact (List.append_nil _).symm
    · have hnone : rows.filter (fun other => key other = key row) = [] := by
        rw [List.filter_eq_nil_iff]
        intro other hother heq
        exact hfresh ((h.keys _).mpr (of_decide_eq_true heq ▸ List.mem_map_of_mem hother))
      rw [hnew, hnone, List.filter_singleton, decide_eq_true rfl]
      rfl
    · have hmembers : members = (rows.filter fun other => key other = key row).map value := h.members _ hmem
      rw [hnew, hmembers, List.filter_singleton, decide_eq_true rfl]
      rfl
  perm := by
    rw [List.map_append]
    exact addTo_perm.trans (h.perm.append_right _)

theorem grouped (key : ρ → κ) (value : ρ → α) (rows : List ρ) : Grouped key value rows (groups key value rows) := by
  induction rows using List.reverseRecOn with
  | nil => exact ⟨List.nodup_nil, fun k => Iff.rfl, fun group hgroup => absurd hgroup List.not_mem_nil, List.Perm.refl _⟩
  | append_singleton rows row ih =>
    unfold groups
    rw [List.foldl_append]
    exact ih.snoc row

lemma Grouped.nonempty {key : ρ → κ} {value : ρ → α} {rows : List ρ} {found : List (κ × List α)} (h : Grouped key value rows found)
    {group : κ × List α} (hgroup : group ∈ found) : group.2 ≠ [] := by
  obtain ⟨row, hrow, hkey⟩ := List.mem_map.mp ((h.keys group.1).mp (List.mem_map_of_mem hgroup))
  rw [h.members group hgroup]
  apply List.ne_nil_of_mem (List.mem_map_of_mem (a := row) (List.mem_filter.mpr ⟨hrow, decide_eq_true hkey⟩))

end Groups

/-! ### Pieces -/

section Pieces

variable {α : Type} (size : ℕ) (items : List α)

def pieces : List (List α) := (List.range ((items.length + size - 1) / size)).map fun i => (items.drop (size * i)).take size

lemma flatten_take_pieces (count : ℕ) : ((List.range count).map fun i => (items.drop (size * i)).take size).flatten =
    items.take (size * count) := by
  induction count with
  | zero => simp
  | succ count ih =>
    rw [List.range_succ, List.map_append, List.flatten_append, ih, List.map_singleton, List.flatten_singleton, Nat.mul_succ, List.take_add]

lemma flatten_pieces (h : 0 < size) : (pieces size items).flatten = items := by
  unfold pieces
  rw [flatten_take_pieces, List.take_of_length_le]
  have hdiv := Nat.div_add_mod (items.length + size - 1) size
  have hmod := Nat.mod_lt (items.length + size - 1) h
  omega

lemma length_of_mem_pieces {piece : List α} (h : piece ∈ pieces size items) : 0 < piece.length ∧ piece.length ≤ size := by
  obtain ⟨i, hi, hpiece⟩ := List.mem_map.mp h
  rw [List.mem_range] at hi
  have hsize : 0 < size := by
    by_contra hzero
    rw [Nat.eq_zero_of_not_pos hzero, Nat.div_zero] at hi
    omega
  have hmul := (Nat.le_div_iff_mul_le hsize).mp hi
  rw [Nat.succ_mul, Nat.mul_comm] at hmul
  rw [← hpiece, List.length_take, List.length_drop]
  omega

end Pieces

/-! ### Free names -/

section Free

variable {α : Type} [DecidableEq α] (next : α → α) (taken : List α)

/-- The first name from `name` on that is not taken. -/
def free : ℕ → α → α
  | 0, name => name
  | tries + 1, name => if name ∈ taken then free tries (next name) else name

variable {next taken} {measure : α → ℕ}

lemma free_notMem_of_le (hnext : ∀ name, measure name < measure (next name)) {tries : ℕ} {name : α}
    (h : (taken.filter fun other => measure name ≤ measure other).length ≤ tries) : free next taken tries name ∉ taken := by
  induction tries generalizing name with
  | zero =>
    intro hmem
    rw [Nat.le_zero, List.length_eq_zero_iff, List.filter_eq_nil_iff] at h
    exact h name hmem (decide_eq_true le_rfl)
  | succ tries ih =>
    unfold free
    split
    · next hmem =>
      apply ih
      -- The name itself no longer counts.
      have hless : (taken.filter fun other => measure (next name) ≤ measure other).length <
          (taken.filter fun other => measure name ≤ measure other).length := by
        have hsub : taken.filter (fun other => measure (next name) ≤ measure other) =
            (taken.filter fun other => measure name ≤ measure other).filter fun other => measure (next name) ≤ measure other := by
          rw [List.filter_filter]
          apply List.filter_congr
          intro other _
          have hname := hnext name
          rw [← Bool.decide_and]
          exact decide_eq_decide.mpr ⟨fun hle => ⟨hle, by omega⟩, And.left⟩
        rw [hsub, List.length_filter_lt_length_iff_exists]
        refine ⟨name, List.mem_filter.mpr ⟨hmem, decide_eq_true le_rfl⟩, ?_⟩
        rw [decide_eq_false (Nat.not_le.mpr (hnext name))]
        exact Bool.false_ne_true
      omega
    · next hfree => exact hfree

variable (taken) in
/-- As many tries as there are names taken find a free one. -/
theorem free_notMem (hnext : ∀ name, measure name < measure (next name)) (name : α) : free next taken taken.length name ∉ taken :=
  free_notMem_of_le hnext (List.length_filter_le ..)

end Free

end Partition
