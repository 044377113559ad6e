import Mathlib.Tactic

/-!
# Bounded sets that forget their oldest entry

Entries are inserted one after another; an entry that is still in the window is not inserted again. The window holds the last
`capacity` insertions.
-/

namespace Fifo

variable {α : Type} [DecidableEq α] (capacity : ℕ)

/-- The last `capacity` entries of a log. -/
def window (log : List α) : List α := log.drop (log.length - capacity)

/-- An entry is inserted where the window does not hold it. -/
def insert (log : List α) (entry : α) : List α := if entry ∈ window capacity log then log else log ++ [entry]

/-- The entries in the order in which they were inserted. -/
def insertions (entries : List α) : List α := entries.foldl (insert capacity) []

variable {capacity} {log : List α} {entry other : α}

omit [DecidableEq α] in
lemma window_length : (window capacity log).length = min capacity log.length := by
  unfold window
  rw [List.length_drop]
  omega

omit [DecidableEq α] in
/-- A full window drops its oldest entry for a new one. -/
lemma window_append (hcapacity : 0 < capacity) : window capacity (log ++ [entry]) =
    (if (window capacity log).length = capacity then (window capacity log).tail else window capacity log) ++ [entry] := by
  rw [window_length]
  unfold window
  rw [List.length_append, List.length_singleton]
  split
  · rw [List.tail_drop, List.drop_append_of_le_length (by omega)]
    congr 2
    omega
  · rw [show log.length + 1 - capacity = 0 by omega, show log.length - capacity = 0 by omega]
    rfl

lemma insertions_snoc (entries : List α) (entry : α) :
    insertions capacity (entries ++ [entry]) = insert capacity (insertions capacity entries) entry := by
  simp [insertions]

lemma mem_of_mem_insertions {entries : List α} (h : entry ∈ insertions capacity entries) : entry ∈ entries := by
  induction entries using List.reverseRecOn with
  | nil => exact h
  | append_singleton entries last ih =>
    rw [insertions_snoc, insert] at h
    split at h
    · exact List.mem_append_left _ (ih h)
    · obtain h | h := List.mem_append.mp h
      · exact List.mem_append_left _ (ih h)
      · exact List.mem_append_right _ h

lemma insert_of_mem (h : entry ∈ window capacity log) : insert capacity log entry = log := if_pos h

lemma insert_of_notMem (h : entry ∉ window capacity log) : insert capacity log entry = log ++ [entry] := if_neg h

/-- The entry inserted last is in the window. -/
lemma mem_window_insert (hcapacity : 0 < capacity) : entry ∈ window capacity (insert capacity log entry) := by
  by_cases h : entry ∈ window capacity log
  · rwa [insert_of_mem h]
  · rw [insert_of_notMem h, window_append hcapacity]
    simp

lemma window_insert_nodup (hcapacity : 0 < capacity) (hlog : (window capacity log).Nodup) :
    (window capacity (insert capacity log entry)).Nodup := by
  by_cases h : entry ∈ window capacity log
  · rwa [insert_of_mem h]
  · rw [insert_of_notMem h, window_append hcapacity, List.nodup_append]
    split
    · refine ⟨hlog.sublist (List.tail_sublist _), List.nodup_singleton _, ?_⟩
      intro first hfirst second hsecond heq
      rw [heq, List.mem_singleton.mp hsecond] at hfirst
      exact h (List.mem_of_mem_tail hfirst)
    · refine ⟨hlog, List.nodup_singleton _, ?_⟩
      intro first hfirst second hsecond heq
      rw [heq, List.mem_singleton.mp hsecond] at hfirst
      exact h hfirst

/-- No entry stands twice in the window. -/
theorem window_insertions_nodup (hcapacity : 0 < capacity) (entries : List α) :
    (window capacity (insertions capacity entries)).Nodup := by
  induction entries using List.reverseRecOn with
  | nil => simp [insertions, window]
  | append_singleton entries entry ih =>
    rw [insertions_snoc]
    exact window_insert_nodup hcapacity ih

end Fifo
