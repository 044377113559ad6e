import Mathlib.Tactic

/-!
# Latest-wins registers

A register keeps the value with the latest stamp it was offered. An equal stamp with another value is
refused, so that what the register holds depends on the set of accepted offers only, not on their order.
-/

namespace Latest

variable {α τ : Type} [LinearOrder τ]

/-- The register after an offer, or `none` where the offer is refused. -/
def offer [DecidableEq α] (held : Option (α × τ)) (entry : α × τ) : Option (Option (α × τ)) :=
  match held with
  | none => some (some entry)
  | some current =>
    if current.2 < entry.2 then some (some entry)
    else if entry.2 = current.2 ∧ current.1 ≠ entry.1 then none
    else some (some current)

/-- `held` has the latest stamp of the log, and is the only value with it. -/
def IsLatest (held : Option (α × τ)) (log : List (α × τ)) : Prop :=
  match held with
  | none => log = []
  | some current => current ∈ log ∧ ∀ entry ∈ log, entry.2 ≤ current.2 ∧ (entry.2 = current.2 → entry.1 = current.1)

/-- Accepted offers keep the register at the latest entry of the log. -/
lemma IsLatest.offer [DecidableEq α] {held held' : Option (α × τ)} {log : List (α × τ)} {entry : α × τ}
    (h : IsLatest held log) (haccepted : offer held entry = some held') : IsLatest held' (log ++ [entry]) := by
  cases held with
  | none =>
    obtain rfl := Option.some.inj haccepted
    obtain rfl : log = [] := h
    simp [IsLatest]
  | some current =>
    obtain ⟨hmem, hlatest⟩ := h
    simp only [Latest.offer] at haccepted
    split at haccepted
    · next hlater =>
      obtain rfl := Option.some.inj haccepted
      refine ⟨by simp, ?_⟩
      intro other hother
      rw [List.mem_append, List.mem_singleton] at hother
      obtain hother | rfl := hother
      · have hle := (hlatest other hother).1
        exact ⟨(hle.trans_lt hlater).le, fun heq => absurd (heq ▸ hle) (not_le.mpr hlater)⟩
      · exact ⟨le_rfl, fun _ => rfl⟩
    split at haccepted
    · cases haccepted
    · next hnot_later hno_conflict =>
      obtain rfl := Option.some.inj haccepted
      refine ⟨by simp [hmem], ?_⟩
      intro other hother
      rw [List.mem_append, List.mem_singleton] at hother
      obtain hother | rfl := hother
      · exact hlatest other hother
      · refine ⟨not_lt.mp hnot_later, ?_⟩
        intro heq
        by_contra hne
        exact hno_conflict ⟨heq, Ne.symm hne⟩

/-- Two logs with the same entries have the same latest one. -/
lemma IsLatest.unique {held held' : Option (α × τ)} {log log' : List (α × τ)} (h : IsLatest held log)
    (h' : IsLatest held' log') (hsame : ∀ entry, entry ∈ log ↔ entry ∈ log') : held = held' := by
  cases held with
  | none =>
    obtain rfl : log = [] := h
    cases held' with
    | none => rfl
    | some other => exact absurd ((hsame other).mpr h'.1) List.not_mem_nil
  | some current =>
    cases held' with
    | none =>
      obtain rfl : log' = [] := h'
      exact absurd ((hsame current).mp h.1) List.not_mem_nil
    | some other =>
      have hle := (h'.2 current ((hsame current).mp h.1)).1
      have hge := (h.2 other ((hsame other).mpr h'.1)).1
      have hstamp : current.2 = other.2 := le_antisymm hle hge
      exact congrArg some (Prod.ext ((h'.2 current ((hsame current).mp h.1)).2 hstamp) hstamp)

end Latest
