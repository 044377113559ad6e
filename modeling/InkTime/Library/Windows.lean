import Mathlib.Tactic

/-!
# Counting from the end

Where each element of a kind finds few of its kind before it, there are few of them altogether.
-/

namespace List

variable {α : Type}

theorem countP_le_of_earlier {p : α → Bool} {elements : List α} {bound : Nat}
    (h : ∀ earlier a later, elements = earlier ++ a :: later → p a = true → earlier.countP p < bound) :
    elements.countP p ≤ bound := by
  induction elements using List.reverseRecOn with
  | nil => exact Nat.zero_le _
  | append_singleton elements a ih =>
    cases hp : p a with
    | true =>
      have hearlier := h elements a [] rfl hp
      simp only [countP_append, countP_singleton, hp, if_true]
      omega
    | false =>
      simp only [countP_append, countP_singleton, hp, Bool.false_eq_true, if_false, Nat.add_zero]
      apply ih
      intro earlier b later heq hb
      exact h earlier b (later ++ [a]) (by simp [heq]) hb

/-- Where an extended list is split: at its new element or before. -/
lemma append_singleton_eq_append_cons {l earlier later : List α} {a b : α} (h : l ++ [a] = earlier ++ b :: later) :
    (l = earlier ∧ a = b) ∨ ∃ rest, l = earlier ++ b :: rest := by
  cases later using List.reverseRecOn with
  | nil =>
    obtain ⟨hl, hab⟩ := append_inj' h rfl
    exact .inl ⟨hl, (cons.inj hab).1⟩
  | append_singleton rest c =>
    rw [← cons_append, ← append_assoc] at h
    exact .inr ⟨rest, (append_inj' h rfl).1⟩

end List
