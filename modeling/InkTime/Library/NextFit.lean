import Mathlib.Tactic

/-!
# Groups filled in turn

Items go into the open group as long as they fit beside what it holds. An item that does not fit closes the group and
opens the next one; an empty open group stands for none.
-/

namespace NextFit

variable {α : Type}

def close (current : List α) : List (List α) := if current.isEmpty then [] else [current]

/-- The groups that `items` end in, with `current` the open one. -/
def fill (fits : List α → α → Bool) : List α → List α → List (List α)
  | current, [] => close current
  | current, item :: items =>
    if !current.isEmpty && fits current item then fill fits (current ++ [item]) items
    else close current ++ fill fits [item] items

/-- Every item after the first fitted beside the ones before it. -/
def Stepwise (fits : List α → α → Bool) (group : List α) : Prop :=
  ∀ front item back, group = front ++ item :: back → front ≠ [] → fits front item = true

/-- The first item of the later group did not fit into the earlier one. -/
def Overflows (fits : List α → α → Bool) (earlier later : List α) : Prop :=
  ∃ item rest, later = item :: rest ∧ fits earlier item = false

variable {fits : List α → α → Bool} {current items : List α}

lemma close_flatten (current : List α) : (close current).flatten = current := by
  unfold close
  cases current with
  | nil => rfl
  | cons item rest => simp

lemma close_of_ne_nil (h : current ≠ []) : close current = [current] := by
  rw [close, if_neg]
  rwa [List.isEmpty_iff]

theorem fill_flatten (current items : List α) : (fill fits current items).flatten = current ++ items := by
  induction items generalizing current with
  | nil => rw [fill, close_flatten, List.append_nil]
  | cons item items ih =>
    rw [fill]
    split
    · rw [ih, List.append_assoc, List.singleton_append]
    · rw [List.flatten_append, close_flatten, ih, List.singleton_append]

theorem fill_ne_nil (current items : List α) : ∀ group ∈ fill fits current items, group ≠ [] := by
  have hclose : ∀ current : List α, ∀ group ∈ close current, group ≠ [] := by
    intro current group hgroup hnil
    unfold close at hgroup
    split at hgroup
    · cases hgroup
    · next hopen =>
      rw [List.mem_singleton.mp hgroup] at hnil
      exact hopen (List.isEmpty_iff.mpr hnil)
  induction items generalizing current with
  | nil => exact hclose current
  | cons item items ih =>
    rw [fill]
    split
    · exact ih _
    · intro group hgroup
      obtain hgroup | hgroup := List.mem_append.mp hgroup
      · exact hclose current group hgroup
      · exact ih _ group hgroup

/-- The open group is the front of the first group. -/
lemma fill_eq_cons (h : current ≠ []) (items : List α) :
    ∃ rest groups, fill fits current items = (current ++ rest) :: groups := by
  induction items generalizing current with
  | nil => exact ⟨[], [], by rw [fill, close_of_ne_nil h, List.append_nil]⟩
  | cons item items ih =>
    rw [fill]
    split
    · obtain ⟨rest, groups, heq⟩ := ih (show current ++ [item] ≠ [] by simp)
      exact ⟨item :: rest, groups, by rw [heq, List.append_assoc, List.singleton_append]⟩
    · exact ⟨[], fill fits [item] items, by rw [close_of_ne_nil h, List.append_nil, List.singleton_append]⟩

lemma stepwise_nil : Stepwise fits [] := by
  intro front item back heq
  simp at heq

lemma Stepwise.snoc (h : Stepwise fits current) {item : α} (hitem : current ≠ [] → fits current item = true) :
    Stepwise fits (current ++ [item]) := by
  intro front other back heq hfront
  obtain rfl | ⟨init, last, rfl⟩ := List.eq_nil_or_concat' back
  · obtain ⟨rfl, hlast⟩ := List.append_inj' heq rfl
    rw [← (List.cons.inj hlast).1]
    exact hitem hfront
  · rw [← List.cons_append, ← List.append_assoc] at heq
    exact h front other init (List.append_inj' heq rfl).1 hfront

theorem fill_stepwise (h : Stepwise fits current) (items : List α) :
    ∀ group ∈ fill fits current items, Stepwise fits group := by
  have hclose : ∀ current : List α, Stepwise fits current → ∀ group ∈ close current, Stepwise fits group := by
    intro current hcurrent group hgroup
    unfold close at hgroup
    split at hgroup
    · cases hgroup
    · rwa [List.mem_singleton.mp hgroup]
  induction items generalizing current with
  | nil => exact hclose current h
  | cons item items ih =>
    rw [fill]
    split
    · next hfits =>
      exact ih (h.snoc fun _ => (Bool.and_eq_true_iff.mp hfits).2)
    · have hsingle : Stepwise fits [item] := stepwise_nil.snoc fun hnil => absurd rfl hnil
      intro group hgroup
      obtain hgroup | hgroup := List.mem_append.mp hgroup
      · exact hclose current h group hgroup
      · exact ih hsingle group hgroup

theorem fill_overflows (current items : List α) : (fill fits current items).IsChain (Overflows fits) := by
  induction items generalizing current with
  | nil =>
    rw [fill, close]
    split
    · exact .nil
    · exact .singleton _
  | cons item items ih =>
    rw [fill]
    split
    · exact ih _
    · next hclosed =>
      obtain hnil | hopen := eq_or_ne current []
      · rw [hnil]
        exact ih _
      · obtain ⟨rest, groups, heq⟩ : ∃ rest groups, fill fits [item] items = ([item] ++ rest) :: groups :=
          fill_eq_cons (List.cons_ne_nil item []) items
        have hmisfit : fits current item = false := by
          rw [Bool.and_eq_true_iff, not_and, Bool.not_eq_true] at hclosed
          exact hclosed (by rwa [Bool.not_eq_true', List.isEmpty_eq_false_iff])
        have hchain := ih [item]
        rw [close_of_ne_nil hopen, List.singleton_append, heq]
        rw [heq] at hchain
        exact .cons_cons ⟨item, rest, rfl, hmisfit⟩ hchain

end NextFit
