import Mathlib.Tactic

/-!
# Lists of one or two runs

A list is alike where all its entries are the same, and of two runs where it is one list that is alike followed by another.
Both go over to sublists, so a list with two changes from entry to entry is not of two runs.
-/

namespace Repeats

variable {α : Type}

/-- Copies of one value. -/
def Alike (values : List α) : Prop := ∀ first ∈ values, ∀ second ∈ values, first = second

/-- Copies of one value, then copies of at most one other. -/
def TwoRuns (values : List α) : Prop := ∃ front back, values = front ++ back ∧ Alike front ∧ Alike back

lemma alike_of_all {values : List α} {value : α} (h : ∀ other ∈ values, other = value) : Alike values := by
  intro first hfirst second hsecond
  rw [h first hfirst, h second hsecond]

lemma alike_nil : Alike ([] : List α) := fun _ hfirst => absurd hfirst List.not_mem_nil

lemma Alike.twoRuns {values : List α} (h : Alike values) : TwoRuns values := ⟨values, [], (List.append_nil values).symm, h, alike_nil⟩

lemma Alike.sublist {values fewer : List α} (h : Alike values) (hsub : fewer.Sublist values) : Alike fewer :=
  fun first hfirst second hsecond => h first (hsub.subset hfirst) second (hsub.subset hsecond)

lemma TwoRuns.sublist {values fewer : List α} (h : TwoRuns values) (hsub : fewer.Sublist values) : TwoRuns fewer := by
  obtain ⟨front, back, rfl, hfront, hback⟩ := h
  obtain ⟨left, right, rfl, hleft, hright⟩ := List.sublist_append_iff.mp hsub
  exact ⟨left, right, rfl, hfront.sublist hleft, hback.sublist hright⟩

/-- Two changes from entry to entry are one too many. -/
lemma not_twoRuns_three {first second third : α} (hfirst : first ≠ second) (hsecond : second ≠ third) :
    ¬TwoRuns [first, second, third] := by
  rintro ⟨front, back, heq, hfront, hback⟩
  cases front with
  | nil =>
    rw [List.nil_append] at heq
    subst heq
    exact hfirst (hback first (by simp) second (by simp))
  | cons head rest =>
    obtain ⟨rfl, hrest⟩ := List.cons.inj heq
    cases rest with
    | nil =>
      obtain rfl : [second, third] = back := hrest
      exact hsecond (hback second (by simp) third (by simp))
    | cons next rest =>
      obtain ⟨rfl, -⟩ := List.cons.inj hrest
      exact hfirst (hfront first (by simp) second (by simp))

/-- After two different entries, one that differs from the second. -/
lemma not_twoRuns_of_pair {values : List α} {first second third : α} (hpair : [first, second].Sublist values)
    (hfirst : first ≠ second) (hsecond : second ≠ third) : ¬TwoRuns (values ++ [third]) := by
  intro h
  have hthree : [first, second, third].Sublist (values ++ [third]) := hpair.append (List.Sublist.refl [third])
  exact not_twoRuns_three hfirst hsecond (h.sublist hthree)

end Repeats
