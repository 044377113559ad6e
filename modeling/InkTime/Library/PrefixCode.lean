import Mathlib.Tactic

/-!
# Prefix codes

Letters written one after the other up to an end mark. Where one letter can be read off the front, the whole text can.
-/

namespace PrefixCode

variable {α β : Type} {encode : α → List β} {read : List β → Option (α × List β)} {stop : β}

/-- `read` takes one letter off the front. -/
def Reads (encode : α → List β) (read : List β → Option (α × List β)) : Prop :=
  ∀ letter rest, read (encode letter ++ rest) = some (letter, rest)

lemma Reads.inj (h : Reads encode read) {first second : α} {rest rest' : List β} (heq : encode first ++ rest = encode second ++ rest') :
    first = second ∧ rest = rest' := by
  have hread := h first rest
  rw [heq, h second rest', Option.some.injEq, Prod.mk.injEq] at hread
  exact ⟨hread.1.symm, hread.2.symm⟩

/-- No letter begins with the end mark, and none is empty. -/
def Stops (encode : α → List β) (stop : β) : Prop := ∀ letter rest rest', encode letter ++ rest ≠ stop :: rest'

theorem flatMap_inj (h : Reads encode read) (hstop : Stops encode stop) {text text' : List α} {rest rest' : List β}
    (heq : text.flatMap encode ++ stop :: rest = text'.flatMap encode ++ stop :: rest') : text = text' ∧ rest = rest' := by
  induction text generalizing text' with
  | nil =>
    cases text' with
    | nil =>
      rw [List.flatMap_nil, List.nil_append, List.nil_append, List.cons.injEq] at heq
      exact ⟨rfl, heq.2⟩
    | cons letter text' =>
      rw [List.flatMap_nil, List.nil_append, List.flatMap_cons, List.append_assoc] at heq
      exact absurd heq.symm (hstop _ _ _)
  | cons letter text ih =>
    rw [List.flatMap_cons, List.append_assoc] at heq
    cases text' with
    | nil => exact absurd heq (hstop _ _ _)
    | cons letter' text' =>
      rw [List.flatMap_cons, List.append_assoc] at heq
      obtain ⟨rfl, htail⟩ := h.inj heq
      obtain ⟨rfl, hrest⟩ := ih htail
      exact ⟨rfl, hrest⟩

end PrefixCode
