import Mathlib.Tactic

/-!
# Runs in lockstep

Two calls run step by step on related states. They end alike: both with related results or both with an error. Where a
difference in errors is let pass, only results are compared. One run establishes what one of its steps does and none undoes.
-/

namespace Lockstep

variable {ε σ τ α β : Type}

/-- Two calls that end alike; where `lenient`, one may end with an error and the other not. -/
def Alike (lenient : Prop) (R : σ → τ → Prop) : Except ε σ → Except ε τ → Prop
  | .ok s, .ok t => R s t
  | .error _, .error _ => True
  | _, _ => lenient

variable {lenient : Prop} {R : σ → τ → Prop} {S : α → β → Prop}

lemma Alike.same {x : Except ε σ} {R : σ → σ → Prop} (h : ∀ s, x = .ok s → R s s) : Alike lenient R x x := by
  cases x with
  | error e => trivial
  | ok s => exact h s rfl

lemma Alike.bind {x : Except ε σ} {y : Except ε τ} {f : σ → Except ε α} {g : τ → Except ε β} (h : Alike lenient R x y)
    (hstep : ∀ s t, x = .ok s → y = .ok t → R s t → Alike lenient S (f s) (g t)) : Alike lenient S (x >>= f) (y >>= g) := by
  cases x with
  | error e =>
    cases y with
    | error e' => trivial
    | ok t =>
      change Alike lenient S (.error e) (g t)
      cases g t with
      | error e' => trivial
      | ok b => exact h
  | ok s =>
    cases y with
    | error e' =>
      change Alike lenient S (f s) (.error e')
      cases f s with
      | error e => trivial
      | ok a => exact h
    | ok t => exact hstep s t rfl rfl h

/-- Steps that keep two states related keep whole runs alike. -/
theorem Alike.foldlM {steps : List α} {f : σ → α → Except ε σ} {g : τ → α → Except ε τ} {s : σ} {t : τ} (h : R s t)
    (hstep : ∀ a ∈ steps, ∀ s t, R s t → Alike lenient R (f s a) (g t a)) :
    Alike lenient R (steps.foldlM f s) (steps.foldlM g t) := by
  induction steps generalizing s t with
  | nil => exact h
  | cons a rest ih =>
    rw [List.foldlM_cons, List.foldlM_cons]
    apply Alike.bind (hstep a List.mem_cons_self s t h)
    intro s' t' _ _ h'
    exact ih h' fun b hb => hstep b (List.mem_cons_of_mem _ hb)

lemma Alike.related {x : Except ε σ} {y : Except ε τ} (h : Alike lenient R x y) {s : σ} {t : τ} (hs : x = .ok s) (ht : y = .ok t) :
    R s t := by
  subst hs ht
  exact h

lemma Alike.isOk_eq {x : Except ε σ} {y : Except ε τ} (h : Alike False R x y) : x.isOk = y.isOk := by
  cases x with
  | error e =>
    cases y with
    | error e' => rfl
    | ok t => exact h.elim
  | ok s =>
    cases y with
    | error e' => exact h.elim
    | ok t => rfl

/-! ### One run -/

theorem foldlM_keeps {P : σ → Prop} {steps : List α} {f : σ → α → Except ε σ} {s s' : σ} (h : P s) (hrun : steps.foldlM f s = .ok s')
    (hstep : ∀ a ∈ steps, ∀ s s', P s → f s a = .ok s' → P s') : P s' := by
  have halike : Alike True (fun s _ => P s) (steps.foldlM f s) (steps.foldlM f s) := by
    apply Alike.foldlM h
    intro a ha s t hs
    cases hs' : f s a with
    | error e => cases f t a <;> trivial
    | ok s' =>
      cases f t a with
      | error e => trivial
      | ok t' => exact hstep a ha s s' hs hs'
  exact halike.related hrun hrun

/-- What one step does and no step undoes holds after the run. -/
theorem foldlM_establishes {P Q : σ → Prop} {steps : List α} {f : σ → α → Except ε σ} {a : α} {s s' : σ} (ha : a ∈ steps) (h : P s)
    (hrun : steps.foldlM f s = .ok s') (hP : ∀ a ∈ steps, ∀ s s', P s → f s a = .ok s' → P s')
    (hQ : ∀ a ∈ steps, ∀ s s', P s → Q s → f s a = .ok s' → Q s') (hreach : ∀ s s', P s → f s a = .ok s' → Q s') : Q s' := by
  induction steps generalizing s with
  | nil => cases ha
  | cons b rest ih =>
    rw [List.foldlM_cons] at hrun
    cases hb : f s b with
    | error e =>
      rw [hb] at hrun
      cases hrun
    | ok between =>
      rw [hb] at hrun
      have hbetween := hP b List.mem_cons_self s between h hb
      have hP' := fun a ha => hP a (List.mem_cons_of_mem _ ha)
      have hQ' := fun a ha => hQ a (List.mem_cons_of_mem _ ha)
      obtain rfl | hrest := List.mem_cons.mp ha
      · have hboth : P s' ∧ Q s' := foldlM_keeps (P := fun s => P s ∧ Q s) ⟨hbetween, hreach s between h hb⟩ hrun
          fun a ha s s' hs hs' => ⟨hP' a ha s s' hs.1 hs', hQ' a ha s s' hs.1 hs.2 hs'⟩
        exact hboth.2
      · exact ih hrest hbetween hrun hP' hQ'

/-- Steps that follow those of a run without errors end without one, and related to it. -/
theorem foldlM_follows {R : σ → τ → Prop} {steps : List α} {f : σ → α → Except ε σ} {g : τ → α → τ} {s : σ} {t : τ} (h : R s t)
    (hstep : ∀ a ∈ steps, ∀ s t, R s t → ∃ s', f s a = .ok s' ∧ R s' (g t a)) :
    ∃ s', steps.foldlM f s = .ok s' ∧ R s' (steps.foldl g t) := by
  induction steps generalizing s t with
  | nil => exact ⟨s, rfl, h⟩
  | cons a rest ih =>
    obtain ⟨between, hbetween, hrelated⟩ := hstep a List.mem_cons_self s t h
    obtain ⟨s', hs', hend⟩ := ih hrelated fun b hb => hstep b (List.mem_cons_of_mem _ hb)
    refine ⟨s', ?_, hend⟩
    rw [List.foldlM_cons, hbetween]
    exact hs'

/-- Steps that end without an error where a property holds, and keep it, make such a run. -/
theorem foldlM_ok {P : σ → Prop} {steps : List α} {f : σ → α → Except ε σ} {s : σ} (h : P s)
    (hstep : ∀ a ∈ steps, ∀ s, P s → ∃ s', f s a = .ok s' ∧ P s') : ∃ s', steps.foldlM f s = .ok s' ∧ P s' :=
  foldlM_follows (R := fun s (_ : Unit) => P s) (g := fun _ _ => ()) (t := ()) h fun a ha s _ hs => hstep a ha s hs

end Lockstep
