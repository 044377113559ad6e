import Mathlib.Tactic

/-!
# Runs of a state machine

Operations are applied one after another. `Along` asks something of every operation of a run at the
state it is applied in; an invariant that allowed operations keep then holds in every state reached.
-/

namespace Runs

variable {σ ι : Type} (step : σ → ι → σ)

def run (start : σ) (ops : List ι) : σ := ops.foldl step start

/-- Every operation meets `allowed` in the state it finds. -/
def Along (allowed : σ → ι → Prop) : σ → List ι → Prop
  | _, [] => True
  | state, op :: rest => allowed state op ∧ Along allowed (step state op) rest

instance decidableAlong (allowed : σ → ι → Prop) [∀ state op, Decidable (allowed state op)] :
    ∀ (state : σ) (ops : List ι), Decidable (Along step allowed state ops)
  | _, [] => isTrue trivial
  | state, op :: rest =>
    @instDecidableAnd _ _ (inferInstanceAs (Decidable (allowed state op)))
      (decidableAlong allowed (step state op) rest)

@[simp] lemma run_nil (start : σ) : run step start [] = start := rfl

@[simp] lemma run_cons (start : σ) (op : ι) (rest : List ι) :
    run step start (op :: rest) = run step (step start op) rest := rfl

lemma run_append (start : σ) (ops more : List ι) :
    run step start (ops ++ more) = run step (run step start ops) more := by
  simp [run, List.foldl_append]

lemma run_snoc (start : σ) (ops : List ι) (op : ι) : run step start (ops ++ [op]) = step (run step start ops) op :=
  run_append step start ops [op]

variable {step}

lemma along_append {allowed : σ → ι → Prop} {start : σ} {ops more : List ι} :
    Along step allowed start (ops ++ more) ↔ Along step allowed start ops ∧ Along step allowed (run step start ops) more := by
  induction ops generalizing start with
  | nil => simp [Along]
  | cons op rest ih => simp only [List.cons_append, Along, ih, run_cons, and_assoc]

lemma Along.mono {allowed allowed' : σ → ι → Prop} (h : ∀ state op, allowed state op → allowed' state op)
    {start : σ} {ops : List ι} (halong : Along step allowed start ops) : Along step allowed' start ops := by
  induction ops generalizing start with
  | nil => trivial
  | cons op rest ih => exact ⟨h start op halong.1, ih halong.2⟩

lemma Along.and {allowed allowed' : σ → ι → Prop} {start : σ} {ops : List ι} (h : Along step allowed start ops)
    (h' : Along step allowed' start ops) : Along step (fun state op => allowed state op ∧ allowed' state op) start ops := by
  induction ops generalizing start with
  | nil => trivial
  | cons op rest ih => exact ⟨⟨h.1, h'.1⟩, ih h.2 h'.2⟩

lemma Along.of_forall {p : ι → Prop} {allowed : σ → ι → Prop} {ops : List ι} (hops : ∀ op ∈ ops, p op)
    (h : ∀ state op, p op → allowed state op) {start : σ} : Along step allowed start ops := by
  induction ops generalizing start with
  | nil => trivial
  | cons op rest ih =>
    exact ⟨h start op (hops op List.mem_cons_self), ih fun other hother => hops other (List.mem_cons_of_mem _ hother)⟩

/-- An invariant of every allowed step holds after every allowed run. -/
theorem invariant_of_along {invariant : σ → Prop} {allowed : σ → ι → Prop}
    (hstep : ∀ state op, invariant state → allowed state op → invariant (step state op))
    {start : σ} {ops : List ι} (hstart : invariant start) (halong : Along step allowed start ops) :
    invariant (run step start ops) := by
  induction ops generalizing start with
  | nil => exact hstart
  | cons op rest ih =>
    obtain ⟨hop, hrest⟩ := halong
    exact ih (hstep start op hstart hop) hrest

/-- The same, when every step keeps the invariant. -/
theorem invariant_of_run {invariant : σ → Prop}
    (hstep : ∀ state op, invariant state → invariant (step state op)) {start : σ}
    (hstart : invariant start) (ops : List ι) : invariant (run step start ops) := by
  induction ops generalizing start with
  | nil => exact hstart
  | cons op rest ih => exact ih (hstep start op hstart)

/-- What holds of every allowed step in a state of the invariant holds of every step of an allowed run. -/
theorem along_of_invariant {invariant : σ → Prop} {allowed good : σ → ι → Prop}
    (hstep : ∀ state op, invariant state → allowed state op → invariant (step state op))
    (hgood : ∀ state op, invariant state → allowed state op → good state op) {start : σ} {ops : List ι}
    (hstart : invariant start) (halong : Along step allowed start ops) : Along step good start ops := by
  induction ops generalizing start with
  | nil => trivial
  | cons op rest ih => exact ⟨hgood start op hstart halong.1, ih (hstep start op hstart halong.1) halong.2⟩

/-- An invariant that also speaks of the operations so far. -/
theorem invariant_of_history {I : List ι → σ → Prop} {start : σ} (hstart : I [] start)
    (hstep : ∀ ops op, I ops (run step start ops) → I (ops ++ [op]) (step (run step start ops) op))
    (ops : List ι) : I ops (run step start ops) := by
  induction ops using List.reverseRecOn with
  | nil => exact hstart
  | append_singleton ops op ih =>
    rw [run_snoc]
    exact hstep ops op ih

/-! ### The past of a run -/

/-- Some step so far was of one kind, and every step after it of another. -/
def Since (step : σ → ι → σ) (p q : σ → ι → Prop) (start : σ) (ops : List ι) : Prop :=
  ∃ earlier op later, ops = earlier ++ op :: later ∧ p (run step start earlier) op ∧
    Along step q (run step start (earlier ++ [op])) later

/-- A step of one kind, and later a step of another. -/
def Then (step : σ → ι → σ) (p q : σ → ι → Prop) (start : σ) (ops : List ι) : Prop :=
  ∃ earlier first middle second later, ops = earlier ++ first :: middle ++ second :: later ∧
    p (run step start earlier) first ∧ q (run step start (earlier ++ first :: middle)) second

section Past

variable {p q : σ → ι → Prop} {start : σ} {ops : List ι} {op : ι}

/-- What the first of two steps establishes and every step keeps still holds when the second comes. -/
theorem Then.invariant (h : Then step p q start ops) {I : List ι → σ → Prop}
    (hfirst : ∀ earlier op later, ops = earlier ++ op :: later → p (run step start earlier) op →
      I (earlier ++ [op]) (step (run step start earlier) op))
    (hstep : ∀ earlier op later, ops = earlier ++ op :: later → I earlier (run step start earlier) →
      I (earlier ++ [op]) (step (run step start earlier) op)) :
    ∃ earlier op later, ops = earlier ++ op :: later ∧ I earlier (run step start earlier) ∧ q (run step start earlier) op := by
  obtain ⟨earlier, first, middle, second, later, rfl, hp, hq⟩ := h
  refine ⟨earlier ++ first :: middle, second, later, rfl, ?_, hq⟩
  suffices hkeeps : ∀ rest more, middle = rest ++ more → I (earlier ++ first :: rest) (run step start (earlier ++ first :: rest)) from
    hkeeps middle [] (List.append_nil middle).symm
  intro rest
  induction rest using List.reverseRecOn with
  | nil =>
    intro more hmore
    rw [run_snoc]
    exact hfirst earlier first (middle ++ second :: later) (by simp) hp
  | append_singleton rest op ih =>
    intro more hmore
    have hrest := ih (op :: more) (by rw [hmore]; simp)
    have hnext := hstep (earlier ++ first :: rest) op (more ++ second :: later) (by rw [hmore]; simp) hrest
    rwa [← run_snoc step, List.append_assoc, List.cons_append] at hnext

lemma Since.of_last (hp : p (run step start ops) op) : Since step p q start (ops ++ [op]) :=
  ⟨ops, op, [], rfl, hp, trivial⟩

lemma Since.snoc (h : Since step p q start ops) (hq : q (run step start ops) op) : Since step p q start (ops ++ [op]) := by
  obtain ⟨earlier, other, later, rfl, hp, halong⟩ := h
  refine ⟨earlier, other, later ++ [op], by simp, hp, ?_⟩
  have hrun : run step (run step start (earlier ++ [other])) later = run step start (earlier ++ other :: later) := by
    rw [← run_append, List.append_assoc]
    rfl
  exact along_append.mpr ⟨halong, hrun.symm ▸ hq, trivial⟩

end Past

/-! ### Rises of a predicate -/

/-- Where a predicate is false first and true later, some step made it true. -/
theorem exists_rise {p : σ → Bool} {start : σ} {ops : List ι} (hstart : p start = false)
    (hend : p (run step start ops) = true) :
    ∃ earlier op later, ops = earlier ++ op :: later ∧ p (run step start earlier) = false ∧
      p (step (run step start earlier) op) = true := by
  induction ops generalizing start with
  | nil =>
    rw [run_nil, hstart] at hend
    cases hend
  | cons op rest ih =>
    cases hnext : p (step start op) with
    | true => exact ⟨[], op, rest, rfl, hstart, hnext⟩
    | false =>
      obtain ⟨earlier, other, later, rfl, hbefore, hafter⟩ := ih hnext hend
      exact ⟨op :: earlier, other, later, rfl, hbefore, hafter⟩

variable (step) in
/-- Number of steps that make `p` true. -/
def rises (p : σ → Bool) : σ → List ι → Nat
  | _, [] => 0
  | state, op :: rest => (if !p state && p (step state op) then 1 else 0) + rises p (step state op) rest

/-- A predicate that no step takes back rises at most once. -/
theorem rises_le_one {p : σ → Bool} {allowed : ι → Prop}
    (hstable : ∀ state op, allowed op → p state = true → p (step state op) = true) {start : σ} {ops : List ι}
    (hops : ∀ op ∈ ops, allowed op) : rises step p start ops ≤ if p start then 0 else 1 := by
  induction ops generalizing start with
  | nil => exact Nat.zero_le _
  | cons op rest ih =>
    have hop := hops op List.mem_cons_self
    have hrest : rises step p (step start op) rest ≤ if p (step start op) then 0 else 1 :=
      ih fun other hother => hops other (List.mem_cons_of_mem op hother)
    unfold rises
    cases hbefore : p start with
    | true =>
      rw [hstable start op hop hbefore] at hrest ⊢
      simpa using hrest
    | false =>
      cases hafter : p (step start op) with
      | true =>
        rw [hafter] at hrest
        simp at hrest ⊢
        omega
      | false =>
        rw [hafter] at hrest
        simpa using hrest

end Runs
