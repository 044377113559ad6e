import Mathlib.Tactic

/-!
# Checked calls

A call is a chain of checks and statements, any of which may stop it with an error. These rules take a
call that returned apart, one step after another.
-/

namespace Checked

variable {ε α β : Type}

/-- Stops with `error` unless the condition holds. -/
def require (condition : Bool) (error : ε) : Except ε Unit := if condition then .ok () else .error error

/-- The value, or `error` where there is none. -/
def orError (value : Option α) (error : ε) : Except ε α :=
  match value with
  | none => .error error
  | some a => .ok a

lemma bind_eq_ok {x : Except ε α} {f : α → Except ε β} {b : β} :
    (x >>= f) = .ok b ↔ ∃ a, x = .ok a ∧ f a = .ok b := by
  cases x with
  | error e => simp [bind, Except.bind]
  | ok a => simp [bind, Except.bind]

lemma bind_eq_error {x : Except ε α} {f : α → Except ε β} {error : ε} :
    (x >>= f) = .error error ↔ x = .error error ∨ ∃ a, x = .ok a ∧ f a = .error error := by
  cases x with
  | error e => simp [bind, Except.bind]
  | ok a => simp [bind, Except.bind]

lemma map_eq_ok {x : Except ε α} {f : α → β} {b : β} : x.map f = .ok b ↔ ∃ a, x = .ok a ∧ f a = b := by
  cases x with
  | error e => simp [Except.map]
  | ok a => simp [Except.map]

lemma require_eq_error {condition : Bool} {error error' : ε} :
    require condition error = .error error' ↔ condition = false ∧ error = error' := by
  cases condition with
  | true => simp [require]
  | false => simp [require]

lemma orError_eq_error {value : Option α} {error error' : ε} :
    orError value error = .error error' ↔ value = none ∧ error = error' := by
  cases value with
  | none => simp [orError]
  | some a => simp [orError]

lemma isOk_bind_of_forall {x : Except ε α} {f : α → Except ε β} (h : ∀ a, (f a).isOk = true) : (x >>= f).isOk = x.isOk := by
  cases x with
  | error e => rfl
  | ok a => exact h a

lemma isOk_require_bind {condition : Bool} {error : ε} {f : Unit → Except ε β} :
    (require condition error >>= f).isOk = (condition && (f ()).isOk) := by
  cases condition with
  | true => rfl
  | false => rfl

lemma isOk_iff {x : Except ε α} : x.isOk = true ↔ ∃ a, x = .ok a := by
  cases x with
  | error e => simp [Except.isOk, Except.toBool]
  | ok a => simp [Except.isOk, Except.toBool]

lemma require_eq_ok {condition : Bool} {error : ε} {u : Unit} :
    require condition error = .ok u ↔ condition = true := by
  cases condition with
  | true => simp [require]
  | false => simp [require]

lemma orError_eq_ok {value : Option α} {error : ε} {a : α} : orError value error = .ok a ↔ value = some a := by
  cases value with
  | none => simp [orError]
  | some b => simp [orError]

/-- A call for each of several values, each of which returned. -/
lemma mapM_eq_ok {f : α → Except ε β} {values : List α} {results : List β} :
    values.mapM f = .ok results ↔ List.Forall₂ (fun value result => f value = .ok result) values results := by
  induction values generalizing results with
  | nil =>
    rw [List.mapM_nil, List.forall₂_nil_left_iff]
    exact ⟨fun h => (Except.ok.inj h).symm, fun h => h ▸ rfl⟩
  | cons value rest ih =>
    rw [List.mapM_cons, bind_eq_ok, List.forall₂_cons_left_iff]
    constructor
    · rintro ⟨result, hresult, hrest⟩
      obtain ⟨others, hothers, heq⟩ := bind_eq_ok.mp hrest
      exact ⟨result, others, hresult, ih.mp hothers, (Except.ok.inj heq).symm⟩
    · rintro ⟨result, others, hresult, hothers, rfl⟩
      exact ⟨result, hresult, bind_eq_ok.mpr ⟨others, ih.mpr hothers, rfl⟩⟩

end Checked
