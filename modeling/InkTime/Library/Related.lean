import InkTime.Library.Checked
import InkTime.Library.Table

/-!
# Related tables and related calls

Two tables are related when their rows are, one by one and under equal keys. Two calls are related when they raise the same
error or return related values.
-/

namespace Table

variable {ρ κ : Type} {key : ρ → κ} {R : ρ → ρ → Prop}

/-- Rows are related one by one. -/
def Related (R : ρ → ρ → Prop) (table table' : Table key) : Prop := List.Forall₂ R table.rows table'.rows

lemma Related.refl (hrefl : ∀ row, R row row) (table : Table key) : Related R table table :=
  List.forall₂_same.mpr fun row _ => hrefl row

section Lists

variable {rows rows' : List ρ}

lemma find?_related (h : List.Forall₂ R rows rows') {p p' : ρ → Bool} (hp : ∀ row row', R row row' → p row = p' row') :
    Option.Rel R (rows.find? p) (rows'.find? p') := by
  induction h with
  | nil => exact .none
  | @cons row row' rest rest' hrow _ ih =>
    rw [List.find?_cons, List.find?_cons, ← hp row row' hrow]
    cases p row with
    | true => exact .some hrow
    | false => exact ih

lemma countP_related (h : List.Forall₂ R rows rows') {p p' : ρ → Bool} (hp : ∀ row row', R row row' → p row = p' row') :
    rows.countP p = rows'.countP p' := by
  induction h with
  | nil => rfl
  | @cons row row' rest rest' hrow _ ih => rw [List.countP_cons, List.countP_cons, ih, hp row row' hrow]

lemma any_related (h : List.Forall₂ R rows rows') {p p' : ρ → Bool} (hp : ∀ row row', R row row' → p row = p' row') :
    rows.any p = rows'.any p' := by
  induction h with
  | nil => rfl
  | @cons row row' rest rest' hrow _ ih => rw [List.any_cons, List.any_cons, ih, hp row row' hrow]

lemma filter_related (h : List.Forall₂ R rows rows') {p p' : ρ → Bool} (hp : ∀ row row', R row row' → p row = p' row') :
    List.Forall₂ R (rows.filter p) (rows'.filter p') :=
  List.rel_filter (fun row row' hrow => Bool.eq_iff_iff.mp (hp row row' hrow)) h

lemma head?_related (h : List.Forall₂ R rows rows') : Option.Rel R rows.head? rows'.head? := by
  cases h with
  | nil => exact .none
  | cons hrow _ => exact .some hrow

section Sorted

variable {before : ρ → ρ → Prop} [DecidableRel before]

lemma orderedInsert_related (hbefore : ∀ a a' b b', R a a' → R b b' → (before a b ↔ before a' b')) {row row' : ρ}
    (hrow : R row row') (h : List.Forall₂ R rows rows') :
    List.Forall₂ R (rows.orderedInsert before row) (rows'.orderedInsert before row') := by
  induction h with
  | nil => exact .cons hrow .nil
  | @cons other other' rest rest' hother hrest ih =>
    rw [List.orderedInsert, List.orderedInsert]
    by_cases hle : before row other
    · rw [if_pos hle, if_pos ((hbefore _ _ _ _ hrow hother).mp hle)]
      exact .cons hrow (.cons hother hrest)
    · rw [if_neg hle, if_neg fun hle' => hle ((hbefore _ _ _ _ hrow hother).mpr hle')]
      exact .cons hother ih

lemma insertionSort_related (hbefore : ∀ a a' b b', R a a' → R b b' → (before a b ↔ before a' b'))
    (h : List.Forall₂ R rows rows') : List.Forall₂ R (rows.insertionSort before) (rows'.insertionSort before) := by
  induction h with
  | nil => exact .nil
  | cons hrow _ ih => exact orderedInsert_related hbefore hrow ih

end Sorted

end Lists

section Tables

variable {table table' : Table key}

lemma Related.count (h : Related R table table') {p p' : ρ → Bool} (hp : ∀ row row', R row row' → p row = p' row') :
    table.count p = table'.count p' := countP_related h hp

lemma Related.any (h : Related R table table') {p p' : ρ → Bool} (hp : ∀ row row', R row row' → p row = p' row') :
    table.any p = table'.any p' := any_related h hp

lemma Related.delete (h : Related R table table') {p p' : ρ → Bool} (hp : ∀ row row', R row row' → p row = p' row') :
    Related R (table.delete p) (table'.delete p') :=
  filter_related h fun row row' hrow => congrArg _ (hp row row' hrow)

lemma Related.update (h : Related R table table') {p p' : ρ → Bool} (hp : ∀ row row', R row row' → p row = p' row')
    {set set' : ρ → ρ} {hset : ∀ row, key (set row) = key row} {hset' : ∀ row, key (set' row) = key row}
    (hR : ∀ row row', R row row' → R (set row) (set' row')) :
    Related R (table.update p set hset) (table'.update p' set' hset') := by
  refine List.rel_map (fun row row' hrow => ?_) h
  unfold revise
  rw [hp row row' hrow]
  split
  · exact hR row row' hrow
  · exact hrow

variable [DecidableEq κ] (hkey : ∀ row row', R row row' → key row = key row')

include hkey

lemma Related.find (h : Related R table table') (k : κ) : Option.Rel R (table.find k) (table'.find k) :=
  find?_related h fun row row' hrow => by rw [hkey row row' hrow]

lemma Related.put (h : Related R table table') {row row' : ρ} (hrow : R row row') : Related R (table.put row) (table'.put row') := by
  refine List.rel_map (fun other other' hother => ?_) h
  rw [hkey other other' hother, hkey row row' hrow]
  split
  · exact hrow
  · exact hother

lemma Related.insert (h : Related R table table') {row row' : ρ} (hrow : R row row') :
    Option.Rel (Related R) (table.insert row) (table'.insert row') := by
  have hkeys : table.rows.map key = table'.rows.map key := by
    rw [← List.forall₂_eq_eq_eq]
    exact List.rel_map (fun row row' hrow => hkey row row' hrow) h
  have hmem : key row ∈ table.rows.map key ↔ key row' ∈ table'.rows.map key := by rw [hkeys, hkey row row' hrow]
  unfold Table.insert
  by_cases hold : key row ∈ table.rows.map key
  · rw [dif_pos hold, dif_pos (hmem.mp hold)]
    exact .none
  · rw [dif_neg hold, dif_neg fun hold' => hold (hmem.mpr hold')]
    exact .some (List.rel_append h (.cons hrow .nil))

end Tables

end Table

namespace Checked

variable {ε α β γ δ : Type}

/-- The same error, or related values. -/
inductive Alike (S : α → β → Prop) : Except ε α → Except ε β → Prop
  | ok {a : α} {b : β} (h : S a b) : Alike S (.ok a) (.ok b)
  | error (e : ε) : Alike S (.error e) (.error e)

lemma Alike.refl (x : Except ε α) : Alike Eq x x := by
  cases x with
  | error e => exact .error e
  | ok a => exact .ok rfl

lemma Alike.mono {S T : α → β → Prop} (hST : ∀ a b, S a b → T a b) {x : Except ε α} {y : Except ε β} (h : Alike S x y) :
    Alike T x y := by
  cases h with
  | ok hS => exact .ok (hST _ _ hS)
  | error e => exact .error e

lemma Alike.bind {S : α → β → Prop} {T : γ → δ → Prop} {x : Except ε α} {y : Except ε β} {f : α → Except ε γ} {g : β → Except ε δ}
    (h : Alike S x y) (hfg : ∀ a b, S a b → Alike T (f a) (g b)) : Alike T (x >>= f) (y >>= g) := by
  cases h with
  | ok hS => exact hfg _ _ hS
  | error e => exact .error e

/-- The same first step. -/
lemma Alike.same {T : γ → δ → Prop} {x : Except ε α} {f : α → Except ε γ} {g : α → Except ε δ}
    (hfg : ∀ a, x = .ok a → Alike T (f a) (g a)) : Alike T (x >>= f) (x >>= g) := by
  cases x with
  | error e => exact .error e
  | ok a => exact hfg a rfl

lemma Alike.orError {S : α → β → Prop} {value : Option α} {value' : Option β} (h : Option.Rel S value value') (error : ε) :
    Alike S (Checked.orError value error) (Checked.orError value' error) := by
  cases h with
  | none => exact .error error
  | some hS => exact .ok hS

end Checked
