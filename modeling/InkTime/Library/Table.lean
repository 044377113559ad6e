import Mathlib.Tactic

/-!
# Keyed tables

A table is a list of rows with pairwise distinct keys, as a primary key makes it. `update` is a
bulk `UPDATE ... WHERE` that leaves keys alone, `affected` its row count, `insert` adds a row whose key
is new, `put` replaces the row under a key, and `delete` removes the rows a condition selects.
-/

structure Table {ρ κ : Type} (key : ρ → κ) where
  rows : List ρ
  distinct : (rows.map key).Nodup

namespace Table

variable {ρ κ : Type} {key : ρ → κ}

instance : Membership ρ (Table key) := ⟨fun table row => row ∈ table.rows⟩

def empty : Table key := ⟨[], List.nodup_nil⟩

def single (row : ρ) : Table key := ⟨[row], List.nodup_singleton _⟩

def count (table : Table key) (p : ρ → Bool) : Nat := table.rows.countP p

def any (table : Table key) (p : ρ → Bool) : Bool := table.rows.any p

def find [DecidableEq κ] (table : Table key) (k : κ) : Option ρ := table.rows.find? (key · = k)

def revise (matching : ρ → Bool) (set : ρ → ρ) (row : ρ) : ρ := if matching row then set row else row

lemma key_revise {matching : ρ → Bool} {set : ρ → ρ} (h : ∀ row, key (set row) = key row) (row : ρ) :
    key (revise matching set row) = key row := by
  unfold revise
  split
  · exact h row
  · rfl

lemma map_key_revise {matching : ρ → Bool} {set : ρ → ρ} (h : ∀ row, key (set row) = key row) (rows : List ρ) :
    (rows.map (revise matching set)).map key = rows.map key := by
  rw [List.map_map]
  apply List.map_congr_left
  intro row _
  exact key_revise h row

def update (table : Table key) (matching : ρ → Bool) (set : ρ → ρ) (h : ∀ row, key (set row) = key row) :
    Table key where
  rows := table.rows.map (revise matching set)
  distinct := by
    rw [map_key_revise h]
    exact table.distinct

/-- Rows an `update` with this condition touches. -/
def affected (table : Table key) (matching : ρ → Bool) : Nat := table.count matching

def insert [DecidableEq κ] (table : Table key) (row : ρ) : Option (Table key) :=
  if h : key row ∈ table.rows.map key then none
  else some ⟨table.rows ++ [row], by
    rw [List.map_append, List.nodup_append]
    refine ⟨table.distinct, by simp, ?_⟩
    intro k hk other hother
    obtain rfl : other = key row := by simpa using hother
    exact fun heq => h (heq ▸ hk)⟩

/-- `DELETE ... WHERE` -/
def delete (table : Table key) (matching : ρ → Bool) : Table key where
  rows := table.rows.filter fun row => !matching row
  distinct := table.distinct.sublist (List.filter_sublist.map key)

/-- The row under the key of `row` is replaced by it. -/
def put [DecidableEq κ] (table : Table key) (row : ρ) : Table key where
  rows := table.rows.map fun other => if key other = key row then row else other
  distinct := by
    have hkeys : (table.rows.map fun other => if key other = key row then row else other).map key = table.rows.map key := by
      rw [List.map_map]
      apply List.map_congr_left
      intro other _
      by_cases h : key other = key row
      · simp [h]
      · simp [h]
    rw [hkeys]
    exact table.distinct

/-- The row is added where its key is new. -/
def add [DecidableEq κ] (table : Table key) (row : ρ) : Table key := (table.insert row).getD table

/-! ### Membership -/

lemma mem_iff {table : Table key} {row : ρ} : row ∈ table ↔ row ∈ table.rows := Iff.rfl

lemma mem_update {table : Table key} {matching : ρ → Bool} {set : ρ → ρ}
    {h : ∀ row, key (set row) = key row} {row : ρ} :
    row ∈ table.update matching set h ↔ ∃ before ∈ table, revise matching set before = row := by
  simp only [mem_iff, update, List.mem_map]

lemma mem_delete {table : Table key} {matching : ρ → Bool} {row : ρ} :
    row ∈ table.delete matching ↔ row ∈ table ∧ matching row = false := by
  simp [mem_iff, delete]

lemma mem_insert [DecidableEq κ] {table table' : Table key} {row other : ρ}
    (h : table.insert row = some table') : other ∈ table' ↔ other ∈ table ∨ other = row := by
  unfold insert at h
  split at h
  · cases h
  · obtain rfl := Option.some.inj h
    simp [mem_iff]

lemma insert_fresh [DecidableEq κ] {table table' : Table key} {row other : ρ}
    (h : table.insert row = some table') (hother : other ∈ table) : key other ≠ key row := by
  unfold insert at h
  split at h
  · cases h
  · next hfresh =>
    intro heq
    exact hfresh (List.mem_map.mpr ⟨other, hother, heq⟩)

lemma eq_of_key_eq {table : Table key} {row other : ρ} (hrow : row ∈ table) (hother : other ∈ table)
    (h : key row = key other) : row = other :=
  List.inj_on_of_nodup_map table.distinct hrow hother h

lemma any_of_mem {table : Table key} {p : ρ → Bool} {row : ρ} (hrow : row ∈ table) (h : p row = true) :
    table.any p = true :=
  List.any_eq_true.mpr ⟨row, hrow, h⟩

lemma find_eq_some [DecidableEq κ] {table : Table key} {k : κ} {row : ρ} (h : table.find k = some row) :
    row ∈ table ∧ key row = k := by
  unfold find at h
  exact ⟨List.mem_of_find?_eq_some h, by simpa using List.find?_some h⟩

lemma find_eq_none [DecidableEq κ] {table : Table key} {k : κ} (h : table.find k = none) {row : ρ}
    (hrow : row ∈ table) : key row ≠ k := by
  unfold find at h
  simpa using List.find?_eq_none.mp h row hrow

/-- A condition that pins the key finds the row with that key. -/
lemma find?_of_mem {table : Table key} {p : ρ → Bool} {row : ρ} (hrow : row ∈ table) (hp : p row = true)
    (hkey : ∀ other, p other = true → key other = key row) : table.rows.find? p = some row := by
  cases hfound : table.rows.find? p with
  | none => exact absurd hp (by simpa using List.find?_eq_none.mp hfound row hrow)
  | some other =>
    rw [eq_of_key_eq (List.mem_of_find?_eq_some hfound) hrow (hkey other (List.find?_some hfound))]

lemma find_of_mem [DecidableEq κ] {table : Table key} {row : ρ} (hrow : row ∈ table) :
    table.find (key row) = some row :=
  find?_of_mem hrow (by simp) fun other hother => by simpa using hother

/-- Where a row stands, with no other row under its key. -/
lemma exists_split {table : Table key} {row : ρ} (hrow : row ∈ table) :
    ∃ earlier later, table.rows = earlier ++ row :: later ∧ (∀ other ∈ earlier, key other ≠ key row) ∧
      ∀ other ∈ later, key other ≠ key row := by
  obtain ⟨earlier, later, hrows⟩ := List.append_of_mem (mem_iff.mp hrow)
  have hdistinct := table.distinct
  rw [hrows, List.map_append, List.map_cons, List.nodup_append, List.nodup_cons] at hdistinct
  refine ⟨earlier, later, hrows, ?_, ?_⟩
  · intro other hother
    exact hdistinct.2.2 _ (List.mem_map_of_mem hother) _ List.mem_cons_self
  · intro other hother heq
    exact hdistinct.2.1.1 (heq ▸ List.mem_map_of_mem hother)

lemma keys_update (table : Table key) (matching : ρ → Bool) (set : ρ → ρ) (h : ∀ row, key (set row) = key row) :
    (table.update matching set h).rows.map key = table.rows.map key :=
  map_key_revise h table.rows

/-- An update that leaves each of its rows as it is changes nothing. -/
lemma update_of_fixed {table : Table key} {matching : ρ → Bool} {set : ρ → ρ} {h : ∀ row, key (set row) = key row}
    (hfixed : ∀ row ∈ table, matching row = true → set row = row) : table.update matching set h = table := by
  have hrows : table.rows.map (revise matching set) = table.rows := by
    nth_rewrite 2 [← List.map_id table.rows]
    apply List.map_congr_left
    intro row hrow
    unfold revise
    split
    · next hmatch => exact hfixed row hrow hmatch
    · rfl
  cases table
  simpa [update] using hrows

/-- Where no row matches, an update changes nothing. -/
lemma update_eq_self {table : Table key} {matching : ρ → Bool} {set : ρ → ρ} {h : ∀ row, key (set row) = key row}
    (hnone : table.affected matching = 0) : table.update matching set h = table := by
  apply update_of_fixed
  intro row hrow hmatch
  exact absurd hmatch (List.countP_eq_zero.mp hnone row hrow)

lemma find_update [DecidableEq κ] (table : Table key) (matching : ρ → Bool) (set : ρ → ρ)
    (h : ∀ row, key (set row) = key row) (k : κ) :
    (table.update matching set h).find k = (table.find k).map (revise matching set) := by
  simp only [find, update, List.find?_map]
  congr 2
  funext row
  simp [key_revise h row]

/-- Rows that an update neither finds nor brings in are the rows there were. -/
lemma filter_update {table : Table key} {matching : ρ → Bool} {set : ρ → ρ} {p : ρ → Bool}
    (h : ∀ row, key (set row) = key row) (hbefore : ∀ row ∈ table, matching row = true → p row = false)
    (hafter : ∀ row ∈ table, matching row = true → p (set row) = false) :
    (table.update matching set h).rows.filter p = table.rows.filter p := by
  have hsame : ∀ row ∈ table.rows, (p ∘ revise matching set) row = p row := by
    intro row hrow
    simp only [Function.comp, revise]
    split
    · next hmatch => rw [hbefore row hrow hmatch, hafter row hrow hmatch]
    · rfl
  simp only [update, List.filter_map, List.filter_congr hsame]
  nth_rewrite 2 [← List.map_id (List.filter p table.rows)]
  apply List.map_congr_left
  intro row hrow
  obtain ⟨hmem, hp⟩ := List.mem_filter.mp hrow
  unfold revise
  split
  · next hmatch =>
    rw [hbefore row hmem hmatch] at hp
    cases hp
  · rfl

lemma keys_insert [DecidableEq κ] {table table' : Table key} {row : ρ} (h : table.insert row = some table') :
    table'.rows.map key = table.rows.map key ++ [key row] := by
  unfold insert at h
  split at h
  · cases h
  · obtain rfl := Option.some.inj h
    simp

lemma exists_insert [DecidableEq κ] {table : Table key} {row : ρ} (h : table.find (key row) = none) :
    ∃ table', table.insert row = some table' := by
  have hfresh : key row ∉ table.rows.map key := by
    intro hmem
    obtain ⟨other, hother, hkey⟩ := List.mem_map.mp hmem
    exact find_eq_none h hother hkey
  unfold insert
  rw [dif_neg hfresh]
  exact ⟨_, rfl⟩

lemma find_insert_ne [DecidableEq κ] {table table' : Table key} {row : ρ} {k : κ}
    (h : table.insert row = some table') (hne : key row ≠ k) : table'.find k = table.find k := by
  unfold insert at h
  split at h
  · cases h
  · obtain rfl := Option.some.inj h
    simp [find, List.find?_append, hne]

lemma mem_put [DecidableEq κ] {table : Table key} {row other : ρ} (h : other ∈ table.put row) :
    (other = row ∧ ∃ old ∈ table, key old = key row) ∨ (other ∈ table ∧ key other ≠ key row) := by
  obtain ⟨old, hold, heq⟩ := List.mem_map.mp (mem_iff.mp h)
  by_cases hkey : key old = key row
  · rw [if_pos hkey] at heq
    exact .inl ⟨heq.symm, old, hold, hkey⟩
  · rw [if_neg hkey] at heq
    subst heq
    exact .inr ⟨hold, hkey⟩

/-- Where the key is in use, the new row and the rows under other keys. -/
lemma mem_put_iff [DecidableEq κ] {table : Table key} {row old other : ρ} (hold : old ∈ table) (hkey : key old = key row) :
    other ∈ table.put row ↔ other = row ∨ (other ∈ table ∧ key other ≠ key row) := by
  constructor
  · intro h
    obtain ⟨rfl, -⟩ | hother := mem_put h
    · exact .inl rfl
    · exact .inr hother
  · rintro (rfl | ⟨hother, hne⟩)
    · exact List.mem_map.mpr ⟨old, hold, if_pos hkey⟩
    · exact List.mem_map.mpr ⟨other, hother, if_neg hne⟩

lemma mem_add [DecidableEq κ] {table : Table key} {row other : ρ} (h : other ∈ table.add row) :
    other ∈ table ∨ (other = row ∧ table.find (key row) = none) := by
  unfold add at h
  cases hinsert : table.insert row with
  | none =>
    rw [hinsert] at h
    exact .inl h
  | some table' =>
    rw [hinsert] at h
    obtain hother | rfl := (mem_insert hinsert).mp h
    · exact .inl hother
    · refine .inr ⟨rfl, ?_⟩
      cases hfound : table.find (key other) with
      | none => rfl
      | some old =>
        obtain ⟨hold, hkey⟩ := find_eq_some hfound
        exact absurd hkey (insert_fresh hinsert hold)

lemma mem_add_self [DecidableEq κ] {table : Table key} {row : ρ} (h : table.find (key row) = none) : row ∈ table.add row := by
  obtain ⟨table', hinsert⟩ := exists_insert h
  rw [add, hinsert]
  exact (mem_insert hinsert).mpr (.inr rfl)

lemma mem_add_of_mem [DecidableEq κ] {table : Table key} {row other : ρ} (h : other ∈ table) : other ∈ table.add row := by
  unfold add
  cases hinsert : table.insert row with
  | none => exact h
  | some table' => exact (mem_insert hinsert).mpr (.inl h)

lemma find_eq_some_iff [DecidableEq κ] {table : Table key} {k : κ} {row : ρ} :
    table.find k = some row ↔ row ∈ table ∧ key row = k := by
  constructor
  · exact find_eq_some
  · rintro ⟨hrow, rfl⟩
    exact find_of_mem hrow

lemma find_add [DecidableEq κ] {table : Table key} {row : ρ} (h : table.find (key row) = none) (k : κ) :
    (table.add row).find k = if key row = k then some row else table.find k := by
  ext other
  rw [find_eq_some_iff]
  by_cases hk : key row = k
  · rw [if_pos hk]
    subst hk
    constructor
    · rintro ⟨hother, hkey⟩
      rw [eq_of_key_eq hother (mem_add_self h) hkey]
    · rintro ⟨rfl⟩
      exact ⟨mem_add_self h, rfl⟩
  · rw [if_neg hk, find_eq_some_iff]
    constructor
    · rintro ⟨hother, hkey⟩
      obtain hold | ⟨rfl, -⟩ := mem_add hother
      · exact ⟨hold, hkey⟩
      · exact absurd hkey hk
    · rintro ⟨hother, hkey⟩
      exact ⟨mem_add_of_mem hother, hkey⟩

lemma add_of_find [DecidableEq κ] {table : Table key} {row : ρ} (h : (table.find (key row)).isSome = true) : table.add row = table := by
  unfold add
  cases hinsert : table.insert row with
  | none => rfl
  | some table' =>
    obtain ⟨old, hold⟩ := Option.isSome_iff_exists.mp h
    exact absurd (find_eq_some hold).2 (insert_fresh hinsert (find_eq_some hold).1)

lemma find_add_or [DecidableEq κ] (table : Table key) (row : ρ) (k : κ) :
    (table.add row).find k = (table.find k).or (if key row = k then some row else none) := by
  cases hfind : table.find (key row) with
  | none =>
    rw [find_add hfind]
    split
    · next hkey => rw [← hkey, hfind, Option.none_or]
    · rw [Option.or_none]
  | some old =>
    rw [add_of_find (Option.isSome_iff_exists.mpr ⟨old, hfind⟩)]
    split
    · next hkey => rw [← hkey, hfind, Option.some_or]
    · rw [Option.or_none]

lemma find_put [DecidableEq κ] {table : Table key} {row : ρ} (h : (table.find (key row)).isSome = true) (k : κ) :
    (table.put row).find k = if key row = k then some row else table.find k := by
  obtain ⟨old, hfound⟩ := Option.isSome_iff_exists.mp h
  obtain ⟨hold, hkeyold⟩ := find_eq_some hfound
  ext other
  rw [find_eq_some_iff, mem_put_iff hold hkeyold]
  by_cases hk : key row = k
  · rw [if_pos hk]
    subst hk
    constructor
    · rintro ⟨rfl | ⟨-, hne⟩, hkey⟩
      · rfl
      · exact absurd hkey hne
    · rintro ⟨rfl⟩
      exact ⟨.inl rfl, rfl⟩
  · rw [if_neg hk, find_eq_some_iff]
    constructor
    · rintro ⟨rfl | ⟨hother, -⟩, hkey⟩
      · exact absurd hkey hk
      · exact ⟨hother, hkey⟩
    · rintro ⟨hother, rfl⟩
      exact ⟨.inr ⟨hother, fun heq => hk heq.symm⟩, rfl⟩

/-! ### Rows that live on -/

/-- Every row is still there under its key, related to what it was by `R`. -/
def Follows (R : ρ → ρ → Prop) (table table' : Table key) : Prop :=
  ∀ before ∈ table, ∃ after ∈ table', key after = key before ∧ R before after

section Follows

variable {R : ρ → ρ → Prop} {table table' table'' : Table key}

lemma Follows.refl (hrefl : ∀ row, R row row) (table : Table key) : Follows R table table :=
  fun row hrow => ⟨row, hrow, rfl, hrefl row⟩

lemma Follows.mono {S : ρ → ρ → Prop} (hRS : ∀ before after, R before after → S before after) (h : Follows R table table') :
    Follows S table table' := by
  intro before hbefore
  obtain ⟨after, hafter, hkey, hR⟩ := h before hbefore
  exact ⟨after, hafter, hkey, hRS before after hR⟩

lemma Follows.trans (htrans : ∀ a b c, R a b → R b c → R a c) (h : Follows R table table')
    (h' : Follows R table' table'') : Follows R table table'' := by
  intro before hbefore
  obtain ⟨middle, hmiddle, hkey, hR⟩ := h before hbefore
  obtain ⟨after, hafter, hkey', hR'⟩ := h' middle hmiddle
  exact ⟨after, hafter, hkey'.trans hkey, htrans _ _ _ hR hR'⟩

lemma Follows.update (hrefl : ∀ row, R row row) {matching : ρ → Bool} {set : ρ → ρ}
    (h : ∀ row, key (set row) = key row) (hset : ∀ row ∈ table, matching row = true → R row (set row)) :
    Follows R table (table.update matching set h) := by
  intro row hrow
  refine ⟨revise matching set row, mem_update.mpr ⟨row, hrow, rfl⟩, key_revise h row, ?_⟩
  unfold revise
  split
  · next hmatch => exact hset row hrow hmatch
  · exact hrefl row

lemma Follows.insert [DecidableEq κ] (hrefl : ∀ row, R row row) {row : ρ} (h : table.insert row = some table') :
    Follows R table table' :=
  fun other hother => ⟨other, (mem_insert h).mpr (.inl hother), rfl, hrefl other⟩

lemma Follows.add [DecidableEq κ] (hrefl : ∀ row, R row row) (row : ρ) : Follows R table (table.add row) :=
  fun other hother => ⟨other, mem_add_of_mem hother, rfl, hrefl other⟩

/-- Keys are unique, so the row under a key is the one that followed. -/
lemma Follows.apply (h : Follows R table table') {before after : ρ} (hbefore : before ∈ table)
    (hafter : after ∈ table') (hkey : key after = key before) : R before after := by
  obtain ⟨next, hnext, hnext_key, hR⟩ := h before hbefore
  rwa [eq_of_key_eq hafter hnext (hkey.trans hnext_key.symm)]

lemma Follows.find [DecidableEq κ] (h : Follows R table table') {k : κ} {before : ρ}
    (hbefore : table.find k = some before) : ∃ after, table'.find k = some after ∧ R before after := by
  obtain ⟨hmem, hkey⟩ := find_eq_some hbefore
  obtain ⟨after, hafter, hafter_key, hR⟩ := h before hmem
  refine ⟨after, ?_, hR⟩
  rw [← hkey, ← hafter_key]
  exact find_of_mem hafter

end Follows

/-- Every row was there under its key, or is new. -/
def Stems (fresh : ρ → Prop) (table table' : Table key) : Prop :=
  ∀ after ∈ table', fresh after ∨ ∃ before ∈ table, key before = key after

section Stems

variable {fresh : ρ → Prop} {table table' : Table key}

lemma Stems.refl (table : Table key) : Stems fresh table table := fun row hrow => .inr ⟨row, hrow, rfl⟩

lemma Stems.trans {table'' : Table key} (h : Stems (fun _ => False) table table') (h' : Stems fresh table' table'') :
    Stems fresh table table'' := by
  intro after hafter
  obtain hnew | ⟨middle, hmiddle, hkey⟩ := h' after hafter
  · exact .inl hnew
  · obtain hnew | ⟨before, hbefore, hkey'⟩ := h middle hmiddle
    · cases hnew
    · exact .inr ⟨before, hbefore, hkey'.trans hkey⟩

lemma Stems.insert [DecidableEq κ] {row : ρ} (h : table.insert row = some table') (hrow : fresh row) :
    Stems fresh table table' := by
  intro after hafter
  obtain hafter | rfl := (mem_insert h).mp hafter
  · exact .inr ⟨after, hafter, rfl⟩
  · exact .inl hrow

end Stems

/-- Every row lives on, related to what it was by `R`, and the other rows are new. -/
structure Grows (R : ρ → ρ → Prop) (fresh : ρ → Prop) (table table' : Table key) : Prop where
  follows : Follows R table table'
  stems : Stems fresh table table'

section Grows

variable {R S : ρ → ρ → Prop} {fresh fresh' : ρ → Prop} {table table' table'' : Table key}

lemma Grows.refl (hrefl : ∀ row, R row row) (table : Table key) : Grows R fresh table table :=
  ⟨Follows.refl hrefl table, Stems.refl table⟩

/-- A row is new, or comes from the row under its key. -/
lemma Grows.back (h : Grows R fresh table table') {after : ρ} (hafter : after ∈ table') :
    fresh after ∨ ∃ before ∈ table, key before = key after ∧ R before after := by
  obtain hnew | ⟨before, hbefore, hkey⟩ := h.stems after hafter
  · exact .inl hnew
  · exact .inr ⟨before, hbefore, hkey, h.follows.apply hbefore hafter hkey.symm⟩

lemma Grows.mono (hRS : ∀ before ∈ table, ∀ after ∈ table', key after = key before → R before after → S before after)
    (hfresh : ∀ row ∈ table', fresh row → fresh' row) (h : Grows R fresh table table') : Grows S fresh' table table' := by
  constructor
  · intro before hbefore
    obtain ⟨after, hafter, hkey, hR⟩ := h.follows before hbefore
    exact ⟨after, hafter, hkey, hRS before hbefore after hafter hkey hR⟩
  · intro after hafter
    obtain hnew | hold := h.stems after hafter
    · exact .inl (hfresh after hafter hnew)
    · exact .inr hold

lemma Grows.trans {T : ρ → ρ → Prop} (h : Grows R fresh table table') (h' : Grows S fresh table' table'')
    (hRS : ∀ a b c, R a b → S b c → T a c) (hfresh : ∀ b c, fresh b → S b c → fresh c) : Grows T fresh table table'' := by
  constructor
  · intro before hbefore
    obtain ⟨middle, hmiddle, hkey, hR⟩ := h.follows before hbefore
    obtain ⟨after, hafter, hkey', hS⟩ := h'.follows middle hmiddle
    exact ⟨after, hafter, hkey'.trans hkey, hRS _ _ _ hR hS⟩
  · intro after hafter
    obtain hnew | ⟨middle, hmiddle, hkey, hS⟩ := h'.back hafter
    · exact .inl hnew
    · obtain hnew | ⟨before, hbefore, hkey'⟩ := h.stems middle hmiddle
      · exact .inl (hfresh middle after hnew hS)
      · exact .inr ⟨before, hbefore, hkey'.trans hkey⟩

/-- An update touches the matching rows and adds none. -/
lemma Grows.update {matching : ρ → Bool} {set : ρ → ρ} (h : ∀ row, key (set row) = key row)
    (hset : ∀ row ∈ table, matching row = true → R row (set row)) (hrest : ∀ row ∈ table, matching row = false → R row row) :
    Grows R fresh table (table.update matching set h) := by
  constructor
  · intro row hrow
    refine ⟨revise matching set row, mem_update.mpr ⟨row, hrow, rfl⟩, key_revise h row, ?_⟩
    unfold revise
    cases hmatch : matching row with
    | true => exact hset row hrow hmatch
    | false => exact hrest row hrow hmatch
  · intro after hafter
    obtain ⟨before, hbefore, rfl⟩ := mem_update.mp hafter
    exact .inr ⟨before, hbefore, (key_revise h before).symm⟩

lemma Grows.insert [DecidableEq κ] (hrefl : ∀ row, R row row) {row : ρ} (h : table.insert row = some table') (hrow : fresh row) :
    Grows R fresh table table' :=
  ⟨Follows.insert hrefl h, Stems.insert h hrow⟩

lemma Grows.add [DecidableEq κ] (hrefl : ∀ row, R row row) {row : ρ} (hrow : fresh row) : Grows R fresh table (table.add row) := by
  refine ⟨Follows.add hrefl row, ?_⟩
  intro after hafter
  obtain hold | ⟨rfl, -⟩ := mem_add hafter
  · exact .inr ⟨after, hold, rfl⟩
  · exact .inl hrow

end Grows

/-! ### Counting -/

lemma count_update (table : Table key) (matching : ρ → Bool) (set : ρ → ρ)
    (h : ∀ row, key (set row) = key row) (p : ρ → Bool) :
    (table.update matching set h).count p = table.count (fun row => p (revise matching set row)) := by
  simp only [count, update, List.countP_map]
  rfl

lemma count_congr {table : Table key} {p q : ρ → Bool} (h : ∀ row ∈ table, p row = q row) :
    table.count p = table.count q := by
  unfold count
  apply List.countP_congr
  intro row hrow
  rw [h row hrow]

/-- A condition that pins the key touches one row, if any. -/
lemma affected_eq_one [DecidableEq κ] {table : Table key} {matching : ρ → Bool} {k : κ} (hany : table.any matching = true)
    (hkey : ∀ row ∈ table, matching row = true → key row = k) : table.affected matching = 1 := by
  obtain ⟨row, hrow, hmatch⟩ := List.any_eq_true.mp hany
  have hsame : table.affected matching = table.rows.countP fun other => key other == key row := by
    apply count_congr
    intro other hother
    cases hm : matching other with
    | true => simp [hkey other hother hm, hkey row hrow hmatch]
    | false =>
      have hne : key other ≠ key row := by
        intro heq
        rw [eq_of_key_eq hother hrow heq, hmatch] at hm
        cases hm
      simp [hne]
  have hcount : (table.rows.map key).count (key row) = 1 :=
    List.count_eq_one_of_mem table.distinct (List.mem_map_of_mem hrow)
  rw [hsame, ← hcount, List.count, List.countP_map]
  rfl

/-- No more rows than keys are named. -/
lemma count_contains_le [BEq κ] [LawfulBEq κ] (table : Table key) (keys : List κ) :
    table.count (fun row => keys.contains (key row)) ≤ keys.length := by
  have hsublist : ((table.rows.filter fun row => keys.contains (key row)).map key).Nodup :=
    table.distinct.sublist (List.filter_sublist.map key)
  have hsubset : ((table.rows.filter fun row => keys.contains (key row)).map key) ⊆ keys := by
    intro k hk
    obtain ⟨row, hrow, rfl⟩ := List.mem_map.mp hk
    simpa using (List.mem_filter.mp hrow).2
  have hle := (hsublist.subperm hsubset).length_le
  rwa [List.length_map, ← List.countP_eq_length_filter] at hle

/-- Elements of a list with different keys, each of which has its row in the table. -/
lemma countP_le_count {α : Type} {elements : List α} {name : α → κ} (hdistinct : (elements.map name).Nodup) {p : α → Bool}
    {table : Table key} {q : ρ → Bool} (h : ∀ a ∈ elements, p a = true → ∃ row ∈ table, key row = name a ∧ q row = true) :
    elements.countP p ≤ table.count q := by
  have hnodup : ((elements.filter p).map name).Nodup := hdistinct.sublist (List.filter_sublist.map name)
  have hsubset : (elements.filter p).map name ⊆ (table.rows.filter q).map key := by
    intro k hk
    obtain ⟨a, ha, rfl⟩ := List.mem_map.mp hk
    obtain ⟨hmem, hp⟩ := List.mem_filter.mp ha
    obtain ⟨row, hrow, hkey, hq⟩ := h a hmem hp
    exact List.mem_map.mpr ⟨row, List.mem_filter.mpr ⟨hrow, hq⟩, hkey⟩
  have hle := (hnodup.subperm hsubset).length_le
  rwa [List.length_map, List.length_map, ← List.countP_eq_length_filter, ← List.countP_eq_length_filter] at hle

/-- A condition that holds as often as a weaker one holds wherever the weaker one does. -/
lemma holds_of_count_le {table : Table key} {p q : ρ → Bool} (h : table.count q ≤ table.count fun row => p row && q row)
    {row : ρ} (hrow : row ∈ table) (hq : q row = true) : p row = true := by
  obtain ⟨earlier, later, hrows⟩ := List.append_of_mem (mem_iff.mp hrow)
  have hearlier : earlier.countP (fun row => p row && q row) ≤ earlier.countP q :=
    List.countP_mono_left fun other _ hother => (Bool.and_eq_true _ _ ▸ hother).2
  have hlater : later.countP (fun row => p row && q row) ≤ later.countP q :=
    List.countP_mono_left fun other _ hother => (Bool.and_eq_true _ _ ▸ hother).2
  simp only [count, hrows, List.countP_append, List.countP_cons, hq, Bool.and_true] at h
  cases hp : p row with
  | true => rfl
  | false =>
    rw [hp] at h
    simp at h
    omega

/-- An update that moves matching rows into `p` adds the rows it touches. -/
lemma count_update_into {table : Table key} {matching : ρ → Bool} {set : ρ → ρ}
    {h : ∀ row, key (set row) = key row} {p : ρ → Bool}
    (hbefore : ∀ row ∈ table, matching row = true → p row = false)
    (hafter : ∀ row ∈ table, matching row = true → p (set row) = true) :
    (table.update matching set h).count p = table.count p + table.affected matching := by
  rw [count_update, affected]
  simp only [count, mem_iff] at *
  generalize table.rows = rows at hbefore hafter ⊢
  induction rows with
  | nil => rfl
  | cons row rest ih =>
    have ih := ih (fun r hr => hbefore r (by simp [hr])) fun r hr => hafter r (by simp [hr])
    simp only [List.countP_cons, ih]
    cases hm : matching row with
    | true => simp [revise, hm, hbefore row (by simp) hm, hafter row (by simp) hm]; omega
    | false => simp [revise, hm]; omega

/-- An update that moves matching rows out of `p` takes away the rows it touches. -/
lemma count_update_outOf {table : Table key} {matching : ρ → Bool} {set : ρ → ρ}
    {h : ∀ row, key (set row) = key row} {p : ρ → Bool}
    (hbefore : ∀ row ∈ table, matching row = true → p row = true)
    (hafter : ∀ row ∈ table, matching row = true → p (set row) = false) :
    (table.update matching set h).count p + table.affected matching = table.count p := by
  rw [count_update, affected]
  simp only [count, mem_iff] at *
  generalize table.rows = rows at hbefore hafter ⊢
  induction rows with
  | nil => rfl
  | cons row rest ih =>
    have ih := ih (fun r hr => hbefore r (by simp [hr])) fun r hr => hafter r (by simp [hr])
    simp only [List.countP_cons, ← ih]
    cases hm : matching row with
    | true => simp [revise, hm, hbefore row (by simp) hm, hafter row (by simp) hm]; omega
    | false => simp [revise, hm]; omega

/-- An update that keeps rows on their side of `p` keeps the count. -/
lemma count_update_keeps {table : Table key} {matching : ρ → Bool} {set : ρ → ρ}
    {h : ∀ row, key (set row) = key row} {p : ρ → Bool}
    (hsame : ∀ row ∈ table, matching row = true → p (set row) = p row) :
    (table.update matching set h).count p = table.count p := by
  rw [count_update]
  apply count_congr
  intro row hrow
  cases hm : matching row with
  | true => simp [revise, hm, hsame row hrow hm]
  | false => simp [revise, hm]

lemma count_insert [DecidableEq κ] {table table' : Table key} {row : ρ}
    (h : table.insert row = some table') (p : ρ → Bool) :
    table'.count p = table.count p + if p row then 1 else 0 := by
  unfold insert at h
  split at h
  · cases h
  · obtain rfl := Option.some.inj h
    simp [count, List.countP_append, List.countP_cons]

/-! ### Sums -/

section Sums

variable {M : Type} [AddCommMonoid M]

/-- `SUM` of an expression over the rows. -/
def total (table : Table key) (f : ρ → M) : M := (table.rows.map f).sum

lemma total_insert [DecidableEq κ] {table table' : Table key} {row : ρ} (h : table.insert row = some table') (f : ρ → M) :
    table'.total f = table.total f + f row := by
  unfold insert at h
  split at h
  · cases h
  · obtain rfl := Option.some.inj h
    simp [total]

lemma total_congr {table : Table key} {f g : ρ → M} (h : ∀ row ∈ table, f row = g row) : table.total f = table.total g := by
  unfold total
  rw [List.map_congr_left h]

/-- Deleting one row takes its part out of the sum. -/
lemma total_delete_one {table : Table key} {row : ρ} (hrow : row ∈ table) {matching : ρ → Bool}
    (hmatching : ∀ other, matching other = true ↔ key other = key row) (f : ρ → M) :
    (table.delete matching).total f + f row = table.total f := by
  obtain ⟨earlier, later, hrows, hearlier, hlater⟩ := exists_split hrow
  have hother : ∀ other, key other ≠ key row → (!matching other) = true := by
    intro other hne
    rw [Bool.not_eq_true', Bool.eq_false_iff, Ne, hmatching]
    exact hne
  have hkept : ((earlier ++ row :: later).filter fun other => !matching other) = earlier ++ later := by
    rw [List.filter_append, List.filter_cons_of_neg (by simp [hmatching]),
      List.filter_eq_self.mpr fun other hmem => hother other (hearlier other hmem),
      List.filter_eq_self.mpr fun other hmem => hother other (hlater other hmem)]
  simp only [total, delete, hrows, hkept, List.map_append, List.map_cons, List.sum_append, List.sum_cons]
  ac_rfl

/-- Changing one row changes its part of the sum. -/
lemma total_update_one {table : Table key} {row : ρ} (hrow : row ∈ table) {matching : ρ → Bool}
    (hmatching : ∀ other, matching other = true ↔ key other = key row) {set : ρ → ρ}
    (h : ∀ row, key (set row) = key row) (f : ρ → M) :
    (table.update matching set h).total f + f row = table.total f + f (set row) := by
  obtain ⟨earlier, later, hrows, hearlier, hlater⟩ := exists_split hrow
  have hsame : ∀ rows : List ρ, (∀ other ∈ rows, key other ≠ key row) → rows.map (revise matching set) = rows := by
    intro rows hne
    nth_rewrite 2 [← List.map_id rows]
    apply List.map_congr_left
    intro other hother
    simp [revise, hmatching, hne other hother]
  have hrevised : revise matching set row = set row := by simp [revise, hmatching]
  simp only [total, update, hrows, List.map_append, List.map_cons, List.sum_append, List.sum_cons, hsame earlier hearlier,
    hsame later hlater, hrevised]
  ac_rfl

end Sums

lemma total_le_total {M : Type} [AddCommMonoid M] [PartialOrder M] [IsOrderedAddMonoid M] {table : Table key} {f g : ρ → M}
    (h : ∀ row ∈ table, f row ≤ g row) : table.total f ≤ table.total g :=
  List.sum_le_sum h

/-- An update that lowers the part of each of its rows lowers the sum. -/
lemma total_update_le {M : Type} [AddCommMonoid M] [PartialOrder M] [IsOrderedAddMonoid M] {table : Table key}
    {matching : ρ → Bool} {set : ρ → ρ} (h : ∀ row, key (set row) = key row) {f : ρ → M}
    (hset : ∀ row ∈ table, matching row = true → f (set row) ≤ f row) : (table.update matching set h).total f ≤ table.total f := by
  simp only [total, update, List.map_map]
  apply List.sum_le_sum
  intro row hrow
  simp only [Function.comp_apply, revise]
  split
  · next hmatch => exact hset row hrow hmatch
  · exact le_rfl

end Table
