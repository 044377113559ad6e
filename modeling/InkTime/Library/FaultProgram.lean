import Mathlib.Tactic

/-!
# Programs over faulty persistent storage

A program runs against a store that outlives it. Every storage operation is an attempt whose outcome
the environment decides: it takes effect, it fails and leaves the store alone, or the power is lost
and the program ends there. Reads do not fail. `Traces` describes a fault-free run by the stores it
passes through, which also gives every store a loss of power can leave behind; `Unfolds` adds what
the program goes on to do when one of the operations fails.
-/

namespace FaultProgram

inductive Outcome where
  | works
  | fails
  | powerLost
  deriving DecidableEq

/-- Outcome of each storage operation, counted from the start of the run. -/
abbrev Plan := Nat → Outcome

/-- The store and the number of storage operations attempted so far. -/
structure World (σ : Type) where
  store : σ
  ticks : Nat

/-- `none` is a run that ended with a loss of power. -/
def Program (σ α : Type) := Plan → World σ → Option α × World σ

namespace Program

variable {σ τ α β : Type}

instance : Monad (Program σ) where
  pure value := fun _ world => (some value, world)
  bind program next := fun plan world =>
    match program plan world with
    | (some value, world') => next value plan world'
    | (none, world') => (none, world')

/-- One storage operation; the result says whether it took effect. -/
def attempt (effect : σ → σ) : Program σ Bool := fun plan world =>
  match plan world.ticks with
  | .works => (some true, ⟨effect world.store, world.ticks + 1⟩)
  | .fails => (some false, ⟨world.store, world.ticks + 1⟩)
  | .powerLost => (none, world)

def observe (read : σ → α) : Program σ α := fun _ world => (some (read world.store), world)

/-- Runs a program on one part of a larger store. -/
def within (get : τ → σ) (set : τ → σ → τ) (program : Program σ α) : Program τ α := fun plan world =>
  let out := program plan ⟨get world.store, world.ticks⟩
  (out.1, ⟨set world.store out.2.store, out.2.ticks⟩)

def allWork : Plan := fun _ => .works

/-- All operations work until the power goes at operation `cut`. -/
def cutAt (cut : Nat) : Plan := fun tick => if tick < cut then .works else .powerLost

/-- The next `count` operations after `start` take effect. -/
def WorksFor (plan : Plan) (start count : Nat) : Prop := ∀ i < count, plan (start + i) = .works

instance (plan : Plan) (start count : Nat) : Decidable (WorksFor plan start count) :=
  inferInstanceAs (Decidable (∀ i < count, plan (start + i) = .works))

/-- A run without faults, from a fresh boot. -/
def clean (program : Program σ α) (store : σ) : Option α × σ :=
  let out := program allWork ⟨store, 0⟩
  (out.1, out.2.store)

/-! ### Running -/

lemma bind_run (program : Program σ α) (next : α → Program σ β) (plan : Plan) (world : World σ) :
    (program >>= next) plan world =
      match program plan world with
      | (some value, world') => next value plan world'
      | (none, world') => (none, world') := rfl

lemma bind_of_some {program : Program σ α} {next : α → Program σ β} {plan : Plan} {world world' : World σ}
    {value : α} (h : program plan world = (some value, world')) :
    (program >>= next) plan world = next value plan world' := by
  rw [bind_run, h]

lemma bind_of_none {program : Program σ α} {next : α → Program σ β} {plan : Plan} {world world' : World σ}
    (h : program plan world = (none, world')) : (program >>= next) plan world = (none, world') := by
  rw [bind_run, h]

lemma attempt_works {effect : σ → σ} {plan : Plan} {store : σ} {ticks : Nat} (h : plan ticks = .works) :
    attempt effect plan ⟨store, ticks⟩ = (some true, ⟨effect store, ticks + 1⟩) := by
  simp only [attempt, h]

lemma attempt_fails {effect : σ → σ} {plan : Plan} {store : σ} {ticks : Nat} (h : plan ticks = .fails) :
    attempt effect plan ⟨store, ticks⟩ = (some false, ⟨store, ticks + 1⟩) := by
  simp only [attempt, h]

lemma attempt_powerLost {effect : σ → σ} {plan : Plan} {store : σ} {ticks : Nat}
    (h : plan ticks = .powerLost) : attempt effect plan ⟨store, ticks⟩ = (none, ⟨store, ticks⟩) := by
  simp only [attempt, h]

/-! ### Stores along a run -/

def storeAfter (start : σ) : List σ → Nat → σ
  | [], _ => start
  | _ :: _, 0 => start
  | next :: rest, count + 1 => storeAfter next rest count

def finalStore (start : σ) (steps : List σ) : σ := storeAfter start steps steps.length

@[simp] lemma storeAfter_zero (start : σ) (steps : List σ) : storeAfter start steps 0 = start := by
  cases steps <;> rfl

@[simp] lemma storeAfter_succ (start next : σ) (rest : List σ) (count : Nat) :
    storeAfter start (next :: rest) (count + 1) = storeAfter next rest count := rfl

@[simp] lemma finalStore_nil (start : σ) : finalStore start [] = start := rfl

@[simp] lemma finalStore_cons (start next : σ) (rest : List σ) :
    finalStore start (next :: rest) = finalStore next rest := rfl

lemma storeAfter_append_left {start : σ} {steps : List σ} (more : List σ) {count : Nat}
    (h : count ≤ steps.length) : storeAfter start (steps ++ more) count = storeAfter start steps count := by
  induction steps generalizing start count with
  | nil =>
    obtain rfl : count = 0 := by simpa using h
    simp
  | cons next rest ih =>
    cases count with
    | zero => simp
    | succ count =>
      rw [List.cons_append, storeAfter_succ, storeAfter_succ, ih (by simpa using h)]

lemma storeAfter_append_right (start : σ) (steps more : List σ) (count : Nat) :
    storeAfter start (steps ++ more) (steps.length + count) =
      storeAfter (finalStore start steps) more count := by
  induction steps generalizing start with
  | nil => simp
  | cons next rest ih =>
    have hlen : (next :: rest).length + count = rest.length + count + 1 := by simp; omega
    rw [List.cons_append, hlen, storeAfter_succ, ih, finalStore_cons]

lemma finalStore_append (start : σ) (steps more : List σ) :
    finalStore start (steps ++ more) = finalStore (finalStore start steps) more := by
  rw [finalStore, List.length_append, storeAfter_append_right]
  rfl

/-- Stores of a run on a part of a larger store. -/
lemma storeAfter_map (embed : σ → τ) (start : σ) (steps : List σ) (count : Nat) :
    storeAfter (embed start) (steps.map embed) count = embed (storeAfter start steps count) := by
  induction steps generalizing start count with
  | nil => cases count <;> rfl
  | cons next rest ih =>
    cases count with
    | zero => simp
    | succ count => rw [List.map_cons, storeAfter_succ, storeAfter_succ, ih]

lemma finalStore_map (embed : σ → τ) (start : σ) (steps : List σ) :
    finalStore (embed start) (steps.map embed) = embed (finalStore start steps) := by
  rw [finalStore, List.length_map, storeAfter_map, finalStore]

/-! ### Traces -/

lemma WorksFor.head {plan : Plan} {start count : Nat} (h : WorksFor plan start (count + 1)) :
    plan start = .works := h 0 (by omega)

lemma worksFor_zero (plan : Plan) (start : Nat) : WorksFor plan start 0 := fun _ h => absurd h (by omega)

lemma WorksFor.succ {plan : Plan} {start count : Nat} (h : WorksFor plan start count)
    (hlast : plan (start + count) = .works) : WorksFor plan start (count + 1) := by
  intro i hi
  rcases Nat.lt_succ_iff_lt_or_eq.mp hi with hlt | rfl
  · exact h i hlt
  · exact hlast

lemma WorksFor.mono {plan : Plan} {start count count' : Nat} (h : WorksFor plan start count)
    (hle : count' ≤ count) : WorksFor plan start count' := fun i hi => h i (by omega)

lemma WorksFor.drop {plan : Plan} {start count more : Nat} (h : WorksFor plan start (count + more)) :
    WorksFor plan (start + count) more := by
  intro i hi
  rw [Nat.add_assoc]
  exact h (count + i) (by omega)

/-- Unless all of the next operations work, there is a first one that does not. -/
lemma worksFor_or_first (plan : Plan) (start count : Nat) :
    WorksFor plan start count ∨ ∃ k < count, WorksFor plan start k ∧ plan (start + k) ≠ .works := by
  induction count with
  | zero => exact .inl (worksFor_zero plan start)
  | succ count ih =>
    rcases ih with hall | ⟨k, hk, hfirst⟩
    · by_cases hlast : plan (start + count) = .works
      · exact .inl (hall.succ hlast)
      · exact .inr ⟨count, by omega, hall, hlast⟩
    · exact .inr ⟨k, by omega, hfirst⟩

/-- Without faults `program` takes the store through `steps` and returns `value`; a loss of power at
operation `k` leaves the store reached by the `k` operations before it. -/
structure Traces (program : Program σ α) (start : σ) (value : α) (steps : List σ) : Prop where
  completes : ∀ plan ticks, WorksFor plan ticks steps.length →
    program plan ⟨start, ticks⟩ = (some value, ⟨finalStore start steps, ticks + steps.length⟩)
  interrupted : ∀ plan ticks k, k < steps.length → WorksFor plan ticks k →
    plan (ticks + k) = .powerLost →
      program plan ⟨start, ticks⟩ = (none, ⟨storeAfter start steps k, ticks + k⟩)

lemma Traces.pure (value : α) (start : σ) : Traces (pure value) start value [] where
  completes := fun _ _ _ => rfl
  interrupted := fun _ _ _ hk => absurd hk (by simp)

lemma Traces.observe (read : σ → α) (start : σ) : Traces (observe read) start (read start) [] where
  completes := fun _ _ _ => rfl
  interrupted := fun _ _ _ hk => absurd hk (by simp)

lemma Traces.attempt (effect : σ → σ) (start : σ) :
    Traces (attempt effect) start true [effect start] where
  completes := by
    intro plan ticks h
    exact attempt_works (WorksFor.head h)
  interrupted := by
    intro plan ticks k hk _ hlost
    obtain rfl : k = 0 := by simpa using hk
    rw [storeAfter_zero]
    exact attempt_powerLost hlost

lemma Traces.bind {program : Program σ α} {next : α → Program σ β} {start : σ} {value : α} {out : β}
    {steps more : List σ} (h : Traces program start value steps)
    (hnext : Traces (next value) (finalStore start steps) out more) :
    Traces (program >>= next) start out (steps ++ more) where
  completes := by
    intro plan ticks hworks
    rw [List.length_append] at hworks
    have hfirst := h.completes plan ticks (hworks.mono (by omega))
    have hsecond := hnext.completes plan (ticks + steps.length) hworks.drop
    rw [bind_of_some hfirst, hsecond, finalStore_append, List.length_append, Nat.add_assoc]
  interrupted := by
    intro plan ticks k hk hworks hlost
    by_cases hlt : k < steps.length
    · rw [storeAfter_append_left more hlt.le]
      exact bind_of_none (h.interrupted plan ticks k hlt hworks hlost)
    · obtain ⟨j, rfl⟩ := Nat.exists_eq_add_of_le (Nat.le_of_not_lt hlt)
      rw [List.length_append] at hk
      have hfirst := h.completes plan ticks (hworks.mono (by omega))
      have hsecond := hnext.interrupted plan (ticks + steps.length) j (by omega) hworks.drop
        (by rwa [Nat.add_assoc])
      rw [bind_of_some hfirst, hsecond, storeAfter_append_right, Nat.add_assoc]

/-- The last part of a program touches no storage. -/
lemma Traces.bind_last {program : Program σ α} {next : α → Program σ β} {start : σ} {value : α} {out : β}
    {steps : List σ} (h : Traces program start value steps)
    (hnext : Traces (next value) (finalStore start steps) out []) : Traces (program >>= next) start out steps := by
  have hbind := h.bind hnext
  rwa [List.append_nil] at hbind

lemma Traces.observe_bind {read : σ → α} {next : α → Program σ β} {start : σ} {out : β} {steps : List σ}
    (h : Traces (next (read start)) start out steps) :
    Traces (Program.observe read >>= next) start out steps :=
  (Traces.observe read start).bind h

lemma Traces.attempt_bind {effect : σ → σ} {next : Bool → Program σ β} {start : σ} {out : β}
    {steps : List σ} (h : Traces (next true) (effect start) out steps) :
    Traces (Program.attempt effect >>= next) start out (effect start :: steps) :=
  (Traces.attempt effect start).bind h

lemma Traces.within {get : τ → σ} {set : τ → σ → τ} {program : Program σ α} {whole : τ} {value : α}
    {steps : List σ} (hset : set whole (get whole) = whole) (h : Traces program (get whole) value steps) :
    Traces (within get set program) whole value (steps.map (set whole)) where
  completes := by
    intro plan ticks hworks
    rw [List.length_map] at hworks
    have hmap := storeAfter_map (set whole) (get whole) steps steps.length
    rw [hset] at hmap
    simp only [Program.within, h.completes plan ticks hworks, finalStore, List.length_map, hmap]
  interrupted := by
    intro plan ticks k hk hworks hlost
    rw [List.length_map] at hk
    have hmap := storeAfter_map (set whole) (get whole) steps k
    rw [hset] at hmap
    simp only [Program.within, h.interrupted plan ticks k hk hworks hlost, hmap]

/-- Stores a run can be cut off in: the ones passed through, and the start. -/
lemma storeAfter_mem (start : σ) (steps : List σ) (count : Nat) :
    storeAfter start steps count ∈ start :: steps := by
  induction steps generalizing start count with
  | nil => cases count <;> simp [storeAfter]
  | cons next rest ih =>
    cases count with
    | zero => simp
    | succ count =>
      rw [storeAfter_succ]
      exact List.mem_cons_of_mem _ (ih next count)

lemma clean_of_traces {program : Program σ α} {start : σ} {value : α} {steps : List σ}
    (h : Traces program start value steps) : clean program start = (some value, finalStore start steps) := by
  rw [clean, h.completes allWork 0 fun _ _ => rfl]

lemma cutAt_worksFor (cut : Nat) : WorksFor (cutAt cut) 0 cut := by
  intro i hi
  rw [cutAt, Nat.zero_add, if_pos hi]

/-- What a loss of power leaves behind: nothing is done after operation `cut`. -/
lemma cutAt_of_traces {program : Program σ α} {start : σ} {value : α} {steps : List σ}
    (h : Traces program start value steps) (cut : Nat) :
    (program (cutAt cut) ⟨start, 0⟩).2.store = storeAfter start steps (min cut steps.length) := by
  by_cases hcut : cut < steps.length
  · have hlost : cutAt cut (0 + cut) = .powerLost := by simp [cutAt]
    rw [h.interrupted _ 0 cut hcut (cutAt_worksFor cut) hlost, Nat.min_eq_left hcut.le]
  · have hworks := (cutAt_worksFor cut).mono (Nat.le_of_not_lt hcut)
    rw [h.completes _ 0 hworks, Nat.min_eq_right (Nat.le_of_not_lt hcut), finalStore]

/-! ### Failed operations -/

/-- `handlers` lists what the program goes on to do after each of its operations fails. -/
structure Unfolds (program : Program σ α) (start : σ) (value : α) (steps : List σ)
    (handlers : List (Program σ α)) : Prop extends Traces program start value steps where
  aligned : handlers.length = steps.length
  failed : ∀ plan ticks k handler, handlers[k]? = some handler → WorksFor plan ticks k →
    plan (ticks + k) = .fails →
      program plan ⟨start, ticks⟩ = handler plan ⟨storeAfter start steps k, ticks + k + 1⟩

lemma Unfolds.pure (value : α) (start : σ) : Unfolds (pure value) start value [] [] where
  toTraces := Traces.pure value start
  aligned := rfl
  failed := fun _ _ _ _ hk => absurd hk (by simp)

lemma Unfolds.observe (read : σ → α) (start : σ) : Unfolds (observe read) start (read start) [] [] where
  toTraces := Traces.observe read start
  aligned := rfl
  failed := fun _ _ _ _ hk => absurd hk (by simp)

lemma Unfolds.attempt (effect : σ → σ) (start : σ) :
    Unfolds (attempt effect) start true [effect start] [Pure.pure false] where
  toTraces := Traces.attempt effect start
  aligned := rfl
  failed := by
    intro plan ticks k handler hk _ hfails
    cases k with
    | zero =>
      obtain rfl : Pure.pure false = handler := by simpa using hk
      exact attempt_fails hfails
    | succ k => simp at hk

lemma Unfolds.bind {program : Program σ α} {next : α → Program σ β} {start : σ} {value : α} {out : β}
    {steps more : List σ} {handlers : List (Program σ α)} {rest : List (Program σ β)}
    (h : Unfolds program start value steps handlers)
    (hnext : Unfolds (next value) (finalStore start steps) out more rest) :
    Unfolds (program >>= next) start out (steps ++ more) (handlers.map (· >>= next) ++ rest) where
  toTraces := h.toTraces.bind hnext.toTraces
  aligned := by rw [List.length_append, List.length_map, List.length_append, h.aligned, hnext.aligned]
  failed := by
    intro plan ticks k handler hk hworks hfails
    by_cases hlt : k < steps.length
    · rw [List.getElem?_append_left (by rwa [List.length_map, h.aligned]), List.getElem?_map,
        Option.map_eq_some_iff] at hk
      obtain ⟨first, hfirst, rfl⟩ := hk
      rw [storeAfter_append_left more hlt.le, bind_run, bind_run,
        h.failed plan ticks k first hfirst hworks hfails]
    · obtain ⟨j, rfl⟩ := Nat.exists_eq_add_of_le (Nat.le_of_not_lt hlt)
      rw [List.getElem?_append_right (by rw [List.length_map, h.aligned]; omega), List.length_map,
        h.aligned, Nat.add_sub_cancel_left] at hk
      have hfirst := h.completes plan ticks (hworks.mono (by omega))
      have hsecond := hnext.failed plan (ticks + steps.length) j handler hk hworks.drop
        (by rwa [Nat.add_assoc])
      rw [bind_of_some hfirst, hsecond, storeAfter_append_right, Nat.add_assoc ticks steps.length j]

lemma Unfolds.observe_bind {read : σ → α} {next : α → Program σ β} {start : σ} {out : β}
    {steps : List σ} {handlers : List (Program σ β)}
    (h : Unfolds (next (read start)) start out steps handlers) :
    Unfolds (Program.observe read >>= next) start out steps handlers :=
  (Unfolds.observe read start).bind h

lemma Unfolds.attempt_bind {effect : σ → σ} {next : Bool → Program σ β} {start : σ} {out : β}
    {steps : List σ} {handlers : List (Program σ β)}
    (h : Unfolds (next true) (effect start) out steps handlers) :
    Unfolds (Program.attempt effect >>= next) start out (effect start :: steps) (next false :: handlers) :=
  (Unfolds.attempt effect start).bind h

/-! ### Invariants under any faults -/

def NoPowerLoss (plan : Plan) : Prop := ∀ tick, plan tick ≠ .powerLost

lemma NoPowerLoss.fails {plan : Plan} (h : NoPowerLoss plan) {tick : Nat} (hop : plan tick ≠ .works) :
    plan tick = .fails := by
  cases hcase : plan tick with
  | works => exact absurd hcase hop
  | fails => rfl
  | powerLost => exact absurd hcase (h tick)

/-- From a store in `pre` the program returns, and does so in `post`, whichever operations fail. -/
def Ensures (pre : σ → Prop) (program : Program σ α) (post : α → σ → Prop) : Prop :=
  ∀ plan world, NoPowerLoss plan → pre world.store →
    ∃ value world', program plan world = (some value, world') ∧ post value world'.store

lemma Ensures.of_pre {pre pre' : σ → Prop} {program : Program σ α} {post : α → σ → Prop}
    (himp : ∀ store, pre' store → pre store) (h : Ensures pre program post) : Ensures pre' program post :=
  fun plan world hplan hpre => h plan world hplan (himp _ hpre)

lemma Ensures.pure {pre : σ → Prop} {post : α → σ → Prop} {value : α} (h : ∀ store, pre store → post value store) :
    Ensures pre (pure value) post := fun _ world _ hpre => ⟨value, world, rfl, h _ hpre⟩

lemma Ensures.observe {pre : σ → Prop} {post : α → σ → Prop} {read : σ → α}
    (h : ∀ store, pre store → post (read store) store) : Ensures pre (observe read) post :=
  fun _ world _ hpre => ⟨read world.store, world, rfl, h _ hpre⟩

/-- An invariant of the store survives reading it. -/
lemma Ensures.observe_keeps (keep : σ → Prop) (read : σ → α) : Ensures keep (Program.observe read) fun _ => keep :=
  Ensures.observe fun _ hkeep => hkeep

/-- A failed operation leaves the store alone. -/
lemma Ensures.attempt {pre : σ → Prop} {post : Bool → σ → Prop} {effect : σ → σ}
    (hworks : ∀ store, pre store → post true (effect store)) (hfails : ∀ store, pre store → post false store) :
    Ensures pre (attempt effect) post := by
  intro plan world hplan hpre
  by_cases hop : plan world.ticks = .works
  · exact ⟨true, _, attempt_works hop, hworks _ hpre⟩
  · exact ⟨false, _, attempt_fails (hplan.fails hop), hfails _ hpre⟩

lemma Ensures.attempt_keeps {keep : σ → Prop} {effect : σ → σ} (h : ∀ store, keep store → keep (effect store)) :
    Ensures keep (Program.attempt effect) fun _ => keep :=
  Ensures.attempt h fun _ hkeep => hkeep

lemma Ensures.bind {pre : σ → Prop} {program : Program σ α} {next : α → Program σ β}
    {mid : α → σ → Prop} {post : β → σ → Prop} (h : Ensures pre program mid)
    (hnext : ∀ value, Ensures (mid value) (next value) post) : Ensures pre (program >>= next) post := by
  intro plan world hplan hpre
  obtain ⟨value, middle, hprogram, hmid⟩ := h plan world hplan hpre
  obtain ⟨out, world', hrun, hpost⟩ := hnext value plan middle hplan hmid
  exact ⟨out, world', by rw [bind_of_some hprogram, hrun], hpost⟩

/-- Branches on the result of an operation. -/
lemma Ensures.bind_bool {pre : σ → Prop} {program : Program σ Bool} {next : Bool → Program σ β}
    {mid : Bool → σ → Prop} {post : β → σ → Prop} (h : Ensures pre program mid)
    (htrue : Ensures (mid true) (next true) post) (hfalse : Ensures (mid false) (next false) post) :
    Ensures pre (program >>= next) post := by
  refine h.bind fun value => ?_
  cases value with
  | true => exact htrue
  | false => exact hfalse

end Program

end FaultProgram
