import Mathlib.Tactic

/-!
# Programs that raise and die

Every operation of a program is an attempt whose outcome the environment decides from the kind of the operation: it takes
effect, it raises and leaves the store alone, or the process dies there. A program that is left may go on in a handler; a
program that died is followed only by what finds its store later.
-/

namespace Interrupted

inductive Outcome where
  | works | raises | dies
  deriving DecidableEq

inductive Ending (ε α : Type) where
  | returned (value : α)
  | raised (error : ε)
  | died
  deriving DecidableEq

/-- Outcome of each operation, from its number in the run and its kind. -/
def Plan (ι : Type) := Nat → ι → Outcome

/-- The store and the number of operations attempted so far. -/
structure World (σ : Type) where
  store : σ
  ticks : Nat

def Program (ι ε σ α : Type) := Plan ι → World σ → Ending ε α × World σ

namespace Program

variable {ι ε σ α β : Type}

instance : Monad (Program ι ε σ) where
  pure value := fun _ world => (.returned value, world)
  bind program next := fun plan world =>
    match program plan world with
    | (.returned value, world') => next value plan world'
    | (.raised error, world') => (.raised error, world')
    | (.died, world') => (.died, world')

def raise (error : ε) : Program ι ε σ α := fun _ world => (.raised error, world)

def ofExcept : Except ε α → Program ι ε σ α
  | .ok value => pure value
  | .error error => raise error

def observe (read : σ → α) : Program ι ε σ α := fun _ world => (.returned (read world.store), world)

def step (kind : ι) (error : ε) (effect : σ → σ) : Program ι ε σ Unit := fun plan world =>
  match plan world.ticks kind with
  | .works => (.returned (), ⟨effect world.store, world.ticks + 1⟩)
  | .raises => (.raised error, ⟨world.store, world.ticks + 1⟩)
  | .dies => (.died, world)

/-- `except Exception: handler; raise` -/
def onError (program : Program ι ε σ α) (handler : Program ι ε σ Unit) : Program ι ε σ α := fun plan world =>
  match program plan world with
  | (.raised error, world') => (handler >>= fun _ => raise error) plan world'
  | out => out

/-- `finally: closing` -/
def ensuring (program : Program ι ε σ α) (closing : Program ι ε σ Unit) : Program ι ε σ α := do
  let value ← program.onError closing
  closing
  return value

/-- `except Exception: pass` -/
def ignoring (program : Program ι ε σ Unit) : Program ι ε σ Unit := fun plan world =>
  match program plan world with
  | (.raised _, world') => (.returned (), world')
  | out => out

/-! ### Contracts -/

/-- The faults an environment may cause, by kind of operation. -/
def Within (faults : ι → Outcome → Prop) (plan : Plan ι) : Prop := ∀ tick kind, faults kind (plan tick kind)

/-- How a program may end: with `post` if it returns, with `raised` if it raises, with `died` where its process dies. -/
def Ends (post : α → σ → Prop) (raised died : σ → Prop) : Ending ε α × World σ → Prop
  | (.returned value, world) => post value world.store
  | (.raised _, world) => raised world.store
  | (.died, world) => died world.store

/-- From a store in `pre`, whatever goes wrong within `faults`. -/
def Contract (faults : ι → Outcome → Prop) (pre : σ → Prop) (program : Program ι ε σ α) (post : α → σ → Prop)
    (raised died : σ → Prop) : Prop :=
  ∀ plan world, Within faults plan → pre world.store → Ends post raised died (program plan world)

variable {faults : ι → Outcome → Prop} {pre pre' raised raised' died died' : σ → Prop} {program : Program ι ε σ α}
  {post post' : α → σ → Prop}

lemma Ends.mono {out : Ending ε α × World σ} (h : Ends post raised died out) (hpost : ∀ value s, post value s → post' value s)
    (hraised : ∀ s, raised s → raised' s) (hdied : ∀ s, died s → died' s) : Ends post' raised' died' out := by
  rcases out with ⟨value | error | _, world⟩
  · exact hpost _ _ h
  · exact hraised _ h
  · exact hdied _ h

/-- The same holds however the program ends. -/
lemma Ends.of_same {post : σ → Prop} {out : Ending ε α × World σ} (h : Ends (fun _ => post) post post out) : post out.2.store := by
  rcases out with ⟨value | error | _, world⟩
  · exact h
  · exact h
  · exact h

lemma Ends.of_returned {out : Ending ε α × World σ} {value : α} (h : Ends post raised died out) (hout : out.1 = .returned value) :
    post value out.2.store := by
  obtain ⟨ending, world⟩ := out
  obtain rfl : ending = .returned value := hout
  exact h

lemma Contract.mono (h : Contract faults pre program post raised died) (hpre : ∀ s, pre' s → pre s)
    (hpost : ∀ value s, post value s → post' value s) (hraised : ∀ s, raised s → raised' s)
    (hdied : ∀ s, died s → died' s) : Contract faults pre' program post' raised' died' :=
  fun plan world hplan hstore => (h plan world hplan (hpre _ hstore)).mono hpost hraised hdied

lemma Contract.of_pre (h : Contract faults pre program post raised died) (hpre : ∀ s, pre' s → pre s) :
    Contract faults pre' program post raised died := h.mono hpre (fun _ _ h => h) (fun _ h => h) fun _ h => h

lemma Contract.weaken (h : Contract faults pre program post raised died) (hpost : ∀ value s, post value s → post' value s) :
    Contract faults pre program post' raised died := h.mono (fun _ h => h) hpost (fun _ h => h) fun _ h => h

lemma Contract.of_or (h : Contract faults pre program post raised died) (h' : Contract faults pre' program post raised died) :
    Contract faults (fun s => pre s ∨ pre' s) program post raised died := by
  intro plan world hplan hstore
  rcases hstore with hstore | hstore
  · exact h plan world hplan hstore
  · exact h' plan world hplan hstore

/-- To reason with the value of a part of the store. -/
lemma Contract.fix {γ : Type} (part : σ → γ)
    (h : ∀ value, Contract faults (fun s => pre s ∧ part s = value) program post raised died) :
    Contract faults pre program post raised died :=
  fun plan world hplan hstore => h (part world.store) plan world hplan ⟨hstore, rfl⟩

lemma Contract.of_false (h : ∀ s, ¬pre s) : Contract faults pre program post raised died :=
  fun _ _ _ hstore => absurd hstore (h _)

lemma Contract.pure {value : α} (h : ∀ s, pre s → post value s) :
    Contract (ε := ε) faults pre (Pure.pure value) post raised died := fun _ _ _ hstore => h _ hstore

lemma Contract.raise {error : ε} (h : ∀ s, pre s → raised s) : Contract faults pre (raise error) post raised died :=
  fun _ _ _ hstore => h _ hstore

lemma Contract.ofExcept {result : Except ε α} (hok : ∀ value s, result = .ok value → pre s → post value s)
    (herror : ∀ s, pre s → raised s) : Contract faults pre (ofExcept result) post raised died := by
  cases result with
  | ok value => exact Contract.pure fun s hstore => hok value s rfl hstore
  | error error => exact Contract.raise herror

lemma Contract.observe {read : σ → α} (h : ∀ s, pre s → post (read s) s) :
    Contract (ε := ε) faults pre (observe read) post raised died := fun _ _ _ hstore => h _ hstore

lemma Contract.step {kind : ι} {error : ε} {effect : σ → σ} {post : Unit → σ → Prop}
    (hworks : ∀ s, pre s → post () (effect s)) (hraises : faults kind .raises → ∀ s, pre s → raised s)
    (hdies : ∀ s, pre s → died s) : Contract faults pre (step kind error effect) post raised died := by
  intro plan world hplan hstore
  have hfault := hplan world.ticks kind
  rw [Program.step]
  cases hop : plan world.ticks kind with
  | works => exact hworks _ hstore
  | raises =>
    rw [hop] at hfault
    exact hraises hfault _ hstore
  | dies => exact hdies _ hstore

/-- An operation that keeps what holds of the store. -/
lemma Contract.step_keeps {kind : ι} {error : ε} {effect : σ → σ} (h : ∀ s, pre s → pre (effect s)) :
    Contract faults pre (Program.step kind error effect) (fun _ => pre) pre pre :=
  Contract.step h (fun _ _ hstore => hstore) fun _ hstore => hstore

lemma Contract.bind {next : α → Program ι ε σ β} {mid : α → σ → Prop} {post : β → σ → Prop}
    (h : Contract faults pre program mid raised died)
    (hnext : ∀ value, Contract faults (mid value) (next value) post raised died) :
    Contract faults pre (program >>= next) post raised died := by
  intro plan world hplan hstore
  have hends := h plan world hplan hstore
  change Ends post raised died (match program plan world with
    | (.returned value, world') => next value plan world'
    | (.raised error, world') => (.raised error, world')
    | (.died, world') => (.died, world'))
  revert hends
  rcases program plan world with ⟨value | error | _, world'⟩
  · intro hmid
    exact hnext value plan world' hplan hmid
  · exact id
  · exact id

lemma Contract.ofExcept_bind {result : Except ε α} {next : α → Program ι ε σ β} {post : β → σ → Prop}
    (hnext : ∀ value, result = .ok value → Contract faults pre (next value) post raised died) (herror : ∀ s, pre s → raised s) :
    Contract faults pre (Program.ofExcept result >>= next) post raised died := by
  cases result with
  | ok value => exact hnext value rfl
  | error error => exact Contract.raise herror

lemma Contract.onError {handler : Program ι ε σ Unit} {failing : σ → Prop}
    (h : Contract faults pre program post failing died)
    (hhandler : Contract faults failing handler (fun _ => raised) raised died) :
    Contract faults pre (program.onError handler) post raised died := by
  intro plan world hplan hstore
  have hends := h plan world hplan hstore
  rw [Program.onError]
  revert hends
  rcases program plan world with ⟨value | error | _, world'⟩
  · exact id
  · intro hfailing
    exact hhandler.bind (fun _ => Contract.raise fun _ hraised => hraised) plan world' hplan hfailing
  · exact id

lemma Contract.ensuring {closing : Program ι ε σ Unit} {failing : σ → Prop}
    (h : Contract faults pre program post failing died)
    (hfailing : Contract faults failing closing (fun _ => raised) raised died)
    (hclosing : ∀ value, Contract faults (post value) closing (fun _ => post' value) raised died) :
    Contract faults pre (program.ensuring closing) post' raised died :=
  (h.onError hfailing).bind fun value => (hclosing value).bind fun _ => Contract.pure fun _ hpost => hpost

lemma Contract.ignoring {program : Program ι ε σ Unit} {post : Unit → σ → Prop}
    (h : Contract faults pre program post (post ()) died) : Contract faults pre program.ignoring post raised died := by
  intro plan world hplan hstore
  have hends := h plan world hplan hstore
  rw [Program.ignoring]
  revert hends
  rcases program plan world with ⟨value | error | _, world'⟩
  · exact id
  · exact id
  · exact id

end Program

end Interrupted
