import InkTime.Releases.Model

/-!
# What a recovery leads to

The state that the next successful recovery will leave is a function of what the store may hold. The operations of a recovery
keep it, and so do those of a rollback other than its commit.
-/

namespace InkTime.Releases

open Checked (require orError)
open Durable (Cell)
open Interrupted Interrupted.Program

/-- The rows of `releases` and what the pointer files name. -/
structure ReleaseState where
  releases : List ReleaseRow
  pointers : PointerName → Option String

def Store.state (s : Store) : ReleaseState := ⟨s.releases, s.pointer⟩

/-! ### The outcome of a recovery -/

/-- What the recovery of an intent writes to the pointers it covers. -/
def Intent.aim (intent : Intent) (releases : List ReleaseRow) (name : PointerName) : Option String :=
  if intent.committed (findRelease intent.releaseId releases) then some intent.releaseId
  else (intent.pointers.lookup name).getD none

def Intent.applies (intent : Intent) (directories : String → Option ReleaseDirectory) (releases : List ReleaseRow) : Bool :=
  intent.valid && (!intent.committed (findRelease intent.releaseId releases)
    || (validate directories intent.releaseId).toOption.any (·.isFormal intent.profile))

/-- The pointers after a recovery, where one can succeed. -/
def recovered (directories : String → Option ReleaseDirectory) (releases : List ReleaseRow) (file : Option IntentFile)
    (pointers : PointerName → Option String) : Option (PointerName → Option String) :=
  match file with
  | none => some pointers
  | some (.record intent) =>
    if intent.applies directories releases then
      some fun name => if intent.covers name then intent.aim releases name else pointers name
    else none
  | some _ => none

/-- What may be found in the entries: what they hold, or with a loss of `power` what they held since the last synchronisation. -/
def Store.MayHold (s : Store) (power : Bool) (file : Option IntentFile) (pointers : PointerName → Option String) : Prop :=
  (file = s.intent.current ∧ pointers = s.pointer)
    ∨ (power = true ∧ s.intent.Survivor file ∧ ∀ name, (s.pointers name).Survivor (pointers name))

/-- Every recovery that succeeds from here ends in `goal`. -/
structure Store.Leads (s : Store) (power : Bool) (goal : ReleaseState) : Prop where
  releases : s.releases = goal.releases
  pointers : ∀ file pointers, s.MayHold power file pointers →
    ∀ out, recovered s.directories s.releases file pointers = some out → out = goal.pointers

/-- The entry reads `value`, whatever is lost. -/
def Reads {α : Type} (power : Bool) (cell : Cell α) (value : α) : Prop :=
  cell.current = value ∧ (power = true → ∀ value', cell.Survivor value' → value' = value)

/-- What is found after a crash: the store itself, or with a loss of power something it may hold. -/
def Store.Image (power : Bool) (s s' : Store) : Prop :=
  s' = s ∨ (power = true ∧ s'.releases = s.releases ∧ s'.directories = s.directories
    ∧ (∃ file, s.intent.Survivor file ∧ s'.intent = Cell.synced file)
    ∧ ∀ name, ∃ value, (s.pointers name).Survivor value ∧ s'.pointers name = Cell.synced value)

variable {power : Bool} {s s' : Store} {goal : ReleaseState} {name : PointerName} {value : Option String}
  {directories : String → Option ReleaseDirectory} {releases : List ReleaseRow} {file : Option IntentFile}
  {pointers pointers' out : PointerName → Option String} {intent : Intent}

lemma Store.MayHold.current (s : Store) (power : Bool) : s.MayHold power s.intent.current s.pointer := .inl ⟨rfl, rfl⟩

lemma Store.MayHold.file_eq (h : s.MayHold power file pointers) :
    file = s.intent.current ∨ (power = true ∧ s.intent.Survivor file) := by
  rcases h with ⟨rfl, -⟩ | ⟨hpower, hfile, -⟩
  · exact .inl rfl
  · exact .inr ⟨hpower, hfile⟩

lemma Store.MayHold.pointer (h : s.MayHold power file pointers) (name : PointerName) :
    pointers name = s.pointer name ∨ (power = true ∧ (s.pointers name).Survivor (pointers name)) := by
  rcases h with ⟨-, rfl⟩ | ⟨hpower, -, hpointers⟩
  · exact .inl rfl
  · exact .inr ⟨hpower, hpointers name⟩

lemma Reads.of_mayHold (h : Reads power (s.pointers name) value) (hold : s.MayHold power file pointers) :
    pointers name = value := by
  rcases hold.pointer name with heq | ⟨hpower, hvalue⟩
  · exact heq.trans h.1
  · exact h.2 hpower _ hvalue

lemma Reads.file_of_mayHold (h : Reads power s.intent file) {file' : Option IntentFile}
    (hold : s.MayHold power file' pointers) : file' = file := by
  rcases hold.file_eq with heq | ⟨hpower, hvalue⟩
  · exact heq.trans h.1
  · exact h.2 hpower _ hvalue

/-- The intent alone decides whether a recovery succeeds and what it writes to the pointers it covers. -/
lemma recovered_congr (pointers' : PointerName → Option String)
    (h : recovered directories releases file pointers = some out) :
    ∃ out', recovered directories releases file pointers' = some out'
      ∧ ∀ name, out' name = out name ∨ (out' name = pointers' name ∧ out name = pointers name) := by
  unfold recovered at h ⊢
  split at h
  · exact ⟨pointers', rfl, fun name => .inr ⟨rfl, by rw [← Option.some.inj h]⟩⟩
  · rename_i intent
    split at h
    · rename_i happlies
      refine ⟨_, if_pos happlies, fun name => ?_⟩
      rw [← Option.some.inj h]
      by_cases hcovers : intent.covers name = true
      · simp only [hcovers, if_true, true_or]
      · simp only [hcovers, if_false, Bool.false_eq_true, or_true, and_self]
    · cases h
  · cases h

/-! ### What keeps the goal -/

lemma Store.Leads.of_mayHold (h : s.Leads power goal) (hreleases : s'.releases = s.releases)
    (hdirectories : s'.directories = s.directories)
    (hold : ∀ file pointers, s'.MayHold power file pointers → s.MayHold power file pointers) : s'.Leads power goal where
  releases := hreleases.trans h.releases
  pointers := by
    intro file pointers hmay out hout
    rw [hdirectories, hreleases] at hout
    exact h.pointers file pointers (hold _ _ hmay) out hout

lemma Store.Leads.image (h : s.Leads power goal) (himage : s.Image power s') : s'.Leads power goal := by
  rcases himage with rfl | ⟨hpower, hreleases, hdirectories, ⟨file', hfile', hintent⟩, hpointers⟩
  · exact h
  · refine h.of_mayHold hreleases hdirectories fun file pointers hmay => .inr ⟨hpower, ?_, fun name => ?_⟩
    · rcases hmay.file_eq with hfile | ⟨-, hfile⟩
      · rw [hfile, hintent]
        exact hfile'
      · rw [hintent, Cell.survivor_synced] at hfile
        rwa [hfile]
    · obtain ⟨value, hvalue, hcell⟩ := hpointers name
      rcases hmay.pointer name with hpointer | ⟨-, hpointer⟩
      · rwa [hpointer, Store.pointer, hcell]
      · rw [hcell, Cell.survivor_synced] at hpointer
        rwa [hpointer]

lemma Store.Leads.sync (h : s.Leads power goal) : s.sync.Leads power goal := by
  refine h.of_mayHold rfl rfl fun file pointers hmay => ?_
  rcases hmay with hcurrent | ⟨hpower, hfile, hpointers⟩
  · exact .inl hcurrent
  · exact .inr ⟨hpower, hfile.of_sync, fun name => (hpointers name).of_sync⟩

@[simp] lemma pointers_setPointer_self : (s.setPointer name value).pointers name = (s.pointers name).write value := by
  simp [Store.setPointer]

lemma pointers_setPointer_of_ne {name' : PointerName} (h : name' ≠ name) :
    (s.setPointer name value).pointers name' = s.pointers name' := by
  simp [Store.setPointer, h]

lemma pointer_setPointer : (s.setPointer name value).pointer = Function.update s.pointer name value := by
  funext name'
  by_cases h : name' = name
  · subst h
    simp [Store.pointer]
  · simp [Store.pointer, pointers_setPointer_of_ne h, h]

/-- Away from `value` at `name`, a store with that entry written may hold what it could before. -/
lemma Store.MayHold.of_setPointer (h : (s.setPointer name value).MayHold power file pointers) :
    ∃ pointers', s.MayHold power file pointers' ∧ ∀ name', pointers name' = pointers' name' ∨ (name' = name ∧ pointers name' = value) := by
  rcases h with ⟨hfile, hpointers⟩ | ⟨hpower, hfile, hpointers⟩
  · refine ⟨s.pointer, .inl ⟨hfile, rfl⟩, fun name' => ?_⟩
    rw [hpointers, pointer_setPointer]
    by_cases hname : name' = name
    · subst hname
      exact .inr ⟨rfl, Function.update_self ..⟩
    · exact .inl (Function.update_of_ne hname ..)
  · refine ⟨fun name' => if (s.pointers name').Survivor (pointers name') then pointers name' else s.pointer name',
      .inr ⟨hpower, hfile, fun name' => ?_⟩, fun name' => ?_⟩
    · dsimp only
      split
      · assumption
      · exact Cell.survivor_current _
    · by_cases hsurvives : (s.pointers name').Survivor (pointers name')
      · exact .inl (if_pos hsurvives).symm
      · by_cases hname : name' = name
        · subst hname
          have hwritten := hpointers name'
          rw [pointers_setPointer_self, Cell.survivor_write] at hwritten
          exact .inr ⟨rfl, hwritten.resolve_right hsurvives⟩
        · have hkept := hpointers name'
          rw [pointers_setPointer_of_ne hname] at hkept
          exact absurd hkept hsurvives

/-- To write where the recovery leads. -/
lemma Store.Leads.setPointer (h : s.Leads power goal) (hvalue : value = goal.pointers name) :
    (s.setPointer name value).Leads power goal where
  releases := h.releases
  pointers := by
    intro file pointers hmay out hout
    obtain ⟨pointers', hmay', hdiffer⟩ := hmay.of_setPointer
    obtain ⟨out', hout', hsame⟩ := recovered_congr pointers' hout
    have hgoal := h.pointers file pointers' hmay' out' hout'
    funext name'
    rcases hsame name' with heq | ⟨hleft, hright⟩
    · rw [← heq, hgoal]
    · rcases hdiffer name' with heq | ⟨rfl, heq⟩
      · rw [hright, heq, ← hleft, hgoal]
      · rw [hright, heq, hvalue]

/-- Without an intent the pointers are where they lead. -/
lemma Store.Leads.pointers_eq (h : s.Leads power goal) (hnone : s.intent.current = none)
    (hold : s.MayHold power file pointers) : pointers = goal.pointers := by
  rcases hold with ⟨-, rfl⟩ | ⟨hpower, -, hpointers⟩
  · exact h.pointers none _ (.inl ⟨hnone.symm, rfl⟩) _ rfl
  · exact h.pointers none _ (.inr ⟨hpower, .inl hnone.symm, hpointers⟩) _ rfl

lemma Store.Leads.pointer_eq (h : s.Leads power goal) (hnone : s.intent.current = none) : s.pointer = goal.pointers :=
  h.pointers_eq hnone (Store.MayHold.current s power)

lemma Store.MayHold.of_setIntent {file' : Option IntentFile} (h : (s.setIntent file').MayHold power file pointers) :
    (file = file' ∧ s.MayHold power s.intent.current pointers) ∨ s.MayHold power file pointers := by
  rcases h with ⟨hfile, hpointers⟩ | ⟨hpower, hfile, hpointers⟩
  · exact .inl ⟨hfile, .inl ⟨rfl, hpointers⟩⟩
  · rcases Cell.survivor_write.mp hfile with heq | hold
    · exact .inl ⟨heq, .inr ⟨hpower, Cell.survivor_current _, hpointers⟩⟩
    · exact .inr (.inr ⟨hpower, hold, hpointers⟩)

/-- To remove the intent once every pointer reads what it leads to. -/
lemma Store.Leads.clear (h : s.Leads power goal) (hreads : ∀ name, Reads power (s.pointers name) (goal.pointers name)) :
    (s.setIntent none).Leads power goal where
  releases := h.releases
  pointers := by
    intro file pointers hmay out hout
    rcases hmay.of_setIntent with ⟨rfl, hold⟩ | hold
    · rw [← Option.some.inj hout]
      funext name
      exact (hreads name).of_mayHold hold
    · exact h.pointers file pointers hold out hout

/-! ### Between the intent and its removal -/

/-- The intent is durable, and nothing but the pointers it covers differs from `goal`. -/
structure Store.Armed (s : Store) (power : Bool) (intent : Intent) (directories : String → Option ReleaseDirectory)
    (pointers : PointerName → Option String) : Prop where
  armed : Reads power s.intent (some (.record intent))
  unmoved : s.directories = directories
  elsewhere : ∀ name, intent.covers name = false → Reads power (s.pointers name) (pointers name)

/-- A durable intent leads to what it writes, given the rows of the database. -/
lemma Store.Armed.leads (h : s.Armed power intent directories goal.pointers) (hreleases : s.releases = goal.releases)
    (haim : intent.applies directories goal.releases = true →
      ∀ name, intent.covers name = true → intent.aim goal.releases name = goal.pointers name) : s.Leads power goal where
  releases := hreleases
  pointers := by
    intro file pointers hmay out hout
    rw [h.armed.file_of_mayHold hmay, h.unmoved, hreleases, recovered] at hout
    split at hout
    · rename_i happlies
      rw [← Option.some.inj hout]
      funext name
      by_cases hcovers : intent.covers name = true
      · rw [if_pos hcovers, haim happlies name hcovers]
      · rw [if_neg hcovers, (h.elsewhere name (by simpa using hcovers)).of_mayHold hmay]
    · cases hout

lemma Reads.sync {α : Type} {cell : Cell α} {value : α} (h : Reads power cell value) : Reads power cell.sync value :=
  ⟨h.1, fun hpower value' hvalue => h.2 hpower value' hvalue.of_sync⟩

lemma Reads.of_synced {α : Type} {cell : Cell α} (h : power = true → cell.unsynced = []) : Reads power cell cell.current :=
  ⟨rfl, fun hpower value' hvalue => by simpa [Cell.Survivor, h hpower] using hvalue⟩

lemma Store.Armed.sync (h : s.Armed power intent directories pointers) : s.sync.Armed power intent directories pointers where
  armed := h.armed.sync
  unmoved := h.unmoved
  elsewhere := fun name hname => (h.elsewhere name hname).sync

lemma Store.Armed.setPointer (h : s.Armed power intent directories pointers) (hcovers : intent.covers name = true) :
    (s.setPointer name value).Armed power intent directories pointers where
  armed := h.armed
  unmoved := h.unmoved
  elsewhere := by
    intro name' hname'
    rw [pointers_setPointer_of_ne]
    · exact h.elsewhere name' hname'
    · rintro rfl
      rw [hcovers] at hname'
      cases hname'

end InkTime.Releases
