import Mathlib.Tactic

/-!
# Directory entries and their synchronisation

A change of a directory entry is seen at once, but a loss of power may undo it until the directory is synchronised.
-/

namespace Durable

/-- What an entry holds, and what it has held since the directory was last synchronised. -/
structure Cell (α : Type) where
  current : α
  unsynced : List α
  deriving DecidableEq

namespace Cell

variable {α : Type}

def synced (value : α) : Cell α := ⟨value, []⟩

def write (value : α) (cell : Cell α) : Cell α := ⟨value, cell.current :: cell.unsynced⟩

def sync (cell : Cell α) : Cell α := synced cell.current

/-- What a loss of power may leave in the entry. -/
def Survivor (cell : Cell α) (value : α) : Prop := value = cell.current ∨ value ∈ cell.unsynced

instance [DecidableEq α] (cell : Cell α) (value : α) : Decidable (cell.Survivor value) :=
  inferInstanceAs (Decidable (value = cell.current ∨ value ∈ cell.unsynced))

lemma survivor_current (cell : Cell α) : cell.Survivor cell.current := .inl rfl

@[simp] lemma survivor_synced {value value' : α} : (synced value).Survivor value' ↔ value' = value := by
  simp [Survivor, synced]

@[simp] lemma survivor_write {cell : Cell α} {value value' : α} :
    (cell.write value).Survivor value' ↔ value' = value ∨ cell.Survivor value' := by
  simp [Survivor, write]

@[simp] lemma current_write (cell : Cell α) (value : α) : (cell.write value).current = value := rfl

@[simp] lemma current_sync (cell : Cell α) : cell.sync.current = cell.current := rfl

@[simp] lemma current_synced (value : α) : (synced value).current = value := rfl

lemma Survivor.of_sync {cell : Cell α} {value : α} (h : cell.sync.Survivor value) : cell.Survivor value :=
  .inl (survivor_synced.mp h)

end Cell

end Durable
