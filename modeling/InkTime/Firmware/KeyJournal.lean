import InkTime.Firmware.AckJournal
import InkTime.Library.Fifo
import Mathlib.Data.List.GetD

/-!
# The journal of acknowledged keys

The class `AckJournal` of `offline_schedule_core.h`: rows of 96 bytes that hold the keys remembered last. A pointer to
characters is a function from an index to the byte found there.
-/

namespace InkTime.Firmware

open WireFormat

def kKeyBytes : Nat := 96

/-- The bytes from the first one of a C string on. -/
def CText.chars (text : CText) (index : Nat) : UInt8 := text.bytes.getD index 0

/-- A row of `keys_`. -/
structure KeyRow where
  bytes : Bytes
  size : bytes.length = kKeyBytes
  deriving DecidableEq

def KeyRow.chars (row : KeyRow) (index : Nat) : UInt8 := row.bytes.getD index 0

/-- The comparison of the characters that remain from an index on. -/
def equalsFrom (left right : Nat → UInt8) : Nat → Nat → Bool
  | 0, _ => true
  | remaining + 1, index =>
    if left index ≠ right index then false
    else if left index = 0 then true
    else equalsFrom left right remaining (index + 1)

def equals (left right : Nat → UInt8) : Bool := equalsFrom left right kKeyBytes 0

/-- What the first loop of `copy` copies from an index on. -/
def copyFrom (source : Nat → UInt8) : Nat → Nat → Bytes
  | 0, _ => []
  | remaining + 1, index => if source index = 0 then [] else source index :: copyFrom source remaining (index + 1)

lemma copyFrom_length (source : Nat → UInt8) (remaining index : Nat) : (copyFrom source remaining index).length ≤ remaining := by
  induction remaining generalizing index with
  | zero => exact le_rfl
  | succ remaining ih =>
    unfold copyFrom
    split
    · exact Nat.zero_le _
    · exact Nat.succ_le_succ (ih (index + 1))

/-- The bytes after the copied ones are cleared. -/
def copy (source : Nat → UInt8) : KeyRow where
  bytes := copyFrom source (kKeyBytes - 1) 0 ++ List.replicate (kKeyBytes - (copyFrom source (kKeyBytes - 1) 0).length) 0
  size := by
    have hlength := copyFrom_length source (kKeyBytes - 1) 0
    rw [List.length_append, List.length_replicate]
    omega

/-- The rows in use; their number is `count_`. -/
structure KeyJournal where
  keys : List KeyRow := []
  bounded : keys.length ≤ kMaxAckJournalEntries := by decide

namespace KeyJournal

variable (journal : KeyJournal) (key : CText)

def contains : Bool :=
  if key.bytes.isEmpty then false else journal.keys.any fun row => equals row.chars key.chars

/-- The rows once there is room for one more: a full journal moves every row up by one. -/
def shifted : List KeyRow :=
  if journal.keys.length = kMaxAckJournalEntries then journal.keys.tail.map fun row => copy row.chars else journal.keys

lemma shifted_length : (journal.shifted ++ [copy key.chars]).length ≤ kMaxAckJournalEntries := by
  have hbounded := journal.bounded
  have hpositive : 0 < kMaxAckJournalEntries := by decide
  unfold shifted
  split
  · simp only [List.length_append, List.length_map, List.length_tail, List.length_singleton]
    omega
  · simp only [List.length_append, List.length_singleton]
    omega

def remember : KeyJournal × Bool :=
  if key.bytes.isEmpty then (journal, false)
  else if journal.contains key then (journal, true)
  else (⟨journal.shifted ++ [copy key.chars], journal.shifted_length key⟩, true)

end KeyJournal

/-! ### Rows -/

section Rows

variable {text other : CText} {source left right : Nat → UInt8}

lemma CText.chars_eq_zero {index : Nat} : text.chars index = 0 ↔ text.bytes.length ≤ index := by
  constructor
  · intro h
    by_contra hlt
    rw [not_le] at hlt
    apply text.terminated
    rw [← h, CText.chars, List.getD_eq_getElem _ _ hlt]
    exact List.getElem_mem hlt
  · intro hle
    exact List.getD_eq_default _ _ hle

lemma CText.ext_chars (h : text.chars = other.chars) : text = other := by
  have hlength : text.bytes.length = other.bytes.length := by
    apply le_antisymm
    · rw [← CText.chars_eq_zero, h, CText.chars_eq_zero]
    · rw [← CText.chars_eq_zero, ← h, CText.chars_eq_zero]
  have hbytes : text.bytes = other.bytes := by
    apply List.ext_getElem hlength
    intro index hindex hindex'
    have hchar := congrFun h index
    rwa [CText.chars, CText.chars, List.getD_eq_getElem _ _ hindex, List.getD_eq_getElem _ _ hindex'] at hchar
  cases text
  cases other
  simp_all

lemma equalsFrom_iff {remaining index : Nat} : equalsFrom left right remaining index = true ↔
    ∀ i, index ≤ i → i < index + remaining → (∀ j, index ≤ j → j < i → left j ≠ 0) → left i = right i := by
  induction remaining generalizing index with
  | zero =>
    simp only [equalsFrom, true_iff]
    intro i hle hlt
    omega
  | succ remaining ih =>
    unfold equalsFrom
    by_cases hfirst : left index = right index
    · rw [if_neg (not_not.mpr hfirst)]
      by_cases hzero : left index = 0
      · rw [if_pos hzero]
        simp only [true_iff]
        intro i hle _ hbefore
        obtain rfl | hlt := hle.eq_or_lt
        · exact hfirst
        · exact absurd hzero (hbefore index le_rfl hlt)
      · rw [if_neg hzero, ih]
        constructor
        · intro h i hle hlt hbefore
          obtain rfl | hindex := hle.eq_or_lt
          · exact hfirst
          · exact h i hindex (by omega) fun j hj => hbefore j (by omega)
        · intro h i hle hlt hbefore
          apply h i (by omega) (by omega)
          intro j hj hji
          obtain rfl | hindex := hj.eq_or_lt
          · exact hzero
          · exact hbefore j hindex hji
    · rw [if_pos hfirst]
      simp only [Bool.false_eq_true, false_iff]
      intro h
      exact hfirst (h index le_rfl (by omega) fun j hj hlt => absurd hj (by omega))

/-- Two rows are equal where they agree up to the first zero byte of the left one. -/
lemma equals_iff : equals left right = true ↔ ∀ i < kKeyBytes, (∀ j < i, left j ≠ 0) → left i = right i := by
  unfold equals
  rw [equalsFrom_iff]
  simp

lemma copyFrom_getD (source : Nat → UInt8) (remaining index i : Nat) : (copyFrom source remaining index).getD i 0 =
    if i < remaining ∧ ∀ j < i, source (index + j) ≠ 0 then source (index + i) else 0 := by
  induction remaining generalizing index i with
  | zero => simp [copyFrom]
  | succ remaining ih =>
    unfold copyFrom
    by_cases hzero : source index = 0
    · rw [if_pos hzero]
      cases i with
      | zero => simp [hzero]
      | succ i =>
        rw [if_neg]
        · rfl
        · intro h
          exact h.2 0 (by omega) hzero
    · rw [if_neg hzero]
      cases i with
      | zero => simp
      | succ i =>
        rw [List.getD_cons_succ, ih]
        have hshift : ∀ j, index + 1 + j = index + (j + 1) := by omega
        simp only [hshift, Nat.add_lt_add_iff_right]
        congr 1
        apply propext
        constructor
        · rintro ⟨hlt, hbefore⟩
          refine ⟨hlt, ?_⟩
          intro j hj
          cases j with
          | zero => exact hzero
          | succ j => exact hbefore j (by omega)
        · rintro ⟨hlt, hbefore⟩
          exact ⟨hlt, fun j hj => hbefore (j + 1) (by omega)⟩

/-- A copy reads as its source up to its end, and as zero behind it. -/
lemma copy_chars (i : Nat) :
    (copy source).chars i = if i < kKeyBytes - 1 ∧ ∀ j < i, source j ≠ 0 then source i else 0 := by
  have hprefix := copyFrom_getD source (kKeyBytes - 1) 0 i
  simp only [Nat.zero_add] at hprefix
  rw [← hprefix]
  unfold KeyRow.chars copy
  obtain hlt | hle := lt_or_ge i (copyFrom source (kKeyBytes - 1) 0).length
  · rw [List.getD_append _ _ _ _ hlt]
  · rw [List.getD_append_right _ _ _ _ hle, List.getD_eq_default _ _ hle]
    exact List.getElem?_getD_replicate_default_eq _ _ _

lemma copy_last : (copy source).chars (kKeyBytes - 1) = 0 := by
  rw [copy_chars, if_neg]
  intro h
  omega

/-- A text that fits its row with its terminator is read back unchanged. -/
lemma copy_text (h : text.bytes.length < kKeyBytes) : (copy text.chars).chars = text.chars := by
  funext i
  rw [copy_chars]
  split
  · rfl
  · rename_i hnot
    symm
    rw [CText.chars_eq_zero]
    by_contra hlt
    rw [not_le] at hlt
    apply hnot
    refine ⟨by omega, ?_⟩
    intro j hj
    rw [ne_eq, CText.chars_eq_zero]
    omega

/-- The row of a text that fits is equal to that text and to no other. -/
lemma equals_copy (h : text.bytes.length < kKeyBytes) : equals (copy text.chars).chars other.chars = true ↔ text = other := by
  rw [copy_text h, equals_iff]
  constructor
  · intro hagree
    apply CText.ext_chars
    have hchar : ∀ i ≤ text.bytes.length, text.chars i = other.chars i := by
      intro i hi
      apply hagree i (by omega)
      intro j hj
      rw [ne_eq, CText.chars_eq_zero]
      omega
    have hend : other.bytes.length ≤ text.bytes.length := by
      rw [← CText.chars_eq_zero, ← hchar _ le_rfl, CText.chars_eq_zero]
    funext i
    obtain hle | hlt := le_or_gt i text.bytes.length
    · exact hchar i hle
    · rw [CText.chars_eq_zero.mpr hlt.le, CText.chars_eq_zero.mpr (hend.trans hlt.le)]
  · rintro rfl i _ _
    rfl

/-- No row is equal to a text that is too long for one. -/
lemma equals_long {row : KeyRow} (hlast : row.chars (kKeyBytes - 1) = 0) (h : kKeyBytes ≤ other.bytes.length) :
    equals row.chars other.chars = false := by
  rw [Bool.eq_false_iff, ne_eq, equals_iff]
  intro hagree
  have hzero : ∃ i, row.chars i = 0 := ⟨_, hlast⟩
  have hfirst : Nat.find hzero ≤ kKeyBytes - 1 := Nat.find_min' hzero hlast
  have hpositive : 0 < kKeyBytes := by decide
  have hchar := hagree (Nat.find hzero) (by omega) fun j hj => Nat.find_min hzero hj
  rw [Nat.find_spec hzero] at hchar
  have hend := CText.chars_eq_zero.mp hchar.symm
  omega

end Rows

/-! ### The journal over a sequence of calls -/

/-- A key that the queue protocol admits. -/
def JournalKey : Type := { text : CText // boundedText (some text) kQueueIdentifierMaxBytes = true }
deriving DecidableEq

namespace KeyJournal

variable {journal : KeyJournal} {key other : JournalKey} {log calls : List JournalKey}

/-- The journal after a sequence of calls of `remember`. -/
def after (calls : List JournalKey) : KeyJournal := Runs.run (fun journal key => (remember journal key.1).1) {} calls

def rowOf (key : JournalKey) : KeyRow := copy key.1.chars

lemma after_snoc (calls : List JournalKey) (key : JournalKey) :
    after (calls ++ [key]) = (remember (after calls) key.1).1 := Runs.run_snoc _ _ _ _

lemma key_nonempty (key : JournalKey) : key.1.bytes.isEmpty = false := by
  have hlength := (boundedText_iff.mp key.2).1
  rw [List.isEmpty_eq_false_iff, ← List.length_pos_iff]
  exact hlength

lemma remember_true (journal : KeyJournal) (key : JournalKey) : (remember journal key.1).2 = true := by
  unfold remember
  rw [key_nonempty, if_neg Bool.false_ne_true]
  split
  · rfl
  · rfl

lemma remember_keys (journal : KeyJournal) (key : JournalKey) : (remember journal key.1).1.keys =
    if contains journal key.1 then journal.keys else journal.shifted ++ [rowOf key] := by
  unfold remember
  rw [key_nonempty, if_neg Bool.false_ne_true]
  split
  · rfl
  · rfl

lemma contains_iff : contains journal key.1 = true ↔ ∃ row ∈ journal.keys, equals row.chars key.1.chars = true := by
  unfold contains
  rw [key_nonempty, if_neg Bool.false_ne_true, List.any_eq_true]

/-! Every row is a copy, so that it ends with a zero byte. -/

lemma shifted_mem {row : KeyRow} (hjournal : ∀ row ∈ journal.keys, ∃ source, row = copy source) (h : row ∈ journal.shifted) :
    ∃ source, row = copy source := by
  unfold shifted at h
  split at h
  · obtain ⟨before, -, rfl⟩ := List.mem_map.mp h
    exact ⟨_, rfl⟩
  · exact hjournal row h

lemma after_copies (calls : List JournalKey) : ∀ row ∈ (after calls).keys, ∃ source, row = copy source := by
  induction calls using List.reverseRecOn with
  | nil =>
    intro row hrow
    cases hrow
  | append_singleton calls key ih =>
    intro row hrow
    rw [after_snoc, remember_keys] at hrow
    split at hrow
    · exact ih row hrow
    · obtain hrow | hrow := List.mem_append.mp hrow
      · exact shifted_mem ih hrow
      · exact ⟨_, List.mem_singleton.mp hrow⟩

/-- A key that is too long for a row is never found. -/
lemma contains_long (calls : List JournalKey) (h : kKeyBytes ≤ key.1.bytes.length) : contains (after calls) key.1 = false := by
  rw [Bool.eq_false_iff, ne_eq, contains_iff]
  rintro ⟨row, hrow, hequals⟩
  obtain ⟨source, rfl⟩ := after_copies calls row hrow
  rw [equals_long copy_last h] at hequals
  cases hequals

/-! With keys that fit, the rows are those of the keys inserted last. -/

def Follows (journal : KeyJournal) (log : List JournalKey) : Prop :=
  journal.keys = (Fifo.window kMaxAckJournalEntries log).map rowOf

def Fits (log : List JournalKey) : Prop := ∀ key ∈ log, key.1.bytes.length < kKeyBytes

lemma Fits.window (h : Fits log) : Fits (Fifo.window kMaxAckJournalEntries log) :=
  fun key hkey => h key (List.mem_of_mem_drop hkey)

lemma Follows.contains_iff (h : Follows journal log) (hfits : Fits log) :
    contains journal key.1 = true ↔ key ∈ Fifo.window kMaxAckJournalEntries log := by
  rw [KeyJournal.contains_iff, h]
  constructor
  · rintro ⟨row, hrow, hequals⟩
    obtain ⟨stored, hstored, rfl⟩ := List.mem_map.mp hrow
    rw [rowOf, equals_copy (hfits.window stored hstored)] at hequals
    rwa [← Subtype.ext hequals]
  · intro hmem
    exact ⟨rowOf key, List.mem_map_of_mem hmem, (equals_copy (hfits.window key hmem)).mpr rfl⟩

/-- Moving the rows up by one drops the oldest key. -/
lemma Follows.shifted (h : Follows journal log) (hfits : Fits log) : journal.shifted =
    (if (Fifo.window kMaxAckJournalEntries log).length = kMaxAckJournalEntries
      then (Fifo.window kMaxAckJournalEntries log).tail else Fifo.window kMaxAckJournalEntries log).map rowOf := by
  unfold KeyJournal.shifted
  rw [h, List.length_map]
  split
  · rw [← List.map_tail, List.map_map]
    apply List.map_congr_left
    intro key hkey
    change copy (copy key.1.chars).chars = copy key.1.chars
    rw [copy_text (hfits.window key (List.mem_of_mem_tail hkey))]
  · rfl

lemma Follows.remember (h : Follows journal log) (hfits : Fits log) (key : JournalKey) :
    Follows (remember journal key.1).1 (Fifo.insert kMaxAckJournalEntries log key) := by
  unfold Follows
  rw [remember_keys]
  by_cases hmem : key ∈ Fifo.window kMaxAckJournalEntries log
  · rw [if_pos ((h.contains_iff hfits).mpr hmem), Fifo.insert_of_mem hmem]
    exact h
  · rw [if_neg (fun hcontains => hmem ((h.contains_iff hfits).mp hcontains)), Fifo.insert_of_notMem hmem,
      Fifo.window_append (by decide), h.shifted hfits, List.map_append]
    rfl

lemma after_follows (hfits : Fits calls) : Follows (after calls) (Fifo.insertions kMaxAckJournalEntries calls) := by
  induction calls using List.reverseRecOn with
  | nil => rfl
  | append_singleton calls key ih =>
    have hbefore : Fits calls := fun other hother => hfits other (List.mem_append_left _ hother)
    rw [after_snoc, Fifo.insertions_snoc]
    exact (ih hbefore).remember (fun other hother => hbefore other (Fifo.mem_of_mem_insertions hother)) key

lemma rowOf_inj (hkey : key.1.bytes.length < kKeyBytes) (hother : other.1.bytes.length < kKeyBytes)
    (h : rowOf key = rowOf other) : key = other := by
  apply Subtype.ext
  apply CText.ext_chars
  rw [← copy_text hkey, ← copy_text hother]
  exact congrArg KeyRow.chars h

/-! ### A bounded set -/

/-- What the journal is for, after a sequence of calls. -/
structure Serves (calls : List JournalKey) : Prop where
  remembered : ∀ earlier key, calls = earlier ++ [key] → (remember (after earlier) key.1).2 = true →
    contains (after calls) key.1 = true
  distinct : (after calls).keys.Nodup
  bounded : (after calls).keys.length ≤ 32
  exact : ∀ key : JournalKey, contains (after calls) key.1 = true ↔ key ∈ Fifo.window 32 (Fifo.insertions 32 calls)

lemma serves_of_fits (hfits : Fits calls) : Serves calls where
  remembered := by
    rintro earlier key rfl -
    rw [(after_follows hfits).contains_iff fun other hother => hfits other (Fifo.mem_of_mem_insertions hother),
      Fifo.insertions_snoc]
    exact Fifo.mem_window_insert (by decide)
  distinct := by
    have hwindow : Fits (Fifo.window kMaxAckJournalEntries (Fifo.insertions kMaxAckJournalEntries calls)) :=
      Fits.window fun other hother => hfits other (Fifo.mem_of_mem_insertions hother)
    rw [after_follows hfits]
    apply List.Nodup.map_on
    · intro key hkey other hother h
      exact rowOf_inj (hwindow key hkey) (hwindow other hother) h
    · exact Fifo.window_insertions_nodup (by decide) calls
  bounded := (after calls).bounded
  exact _ := (after_follows hfits).contains_iff fun other hother => hfits other (Fifo.mem_of_mem_insertions hother)

/-- The journal is a bounded set along a sequence of calls exactly where every key fits its row with its terminator. -/
theorem journal_is_bounded_set (calls : List JournalKey) :
    (∀ earlier, earlier <+: calls → Serves earlier) ↔ ∀ key ∈ calls, key.1.bytes.length < 96 := by
  constructor
  · intro h key hkey
    by_contra hlong
    obtain ⟨earlier, later, rfl⟩ := List.append_of_mem hkey
    have hserves := h (earlier ++ [key]) ⟨later, by simp⟩
    have hfound := hserves.remembered earlier key rfl (remember_true _ _)
    rw [contains_long _ (not_lt.mp hlong)] at hfound
    cases hfound
  · intro hfits earlier hearlier
    exact serves_of_fits fun key hkey => hfits key (hearlier.subset hkey)

/-- A key of 96 bytes. -/
def longKey : JournalKey := ⟨⟨List.replicate 96 97, by decide⟩, by decide⟩

theorem long_key_not_found : ¬ ∀ earlier, earlier <+: [longKey] → Serves earlier := by
  intro h
  have hfound := (h [longKey] (List.prefix_refl _)).remembered [] longKey rfl (by decide +kernel)
  exact absurd hfound (by decide +kernel)

end KeyJournal

end InkTime.Firmware
