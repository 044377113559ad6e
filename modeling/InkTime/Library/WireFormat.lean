import Mathlib.Tactic

/-!
# Byte strings, little-endian integers and cursor readers

A reader consumes the bytes in front of its cursor and fails without a value. `Reads r e a` says
that `r` returns `a` when the cursor stands before `e`; it composes along `bind`, so the round trip
of a long record is assembled field by field. The `_eq_some` lemmas go the other way: what a reader
accepted is the encoding of what it returned.
-/

namespace WireFormat

abbrev Bytes := List UInt8

/-- The unread suffix of the input is the state; `none` is a rejected input. -/
abbrev Reader (α : Type) := StateT Bytes Option α

/-! ### Little-endian integers -/

def leBytes : Nat → Nat → Bytes
  | 0, _ => []
  | width + 1, value => UInt8.ofNat (value &&& 0xff) :: leBytes width (value >>> 8)

def leValue : Bytes → Nat
  | [] => 0
  | byte :: rest => byte.toNat ||| (leValue rest <<< 8)

@[simp] lemma leBytes_length (width value : Nat) : (leBytes width value).length = width := by
  induction width generalizing value with
  | zero => rfl
  | succ width ih => simp [leBytes, ih]

lemma leValue_cons (byte : UInt8) (rest : Bytes) :
    leValue (byte :: rest) = byte.toNat + 256 * leValue rest := by
  have hb : byte.toNat < 2 ^ 8 := byte.toNat_lt
  have hor : leValue rest <<< 8 + byte.toNat = leValue rest <<< 8 ||| byte.toNat :=
    Nat.shiftLeft_add_eq_or_of_lt hb _
  rw [leValue, Nat.or_comm, ← hor, Nat.shiftLeft_eq]
  omega

lemma leBytes_succ (width value : Nat) :
    leBytes (width + 1) value = UInt8.ofNat (value % 256) :: leBytes width (value / 256) := by
  have hand : value &&& 0xff = value % 256 := Nat.and_two_pow_sub_one_eq_mod value 8
  rw [leBytes, hand, Nat.shiftRight_eq_div_pow]

lemma leValue_leBytes (width value : Nat) : leValue (leBytes width value) = value % 256 ^ width := by
  induction width generalizing value with
  | zero => simp [leBytes, leValue, Nat.mod_one]
  | succ width ih =>
    have hmod : value % 256 % 2 ^ 8 = value % 256 := Nat.mod_eq_of_lt (Nat.mod_lt _ (by norm_num))
    rw [leBytes_succ, leValue_cons, ih, UInt8.toNat_ofNat', hmod, pow_succ', Nat.mod_mul]

lemma leBytes_leValue (bytes : Bytes) : leBytes bytes.length (leValue bytes) = bytes := by
  induction bytes with
  | nil => rfl
  | cons byte rest ih =>
    have hb : byte.toNat < 256 := byte.toNat_lt
    have hlow : (byte.toNat + 256 * leValue rest) % 256 = byte.toNat := by omega
    have hhigh : (byte.toNat + 256 * leValue rest) / 256 = leValue rest := by omega
    rw [List.length_cons, leBytes_succ, leValue_cons, hlow, hhigh, ih, UInt8.ofNat_toNat]

lemma leValue_lt (bytes : Bytes) : leValue bytes < 256 ^ bytes.length := by
  induction bytes with
  | nil => simp [leValue]
  | cons byte rest ih =>
    have hb : byte.toNat < 256 := byte.toNat_lt
    rw [leValue_cons, List.length_cons, pow_succ]
    omega

/-! ### Readers -/

def takeByte : Reader UInt8 := fun input =>
  match input with
  | [] => none
  | byte :: rest => some (byte, rest)

def takeCount (count : Nat) : Reader Bytes := fun input =>
  if input.length < count then none else some (input.take count, input.drop count)

/-- `reader` returns `value` and stops right after `encoded`, whatever follows. -/
def Reads {α : Type} (reader : Reader α) (encoded : Bytes) (value : α) : Prop :=
  ∀ rest, reader (encoded ++ rest) = some (value, rest)

section Composition

variable {α β : Type}

lemma reader_bind_run (reader : Reader α) (next : α → Reader β) (input : Bytes) :
    (reader >>= next) input = (reader input).bind fun read => next read.1 read.2 := by
  rfl

/-- A composed reader that accepts has read its first part and then its second part. -/
lemma reader_bind_eq_some {reader : Reader α} {next : α → Reader β} {input : Bytes} {out : β × Bytes}
    (h : (reader >>= next) input = some out) :
    ∃ value rest, reader input = some (value, rest) ∧ next value rest = some out := by
  rw [reader_bind_run, Option.bind_eq_some_iff] at h
  obtain ⟨⟨value, rest⟩, hread, hnext⟩ := h
  exact ⟨value, rest, hread, hnext⟩

lemma Reads.pure (value : α) : Reads (pure value) [] value := by
  intro rest
  rfl

lemma Reads.bind {reader : Reader α} {next : α → Reader β} {first second : Bytes} {value : α} {out : β}
    (h : Reads reader first value) (hnext : Reads (next value) second out) :
    Reads (reader >>= next) (first ++ second) out := by
  intro rest
  rw [reader_bind_run, List.append_assoc, h]
  exact hnext rest

/-- The last reader of a record, whose encoding is not followed by another field. -/
lemma Reads.bind_last {reader : Reader α} {next : α → Reader β} {first : Bytes} {value : α} {out : β}
    (h : Reads reader first value) (hnext : Reads (next value) [] out) :
    Reads (reader >>= next) first out := by
  have hb := Reads.bind h hnext
  rwa [List.append_nil] at hb

lemma Reads.of_guard {condition : Prop} [Decidable condition] (h : condition) :
    Reads (guard condition : Reader Unit) [] () := by
  intro rest
  simp only [guard, h, if_true, List.nil_append]
  rfl

/-- A check between two fields reads nothing. -/
lemma Reads.guard_bind {condition : Prop} [Decidable condition] {next : Unit → Reader β} {encoded : Bytes}
    {out : β} (h : condition) (hnext : Reads (next ()) encoded out) :
    Reads (guard condition >>= next) encoded out :=
  (Reads.of_guard h).bind hnext

lemma guard_eq_some {condition : Prop} [Decidable condition] {input : Bytes} {out : Unit × Bytes}
    (h : (guard condition : Reader Unit) input = some out) : condition ∧ out.2 = input := by
  by_cases hc : condition
  · simp only [guard, hc, if_true] at h
    exact ⟨hc, congrArg Prod.snd (Option.some.inj h).symm⟩
  · simp only [guard, hc, if_false] at h
    exact absurd h (by simp [failure, StateT.failure, Alternative.failure])

lemma Reads.takeByte (byte : UInt8) : Reads takeByte [byte] byte := by
  intro rest
  rfl

lemma takeByte_eq_some {input : Bytes} {out : UInt8 × Bytes} (h : takeByte input = some out) :
    input = out.1 :: out.2 := by
  cases input with
  | nil => simp [WireFormat.takeByte] at h
  | cons byte rest =>
    obtain rfl := Option.some.inj h
    rfl

lemma Reads.takeCount (bytes : Bytes) : Reads (takeCount bytes.length) bytes bytes := by
  intro rest
  have hlen : ¬(bytes ++ rest).length < bytes.length := by simp
  simp [WireFormat.takeCount]

lemma takeCount_eq_some {count : Nat} {input : Bytes} {out : Bytes × Bytes}
    (h : takeCount count input = some out) : input = out.1 ++ out.2 ∧ out.1.length = count := by
  unfold takeCount at h
  split at h
  · cases h
  · rename_i hlen
    obtain rfl := Option.some.inj h
    refine ⟨(List.take_append_drop count input).symm, ?_⟩
    rw [List.length_take]
    omega

end Composition

/-- A little-endian unsigned integer of `width` bytes. -/
def takeWord (width : Nat) : Reader Nat := do
  let bytes ← takeCount width
  pure (leValue bytes)

lemma Reads.takeWord {width value : Nat} (h : value < 256 ^ width) :
    Reads (takeWord width) (leBytes width value) value := by
  have hcount := Reads.takeCount (leBytes width value)
  rw [leBytes_length] at hcount
  apply Reads.bind_last hcount
  rw [leValue_leBytes, Nat.mod_eq_of_lt h]
  exact Reads.pure value

lemma takeWord_eq_some {width : Nat} {input : Bytes} {out : Nat × Bytes}
    (h : takeWord width input = some out) :
    input = leBytes width out.1 ++ out.2 ∧ out.1 < 256 ^ width := by
  obtain ⟨bytes, rest, hcount, hpure⟩ := reader_bind_eq_some h
  obtain ⟨hinput, hlen⟩ := takeCount_eq_some hcount
  obtain rfl := Option.some.inj hpure
  dsimp only at hinput hlen
  subst hlen
  exact ⟨by rw [leBytes_leValue]; exact hinput, leValue_lt bytes⟩

end WireFormat
