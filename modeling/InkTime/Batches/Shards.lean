import InkTime.Library.Checked
import InkTime.Library.Months
import InkTime.Library.NextFit
import InkTime.Library.WireFormat

/-!
# The files of a batch

`stream_jsonl_shards` writes the lines of a batch into numbered files under a root. Paths are relative to the root, the
file system does what it is asked, and `raised` tells an `Exception` from one that is only a `BaseException`.
-/

namespace InkTime.Batches

open WireFormat

def maxOpenaiRequests : ℤ := 50000

def maxOpenaiBytes : ℤ := 200 * 1024 * 1024

/-- What a call of `line_factory` ends in. -/
inductive LineResult where
  | line (bytes : Bytes)
  | notBytes
  | raised (isException : Bool)
  deriving DecidableEq

inductive StreamError where
  | notBytes
  | inputTooLarge (lineBytes : Nat)
  | lineFactory (isException : Bool)
  deriving DecidableEq

/-- `except Exception` -/
def StreamError.isException : StreamError → Bool
  | .notBytes => true
  | .inputTooLarge _ => true
  | .lineFactory isException => isException

/-- The text and the code of an error that is raised here. -/
def StreamError.report : StreamError → Option (String × Option String)
  | .notBytes => some ("Batch JSONL line_factory 必須回傳 bytes", none)
  | .inputTooLarge lineBytes =>
    some (s!"單一 Batch Request 超過安全 JSONL 分片上限：{lineBytes} bytes", some "BATCH-INPUT-TOO-LARGE")
  | .lineFactory _ => none

abbrev Files := String → Option Bytes

namespace Files

def put (files : Files) (path : String) (content : Bytes) : Files :=
  fun other => if other = path then some content else files other

def append (files : Files) (path : String) (line : Bytes) : Files := files.put path ((files path).getD [] ++ line)

@[simp] lemma put_self (files : Files) (path : String) (content : Bytes) : files.put path content path = some content :=
  if_pos rfl

lemma put_ne {files : Files} {path other : String} (content : Bytes) (h : other ≠ path) :
    files.put path content other = files other :=
  if_neg h

/-- Every file under the root is unlinked. -/
def cleared : Files := fun _ => none

end Files

structure Shard where
  path : String
  items : List String := []
  itemsCount : Nat := 0
  bytes : Nat := 0
  deriving DecidableEq

structure Stream where
  files : Files
  shards : List Shard := []
  current : Option Shard := none

/-- `root / f"{shard_number:04d}" / f"{path_prefix}.jsonl"` -/
def shardPath (pathPrefix : String) (shardNumber : Nat) : String :=
  Months.padded 4 shardNumber ++ "/" ++ pathPrefix ++ ".jsonl"

def newline : UInt8 := 10

def terminated (line : Bytes) : Bytes := if line.getLast? = some newline then line else line ++ [newline]

def closeCurrent (stream : Stream) : Stream :=
  match stream.current with
  | none => stream
  | some current => { stream with shards := stream.shards ++ [current], current := none }

/-- The next file, and the shard that describes it. -/
def openShard (pathPrefix : String) (stream : Stream) : Stream × Shard :=
  let path := shardPath pathPrefix (stream.shards.length + 1)
  ({ stream with files := stream.files.put path [] }, { path })

def currentShard (pathPrefix : String) (maxItems maxBytes lineBytes : Nat) (stream : Stream) : Stream × Shard :=
  match stream.current with
  | none => openShard pathPrefix (closeCurrent stream)
  | some current =>
    if maxItems ≤ current.itemsCount ∨ maxBytes < current.bytes + lineBytes then openShard pathPrefix (closeCurrent stream)
    else (stream, current)

section

variable {α : Type} (pathPrefix : String) (idOf : α → String) (lineFactory : α → LineResult) (maxItems maxBytes : Nat)

/-- One turn of `for item in items`; an error carries the files at that moment. -/
def streamItem (stream : Stream) (item : α) : Except (StreamError × Files) Stream :=
  match lineFactory item with
  | .raised isException => .error (.lineFactory isException, stream.files)
  | .notBytes => .error (.notBytes, stream.files)
  | .line bytes =>
    let line := terminated bytes
    if maxBytes < line.length then .error (.inputTooLarge line.length, stream.files)
    else
      let (stream, current) := currentShard pathPrefix maxItems maxBytes line.length stream
      .ok { stream with
        files := stream.files.append current.path line
        current := some { current with
          items := current.items ++ [idOf item]
          itemsCount := current.itemsCount + 1
          bytes := current.bytes + line.length } }

end

/-- `max(1, min(int(value), limit))` -/
def clamped (limit value : ℤ) : Nat := (max 1 (min value limit)).toNat

/-- The files under the root afterwards, and the shards. -/
def streamJsonlShards {α : Type} (files : Files) (items : List α) (idOf : α → String) (lineFactory : α → LineResult)
    (maxItems maxBytes : ℤ) (pathPrefix : String) : Files × Except StreamError (List Shard) :=
  let stream := items.foldlM
    (streamItem pathPrefix idOf lineFactory (clamped maxOpenaiRequests maxItems) (clamped maxOpenaiBytes maxBytes)) { files }
  match stream with
  | .ok stream => (stream.files, .ok (closeCurrent stream).shards)
  | .error (error, files) => (if error.isException then Files.cleared else files, .error error)

/-! ### The groups behind the shards -/

variable {α : Type} {pathPrefix : String} {idOf : α → String} {lineFactory : α → LineResult} {maxItems maxBytes : Nat}

def lineOf (lineFactory : α → LineResult) (item : α) : Bytes :=
  match lineFactory item with
  | .line bytes => terminated bytes
  | _ => []

def contentOf (lineFactory : α → LineResult) (group : List α) : Bytes := group.flatMap (lineOf lineFactory)

def fitsShard (lineFactory : α → LineResult) (maxItems maxBytes : Nat) (group : List α) (item : α) : Bool :=
  group.length < maxItems && (contentOf lineFactory group).length + (lineOf lineFactory item).length ≤ maxBytes

def shardOf (pathPrefix : String) (idOf : α → String) (lineFactory : α → LineResult) (group : List α) (shardNumber : Nat) :
    Shard where
  path := shardPath pathPrefix shardNumber
  items := group.map idOf
  itemsCount := group.length
  bytes := (contentOf lineFactory group).length

/-- The stream holds the closed groups and the open one. -/
structure Holds (pathPrefix : String) (idOf : α → String) (lineFactory : α → LineResult) (closed : List (List α))
    (current : List α) (stream : Stream) : Prop where
  shards_eq : stream.shards = (closed.zipIdx 1).map fun (group, number) => shardOf pathPrefix idOf lineFactory group number
  current_eq : stream.current =
    if current = [] then none else some (shardOf pathPrefix idOf lineFactory current (closed.length + 1))
  files_eq : ∀ group number, (group, number) ∈ (closed ++ NextFit.close current).zipIdx 1 →
    stream.files (shardPath pathPrefix number) = some (contentOf lineFactory group)

lemma shardPath_inj {number number' : Nat} (h : shardPath pathPrefix number = shardPath pathPrefix number') :
    number = number' := by
  have hlist := congrArg String.toList h
  simp only [shardPath, String.toList_append] at hlist
  rw [List.append_left_inj, List.append_left_inj, List.append_left_inj] at hlist
  exact Months.padded_inj (String.toList_inj.mp hlist)

lemma terminated_getLast (line : Bytes) : (terminated line).getLast? = some newline := by
  unfold terminated
  split
  · assumption
  · rw [List.getLast?_append, List.getLast?_singleton]
    rfl

lemma lineOf_eq {item : α} {bytes : Bytes} (h : lineFactory item = .line bytes) : lineOf lineFactory item = terminated bytes := by
  rw [lineOf, h]

lemma mem_zipIdx_snoc {closed : List (List α)} {last group : List α} {number : Nat} :
    (group, number) ∈ (closed ++ [last]).zipIdx 1 ↔
      (group, number) ∈ closed.zipIdx 1 ∨ (group = last ∧ number = closed.length + 1) := by
  rw [List.zipIdx_append, List.mem_append, List.zipIdx_singleton, List.mem_singleton, Prod.mk.injEq, Nat.add_comm 1]

/-- A file with a number that is not given yet is none of those written before. -/
lemma put_closed {closed : List (List α)} {files : Files} (content : Bytes)
    (h : ∀ group number, (group, number) ∈ closed.zipIdx 1 →
      files (shardPath pathPrefix number) = some (contentOf lineFactory group)) :
    ∀ group number, (group, number) ∈ closed.zipIdx 1 →
      files.put (shardPath pathPrefix (closed.length + 1)) content (shardPath pathPrefix number) =
        some (contentOf lineFactory group) := by
  intro group number hmem
  have hbound := List.snd_lt_of_mem_zipIdx hmem
  have hne : shardPath pathPrefix number ≠ shardPath pathPrefix (closed.length + 1) := by
    intro heq
    have := shardPath_inj heq
    omega
  rw [Files.put_ne content hne]
  exact h group number hmem

/-! ### What one turn does -/

variable {closed : List (List α)} {current : List α} {stream : Stream}

lemma Holds.closeCurrent (h : Holds pathPrefix idOf lineFactory closed current stream) :
    Holds pathPrefix idOf lineFactory (closed ++ NextFit.close current) [] (closeCurrent stream) := by
  have hcurrent := h.current_eq
  obtain hnil | hopen := eq_or_ne current []
  · subst hnil
    rw [if_pos rfl] at hcurrent
    have hsame : InkTime.Batches.closeCurrent stream = stream := by rw [InkTime.Batches.closeCurrent, hcurrent]
    rw [hsame]
    simpa [NextFit.close] using h
  · rw [if_neg hopen] at hcurrent
    have hclosed : InkTime.Batches.closeCurrent stream = { stream with
        shards := stream.shards ++ [shardOf pathPrefix idOf lineFactory current (closed.length + 1)]
        current := none } := by rw [InkTime.Batches.closeCurrent, hcurrent]
    rw [hclosed, NextFit.close_of_ne_nil hopen]
    refine ⟨?_, rfl, ?_⟩
    · rw [h.shards_eq, List.zipIdx_append, List.map_append, List.zipIdx_singleton, List.map_singleton, Nat.add_comm 1]
    · intro group number hmem
      rw [NextFit.close, List.isEmpty_nil, if_pos rfl, List.append_nil] at hmem
      exact h.files_eq group number (by rwa [NextFit.close_of_ne_nil hopen])

/-- The stream after a line for `shard`. -/
def wrote (idOf : α → String) (line : Bytes) (item : α) (stream : Stream) (shard : Shard) : Stream :=
  { stream with
    files := stream.files.append shard.path line
    current := some { shard with
      items := shard.items ++ [idOf item]
      itemsCount := shard.itemsCount + 1
      bytes := shard.bytes + line.length } }

lemma Holds.wrote_more (h : Holds pathPrefix idOf lineFactory closed current stream) (hopen : current ≠ []) (item : α) :
    Holds pathPrefix idOf lineFactory closed (current ++ [item])
      (wrote idOf (lineOf lineFactory item) item stream (shardOf pathPrefix idOf lineFactory current (closed.length + 1))) := by
  have hfiles := h.files_eq
  rw [NextFit.close_of_ne_nil hopen] at hfiles
  refine ⟨h.shards_eq, ?_, ?_⟩
  · rw [if_neg (by simp)]
    simp [wrote, shardOf, contentOf]
  · rw [NextFit.close_of_ne_nil (by simp)]
    intro group number hmem
    have hold := hfiles current _ (mem_zipIdx_snoc.mpr (.inr ⟨rfl, rfl⟩))
    simp only [wrote, shardOf, Files.append, hold]
    obtain hmem | ⟨rfl, rfl⟩ := mem_zipIdx_snoc.mp hmem
    · exact put_closed _ (fun group number hmem => hfiles group number (mem_zipIdx_snoc.mpr (.inl hmem))) group number hmem
    · simp [contentOf]

lemma Holds.wrote_first (h : Holds pathPrefix idOf lineFactory closed [] stream) (item : α) :
    Holds pathPrefix idOf lineFactory closed [item]
      (wrote idOf (lineOf lineFactory item) item (openShard pathPrefix stream).1 (openShard pathPrefix stream).2) := by
  have hnumber : stream.shards.length = closed.length := by
    rw [h.shards_eq, List.length_map, List.length_zipIdx]
  have hfiles := h.files_eq
  rw [NextFit.close, List.isEmpty_nil, if_pos rfl, List.append_nil] at hfiles
  refine ⟨h.shards_eq, ?_, ?_⟩
  · rw [if_neg (by simp)]
    simp [wrote, openShard, shardOf, contentOf, hnumber]
  · rw [NextFit.close_of_ne_nil (by simp)]
    intro group number hmem
    simp only [wrote, openShard, Files.append, Files.put_self, hnumber]
    obtain hmem | ⟨rfl, rfl⟩ := mem_zipIdx_snoc.mp hmem
    · exact put_closed _ (put_closed _ hfiles) group number hmem
    · simp [contentOf]

/-- One turn on a line that a file can hold. -/
lemma streamItem_ok (maxItems : Nat) (h : Holds pathPrefix idOf lineFactory closed current stream) {item : α} {bytes : Bytes}
    (hline : lineFactory item = .line bytes) (hsize : (terminated bytes).length ≤ maxBytes) :
    ∃ stream', streamItem pathPrefix idOf lineFactory maxItems maxBytes stream item = .ok stream' ∧
      if !current.isEmpty && fitsShard lineFactory maxItems maxBytes current item then
        Holds pathPrefix idOf lineFactory closed (current ++ [item]) stream'
      else Holds pathPrefix idOf lineFactory (closed ++ NextFit.close current) [item] stream' := by
  have hcurrent := h.current_eq
  have hlineOf := lineOf_eq hline
  have hturn : streamItem pathPrefix idOf lineFactory maxItems maxBytes stream item =
      .ok (wrote idOf (lineOf lineFactory item) item
        (currentShard pathPrefix maxItems maxBytes (lineOf lineFactory item).length stream).1
        (currentShard pathPrefix maxItems maxBytes (lineOf lineFactory item).length stream).2) := by
    rw [streamItem, hline, hlineOf]
    dsimp only
    rw [if_neg (by omega)]
    rfl
  refine ⟨_, hturn, ?_⟩
  split
  · next hfits =>
    rw [Bool.and_eq_true_iff, Bool.not_eq_true', List.isEmpty_eq_false_iff] at hfits
    obtain ⟨hopen, hfits⟩ := hfits
    rw [if_neg hopen] at hcurrent
    simp only [fitsShard, Bool.and_eq_true_iff, decide_eq_true_eq] at hfits
    have hroom : ¬ (maxItems ≤ current.length ∨ maxBytes < (contentOf lineFactory current).length +
        (lineOf lineFactory item).length) := by omega
    rw [currentShard, hcurrent]
    dsimp only [shardOf]
    rw [if_neg hroom]
    exact h.wrote_more hopen item
  · next hmisfit =>
    have hnew : currentShard pathPrefix maxItems maxBytes (lineOf lineFactory item).length stream =
        openShard pathPrefix (InkTime.Batches.closeCurrent stream) := by
      obtain hnil | hopen := eq_or_ne current []
      · rw [if_pos hnil] at hcurrent
        rw [currentShard, hcurrent]
      · rw [if_neg hopen] at hcurrent
        have hfull : maxItems ≤ current.length ∨ maxBytes < (contentOf lineFactory current).length +
            (lineOf lineFactory item).length := by
          by_contra hroom
          apply hmisfit
          rw [Bool.and_eq_true_iff, Bool.not_eq_true', List.isEmpty_eq_false_iff, fitsShard, Bool.and_eq_true_iff,
            decide_eq_true_eq, decide_eq_true_eq]
          exact ⟨hopen, by omega, by omega⟩
        rw [currentShard, hcurrent]
        dsimp only [shardOf]
        rw [if_pos hfull]
    rw [hnew]
    exact h.closeCurrent.wrote_first item

lemma line_of_streamItem_ok {stream' : Stream} {item : α}
    (h : streamItem pathPrefix idOf lineFactory maxItems maxBytes stream item = .ok stream') :
    ∃ bytes, lineFactory item = .line bytes ∧ (terminated bytes).length ≤ maxBytes := by
  unfold streamItem at h
  split at h
  · cases h
  · cases h
  · next bytes hline =>
    dsimp only at h
    split at h
    · cases h
    · next hsize => exact ⟨bytes, hline, by omega⟩

/-- A loop that ends has filled the groups one after another. -/
lemma foldlM_streamItem_ok {items : List α} {stream' : Stream}
    (hrun : items.foldlM (streamItem pathPrefix idOf lineFactory maxItems maxBytes) stream = .ok stream')
    (h : Holds pathPrefix idOf lineFactory closed current stream) :
    (∀ item ∈ items, ∃ bytes, lineFactory item = .line bytes ∧ (terminated bytes).length ≤ maxBytes) ∧
    ∃ closed' current', Holds pathPrefix idOf lineFactory closed' current' stream' ∧
      closed' ++ NextFit.close current' = closed ++ NextFit.fill (fitsShard lineFactory maxItems maxBytes) current items := by
  induction items generalizing closed current stream with
  | nil =>
    obtain rfl := Except.ok.inj hrun
    exact ⟨by simp, closed, current, h, rfl⟩
  | cons item items ih =>
    obtain ⟨next, hnext, hrest⟩ := Checked.bind_eq_ok.mp hrun
    obtain ⟨bytes, hline, hsize⟩ := line_of_streamItem_ok hnext
    obtain ⟨stream'', hturn, hholds⟩ := streamItem_ok maxItems h hline hsize
    obtain rfl := Except.ok.inj (hnext.symm.trans hturn)
    have hlines : ∀ {rest : Prop}, ((∀ item ∈ items, ∃ bytes, lineFactory item = .line bytes ∧
        (terminated bytes).length ≤ maxBytes) ∧ rest) →
        ∀ other ∈ item :: items, ∃ bytes, lineFactory other = .line bytes ∧ (terminated bytes).length ≤ maxBytes := by
      rintro rest ⟨hitems, -⟩ other hother
      obtain rfl | hother := List.mem_cons.mp hother
      · exact ⟨bytes, hline, hsize⟩
      · exact hitems other hother
    rw [NextFit.fill]
    split at hholds
    · next hfits =>
      rw [if_pos hfits]
      have hdone := ih hrest hholds
      exact ⟨hlines hdone, hdone.2⟩
    · next hmisfit =>
      rw [if_neg hmisfit, ← List.append_assoc]
      have hdone := ih hrest hholds
      exact ⟨hlines hdone, hdone.2⟩

/-! ### Shards and groups -/

/-- The shards list the groups that `items` is cut into, and each file holds the lines of its group. -/
structure Sharded (idOf : α → String) (lineFactory : α → LineResult) (maxItems maxBytes : Nat) (items : List α) (files : Files)
    (shards : List Shard) (groups : List (List α)) : Prop where
  order : groups.flatten = items
  lines : ∀ item ∈ items, ∃ bytes, lineFactory item = .line bytes ∧ lineOf lineFactory item = terminated bytes ∧
    (terminated bytes).getLast? = some newline
  listed : List.Forall₂ (fun shard group => shard.items = group.map idOf ∧ shard.itemsCount = group.length ∧
    shard.bytes = (contentOf lineFactory group).length ∧ files shard.path = some (contentOf lineFactory group)) shards groups
  paths : (shards.map Shard.path).Nodup
  filled : ∀ group ∈ groups, group ≠ [] ∧ group.length ≤ maxItems ∧ (contentOf lineFactory group).length ≤ maxBytes
  greedy : groups.IsChain fun earlier later => ∃ item rest, later = item :: rest ∧
    (maxItems ≤ earlier.length ∨ maxBytes < (contentOf lineFactory earlier).length + (lineOf lineFactory item).length)

lemma fitsShard_eq_false {group : List α} {item : α} (h : fitsShard lineFactory maxItems maxBytes group item = false) :
    maxItems ≤ group.length ∨ maxBytes < (contentOf lineFactory group).length + (lineOf lineFactory item).length := by
  unfold fitsShard at h
  rw [Bool.and_eq_false_iff, decide_eq_false_iff_not, decide_eq_false_iff_not] at h
  omega

/-- A group that was filled item by item stays within both limits. -/
lemma limits_of_stepwise {group : List α} (hstepwise : NextFit.Stepwise (fitsShard lineFactory maxItems maxBytes) group)
    (hne : group ≠ []) (hitems : 0 < maxItems) (hlines : ∀ item ∈ group, (lineOf lineFactory item).length ≤ maxBytes) :
    group.length ≤ maxItems ∧ (contentOf lineFactory group).length ≤ maxBytes := by
  obtain rfl | ⟨front, item, rfl⟩ := List.eq_nil_or_concat' group
  · exact absurd rfl hne
  · have hitem := hlines item (by simp)
    have hcontent : (contentOf lineFactory (front ++ [item])).length =
        (contentOf lineFactory front).length + (lineOf lineFactory item).length := by simp [contentOf]
    rw [hcontent, List.length_append, List.length_singleton]
    obtain rfl | hfront := eq_or_ne front []
    · exact ⟨hitems, by simpa [contentOf] using hitem⟩
    · have hfits := hstepwise front item [] rfl hfront
      unfold fitsShard at hfits
      rw [Bool.and_eq_true_iff, decide_eq_true_eq, decide_eq_true_eq] at hfits
      omega

lemma forall₂_zipIdx {β : Type} {R : β → List α → Prop} {groups : List (List α)} {start : Nat} {f : List α × Nat → β}
    (h : ∀ group number, (group, number) ∈ groups.zipIdx start → R (f (group, number)) group) :
    List.Forall₂ R ((groups.zipIdx start).map f) groups := by
  induction groups generalizing start with
  | nil => exact .nil
  | cons group groups ih =>
    rw [List.zipIdx_cons, List.map_cons]
    refine .cons (h group start (by simp)) (ih fun other number hmem => h other number ?_)
    rw [List.zipIdx_cons]
    exact List.mem_cons_of_mem _ hmem

lemma nodup_shardPaths (groups : List (List α)) (start : Nat) :
    (((groups.zipIdx start).map fun (group, number) => shardOf pathPrefix idOf lineFactory group number).map
      Shard.path).Nodup := by
  have hpaths : ((groups.zipIdx start).map fun (group, number) => shardOf pathPrefix idOf lineFactory group number).map
      Shard.path = (List.range' start groups.length).map (shardPath pathPrefix) := by
    rw [← List.zipIdx_map_snd, List.map_map, List.map_map]
    rfl
  rw [hpaths]
  exact (List.nodup_range').map fun number number' => shardPath_inj

lemma clamped_pos (limit value : ℤ) : 0 < clamped limit value := by
  unfold clamped
  omega

/-- Shards that are returned cut the items into groups; an `Exception` leaves no file. -/
lemma streamJsonlShards_spec (files : Files) (items : List α) (idOf : α → String) (lineFactory : α → LineResult)
    (requestedItems requestedBytes : ℤ) (pathPrefix : String) :
    (∀ files' shards,
      streamJsonlShards files items idOf lineFactory requestedItems requestedBytes pathPrefix = (files', .ok shards) →
      ∃ groups, Sharded idOf lineFactory (clamped maxOpenaiRequests requestedItems) (clamped maxOpenaiBytes requestedBytes) items
        files' shards groups) ∧
    (∀ files' error,
      streamJsonlShards files items idOf lineFactory requestedItems requestedBytes pathPrefix = (files', .error error) →
      error.isException = true → ∀ path, files' path = none) := by
  unfold streamJsonlShards
  cases hrun : items.foldlM (streamItem pathPrefix idOf lineFactory (clamped maxOpenaiRequests requestedItems)
    (clamped maxOpenaiBytes requestedBytes)) { files } with
  | error failure =>
    refine ⟨fun files' shards heq => (by cases heq), fun files' error heq hexception path => ?_⟩
    obtain ⟨rfl, herror⟩ := Prod.mk.inj heq
    obtain rfl := Except.error.inj herror
    rw [if_pos hexception, Files.cleared]
  | ok stream =>
    refine ⟨fun files' shards heq => ?_, fun files' error heq => (by cases heq)⟩
    obtain ⟨rfl, hshards⟩ := Prod.mk.inj heq
    obtain rfl := Except.ok.inj hshards
    have hstart : Holds pathPrefix idOf lineFactory [] [] { files := files } := ⟨rfl, rfl, by simp [NextFit.close]⟩
    obtain ⟨hlines, closed, current, hholds, hgroups⟩ := foldlM_streamItem_ok hrun hstart
    rw [List.nil_append] at hgroups
    have hdone := hholds.closeCurrent
    rw [hgroups] at hdone
    have hflatten : (NextFit.fill (fitsShard lineFactory (clamped maxOpenaiRequests requestedItems)
        (clamped maxOpenaiBytes requestedBytes)) [] items).flatten = items := by
      rw [NextFit.fill_flatten, List.nil_append]
    refine ⟨_, hflatten, ?_, ?_, ?_, ?_, ?_⟩
    · intro item hitem
      obtain ⟨bytes, hline, -⟩ := hlines item hitem
      exact ⟨bytes, hline, lineOf_eq hline, terminated_getLast bytes⟩
    · rw [hdone.shards_eq]
      refine forall₂_zipIdx fun group number hmem => ⟨rfl, rfl, rfl, ?_⟩
      rw [← hgroups] at hmem
      exact hholds.files_eq group number hmem
    · rw [hdone.shards_eq]
      exact nodup_shardPaths _ _
    · intro group hgroup
      have hne := NextFit.fill_ne_nil [] items group hgroup
      refine ⟨hne, limits_of_stepwise (NextFit.fill_stepwise NextFit.stepwise_nil items group hgroup) hne (clamped_pos _ _) ?_⟩
      intro item hitem
      have hmem : item ∈ items := by
        rw [← hflatten]
        exact List.mem_flatten.mpr ⟨group, hgroup, hitem⟩
      obtain ⟨bytes, hline, hsize⟩ := hlines item hmem
      rwa [lineOf_eq hline]
    · refine (NextFit.fill_overflows [] items).imp ?_
      rintro earlier later ⟨item, rest, hlater, hmisfit⟩
      exact ⟨item, rest, hlater, fitsShard_eq_false hmisfit⟩

end InkTime.Batches
