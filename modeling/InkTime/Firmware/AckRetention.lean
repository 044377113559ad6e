import InkTime.Firmware.AckJournal

/-!
# What the journal of acknowledgements keeps

One lemma says what a call can do to the records, and every other fact follows from it: a call adds at the end,
leaves one record out, or does nothing.
-/

namespace InkTime.Firmware

/-! ### Records and entries -/

abbrev AckKey := CText × Int32 × QueueEvent

def PendingQueueAck.key (pending : PendingQueueAck) : AckKey := (pending.queueItemId, pending.queueVersion, pending.event)

def AckJournalBlob.key (blob : AckJournalBlob) : AckKey := (blob.queueItemId, blob.queueVersion, blob.event)

/-- The entry a record stands for. -/
def AckJournalBlob.entry (blob : AckJournalBlob) : PendingQueueAck where
  queueItemId := blob.queueItemId
  queueVersion := blob.queueVersion
  event := blob.event
  displaySkipped := blob.displaySkipped
  errorCode := blob.errorCode
  delayedTerminal := blob.delayedTerminal
  releaseId := blob.releaseId
  eventEpoch := blob.eventEpoch

def AckJournalBlob.terminal (blob : AckJournalBlob) : Bool := terminalAckEvidence blob.entry

variable {journal : AckJournal} {pending : PendingQueueAck} {blob : AckJournalBlob}

lemma encodeAckJournalBlob_eq_some : encodeAckJournalBlob pending = some blob ↔ pending = blob.entry := by
  unfold encodeAckJournalBlob
  constructor
  · intro h
    split at h
    · next hguard =>
      obtain rfl := Option.some.inj h
      cases pending with
      | mk id version event skipped error delayed release epoch valid =>
        obtain rfl : valid = true := hguard.1
        rfl
    · cases h
  · rintro rfl
    rw [dif_pos ⟨rfl, blob.fits⟩]
    rfl

lemma decodeAckJournalBlob_eq_some (h : decodeAckJournalBlob blob = some pending) : pending = blob.entry := by
  unfold decodeAckJournalBlob at h
  dsimp only at h
  split at h
  · next hvalid =>
    obtain rfl := Option.some.inj h
    change _ = { blob.entry with valid := true }
    rw [← hvalid]
    rfl
  · cases h

lemma mapM_encode {entries : List PendingQueueAck} {records : List AckJournalBlob} :
    entries.mapM encodeAckJournalBlob = some records ↔ entries = records.map AckJournalBlob.entry := by
  induction entries generalizing records with
  | nil =>
    rw [List.mapM_nil]
    constructor
    · intro h
      obtain rfl := Option.some.inj h
      rfl
    · intro h
      rw [List.map_eq_nil_iff.mp h.symm]
      rfl
  | cons pending entries ih =>
    rw [List.mapM_cons]
    constructor
    · intro h
      obtain ⟨blob, hblob, h⟩ := Option.bind_eq_some_iff.mp h
      obtain ⟨rest, hrest, h⟩ := Option.bind_eq_some_iff.mp h
      obtain rfl := Option.some.inj h
      rw [List.map_cons, encodeAckJournalBlob_eq_some.mp hblob, ih.mp hrest]
    · intro h
      cases records with
      | nil => cases h
      | cons blob rest =>
        rw [List.map_cons, List.cons.injEq] at h
        rw [encodeAckJournalBlob_eq_some.mpr h.1, ih.mpr h.2]
        rfl

lemma mapM_decode {entries : List PendingQueueAck} {records : List AckJournalBlob}
    (h : records.mapM decodeAckJournalBlob = some entries) : entries = records.map AckJournalBlob.entry := by
  induction records generalizing entries with
  | nil =>
    obtain rfl := Option.some.inj h
    rfl
  | cons blob records ih =>
    rw [List.mapM_cons] at h
    obtain ⟨pending, hpending, h⟩ := Option.bind_eq_some_iff.mp h
    obtain ⟨rest, hrest, h⟩ := Option.bind_eq_some_iff.mp h
    obtain rfl := Option.some.inj h
    rw [List.map_cons, decodeAckJournalBlob_eq_some hpending, ih hrest]

lemma samePendingQueueAck_iff {left right : PendingQueueAck} : samePendingQueueAck left right = true ↔ left.key = right.key := by
  unfold samePendingQueueAck PendingQueueAck.key
  simp [and_assoc]

lemma loadAckJournalState_eq_some {current : List PendingQueueAck} (h : loadAckJournalState journal = some current) :
    journal.records.length ≤ kMaxAckJournalEntries ∧ current = journal.records.map AckJournalBlob.entry := by
  unfold loadAckJournalState at h
  split at h
  · cases h
  · next hbound => exact ⟨not_lt.mp hbound, mapM_decode h⟩

lemma commitAckJournalEntries_eq_some {entries : List PendingQueueAck} {next : AckJournal}
    (h : commitAckJournalEntries journal entries = some next) :
    journal.generation ≠ 0xffffffffffffffff ∧ entries = next.records.map AckJournalBlob.entry := by
  unfold commitAckJournalEntries at h
  split at h
  · cases h
  · next hguard =>
    obtain ⟨records, hrecords, h⟩ := Option.bind_eq_some_iff.mp h
    obtain rfl := Option.some.inj h
    exact ⟨fun hlast => hguard (.inr hlast), mapM_encode.mp hrecords⟩

lemma appendEntry_eq_some {entries entries' : List PendingQueueAck} {capacity : Nat}
    (h : appendEntry entries capacity pending = some entries') : entries' = entries ++ [pending] := by
  unfold appendEntry at h
  split at h
  · cases h
  · exact (Option.some.inj h).symm

lemma entry_injective : Function.Injective AckJournalBlob.entry := by
  intro blob blob' h
  cases blob
  cases blob'
  simp_all [AckJournalBlob.entry]

/-! ### What a call does -/

/-- One record is left out. -/
structure LeftOut (victim : AckJournalBlob) (records kept : List AckJournalBlob) : Prop where
  split : ∃ before after, records = before ++ victim :: after ∧ kept = before ++ after

lemma leftOut_eraseIdx {records : List AckJournalBlob} {index : Nat} {victim : AckJournalBlob} (h : records[index]? = some victim) :
    LeftOut victim records (records.eraseIdx index) := by
  obtain ⟨hindex, rfl⟩ := List.getElem?_eq_some_iff.mp h
  exact ⟨records.take index, records.drop (index + 1), by simp, List.eraseIdx_eq_take_drop_succ ..⟩

/-- What `persistPendingQueueAck` does when it does anything. -/
structure Persists (journal : AckJournal) (blob : AckJournalBlob) (next : AckJournal) : Prop where
  loads : (loadAckJournalState journal).isSome = true
  generation : journal.generation ≠ 0xffffffffffffffff
  fresh : ∀ record ∈ journal.records, record.key ≠ blob.key
  added : (journal.records.length < kMaxAckJournalEntries ∧ next.records = journal.records ++ [blob]) ∨
    (journal.records.length = kMaxAckJournalEntries ∧ ∃ victim kept, LeftOut victim journal.records kept ∧
      next.records = kept ++ [blob] ∧ (victim.terminal = false ∨ ∀ record ∈ journal.records, record.terminal = true))

lemma evictionIndex_spec {records : List AckJournalBlob} (h : records ≠ []) :
    ∃ victim, records[evictionIndex (records.map AckJournalBlob.entry)]? = some victim ∧
      (victim.terminal = false ∨ ∀ record ∈ records, record.terminal = true) := by
  unfold evictionIndex
  cases hfound : (records.map AckJournalBlob.entry).findIdx? fun existing => existing.valid && !terminalAckEvidence existing with
  | none =>
    rw [List.findIdx?_eq_none_iff] at hfound
    cases records with
    | nil => exact absurd rfl h
    | cons first rest =>
      refine ⟨first, rfl, .inr ?_⟩
      intro record hrecord
      have hterminal := hfound record.entry (List.mem_map_of_mem hrecord)
      simpa [AckJournalBlob.entry, AckJournalBlob.terminal] using hterminal
  | some index =>
    obtain ⟨hindex, hnot, -⟩ := List.findIdx?_eq_some_iff_getElem.mp hfound
    rw [List.length_map] at hindex
    refine ⟨records[index], by simp [hindex], .inl ?_⟩
    simpa [AckJournalBlob.entry, AckJournalBlob.terminal] using hnot

lemma any_same_eq_false {records : List AckJournalBlob} :
    ((records.map AckJournalBlob.entry).any fun existing => existing.valid && samePendingQueueAck existing pending) = false ↔
      ∀ record ∈ records, record.key ≠ pending.key := by
  rw [List.any_map, List.any_eq_false]
  apply forall₂_congr
  intro record _
  change ¬ (true && samePendingQueueAck record.entry pending) = true ↔ _
  rw [Bool.true_and, samePendingQueueAck_iff]
  rfl

/-- A call of `persistPendingQueueAck` leaves the journal alone, or adds the entry at its end. -/
lemma persist_cases (journal : AckJournal) (pending : PendingQueueAck) :
    (persistPendingQueueAck journal pending).1 = journal ∨
      ∃ blob : AckJournalBlob, pending = blob.entry ∧ Persists journal blob (persistPendingQueueAck journal pending).1 := by
  unfold persistPendingQueueAck
  split
  · exact .inl rfl
  split
  · exact .inl rfl
  · next current hload =>
    have hloads : (loadAckJournalState journal).isSome = true := by rw [hload]; rfl
    obtain ⟨hbound, rfl⟩ := loadAckJournalState_eq_some hload
    split
    · exact .inl rfl
    · next hany =>
      rw [Bool.not_eq_true, any_same_eq_false] at hany
      dsimp only
      split
      · exact .inl rfl
      · next next_ hcommit =>
        obtain ⟨entries, happend, hcommit⟩ := Option.bind_eq_some_iff.mp hcommit
        obtain ⟨hgeneration, hentries⟩ := commitAckJournalEntries_eq_some hcommit
        obtain rfl := appendEntry_eq_some happend
        have hlast : ∀ {kept : List AckJournalBlob}, kept.map AckJournalBlob.entry ++ [pending] = next_.records.map AckJournalBlob.entry →
            ∃ blob : AckJournalBlob, pending = blob.entry ∧ next_.records = kept ++ [blob] := by
          intro kept heq
          obtain ⟨first, last, hsplit, hfirst, hlast⟩ := List.map_eq_append_iff.mp heq.symm
          obtain ⟨blob, rfl, hblob⟩ := List.map_eq_singleton_iff.mp hlast
          rw [List.map_injective_iff.mpr entry_injective hfirst] at hsplit
          exact ⟨blob, hblob.symm, hsplit⟩
        have hfresh : ∀ {blob : AckJournalBlob}, pending = blob.entry → ∀ record ∈ journal.records, record.key ≠ blob.key := by
          rintro blob rfl
          exact hany
        right
        split at hentries
        · next hfull =>
          rw [List.length_map] at hfull
          have hnonempty : journal.records ≠ [] := by
            rintro hnil
            rw [hnil] at hfull
            exact absurd hfull (by decide)
          obtain ⟨victim, hvictim, hwhy⟩ := evictionIndex_spec hnonempty
          rw [List.eraseIdx_map] at hentries
          obtain ⟨blob, hblob, hrecords⟩ := hlast hentries
          exact ⟨blob, hblob, hloads, hgeneration, hfresh hblob,
            .inr ⟨le_antisymm hbound hfull, victim, _, leftOut_eraseIdx hvictim, hrecords, hwhy⟩⟩
        · next hfree =>
          rw [List.length_map, not_le] at hfree
          obtain ⟨blob, hblob, hrecords⟩ := hlast hentries
          exact ⟨blob, hblob, hloads, hgeneration, hfresh hblob, .inl ⟨hfree, hrecords⟩⟩

/-- A call of `removePendingQueueAck` leaves the journal alone, or leaves out a record of the entry's identity. -/
lemma remove_cases (journal : AckJournal) (pending : PendingQueueAck) :
    (removePendingQueueAck journal pending).1 = journal ∨
      ∃ victim, victim.key = pending.key ∧ LeftOut victim journal.records (removePendingQueueAck journal pending).1.records := by
  unfold removePendingQueueAck
  split
  · exact .inl rfl
  · next current hload =>
    obtain ⟨-, rfl⟩ := loadAckJournalState_eq_some hload
    split
    · exact .inl rfl
    · next found hfound =>
      split
      · exact .inl rfl
      · next next_ hcommit =>
        obtain ⟨hindex, hsame, -⟩ := List.findIdx?_eq_some_iff_getElem.mp hfound
        rw [List.length_map] at hindex
        obtain ⟨-, hrecords⟩ := commitAckJournalEntries_eq_some hcommit
        rw [List.eraseIdx_map] at hrecords
        have hkept := List.map_injective_iff.mpr entry_injective hrecords
        right
        refine ⟨journal.records[found], ?_, ?_⟩
        · rw [List.getElem_map] at hsame
          change (true && samePendingQueueAck journal.records[found].entry pending) = true at hsame
          rw [Bool.true_and, samePendingQueueAck_iff] at hsame
          exact hsame
        · dsimp only
          rw [← hkept]
          exact leftOut_eraseIdx (List.getElem?_eq_getElem hindex)

/-! ### What holds along a run -/

structure AckJournal.Sound (journal : AckJournal) : Prop where
  bounded : journal.records.length ≤ kMaxAckJournalEntries
  distinct : journal.records.Pairwise fun earlier later => earlier.key ≠ later.key

/-- The records that stay keep their order, and a new one comes last. -/
def Ordered (journal : AckJournal) (op : AckOp) : Prop :=
  ∃ kept, kept.Sublist journal.records ∧ ((op.apply journal).records = kept ∨
    ∃ blob : AckJournalBlob, op = .persist blob.entry ∧ (op.apply journal).records = kept ++ [blob])

/-- A terminal record leaves only if it is removed itself, or if a new one comes while all the entries are terminal. -/
def EvidenceKept (journal : AckJournal) (op : AckOp) : Prop :=
  ∀ record ∈ journal.records, record.terminal = true → record ∈ (op.apply journal).records ∨
    (∃ pending, op = .remove pending ∧ pending.key = record.key) ∨
    ∃ pending, op = .persist pending ∧ terminalAckEvidence pending = true ∧
      journal.records.length = kMaxAckJournalEntries ∧ ∀ other ∈ journal.records, other.terminal = true

/-- An entry that is not terminal is about to be written over a full journal of terminal ones. -/
structure Crowds (journal : AckJournal) (pending : PendingQueueAck) : Prop where
  progress : terminalAckEvidence pending = false
  full : journal.records.length = kMaxAckJournalEntries
  terminal : ∀ record ∈ journal.records, record.terminal = true
  fresh : ∀ record ∈ journal.records, record.key ≠ pending.key
  encodes : (encodeAckJournalBlob pending).isSome = true
  loads : (loadAckJournalState journal).isSome = true
  generation : journal.generation ≠ 0xffffffffffffffff

lemma LeftOut.sublist {victim : AckJournalBlob} {records kept : List AckJournalBlob} (h : LeftOut victim records kept) :
    kept.Sublist records := by
  obtain ⟨before, after, rfl, rfl⟩ := h.split
  exact List.Sublist.append_left (List.sublist_cons_self victim after) before

lemma LeftOut.mem {victim record : AckJournalBlob} {records kept : List AckJournalBlob} (h : LeftOut victim records kept)
    (hrecord : record ∈ records) : record ∈ kept ∨ record = victim := by
  obtain ⟨before, after, rfl, rfl⟩ := h.split
  simp only [List.mem_append, List.mem_cons] at hrecord ⊢
  tauto

lemma LeftOut.length {victim : AckJournalBlob} {records kept : List AckJournalBlob} (h : LeftOut victim records kept) :
    records.length = kept.length + 1 := by
  obtain ⟨before, after, rfl, rfl⟩ := h.split
  simp only [List.length_append, List.length_cons]
  omega

lemma Persists.kept {next : AckJournal} (h : Persists journal blob next) :
    ∃ kept, kept.Sublist journal.records ∧ kept.length < kMaxAckJournalEntries ∧ next.records = kept ++ [blob] := by
  obtain ⟨hroom, hrecords⟩ | ⟨hfull, victim, kept, hleft, hrecords, -⟩ := h.added
  · exact ⟨_, List.Sublist.refl _, hroom, hrecords⟩
  · exact ⟨kept, hleft.sublist, by have := hleft.length; omega, hrecords⟩

lemma AckJournal.Sound.apply (h : journal.Sound) (op : AckOp) : (op.apply journal).Sound := by
  cases op with
  | persist pending =>
    obtain hsame | ⟨blob, -, hpersists⟩ := persist_cases journal pending
    · rw [AckOp.apply, hsame]
      exact h
    · obtain ⟨kept, hsublist, hroom, hrecords⟩ := hpersists.kept
      constructor
      · rw [AckOp.apply, hrecords, List.length_append, List.length_singleton]
        exact hroom
      · rw [AckOp.apply, hrecords, List.pairwise_append]
        refine ⟨h.distinct.sublist hsublist, List.pairwise_singleton .., ?_⟩
        intro record hrecord other hother
        rw [List.mem_singleton.mp hother]
        exact hpersists.fresh record (hsublist.subset hrecord)
  | remove pending =>
    obtain hsame | ⟨victim, -, hleft⟩ := remove_cases journal pending
    · rw [AckOp.apply, hsame]
      exact h
    · exact ⟨by have := hleft.length; have := h.bounded; rw [AckOp.apply]; omega, h.distinct.sublist hleft.sublist⟩

lemma ordered (journal : AckJournal) (op : AckOp) : Ordered journal op := by
  cases op with
  | persist pending =>
    obtain hsame | ⟨blob, hblob, hpersists⟩ := persist_cases journal pending
    · exact ⟨journal.records, List.Sublist.refl _, .inl (by rw [AckOp.apply, hsame])⟩
    · obtain ⟨kept, hsublist, -, hrecords⟩ := hpersists.kept
      exact ⟨kept, hsublist, .inr ⟨blob, by rw [hblob], hrecords⟩⟩
  | remove pending =>
    obtain hsame | ⟨victim, -, hleft⟩ := remove_cases journal pending
    · exact ⟨journal.records, List.Sublist.refl _, .inl (by rw [AckOp.apply, hsame])⟩
    · exact ⟨_, hleft.sublist, .inl rfl⟩

lemma mapM_isSome_encode {records : List AckJournalBlob} :
    (records.map AckJournalBlob.entry).mapM encodeAckJournalBlob = some records := mapM_encode.mpr rfl

/-- What `Crowds` describes does push a record out. -/
lemma Crowds.pushes (h : Crowds journal pending) : ∃ first rest blob,
    journal.records = first :: rest ∧ pending = AckJournalBlob.entry blob ∧
    (persistPendingQueueAck journal pending).1.records = rest ++ [blob] := by
  obtain ⟨blob, hencoded⟩ := Option.isSome_iff_exists.mp h.encodes
  obtain rfl := encodeAckJournalBlob_eq_some.mp hencoded
  obtain ⟨current, hload⟩ := Option.isSome_iff_exists.mp h.loads
  obtain ⟨-, rfl⟩ := loadAckJournalState_eq_some hload
  obtain ⟨first, rest, hrecords⟩ : ∃ first rest, journal.records = first :: rest := by
    cases hcase : journal.records with
    | nil =>
      have := h.full
      rw [hcase] at this
      cases this
    | cons first rest => exact ⟨first, rest, rfl⟩
  have hlength : rest.length + 1 = kMaxAckJournalEntries := by
    rw [← h.full, hrecords, List.length_cons]
  have hindex : evictionIndex (journal.records.map AckJournalBlob.entry) = 0 := by
    have hnone : (journal.records.map AckJournalBlob.entry).findIdx? (fun existing =>
        existing.valid && !terminalAckEvidence existing) = none := by
      rw [List.findIdx?_eq_none_iff]
      intro entry hentry
      obtain ⟨record, hrecord, rfl⟩ := List.mem_map.mp hentry
      have hterminal : terminalAckEvidence record.entry = true := h.terminal record hrecord
      rw [hterminal]
      simp
    rw [evictionIndex, hnone]
    rfl
  have hkept : (journal.records.map AckJournalBlob.entry).eraseIdx 0 = rest.map AckJournalBlob.entry := by
    rw [hrecords]
    rfl
  have hcommit : commitAckJournalEntries journal (rest.map AckJournalBlob.entry ++ [blob.entry]) =
      some ⟨some (if journal.activeBank = some .G then .H else .G), journal.generation + 1, rest ++ [blob]⟩ := by
    unfold commitAckJournalEntries
    rw [if_neg]
    · have hmap : rest.map AckJournalBlob.entry ++ [blob.entry] = (rest ++ [blob]).map AckJournalBlob.entry := by simp
      rw [hmap, mapM_isSome_encode]
      rfl
    · rw [not_or, not_lt]
      exact ⟨by simp [hlength], h.generation⟩
  refine ⟨first, rest, blob, hrecords, rfl, ?_⟩
  have hroom : appendEntry (rest.map AckJournalBlob.entry) kMaxAckJournalEntries blob.entry =
      some (rest.map AckJournalBlob.entry ++ [blob.entry]) := by
    rw [appendEntry, if_neg]
    rw [List.length_map]
    omega
  unfold persistPendingQueueAck
  rw [hload]
  dsimp only
  rw [if_neg (by simp [AckJournalBlob.entry]), if_neg (by rw [Bool.not_eq_true, any_same_eq_false]; exact h.fresh),
    if_pos (by rw [List.length_map, h.full]), hindex, hkept, hroom, Option.bind_some, hcommit]

lemma evidenceKept_iff (h : journal.Sound) (op : AckOp) :
    EvidenceKept journal op ↔ ∀ pending, op = .persist pending → ¬ Crowds journal pending := by
  constructor
  · rintro hkept pending rfl hcrowds
    obtain ⟨first, rest, blob, hrecords, rfl, hnext⟩ := hcrowds.pushes
    have hfirst : first ∈ journal.records := by rw [hrecords]; exact List.mem_cons_self
    obtain hstays | ⟨other, hremove, -⟩ | ⟨other, hpersist, hterminal, -⟩ := hkept first hfirst (hcrowds.terminal first hfirst)
    · rw [AckOp.apply, hnext, List.mem_append, List.mem_singleton] at hstays
      have hdistinct := h.distinct
      rw [hrecords, List.pairwise_cons] at hdistinct
      obtain hrest | rfl := hstays
      · exact hdistinct.1 first hrest rfl
      · exact hcrowds.fresh first hfirst rfl
    · cases hremove
    · obtain rfl := AckOp.persist.inj hpersist
      rw [hcrowds.progress] at hterminal
      cases hterminal
  · intro hnot record hrecord hterminal
    cases op with
    | persist pending =>
      obtain hsame | ⟨blob, rfl, hpersists⟩ := persist_cases journal pending
      · rw [AckOp.apply, hsame]
        exact .inl hrecord
      · rw [AckOp.apply]
        obtain ⟨-, hrecords⟩ | ⟨hfull, victim, kept, hleft, hrecords, hwhy⟩ := hpersists.added
        · exact .inl (by rw [hrecords]; exact List.mem_append_left _ hrecord)
        · obtain hstays | rfl := hleft.mem hrecord
          · exact .inl (by rw [hrecords]; exact List.mem_append_left _ hstays)
          · have hall : ∀ other ∈ journal.records, other.terminal = true := by
              obtain hnone | hall := hwhy
              · rw [hterminal] at hnone
                cases hnone
              · exact hall
            cases hprogress : terminalAckEvidence blob.entry with
            | true => exact .inr (.inr ⟨blob.entry, rfl, hprogress, hfull, hall⟩)
            | false =>
              have hencodes : (encodeAckJournalBlob blob.entry).isSome = true := by
                rw [encodeAckJournalBlob_eq_some.mpr rfl]
                rfl
              exact absurd ⟨hprogress, hfull, hall, hpersists.fresh, hencodes, hpersists.loads, hpersists.generation⟩
                (hnot blob.entry rfl)
    | remove pending =>
      obtain hsame | ⟨victim, hkey, hleft⟩ := remove_cases journal pending
      · rw [AckOp.apply, hsame]
        exact .inl hrecord
      · obtain hstays | rfl := hleft.mem hrecord
        · exact .inl hstays
        · exact .inr (.inl ⟨pending, rfl, hkey.symm⟩)

/-- Along every run from a fresh journal: it holds at most 32 entries of different identities in the order they came
in, and its terminal evidence is kept exactly where no other entry is written over a full journal of it. -/
theorem ack_evidence_kept_iff (ops : List AckOp) :
    Runs.Along AckOp.apply (fun journal op => (op.apply journal).Sound ∧ Ordered journal op ∧
      (EvidenceKept journal op ↔ ∀ pending, op = .persist pending → ¬ Crowds journal pending)) {} ops := by
  have hstep : ∀ (journal : AckJournal) (op : AckOp), journal.Sound → True → (op.apply journal).Sound :=
    fun _ op h _ => h.apply op
  have hfresh : (({} : AckJournal)).Sound := ⟨by decide, List.Pairwise.nil⟩
  apply Runs.along_of_invariant hstep _ hfresh (Runs.Along.of_forall (p := fun _ => True) (fun _ _ => trivial)
    fun _ _ _ => trivial)
  intro journal op h _
  exact ⟨h.apply op, ordered journal op, evidenceKept_iff h op⟩

/-- The frame showed the picture of version `version` while it was offline. -/
def shownOffline (version : Int32) : PendingQueueAck where
  queueItemId := ⟨ascii "item", by decide⟩
  queueVersion := version
  event := .displayCompleted
  delayedTerminal := true
  releaseId := ⟨ascii "release", by decide⟩

def longOffline : List AckOp := (List.range 32).map fun version => .persist (shownOffline (Int32.ofNat version))

def laterProgress : PendingQueueAck where
  queueItemId := ⟨ascii "next", by decide⟩
  queueVersion := 40
  event := .displayStarted

/-- After 32 pictures were shown offline, the start of another one pushes out the evidence of the first. -/
theorem progress_pushes_out_evidence :
    ¬ EvidenceKept (Runs.run AckOp.apply {} longOffline) (.persist laterProgress) := by
  have hgone : ∃ record ∈ (Runs.run AckOp.apply {} longOffline).records, record.terminal = true ∧
      record ∉ (AckOp.apply (Runs.run AckOp.apply {} longOffline) (.persist laterProgress)).records := by
    decide +kernel
  obtain ⟨record, hrecord, hterminal, hleft⟩ := hgone
  intro hkept
  obtain hstays | ⟨pending, hremove, -⟩ | ⟨pending, hpersist, hevidence, -⟩ := hkept record hrecord hterminal
  · exact hleft hstays
  · cases hremove
  · obtain rfl := AckOp.persist.inj hpersist
    exact absurd hevidence (by decide)

end InkTime.Firmware
