import InkTime.Firmware.QueueClient
import InkTime.Library.Runs

/-!
# The journal of pending acknowledgements

`persistPendingQueueAck` and `removePendingQueueAck` over a flash that works: every write is read back as it was
written, so that the active snapshot is the one committed last. Checksums and magic words then always match, and
the bank that was active before is gone.
-/

namespace InkTime.Firmware

open WireFormat

def kMaxAckJournalEntries : Nat := 32

structure PendingQueueAck where
  queueItemId : CText
  queueVersion : Int32
  event : QueueEvent
  displaySkipped : Bool := false
  errorCode : CText := ⟨[], by decide⟩
  delayedTerminal : Bool := false
  releaseId : CText := ⟨[], by decide⟩
  eventEpoch : Int64 := 0
  valid : Bool := true
  deriving DecidableEq

/-- The entry with its `valid` field set to what its other fields are worth. -/
def validPendingQueueAck (pending : PendingQueueAck) : PendingQueueAck :=
  { pending with
    valid := boundedText (some pending.queueItemId) kQueueIdentifierMaxBytes && 0 ≤ pending.queueVersion &&
      pending.errorCode.bytes.length ≤ 64 && 0 ≤ pending.eventEpoch &&
      (!pending.delayedTerminal ||
        (pending.event == .displayCompleted || pending.event == .displayFailed) &&
          boundedText (some pending.releaseId) kQueueIdentifierMaxBytes) }

/-- The fields of a record, whose texts fit their arrays. -/
structure AckJournalBlob where
  queueItemId : CText
  queueVersion : Int32
  event : QueueEvent
  displaySkipped : Bool
  errorCode : CText
  delayedTerminal : Bool
  releaseId : CText
  eventEpoch : Int64
  fits : queueItemId.bytes.length ≤ kQueueIdentifierMaxBytes ∧ errorCode.bytes.length ≤ 64 ∧
    releaseId.bytes.length ≤ kQueueIdentifierMaxBytes
  deriving DecidableEq

def encodeAckJournalBlob (pending : PendingQueueAck) : Option AckJournalBlob :=
  if h : pending.valid = true ∧ pending.queueItemId.bytes.length ≤ kQueueIdentifierMaxBytes ∧
      pending.errorCode.bytes.length ≤ 64 ∧ pending.releaseId.bytes.length ≤ kQueueIdentifierMaxBytes then
    some ⟨pending.queueItemId, pending.queueVersion, pending.event, pending.displaySkipped, pending.errorCode,
      pending.delayedTerminal, pending.releaseId, pending.eventEpoch, h.2⟩
  else none

def decodeAckJournalBlob (blob : AckJournalBlob) : Option PendingQueueAck :=
  let pending := validPendingQueueAck {
    queueItemId := blob.queueItemId, queueVersion := blob.queueVersion, event := blob.event
    displaySkipped := blob.displaySkipped, errorCode := blob.errorCode, delayedTerminal := blob.delayedTerminal
    releaseId := blob.releaseId, eventEpoch := blob.eventEpoch, valid := false }
  if pending.valid then some pending else none

def samePendingQueueAck (left right : PendingQueueAck) : Bool :=
  left.queueItemId == right.queueItemId && left.queueVersion == right.queueVersion && left.event == right.event

def terminalAckEvidence (pending : PendingQueueAck) : Bool :=
  pending.delayedTerminal && (pending.event == .displayCompleted || pending.event == .displayFailed)

inductive Bank where
  | G | H
  deriving DecidableEq

/-- The active snapshot; a fresh namespace has none, and generation 0. -/
structure AckJournal where
  activeBank : Option Bank := none
  generation : UInt64 := 0
  records : List AckJournalBlob := []
  deriving DecidableEq

def loadAckJournalState (journal : AckJournal) : Option (List PendingQueueAck) :=
  if kMaxAckJournalEntries < journal.records.length then none else journal.records.mapM decodeAckJournalBlob

def commitAckJournalEntries (journal : AckJournal) (entries : List PendingQueueAck) : Option AckJournal :=
  if kMaxAckJournalEntries < entries.length ∨ journal.generation = 0xffffffffffffffff then none
  else do
    let records ← entries.mapM encodeAckJournalBlob
    some {
      activeBank := some (if journal.activeBank = some .G then .H else .G)
      generation := journal.generation + 1
      records }

def appendEntry (entries : List PendingQueueAck) (capacity : Nat) (pending : PendingQueueAck) : Option (List PendingQueueAck) :=
  if capacity ≤ entries.length then none else some (entries ++ [pending])

/-- The first entry that is not terminal evidence, else the oldest. -/
def evictionIndex (current : List PendingQueueAck) : Nat :=
  (current.findIdx? fun existing => existing.valid && !terminalAckEvidence existing).getD 0

/-- The journal after the call, and whether the entry is durable. -/
def persistPendingQueueAck (journal : AckJournal) (pending : PendingQueueAck) : AckJournal × Bool :=
  if !pending.valid then (journal, false)
  else
    match loadAckJournalState journal with
    | none => (journal, false)
    | some current =>
      if current.any fun existing => existing.valid && samePendingQueueAck existing pending then (journal, true)
      else
        let kept := if kMaxAckJournalEntries ≤ current.length then current.eraseIdx (evictionIndex current) else current
        match (appendEntry kept kMaxAckJournalEntries pending).bind (commitAckJournalEntries journal) with
        | none => (journal, false)
        | some next => (next, true)

def removePendingQueueAck (journal : AckJournal) (pending : PendingQueueAck) : AckJournal × Bool :=
  match loadAckJournalState journal with
  | none => (journal, false)
  | some current =>
    match current.findIdx? fun existing => existing.valid && samePendingQueueAck existing pending with
    | none => (journal, true)
    | some found =>
      match commitAckJournalEntries journal (current.eraseIdx found) with
      | none => (journal, false)
      | some next => (next, true)

/-! ### Runs -/

inductive AckOp where
  | persist (pending : PendingQueueAck)
  | remove (pending : PendingQueueAck)

def AckOp.apply (journal : AckJournal) : AckOp → AckJournal
  | .persist pending => (persistPendingQueueAck journal pending).1
  | .remove pending => (removePendingQueueAck journal pending).1

end InkTime.Firmware
