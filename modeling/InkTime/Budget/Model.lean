import InkTime.Ledger.Model
import InkTime.Library.Runs

/-!
# Budget reservations

`BudgetService.reserve` checks the projected spending of the running day and month, of the job and of the photo
inside the transaction that enters the reservation. Times are UTC microseconds, and amounts exact rationals.
`julianday` values are compared as the instants they stand for, which SQLite rounds to milliseconds, and all calls
read one clock that does not go back.
-/

namespace InkTime.Budget

open Ledger (Usage CostSource Receipt)

/-! ### Billing periods -/

/-- The calendar of the installation's time zone. `midnight` is the instant at which a local day begins, `today` the
local day of an instant, and `firstOfMonth` is `date.replace(day=1)`. A zone whose clock was turned back from after
midnight to before it, as in St John's until 2011, has no such calendar. -/
structure Calendar where
  midnight : Nat → Nat
  today : Nat → Nat
  firstOfMonth : Nat → Nat
  midnight_mono : Monotone midnight
  midnight_le : ∀ time, midnight (today time) ≤ time
  lt_midnight : ∀ time, time < midnight (today time + 1)
  firstOfMonth_le : ∀ day, firstOfMonth day ≤ day
  lt_nextMonth : ∀ day, day < firstOfMonth (firstOfMonth day + 32)
  sameMonth : ∀ day other, firstOfMonth day ≤ other → other < firstOfMonth (firstOfMonth day + 32) →
    firstOfMonth other = firstOfMonth day

/-- `usage_periods` -/
structure Periods where
  dayStart : Nat
  dayEnd : Nat
  monthStart : Nat
  monthEnd : Nat

def usagePeriods (calendar : Calendar) (now : Nat) : Periods :=
  let today := calendar.today now
  let month := calendar.firstOfMonth today
  let nextMonth := calendar.firstOfMonth (month + 32)
  { dayStart := calendar.midnight today
    dayEnd := calendar.midnight (today + 1)
    monthStart := calendar.midnight month
    monthEnd := calendar.midnight nextMonth }

/-! ### Tables -/

/-- What `_billable_evidence_sql` reads of a usage row besides its costs. -/
structure Evidence where
  inputTokens : Nat := 0
  outputTokens : Nat := 0
  cachedTokens : Nat := 0
  reasoningTokens : Nat := 0
  cacheWriteTokens : Nat := 0
  requestBodyBytes : Nat := 0
  imageBytes : Nat := 0
  status : String := ""

/-- A row of `budget_reservations`. `used` is the known cost recorded for its request so far. -/
structure Reservation where
  id : String
  amount : ℚ
  jobId : Option String
  photoId : Option String
  active : Bool
  createdAt : Nat
  providerId : Option String
  native : Bool
  used : ℚ := 0

structure Db where
  ledger : Ledger.Db
  evidence : Nat → Evidence
  reservations : Table Reservation.id

structure Settings where
  dailyStop : ℚ := 10
  monthlyStop : ℚ := 100
  photoMax : ℚ := 1 / 4
  unknownRequestReserve : ℚ := 1 / 4

/-- `_billable_evidence_sql` -/
def billable (evidence : Evidence) (usage : Usage) : Bool :=
  decide (0 < evidence.inputTokens) || decide (0 < evidence.outputTokens) || decide (0 < evidence.cachedTokens) ||
    decide (0 < evidence.reasoningTokens) || decide (0 < evidence.cacheWriteTokens) ||
    decide (0 < evidence.requestBodyBytes) || decide (0 < evidence.imageBytes) ||
    decide (0 < usage.actualCost.getD 0) || decide (0 < usage.estimatedCost.getD 0) ||
    evidence.status == "completed" || evidence.status == "success"

/-- `column=?`, where `NULL` equals nothing. -/
def named (column value : Option String) : Bool := value.isSome && column == value

/-- `totals`: the known cost of the selected rows, and how many of them have an unknown one. -/
def totals (db : Db) (selected : Usage → Bool) : ℚ × Nat :=
  (db.ledger.usage.rows.total (fun usage => if selected usage then usage.knownCost else 0),
    db.ledger.usage.rows.count fun usage => selected usage && usage.costSource == .unknown && billable (db.evidence usage.id) usage)

def archived (db : Db) (selected : Ledger.Archive → Bool) : ℚ :=
  db.ledger.archive.total fun archive => if selected archive then archive.cost else 0

def reserved (db : Db) (selected : Reservation → Bool) : ℚ :=
  db.reservations.total fun reservation => if reservation.active && selected reservation then reservation.amount else 0

/-! ### snapshot -/

structure Snapshot where
  dailyKnown : ℚ
  monthlyKnown : ℚ
  photoKnown : ℚ
  jobKnown : ℚ
  dailyUnknownCount : Nat
  monthlyUnknownCount : Nat
  photoUnknownCount : Nat
  jobUnknownCount : Nat
  unknownCount : Nat
  unknownRequestReserve : ℚ
  reserved : ℚ
  dailyEffective : ℚ
  monthlyEffective : ℚ
  photoEffective : ℚ
  jobEffective : ℚ
  jobLimit : Option ℚ

section Service

variable (settings : Settings) (calendar : Calendar) (budgetLimit : String → Option ℚ)

/-- `float(job["budget_limit"]) if job and ... else None`; an empty id names no job. -/
def jobLimit (jobId : Option String) : Option ℚ :=
  match jobId with
  | none | some "" => none
  | some jobId => budgetLimit jobId

def snapshot (db : Db) (now : Nat) (jobId photoId : Option String) : Snapshot :=
  let periods := usagePeriods calendar now
  let daily := totals db fun usage => decide (periods.dayStart ≤ usage.startedAt) && decide (usage.startedAt < periods.dayEnd)
  let monthly := totals db fun usage =>
    decide (periods.monthStart ≤ usage.startedAt) && decide (usage.startedAt < periods.monthEnd)
  let photo := totals db fun usage => named usage.photoId photoId
  let job := totals db fun usage => named usage.jobId jobId
  let photoKnown := photo.1 + archived db fun archive => named (some archive.photoId) photoId
  let jobKnown := job.1 + archived db fun archive => named (some archive.jobId) jobId
  let all := totals db fun _ => true
  let total := reserved db fun _ => true
  let reserve := max (1 / 100) (min 100 settings.unknownRequestReserve)
  { dailyKnown := daily.1
    monthlyKnown := monthly.1
    photoKnown
    jobKnown
    dailyUnknownCount := daily.2
    monthlyUnknownCount := monthly.2
    photoUnknownCount := photo.2
    jobUnknownCount := job.2
    unknownCount := all.2
    unknownRequestReserve := reserve
    reserved := total
    dailyEffective := daily.1 + daily.2 * reserve + total
    monthlyEffective := monthly.1 + monthly.2 * reserve + total
    photoEffective := photoKnown + reserved db fun reservation => named reservation.photoId photoId
    jobEffective := jobKnown + reserved db fun reservation => named reservation.jobId jobId
    jobLimit := jobLimit budgetLimit jobId }

/-! ### reserve and release -/

inductive BudgetError where
  | restoreUnreconciled | invalidAmount
  | openai (message : String)
  | job | exceeded
  deriving DecidableEq

def BudgetError.text : BudgetError → String
  | .restoreUnreconciled => "資料庫還原後須先核對供應商帳務與未完成 Batch，請至付費操作對帳頁解除暫停"
  | .invalidAmount => "Invalid budget reservation"
  | .openai message => message
  | .job => "付費請求預留金額超過工作預算"
  | .exceeded => "付費請求預留金額超過可用預算"

structure Request where
  id : String
  amount : ℚ
  jobId : Option String := none
  photoId : Option String := none
  providerId : Option String := none

/-- What other services answer: the restore guard, the budget of OpenAI, and `_dedicated_lane`. -/
structure Answer where
  restoreReconciled : Bool := true
  native : Bool := false
  openaiRefuses : Option String := none
  dedicated : Bool := false

/-- `maximum > 0 and current + amount > maximum` -/
def exceeds (maximum current amount : ℚ) : Bool := decide (0 < maximum) && decide (maximum < current + amount)

/-- The checks of a new reservation. -/
def refusal (snapshot : Snapshot) (request : Request) (answer : Answer) : Option BudgetError :=
  if snapshot.jobLimit.any fun limit => decide (limit < snapshot.jobEffective + request.amount) then some .job
  else if exceeds (if answer.dedicated then 0 else settings.dailyStop) snapshot.dailyEffective request.amount ||
      exceeds (if answer.dedicated then 0 else settings.monthlyStop) snapshot.monthlyEffective request.amount ||
      exceeds (match request.photoId with
        | none | some "" => 0
        | _ => settings.photoMax) snapshot.photoEffective request.amount ||
      exceeds (snapshot.jobLimit.getD 0) snapshot.jobEffective request.amount then some .exceeded
  else none

/-- `INSERT ... ON CONFLICT(id) DO UPDATE` -/
def enter (reservations : Table Reservation.id) (reservation : Reservation) : Table Reservation.id :=
  match reservations.find reservation.id with
  | none => reservations.add reservation
  | some _ => reservations.put reservation

def reserve (db : Db) (now : Nat) (request : Request) (answer : Answer) : Except BudgetError Db :=
  if !answer.restoreReconciled then .error .restoreUnreconciled
  else if request.amount < 0 then .error .invalidAmount
  else if db.reservations.any fun reservation => reservation.id == request.id && reservation.active then .ok db
  else match if answer.native then answer.openaiRefuses else none,
      refusal settings (snapshot settings calendar budgetLimit db now request.jobId request.photoId) request answer with
    | some message, _ => .error (.openai message)
    | none, some error => .error error
    | none, none =>
      .ok { db with
        reservations := enter db.reservations
          { id := request.id, amount := request.amount, jobId := request.jobId, photoId := request.photoId, active := true,
            createdAt := now, providerId := request.providerId, native := answer.native } }

def release (db : Db) (id : String) : Db :=
  { db with
    reservations := db.reservations.update (fun reservation => reservation.id == id)
      (fun reservation => { reservation with active := false }) fun _ => rfl }

/-- The cost a receipt adds to the known ones. -/
def knownCost (receipt : Receipt) (batch : Bool) : ℚ :=
  (Ledger.usageOf receipt (if batch then receipt.actualCost.map (max 0) else receipt.actualCost)).knownCost

/-- The ledger has a new row, recorded for the request of a reservation. -/
def charge (db : Db) (ledger : Ledger.Db) (id : String) (cost : ℚ) (evidence : Evidence) : Db :=
  if ledger.usage.lastId = db.ledger.usage.lastId then { db with ledger }
  else
    { ledger
      evidence := fun usageId => if usageId = ledger.usage.lastId then evidence else db.evidence usageId
      reservations := db.reservations.update (fun reservation => reservation.id == id)
        (fun reservation => { reservation with used := reservation.used + cost }) fun _ => rfl }

/-! ### Runs -/

structure World where
  db : Db
  clock : Nat

inductive Act where
  | tick (now : Nat)
  | reserve (request : Request) (answer : Answer)
  /-- The answer to the request of a reservation is recorded. -/
  | record (reservationId : String) (receipt : Receipt) (evidence : Evidence)
  | recordBatchOnce (reservationId : String) (receipt : Receipt) (batchItemId : String) (evidence : Evidence)
  | release (reservationId : String)

def step (w : World) : Act → World
  | .tick now => { w with clock := max w.clock now }
  | .reserve request answer =>
    match reserve settings calendar budgetLimit w.db w.clock request answer with
    | .ok db => { w with db }
    | .error _ => w
  | .record reservationId receipt evidence =>
    match Ledger.record .exact w.db.ledger receipt with
    | .ok (ledger, _) => { w with db := charge w.db ledger reservationId (knownCost receipt false) evidence }
    | .error _ => w
  | .recordBatchOnce reservationId receipt batchItemId evidence =>
    match Ledger.recordBatchOnce .exact w.db.ledger receipt batchItemId with
    | .ok (ledger, _) => { w with db := charge w.db ledger reservationId (knownCost receipt true) evidence }
    | .error _ => w
  | .release reservationId => { w with db := release w.db reservationId }

def run (w : World) (acts : List Act) : World := Runs.run (step settings calendar budgetLimit) w acts

end Service

/-- No usage and no reservation. -/
def World.start (jobs : Jobs.Db) : World where
  db := ⟨⟨jobs, fun _ => 0, .empty, .empty⟩, fun _ => {}, .empty⟩
  clock := 0

end InkTime.Budget
