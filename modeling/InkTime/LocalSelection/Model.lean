import Mathlib.Data.Int.Bitwise
import InkTime.Library.Texts
import InkTime.Library.MonthDays

/-!
# Local selection of photos

`LocalSelectionPolicy.select` over the rows that `ranked` returns: the stages of a target day, the loop that fills a stage with
photos unlike those already selected, and the second photo of a pair.
-/

namespace InkTime.LocalSelection

open Texts (strip)
open Months (monthDay dateIn yearOf monthOf)

/-- A `datetime` in microseconds of its own clock, and its UTC offset where it has one. -/
structure DateTime where
  clock : ℤ
  offset : Option ℤ

/-- Floats and functions of the language. -/
structure Runtime (F : Type) where
  number : ℚ → F
  add : F → F → F
  sub : F → F → F
  neg : F → F
  abs : F → F
  lt : F → F → Bool
  le : F → F → Bool
  /-- `round(value, 3)` -/
  round3 : F → F
  /-- `int(text)` of a text that is not all ASCII digits, without an answer where it raises `ValueError`. -/
  otherInt : String → Option ℤ
  /-- `int(text, 16)` -/
  hexInt : String → Option ℤ
  lower : String → String
  casefold : String → String
  /-- `datetime.fromisoformat` -/
  fromIsoformat : String → Option DateTime

/-- The score and the parts of a pair. -/
structure PairScore (F : Type) where
  score : F
  primaryLocalDisplayScore : F
  secondaryLocalDisplayScore : F
  orientationCompatibility : F
  captureTimeProximity : F
  knownLocationMatch : F
  locationDataAvailable : F
  dualLowPriorityPenalty : F
  dualHighEpaperRiskPenalty : F
  dualRecentDisplayPenalty : F
  diversityPenalty : Option F := none
  deriving DecidableEq

/-- The fields of a ranked row that `select` reads and writes. -/
structure Row (F : Type) where
  id : String
  localDisplayScore : F
  recentDisplayPenalty : F
  pairCompatibilityBonus : F
  capturedMonthDay : Option String := none
  capturedAt : Option String := none
  capturedDate : Option String := none
  duplicateGroupId : Option String := none
  burstGroupId : Option String := none
  sha256 : Option String := none
  perceptualHash : Option String := none
  differenceHash : Option String := none
  gpsLat : Option F := none
  gpsLon : Option F := none
  width : Option ℤ := none
  height : Option ℤ := none
  city : String := ""
  localQualityDecision : Option String := none
  epaperContrastRisk : Option String := none
  pairScore : Option (PairScore F) := none
  deriving DecidableEq

namespace Runtime

variable {F : Type} (rt : Runtime F)

def eq (x y : F) : Bool := rt.le x y && rt.le y x

def truthy (x : F) : Bool := !rt.eq x (rt.number 0)

/-- `<` of tuples that begin with a float. -/
def ltThen (x y : F) (rest : Bool) : Bool := if rt.eq x y then rest else rt.lt x y

/-- `int(text)` -/
def int (text : String) : Option ℤ :=
  if text ≠ "" ∧ text.toList.all Char.isDigit then some (Nat.ofDigitChars 10 text.toList 0 : ℕ) else rt.otherInt text

/-- `sorted` with a comparison of its keys -/
def sortBy {α : Type} (keyLt : α → α → Bool) (items : List α) : List α := items.mergeSort fun a b => !keyLt b a

/-- `max`: the first of the greatest items. -/
def maxBy {α : Type} (keyLt : α → α → Bool) : List α → Option α
  | [] => none
  | first :: rest => some (rest.foldl (fun best item => if keyLt best item then item else best) first)

end Runtime

open InkTime.LocalSelection.Runtime

variable {F : Type} (rt : Runtime F)

/-! ### Diversity -/

/-- `int.bit_count` -/
def bitCount (value : ℤ) : ℕ := (Nat.digits 2 value.natAbs).sum

def hashDistance (first second : Option String) : Option ℕ :=
  let left := rt.lower (strip (first.getD ""))
  let right := rt.lower (strip (second.getD ""))
  if left = "" ∨ right = "" ∨ left.length ≠ right.length then none
  else
    match rt.hexInt left, rt.hexInt right with
    | some x, some y => some (bitCount (Int.xor x y))
    | _, _ => if left = right then some 0 else none

/-- `text.replace("Z", "+00:00")` -/
def zuluOffset (text : String) : String :=
  String.ofList (text.toList.flatMap fun c => if c = 'Z' then "+00:00".toList else [c])

def instant (capturedAt : Option String) : Option DateTime := rt.fromIsoformat (zuluOffset (capturedAt.getD ""))

namespace DateTime

/-- `self.replace(tzinfo=other.tzinfo)` where only the other one has an offset. -/
def borrow (self other : DateTime) : DateTime := { self with offset := self.offset.or other.offset }

/-- Microseconds between two moments that both have an offset or both have none. -/
def apart (self other : DateTime) : ℕ := ((self.clock - self.offset.getD 0) - (other.clock - other.offset.getD 0)).natAbs

end DateTime

/-- The texts are equal and not empty. -/
def sameText (first second : Option String) : Bool := first.getD "" ≠ "" && first.getD "" == second.getD ""

/-- The hashes are at most 4 bits apart. -/
def closeHash (first second : Option String) : Bool := (hashDistance rt first second).any (· ≤ 4)

def near (first second : Option F) : Bool :=
  match first, second with
  | some x, some y => rt.le (rt.abs (rt.sub x y)) (rt.number (1 / 1000))
  | _, _ => false

def weigh (condition : Bool) (weight penalty : ℕ) : ℕ := if condition then max penalty weight else penalty

/-- What one photo of the context adds to the penalty. The candidate keeps the offset it borrows. -/
def penaltyStep (candidate : Row F) (state : ℕ × Option DateTime) (other : Row F) : ℕ × Option DateTime :=
  let otherAt := instant rt other.capturedAt
  let candidateAt := state.2.map fun moment => (otherAt.map moment.borrow).getD moment
  let burst :=
    match candidateAt, otherAt with
    | some moment, some otherMoment => moment.apart (otherMoment.borrow moment) ≤ 120000000
    | _, _ => false
  let sameSha := rt.lower (strip (candidate.sha256.getD "")) ≠ "" &&
    rt.lower (strip (candidate.sha256.getD "")) == rt.lower (strip (other.sha256.getD ""))
  let penalty := state.1
    |> weigh (sameText candidate.duplicateGroupId other.duplicateGroupId) 18
    |> weigh (sameText candidate.burstGroupId other.burstGroupId) 14
    |> weigh sameSha 20
    |> weigh (closeHash rt candidate.perceptualHash other.perceptualHash) 16
    |> weigh (closeHash rt candidate.differenceHash other.differenceHash) 12
    |> weigh burst 6
    |> weigh (near rt candidate.gpsLat other.gpsLat && near rt candidate.gpsLon other.gpsLon) 4
  (penalty, candidateAt)

def diversityPenalty (candidate : Row F) (selected : List (Row F)) : F :=
  rt.number (selected.foldl (penaltyStep rt candidate) (0, instant rt candidate.capturedAt)).1

/-- The key of a remaining row: its score less the penalty, its place from the front, and its id. -/
def rankedKeyLt (context : List (Row F)) (item other : Row F × ℕ) : Bool :=
  let score (row : Row F) := if rt.truthy row.localDisplayScore then row.localDisplayScore else rt.number 0
  rt.ltThen (rt.sub (score item.1) (diversityPenalty rt item.1 context)) (rt.sub (score other.1) (diversityPenalty rt other.1 context))
    (if item.2 ≠ other.2 then other.2 < item.2 else item.1.id < other.1.id)

/-- `_diverse_stage_selection`, for the number of photos that are needed. -/
def diverseStageSelection [DecidableEq F] : ℕ → List (Row F) → List (Row F) → List (Row F)
  | 0, _, _ => []
  | needed + 1, context, remaining =>
    match maxBy (rankedKeyLt rt context) remaining.zipIdx with
    | none => []
    | some chosen => chosen.1 :: diverseStageSelection needed (context ++ [chosen.1]) (remaining.erase chosen.1)

/-! ### Days -/

/-- `_effective_month_day`, and the reason where it is not the requested day. -/
def effectiveMonthDay (target : ℤ) (targetMonthDay : Option String) : String × Option String :=
  let requested := if targetMonthDay.getD "" = "" then monthDay target else targetMonthDay.getD ""
  if requested = "02-29" ∧ yearOf (monthOf target) % 4 ≠ 0 then ("02-28", some "non_leap_year_fallback") else (requested, none)

/-- `_nearby_days`, later entries over earlier ones. -/
def nearbyDays (text : String) (window : ℤ) : Option (List (String × ℕ)) := do
  let month ← rt.int (String.ofList (text.toList.take 2))
  let day ← rt.int (String.ofList (text.toList.drop 3))
  let anchor ← dateIn 2000 month day
  return (List.range' 1 window.toNat).flatMap fun offset : ℕ =>
    [(monthDay (anchor - offset), offset), (monthDay (anchor + offset), offset)]

def daysAway (days : List (String × ℕ)) (row : Row F) : Option ℕ :=
  (days.reverse.find? fun entry => entry.1 == row.capturedMonthDay.getD "").map Prod.snd

/-! ### Stages -/

inductive Stage where
  | exact | nearby | ranked
  deriving DecidableEq

structure Pools (F : Type) where
  exact : List (Row F)
  nearby : List (Row F)
  rankedOnly : List (Row F)

def nearbyKeyLt (days : List (String × ℕ)) (row other : Row F) : Bool :=
  let away (row : Row F) := (daysAway days row).getD 0
  if away row ≠ away other then away row < away other
  else rt.ltThen (rt.neg row.localDisplayScore) (rt.neg other.localDisplayScore) (row.id < other.id)

def pools (ranked : List (Row F)) (effective : String) (days : List (String × ℕ)) : Pools F :=
  let exact := ranked.filter fun row => row.capturedMonthDay.getD "" == effective
  let nearby := sortBy (nearbyKeyLt rt days) (ranked.filter fun row => (daysAway days row).isSome)
  let listed := (exact ++ nearby).map Row.id
  { exact, nearby, rankedOnly := ranked.filter fun row => row.id ∉ listed }

/-- A pool joins when the ones before it are not enough. -/
def allowed (pools : Pools F) (ranked : List (Row F)) (fallback : String) (needed : ℕ) : List (Row F) :=
  if fallback = "ranked" then ranked
  else
    let withNearby :=
      if pools.exact.length < needed ∧ (fallback = "nearby_only" ∨ fallback = "nearby_then_ranked") then
        pools.exact ++ pools.nearby
      else pools.exact
    if withNearby.length < needed ∧ fallback = "nearby_then_ranked" then withNearby ++ pools.rankedOnly else withNearby

/-- `stage_by_id` -/
def stageById (pools : Pools F) (row : Row F) : Stage :=
  if row.id ∈ pools.exact.map Row.id then .exact else if row.id ∈ pools.nearby.map Row.id then .nearby else .ranked

/-- One round of the loop over the stages. -/
def selectStage [DecidableEq F] (pools : Pools F) (allowed : List (Row F)) (needed : ℕ) (selected : List (Row F)) (stage : Stage) :
    List (Row F) :=
  selected ++ diverseStageSelection rt (needed - selected.length) selected (allowed.filter fun row => stageById pools row == stage)

/-! ### Pairs -/

def isLandscape (row : Row F) : Bool := row.height.getD 0 ≤ row.width.getD 0

def pairScore (primary secondary : Row F) (orientation : String) : PairScore F :=
  let orientationBonus :=
    let mixed := rt.number (if isLandscape primary ≠ isLandscape secondary then 4 else 1)
    if orientation = "portrait" then rt.add mixed (rt.number (if isLandscape primary || isLandscape secondary then 1 else 0)) else mixed
  let primaryCity := strip primary.city
  let secondaryCity := strip secondary.city
  let locationBonus := rt.number (if primaryCity ≠ "" ∧ rt.casefold primaryCity = rt.casefold secondaryCity then 3 else 0)
  let primaryDate := primary.capturedDate.getD ""
  let secondaryDate := secondary.capturedDate.getD ""
  let proximity := rt.number
    (if primaryDate ≠ "" ∧ secondaryDate ≠ "" ∧ primaryDate.toList.take 7 = secondaryDate.toList.take 7 then 2 else 0)
  let lowPenalty := rt.number
    (if primary.localQualityDecision = some "low_priority" ∧ secondary.localQualityDecision = some "low_priority" then 8 else 0)
  let riskPenalty := rt.number
    (if primary.epaperContrastRisk = some "high" ∧ secondary.epaperContrastRisk = some "high" then 8 else 0)
  let recentPenalty := rt.number
    (if rt.truthy primary.recentDisplayPenalty && rt.truthy secondary.recentDisplayPenalty then 8 else 0)
  let total := [secondary.localDisplayScore, orientationBonus, proximity, locationBonus].foldl rt.add primary.localDisplayScore
  { score := rt.round3 ([lowPenalty, riskPenalty, recentPenalty].foldl rt.sub total)
    primaryLocalDisplayScore := primary.localDisplayScore
    secondaryLocalDisplayScore := secondary.localDisplayScore
    orientationCompatibility := orientationBonus
    captureTimeProximity := proximity
    knownLocationMatch := locationBonus
    locationDataAvailable := rt.number (if primaryCity ≠ "" ∧ secondaryCity ≠ "" then 1 else 0)
    dualLowPriorityPenalty := lowPenalty
    dualHighEpaperRiskPenalty := riskPenalty
    dualRecentDisplayPenalty := recentPenalty }

structure Pair (F : Type) where
  score : PairScore F
  diversity : F
  peer : Row F

def pairKeyLt (pair other : Pair F) : Bool :=
  rt.ltThen (rt.neg (rt.sub pair.score.score pair.diversity)) (rt.neg (rt.sub other.score.score other.diversity))
    (pair.peer.id < other.peer.id)

/-- The pair a primary photo makes with its best peer. -/
def bestPair (orientation : String) (primary : Row F) (peers : List (Row F)) : Option (Pair F) :=
  (sortBy (pairKeyLt rt) (peers.map fun peer =>
    { score := pairScore rt primary peer orientation, diversity := diversityPenalty rt peer [primary], peer })).head?

/-- What the pair writes to the row of its primary photo. -/
def annotate (pair : Pair F) (primary : Row F) : Row F :=
  { primary with
    pairCompatibilityBonus := pair.score.orientationCompatibility
    pairScore := some { pair.score with
      score := rt.round3 (rt.sub pair.score.score pair.diversity)
      diversityPenalty := some (rt.neg pair.diversity) } }

/-! ### select -/

def pairLayouts : List String := ["photo_pair", "photo_pair_caption"]

/-- The pair that the layout asks for, and the first selected photo it is of. -/
def pairOf (layout orientation : String) (allowed selected : List (Row F)) : Option (Row F × Pair F) :=
  if layout ∈ pairLayouts then
    selected.head?.bind fun primary =>
      (bestPair rt orientation primary ((allowed.take 50).filter fun row => row.id ≠ primary.id)).map fun pair => (primary, pair)
  else none

/-- The first two places are those of the pair. -/
def pinned (selected : List (Row F)) (pair : Option (Row F × Pair F)) : List (Row F) :=
  match pair with
  | none => selected
  | some (primary, pair) =>
    primary :: pair.peer :: selected.tail.filter fun row => row.id ≠ primary.id && row.id ≠ pair.peer.id

/-- The row object of the primary photo is one in every list. -/
def written (pair : Option (Row F × Pair F)) (row : Row F) : Row F :=
  match pair with
  | none => row
  | some (primary, pair) => if row.id = primary.id then annotate rt pair row else row

inductive FallbackType where
  | none | exactDay | nearbyDay | rankedFallback
  deriving DecidableEq

def fallbackType (stages : List Stage) : FallbackType :=
  if stages = [] then .none
  else if .ranked ∈ stages then .rankedFallback
  else if .nearby ∈ stages then .nearbyDay
  else .exactDay

/-- The result of `select`. -/
structure Selection (F : Type) where
  candidates : List (Row F)
  selected : List (Row F)
  fallback : FallbackType
  fallbackReason : Option String
  allowedPool : List (Row F)
  exactPool : List (Row F)
  nearbyPool : List (Row F)
  rankedPool : List (Row F)

/-- The arguments of `select`, and the two settings it reads. -/
structure Request where
  target : ℤ
  targetMonthDay : Option String := none
  orientation : String := ""
  quantity : ℤ
  layout : String
  window : ℤ
  fallback : String

/-- `max(1, quantity)` -/
def Request.needed (request : Request) : ℕ := (max 1 request.quantity).toNat

/-- `select`, without an answer where the month and day raise `ValueError`. -/
def select [DecidableEq F] (request : Request) (ranked : List (Row F)) : Option (Selection F) := do
  let effective := effectiveMonthDay request.target request.targetMonthDay
  let days ← nearbyDays rt effective.1 request.window
  let pools := pools rt ranked effective.1 days
  let allowed := allowed pools ranked request.fallback request.needed
  let filled := [Stage.exact, .nearby, .ranked].foldl (selectStage rt pools allowed request.needed) []
  let pair := pairOf rt request.layout request.orientation allowed filled
  let selected := (pinned filled pair).take request.needed
  return {
    candidates := ranked.map (written rt pair)
    selected := selected.map (written rt pair)
    fallback := fallbackType (selected.map (stageById pools))
    fallbackReason := effective.2
    allowedPool := allowed.map (written rt pair)
    exactPool := pools.exact.map (written rt pair)
    nearbyPool := pools.nearby.map (written rt pair)
    rankedPool := pools.rankedOnly.map (written rt pair) }

end InkTime.LocalSelection
