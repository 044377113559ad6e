import InkTime.Library.Checked
import InkTime.Library.Json
import InkTime.Library.Texts

/-!
# Rules of offline schedules

The server-side rules of `offline_schedule.py` on times of day, slot limits, sync strategies and delivery modes.
-/

namespace InkTime.Schedule

open Json (Value Text)
open Texts (strip)
open Checked (require)

/-! ### Times of day -/

/-- The zeros of the decimal digits that `\d` matches and `int` reads. -/
def decimalZeros : List Nat := [
    0x30, 0x660, 0x6F0, 0x7C0, 0x966, 0x9E6, 0xA66, 0xAE6, 0xB66, 0xBE6, 0xC66, 0xCE6, 0xD66, 0xDE6, 0xE50, 0xED0,
    0xF20, 0x1040, 0x1090, 0x17E0, 0x1810, 0x1946, 0x19D0, 0x1A80, 0x1A90, 0x1B50, 0x1BB0, 0x1C40, 0x1C50, 0xA620,
    0xA8D0, 0xA900, 0xA9D0, 0xA9F0, 0xAA50, 0xABF0, 0xFF10, 0x104A0, 0x10D30, 0x11066, 0x110F0, 0x11136, 0x111D0,
    0x112F0, 0x11450, 0x114D0, 0x11650, 0x116C0, 0x11730, 0x118E0, 0x11950, 0x11C50, 0x11D50, 0x11DA0, 0x11F50,
    0x16A60, 0x16AC0, 0x16B50, 0x1D7CE, 0x1D7D8, 0x1D7E2, 0x1D7EC, 0x1D7F6, 0x1E140, 0x1E2F0, 0x1E4F0, 0x1E950,
    0x1FBF0]

def decimal (c : Char) : Option Nat :=
  (decimalZeros.find? fun start => start ≤ c.toNat && c.toNat < start + 10).map fun start => c.toNat - start

/-- Minutes of a text that matches `^(?:[01]\d|2[0-3]):[0-5]\d$`; any other has none. -/
def scheduleMinutes (text : String) : Option Nat :=
  match text.toList with
  | [tens, ones, ':', minuteTens, minuteOnes] => do
    let hours ←
      if tens = '0' then decimal ones
      else if tens = '1' then (decimal ones).map (10 + ·)
      else if tens = '2' ∧ '0' ≤ ones ∧ ones ≤ '3' then (decimal ones).map (20 + ·)
      else none
    if '0' ≤ minuteTens ∧ minuteTens ≤ '5' then
      some (hours * 60 + ((decimal minuteTens).getD 0 * 10 + (← decimal minuteOnes)))
    else none
  | _ => none

def isTime (text : String) : Bool := (scheduleMinutes text).isSome

/-! ### Slots -/

/-- `ValueError` -/
structure Refused where
  message : String
  deriving DecidableEq, Repr

def minimumScheduleGapMinutes : Int := 60

def legacyMaxOfflineSlots : Nat := 12

def maxOfflineSlots : Nat := 24

def resolveOfflineScheduleMaxSlots : Value → Nat
  | .int value => if value = 16 ∨ value = 24 then value.toNat else legacyMaxOfflineSlots
  | _ => legacyMaxOfflineSlots

inductive CapabilityState where
  | unknown12 | confirmed16 | confirmed24 | legacyAmbiguous
  deriving DecidableEq, Repr

def offlineScheduleCapabilityState (maximumSlots : Nat) : CapabilityState :=
  match resolveOfflineScheduleMaxSlots (.int maximumSlots) with
  | 16 => .confirmed16
  | 24 => .confirmed24
  | _ => .unknown12

/-- The text of a value. The `str` of any other value is neither a time nor a name that is looked for. -/
def textOf : Value → Option String
  | .str (.utf8 text) => some text
  | _ => none

/-- From each time to the next, and from the last to the first of the next day. -/
def gaps (minutes : List Nat) : List Int :=
  (minutes.zip minutes.tail).map (fun pair => (pair.2 : Int) - pair.1) ++
    match minutes with
    | first :: _ :: _ => [(first : Int) + 24 * 60 - (minutes.getLastD 0 : Nat)]
    | _ => []

scoped instance decidableTextLe : DecidableRel (fun first second : String => first ≤ second) := fun first second =>
  inferInstanceAs (Decidable (first ≤ second))

/-- Items of a list, without a text where they are not texts. -/
def validateOfflineSchedule (values : List (Option String)) (maximum : Nat) (minimumGapMinutes : Int) :
    Except Refused (List String) := do
  require (1 ≤ values.length && values.length ≤ maximum) ⟨s!"DEVICE-008 offline_schedule 必須包含 1 到 {maximum} 個時刻"⟩
  require (30 ≤ minimumGapMinutes && minimumGapMinutes ≤ 360) ⟨"DEVICE-008 minimum_schedule_gap_minutes 必須介於 30 到 360"⟩
  let normalized ← Checked.orError (values.mapM fun value => value.map strip) ⟨"DEVICE-008 offline_schedule 必須使用 HH:MM"⟩
  require (normalized.all isTime) ⟨"DEVICE-008 offline_schedule 必須使用 HH:MM"⟩
  require (decide normalized.Nodup) ⟨"DEVICE-008 offline_schedule 不可重複"⟩
  let ordered := normalized.insertionSort fun first second => first ≤ second
  require ((gaps (ordered.filterMap scheduleMinutes)).all fun gap => minimumGapMinutes ≤ gap)
    ⟨s!"DEVICE-008 schedule_times 的循環最小間隔不得小於 {minimumGapMinutes} 分鐘"⟩
  return ordered

/-! ### Sync -/

inductive SyncStrategy where
  | firstDisplayLead | fixedDaily
  deriving DecidableEq, Repr

def SyncStrategy.ofText : String → Option SyncStrategy
  | "first_display_lead" => some .firstDisplayLead
  | "fixed_daily" => some .fixedDaily
  | _ => none

def SyncStrategy.text : SyncStrategy → String
  | .firstDisplayLead => "first_display_lead"
  | .fixedDaily => "fixed_daily"

def normalizeSyncStrategy (syncStrategy syncTime : Value) : Except Refused (SyncStrategy × Option String) := do
  let strategy ← Checked.orError
    ((textOf (syncStrategy.orElse (.str (.utf8 "first_display_lead")))).bind fun text => SyncStrategy.ofText (strip text))
    ⟨"DEVICE-008 sync_strategy 不合法"⟩
  let absent := syncTime.isNull || syncTime.isText ""
  match strategy with
  | .firstDisplayLead => do
    require absent ⟨"DEVICE-008 first_display_lead 不接受 sync_time"⟩
    return (strategy, none)
  | .fixedDaily =>
    match if absent then none else (textOf syncTime).map strip with
    | some time => do
      require (isTime time) ⟨"DEVICE-008 fixed_daily 必須提供 HH:MM sync_time"⟩
      return (strategy, some time)
    | none => .error ⟨"DEVICE-008 fixed_daily 必須提供 HH:MM sync_time"⟩

/-! ### Delivery -/

inductive DeliveryMode where
  | legacyOnline | stockCompat | offlineSchedule
  deriving DecidableEq, Repr

def DeliveryMode.ofText : String → Option DeliveryMode
  | "legacy_online" => some .legacyOnline
  | "stock_compat" => some .stockCompat
  | "inktime_offline_schedule" => some .offlineSchedule
  | _ => none

def DeliveryMode.text : DeliveryMode → String
  | .legacyOnline => "legacy_online"
  | .stockCompat => "stock_compat"
  | .offlineSchedule => "inktime_offline_schedule"

/-- Whether the mode and the flag agree; an absent flag does. -/
def normalizeDeliveryContract (mode : DeliveryMode) (offlinePrefetchAllowed : Option Bool) : Except Refused Bool := do
  let expected := mode == .offlineSchedule
  require (offlinePrefetchAllowed.all (· == expected))
    ⟨"DEVICE-008 delivery_mode 與 offline_prefetch_allowed 不一致"⟩
  return expected

end InkTime.Schedule
