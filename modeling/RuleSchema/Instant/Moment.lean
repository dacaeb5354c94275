import RuleSchema.Instant.Basic
import RuleSchema.Value.Basic

/-!
# Moments

A moment is a number of seconds since the epoch, whole or not.  It is shown as an instant of
universal time, its fraction rounded to microseconds.

* `Moment.instant` gives the instant, or a `MomentProblem`.
-/

namespace RuleSchema

/-- Why a value is no moment that can be shown. -/
inductive MomentProblem where
  /-- A value of this kind is no number. -/
  | notNumber (kind : String)
  | undefined
  /-- The clock cannot count so many seconds. -/
  | beyondClock
  /-- The system has no year for it. -/
  | beyondSystem
  /-- The calendar does not go that far. -/
  | beyondCalendar (year : Int)

namespace MomentProblem

/-- The message of a problem. -/
def message : MomentProblem → String
  | .notNumber kind => "'" ++ kind ++ "' object cannot be interpreted as an integer"
  | .undefined => "Invalid value NaN (not a number)"
  | .beyondClock => "timestamp out of range for platform time_t"
  | .beyondSystem => "[Errno 75] Value too large for defined data type"
  | .beyondCalendar year => "year " ++ toString year ++ " is out of range"

end MomentProblem

namespace Moment

/-- Microseconds since the epoch of a double: the fraction is scaled as a double first, and then
rounded, a tie to the even neighbour. -/
def microsecondsOfFloat (negative : Bool) (m : Magnitude) : Int :=
  let seconds := m.units / unitsPerOne
  let fraction := m.units % unitsPerOne
  let scaled := match (Binary64.ofFraction false (fraction * 1000000) unitsPerOne).units? with
    | some units => roundQuotient units.toNat unitsPerOne
    | none => 0
  let total : Int := seconds * 1000000 + scaled
  if negative then -total else total

/-- Microseconds since the epoch. -/
def microseconds (v : Value) : Except MomentProblem Int :=
  match v.numeric? with
  | some (.int n) => .ok (n * 1000000)
  | some (.float .nan) => .error .undefined
  | some (.float (.infinite _)) => .error .beyondClock
  | some (.float (.finite negative m)) => .ok (microsecondsOfFloat negative m)
  | none => .error (.notNumber v.kindName)

/-- The year of a day that is counted from the epoch. -/
def yearOfDay (day : Int) : Int :=
  let shifted := day + 719468
  let era := shifted / 146097
  let dayOfEra := shifted % 146097
  let yearOfEra := (dayOfEra - dayOfEra / 1460 + dayOfEra / 36524 - dayOfEra / 146096) / 365
  let dayOfYear := dayOfEra - (365 * yearOfEra + yearOfEra / 4 - yearOfEra / 100)
  yearOfEra + era * 400 + (if 306 ≤ dayOfYear then 1 else 0)

/-- The instant of universal time at a moment. -/
def instant (v : Value) : Except MomentProblem Instant := do
  let total ← microseconds v
  let seconds := total / 1000000
  let year := yearOfDay (seconds / 86400)
  if seconds < -0x8000000000000000 ∨ 0x8000000000000000 ≤ seconds then .error .beyondClock
  else if year - 1900 < -0x80000000 ∨ 0x80000000 ≤ year - 1900 then .error .beyondSystem
  else if year < 1 ∨ 9999 < year then .error (.beyondCalendar (Int.bmod year 0x100000000))
  else return Instant.ofClockMicroseconds total (some 0)

end Moment

end RuleSchema
