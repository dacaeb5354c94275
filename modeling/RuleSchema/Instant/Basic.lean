import RuleSchema.Number.Notation

/-!
# Instants

A calendar date with a time of day, in the proleptic Gregorian calendar, and possibly the offset
of its clock from universal time.

* `Instant.text` writes one in the format of the calendar standard.
* `Instant.equals` compares two: those with an offset by the moment they name, the others by what
  is written.
-/

namespace RuleSchema

/-- A date and a time of day, with the offset of the clock in microseconds. -/
structure Instant where
  year : Nat
  month : Nat
  day : Nat
  hour : Nat
  minute : Nat
  second : Nat
  microsecond : Nat
  offset? : Option Int
deriving DecidableEq

namespace Instant

/-- Whether February has a 29th day. -/
def isLeapYear (year : Nat) : Bool :=
  year % 4 = 0 && (year % 100 != 0 || year % 400 = 0)

/-- The number of days of a month. -/
def daysInMonth (year month : Nat) : Nat :=
  if month = 2 then if isLeapYear year then 29 else 28
  else if month = 4 || month = 6 || month = 9 || month = 11 then 30 else 31

/-- The number of days of the years before this one. -/
def daysBeforeYear (year : Nat) : Nat :=
  let y := year - 1
  y * 365 + y / 4 - y / 100 + y / 400

/-- The number of days of the months of a year before this one. -/
def daysBeforeMonth (year month : Nat) : Nat :=
  (List.range (month - 1)).foldl (fun n i => n + daysInMonth year (i + 1)) 0

/-- The number of a day, counted from the first day of year 1. -/
def dayNumber (year month day : Nat) : Nat :=
  daysBeforeYear year + daysBeforeMonth year month + day - 1

/-- The number of the day on which the count of Unix seconds starts. -/
def epochDay : Nat := 719162

/-- The microseconds that a clock showing this instant has counted since the epoch. -/
def clockMicroseconds (t : Instant) : Int :=
  let days : Int := (dayNumber t.year t.month t.day : Int) - epochDay
  ((days * 24 + t.hour) * 60 + t.minute) * 60000000 + (t.second : Int) * 1000000 + t.microsecond

/-- Two instants with an offset are equal when they name the same moment, two without when their
clocks show the same, and others never. -/
def equals (a b : Instant) : Bool :=
  match a.offset?, b.offset? with
  | some x, some y => a.clockMicroseconds - x == b.clockMicroseconds - y
  | none, none => a.clockMicroseconds == b.clockMicroseconds
  | _, _ => false

/-- The month and the day of the month of the `n`-th day of a year, searched from a month on. -/
def monthAndDay (year : Nat) : Nat → Nat → Nat → Nat × Nat
  | 0, month, n => (month, n + 1)
  | later + 1, month, n =>
    let days := daysInMonth year month
    if n < days then (month, n + 1) else monthAndDay year later (month + 1) (n - days)

/-- The year that holds the day with this number, and the days of it before that day. -/
def yearAndRest (n : Nat) : Nat × Nat :=
  let guess := n / 366 + 1
  let years := n / 365 + 1 - guess
  let year := (List.range years).foldl
    (fun y _ => if daysBeforeYear (y + 1) ≤ n then y + 1 else y) guess
  (year, n - daysBeforeYear year)

/-- The instant at which a clock has counted these microseconds since the epoch. -/
def ofClockMicroseconds (microseconds : Int) (offset? : Option Int) : Instant :=
  let total := (microseconds + epochDay * 86400000000).toNat
  let rest := total % 86400000000
  let (year, dayOfYear) := yearAndRest (total / 86400000000)
  let (month, day) := monthAndDay year 11 1 dayOfYear
  { year, month, day
    hour := rest / 3600000000
    minute := rest / 60000000 % 60
    second := rest / 1000000 % 60
    microsecond := rest % 1000000
    offset? }

/-! ## Writing -/

/-- A number in at least `width` digits. -/
def padded (width n : Nat) : String := FloatNotation.padDigits width (toString n)

/-- A fraction of a second, left out when it is zero. -/
def fractionText (microsecond : Nat) : String :=
  if microsecond = 0 then "" else "." ++ padded 6 microsecond

/-- The offset of a clock. -/
def offsetText (offset : Int) : String :=
  let n := offset.natAbs
  let seconds := n / 1000000 % 60
  let microseconds := n % 1000000
  (if offset < 0 then "-" else "+") ++ padded 2 (n / 3600000000) ++ ":" ++
    padded 2 (n / 60000000 % 60) ++
    (if seconds = 0 && microseconds = 0 then ""
      else ":" ++ padded 2 seconds ++ fractionText microseconds)

/-- The text of an instant, its date and time joined by `separator`. -/
def textWith (separator : String) (t : Instant) : String :=
  padded 4 t.year ++ "-" ++ padded 2 t.month ++ "-" ++ padded 2 t.day ++ separator ++
    padded 2 t.hour ++ ":" ++ padded 2 t.minute ++ ":" ++ padded 2 t.second ++
    fractionText t.microsecond ++
    match t.offset? with
    | some offset => offsetText offset
    | none => ""

/-- The text of an instant. -/
def text (t : Instant) : String := t.textWith "T"

end Instant

end RuleSchema
