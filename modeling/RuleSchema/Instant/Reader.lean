import RuleSchema.Instant.Basic
import RuleSchema.Number.Numeral
import RuleSchema.Text.Search
import RuleSchema.Text.Utf8
import RuleSchema.Value.Basic

/-!
# Reading instants

An instant is read off a text in the format of the calendar standard, off a date alone, or off a
number of seconds since the epoch; a number beyond `millisecondMark` counts milliseconds.  A text is
read byte by byte, and a problem with it is told of its date, because every instant starts with one.

* `Instant.read` reads the instant that a value means.
* `Instant.strict` accepts instants alone.
-/

namespace RuleSchema

/-- What is wrong with a text that should start with a date. -/
inductive DateProblem where
  | tooShort | badYear | badMonth | badDay | badSeparator
  | monthOutOfRange | dayOutOfRange | extraCharacters
  | tooEarly | tooLate
deriving DecidableEq

namespace DateProblem

/-- The message of a problem. -/
def message : DateProblem → String
  | .tooShort => "input is too short"
  | .badYear => "invalid character in year"
  | .badMonth => "invalid character in month"
  | .badDay => "invalid character in day"
  | .badSeparator => "invalid date separator, expected \x60-\x60"
  | .monthOutOfRange => "month value is outside expected range of 1-12"
  | .dayOutOfRange => "day value is outside expected range"
  | .extraCharacters => "unexpected extra characters at the end of the input"
  | .tooEarly => "dates before 0000 are not supported as unix timestamps"
  | .tooLate => "dates after 9999 are not supported as unix timestamps"

end DateProblem

/-- Why a value means no instant. -/
inductive InstantProblem where
  /-- It is neither an instant, nor a text, nor a number. -/
  | notInstant
  | notDate (p : DateProblem)
  /-- A number lies too far from the epoch. -/
  | notMoment (p : DateProblem)
  /-- A number is undefined. -/
  | undefined
  /-- There is no year 0. -/
  | yearZero
deriving DecidableEq

namespace InstantProblem

/-- The message of a problem. -/
def message : InstantProblem → String
  | .notInstant => "Input should be a valid datetime"
  | .notDate p => "Input should be a valid datetime or date, " ++ p.message
  | .notMoment p => "Input should be a valid datetime, " ++ p.message
  | .undefined => "Input should be a valid datetime, NaN values not permitted"
  | .yearZero => "Input should be a valid datetime, year 0 is out of range"

end InstantProblem

namespace Instant

/-! ## Calendar texts -/

/-- The bytes of a text as characters, one for each byte. -/
def octets (s : String) : List Char := (Text.toUtf8 s).map fun b => Char.ofNat b.toNat

/-- The value of some digits. -/
def digits? (cs : List Char) : Option Nat :=
  if cs.all Char.isDigit then some (cs.foldl (fun n c => n * 10 + (c.toNat - 48)) 0) else none

/-- The value of some digits, or a problem. -/
def digitsOr (p : DateProblem) (cs : List Char) : Except DateProblem Nat :=
  match digits? cs with
  | some n => .ok n
  | none => .error p

/-- The date at the start of a text, and what follows. -/
def readDate : List Char → Except DateProblem ((Nat × Nat × Nat) × List Char)
  | y₁ :: y₂ :: y₃ :: y₄ :: a :: m₁ :: m₂ :: b :: d₁ :: d₂ :: rest => do
    let year ← digitsOr .badYear [y₁, y₂, y₃, y₄]
    if a ≠ '-' then .error .badSeparator
    let month ← digitsOr .badMonth [m₁, m₂]
    if b ≠ '-' then .error .badSeparator
    let day ← digitsOr .badDay [d₁, d₂]
    if month = 0 || 12 < month then .error .monthOutOfRange
    if day = 0 || daysInMonth year month < day then .error .dayOutOfRange
    return ((year, month, day), rest)
  | _ => .error .tooShort

/-- A number of two digits below a limit. -/
def twoDigits? (limit : Nat) (a b : Char) : Option Nat := do
  let n ← digits? [a, b]
  if n < limit then some n else none

/-- The first six digits of a fraction of a second, in microseconds. -/
def microseconds (ds : List Char) : Nat :=
  (digits? ((ds ++ List.replicate 6 '0').take 6)).getD 0

/-- The seconds at the start of a text, with their fraction, if there are some. -/
def readSeconds? : List Char → Option ((Nat × Nat) × List Char)
  | ':' :: a :: b :: rest => do
    let second ← twoDigits? 60 a b
    match rest with
    | c :: fraction =>
      if c = '.' || c = ',' then
        let ds := fraction.takeWhile Char.isDigit
        if ds.isEmpty then none
        else some ((second, microseconds ds), fraction.drop ds.length)
      else some ((second, 0), rest)
    | [] => some ((second, 0), [])
  | ':' :: _ => none
  | rest => some ((0, 0), rest)

/-- The hours and minutes of an offset, in microseconds. -/
def offsetOf? (negative : Bool) (h₁ h₂ m₁ m₂ : Char) : Option Int := do
  let hours ← twoDigits? 24 h₁ h₂
  let minutes ← twoDigits? 60 m₁ m₂
  let size : Int := (hours * 60 + minutes) * 60000000
  some (if negative then -size else size)

/-- The offset that a whole text writes after its sign. -/
def signedOffset? (negative : Bool) : List Char → Option Int
  | [h₁, h₂, ':', m₁, m₂] => offsetOf? negative h₁ h₂ m₁ m₂
  | [h₁, h₂, m₁, m₂] => offsetOf? negative h₁ h₂ m₁ m₂
  | _ => none

/-- The offset that a whole text writes, if it writes one. -/
def readOffset? : List Char → Option (Option Int)
  | [] => some none
  | ['Z'] | ['z'] => some (some 0)
  | '+' :: rest => (signedOffset? false rest).map some
  | '-' :: rest => (signedOffset? true rest).map some
  | '\xe2' :: '\x88' :: '\x92' :: rest => (signedOffset? true rest).map some
  | _ => none

/-- Reads a time of day and an offset that fill a whole text. -/
def readTime? (date : Nat × Nat × Nat) : List Char → Option Instant
  | h₁ :: h₂ :: ':' :: m₁ :: m₂ :: rest => do
    let hour ← twoDigits? 24 h₁ h₂
    let minute ← twoDigits? 60 m₁ m₂
    let ((second, microsecond), rest) ← readSeconds? rest
    let offset? ← readOffset? rest
    some { year := date.1, month := date.2.1, day := date.2.2, hour, minute, second, microsecond,
           offset? }
  | _ => none

/-- Reads a date and a time of day that fill a whole text. -/
def readCalendar? (s : List Char) : Option Instant :=
  match readDate s with
  | .ok (date, c :: rest) =>
    if c = 'T' || c = 't' || c = ' ' || c = '_' then readTime? date rest else none
  | _ => none

/-! ## Timestamps -/

/-- The greatest number that counts seconds. -/
def millisecondMark : Int := 20000000000

/-- The first second of year 0, counted from the epoch. -/
def firstSecond : Int := -62167219200

/-- The first second of year 1. -/
def firstSecondOfYearOne : Int := -62135596800

/-- The last second of year 9999. -/
def lastSecond : Int := 253402300799

/-- The greatest number that fits into 64 bits with a sign. -/
def word64Max : Int := 9223372036854775807

/-- A number of seconds and microseconds as an instant of universal time. -/
def ofSeconds (seconds : Int) (microsecond : Nat) : Except InstantProblem Instant :=
  let seconds := seconds + microsecond / 1000000
  if seconds < firstSecond then .error (.notMoment .tooEarly)
  else if lastSecond < seconds then .error (.notMoment .tooLate)
  else if seconds < firstSecondOfYearOne then .error .yearZero
  else .ok (ofClockMicroseconds (seconds * 1000000 + microsecond % 1000000) (some 0))

/-- A number of seconds or milliseconds, with microseconds besides, as an instant. -/
def ofTimestamp (n : Int) (microsecond : Nat) : Except InstantProblem Instant :=
  if n < -word64Max then .error (.notMoment .tooEarly)
  else if n.natAbs ≤ millisecondMark.natAbs then ofSeconds n microsecond
  else ofSeconds (n / 1000) (microsecond + (n % 1000).toNat * 1000)

/-- A fraction of whole numbers rounded to the nearest whole number, a half upwards. -/
def roundedQuotient (num den : Nat) : Nat := (2 * num + den) / (2 * den)

/-- A number of units below one as microseconds, rounded first as a double is. -/
def unitsToMicroseconds (units : Nat) : Nat :=
  match (Binary64.ofFraction false (units * 1000000) unitsPerOne).units? with
  | some u => roundedQuotient u.toNat unitsPerOne
  | none => 0

/-- A whole number brought into 64 bits. -/
def clamped (n : Int) : Int := max (-word64Max - 1) (min word64Max n)

/-- A double as an instant: the whole number below it, and the distance from the whole number
towards zero as a fraction. -/
def ofFloat : Binary64 → Except InstantProblem Instant
  | .nan => .error .undefined
  | .infinite negative => .error (.notMoment (if negative then .tooEarly else .tooLate))
  | x =>
    let units := x.units?.getD 0
    ofTimestamp (clamped (units / unitsPerOne))
      (unitsToMicroseconds (units.natAbs % unitsPerOne))

/-- A double that a text writes as an instant. -/
def ofWrittenFloat (x : Binary64) : Except InstantProblem Instant :=
  match x.units? with
  | none => .error (.notMoment .tooLate)
  | some units =>
    let seconds :=
      if millisecondMark * unitsPerOne < units.natAbs then
        ((Binary64.ofFraction (units < 0) units.natAbs (1000 * unitsPerOne)).units?).getD 0
      else units
    let rest := Binary64.ofFraction false (seconds % unitsPerOne).toNat unitsPerOne
    ofTimestamp (clamped (seconds / unitsPerOne))
      (unitsToMicroseconds ((rest.units?.getD 0).toNat))

/-- A number that a text writes. -/
inductive WrittenNumber where
  | int (n : Int)
  | float (x : Binary64)

/-- The sign and the digits of a text. -/
def takeMark : List Char → Bool × List Char
  | '-' :: s => (true, s)
  | '+' :: s => (false, s)
  | s => (false, s)

/-- Reads a number in digits, possibly with a point among them. -/
def writtenNumber? (s : List Char) : Option WrittenNumber :=
  let (negative, ds) := takeMark s
  match Text.cutAt '.' ds with
  | (whole, none) => do
    let n ← digits? whole
    if whole.isEmpty || word64Max.toNat < n then none
    else some (.int (if negative then -n else n))
  | (whole, some fraction) => do
    let n ← digits? (whole ++ fraction)
    if whole.isEmpty || word64Max.toNat < (← digits? whole) then none
    else some (.float (Binary64.ofDecimal negative n (-fraction.length)))

/-- Whether a whole number lies within the seconds or milliseconds of the calendar. -/
def timestampProblem? (n : Int) : Option DateProblem :=
  match ofTimestamp n 0 with
  | .error (.notMoment p) => some p
  | _ => none

/-! ## Values -/

/-- The problem of a text that is no instant: what is wrong with its date. -/
def dateProblem (s : List Char) : DateProblem :=
  match writtenNumber? s with
  | some (.int n) => (timestampProblem? n).getD .extraCharacters
  | _ =>
    match readDate s with
    | .error p => p
    | .ok _ => .extraCharacters

/-- An instant whose year exists. -/
def inCalendar (t : Instant) : Except InstantProblem Instant :=
  if t.year = 0 then .error .yearZero else .ok t

/-- Reads an instant off a text, given by its bytes. -/
def ofOctets (s : List Char) : Except InstantProblem Instant :=
  match readCalendar? s with
  | some t => inCalendar t
  | none =>
    let moment? := match writtenNumber? s with
      | some (.int n) => some (ofTimestamp n 0)
      | some (.float x) => some (ofWrittenFloat x)
      | none => none
    match moment? with
    | some (.ok t) => .ok t
    | some (.error .yearZero) => .error .yearZero
    | _ =>
      match readDate s with
      | .ok ((year, month, day), []) => inCalendar ⟨year, month, day, 0, 0, 0, 0, none⟩
      | _ => .error (.notDate (dateProblem s))

/-- Reads the instant that a value means. -/
def read : Value → Except InstantProblem Instant
  | .instant t => .ok t
  | .text s => ofOctets (octets s)
  | .tag t => ofOctets (octets t.name)
  | .bytes bs => ofOctets (bs.map fun b => Char.ofNat b.toNat)
  | .number (.int n) =>
    if -word64Max ≤ n + 1 ∧ n ≤ word64Max then ofTimestamp n 0
    else
      match Binary64.ofInt? n with
      | some x => ofFloat x
      | none => .error .notInstant
  | .number (.float x) => ofFloat x
  | _ => .error .notInstant

/-- Accepts instants alone. -/
def strict : Value → Except InstantProblem Instant
  | .instant t => .ok t
  | _ => .error .notInstant

end Instant

end RuleSchema
