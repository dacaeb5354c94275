import RuleSchema.Fault
import RuleSchema.Number.Numeral
import RuleSchema.Text.Search
import RuleSchema.Value.Basic

/-!
# Reading scalars

A field of a rule, and a payload whose rule converts, may hold a scalar in another kind than the
one that is asked for: a number as a text, a truth value as a word.  The readers of this module
accept what clearly means a scalar of their kind, and say what is wrong with anything else.

* `readBool`, `readInt`, `readNumber`, `readText` are the readers.
* `strictBool`, `strictNumber`, `strictText` accept their own kind alone.
-/

namespace RuleSchema

/-- Why a value is not a scalar of some kind. -/
inductive ScalarProblem where
  | notBool | notBoolWord
  | notInt | notIntNumeral | notWhole | tooManyDigits
  | notFinite
  | notNumber | notNumeral
  | notText | notEncodedText
deriving DecidableEq

namespace ScalarProblem

/-- The message of a problem. -/
def message : ScalarProblem → String
  | .notBool => "Input should be a valid boolean"
  | .notBoolWord => "Input should be a valid boolean, unable to interpret input"
  | .notInt => "Input should be a valid integer"
  | .notIntNumeral =>
    "Input should be a valid integer, unable to parse string as an integer"
  | .notWhole => "Input should be a valid integer, got a number with a fractional part"
  | .tooManyDigits =>
    "Unable to parse input string as an integer, exceeded maximum size"
  | .notFinite => "Input should be a finite number"
  | .notNumber => "Input should be a valid number"
  | .notNumeral => "Input should be a valid number, unable to parse string as a number"
  | .notText => "Input should be a valid string"
  | .notEncodedText =>
    "Input should be a valid string, unable to parse raw data as a unicode string"

/-- The code of a problem, for programs. -/
def code : ScalarProblem → String
  | .notBool => "bool_type"
  | .notBoolWord => "bool_parsing"
  | .notInt => "int_type"
  | .notIntNumeral => "int_parsing"
  | .notWhole => "int_from_float"
  | .tooManyDigits => "int_parsing_size"
  | .notFinite => "finite_number"
  | .notNumber => "float_type"
  | .notNumeral => "float_parsing"
  | .notText => "string_type"
  | .notEncodedText => "string_unicode"

end ScalarProblem

/-- A reader of scalars. -/
abbrev ScalarReader (α : Type) := Value → Except ScalarProblem α

/-- The characters of a value that is a text or the encoding of one. -/
def encodedText? (v : Value) : Option (Except Text.Utf8Error String) :=
  match v with
  | .bytes bs => some (Text.ofUtf8 bs)
  | v => v.text?.map .ok

/-! ## Numerals -/

/-- The greatest whole number that a double is read as, and one. -/
def wholeLimit : Int := 9223372036854775808

/-- A double as a whole number. -/
def wholeOf (x : Binary64) : Except ScalarProblem Int :=
  if !x.isFinite then .error .notFinite
  else
    match x.wholeValue? with
    | none => .error .notWhole
    | some n => if -wholeLimit < n ∧ n < wholeLimit then .ok n else .error .tooManyDigits

/-- Cuts the leading zeros of a numeral, one of them kept before a point; `previous` is the
character before.  Nothing if something else than zeros, underscores and a numeral comes. -/
def dropZeros (previous : Char) : List Char → Option (List Char)
  | [] => some [previous]
  | c :: s =>
    if c = '0' || c = '_' then dropZeros c s
    else if c.isDigit then some (c :: s)
    else if c = '.' then some (previous :: c :: s)
    else none

/-- A numeral without leading zeros. -/
def withoutLeadingZeros (s : List Char) : Option (List Char) :=
  match s with
  | [] => none
  | '0' :: rest => dropZeros '0' rest
  | c :: rest => if c.isDigit || c = '-' then some (c :: rest) else none

/-- A numeral without a point and zeros at its end. -/
def withoutZeroFraction (s : List Char) : List Char :=
  match Text.cutAt '.' s with
  | (whole, some (d :: ds)) => if (d :: ds).all (· = '0') then whole else s
  | _ => s

/-- A numeral without its underscores, if it has some, and none at its ends or next to another. -/
def withoutUnderscores? (s : List Char) : Option (List Char) :=
  if s.head? = some '_' || s.getLast? = some '_' || !s.contains '_' ||
      Text.occursIn ['_', '_'] s then none
  else some (s.filter (· ≠ '_'))

/-- A numeral without a plus sign, unless a minus sign follows. -/
def withoutPlus (s : List Char) : List Char :=
  match s with
  | '+' :: '-' :: rest => '+' :: '-' :: rest
  | '+' :: rest => rest
  | s => s

/-- The characters of a text without white space at its ends. -/
def strippedChars (s : String) : List Char :=
  (Text.dropEnd Text.isWhite (Text.dropStart Text.isWhite s)).toList

/-- A text as a plain numeral. -/
def cleanNumeral? (s : String) : Option (List Char) :=
  (withoutLeadingZeros (withoutPlus (strippedChars s))).map fun t =>
    let t := withoutZeroFraction t
    (withoutUnderscores? t).getD t

/-- The value of a plain numeral that is not too long. -/
def boundedInt (s : List Char) : Except ScalarProblem Int :=
  match Numeral.readPlainInt? s with
  | none => .error .notIntNumeral
  | some n => if digitLimit < Binary64.digitCount n.natAbs then .error .tooManyDigits else .ok n

/-- Reads a whole number off a text. -/
def intOfText (s : String) : Except ScalarProblem Int :=
  match boundedInt s.toList with
  | .error .notIntNumeral =>
    match cleanNumeral? s with
    | some t => boundedInt t
    | none => .error .notIntNumeral
  | r => r

/-- Reads a double off a text. -/
def floatOfText (s : String) : Except ScalarProblem Binary64 :=
  match Numeral.readPlainFloat? (strippedChars s) with
  | some x => .ok x
  | none =>
    match (withoutUnderscores? s.toList).bind Numeral.readPlainFloat? with
    | some x => .ok x
    | none => .error .notNumeral

/-! ## The readers -/

/-- The words for the truth values. -/
def boolOfWord? (s : String) : Option Bool :=
  let word := Numeral.asciiLower s.toList
  if ["0", "off", "f", "false", "n", "no"].contains word then some false
  else if ["1", "on", "t", "true", "y", "yes"].contains word then some true
  else none

/-- The truth value that a whole number means.  A number of more than 64 bits is no candidate for
a truth value at all. -/
def boolOfInt (n : Int) : Except ScalarProblem Bool :=
  if n = 0 then .ok false
  else if n = 1 then .ok true
  else if -wholeLimit ≤ n ∧ n < wholeLimit then .error .notBoolWord
  else .error .notBool

/-- Reads a truth value. -/
def readBool : ScalarReader Bool := fun v =>
  match encodedText? v with
  | some (.ok s) =>
    match boolOfWord? s with
    | some b => .ok b
    | none => .error .notBoolWord
  | some (.error _) => .error .notBoolWord
  | none =>
    match v with
    | .bool b => .ok b
    | .number (.int n) => boolOfInt n
    | .number (.float x) =>
      match wholeOf x with
      | .ok n => boolOfInt n
      | .error _ => .error .notBool
    | _ => .error .notBool

/-- Reads a whole number. -/
def readInt : ScalarReader Int := fun v =>
  match encodedText? v with
  | some (.ok s) => intOfText s
  | some (.error _) => .error .notIntNumeral
  | none =>
    match v with
    | .bool b => .ok b.toNat
    | .number (.int n) => .ok n
    | .number (.float x) => wholeOf x
    | _ => .error .notInt

/-- Reads a double. -/
def readFloat : ScalarReader Binary64 := fun v =>
  match encodedText? v with
  | some (.ok s) => floatOfText s
  | some (.error _) => .error .notNumeral
  | none =>
    match v with
    | .bool b => .ok (Binary64.ofFraction false b.toNat 1)
    | .number (.float x) => .ok x
    | .number (.int n) =>
      match Binary64.ofInt? n with
      | some x => .ok x
      | none => .error .notNumber
    | _ => .error .notNumber

/-- Reads a text. -/
def readText : ScalarReader String := fun v =>
  match encodedText? v with
  | some (.ok s) => .ok s
  | some (.error _) => .error .notEncodedText
  | none => .error .notText

/-- A double that is neither infinite nor undefined, if it has to be. -/
def admitted (finiteOnly : Bool) (x : Binary64) : Except ScalarProblem Binary64 :=
  if finiteOnly && !x.isFinite then .error .notFinite else .ok x

/-- Reads a number: a number as it is, anything else as a whole number if it reads as one, and as a
double otherwise.  What is wrong is said of both kinds. -/
def readNumber (finiteOnly : Bool) (v : Value) :
    Except (ScalarProblem × ScalarProblem) Number :=
  match v with
  | .number (.int n) => .ok (.int n)
  | .number (.float x) =>
    match admitted finiteOnly x, wholeOf x with
    | .ok x, _ => .ok (.float x)
    | .error q, .error p => .error (p, q)
    | .error _, .ok n => .ok (.int n)
  | v =>
    match readInt v with
    | .ok n => .ok (.int n)
    | .error p =>
      match readFloat v with
      | .error q => .error (p, q)
      | .ok x =>
        match admitted finiteOnly x with
        | .ok x => .ok (.float x)
        | .error q => .error (p, q)

/-- Accepts truth values alone. -/
def strictBool : ScalarReader Bool
  | .bool b => .ok b
  | _ => .error .notBool

/-- Accepts texts alone. -/
def strictText : ScalarReader String := fun v =>
  match v.text? with
  | some s => .ok s
  | none => .error .notText

/-- Accepts numbers alone, the doubles among them if they are finite. -/
def strictNumber : ScalarReader Number
  | .number (.int n) => .ok (.int n)
  | .number (.float x) => if x.isFinite then .ok (.float x) else .error .notInt
  | _ => .error .notInt

/-- Reads a text off a text or a number. -/
def readNumericText : ScalarReader String
  | .number n => .ok n.text
  | v => readText v

end RuleSchema
