import RuleSchema.Fault
import RuleSchema.Number.Numeral
import RuleSchema.Text.Search
import RuleSchema.Value.Entries

/-!
# Reading JSON documents

A document is read from left to right.  The entries of an object stay in their order, a repeated
key keeps its first place and takes its last value, whole numbers have any size, and the three
special numbers are admitted.

* `Json.read` reads a whole text.
* `JsonError.message` says what was expected and where.
-/

namespace RuleSchema

/-- What is wrong with a document. -/
inductive JsonProblem where
  | byteOrderMark
  | expectingValue
  | expectingName
  | expectingColon
  | expectingComma
  | unterminatedText
  | controlCharacter
  | badEscape
  | badUnicodeEscape
  | extraData
  | numeralTooLong (digits : Nat)
deriving DecidableEq

/-- What is wrong with a document, and how many characters were left there. -/
structure JsonError where
  problem : JsonProblem
  left : Nat
deriving DecidableEq

namespace JsonProblem

/-- The words for a problem. -/
def text : JsonProblem → String
  | .byteOrderMark => "Unexpected UTF-8 BOM (decode using utf-8-sig)"
  | .expectingValue => "Expecting value"
  | .expectingName => "Expecting property name enclosed in double quotes"
  | .expectingColon => "Expecting ':' delimiter"
  | .expectingComma => "Expecting ',' delimiter"
  | .unterminatedText => "Unterminated string starting at"
  | .controlCharacter => "Invalid control character at"
  | .badEscape => "Invalid \\escape"
  | .badUnicodeEscape => "Invalid \\uXXXX escape"
  | .extraData => "Extra data"
  | .numeralTooLong digits => (Fault.numeralTooLong digits).message

end JsonProblem

/-- The message for a problem in a document, with its line, column and position. -/
def JsonError.message (e : JsonError) (document : String) : String :=
  let s := document.toList
  let position := s.length - e.left
  let lines := Text.splitOn '\n' (s.take position)
  let column := (lines.getLast?.map List.length).getD 0 + 1
  e.problem.text ++ ": line " ++ toString lines.length ++ " column " ++ toString column ++
    " (char " ++ toString position ++ ")"

namespace Json

/-- A problem where `s` is left. -/
def problemAt {α : Type} (p : JsonProblem) (s : List Char) : Except JsonError α :=
  .error ⟨p, s.length⟩

/-- The blanks of a document. -/
def isSpace (c : Char) : Bool := c = ' ' || c = '\t' || c = '\n' || c = '\r'

/-- The text after its blanks. -/
def skipSpace (s : List Char) : List Char := s.dropWhile isSpace

/-! ## Texts -/

/-- The value of a hexadecimal digit. -/
def hexValue? (c : Char) : Option Nat :=
  let n := c.toNat
  if 48 ≤ n && n ≤ 57 then some (n - 48)
  else if 97 ≤ n && n ≤ 102 then some (n - 87)
  else if 65 ≤ n && n ≤ 70 then some (n - 55)
  else none

/-- The value of four hexadecimal digits at the start of a text. -/
def fourDigits? : List Char → Option Nat
  | a :: b :: c :: d :: _ => do
    let a ← hexValue? a
    let b ← hexValue? b
    let c ← hexValue? c
    let d ← hexValue? d
    return ((a * 16 + b) * 16 + c) * 16 + d
  | _ => none

/-- The character meant by a letter after a backslash. -/
def escaped? : Char → Option Char
  | '"' => some '"'
  | '\\' => some '\\'
  | '/' => some '/'
  | 'b' => some '\x08'
  | 'f' => some '\x0c'
  | 'n' => some '\n'
  | 'r' => some '\r'
  | 't' => some '\t'
  | _ => none

/-- The character of a code unit, or of a pair of units when the text goes on with the second, and
how many characters of the text belong to it. -/
def unitChar (unit : Nat) (rest : List Char) : Char × Nat :=
  let second? := match rest with
    | '\\' :: 'u' :: more =>
      if more.length ≤ 4 then none
      else (fourDigits? more).filter fun n => 0xDC00 ≤ n && n ≤ 0xDFFF
    | _ => none
  if 0xD800 ≤ unit && unit ≤ 0xDBFF then
    match second? with
    | some second => (Char.ofNat (0x10000 + (unit - 0xD800) * 0x400 + (second - 0xDC00)), 6)
    | none => ('\ufffd', 0)
  else if 0xDC00 ≤ unit && unit ≤ 0xDFFF then ('\ufffd', 0)
  else (Char.ofNat unit, 0)

/-- Reads a text after its opening quote; `opened` characters were left at the quote. -/
def readText (opened : Nat) : Nat → List Char → Except JsonError (List Char × List Char)
  | 0, _ => .error ⟨.unterminatedText, opened⟩
  | _, [] => .error ⟨.unterminatedText, opened⟩
  | _, '"' :: s => .ok ([], s)
  | _, ['\\'] => .error ⟨.unterminatedText, opened⟩
  | fuel + 1, '\\' :: 'u' :: s =>
    if s.length ≤ 4 then problemAt .badUnicodeEscape ('u' :: s)
    else
      match fourDigits? s with
      | none => problemAt .badUnicodeEscape ('u' :: s)
      | some unit => do
        let (c, more) := unitChar unit (s.drop 4)
        let (cs, rest) ← readText opened fuel (s.drop (4 + more))
        return (c :: cs, rest)
  | fuel + 1, '\\' :: e :: s =>
    match escaped? e with
    | none => problemAt .badEscape ('\\' :: e :: s)
    | some c => do
      let (cs, rest) ← readText opened fuel s
      return (c :: cs, rest)
  | fuel + 1, c :: s =>
    if c.toNat < 32 then problemAt .controlCharacter (c :: s)
    else do
      let (cs, rest) ← readText opened fuel s
      return (c :: cs, rest)

/-! ## Numbers -/

/-- The exponent at the start of a text, if there is one. -/
def exponent? (s : List Char) : Option (Int × List Char) :=
  match s with
  | e :: s =>
    if e = 'e' || e = 'E' then
      let (negative, s) := Numeral.takeSign s
      match Numeral.takeDigits Numeral.asciiDigit? s with
      | ([], _) => none
      | (ds, rest) =>
        let n : Int := Numeral.digitsValue ds
        some (if negative then -n else n, rest)
    else none
  | [] => none

/-- The digits after a point at the start of a text, if there are any. -/
def fraction? (s : List Char) : Option (List Nat × List Char) :=
  match s with
  | '.' :: s =>
    match Numeral.takeDigits Numeral.asciiDigit? s with
    | ([], _) => none
    | r => some r
  | _ => none

/-- Reads a number. -/
def readNumber (s : List Char) : Except JsonError (Value × List Char) :=
  let (negative, t) := match s with
    | '-' :: t => (true, t)
    | t => (false, t)
  let (whole, rest) := match t with
    | '0' :: rest => ([0], rest)
    | t => Numeral.takeDigits Numeral.asciiDigit? t
  if whole.isEmpty then problemAt .expectingValue s
  else
    let (fraction, afterPoint) := (fraction? rest).getD ([], rest)
    let (exponent, afterAll) := (exponent? afterPoint).getD (0, afterPoint)
    if afterAll.length = rest.length then
      if digitLimit < whole.length then problemAt (.numeralTooLong whole.length) s
      else
        let n : Int := Numeral.digitsValue whole
        .ok (.int (if negative then -n else n), rest)
    else .ok (.float (Numeral.toBinary64 ⟨negative, whole, fraction, exponent⟩), afterAll)

/-- The values that are written as words. -/
def words : List (String × Value) :=
  [("null", .null), ("true", .bool true), ("false", .bool false), ("NaN", .float .nan),
    ("Infinity", .float (.infinite false)), ("-Infinity", .float (.infinite true))]

/-- Reads a word or a number. -/
def readScalar (s : List Char) : Except JsonError (Value × List Char) :=
  match words.findSome? fun w => (Text.after? w.1.toList s).map fun rest => (w.2, rest) with
  | some r => .ok r
  | none => readNumber s

/-! ## Documents -/

mutual

/-- Reads a value. -/
def readValue : Nat → List Char → Except JsonError (Value × List Char)
  | 0, s => problemAt .expectingValue s
  | fuel + 1, s =>
    match s with
    | '"' :: rest => do
      let (cs, rest) ← readText s.length (rest.length + 1) rest
      return (.text (String.ofList cs), rest)
    | '[' :: rest =>
      match skipSpace rest with
      | ']' :: rest => .ok (.list [], rest)
      | rest => do
        let (xs, rest) ← readItems fuel rest
        return (.list xs, rest)
    | '\x7b' :: rest =>
      match skipSpace rest with
      | '\x7d' :: rest => .ok (.mapping [], rest)
      | rest => do
        let (es, rest) ← readEntries fuel [] rest
        return (.mapping es, rest)
    | s => readScalar s

/-- Reads the items of a list up to its closing bracket. -/
def readItems : Nat → List Char → Except JsonError (List Value × List Char)
  | 0, s => problemAt .expectingValue s
  | fuel + 1, s => do
    let (x, rest) ← readValue fuel s
    match skipSpace rest with
    | ']' :: rest => return ([x], rest)
    | ',' :: rest =>
      let (xs, rest) ← readItems fuel (skipSpace rest)
      return (x :: xs, rest)
    | rest => problemAt .expectingComma rest

/-- Reads the entries of an object up to its closing brace, after those already read. -/
def readEntries :
    Nat → Entries Value → List Char → Except JsonError (Entries Value × List Char)
  | 0, _, s => problemAt .expectingName s
  | fuel + 1, es, s =>
    match s with
    | '"' :: rest => do
      let (name, rest) ← readText s.length (rest.length + 1) rest
      match skipSpace rest with
      | ':' :: rest =>
        let (x, rest) ← readValue fuel (skipSpace rest)
        let es := es.put (.text (String.ofList name)) x
        match skipSpace rest with
        | '\x7d' :: rest => return (es, rest)
        | ',' :: rest => readEntries fuel es (skipSpace rest)
        | rest => problemAt .expectingComma rest
      | rest => problemAt .expectingColon rest
    | s => problemAt .expectingName s

end

/-- Reads a document. -/
def read (document : String) : Except JsonError Value :=
  match document.toList with
  | '\ufeff' :: s => problemAt .byteOrderMark ('\ufeff' :: s)
  | s => do
    let (v, rest) ← readValue (2 * s.length + 2) (skipSpace s)
    match skipSpace rest with
    | [] => return v
    | rest => problemAt .extraData rest

end Json

end RuleSchema
