import RuleSchema.Text.Search

/-!
# Addresses of hosts

A host may be written as a number in one to four parts, each in decimal, octal or hexadecimal
digits, or as eight groups of hexadecimal digits, a run of which may be left out.

* `Ipv4.endsInNumber` says which names of hosts have to be numbers, and `Ipv4.isAddress` which are.
* `Ipv6.isAddress` recognises an address in groups.
-/

namespace RuleSchema

namespace Ipv4

/-- Whether a character is a digit of a base up to 16. -/
def isDigitOf (base : Nat) (c : Char) : Bool :=
  if base = 16 then c.isDigit || ('a' ≤ c && c ≤ 'f') || ('A' ≤ c && c ≤ 'F')
  else c.isDigit && c.toNat - 48 < base

/-- The value of a digit. -/
def digitValue (c : Char) : Nat :=
  if c.isDigit then c.toNat - 48 else (c.toNat % 32) + 9

/-- The base of a numeral, and its digits. -/
def baseAndDigits : List Char → Nat × List Char
  | '0' :: 'x' :: rest | '0' :: 'X' :: rest => (16, rest)
  | '0' :: c :: rest => (8, c :: rest)
  | s => (10, s)

/-- The value of a part of an address. -/
def part? (s : List Char) : Option Nat :=
  if s.isEmpty then none
  else
    let (base, digits) := baseAndDigits s
    if digits.all (isDigitOf base) then
      some (digits.foldl (fun n c => n * base + digitValue c) 0)
    else none

/-- The parts of a name; a point at its end is ignored. -/
def parts (s : List Char) : List (List Char) :=
  let pieces := Text.splitOn '.' s
  if pieces.getLast? = some [] then pieces.dropLast else pieces

/-- Whether the last part of a name is a number, so that the whole has to be an address. -/
def endsInNumber (s : List Char) : Bool :=
  match (parts s).getLast? with
  | none => false
  | some last => (!last.isEmpty && last.all Char.isDigit) || (part? last).isSome

/-- Whether a name is an address: up to four numbers, of which the last fills what the others
leave. -/
def isAddress (s : List Char) : Bool :=
  let numbers := (parts s).map part?
  numbers.length ≤ 4 &&
    match numbers.reverse with
    | some last :: others =>
      last < 1 <<< (8 * (4 - others.length)) && others.all fun n =>
        match n with
        | some n => n ≤ 255
        | none => false
    | _ => false

/-- Whether a text is a number up to 255 without leading zeros. -/
def isOctet (s : List Char) : Bool :=
  !s.isEmpty && s.all Char.isDigit && (s.length = 1 || s.head? != some '0') &&
    s.length ≤ 3 && s.foldl (fun n c => n * 10 + digitValue c) 0 ≤ 255

/-- Whether a text is an address in its usual form, four decimal numbers. -/
def isDotted (s : List Char) : Bool :=
  let pieces := Text.splitOn '.' s
  pieces.length = 4 && pieces.all isOctet

end Ipv4

namespace Ipv6

/-- Whether a text is a group. -/
def isGroup (s : List Char) : Bool :=
  !s.isEmpty && s.length ≤ 4 && s.all (Ipv4.isDigitOf 16)

/-- A text cut at the first pair of colons. -/
def cutAtPair : List Char → List Char × Option (List Char)
  | ':' :: ':' :: rest => ([], some rest)
  | c :: rest =>
    let (before, after?) := cutAtPair rest
    (c :: before, after?)
  | [] => ([], none)

/-- The groups between colons, of which an empty text has none. -/
def groups (s : List Char) : List (List Char) :=
  if s.isEmpty then [] else Text.splitOn ':' s

/-- How many groups some pieces stand for; the last may be four decimal numbers, for two groups. -/
def groupCount? : List (List Char) → Option Nat
  | [] => some 0
  | [s] => if isGroup s then some 1 else if Ipv4.isDotted s then some 2 else none
  | s :: rest => if isGroup s then (groupCount? rest).map (· + 1) else none

/-- Whether a text is an address: eight groups, or fewer with one pair of colons for the rest. -/
def isAddress (s : List Char) : Bool :=
  match cutAtPair s with
  | (_, none) => groupCount? (groups s) = some 8
  | (left, some right) =>
    (groups left).all isGroup &&
      match groupCount? (groups right) with
      | some n => (groups left).length + n ≤ 7
      | none => false

end Ipv6

end RuleSchema
