import RuleSchema.Text.Search

/-!
# Labels in ASCII

A label in any script can be written in ASCII.  Its characters in ASCII come first.  After a hyphen
follow numbers that say where the other characters are put in, in ascending order: each number
counts the places that are passed over since the last one, for every code point in between.  The
digits of a number carry less the more the numbers before have been small.

* `Punycode.encode` writes a label, `Punycode.decode?` reads one.
-/

namespace RuleSchema.Punycode

/-! ## Digits -/

/-- The digit of a value below 36: a letter, or from 26 on a decimal digit. -/
def digitChar (d : Nat) : Char := Char.ofNat (if d < 26 then d + 97 else d + 22)

/-- The value of a digit. -/
def digitValue? (c : Char) : Option Nat :=
  if 'a' ≤ c && c ≤ 'z' then some (c.toNat - 97)
  else if 'A' ≤ c && c ≤ 'Z' then some (c.toNat - 65)
  else if c.isDigit then some (c.toNat - 22)
  else none

theorem digitValue?_digitChar {d : Nat} (h : d < 36) : digitValue? (digitChar d) = some d := by
  have all : ∀ e ∈ List.range 36, digitValue? (digitChar e) = some e := by decide
  exact all d (List.mem_range.2 h)

/-- The digits below this value end a number; `k` grows by 36 from digit to digit. -/
def threshold (k bias : Nat) : Nat := min 26 (max 1 (k - bias))

theorem one_le_threshold (k bias : Nat) : 1 ≤ threshold k bias := by unfold threshold; omega

theorem threshold_le (k bias : Nat) : threshold k bias ≤ 26 := by unfold threshold; omega

/-- The bias for numbers of a size. -/
def settle (size k : Nat) : Nat :=
  if 455 < size then settle (size / 35) (k + 36) else k + 36 * size / (size + 38)
termination_by size
decreasing_by exact Nat.div_lt_self (by omega) (by omega)

/-- The bias after a number, given how many characters there are then. -/
def adapt (number count : Nat) (first : Bool) : Nat :=
  let size := if first then number / 700 else number / 2
  settle (size + size / count) 0

/-- The first bias. -/
def firstBias : Nat := 72

/-- The first code point outside ASCII. -/
def firstPoint : Nat := 128

/-! ## Writing -/

/-- The digits of a number. -/
def numberDigits (bias k n : Nat) : List Char :=
  let t := threshold k bias
  if n < t then [digitChar n]
  else digitChar (t + (n - t) % (36 - t)) :: numberDigits bias (k + 36) ((n - t) / (36 - t))
termination_by n
decreasing_by
  have h := one_le_threshold k bias
  exact Nat.lt_of_le_of_lt (Nat.div_le_self _ _) (by omega)

/-- A label that is being written. -/
structure Encoder where
  digits : List Char := []
  /-- The number that counts the places passed over. -/
  number : Nat := 0
  bias : Nat := firstBias
  /-- How many characters are written. -/
  count : Nat

/-- Passes over a place, or writes the character there if it is the one of code point `n`. -/
def Encoder.visit (basic n : Nat) (e : Encoder) (c : Char) : Encoder :=
  if c.toNat < n then { e with number := e.number + 1 }
  else if c.toNat = n then
    { digits := e.digits ++ numberDigits e.bias 36 e.number
      number := 0
      bias := adapt e.number (e.count + 1) (e.count = basic)
      count := e.count + 1 }
  else e

/-- Writes the characters of ascending code points; all below `next` are written. -/
def Encoder.write (label : List Char) (basic next : Nat) (e : Encoder) : List Nat → Encoder
  | [] => e
  | n :: ns =>
    let e := { e with number := e.number + (n - next) * (e.count + 1) }
    let e := label.foldl (Encoder.visit basic n) e
    write label basic (n + 1) { e with number := e.number + 1 } ns

/-- The characters of a text that are in ASCII. -/
def asciiPart (s : List Char) : List Char := s.filter fun c => c.toNat < firstPoint

/-- The other code points of a text, ascending, each once. -/
def otherPoints (s : List Char) : List Nat :=
  (((s.filter fun c => firstPoint ≤ c.toNat).map Char.toNat).eraseDups).mergeSort (· ≤ ·)

/-- A label in ASCII. -/
def encode (s : List Char) : List Char :=
  let basic := asciiPart s
  let e := Encoder.write s basic.length firstPoint { count := basic.length } (otherPoints s)
  (if basic.isEmpty then [] else basic ++ ['-']) ++ e.digits

/-! ## Reading -/

/-- A label that is being read. -/
structure Decoder where
  label : List Char
  point : Nat := firstPoint
  bias : Nat := firstBias
  /-- The place after the last character that was put in. -/
  place : Nat := 0
  /-- What has been read of a number, and what its next digit stands for. -/
  number : Nat := 0
  weight : Nat := 1
  k : Nat := 36

/-- Reads a digit.  One that ends a number puts a character in. -/
def Decoder.read (d : Decoder) (c : Char) : Option Decoder := do
  let digit ← digitValue? c
  let number := d.number + digit * d.weight
  let t := threshold d.k d.bias
  if digit < t then
    let count := d.label.length + 1
    let point := d.point + (d.place + number) / count
    let place := (d.place + number) % count
    if point.isValidChar then
      return {
        label := d.label.insertIdx place (Char.ofNat point), point
        bias := adapt number count (d.place = 0), place := place + 1 }
    else none
  else return { d with number, weight := d.weight * (36 - t), k := d.k + 36 }

/-- What stands before the last hyphen, and the digits after it.  A hyphen with nothing before it
counts as a digit, and is none. -/
def cut (s : List Char) : List Char × List Char :=
  let digits := (s.reverse.takeWhile (· ≠ '-')).reverse
  let basic := s.take (s.length - digits.length - 1)
  if basic.isEmpty then ([], s) else (basic, digits)

/-- The label that is written in ASCII as `s`, if any is. -/
def decode? (s : List Char) : Option (List Char) := do
  let (label, digits) := cut s
  let d ← digits.foldlM Decoder.read { label }
  if d.k = 36 then return d.label else none

end RuleSchema.Punycode
