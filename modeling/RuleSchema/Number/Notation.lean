import RuleSchema.Number.Basic
import RuleSchema.Number.Shortest

/-!
# The text of a number

A whole number is written in decimal.  A double is written with its shortest digits, positionally
when its leading digit stands between the fourth place after the point and the sixteenth before
it, and with an exponent otherwise; a whole double keeps one zero after the point.

A double may also be written with a number of digits that is asked for, its exact value rounded to
them, a tie to the even digit: with so many places after the point, with so many significant digits
and a power of ten, or in whichever of the two forms suits its size.

* `FloatNotation.text` and `Number.text` write numbers with their shortest digits.
* `PlaceNotation` names the three other forms, and `PlaceNotation.text` writes a magnitude in one.
-/

namespace RuleSchema

/-- How doubles are written. -/
structure FloatNotation where
  /-- The least exponent of the leading digit written positionally. -/
  leastPositional : Int
  /-- The least exponent written with an exponent mark again. -/
  endPositional : Int
  /-- The least number of digits of an exponent. -/
  exponentWidth : Nat
  nanText : String
  infinityText : String

/-- The notation of numbers in messages and texts. -/
def plainNotation : FloatNotation := ⟨-4, 16, 2, "nan", "inf"⟩

/-- The notation of numbers in JSON documents. -/
def jsonNotation : FloatNotation := ⟨-4, 16, 2, "NaN", "Infinity"⟩

namespace FloatNotation

/-- A list of zeros. -/
def zeros (n : Int) : String := String.ofList (List.replicate n.toNat '0')

/-- Fills a numeral with zeros in front. -/
def padDigits (width : Nat) (s : String) : String := zeros (width - s.length : Nat) ++ s

/-- The text of a decimal with digits `ds`, the last of which has the weight `10 ^ exponent`. -/
def decimalText (f : FloatNotation) (ds : List Char) (exponent : Int) : String :=
  let lead : Int := exponent + ds.length - 1
  if f.leastPositional ≤ lead ∧ lead < f.endPositional then
    if 0 ≤ exponent then String.ofList ds ++ zeros exponent ++ ".0"
    else if 0 ≤ lead then
      String.ofList (ds.take (lead.toNat + 1)) ++ "." ++ String.ofList (ds.drop (lead.toNat + 1))
    else "0." ++ zeros (-lead - 1) ++ String.ofList ds
  else
    let mantissa := match ds with
      | [d] => String.singleton d
      | d :: rest => String.singleton d ++ "." ++ String.ofList rest
      | [] => "0"
    mantissa ++ "e" ++ (if lead < 0 then "-" else "+") ++
      padDigits f.exponentWidth (toString lead.natAbs)

/-- The text of a double. -/
def text (f : FloatNotation) : Binary64 → String
  | .nan => f.nanText
  | .infinite negative => (if negative then "-" else "") ++ f.infinityText
  | .finite negative m =>
    let d := Decimal.shortest m
    (if negative then "-" else "") ++ f.decimalText (Nat.toDigits 10 d.digits) d.exponent

end FloatNotation

/-- The text of a double in messages. -/
def Binary64.text (x : Binary64) : String := plainNotation.text x

/-- The text of a number in messages. -/
def Number.text : Number → String
  | .int n => toString n
  | .float x => x.text

/-! ## A given number of digits -/

/-- How a double is written with a given number of digits. -/
inductive PlaceNotation where
  /-- With so many places after the point. -/
  | fixed
  /-- With a power of ten, and so many places after the point. -/
  | scientific
  /-- With so many significant digits. -/
  | general
deriving DecidableEq

/-- The digits of a number, at least `width` of them. -/
def digitsPadded (width n : Nat) : List Char :=
  let ds := Nat.toDigits 10 n
  List.replicate (width - ds.length) '0' ++ ds

namespace Magnitude

/-- The first `k` digits of a magnitude after rounding, and the exponent of the first. -/
def significant (m : Magnitude) (k : Nat) : List Char × Int :=
  if m.significand = 0 then (List.replicate k '0', 0)
  else
    let t := Decimal.leadingExponent m
    let (num, den) := Decimal.powerOfTen (k - 1 - t)
    let n := roundQuotient (m.units * num) (unitsPerOne * den)
    if n = Nat.pow 10 k then (digitsPadded k (Nat.pow 10 (k - 1)), t + 1) else (digitsPadded k n, t)

end Magnitude

namespace PlaceNotation

/-- Digits with a point after some of them; a point at the end is left out unless `keepPoint`. -/
def pointed (whole fraction : List Char) (keepPoint : Bool) : List Char :=
  if fraction.isEmpty && !keepPoint then whole else whole ++ '.' :: fraction

/-- Digits without the zeros at their end. -/
def withoutZeros (ds : List Char) : List Char := (ds.reverse.dropWhile (· = '0')).reverse

/-- A power of ten. -/
def powerText (exponent : Int) : List Char :=
  'e' :: (if exponent < 0 then '-' else '+') :: digitsPadded 2 exponent.natAbs

/-- A magnitude with so many places after the point. -/
def fixedText (m : Magnitude) (places : Nat) (keepPoint : Bool) : List Char :=
  let ds := digitsPadded (places + 1) (roundQuotient (m.units * Nat.pow 10 places) unitsPerOne)
  let whole := ds.length - places
  pointed (ds.take whole) (ds.drop whole) keepPoint

/-- A magnitude with a power of ten and so many places after the point. -/
def scientificText (m : Magnitude) (places : Nat) (keepPoint : Bool) : List Char :=
  let (ds, exponent) := m.significant (places + 1)
  pointed (ds.take 1) (ds.drop 1) keepPoint ++ powerText exponent

/-- A magnitude with so many significant digits.  The zeros at the end are left out unless
`keepZeros`. -/
def generalText (m : Magnitude) (digits : Nat) (keepZeros : Bool) : List Char :=
  let k := max digits 1
  let (ds, exponent) := m.significant k
  let trimmed (fraction : List Char) : List Char :=
    if keepZeros then fraction else withoutZeros fraction
  if exponent < -4 ∨ (k : Int) ≤ exponent then
    pointed (ds.take 1) (trimmed (ds.drop 1)) keepZeros ++ powerText exponent
  else if 0 ≤ exponent then
    let whole := exponent.toNat + 1
    pointed (ds.take whole) (trimmed (ds.drop whole)) keepZeros
  else
    pointed ['0'] (trimmed (List.replicate (-exponent - 1).toNat '0' ++ ds)) keepZeros

/-- A magnitude in a notation.  The alternate form keeps the point and the zeros at the end. -/
def text (n : PlaceNotation) (m : Magnitude) (digits : Nat) (alternate : Bool) : List Char :=
  match n with
  | .fixed => fixedText m digits alternate
  | .scientific => scientificText m digits alternate
  | .general => generalText m digits alternate

end PlaceNotation

end RuleSchema
