/-!
# Double-precision numbers

The numbers of the binary format with 53 significant bits, as exact values: every finite one is a
whole multiple of `2 ^ -1074`, the *unit* of this module.

* `Binary64.ofFraction` rounds an exact quotient to the nearest number, a tie to the even
  neighbour, and to infinity past the largest number.
* `Binary64.ofDecimal` reads a decimal numeral, `Binary64.ofInt?` a whole number.
* `Binary64.units?` gives the exact value back.
-/

namespace RuleSchema

/-- A finite absolute value, `significand * 2 ^ exponent` units.  The significand is normalised,
so that different magnitudes have different values. -/
structure Magnitude where
  significand : Nat
  exponent : Nat
  significand_lt : significand < 1 <<< 53
  exponent_le : exponent ≤ 2045
  normal : exponent = 0 ∨ 1 <<< 52 ≤ significand
deriving DecidableEq

namespace Magnitude

/-- The value as a number of units. -/
def units (m : Magnitude) : Nat := m.significand <<< m.exponent

/-- The magnitude zero. -/
def zero : Magnitude := ⟨0, 0, by decide, by decide, .inl rfl⟩

end Magnitude

/-- A number of the binary format with 53 significant bits. -/
inductive Binary64 where
  | nan
  | infinite (negative : Bool)
  | finite (negative : Bool) (magnitude : Magnitude)
deriving DecidableEq

/-- How many units make one. -/
def unitsPerOne : Nat := 1 <<< 1074

/-- The whole number nearest to a quotient, the even one of two nearest. -/
def roundQuotient (num den : Nat) : Nat :=
  let q := num / den
  let twice := 2 * (num % den)
  if twice < den then q
  else if den < twice then q + 1
  else if q % 2 = 0 then q else q + 1

namespace Binary64

/-- The number with this significand and exponent, or infinity when the exponent is too large. -/
def pack (negative : Bool) (s e : Nat) : Binary64 :=
  if h : s < 1 <<< 53 ∧ e ≤ 2045 ∧ (e = 0 ∨ 1 <<< 52 ≤ s) then
    .finite negative ⟨s, e, h.1, h.2.1, h.2.2⟩
  else .infinite negative

/-- The number nearest to a quotient of natural numbers. -/
def ofFraction (negative : Bool) (num den : Nat) : Binary64 :=
  let scaled := num * unitsPerOne
  let e := (scaled / den).log2 - 52
  let s := roundQuotient scaled (den <<< e)
  if s = 1 <<< 53 then pack negative (1 <<< 52) (e + 1) else pack negative s e

/-- Zero with a sign. -/
def signedZero (negative : Bool) : Binary64 := .finite negative .zero

/-- The number of decimal digits of a natural number. -/
def digitCount (n : Nat) : Nat := (Nat.toDigits 10 n).length

/-- The number nearest to `digits * 10 ^ exponent`.  Numerals far outside the range of the format
are answered from their size alone. -/
def ofDecimal (negative : Bool) (digits : Nat) (exponent : Int) : Binary64 :=
  if digits = 0 then signedZero negative
  else if exponent + digitCount digits > 310 then .infinite negative
  else if exponent + digitCount digits < -330 then signedZero negative
  else if 0 ≤ exponent then ofFraction negative (digits * Nat.pow 10 exponent.toNat) 1
  else ofFraction negative digits (Nat.pow 10 (-exponent).toNat)

/-- A number, unless it is infinite. -/
def unlessInfinite : Binary64 → Option Binary64
  | .infinite _ => none
  | x => some x

/-- The number nearest to a whole number, unless that is infinite. -/
def ofInt? (n : Int) : Option Binary64 := unlessInfinite (ofFraction (n < 0) n.natAbs 1)

/-- The exact value as a number of units. -/
def units? : Binary64 → Option Int
  | .finite false m => some m.units
  | .finite true m => some (-m.units)
  | _ => none

def isNaN (x : Binary64) : Bool := x == .nan

/-- Whether the number is neither infinite nor undefined. -/
def isFinite : Binary64 → Bool
  | .finite .. => true
  | _ => false

/-- The whole number equal to `x`. -/
def wholeValue? (x : Binary64) : Option Int :=
  match x.units? with
  | some u => if u % unitsPerOne = 0 then some (u / unitsPerOne) else none
  | none => none

theorem units?_isSome (x : Binary64) : x.units?.isSome = x.isFinite := by
  cases x with
  | nan => rfl
  | infinite => rfl
  | finite negative m => cases negative <;> rfl

end Binary64

end RuleSchema
