import RuleSchema.Number.Binary64

/-!
# Shortest decimals

The shortest decimal of a double: among the decimals with the fewest digits that are rounded to
it, the nearest one.

The reals rounded to a magnitude form an interval around it, its ends included when the
significand is even.  On the decimal grid with `k` significant digits only the two neighbours of
the value can lie in the interval before any other grid point does, so the grids are tried in
turn for `k = 1, 2, …, 17`, and seventeen digits always suffice.
-/

namespace RuleSchema

/-- `digits * 10 ^ exponent`, the last digit not zero. -/
structure Decimal where
  digits : Nat
  exponent : Int
deriving DecidableEq

/-- The interval of reals that are rounded to a magnitude, in quarters of `2 ^ exponent` units. -/
structure RoundingInterval where
  low : Nat
  value : Nat
  high : Nat
  closed : Bool

namespace Magnitude

/-- The interval that is rounded to `m`.  Below a power of two the lower neighbour is nearer. -/
def interval (m : Magnitude) : RoundingInterval where
  low := if m.significand = 1 <<< 52 ∧ 0 < m.exponent then 4 * m.significand - 1
    else 4 * m.significand - 2
  value := 4 * m.significand
  high := 4 * m.significand + 2
  closed := m.significand % 2 = 0

end Magnitude

namespace Decimal

/-- Moves trailing zeros of the digits into the exponent. -/
def normalize (fuel : Nat) (d : Decimal) : Decimal :=
  match fuel with
  | 0 => d
  | fuel + 1 =>
    if d.digits ≠ 0 ∧ d.digits % 10 = 0 then normalize fuel ⟨d.digits / 10, d.exponent + 1⟩ else d

/-- The numerator and denominator of `10 ^ p`. -/
def powerOfTen (p : Int) : Nat × Nat :=
  if 0 ≤ p then (Nat.pow 10 p.toNat, 1) else (1, Nat.pow 10 (-p).toNat)

/-- The quarter of `2 ^ m.exponent` units as a fraction. -/
def quarter (m : Magnitude) : Nat × Nat := (1 <<< m.exponent, 4 * unitsPerOne)

/-- Whether `n * 10 ^ p` lies in the interval of `m`. -/
def inInterval (m : Magnitude) (n : Nat) (p : Int) : Bool :=
  let (tn, td) := powerOfTen p
  let (qn, qd) := quarter m
  let point := n * tn * qd
  let lower := m.interval.low * qn * td
  let upper := m.interval.high * qn * td
  if m.interval.closed then lower ≤ point && point ≤ upper else lower < point && point < upper

/-- The neighbour of `m` on the grid of multiples of `10 ^ p` that is rounded to `m`, the nearer
one if both are. -/
def onGrid? (m : Magnitude) (p : Int) : Option Nat :=
  let (tn, td) := powerOfTen p
  let (qn, qd) := quarter m
  let num := m.interval.value * qn * td
  let den := qd * tn
  let below := num / den
  match inInterval m below p, inInterval m (below + 1) p with
  | true, true => some (roundQuotient num den)
  | true, false => some below
  | false, true => some (below + 1)
  | false, false => none

/-- The exponent of the leading digit of `m`: `10 ^ t ≤ m < 10 ^ (t + 1)`. -/
def leadingExponent (m : Magnitude) : Int :=
  let scaled := m.units * Nat.pow 10 400 / unitsPerOne
  (Binary64.digitCount scaled : Int) - 401

/-- Tries the grids of `k, k + 1, …` significant digits. -/
def search (m : Magnitude) (t : Int) (k : Nat) : Nat → Decimal
  | 0 => ⟨0, 0⟩
  | fuel + 1 =>
    let p := t - k + 1
    match onGrid? m p with
    | some n => normalize 20 ⟨n, p⟩
    | none => search m t (k + 1) fuel

/-- The shortest decimal that is rounded to `m`. -/
def shortest (m : Magnitude) : Decimal :=
  if m.significand = 0 then ⟨0, 0⟩ else search m (leadingExponent m) 1 17

end Decimal

end RuleSchema
