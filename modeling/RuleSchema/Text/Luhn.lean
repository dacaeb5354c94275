import RuleSchema.Text.Digit

/-!
# The Luhn checksum

A numeral passes when the sum of its digits, every second one from the right doubled and reduced
to the sum of its own digits, is a positive multiple of ten.  All other characters are ignored.
-/

namespace RuleSchema.Text

/-- The contribution of a digit that is doubled. -/
def doubledDigit (d : Nat) : Nat := if d < 5 then 2 * d else 2 * d - 9

/-- The checksum of digits given from the right. -/
def luhnSum (doubled : Bool) : List Nat → Nat
  | [] => 0
  | d :: ds => (if doubled then doubledDigit d else d) + luhnSum (!doubled) ds

/-- The digits of a text. -/
def digitsOf (s : List Char) : List Nat := s.filterMap digitValue?

/-- Whether the digits of a text pass the checksum. -/
def luhnValid (s : String) : Bool :=
  let sum := luhnSum false (digitsOf s.toList).reverse
  sum % 10 == 0 && 0 < sum

end RuleSchema.Text
