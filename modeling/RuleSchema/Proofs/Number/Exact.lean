import RuleSchema.Number.Basic

/-!
# The exact value of a number

The places of two numbers are compared in units.  Here a number gets its value as a number
of units, which is the same for a whole number and a double of that value, and the
comparisons are those of the values.

* `Number.units?` is the value; the undefined double and the infinite ones have none.
* `equals_eq`, `less_eq` and `atMost_eq` are the comparisons of numbers that have values.
* `Number.isIntegral` says that a value is a whole number of ones.
-/

namespace RuleSchema

theorem unitsPerOne_pos : 0 < unitsPerOne := by decide +kernel

namespace Number

/-- The exact value, in units. -/
def units? : Number → Option Int
  | .int n => some (n * unitsPerOne)
  | .float x => x.units?

/-- Whether a number is a whole number of ones. -/
def isIntegral (n : Number) : Bool :=
  match n.units? with
  | some u => u % unitsPerOne == 0
  | none => false

variable {a b : Number} {x y : Int}

/-- A number that has a value lies there. -/
theorem position_of_units (h : a.units? = some x) : a.position? = some (.at x) := by
  cases a with
  | int n => cases h; rfl
  | float f =>
    cases f with
    | nan => cases h
    | infinite negative => cases h
    | finite negative m => cases negative <;> cases h <;> rfl

/-- The order of two numbers is that of their values. -/
theorem order_of_units (ha : a.units? = some x) (hb : b.units? = some y) :
    order? a b = some (if x < y then .lt else if x = y then .eq else .gt) := by
  rw [order?, position_of_units ha, position_of_units hb]
  rfl

theorem equals_eq (ha : a.units? = some x) (hb : b.units? = some y) :
    a.equals b = decide (x = y) := by
  rw [equals, order_of_units ha hb]
  rcases Int.lt_trichotomy x y with h | h | h
  · rw [if_pos h, decide_eq_false (Int.ne_of_lt h)]; rfl
  · rw [if_neg (Int.not_lt.mpr (Int.le_of_eq h.symm)), if_pos h, decide_eq_true h]; rfl
  · rw [if_neg (Int.not_lt.mpr (Int.le_of_lt h)), if_neg (Int.ne_of_gt h),
      decide_eq_false (Int.ne_of_gt h)]; rfl

theorem less_eq (ha : a.units? = some x) (hb : b.units? = some y) :
    a.less b = decide (x < y) := by
  rw [less, order_of_units ha hb]
  by_cases h : x < y
  · rw [if_pos h, decide_eq_true h]; rfl
  · rw [if_neg h, decide_eq_false h]
    by_cases heq : x = y
    · rw [if_pos heq]; rfl
    · rw [if_neg heq]; rfl

theorem atMost_eq (ha : a.units? = some x) (hb : b.units? = some y) :
    a.atMost b = decide (x ≤ y) := by
  rw [atMost, less_eq ha hb, equals_eq ha hb, ← Bool.decide_or]
  exact decide_eq_decide.mpr Int.le_iff_lt_or_eq.symm

/-- Whole numbers are equal as numbers only if they are. -/
theorem int_equals (m n : Int) : (Number.int m).equals (.int n) = decide (m = n) := by
  have hne : (unitsPerOne : Int) ≠ 0 := Int.natCast_ne_zero.mpr (Nat.ne_of_gt unitsPerOne_pos)
  rw [equals_eq rfl rfl]
  exact decide_eq_decide.mpr (Int.mul_eq_mul_right_iff hne)

theorem int_isIntegral (n : Int) : (Number.int n).isIntegral = true :=
  beq_iff_eq.mpr (Int.mul_emod_left n unitsPerOne)

end Number

end RuleSchema
