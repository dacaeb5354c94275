import RuleSchema.Number.Binary64

/-!
# Numbers

A number is a whole number of any size or a double.  The two kinds are compared by their exact
values, so that `9007199254740993` lies above the double `9007199254740992.0`, which is the
nearest one to it.  Nothing is comparable to the undefined double, itself included.
-/

namespace RuleSchema

/-- A whole number of any size or a double. -/
inductive Number where
  | int (n : Int)
  | float (x : Binary64)
deriving DecidableEq

/-- Where a number lies on the extended line, in units. -/
inductive Position where
  | below
  | at (units : Int)
  | above
deriving DecidableEq

namespace Position

/-- The order of the extended line. -/
def order : Position → Position → Ordering
  | .below, .below => .eq
  | .below, _ => .lt
  | .above, .above => .eq
  | .above, _ => .gt
  | .at _, .below => .gt
  | .at _, .above => .lt
  | .at a, .at b => if a < b then .lt else if a = b then .eq else .gt

end Position

namespace Number

/-- The place of a number on the extended line; the undefined double has none. -/
def position? : Number → Option Position
  | .int n => some (.at (n * unitsPerOne))
  | .float .nan => none
  | .float (.infinite true) => some .below
  | .float (.infinite false) => some .above
  | .float (.finite true m) => some (.at (-m.units))
  | .float (.finite false m) => some (.at m.units)

/-- How two numbers compare by value, if they do. -/
def order? (a b : Number) : Option Ordering :=
  match a.position?, b.position? with
  | some p, some q => some (p.order q)
  | _, _ => none

def equals (a b : Number) : Bool := order? a b == some .eq

def less (a b : Number) : Bool := order? a b == some .lt

def atMost (a b : Number) : Bool := a.less b || a.equals b

/-- Whether a number is zero. -/
def isZero (a : Number) : Bool := a.equals (.int 0)

end Number

end RuleSchema
