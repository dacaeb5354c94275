import RuleSchema.Number.Numeral
import RuleSchema.Value.Entries

/-!
# Sameness of values

Rules compare values in two ways.  *Strictly*, values are the same when they are equal and of one
kind, where a whole number and a double count as one kind and a truth value is never a number.
*Loosely*, a number is also the same as a text that reads as that number.

* `Value.same` and `Value.looselySame` are the two relations.
* `Value.isAmong` and `Value.allDifferent` are membership and distinctness up to `Value.same`.
-/

namespace RuleSchema.Value

/-- Whether two values are strictly the same. -/
def same : Value → Value → Bool
  | .bool a, .bool b => a == b
  | .bool _, _ => false
  | _, .bool _ => false
  | .number m, .number n => m.equals n
  | a, b => a.kindName == b.kindName && a.equals b

/-- Whether a text reads as a number equal to `n`. -/
def readsAs (s : String) (n : Number) : Bool :=
  match Numeral.readFloat? (Text.trim s) with
  | some x => (Number.float x).equals n
  | none => false

/-- Whether two values are loosely the same. -/
def looselySame (a b : Value) : Bool :=
  a.same b ||
    match a.number?, b.number?, a.text?, b.text? with
    | some n, _, _, some s => readsAs s n
    | _, some n, some s, _ => readsAs s n
    | _, _, _, _ => false

/-- Whether some value of a list is the same as `v`. -/
def isAmong (xs : List Value) (v : Value) : Bool := xs.any fun x => x.same v

/-- Whether no value of a list is the same as one in `before` or as a later one. -/
def differentFrom (before : List Value) : List Value → Bool
  | [] => true
  | x :: xs => !isAmong before x && differentFrom (before ++ [x]) xs

/-- Whether no two values of a list are the same. -/
def allDifferent (xs : List Value) : Bool := differentFrom [] xs

end RuleSchema.Value
