import RuleSchema.Fault
import RuleSchema.Value.Entries

/-!
# The order of values

Texts are ordered by code point, numbers and truth values by numeric value, instants by the moment
they name, lists and tuples by their first difference.  Values of other or different kinds have no
order, and a list that holds two such values cannot be sorted.

* `Value.less` compares two values.
* `sortKeys` sorts entries by key.
-/

namespace RuleSchema

/-- Whether one instant comes before another. -/
def Instant.less (a b : Instant) : Except Fault Bool :=
  match a.offset?, b.offset? with
  | some x, some y => .ok (a.clockMicroseconds - x < b.clockMicroseconds - y)
  | none, none => .ok (a.clockMicroseconds < b.clockMicroseconds)
  | _, _ => .error .unorderedClocks

mutual

/-- Whether one value comes before another. -/
def Value.less : Value → Value → Except Fault Bool
  | .bool a, .bool b => .ok (!a && b)
  | .bool a, .number n => .ok ((Number.int a.toNat).less n)
  | .number n, .bool b => .ok (n.less (.int b.toNat))
  | .number m, .number n => .ok (m.less n)
  | .text a, .text b => .ok (a < b)
  | .text a, .tag t => .ok (a < t.name)
  | .tag t, .text b => .ok (t.name < b)
  | .tag t, .tag u => .ok (t.name < u.name)
  | .bytes a, .bytes b => .ok (a < b)
  | .list xs, .list ys => Value.lessAll xs ys
  | .tuple xs, .tuple ys => Value.lessAll xs ys
  | .instant a, .instant b => a.less b
  | a, b => .error (.unordered a.kindName b.kindName)
termination_by structural x => x

/-- Whether one list of values comes before another. -/
def Value.lessAll : List Value → List Value → Except Fault Bool
  | [], ys => .ok !ys.isEmpty
  | _ :: _, [] => .ok false
  | x :: xs, y :: ys => if x.equals y then Value.lessAll xs ys else Value.less x y
termination_by structural x => x

end

/-- The fault of the first key that has no order with the one before it. -/
def keyClash? : List Value → Option Fault
  | a :: b :: rest =>
    match Value.less b a with
    | .error fault => some fault
    | .ok _ => keyClash? (b :: rest)
  | _ => none

/-- Whether a key may stand before another in a sorted list. -/
def keyAtMost (a b : Value) : Bool :=
  match Value.less b a with
  | .ok less => !less
  | .error _ => true

/-- Entries sorted by their keys. -/
def sortKeys {α : Type} (es : Entries α) : Except Fault (Entries α) :=
  match keyClash? (es.map Prod.fst) with
  | some fault => .error fault
  | none => .ok (es.mergeSort fun e f => keyAtMost e.1 f.1)

/-- Texts in the order of their code points. -/
def sortTexts (xs : List String) : List String := xs.mergeSort fun a b => !decide (b < a)

end RuleSchema
