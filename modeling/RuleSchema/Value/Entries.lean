import RuleSchema.Value.Basic

/-!
# Equality and the entries of a mapping

Values are equal by content: numbers and truth values by their numeric value, lists item by item,
mappings whatever the order of their entries.  A list never equals a tuple.

The entries of a mapping are a list of pairs with different keys, in the order in which the keys
were first put.

* `Value.equals` is the equality of values.
* `Entries.find?`, `Entries.put`, `Entries.erase` are the operations on entries.
-/

namespace RuleSchema

mutual

/-- Whether two values are equal by content. -/
def Value.equals : Value → Value → Bool
  | .absent, .absent => true
  | .null, .null => true
  | .bool a, .bool b => a == b
  | .bool a, .number n => n.equals (.int a.toNat)
  | .number n, .bool b => n.equals (.int b.toNat)
  | .number m, .number n => m.equals n
  | .text a, .text b => a == b
  | .text a, .tag t => a == t.name
  | .tag t, .text b => t.name == b
  | .tag t, .tag u => t == u
  | .bytes a, .bytes b => a == b
  | .list xs, .list ys => Value.equalsAll xs ys
  | .tuple xs, .tuple ys => Value.equalsAll xs ys
  | .mapping xs, .mapping ys => xs.length == ys.length && Value.equalsWithin xs ys
  | .instant a, .instant b => a.equals b
  | .cls a, .cls b => a == b
  | .object c x, .object d y => c == d && Value.equals x y
  | .func _ a _, .func _ b _ => a == b
  | .pattern a f, .pattern b g => a == b && f == g
  | .rule t xs, .rule u ys => t == u && xs.length == ys.length && Value.equalsWithin xs ys
  | _, _ => false
termination_by structural x => x

/-- Whether two lists of values are equal item by item. -/
def Value.equalsAll : List Value → List Value → Bool
  | [], [] => true
  | x :: xs, y :: ys => Value.equals x y && Value.equalsAll xs ys
  | _, _ => false
termination_by structural x => x

/-- Whether each entry of the first list equals some entry of the second. -/
def Value.equalsWithin : List (Value × Value) → List (Value × Value) → Bool
  | [], _ => true
  | (k, v) :: xs, ys =>
    ys.any (fun e => Value.equals k e.1 && Value.equals v e.2) && Value.equalsWithin xs ys
termination_by structural x => x

end

mutual

/-- The name of the kind of the first part of a value that cannot be part of a key. -/
def Value.unkeyable? : Value → Option String
  | .list _ => some "list"
  | .mapping _ => some "dict"
  | .tuple xs => Value.unkeyableIn? xs
  | .rule _ fields => Value.unkeyableField? fields
  | _ => none
termination_by structural x => x

/-- The first part of some values that cannot be part of a key. -/
def Value.unkeyableIn? : List Value → Option String
  | [] => none
  | x :: xs =>
    match Value.unkeyable? x with
    | some kind => some kind
    | none => Value.unkeyableIn? xs
termination_by structural x => x

/-- The first part of the contents of some fields that cannot be part of a key. -/
def Value.unkeyableField? : List (Value × Value) → Option String
  | [] => none
  | (_, x) :: xs =>
    match Value.unkeyable? x with
    | some kind => some kind
    | none => Value.unkeyableField? xs
termination_by structural x => x

end

/-- The entries of a mapping from values. -/
abbrev Entries (α : Type) := List (Value × α)

namespace Entries

variable {α : Type}

/-- The content under a key. -/
def find? (es : Entries α) (k : Value) : Option α :=
  (List.find? (fun e => k.equals e.1) es).map Prod.snd

/-- The content under a text. -/
def at? (es : Entries α) (k : String) : Option α := es.find? (.text k)

/-- Whether some entry has this key. -/
def hasKey (es : Entries α) (k : Value) : Bool := es.any fun e => k.equals e.1

/-- Puts a content under a key: in the place of an equal key, which stays as it is, or at the
end. -/
def put (es : Entries α) (k : Value) (x : α) : Entries α :=
  match es with
  | [] => [(k, x)]
  | (l, y) :: rest => if k.equals l then (l, x) :: rest else (l, y) :: put rest k x

/-- The entries without a key. -/
def erase (es : Entries α) (k : Value) : Entries α := es.filter fun e => !k.equals e.1

/-- Puts pairs one after the other. -/
def ofPairs (pairs : List (Value × α)) : Entries α :=
  pairs.foldl (fun es e => put es e.1 e.2) []

/-- The keys in order. -/
def keys (es : Entries α) : List Value := es.map Prod.fst

end Entries

end RuleSchema
