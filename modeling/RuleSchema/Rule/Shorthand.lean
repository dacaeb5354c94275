import RuleSchema.Evaluation
import RuleSchema.Number.Numeral
import RuleSchema.Rule.Error
import RuleSchema.Text.Blank
import RuleSchema.Text.Search

/-!
# Shorthand rules

A rule on one line: `type|modifier|name:value`.  The type comes first; after each bar stands a
modifier, which sets a field to true, to false when it starts with `no-`, or to the value after its
colon.  `type[]` is an array of items of the type.

* `Shorthand.parse` reads one into the fields of a rule mapping.
* `Shorthand.readValue` reads the value of a modifier: a truth value, a whole number, a double or a
  text.
-/

namespace RuleSchema.Shorthand

/-- The value of a modifier that is written as a numeral. -/
def readNumeral? (s : List Char) : Except Fault (Option Value) :=
  let (negative, s) := match s with
    | '-' :: s => (true, s)
    | s => (false, s)
  match Numeral.takeDigits Text.digitValue? s with
  | (d :: ds, []) =>
    if digitLimit < (d :: ds).length then .error (.numeralTooLong (d :: ds).length)
    else
      let n : Int := Numeral.digitsValue (d :: ds)
      .ok (some (.int (if negative then -n else n)))
  | _ =>
    .ok ((Numeral.ofUnsigned? Text.digitValue? negative s).map fun n => .float n.toBinary64)

/-- The value of a modifier. -/
def readValue (s : String) : Except Fault Value :=
  if s = "true" then .ok (.bool true)
  else if s = "false" then .ok (.bool false)
  else do return (← readNumeral? s.toList).getD (.text s)

/-- Whether a name is that of a flag set to false, and which. -/
def negated? (name : String) : Option String :=
  match Text.after? "no-".toList name.toList with
  | some (c :: cs) => some (String.ofList (c :: cs))
  | _ => none

/-- A stretch of characters without blanks at its ends. -/
def trimmed (s : List Char) : String := Text.trim (String.ofList s)

/-- The field that a modifier sets, and its value. -/
def readModifier (path rule segment : String) : Except (Stop RuleError) (String × Value) :=
  if segment = "" then .error (.rejected (.emptyModifier path rule))
  else
    let (before, after) := Text.cutAt ':' segment.toList
    let name := trimmed before
    if name = "" then .error (.rejected (.namelessModifier path rule segment))
    else
      match after with
      | some value =>
        match readValue (trimmed value) with
        | .ok v => .ok (name, v)
        | .error f => .error (.fault f)
      | none =>
        match negated? name with
        | some flag => .ok (flag, .bool false)
        | none => .ok (name, .bool true)

/-- The item type of an array type. -/
def itemType? (type : String) : Option String :=
  match type.toList.reverse with
  | ']' :: '[' :: item => some (String.ofList item.reverse)
  | _ => none

/-- The fields that the type of a rule sets. -/
def readType (path rule type : String) : Except RuleError (Entries Value) :=
  if type = "" then .error (.emptyType path rule)
  else
    match itemType? type with
    | none => .ok [(.text "type", .text type)]
    | some item =>
      if item = "" then .error (.emptyItemType path rule)
      else .ok [(.text "type", .text Tag.array.name), (.text "items", .text item)]

/-- The segments of a rule, without blanks at their ends. -/
def segments (rule : String) : List String := (Text.splitOn '|' rule.toList).map trimmed

/-- Reads a shorthand rule into the fields of a rule mapping. -/
def parse (rule path : String) : Except (Stop RuleError) (Entries Value) :=
  let type := (segments rule).headD ""
  match readType path rule type with
  | .error e => .error (.rejected e)
  | .ok fields =>
    (segments rule).tail.foldlM (fun es segment => do
      let (name, v) ← readModifier path rule segment
      return es.put (.text name) v) fields

end RuleSchema.Shorthand
