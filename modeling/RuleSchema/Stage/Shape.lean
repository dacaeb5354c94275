import RuleSchema.Json.Form
import RuleSchema.Rule.Basic
import RuleSchema.Stage.Basic
import RuleSchema.Rule.Error

/-!
# The shape stage

The first stage of every rule decides what an absent and a null value are, and then checks that the
value is of the declared type.  An absent value is replaced by the default, if there is one, and
passes otherwise when the rule is optional.  A null value passes when the rule is nullable.  Any
other value goes through the check of its type, a default included.

* `StandIn` is what replaces an absent value: a fixed value, or one that is made anew each time.
* `shapeStage` is the stage, after its fixed default has passed the check.
-/

namespace RuleSchema

/-- What replaces an absent value. -/
inductive StandIn where
  | none
  | fixed (v : Value)
  /-- What calling this value answers. -/
  | generated (source : Value)

namespace StandIn

/-- The value that replaces an absent one, if any does. -/
def resolve {ρ : Type} : StandIn → Eval ρ (Option Value)
  | .none => pure Option.none
  | .fixed v => pure (some v)
  | .generated source => do return some (← source.call)

end StandIn

/-- What replaces an absent value: a default that can be called is called, unless it is meant
itself. -/
def CommonOptions.standIn (c : CommonOptions) (isItself : Value → Bool) : StandIn :=
  match c.default? with
  | none => .none
  | some d => if d.isCallable && !isItself d then .generated d else .fixed d

/-- What replaces an absent value under a rule. -/
def Rule.standIn : Rule → StandIn
  | .function c => c.standIn fun _ => true
  | .class c k => c.standIn fun d => d.isInstanceOf k
  | r => r.common.standIn fun _ => false

/-- What a rule asks of the type of a value. -/
structure Shape where
  check : Step
  schema : Schema

/-- A value, or what replaces it if it is absent. -/
def Rule.present {ρ : Type} (r : Rule) (v : Value) : Eval ρ Value :=
  if v.isAbsent then do return (← r.standIn.resolve).getD .absent else pure v

/-- Resolves absent and null values, and checks any other. -/
def runShape (r : Rule) (check : Step) : Step := fun v => do
  let v ← r.present v
  if v.isAbsent then
    if r.common.optional then return .absent else failCheck "required" "Value is required"
  else if v.isNull then
    if r.common.nullable then return .null else failCheck "nullable" "Value must not be null"
  else check v

/-- The default that a schema shows: one that cannot be called and has a form in JSON. -/
def shownDefault? (r : Rule) : Except Fault (Option Value) :=
  match r.common.default? with
  | none => .ok none
  | some d => if d.isCallable then .ok none else d.jsonForm?

/-- The schema of a shape stage. -/
def shapeSchema (r : Rule) (schema : Schema) : Except Fault Schema := do
  let schema ← if r.common.nullable then nullableSchema schema else pure schema
  match ← shownDefault? r with
  | some d => return schema.put (.text "default") d
  | none => return schema

/-- Checks the fixed default of a rule. -/
def checkDefault (r : Rule) (path : String) (check : Step) : Eval RuleError Unit :=
  match r.standIn with
  | .fixed d => do
    let _ ← (check d).mapReason fun e => .defaultMismatch r.tag path e.message d.display
  | _ => pure ()

/-- The shape stage of the rule at `path`. -/
def shapeStage (r : Rule) (path : String) (shape : Shape) : Eval RuleError Stage := do
  checkDefault r path shape.check
  return {
    kind := .shape
    name := r.tag.name ++ ".shape"
    run := runShape r shape.check
    schema := ← Eval.ofFault (shapeSchema r shape.schema) }

end RuleSchema
