import RuleSchema.Rule.Error
import RuleSchema.Rule.Strictness
import RuleSchema.Schema.Merge
import RuleSchema.Stage.Basic

/-!
# Validators

A validator runs the stages of one rule on a value, each on what the one before has given.  The
first rejection ends the run.  So does a shape stage that leaves the value absent or null: nothing
more is asked of such a value.

A mapping is validated property by property.  What becomes of the keys without a validator is up to
the policy for unknown keys: they are kept, dropped, or a reason to reject the mapping.

* `Validator.compose` makes a validator of stages, provided that they stand in order.
* `Validator.validate` runs it, `Validator.trace` shows what each stage gives.
* `Validator.export` is the schema of all stages together.
* `validateProperties` gives the validated mapping: the declared properties in the order of their
  declaration, and after them the unknown ones in the order of the input.
-/

namespace RuleSchema

/-- The stages of one rule, in order. -/
structure Validator where
  tag : Tag
  stages : List Stage
  description? : Option String := none
  /-- Whether an absent value must be rejected. -/
  required : Bool := true

namespace Validator

/-! ## Composition -/

/-- The first stage that stands right after one of a later kind, and that stage. -/
def misplaced? : List Stage → Option (Stage × Stage)
  | a :: b :: rest => if b.kind.rank < a.kind.rank then some (b, a) else misplaced? (b :: rest)
  | _ => none

/-- Makes a validator of stages.  There must be some, the first must be a shape stage, and none
may stand after one of a later kind. -/
def compose (stages : List Stage) (tag : Tag) (description? : Option String) (required : Bool) :
    Except RuleError Validator :=
  match stages with
  | [] => .error (.noStages tag)
  | first :: rest =>
    let names := stages.map Stage.name
    if first.kind ≠ .shape then .error (.shapeNotFirst tag first.kind.name names)
    else
      match misplaced? (first :: rest) with
      | some (s, previous) =>
        .error (.stagesOutOfOrder tag s.name s.kind.name previous.name previous.kind.name names)
      | none => .ok { tag, stages, description?, required }

/-! ## Validation -/

/-- The rejection of a stage as one of the whole value. -/
def located (tag : Tag) (kind : StageKind) : StageRejection → PayloadError
  | .failure message check details =>
    { message, stage := some kind.name, check := some check
      extra := details.foldl (fun es e => es.put e.1 e.2)
        [(.text "rule_type", .text tag.name)] }
  | .inside e => e

/-- Whether nothing is left to check after a stage of this kind has given `v`. -/
def isSettled (kind : StageKind) (v : Value) : Bool := kind = .shape && (v.isAbsent || v.isNull)

/-- Runs stages on a value. -/
def runStages (tag : Tag) : List Stage → Value → Eval PayloadError Value
  | [], v => pure v
  | s :: rest, v => do
    let v ← (s.run v).mapReason (located tag s.kind)
    if isSettled s.kind v then pure v else runStages tag rest v

/-- Runs the stages of a validator on a value. -/
def validate (d : Validator) (v : Value) : Eval PayloadError Value := runStages d.tag d.stages v

/-- Whether a validator accepts a value. -/
def accepts {ρ : Type} (d : Validator) (v : Value) : Eval ρ Bool := do
  match ← (d.validate v).attempt with
  | .ok _ => return true
  | .error _ => return false

/-- What each stage gives, up to the first rejection. -/
def traceStages {ρ : Type} :
    List Stage → Value → Eval ρ (List (String × Except StageRejection Value))
  | [], _ => pure []
  | s :: rest, v => do
    match ← (s.run v).attempt with
    | .error r => return [(s.name, .error r)]
    | .ok v =>
      if isSettled s.kind v then return [(s.name, .ok v)]
      else return (s.name, .ok v) :: (← traceStages rest v)

/-- What each stage of a validator gives, up to the first rejection. -/
def trace {ρ : Type} (d : Validator) (v : Value) :
    Eval ρ (List (String × Except StageRejection Value)) :=
  traceStages d.stages v

/-! ## Export -/

/-- A schema with the description of a validator, if that is not empty. -/
def describe (d : Validator) (schema : Schema) : Schema :=
  match d.description? with
  | some text => if text = "" then schema else schema.put (.text "description") (.text text)
  | none => schema

/-- The schema of all stages together, and the validator after the export. -/
def «export» (d : Validator) : Except Fault (Schema × Validator) := do
  let (schema, fragments) ← joinFragments (d.stages.map Stage.schema)
  let stages := List.zipWith (fun s schema => { s with schema }) d.stages fragments
  return (d.describe schema, { d with stages })

/-- The schema of all stages together. -/
def schema (d : Validator) : Except Fault Schema := d.export.map Prod.fst

end Validator

/-! ## Properties -/

/-- The entries of a mapping whose keys have no validator. -/
def unknownEntries {α : Type} (validators : Entries α) (entries : Entries Value) :
    Entries Value :=
  entries.filter fun e => !validators.hasKey e.1

/-- The rejection of a mapping with unknown keys. -/
def unknownProperties (keys : List Value) : StageRejection :=
  .failure ("Unknown properties are not allowed: " ++
      Text.joinWith ", " (keys.map Value.plainText))
    "object.strict" [(.text "unknown", .list keys)]

/-- Validates the properties that have a validator; those that come out absent are left out. -/
def validateDeclared (entries : Entries Value) :
    Entries Validator → Eval StageRejection (Entries Value)
  | [] => pure []
  | (name, d) :: rest => do
    let v ← (d.validate ((entries.find? name).getD .absent)).mapReason
      fun e => .inside (e.under name)
    let others ← validateDeclared entries rest
    return if v.isAbsent then others else (name, v) :: others

/-- Validates the properties of a mapping. -/
def validateProperties (entries : Entries Value) (validators : Entries Validator)
    (mode : UnknownKeys) : Eval StageRejection (Entries Value) := do
  let unknown := unknownEntries validators entries
  if mode = .reject && !unknown.isEmpty then .reject (unknownProperties unknown.keys)
  else
    let declared ← validateDeclared entries validators
    return if mode = .passthrough then declared ++ unknown else declared

end RuleSchema
