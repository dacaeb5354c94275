import RuleSchema.Json.Canonical
import RuleSchema.Signature.Basic

/-!
# The schema of a signature

What a signature admits, as a document for those who call the operation.  The argument of a tool
call is an object.  A signature for an argument of another type is therefore shown as an object
with that argument as its only property.

Exporting a validator may add to its fragments, so each function here gives the signature back as
it is afterwards.

* `Signature.schema` is the schema of the argument, `Signature.inputSchema` the one of a call.
* `Signature.wraps` tells whether the two differ.
* `Signature.asked` and `Signature.described` are the signature after such a use.
-/

namespace RuleSchema

/-- The schema of each validator, and the validators afterwards. -/
def exportEntries : Entries Validator → Except Fault (Entries Value × Entries Validator)
  | [] => .ok ([], [])
  | (name, d) :: ds => do
    let (schema, d) ← d.export
    let (schemas, ds) ← exportEntries ds
    return ((name, .mapping schema) :: schemas, (name, d) :: ds)

/-- The names of the fields that must be present, sorted. -/
def requiredFields (validators : Entries Validator) : Except Fault (List Value) := do
  return Entries.keys (← sortKeys (validators.filter fun e => e.2.required))

/-- The schema of an object with these properties. -/
def fieldsSchema (properties : Entries Value) (required : List Value) (mode : UnknownKeys) :
    Schema :=
  keyword "type" (.text "object") ++ keyword "properties" (.mapping properties) ++
    (if required.isEmpty then [] else keyword "required" (.list required)) ++
    (if mode = .reject then keyword "additionalProperties" (.bool false) else [])

/-- The schema of a call with one argument of some other type. -/
def wrappedSchema (schema : Schema) (required : Bool) : Schema :=
  keyword "type" (.text "object") ++
    keyword "properties" (.mapping (keyword wholeKey (.mapping schema))) ++
    keyword "additionalProperties" (.bool false) ++
    (if required then keyword "required" (.list [.text wholeKey]) else [])

/-- Whether a schema is one of objects alone. -/
def Schema.isObject (schema : Schema) : Bool :=
  match schema.at? "type" with
  | some v => v.equals (.text "object")
  | none => false

namespace Signature

/-- A computation of an export, whose faults stop it. -/
def exporting {α : Type} (x : Except Fault α) : Except (Stop RuleError) α := x.mapError .fault

/-- The schema of the argument. -/
def schema (s : Signature) : Except (Stop RuleError) (Schema × Signature) :=
  if s.isComplete then
    match s.body with
    | .whole d => do
      let (schema, d) ← exporting d.export
      return (schema, { s with body := .whole d })
    | _ => do
      let (properties, validators) ← exporting (exportEntries s.validators)
      let required ← exporting (requiredFields validators)
      return (fieldsSchema properties required s.strictness.mode,
        { s with body := .fields validators })
  else .error (.rejected (.cannotExport s.failedFields))

/-- Whether the argument is shown as the only property of an object. -/
def wraps (s : Signature) : Except (Stop RuleError) (Bool × Signature) :=
  match s.body with
  | .whole d => do
    let (schema, d) ← exporting d.export
    return (!schema.isObject, { s with body := .whole d })
  | _ => .ok (false, s)

/-- The schema of a call.  It is the schema after two exports: asking whether it has to be wrapped
is the second. -/
def inputSchema (s : Signature) : Except (Stop RuleError) (Schema × Signature) := do
  let (schema, s) ← s.schema
  match s.body with
  | .whole d =>
    let (schema, d) ← exporting d.export
    return (if schema.isObject then schema else wrappedSchema schema d.required,
      { s with body := .whole d })
  | _ => return (schema, s)

/-- The signature after it has been asked whether its argument is wrapped. -/
def asked (s : Signature) : Signature :=
  match s.wraps with
  | .ok (_, s) => s
  | .error _ => s

/-- The signature after the schema of a call has been exported. -/
def described (s : Signature) : Signature :=
  match s.inputSchema with
  | .ok (_, s) => s
  | .error _ => s

end Signature

end RuleSchema
