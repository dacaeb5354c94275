import RuleSchema.Validator.Basic

/-!
# Signatures

A signature is what an operation declares about its parameters, compiled: a validator for each
field of its argument, or one validator for the argument as a whole.  Fields whose rules could not
be compiled are part of it as failures; a signature with failures refuses every payload.

* `Signature` is the type.
* `Signature.validate` validates a payload, and `Refusal` says why it may be refused.
-/

namespace RuleSchema

/-- The key that marks rules for the argument as a whole, and names that argument. -/
def wholeKey : String := "$$root"

/-- A field whose rule could not be compiled. -/
structure FieldFailure where
  field : Value
  error : RuleError

/-- What validates the argument of an operation. -/
inductive SignatureBody where
  /-- A validator for each field. -/
  | fields (validators : Entries Validator)
  /-- One validator for the argument as a whole. -/
  | whole (d : Validator)
  /-- Rules for the argument as a whole that could not be compiled. -/
  | brokenWhole

/-- The compiled parameters of an operation. -/
structure Signature where
  body : SignatureBody
  /-- The policy for unknown keys at the top. -/
  strictness : Strictness
  failures : List FieldFailure := []

/-- Why a call is refused. -/
inductive Refusal where
  /-- The signature is not complete. -/
  | incomplete (e : RuleError)
  /-- The payload is rejected. -/
  | rejected (e : PayloadError)
  /-- No tool has this name. -/
  | unknownTool (name : String)

namespace Refusal

/-- The kind of failure that a refusal is. -/
def failureClass : Refusal → FailureClass
  | .incomplete _ => .rule
  | .rejected _ => .payload
  | .unknownTool _ => .unknownTool

/-- The message of a refusal. -/
def message : Refusal → String
  | .incomplete e => e.message
  | .rejected e => e.text
  | .unknownTool name => "Unknown tool '" ++ name ++ "'"

/-- The details of a refusal. -/
def details : Refusal → Entries Value
  | .incomplete e => e.details
  | .rejected e => e.details
  | .unknownTool name => [(.text "tool", .text name)]

/-- The object that reports a refusal to the caller of a tool. -/
def report (r : Refusal) : Entries Value := errorObject r.failureClass r.message r.details

end Refusal

namespace Signature

/-- Whether the rules were for the argument as a whole. -/
def isWhole (s : Signature) : Bool :=
  match s.body with
  | .fields _ => false
  | _ => true

/-- Whether every rule could be compiled. -/
def isComplete (s : Signature) : Bool := s.failures.isEmpty

/-- The names of the fields that could not be compiled. -/
def failedFields (s : Signature) : List Value := s.failures.map FieldFailure.field

/-- The validators of the fields. -/
def validators (s : Signature) : Entries Validator :=
  match s.body with
  | .fields validators => validators
  | _ => []

/-- The rejection of a payload as a whole. -/
def rejectedPayload : StageRejection → PayloadError
  | .failure message check details =>
    { message, stage := some StageKind.shape.name, check := some check, extra := details }
  | .inside e => e

/-- Validates a payload field by field. -/
def validateFields (s : Signature) (payload : Value) : Eval PayloadError Value :=
  match payload with
  | .mapping es => do
    return .mapping (← (validateProperties es s.validators s.strictness.mode).mapReason
      rejectedPayload)
  | _ =>
    .reject {
      message := "Payload must be an object"
      stage := some StageKind.shape.name, check := some "object.type" }

/-- Validates a payload. -/
def validate (s : Signature) (payload : Value) : Eval Refusal Value :=
  if s.isComplete then
    match s.body with
    | .whole d => (d.validate payload).mapReason .rejected
    | _ => (s.validateFields payload).mapReason .rejected
  else .reject (.incomplete (.cannotValidate s.failedFields))

end Signature

end RuleSchema
