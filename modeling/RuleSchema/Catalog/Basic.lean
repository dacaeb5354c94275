import RuleSchema.Metrics.Basic
import RuleSchema.Tool.Description

/-!
# Catalogs

A catalog holds the operations that can be called as tools.  It is built anew from a list of
operations: each is compiled on its own, and one that cannot be compiled completely is left out and
reported, while the others are registered.  A call is validated against the signature of its tool.

* `Operation` is an operation as it is offered, `Tool` one as it is registered.
* `rebuild` replaces the tools of a catalog; its `Build` says what has changed.
* `findTool`, `toolDocuments` and `callTool` are what callers of tools ask for.
-/

namespace RuleSchema

/-- An operation that is offered for registration. -/
structure Operation where
  name : Value
  params : RuleSource := .mapping []
  /-- The name under which the operation is to be called, if it is not its own. -/
  toolName : Value := .null
  title : Value := .null
  description : Value := .null

/-- The name under which an operation is to be called. -/
def Operation.exposedName (op : Operation) : Value :=
  if op.toolName.isTruthy then op.toolName else op.name

/-- A registered operation. -/
structure Tool where
  operation : Value
  description : ToolDescription
  signature : Signature
  fingerprint : String

/-- The name under which a tool is called. -/
def Tool.name (t : Tool) : String := t.description.name

/-- Why an operation is left out. -/
structure OperationFailure where
  operation : Value
  /-- The field that could not be compiled, or null. -/
  field : Value
  kind : String
  message : String

/-- What building a catalog has led to. -/
structure Build where
  registered : List String
  failures : List OperationFailure
  /-- The tools that are new or have another description than before, sorted. -/
  changed : List String

/-- A catalog with its compiler and what has been counted. -/
structure Catalog where
  compiler : Compiler := {}
  tools : List Tool := []
  /-- Nothing is counted if there are no metrics. -/
  metrics? : Option Metrics := none
  tally : Tally := []

/-- A computation on a catalog, which may stop without losing what has been counted. -/
abbrev CatalogM (ρ : Type) := ExceptT (Stop ρ) (StateM Catalog)

namespace CatalogM

variable {ρ α : Type}

/-- An evaluation as a computation on a catalog. -/
def ofEval (x : Eval ρ α) : CatalogM ρ α := fun c =>
  let (result, tally) := x c.tally
  (result, { c with tally })

/-- A result or a stop as a computation on a catalog. -/
def ofStop (x : Except (Stop ρ) α) : CatalogM ρ α := ofEval (Eval.ofStop x)

/-- Counts something, if anything is counted. -/
def record (f : Metrics → Metrics) : CatalogM ρ Unit :=
  modify fun c => { c with metrics? := c.metrics?.map f }

end CatalogM

/-- The tool with a name. -/
def Tool.find? (tools : List Tool) (name : String) : Option Tool :=
  List.find? (fun t => t.name = name) tools

/-! ## Building -/

/-- The failure of an operation whose name is taken. -/
def nameTaken (op : Operation) : OperationFailure where
  operation := op.name
  field := .null
  kind := "DuplicateToolName"
  message := "Tool name '" ++ op.exposedName.plainText ++ "' is already registered"

/-- The failure of an operation whose compilation ended early. -/
def compilationFailed (op : Operation) (e : RuleError) : OperationFailure where
  operation := op.name
  field := (e.details.at? "path").getD .null
  kind := e.kind
  message := e.message

/-- The failure of an operation with a field that could not be compiled. -/
def fieldFailed (op : Operation) (f : FieldFailure) : OperationFailure where
  operation := op.name
  field := f.field
  kind := f.error.kind
  message := f.error.message

/-- Whether a tool with the name of an operation is among these. -/
def isTaken (tools : List Tool) (op : Operation) : Except Fault Bool :=
  match op.exposedName.unkeyable? with
  | some kind => .error (.unkeyable kind)
  | none => .ok (tools.any fun t => op.exposedName.equals (.text t.name))

/-- The problems of a description; its signature is complete. -/
def descriptionProblems : DescriptionError → List FieldProblem
  | .incomplete _ => []
  | .invalid problems => problems

/-- Makes a tool of an operation with a complete signature, which is kept as its description leaves
it. -/
def makeTool (op : Operation) (s : Signature) : Except (Stop (List FieldProblem)) Tool := do
  let description ← (describeTool s op.exposedName op.title op.description).mapError fun
    | .rejected e => .rejected (descriptionProblems e)
    | .fault f => .fault f
  let fingerprint ← description.fingerprint.mapError .fault
  return { operation := op.name, description, signature := s.described, fingerprint }

/-- Compiles the parameters of an operation and counts the compilation. -/
def compileOperation {ρ : Type} (op : Operation) : CatalogM ρ (Except Rejected Signature) := do
  let k := (← get).compiler
  let outcome ← CatalogM.ofEval (k.compile op.params).attempt
  CatalogM.record fun m => m.recordCompilation outcome
  return outcome

/-- Makes a tool of an operation, or says why it is left out. -/
def enrol (tools : List Tool) (op : Operation) :
    CatalogM (List FieldProblem) (Except (List OperationFailure) Tool) := do
  if ← CatalogM.ofEval (Eval.ofFault (isTaken tools op)) then return .error [nameTaken op]
  match ← compileOperation op with
  | .error e => return .error [compilationFailed op e.error]
  | .ok s =>
    if s.isComplete then return .ok (← CatalogM.ofStop (makeTool op s))
    else return .error (s.failures.map (fieldFailed op))

/-- Makes tools of operations, after those that have been made and left out already. -/
def enrolAll (tools : List Tool) (failures : List OperationFailure) :
    List Operation → CatalogM (List FieldProblem) (List Tool × List OperationFailure)
  | [] => pure (tools, failures)
  | op :: ops => do
    match ← enrol tools op with
    | .ok t => enrolAll (tools ++ [t]) failures ops
    | .error fs => enrolAll tools (failures ++ fs) ops

/-- Whether a tool is new or has another description than before. -/
def Tool.isChanged (previous : List Tool) (t : Tool) : Bool :=
  match Tool.find? previous t.name with
  | some p => p.fingerprint != t.fingerprint
  | none => true

/-- Replaces the tools of a catalog.  If an operation cannot even be described, the catalog keeps
its tools. -/
def rebuild (ops : List Operation) : CatalogM (List FieldProblem) Build := do
  let previous := (← get).tools
  let (tools, failures) ← enrolAll [] [] ops
  modify fun c => { c with tools }
  CatalogM.record fun m => m.recordTools tools.length
  return {
    registered := tools.map Tool.name
    failures
    changed := sortTexts ((tools.filter (Tool.isChanged previous)).map Tool.name) }

/-! ## Calling -/

/-- The tool with a name. -/
def findTool (name : String) : CatalogM Refusal Tool := do
  match Tool.find? (← get).tools name with
  | some t => return t
  | none => throw (.rejected (.unknownTool name))

/-- The documents of all tools, sorted by their names. -/
def toolDocuments (c : Catalog) : List Value :=
  (c.tools.mergeSort fun a b => !decide (b.name < a.name)).map fun t => t.description.document

/-- The rejection of arguments as a whole. -/
def rejectedArguments (message check : String) : PayloadError where
  message := message
  stage := some StageKind.shape.name
  check := some check

/-- The payload that arguments hold as their only property. -/
def unwrapped (arguments : Value) : Except PayloadError Value :=
  match arguments with
  | .mapping es =>
    let others := (Entries.keys es).filter fun k => !k.equals (.text wholeKey)
    match sortTexts (others.map Value.plainText) with
    | [] => .ok ((Entries.at? es wholeKey).getD .absent)
    | unknown =>
      .error (rejectedArguments
        ("Unknown properties are not allowed: " ++ Text.joinWith ", " unknown) "object.strict")
  | _ => .error (rejectedArguments "Arguments must be an object" "object.type")

/-- Validates the arguments of a call. -/
def Signature.validateCall (s : Signature) (arguments : Value) : Eval Refusal Value := do
  match s.wraps with
  | .ok (true, _) =>
    s.validate (← Eval.ofExcept ((unwrapped arguments).mapError .rejected))
  | .ok (false, _) => s.validate arguments
  | .error (.rejected e) => .reject (.incomplete e)
  | .error (.fault f) => .fault f

/-- The tools after the one with a name has been asked whether its argument is wrapped. -/
def Tool.ask (name : String) (tools : List Tool) : List Tool :=
  tools.map fun t => if t.name = name then { t with signature := t.signature.asked } else t

/-- Validates the arguments of a call and counts it.  An absent result is null. -/
def Signature.countedCall (s : Signature) (arguments : Value) : CatalogM Refusal Value := do
  match ← CatalogM.ofEval (s.validateCall arguments).attempt with
  | .ok v =>
    CatalogM.record fun m => m.recordCall true
    return if v.isAbsent then .null else v
  | .error (.rejected e) =>
    CatalogM.record fun m => m.recordCall false
    throw (.rejected (.rejected e))
  | .error e => throw (.rejected e)

/-- Validates the arguments of a call of a tool.  No arguments are an empty mapping. -/
def callTool (name : String) (arguments : Value) : CatalogM Refusal Value := do
  let t ← findTool name
  modify fun c => { c with tools := Tool.ask name c.tools }
  t.signature.countedCall (if arguments.isNull then .mapping [] else arguments)

end RuleSchema
