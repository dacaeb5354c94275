import RuleSchema.Rule.Fields
import RuleSchema.Signature.Export

/-!
# Tool descriptions

What is told to those who may call an operation: its name, its title, what it does, and the schema
of a call.

* `describeTool` describes an operation with a signature.
* `ToolDescription.document` is the description as a document with sorted keys, and
  `ToolDescription.fingerprint` the fingerprint of that document.
-/

namespace RuleSchema

/-- The description of a tool. -/
structure ToolDescription where
  name : String
  title? : Option String := none
  description? : Option String := none
  /-- The schema of a call, with sorted keys. -/
  inputSchema : Value

/-- Why an operation cannot be described. -/
inductive DescriptionError where
  /-- Its signature is not complete. -/
  | incomplete (e : RuleError)
  /-- Its name, its title or its description is none. -/
  | invalid (problems : List FieldProblem)

namespace ToolDescription

/-- An entry for a text, if there is one. -/
def textEntry (key : String) : Option String → Entries Value
  | some s => [(.text key, .text s)]
  | none => []

/-- The description as a document with sorted keys. -/
def document (t : ToolDescription) : Value :=
  .mapping (textEntry "description" t.description? ++ [(.text "inputSchema", t.inputSchema)] ++
    [(.text "name", .text t.name)] ++ textEntry "title" t.title?)

/-- The fingerprint of the document. -/
def fingerprint (t : ToolDescription) : Except Fault String := RuleSchema.fingerprint t.document

/-- Reads the texts of a description. -/
def read (name title description inputSchema : Value) : Checked ToolDescription :=
  let field {α : Type} (key : String) (reader : FieldReader α) (v : Value) : Checked α :=
    FieldName.require ⟨key, none⟩ [(.text key, v)] reader
  let text := FieldReader.nullable (FieldReader.scalar readText)
  (fun name title? description? => { name, title?, description?, inputSchema })
    <$> field "name" FieldReader.nonEmptyText name <*> field "title" text title
    <*> field "description" text description

end ToolDescription

/-- Describes an operation with a signature. -/
def describeTool (s : Signature) (name title description : Value) :
    Except (Stop DescriptionError) ToolDescription :=
  match s.inputSchema with
  | .error (.rejected e) => .error (.rejected (.incomplete e))
  | .error (.fault f) => .error (.fault f)
  | .ok (schema, _) =>
    match sortDeep (.mapping schema) with
    | .error f => .error (.fault f)
    | .ok sorted =>
      match ToolDescription.read name title description sorted with
      | .good t => .ok t
      | .bad problems => .error (.rejected (.invalid problems))

end RuleSchema
