import RuleSchema.Compile.Basic
import RuleSchema.Signature.Basic

/-!
# Compiling signatures

The rules of an operation are a mapping from the names of its parameters to their rules.  Keys that
begin with two dollar signs are pragmas and no names: one says that the mapping is a rule for the
argument as a whole, one sets the policy for unknown keys, and any other is passed over.

A rule that cannot be compiled either is set aside while the others are compiled, or ends the
compilation.

* `Compiler` holds the settings of a compiler, and `Compiler.compile` compiles the rules of an
  operation.
-/

namespace RuleSchema

/-- The key under which rules declare their policy for unknown keys. -/
def strictKey : String := "$$strict"

/-- The settings of a compiler. -/
structure Compiler where
  /-- Whether the first rule that cannot be compiled ends the compilation. -/
  failFast : Bool := false
  /-- The policy for unknown keys where none is inherited. -/
  strictness : Strictness := {}
  treatments : Treatments := Treatments.usual

/-- Why there is no signature. -/
inductive Rejected where
  /-- What is given are no rules of an operation. -/
  | atOnce (e : RuleError)
  /-- A rule could not be compiled. -/
  | midway (e : RuleError)

/-- The reason why there is no signature. -/
def Rejected.error : Rejected → RuleError
  | .atOnce e => e
  | .midway e => e

namespace Compiler

/-- The policy for unknown keys that rules declare. -/
def declaredStrictness (rules : Entries RuleSource) :
    Except RuleError (Option DeclaredStrictness) :=
  match ((rules.at? strictKey).map RuleSource.toValue).getD .null with
  | .null => .ok none
  | .bool b => .ok (some (.strict b))
  | v => if v.equals (.text "remove") then .ok (some .remove) else .error (.badStrictness v.display)

/-- Whether rules are meant for the argument as a whole. -/
def meansWhole (rules : Entries RuleSource) : Bool :=
  match rules.at? wholeKey with
  | some (.other (.bool true)) => true
  | _ => false

/-- The entries of rules that are no pragmas. -/
def ruleEntries (rules : Entries RuleSource) : Entries RuleSource :=
  rules.filter fun e => !isPragma e.1

/-- Compiles one rule, which the compilation may survive if it is bad. -/
def compileOne (k : Compiler) (ctx : Strictness) (source : RuleSource) (path : String) :
    Eval RuleError (Except RuleError Validator) := do
  let x := compileSource k.treatments source ctx path
  if k.failFast then return .ok (← x) else x.attempt

/-- Compiles the rules of fields. -/
def compileFields (k : Compiler) (ctx : Strictness) :
    Entries RuleSource → Eval RuleError (Entries Validator × List FieldFailure)
  | [] => pure ([], [])
  | (name, source) :: rules => do
    let d ← k.compileOne ctx source ("$." ++ name.plainText)
    let (ds, failures) ← compileFields k ctx rules
    return match d with
      | .ok d => ((name, d) :: ds, failures)
      | .error e => (ds, ⟨name, e⟩ :: failures)

/-- Compiles rules under a policy for unknown keys. -/
def compileUnder (k : Compiler) (ctx : Strictness) (rules : Entries RuleSource) :
    Eval RuleError Signature := do
  if meansWhole rules then
    match ← k.compileOne ctx (.mapping (ruleEntries rules)) "$" with
    | .ok d => return { body := .whole d, strictness := ctx }
    | .error e =>
      return { body := .brokenWhole, strictness := ctx, failures := [⟨.text wholeKey, e⟩] }
  else
    let (validators, failures) ← k.compileFields ctx (ruleEntries rules)
    return { body := .fields validators, strictness := ctx, failures }

/-- Compiles the rules of an operation, under an inherited policy for unknown keys if there is
one. -/
def compile (k : Compiler) (source : RuleSource) (inherited? : Option Strictness := none) :
    Eval Rejected Signature :=
  match source with
  | .mapping rules =>
    match declaredStrictness rules with
    | .error e => .reject (.atOnce e)
    | .ok declared =>
      (k.compileUnder ((inherited?.getD k.strictness).override declared) rules).mapReason .midway
  | source => .reject (.atOnce (.rulesNotMapping source.toValue.kindName))

end Compiler

/-- The rule languages that can be compiled. -/
def ruleLanguages : List String := ["fastest-validator"]

/-- Checks the name of a rule language. -/
def checkLanguage (name : String) : Except RuleError Unit :=
  if ruleLanguages.contains name then .ok () else .error (.unknownLanguage name ruleLanguages)

end RuleSchema
