import RuleSchema.Compile.Composite
import RuleSchema.Rule.Normalize

/-!
# From rules to validators

A rule becomes a validator, and so do the rules inside it first.  The policy for unknown keys is
handed down, and each object may declare one of its own for itself and what it contains.

What a compiler does with the rules of one type can be set: it may have no way to compile them, or
put other stages together than the usual ones.

* `Treatment` says what is done with the rules of a type.
* `compileRule` makes the validator of a rule, `compileSource` that of what a rule is read from.
-/

namespace RuleSchema

/-- What a compiler does with the rules of one type. -/
inductive Treatment where
  /-- Puts the usual stages together. -/
  | standard
  /-- Has no way to compile them. -/
  | missing
  /-- Puts no stages together. -/
  | empty
  /-- Puts the usual stages together in reverse. -/
  | reversed
deriving DecidableEq

/-- What a compiler does with the rules of each type. -/
abbrev Treatments := Tag → Treatment

/-- The usual treatment of every type. -/
def Treatments.usual : Treatments := fun _ => .standard

/-- Checks a fixed default against every stage of the validator. -/
def checkWholeDefault (r : Rule) (d : Validator) (path : String) : Eval RuleError Unit :=
  match r.standIn with
  | .fixed v => do
    let _ ← (d.validate .absent).mapReason fun e =>
      .defaultRejected r.tag path e.text v.display e.check
  | _ => pure ()

/-- Makes the validator of a rule from its stages. -/
def finishValidator (r : Rule) (path : String) (stages : List Stage) : Eval RuleError Validator := do
  let d ← Eval.ofExcept (Validator.compose stages r.tag r.common.description? r.isRequired)
  checkWholeDefault r d path
  return d

/-- Treats the stages of a rule as its type asks. -/
def treat (t : Treatment) (r : Rule) (path : String) (stages : Eval RuleError (List Stage)) :
    Eval RuleError Validator :=
  match t with
  | .standard => do finishValidator r path (← stages)
  | .missing => .reject (.noConverter r.tag)
  | .empty => finishValidator r path []
  | .reversed => do finishValidator r path (← stages).reverse

mutual

/-- The validator of the rule at `path`, under an inherited policy for unknown keys. -/
def compileRule (ts : Treatments) : Rule → Strictness → String → Eval RuleError Validator
  | .array c items o, ctx, path =>
    let r := Rule.array c items o
    treat (ts .array) r path do
      arrayStages r o (← compileRule ts items ctx (path ++ "[]")) path
  | .object c props o, ctx, path =>
    let r := Rule.object c props o
    let ctx := ctx.override o.strict?
    treat (ts .object) r path do
      objectStages r o (← compileProps ts props ctx path) ctx.mode path
  | .multi c branches, ctx, path =>
    let r := Rule.multi c branches
    treat (ts .multi) r path do
      unionStages r (← compileBranches ts 0 branches ctx path) path
  | .tuple c slots, ctx, path =>
    let r := Rule.tuple c slots
    treat (ts .tuple) r path do
      tupleStages r (← compileSlots ts 0 slots ctx path) path
  | .record c key value, ctx, path =>
    let r := Rule.record c key value
    treat (ts .record) r path do
      let keys ← compileRule ts key ctx (path ++ "<key>")
      let values ← compileRule ts value ctx (path ++ "<value>")
      recordStages r keys values path
  | r, _, path => treat (ts r.tag) r path (scalarStages r path)
termination_by structural r => r

/-- The validators of properties. -/
def compileProps (ts : Treatments) :
    List (String × Rule) → Strictness → String → Eval RuleError (List (String × Validator))
  | [], _, _ => pure []
  | (name, r) :: props, ctx, path => do
    let d ← compileRule ts r ctx (path ++ "." ++ name)
    return (name, d) :: (← compileProps ts props ctx path)
termination_by structural props => props

/-- The validators of branches, the first of which has index `i`. -/
def compileBranches (ts : Treatments) :
    Nat → List Rule → Strictness → String → Eval RuleError (List Validator)
  | _, [], _, _ => pure []
  | i, r :: rs, ctx, path => do
    let d ← compileRule ts r ctx (path ++ "|" ++ toString i)
    return d :: (← compileBranches ts (i + 1) rs ctx path)
termination_by structural _ rs => rs

/-- The validators of slots, the first of which has index `i`. -/
def compileSlots (ts : Treatments) :
    Nat → List Rule → Strictness → String → Eval RuleError (List Validator)
  | _, [], _, _ => pure []
  | i, r :: rs, ctx, path => do
    let d ← compileRule ts r ctx (path ++ "[" ++ toString i ++ "]")
    return d :: (← compileSlots ts (i + 1) rs ctx path)
termination_by structural _ rs => rs

end

/-- The validator of the rule that is read from a source. -/
def compileSource (ts : Treatments) (source : RuleSource) (ctx : Strictness) (path : String) :
    Eval RuleError Validator := do
  compileRule ts (← Eval.ofStop (normalize source path)) ctx path

end RuleSchema
