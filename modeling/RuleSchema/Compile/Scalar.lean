import RuleSchema.Compile.Text
import RuleSchema.Instant.Reader
import RuleSchema.Value.Identity
import RuleSchema.Value.Sameness

/-!
# Stages of other simple rules

The stages of the rules that contain no other rules and whose values are not all texts.

* `scalarStages` gives the stages of every rule that contains no other rules.
-/

namespace RuleSchema

/-! ## Numbers -/

/-- Accepts numbers, and what reads as one if the rule converts. -/
def numberStep (convert : Bool) : Step :=
  readStep "number.type"
    (if convert then fun v => (readNumber true v).mapError Prod.fst else strictNumber) .number

/-- A test on numbers as a test on values. -/
def onNumber (p : Number → Except Fault Bool) : Value → Except Fault Bool := fun v =>
  match v.numeric? with
  | some n => p n
  | none => .ok false

/-- Whether a number is whole, judged by the double nearest to it. -/
def isWhole : Number → Except Fault Bool
  | .int n => if (Binary64.ofInt? n).isSome then .ok true else .error .tooLargeForFloat
  | .float x => .ok x.wholeValue?.isSome

/-- The check that a number equals another. -/
def equalTo (n : Number) : Check where
  name := "number.equal"
  test := onNumber fun v => .ok (v.equals n)
  message := "Value must be equal to " ++ n.text
  schema := keyword "const" (.number n)

/-- The check that a number is at least another. -/
def atLeast (n : Number) : Check where
  name := "number.min"
  test := onNumber fun v => .ok (n.atMost v)
  message := "Value must be greater than or equal to " ++ n.text
  schema := keyword "minimum" (.number n)

/-- The check that a number is at most another. -/
def noMoreThan (n : Number) : Check where
  name := "number.max"
  test := onNumber fun v => .ok (v.atMost n)
  message := "Value must be less than or equal to " ++ n.text
  schema := keyword "maximum" (.number n)

/-- The check that a number is whole. -/
def wholeNumber : Check where
  name := "number.integer"
  test := onNumber isWhole
  message := "Value must be an integer"

/-- The check that a number is above zero. -/
def aboveZero : Check where
  name := "number.positive"
  test := onNumber fun v => .ok ((Number.int 0).less v)
  message := "Value must be positive"
  schema := keyword "exclusiveMinimum" (.int 0)

/-- The check that a number is below zero. -/
def belowZero : Check where
  name := "number.negative"
  test := onNumber fun v => .ok (v.less (.int 0))
  message := "Value must be negative"
  schema := keyword "exclusiveMaximum" (.int 0)

/-- The check that a number differs from another. -/
def differentFromNumber (n : Number) : Check where
  name := "number.not_equal"
  test := onNumber fun v => .ok !(v.equals n)
  message := "Value cannot be equal to " ++ n.text
  schema := keyword "not" (.mapping (keyword "const" (.number n)))

/-- The checks on a number; one that is to equal another is not compared to bounds. -/
def NumberOptions.checks (o : NumberOptions) : List Check :=
  (match o.equal? with
    | some n => [equalTo n]
    | none => (o.min?.map atLeast).toList ++ (o.max?.map noMoreThan).toList) ++
  (if o.integer then [wholeNumber] else []) ++ (if o.positive then [aboveZero] else []) ++
  (if o.negative then [belowZero] else [])

/-- The stages of a number. -/
def numberStages (r : Rule) (o : NumberOptions) (path : String) : Eval RuleError (List Stage) := do
  let type := if o.integer then "integer" else "number"
  let shape ← shapeStage r path ⟨numberStep r.common.convert, typeSchema type⟩
  let checks ← checkStages .validate "number.constraints" o.checks
  let others ← checkStages .refine "number.refine" (o.notEqual?.map differentFromNumber).toList
  return shape :: checks ++ others

/-! ## Truth values and instants -/

/-- The stages of a truth value. -/
def booleanStages (r : Rule) (path : String) : Eval RuleError (List Stage) := do
  let reader := if r.common.convert then readBool else strictBool
  return [← shapeStage r path ⟨readStep "boolean.type" reader .bool, typeSchema "boolean"⟩]

/-- Accepts instants, and what reads as one if the rule converts. -/
def instantStep (convert : Bool) : Step := fun v =>
  match if convert then Instant.read v else Instant.strict v with
  | .ok t => pure (.instant t)
  | .error p => failCheck "date.type" p.message

/-- The schema that admits nothing. -/
def nothingSchema : Schema := keyword "not" (.mapping [])

/-- The schema of an instant: without conversion no value of a document is one. -/
def instantSchema (convert : Bool) : Schema :=
  if convert then
    keyword "type" (.list [.text "string", .text "number"]) ++
      keyword "format" (.text "date-time")
  else nothingSchema

/-- The stages of an instant. -/
def dateStages (r : Rule) (path : String) : Eval RuleError (List Stage) := do
  return [← shapeStage r path ⟨instantStep r.common.convert, instantSchema r.common.convert⟩]

/-! ## Given values -/

/-- Accepts every value. -/
def anyStep : Step := pure

/-- The shape stage of a rule that admits every value. -/
def anyShape (r : Rule) (path : String) : Eval RuleError Stage := shapeStage r path ⟨anyStep, []⟩

/-- A keyword that shows a value, if the value has a form in a document. -/
def shownKeyword (name : String) (v : Value) : Except Fault Schema := do
  return match ← v.jsonForm? with
    | some form => keyword name form
    | none => []

/-- The stages of a choice between values. -/
def enumStages (r : Rule) (values : List Value) (path : String) : Eval RuleError (List Stage) := do
  let schema ← Eval.ofFault (shownKeyword "enum" (.list values))
  let check : Check :=
    { name := "enum.values", test := fun v => .ok (Value.isAmong values v)
      message := "Value must be one of: " ++ Value.displayList values, schema }
  return (← anyShape r path) :: (← checkStages .refine "enum.refine" [check])

/-- The stages of a single admitted value. -/
def equalStages (r : Rule) (value : Value) (strict : Bool) (path : String) :
    Eval RuleError (List Stage) := do
  let schema ← Eval.ofFault (shownKeyword "const" value)
  let check : Check :=
    { name := "equal.value"
      test := fun v => .ok (if strict then v.same value else v.looselySame value)
      message := "Value must be equal to " ++ value.display, schema }
  return (← anyShape r path) :: (← checkStages .refine "equal.refine" [check])

/-- The stages of a value that must not be given.  Null counts as absent. -/
def forbiddenStages (remove : Bool) : Eval RuleError (List Stage) := do
  let shape : Stage :=
    { kind := .shape, name := "forbidden.shape"
      run := fun v => pure (if v.isNull then .absent else v)
      schema := if remove then [] else nothingSchema }
  if remove then
    return [shape, Stage.ofTransforms .manipulate "forbidden.remove" [fun _ => .ok .absent]]
  else
    let check : Check :=
      { name := "forbidden.present", test := fun v => .ok v.isAbsent
        message := "Value is forbidden" }
    return shape :: (← checkStages .refine "forbidden.refine" [check])

/-! ## Values of the host program -/

/-- The stages of an object of a class. -/
def classStages (r : Rule) (c : ClassRef) (path : String) : Eval RuleError (List Stage) := do
  let step : Step := fun v =>
    if v.isInstanceOf c then pure v
    else failCheck "class.instance" ("Input should be an instance of " ++ c.name)
  return [← shapeStage r path ⟨step, []⟩]

/-- The stages of a value that can be called. -/
def functionStages (r : Rule) (path : String) : Eval RuleError (List Stage) := do
  let step : Step := fun v =>
    if v.isCallable then pure v else failCheck "function.type" "Input should be callable"
  return [← shapeStage r path ⟨step, []⟩]

/-- The classes that can tell which values name their objects. -/
def ClassRef.identities? : ClassRef → Option ObjectClass
  | .objects c => if c.hasPredicate then some c else none
  | _ => none

/-- How an identity is changed. -/
def IdentityConversion.transforms (c : ObjectClass) : IdentityConversion → List Transform
  | .keep => []
  | .text => [fun v => .ok (.text v.plainText)]
  | .object => [fun v => if v.isInstanceOf (.objects c) then .ok v else c.make v]

/-- The stages of an identity. -/
def identityStages (r : Rule) (identity : ClassRef) (conversion : IdentityConversion)
    (path : String) : Eval RuleError (List Stage) :=
  match identity.identities? with
  | none => .reject (.noPredicate path identity.name)
  | some c => do
    let step : Step := fun v =>
      if v.text?.isSome || v.isInstanceOf (.objects c) then pure v
      else failCheck "objectID.type" ("Value must be a string or a " ++ c.name ++ " instance")
    let shape ← shapeStage r path ⟨step, typeSchema "string"⟩
    let check : Check :=
      { name := "objectID.valid", test := fun v => .ok ((c.recognises? v).getD false)
        message := "Value is not a valid ObjectID" }
    let checks ← checkStages .refine "objectID.refine" [check]
    return shape :: checks ++
      transformStages .manipulate "objectID.convert" (conversion.transforms c)

/-! ## Every simple rule -/

/-- The stages of a rule that contains no other rules. -/
def scalarStages (r : Rule) (path : String) : Eval RuleError (List Stage) :=
  match r with
  | .string _ o => stringStages r o path
  | .number _ o => numberStages r o path
  | .boolean _ => booleanStages r path
  | .date _ => dateStages r path
  | .any _ => do return [← anyShape r path]
  | .email _ o => emailStages r o path
  | .currency _ o => currencyStages r o path
  | .class _ c => classStages r c path
  | .enum _ values => enumStages r values path
  | .equal _ value strict => equalStages r value strict path
  | .forbidden _ remove => forbiddenStages remove
  | .function _ => functionStages r path
  | .luhn _ => luhnStages r path
  | .mac _ => macStages r path
  | .url _ empty? => urlStages r empty? path
  | .uuid _ empty? => uuidStages r empty? path
  | .objectId _ identity conversion => identityStages r identity conversion path
  | .array .. | .object .. | .multi .. | .tuple .. | .record .. => pure []

end RuleSchema
