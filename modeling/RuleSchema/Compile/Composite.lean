import RuleSchema.Compile.Scalar
import RuleSchema.Validator.Basic
import RuleSchema.Value.Order

/-!
# Stages of composite rules

The stages of the rules that contain other rules, made of the validators of those.  A part of a
value that is rejected makes the whole rejected, at the place of the part.

* `arrayStages`, `objectStages`, `unionStages`, `tupleStages` and `recordStages` are the stages of
  one type each.
-/

namespace RuleSchema

/-- The rejection of a part of a value, seen from the whole. -/
def part {α : Type} (key : Value) (x : Eval PayloadError α) : Eval StageRejection α :=
  x.mapReason fun e => .inside (e.under key)

/-- An index as a key. -/
def indexKey (i : Nat) : Value := .int i

/-- A test on the items of a list as a test on values. -/
def onItems (p : List Value → Bool) : Value → Except Fault Bool := fun v =>
  .ok (match v.items? with
    | some xs => p xs
    | none => false)

/-- The schema of a validator as a value, for the schema of a larger one. -/
def Validator.schemaValue (d : Validator) : Eval RuleError Value := do
  return .mapping (← Eval.ofFault d.schema)

/-! ## Arrays -/

/-- Validates the items of an array, the first of which has index `i`; those that come out absent
are left out. -/
def validateItems (d : Validator) : Nat → List Value → Eval StageRejection (List Value)
  | _, [] => pure []
  | i, x :: xs => do
    let y ← part (indexKey i) (d.validate x)
    let ys ← validateItems d (i + 1) xs
    return if y.isAbsent then ys else y :: ys

/-- Accepts arrays; a value that is none counts as its own only item if the rule converts. -/
def arrayStep (convert : Bool) (d : Validator) : Step := fun v => do
  match v.items? with
  | some xs => return .list (← validateItems d 0 xs)
  | none =>
    if convert then return .list (← validateItems d 0 [v])
    else failCheck "array.type" "Value must be an array"

/-- The check that an array has items. -/
def hasItems : Check where
  name := "array.empty"
  test := onItems fun xs => !xs.isEmpty
  message := "Value must not be empty"
  schema := keyword "minItems" (.int 1)

/-- The check that an array has a number of items. -/
def exactItems (n : Nat) : Check where
  name := "array.length"
  test := onItems fun xs => xs.length = n
  message := "Value must contain exactly " ++ toString n ++ " items"
  schema := keyword "minItems" (bound n) ++ keyword "maxItems" (bound n)

/-- The check that an array has at least a number of items. -/
def minItems (n : Nat) : Check where
  name := "array.min"
  test := onItems fun xs => n ≤ xs.length
  message := "Value must contain at least " ++ toString n ++ " items"
  schema := keyword "minItems" (bound n)

/-- The check that an array has at most a number of items. -/
def maxItems (n : Nat) : Check where
  name := "array.max"
  test := onItems fun xs => xs.length ≤ n
  message := "Value must contain at most " ++ toString n ++ " items"
  schema := keyword "maxItems" (bound n)

/-- The checks on the number of items of an array. -/
def ArrayOptions.sizeChecks (o : ArrayOptions) : List Check :=
  (if o.empty? = some true then [] else [hasItems]) ++ (o.length?.map exactItems).toList ++
    (o.min?.map minItems).toList ++ (o.max?.map maxItems).toList

/-- What says that an array contains a value. -/
def containing (v : Value) : Schema := keyword "contains" (.mapping (keyword "const" v))

/-- A schema, if each of its parts has a form in a document, and the empty one otherwise. -/
def shownSchema (schema : Schema) : Except Fault Schema := do
  match ← (Value.mapping schema).jsonForm? with
  | some (.mapping form) => return form
  | _ => return []

/-- The check that an array contains a value, or every value of a list. -/
def containsCheck (wanted : Value) : Except Fault Check := do
  match wanted with
  | .list xs =>
    let schema := keyword "allOf" (.list (xs.map fun x => .mapping (containing x)))
    return {
      name := "array.contains"
      test := onItems fun ys => xs.all (Value.isAmong ys)
      message := "Value must contain all of: " ++ Value.displayList xs
      schema := ← shownSchema schema }
  | x =>
    return {
      name := "array.contains"
      test := onItems fun ys => Value.isAmong ys x
      message := "Value must contain " ++ x.display
      schema := ← shownSchema (containing x) }

/-- The check that no item of an array occurs twice. -/
def differentItems : Check where
  name := "array.unique"
  test := onItems Value.allDifferent
  message := "Value must contain unique elements"
  schema := keyword "uniqueItems" (.bool true)

/-- The check that every item of an array is one of a list. -/
def itemsAmong (allowed : List Value) : Except Fault Check := do
  return {
    name := "array.enum"
    test := onItems fun xs => xs.all (Value.isAmong allowed)
    message := "Value must only contain: " ++ Value.displayList allowed
    schema := ← shownSchema (keyword "items" (.mapping (keyword "enum" (.list allowed)))) }

/-- The checks on the items of an array. -/
def ArrayOptions.contentChecks (o : ArrayOptions) : Except Fault (List Check) := do
  let wanted ← o.contains?.toList.mapM containsCheck
  let choices ← o.enum?.toList.mapM itemsAmong
  return wanted ++ (if o.unique then [differentItems] else []) ++ choices

/-- The stages of an array. -/
def arrayStages (r : Rule) (o : ArrayOptions) (d : Validator) (path : String) :
    Eval RuleError (List Stage) := do
  let items ← d.schemaValue
  let shape ← shapeStage r path
    ⟨arrayStep r.common.convert d, typeSchema "array" ++ keyword "items" items⟩
  let sizes ← checkStages .validate "array.constraints" o.sizeChecks
  let contents ← checkStages .refine "array.refine" (← Eval.ofFault o.contentChecks)
  return shape :: sizes ++ contents

/-! ## Objects -/

/-- Accepts mappings. -/
def objectStep (validators : Entries Validator) (mode : UnknownKeys) : Step := fun v => do
  match v with
  | .mapping es => return .mapping (← validateProperties es validators mode)
  | _ => failCheck "object.type" "Value must be an object"

/-- The names of the properties that must be present, sorted. -/
def requiredNames (validators : List (String × Validator)) : List String :=
  sortTexts ((validators.filter fun e => e.2.required).map Prod.fst)

/-- The schema of an object. -/
def objectSchema (validators : List (String × Validator)) (mode : UnknownKeys) :
    Eval RuleError Schema := do
  let properties ← validators.mapM fun e => do return (Value.text e.1, ← e.2.schemaValue)
  let required := requiredNames validators
  return typeSchema "object" ++ keyword "properties" (.mapping properties) ++
    (if required.isEmpty then [] else keyword "required" (.list (required.map .text))) ++
    (if mode = .reject then keyword "additionalProperties" (.bool false) else [])

/-- A test on the number of properties as a test on values. -/
def onSize (p : Nat → Bool) : Value → Except Fault Bool := fun v =>
  .ok (match v with
    | .mapping es => p es.length
    | _ => false)

/-- The check that an object has at least a number of properties. -/
def minProperties (n : Nat) : Check where
  name := "object.min_props"
  test := onSize fun k => n ≤ k
  message := "The object must contain at least " ++ toString n ++ " properties"
  schema := keyword "minProperties" (bound n)

/-- The check that an object has at most a number of properties. -/
def maxProperties (n : Nat) : Check where
  name := "object.max_props"
  test := onSize fun k => k ≤ n
  message := "The object must contain at most " ++ toString n ++ " properties"
  schema := keyword "maxProperties" (bound n)

/-- The stages of an object that treats unknown keys by `mode`. -/
def objectStages (r : Rule) (o : ObjectOptions) (validators : List (String × Validator))
    (mode : UnknownKeys) (path : String) : Eval RuleError (List Stage) := do
  let schema ← objectSchema validators mode
  let entries := validators.map fun e => (Value.text e.1, e.2)
  let shape ← shapeStage r path ⟨objectStep entries mode, schema⟩
  let sizes ← checkStages .refine "object.refine"
    ((o.minProps?.map minProperties).toList ++ (o.maxProps?.map maxProperties).toList)
  return shape :: sizes

/-! ## Unions -/

/-- What the first accepting branch gives, or the texts of all rejections. -/
def firstAccepting (v : Value) : List Validator → Eval StageRejection (Except (List String) Value)
  | [] => pure (.error [])
  | d :: ds => do
    match ← (d.validate v).attempt with
    | .ok w => return .ok w
    | .error e => return (← firstAccepting v ds).mapError (e.text :: ·)

/-- Accepts what some branch accepts. -/
def unionStep (branches : List Validator) : Step := fun v => do
  match ← firstAccepting v branches with
  | .ok w => return w
  | .error texts =>
    .reject (.failure
      ("Value does not match any of the " ++ toString branches.length ++ " allowed rules: " ++
        Text.joinWith "; " texts)
      "multi.union" [(.text "branches", .list (texts.map .text))])

/-- The stages of a union. -/
def unionStages (r : Rule) (branches : List Validator) (path : String) :
    Eval RuleError (List Stage) := do
  let schemas ← branches.mapM Validator.schemaValue
  return [← shapeStage r path ⟨unionStep branches, keyword "anyOf" (.list schemas)⟩]

/-! ## Tuples -/

/-- Validates items one by one, each with the validator of its slot; the first has index `i`. -/
def validateSlots : Nat → List Validator → List Value → Eval StageRejection (List Value)
  | i, d :: ds, x :: xs => do
    let y ← part (indexKey i) (d.validate x)
    return y :: (← validateSlots (i + 1) ds xs)
  | _, _, _ => pure []

/-- Accepts arrays with one item for each slot. -/
def tupleStep (slots : List Validator) : Step := fun v => do
  match v.items? with
  | none => failCheck "tuple.type" "Value must be an array"
  | some xs =>
    if xs.length = slots.length then return .list (← validateSlots 0 slots xs)
    else
      failCheck "tuple.length"
        ("Value must contain exactly " ++ toString slots.length ++ " items, got " ++
          toString xs.length)

/-- The stages of a tuple. -/
def tupleStages (r : Rule) (slots : List Validator) (path : String) :
    Eval RuleError (List Stage) := do
  let schemas ← slots.mapM Validator.schemaValue
  let size := bound slots.length
  let schema := typeSchema "array" ++ keyword "prefixItems" (.list schemas) ++
    keyword "items" (.bool false) ++ keyword "minItems" size ++ keyword "maxItems" size
  return [← shapeStage r path ⟨tupleStep slots, schema⟩]

/-! ## Records -/

/-- Puts an entry into a mapping, if its key can be one. -/
def putEntry (es : Entries Value) (key value : Value) : Except Fault (Entries Value) :=
  match key.unkeyable? with
  | some kind => .error (.unkeyable kind)
  | none => .ok (es.put key value)

/-- Validates the entries of a mapping and adds them to `done`; those whose value comes out absent
are left out. -/
def validateEntries (keys values : Validator) (done : Entries Value) :
    Entries Value → Eval StageRejection (Entries Value)
  | [] => pure done
  | (k, x) :: rest => do
    let key ← part k (keys.validate k)
    let value ← part k (values.validate x)
    if value.isAbsent then validateEntries keys values done rest
    else validateEntries keys values (← Eval.ofFault (putEntry done key value)) rest

/-- Accepts mappings whose keys and values are accepted. -/
def recordStep (keys values : Validator) : Step := fun v => do
  match v with
  | .mapping es => return .mapping (← validateEntries keys values [] es)
  | _ => failCheck "record.type" "Value must be an object"

/-- The stages of a record. -/
def recordStages (r : Rule) (keys values : Validator) (path : String) :
    Eval RuleError (List Stage) := do
  let valueSchema ← values.schemaValue
  let keySchema ← keys.schemaValue
  let schema := typeSchema "object" ++ keyword "additionalProperties" valueSchema ++
    keyword "propertyNames" keySchema
  return [← shapeStage r path ⟨recordStep keys values, schema⟩]

end RuleSchema
