import RuleSchema.Proofs.Number.Exact
import RuleSchema.Proofs.Schema.Names

/-!
# What a schema means

`Value.admits` reads a schema the way that JSON Schema is read: each keyword asks something
of the values of one type and nothing of others, a name that is no keyword asks nothing, and
a value is admitted if all keywords are met.  Numbers are compared by their exact values, in
units, and a truth value is never a number.

* `Value.isDocument` are the values of JSON documents.
* `Keyword` are the keywords that are read, and `Keyword.holds` says what those without a
  schema inside ask.
* `Value.admits` reads the schemas, with what `additionalProperties` and `items` take from
  the keywords next to them.
-/

namespace RuleSchema

/-! ### Documents -/

/-- Whether a number can stand in a document: it is not larger than `10 ^ 308`, or a finite
double. -/
def Number.isReadable : Number → Bool
  | .int n => n.natAbs ≤ Nat.pow 10 308
  | .float x => x.isFinite

mutual

/-- Whether a value is one of a document. -/
def Value.isDocument : Value → Bool
  | .null => true
  | .bool _ => true
  | .number n => n.isReadable
  | .text _ => true
  | .list xs => Value.areDocuments xs
  | .mapping es => Value.areMembers es
  | _ => false
termination_by structural v => v

/-- Whether some values are all of documents. -/
def Value.areDocuments : List Value → Bool
  | [] => true
  | x :: xs => Value.isDocument x && Value.areDocuments xs
termination_by structural xs => xs

/-- Whether some entries are those of an object of a document: their keys are texts. -/
def Value.areMembers : List (Value × Value) → Bool
  | [] => true
  | (k, x) :: es =>
    (match k with
      | .text _ => true
      | _ => false) && Value.isDocument x && Value.areMembers es
termination_by structural es => es

end

/-! ### Comparisons -/

mutual

/-- Whether two values of documents are equal: numbers by value, objects whatever the order of
their members. -/
def Value.alike : Value → Value → Bool
  | .null, .null => true
  | .bool a, .bool b => a == b
  | .number m, .number n => m.units?.isSome && m.units? == n.units?
  | .text a, .text b => a == b
  | .list xs, .list ys => Value.allAlike xs ys
  | .mapping xs, .mapping ys => xs.length == ys.length && Value.alikeWithin xs ys
  | _, _ => false
termination_by structural x => x

/-- Whether two lists are equal item by item. -/
def Value.allAlike : List Value → List Value → Bool
  | [], [] => true
  | x :: xs, y :: ys => Value.alike x y && Value.allAlike xs ys
  | _, _ => false
termination_by structural x => x

/-- Whether each member of the first list equals some member of the second. -/
def Value.alikeWithin : List (Value × Value) → List (Value × Value) → Bool
  | [], _ => true
  | (k, x) :: xs, ys =>
    ys.any (fun e => Value.alike k e.1 && Value.alike x e.2) && Value.alikeWithin xs ys
termination_by structural x => x

end

/-- The exact value of a value that is a number, in units. -/
def Value.exactly? : Value → Option Int
  | .number n => n.units?
  | _ => none

/-- Whether a value is of a type: an integer is a number with an integral value, whole or
double. -/
def Value.isOfType (type : String) : Value → Bool
  | .null => type == "null"
  | .bool _ => type == "boolean"
  | .number n => type == "number" || type == "integer" && n.isIntegral
  | .text _ => type == "string"
  | .list _ => type == "array"
  | .mapping _ => type == "object"
  | _ => false

/-! ### Keywords -/

/-- The keywords that mean something. -/
inductive Keyword where
  | type | const | enum
  | minimum | maximum | exclusiveMinimum | exclusiveMaximum
  | minLength | maxLength | minItems | maxItems
  | properties | required | additionalProperties | propertyNames
  | prefixItems | items
  | not | anyOf | allOf
deriving DecidableEq

namespace Keyword

/-- The spelling of a keyword. -/
def name : Keyword → String
  | .type => "type"
  | .const => "const"
  | .enum => "enum"
  | .minimum => "minimum"
  | .maximum => "maximum"
  | .exclusiveMinimum => "exclusiveMinimum"
  | .exclusiveMaximum => "exclusiveMaximum"
  | .minLength => "minLength"
  | .maxLength => "maxLength"
  | .minItems => "minItems"
  | .maxItems => "maxItems"
  | .properties => "properties"
  | .required => "required"
  | .additionalProperties => "additionalProperties"
  | .propertyNames => "propertyNames"
  | .prefixItems => "prefixItems"
  | .items => "items"
  | .not => "not"
  | .anyOf => "anyOf"
  | .allOf => "allOf"

/-- Every keyword. -/
def all : List Keyword :=
  [.type, .const, .enum, .minimum, .maximum, .exclusiveMinimum, .exclusiveMaximum, .minLength,
    .maxLength, .minItems, .maxItems, .properties, .required, .additionalProperties,
    .propertyNames, .prefixItems, .items, .not, .anyOf, .allOf]

/-- The keyword with this spelling. -/
def ofName? (n : String) : Option Keyword := all.find? fun w => w.name = n

theorem ofName?_name (w : Keyword) : ofName? w.name = some w := by cases w <;> decide

/-- The keyword that a key is. -/
def ofKey? : Value → Option Keyword
  | .text n => ofName? n
  | _ => none

/-- Whether a bound on a number is met: a keyword without a number bounds nothing. -/
def bounds (ok : Int → Int → Bool) (x : Value) (size? : Option Int) : Bool :=
  match x.exactly?, size? with
  | some bound, some size => ok bound size
  | _, _ => true

/-- The number of characters of a text, in units. -/
def textSize? : Value → Option Int
  | .text s => some (s.length * unitsPerOne)
  | _ => none

/-- The number of items of a list, in units. -/
def listSize? : Value → Option Int
  | .list xs => some (xs.length * unitsPerOne)
  | _ => none

/-- Whether a keyword without a schema inside holds of a value; `x` is what stands under it. -/
def holds (x v : Value) : Keyword → Bool
  | .type =>
    match x with
    | .text t => v.isOfType t
    | .list ts => ts.any fun t => (t.text?.map v.isOfType).getD false
    | _ => true
  | .const => x.alike v
  | .enum =>
    match x with
    | .list xs => xs.any fun y => y.alike v
    | _ => true
  | .minimum => bounds (fun b n => b ≤ n) x v.exactly?
  | .maximum => bounds (fun b n => n ≤ b) x v.exactly?
  | .exclusiveMinimum => bounds (fun b n => b < n) x v.exactly?
  | .exclusiveMaximum => bounds (fun b n => n < b) x v.exactly?
  | .minLength => bounds (fun b n => b ≤ n) x (textSize? v)
  | .maxLength => bounds (fun b n => n ≤ b) x (textSize? v)
  | .minItems => bounds (fun b n => b ≤ n) x (listSize? v)
  | .maxItems => bounds (fun b n => n ≤ b) x (listSize? v)
  | .required =>
    match x, v with
    | .list names, .mapping es => names.all fun n => Entries.hasKey es n
    | _, _ => true
  | _ => true

end Keyword

/-! ### Schemas -/

/-- Whether the properties that a schema declares include a key. -/
def Schema.declares (siblings : Schema) (k : Value) : Bool :=
  match siblings.at? "properties" with
  | some (.mapping properties) => Entries.hasKey properties k
  | _ => false

/-- The number of items that have a schema of their own. -/
def Schema.prefixLength (siblings : Schema) : Nat :=
  match siblings.at? "prefixItems" with
  | some (.list schemas) => schemas.length
  | _ => 0

mutual

/-- **Whether a schema admits a value.** -/
def Value.admits : Value → Value → Bool
  | .bool b, _ => b
  | .mapping schema, v => Value.meets schema schema v
  | _, _ => false
termination_by structural schema => schema

/-- Whether a value meets some keywords, of the schema that has all the keywords `siblings`. -/
def Value.meets : Schema → Schema → Value → Bool
  | [], _, _ => true
  | (key, x) :: rest, siblings, v =>
    (match Keyword.ofKey? key with
      | none => true
      | some .properties =>
        match x, v with
        | .mapping properties, .mapping es => Value.admitsMembers properties es
        | _, _ => true
      | some .additionalProperties =>
        match v with
        | .mapping es => es.all fun e => siblings.declares e.1 || Value.admits x e.2
        | _ => true
      | some .propertyNames =>
        match v with
        | .mapping es => es.all fun e => Value.admits x e.1
        | _ => true
      | some .prefixItems =>
        match x, v with
        | .list schemas, .list xs => Value.admitsEach schemas xs
        | _, _ => true
      | some .items =>
        match v with
        | .list xs => (xs.drop siblings.prefixLength).all fun y => Value.admits x y
        | _ => true
      | some .not => !Value.admits x v
      | some .anyOf =>
        match x with
        | .list schemas => Value.admitsBySome schemas v
        | _ => true
      | some .allOf =>
        match x with
        | .list schemas => Value.admitsByAll schemas v
        | _ => true
      | some w => w.holds x v) && Value.meets rest siblings v
termination_by structural keywords => keywords

/-- Whether each declared property that is there is admitted by its schema. -/
def Value.admitsMembers : List (Value × Value) → Entries Value → Bool
  | [], _ => true
  | (name, schema) :: properties, es =>
    (match Entries.find? es name with
      | some x => Value.admits schema x
      | none => true) && Value.admitsMembers properties es
termination_by structural properties => properties

/-- Whether items are admitted, each by the schema at its place. -/
def Value.admitsEach : List Value → List Value → Bool
  | schema :: schemas, x :: xs => Value.admits schema x && Value.admitsEach schemas xs
  | _, _ => true
termination_by structural schemas => schemas

/-- Whether some schema admits a value. -/
def Value.admitsBySome : List Value → Value → Bool
  | [], _ => false
  | schema :: schemas, v => Value.admits schema v || Value.admitsBySome schemas v
termination_by structural schemas => schemas

/-- Whether all schemas admit a value. -/
def Value.admitsByAll : List Value → Value → Bool
  | [], _ => true
  | schema :: schemas, v => Value.admits schema v && Value.admitsByAll schemas v
termination_by structural schemas => schemas

end

/-! ### Laws -/

/-- Whether a keyword has no schema inside. -/
def Keyword.isPlain : Keyword → Bool
  | .properties | .additionalProperties | .propertyNames | .prefixItems | .items | .not | .anyOf
  | .allOf => false
  | _ => true

namespace Value

variable {s t siblings : Schema} {e : Value × Value} {x v : Value} {n : String}

theorem isDocument_list {xs : List Value} :
    (Value.list xs).isDocument = true ↔ ∀ x ∈ xs, x.isDocument = true := by
  change areDocuments xs = true ↔ _
  induction xs with
  | nil => simp [areDocuments]
  | cons x xs ih => rw [areDocuments, Bool.and_eq_true, ih, List.forall_mem_cons]

theorem isDocument_mapping {es : Entries Value} :
    (Value.mapping es).isDocument = true ↔
      ∀ e ∈ es, (∃ n, e.1 = .text n) ∧ e.2.isDocument = true := by
  change areMembers es = true ↔ _
  induction es with
  | nil => simp [areMembers]
  | cons e es ih =>
    obtain ⟨k, x⟩ := e
    have hkey : (match k with
        | .text _ => true
        | _ => false) = true ↔ ∃ n, k = .text n := by
      cases k <;> simp
    rw [areMembers.eq_def, List.forall_mem_cons, ← ih, ← hkey]
    dsimp only
    rw [Bool.and_eq_true, Bool.and_eq_true]

/-- A document is there. -/
theorem isAbsent_of_isDocument (h : v.isDocument = true) : v.isAbsent = false := by
  cases v <;> first | rfl | cases h

theorem meets_cons : meets (e :: s) siblings v = (meets [e] siblings v && meets s siblings v) := by
  rw [meets.eq_def, meets.eq_def [e]]
  exact congrArg (· && _) (Bool.and_true _).symm

theorem meets_append :
    meets (s ++ t) siblings v = (meets s siblings v && meets t siblings v) := by
  induction s with
  | nil => rfl
  | cons e s ih => rw [List.cons_append, meets_cons, ih, meets_cons (s := s), Bool.and_assoc]

/-- What follows from some keywords follows from each. -/
theorem meets_eq_all : meets s siblings v = s.all fun e => meets [e] siblings v := by
  induction s with
  | nil => rfl
  | cons e s ih => rw [meets_cons, ih, List.all_cons]

/-- A keyword without a schema inside. -/
theorem meets_plain {w : Keyword} (hw : w.isPlain = true) :
    meets (keyword w.name x) siblings v = w.holds x v := by
  cases w <;> first | exact Bool.and_true _ | cases hw

theorem meets_not : meets (keyword "not" x) siblings v = !x.admits v := Bool.and_true _

theorem meets_anyOf {schemas : List Value} :
    meets (keyword "anyOf" (.list schemas)) siblings v = schemas.any fun x => x.admits v := by
  refine (Bool.and_true _).trans ?_
  change admitsBySome schemas v = _
  induction schemas with
  | nil => rfl
  | cons x schemas ih => rw [admitsBySome, ih, List.any_cons]

theorem meets_allOf {schemas : List Value} :
    meets (keyword "allOf" (.list schemas)) siblings v = schemas.all fun x => x.admits v := by
  refine (Bool.and_true _).trans ?_
  change admitsByAll schemas v = _
  induction schemas with
  | nil => rfl
  | cons x schemas ih => rw [admitsByAll, ih, List.all_cons]

theorem meets_properties {properties es : Entries Value} :
    meets (keyword "properties" (.mapping properties)) siblings (.mapping es)
      = properties.all fun p => ((es.find? p.1).map p.2.admits).getD true := by
  refine (Bool.and_true _).trans ?_
  change admitsMembers properties es = _
  induction properties with
  | nil => rfl
  | cons p properties ih =>
    rw [admitsMembers, ih, List.all_cons]
    cases es.find? p.1 <;> rfl

theorem meets_additionalProperties {es : Entries Value} :
    meets (keyword "additionalProperties" x) siblings (.mapping es)
      = es.all fun e => siblings.declares e.1 || x.admits e.2 := Bool.and_true _

theorem meets_propertyNames {es : Entries Value} :
    meets (keyword "propertyNames" x) siblings (.mapping es) = es.all fun e => x.admits e.1 :=
  Bool.and_true _

theorem meets_items {xs : List Value} :
    meets (keyword "items" x) siblings (.list xs)
      = (xs.drop siblings.prefixLength).all fun y => x.admits y := Bool.and_true _

theorem meets_prefixItems {schemas xs : List Value} :
    meets (keyword "prefixItems" (.list schemas)) siblings (.list xs) = admitsEach schemas xs :=
  Bool.and_true _

/-- A name that is no keyword asks nothing. -/
theorem meets_other {k : Value} (hk : Keyword.ofKey? k = none) :
    meets [(k, x)] siblings v = true := by
  unfold meets
  rw [hk]
  rfl

/-- What keywords ask depends on the ones next to them by the properties that these declare and
by the number of items that have a schema of their own. -/
theorem meets_congr {siblings' : Schema} (hdeclares : siblings.declares = siblings'.declares)
    (hlength : siblings.prefixLength = siblings'.prefixLength) :
    meets s siblings v = meets s siblings' v := by
  induction s with
  | nil => rfl
  | cons e s ih =>
    obtain ⟨k, x⟩ := e
    rw [meets_cons, ih, meets_cons (s := s)]
    congr 1
    unfold meets
    rw [hdeclares, hlength]
    rfl

end Value

end RuleSchema
