import RuleSchema.Reading.Scalar
import RuleSchema.Rule.Basic
import RuleSchema.Rule.Error

/-!
# The fields of a rule mapping

A rule mapping has fields with names; some have a second name.  A reader takes the fields that a
type of rule knows, each with its own kind of value, and collects every problem: first those of the
known fields in their order, then the fields that the type does not know.

* `Checked` collects problems.
* `FieldName.read` reads one field; `unknownFields` finds the fields that no reader asked for.
* `CommonOptions.read`, `StringOptions.read` and so on read the options of the types of rules.
-/

namespace RuleSchema

/-- A result, or all the problems that stand in its way. -/
inductive Checked (α : Type) where
  | good (a : α)
  | bad (problems : List FieldProblem)

namespace Checked

/-- The problems of a result. -/
def problems {α : Type} : Checked α → List FieldProblem
  | .good _ => []
  | .bad ps => ps

/-- A function and its argument, with the problems of both. -/
def apply {α β : Type} (f : Checked (α → β)) (x : Checked α) : Checked β :=
  match f, x with
  | .good f, .good a => .good (f a)
  | f, x => .bad (f.problems ++ x.problems)

instance : Functor Checked where
  map f x := match x with
    | .good a => .good (f a)
    | .bad ps => .bad ps

instance : Applicative Checked where
  pure := .good
  seq f x := f.apply (x ())

end Checked

/-- The names of a field: the one in the rule language, and a second one. -/
structure FieldName where
  name : String
  second? : Option String := none

/-- How a value is read: a result, or problems with places inside the value. -/
abbrev FieldReader (α : Type) := Value → Except (List FieldProblem) α

namespace FieldName

/-- The name under which a mapping has the field. -/
def usedName (f : FieldName) (es : Entries Value) : Option String :=
  if es.hasKey (.text f.name) then some f.name
  else f.second?.filter fun s => es.hasKey (.text s)

/-- Reads the field, or gives its default if it is missing. -/
def read {α : Type} (f : FieldName) (es : Entries Value) (reader : FieldReader α) (default : α) :
    Checked α :=
  match f.usedName es with
  | none => .good default
  | some used =>
    match reader ((es.at? used).getD .null) with
    | .ok a => .good a
    | .error ps => .bad (ps.map fun p => { p with place := used :: p.place })

/-- Reads a field that must be there. -/
def require {α : Type} (f : FieldName) (es : Entries Value) (reader : FieldReader α) :
    Checked α :=
  match f.usedName es with
  | none => .bad [{ place := [f.name], message := "Field required", code := "missing" }]
  | some used =>
    match reader ((es.at? used).getD .null) with
    | .ok a => .good a
    | .error ps => .bad (ps.map fun p => { p with place := used :: p.place })

end FieldName

/-! ## Readers of values -/

namespace FieldReader

variable {α : Type}

/-- One problem with the whole value. -/
def problem (message code : String) : Except (List FieldProblem) α :=
  .error [{ place := [], message, code }]

/-- The problem with a scalar at a place. -/
def scalarProblem (place : List String) (p : ScalarProblem) : FieldProblem :=
  { place, message := p.message, code := p.code }

/-- A scalar. -/
def scalar (reader : ScalarReader α) : FieldReader α := fun v =>
  (reader v).mapError fun p => [scalarProblem [] p]

/-- Null for nothing, or a value. -/
def nullable (reader : FieldReader α) : FieldReader (Option α) := fun v =>
  if v.isNull then .ok none else (reader v).map some

/-- Any value. -/
def anything : FieldReader Value := .ok

/-- Any value but null, which means nothing. -/
def something : FieldReader (Option Value) := fun v => .ok (if v.isNull then none else some v)

/-- A count. -/
def count : FieldReader Nat := fun v =>
  match readInt v with
  | .error p => .error [scalarProblem [] p]
  | .ok n =>
    if n < 0 then problem "Input should be greater than or equal to 0" "greater_than_equal"
    else .ok n.toNat

/-- A number, whole or not. -/
def number : FieldReader Number := fun v =>
  (readNumber false v).mapError fun (p, q) => [scalarProblem ["int"] p, scalarProblem ["float"] q]

/-- A text with some character. -/
def nonEmptyText : FieldReader String := fun v =>
  match readText v with
  | .error p => .error [scalarProblem [] p]
  | .ok s =>
    if s = "" then problem "String should have at least 1 character" "string_too_short"
    else .ok s

/-- A pattern: its source, or a compiled one. -/
def pattern : FieldReader PatternSpec
  | .pattern source flags => .ok (.compiled source flags)
  | v =>
    match readText v with
    | .ok s => .ok (.source s)
    | .error p =>
      .error [scalarProblem ["str"] p,
        { place := ["function-plain[pattern_either_validator()]"]
          message := "Input should be a valid pattern", code := "pattern_type" }]

/-- A result whose problems lie under a place. -/
def under (place : String) : Except (List FieldProblem) α → Checked α
  | .ok a => .good a
  | .error ps => .bad (ps.map fun p => { p with place := place :: p.place })

/-- The results of reading the items of a list from an index on. -/
def collect (reader : FieldReader α) : Nat → List Value → Checked (List α)
  | _, [] => .good []
  | i, v :: vs =>
    List.cons <$> under (toString i) (reader v) <*> collect reader (i + 1) vs

/-- A list. -/
def list (reader : FieldReader α) : FieldReader (List α) := fun v =>
  match v.items? with
  | none => problem "Input should be a valid list" "list_type"
  | some vs =>
    match collect reader 0 vs with
    | .good as => .ok as
    | .bad ps => .error ps

/-- A list with some item. -/
def nonEmptyList (reader : FieldReader α) : FieldReader (List α) := fun v => do
  let as ← list reader v
  if as.isEmpty then problem "List should have at least 1 item after validation, not 0" "too_short"
  else return as

/-- A class. -/
def classRef : FieldReader ClassRef
  | .cls c => .ok c
  | _ => problem "Input should be a type" "is_type"

/-- A truth value or one word. -/
def boolOrWord (word : String) : FieldReader (Option Bool) := fun v =>
  if v.text? = some word then .ok none
  else
    match readBool v with
    | .ok b => .ok (some b)
    | .error p =>
      .error [scalarProblem ["bool"] p,
        { place := ["literal['" ++ word ++ "']"], message := "Input should be '" ++ word ++ "'"
          code := "literal_error" }]

/-- A policy for unknown keys. -/
def strictness : FieldReader DeclaredStrictness := fun v =>
  (boolOrWord "remove" v).map fun
    | none => .remove
    | some b => .strict b

/-- What an identity is turned into. -/
def conversion : FieldReader IdentityConversion := fun v =>
  (boolOrWord "hexString" v).map fun
    | none => .text
    | some true => .object
    | some false => .keep

end FieldReader

open FieldReader

/-! ## The fields of the types -/

/-- A flag. -/
def flag (es : Entries Value) (f : FieldName) : Checked Bool := f.read es (scalar readBool) false

/-- A field that may be null. -/
def optionalField {α : Type} (es : Entries Value) (f : FieldName) (reader : FieldReader α) :
    Checked (Option α) :=
  f.read es (nullable reader) none

/-- The names of the shared fields. -/
def commonNames : List FieldName :=
  [⟨"optional", none⟩, ⟨"nullable", none⟩, ⟨"convert", none⟩, ⟨"default", none⟩,
    ⟨"description", none⟩]

/-- Reads the shared fields; `convert` is read apart. -/
def CommonOptions.read (es : Entries Value) (convert : Checked Bool) : Checked CommonOptions :=
  CommonOptions.mk <$> flag es ⟨"optional", none⟩ <*> flag es ⟨"nullable", none⟩ <*> convert <*>
    FieldName.read ⟨"default", none⟩ es something none <*>
    optionalField es ⟨"description", none⟩ (scalar readText)

/-- Reads the shared fields of a rule that converts or not. -/
def CommonOptions.readAll (es : Entries Value) : Checked CommonOptions :=
  CommonOptions.read es (flag es ⟨"convert", none⟩)

/-- A field of one name. -/
def own (name : String) : FieldName := ⟨name, none⟩

/-- A field with a second name. -/
def both (name second : String) : FieldName := ⟨name, some second⟩

namespace StringOptions

/-- The names of the fields. -/
def names : List FieldName :=
  [own "empty", own "min", own "max", own "length", own "pattern",
    both "patternFlags" "pattern_flags", own "contains", own "enum", own "alpha", own "numeric",
    own "alphanum", own "alphadash", own "hex", both "singleLine" "single_line", own "base64",
    own "trim", both "trimLeft" "trim_left", both "trimRight" "trim_right", own "lowercase",
    own "uppercase", both "padStart" "pad_start", both "padEnd" "pad_end",
    both "padChar" "pad_char"]

/-- Reads the fields. -/
def read (es : Entries Value) : Checked StringOptions :=
  StringOptions.mk <$> optionalField es (own "empty") (scalar readBool) <*>
    optionalField es (own "min") count <*> optionalField es (own "max") count <*>
    optionalField es (own "length") count <*> optionalField es (own "pattern") pattern <*>
    optionalField es (both "patternFlags" "pattern_flags") (scalar readText) <*>
    optionalField es (own "contains") (scalar readText) <*>
    optionalField es (own "enum") (list (scalar readText)) <*>
    flag es (own "alpha") <*> flag es (own "numeric") <*> flag es (own "alphanum") <*>
    flag es (own "alphadash") <*> flag es (own "hex") <*>
    flag es (both "singleLine" "single_line") <*> flag es (own "base64") <*>
    flag es (own "trim") <*> flag es (both "trimLeft" "trim_left") <*>
    flag es (both "trimRight" "trim_right") <*> flag es (own "lowercase") <*>
    flag es (own "uppercase") <*>
    optionalField es (both "padStart" "pad_start") (scalar readInt) <*>
    optionalField es (both "padEnd" "pad_end") (scalar readInt) <*>
    (both "padChar" "pad_char").read es nonEmptyText " "

end StringOptions

namespace NumberOptions

/-- The names of the fields. -/
def names : List FieldName :=
  [own "min", own "max", own "equal", both "notEqual" "not_equal", own "integer",
    own "positive", own "negative"]

/-- Reads the fields. -/
def read (es : Entries Value) : Checked NumberOptions :=
  NumberOptions.mk <$> optionalField es (own "min") number <*>
    optionalField es (own "max") number <*> optionalField es (own "equal") number <*>
    optionalField es (both "notEqual" "not_equal") number <*> flag es (own "integer") <*>
    flag es (own "positive") <*> flag es (own "negative")

end NumberOptions

namespace EmailOptions

/-- The names of the fields. -/
def names : List FieldName := [own "empty", own "min", own "max", own "normalize"]

/-- Reads the fields. -/
def read (es : Entries Value) : Checked EmailOptions :=
  EmailOptions.mk <$> optionalField es (own "empty") (scalar readBool) <*>
    optionalField es (own "min") count <*> optionalField es (own "max") count <*>
    flag es (own "normalize")

end EmailOptions

namespace CurrencyOptions

/-- The names of the fields. -/
def names : List FieldName :=
  [both "currencySymbol" "currency_symbol", both "symbolOptional" "symbol_optional",
    both "thousandSeparator" "thousand_separator", both "decimalSeparator" "decimal_separator",
    both "customRegex" "custom_regex"]

/-- Reads the fields. -/
def read (es : Entries Value) : Checked CurrencyOptions :=
  CurrencyOptions.mk <$>
    optionalField es (both "currencySymbol" "currency_symbol") (scalar readText) <*>
    flag es (both "symbolOptional" "symbol_optional") <*>
    (both "thousandSeparator" "thousand_separator").read es nonEmptyText "," <*>
    (both "decimalSeparator" "decimal_separator").read es nonEmptyText "." <*>
    optionalField es (both "customRegex" "custom_regex") pattern

end CurrencyOptions

namespace ArrayOptions

/-- The names of the fields. -/
def names : List FieldName :=
  [own "items", own "empty", own "min", own "max", own "length", own "contains", own "unique",
    own "enum"]

/-- Reads the fields. -/
def read (es : Entries Value) : Checked ArrayOptions :=
  ArrayOptions.mk <$> optionalField es (own "empty") (scalar readBool) <*>
    optionalField es (own "min") count <*> optionalField es (own "max") count <*>
    optionalField es (own "length") count <*> (own "contains").read es something none <*>
    flag es (own "unique") <*> optionalField es (own "enum") (list anything)

end ArrayOptions

namespace ObjectOptions

/-- The names of the fields. -/
def names : List FieldName :=
  [own "props", own "strict", both "minProps" "min_props", both "maxProps" "max_props"]

/-- Reads the fields. -/
def read (es : Entries Value) : Checked ObjectOptions :=
  ObjectOptions.mk <$> optionalField es (own "strict") strictness <*>
    optionalField es (both "minProps" "min_props") count <*>
    optionalField es (both "maxProps" "max_props") count

end ObjectOptions

/-! ## Fields that are not known -/

/-- The text of a key where a problem is placed. -/
def keyPlace (k : Value) : String :=
  match k with
  | .bool b => if b then "1" else "0"
  | k =>
    match k.text? with
    | some s => s
    | none => k.display

/-- A problem for every field that none of some names asked for. -/
def unknownFields (names : List FieldName) (es : Entries Value) : List FieldProblem :=
  let used := names.filterMap fun f => f.usedName es
  es.filterMap fun e =>
    match e.1.text? with
    | none =>
      some { place := [keyPlace e.1], message := "Keys should be strings", code := "invalid_key" }
    | some s =>
      if used.contains s then none
      else
        some { place := [s], message := "Extra inputs are not permitted"
               code := "extra_forbidden" }

/-- A result, unless there are fields that are not known. -/
def closed {α : Type} (x : Checked α) (names : List FieldName) (es : Entries Value) :
    Checked α :=
  match x, unknownFields (commonNames ++ names) es with
  | .good a, [] => .good a
  | x, ps => .bad (x.problems ++ ps)

end RuleSchema
