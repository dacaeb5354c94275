import RuleSchema.Rule.Tag
import RuleSchema.Value.Display
import RuleSchema.Value.Entries

/-!
# Rules that cannot be compiled

Each constructor of `RuleError` is one reason why a rule cannot become a validator.  A reason has a
kind, which callers may act upon, a message for the author of the rule, and details.
-/

namespace RuleSchema

/-- A problem with one field of a rule. -/
structure FieldProblem where
  /-- Where in the rule the problem lies: names and indices. -/
  place : List String
  message : String
  /-- The kind of problem, for programs. -/
  code : String := "invalid"

/-- Why a rule cannot be compiled. -/
inductive RuleError where
  /-- A shorthand rule names no type. -/
  | emptyType (path rule : String)
  /-- A shorthand rule for an array names no type of items. -/
  | emptyItemType (path rule : String)
  /-- Nothing stands between two bars of a shorthand rule. -/
  | emptyModifier (path rule : String)
  /-- A modifier has a value and no name. -/
  | namelessModifier (path rule modifier : String)
  /-- A value of this kind is no rule. -/
  | notARule (path kind : String)
  /-- The object marker of a mapping is not a text. -/
  | markerNotText (path : String)
  /-- The object marker of a mapping declares another type. -/
  | markerNotObject (path : String) (type : Value)
  /-- A rule mapping has no type. -/
  | noType (path : String) (keys : List String)
  /-- The type of a rule is not a text. -/
  | typeNotText (path display : String)
  /-- The properties of an object rule are no mapping. -/
  | propsNotMapping (path : String)
  /-- The branches of a union are no list. -/
  | branchesNotList (path : String)
  /-- The slots of a tuple are no list. -/
  | slotsNotList (path : String)
  /-- Some fields of a rule are unknown or have values of the wrong kind. -/
  | badFields (tag : Tag) (path : String) (problems : List FieldProblem)
  /-- The class of an identity rule cannot tell identities from other values. -/
  | noPredicate (path className : String)
  /-- The rules of an operation are no mapping. -/
  | rulesNotMapping (kind : String)
  /-- The policy for unknown keys is none of the known ones. -/
  | badStrictness (display : String)
  /-- No type has this name. -/
  | unknownType (path name : String)
  /-- Nothing compiles rules of this type. -/
  | noConverter (tag : Tag)
  /-- No rule language has this name. -/
  | unknownLanguage (name : String) (known : List String)
  /-- A union written as a list has no branches. -/
  | emptyUnion (path : String)
  /-- A rule lacks a part without which it means nothing. -/
  | missingPart (tag : Tag) (path field : String)
  /-- An object rule has no properties. -/
  | noProps (path : String)
  /-- A union has an empty list of branches. -/
  | noBranches (path : String)
  /-- A default is not of the declared type. -/
  | defaultMismatch (tag : Tag) (path reason display : String)
  /-- A default is rejected by the rule that declares it. -/
  | defaultRejected (tag : Tag) (path reason display : String) (check : Option String)
  /-- A pattern is compiled with an unknown option. -/
  | badPatternFlag (path source letter flags : String)
  /-- A pattern cannot be read. -/
  | badPattern (path source reason : String)
  /-- There are no stages. -/
  | noStages (tag : Tag)
  /-- The first stage does not check the shape. -/
  | shapeNotFirst (tag : Tag) (kind : String) (stages : List String)
  /-- A stage stands after one of a later kind. -/
  | stagesOutOfOrder (tag : Tag) (stage kind previous previousKind : String)
      (stages : List String)
  /-- A schema with failed fields is asked to validate. -/
  | cannotValidate (fields : List Value)
  /-- A schema with failed fields is asked for its document. -/
  | cannotExport (fields : List Value)

namespace RuleError

/-- The kind of a reason. -/
def kind : RuleError → String
  | .unknownType .. | .noConverter _ | .unknownLanguage .. => "UnknownTypeError"
  | .emptyUnion _ | .missingPart .. | .noProps _ | .noBranches _ => "UnsupportedRuleShapeError"
  | .defaultMismatch .. | .defaultRejected .. => "InvalidDefaultError"
  | .badPatternFlag .. | .badPattern .. => "RegexCompilationError"
  | .noStages _ => "EmptyPipelineError"
  | .shapeNotFirst .. | .stagesOutOfOrder .. => "PipelineOrderError"
  | .cannotValidate _ | .cannotExport _ => "IncompleteSchemaError"
  | _ => "MalformedRuleError"

/-- A text with its first letter in upper case and the others in lower case. -/
def capitalised (s : String) : String :=
  match s.toList with
  | [] => ""
  | c :: cs => String.ofList (c.toUpper :: cs.map Char.toLower)

end RuleError

namespace FieldProblem

/-- The place of a problem as a text. -/
def placeText (p : FieldProblem) : String := Text.joinWith "." p.place

/-- The problem in the message of a rule. -/
def summary (p : FieldProblem) : String :=
  (if p.placeText = "" then "rule" else p.placeText) ++ ": " ++ p.message

/-- The problem in the details of a rule. -/
def report (p : FieldProblem) : Value :=
  .mapping [(.text "loc", .text p.placeText), (.text "msg", .text p.message)]

end FieldProblem

namespace RuleError

/-- The message of a reason. -/
def message : RuleError → String
  | .emptyType path _ => "Empty rule type at " ++ path
  | .emptyItemType path _ => "Array shorthand without an item type at " ++ path
  | .emptyModifier path rule => "Empty modifier in rule '" ++ rule ++ "' at " ++ path
  | .namelessModifier path rule _ =>
    "Modifier without a name in rule '" ++ rule ++ "' at " ++ path
  | .notARule path kind =>
    "Rule at " ++ path ++ " must be a string, a list or a mapping, got " ++ kind
  | .markerNotText path => "'$$type' at " ++ path ++ " must be a shorthand string"
  | .markerNotObject path type =>
    "'$$type' at " ++ path ++ " must declare an object, got '" ++ type.plainText ++ "'"
  | .noType path _ => "Rule at " ++ path ++ " has no 'type'"
  | .typeNotText path _ => "Rule type at " ++ path ++ " must be a string"
  | .propsNotMapping path => "'props' at " ++ path ++ " must be a mapping of property rules"
  | .branchesNotList path => "'rules' at " ++ path ++ " must be a list"
  | .slotsNotList path => "Tuple 'items' at " ++ path ++ " must be a list"
  | .badFields tag path problems =>
    "Invalid " ++ tag.name ++ " rule at " ++ path ++ ": " ++
      Text.joinWith "; " (problems.map FieldProblem.summary)
  | .noPredicate path className =>
    "ObjectID class " ++ className ++ " at " ++ path ++ " has no is_valid() predicate"
  | .rulesNotMapping _ => "Parameter rules must be a mapping"
  | .badStrictness display =>
    "'$$strict' must be true, false or \"remove\", got " ++ display
  | .unknownType path name => "Unknown rule type '" ++ name ++ "' at " ++ path
  | .noConverter tag => "No converter for rule type '" ++ tag.name ++ "'"
  | .unknownLanguage name _ => "Unknown validator language '" ++ name ++ "'"
  | .emptyUnion path => "Union rule at " ++ path ++ " has no branches"
  | .missingPart tag path field =>
    capitalised tag.name ++ " rule at " ++ path ++ " has no '" ++ field ++ "'"
  | .noProps path => "Object rule at " ++ path ++ " has no 'props'"
  | .noBranches path => "Multi rule at " ++ path ++ " has an empty 'rules' list"
  | .defaultMismatch tag path reason _ =>
    "Default value for " ++ tag.name ++ " rule at " ++ path ++
      " does not match the declared type: " ++ reason
  | .defaultRejected tag path reason _ _ =>
    "Default value for " ++ tag.name ++ " rule at " ++ path ++ " fails its own rule: " ++ reason
  | .badPatternFlag path _ letter _ =>
    "Unsupported pattern flag '" ++ letter ++ "' at " ++ path
  | .badPattern path _ reason => "Invalid pattern at " ++ path ++ ": " ++ reason
  | .noStages tag => "Converter for '" ++ tag.name ++ "' produced no stages"
  | .shapeNotFirst tag kind _ =>
    "Pipeline for '" ++ tag.name ++ "' must start with a shape stage, got '" ++ kind ++ "'"
  | .stagesOutOfOrder tag stage kind previous previousKind _ =>
    "Stage '" ++ stage ++ "' (" ++ kind ++ ") runs after '" ++ previous ++ "' (" ++
      previousKind ++ ") in the '" ++ tag.name ++ "' pipeline"
  | .cannotValidate fields =>
    "Schema has " ++ toString fields.length ++ " field(s) that failed to compile"
  | .cannotExport _ => "Cannot export a schema with fields that failed to compile"

/-- A list of texts as a value. -/
def texts (xs : List String) : Value := .list (xs.map .text)

/-- Entries that are all texts. -/
def textEntries (es : List (String × String)) : Entries Value :=
  es.map fun e => (.text e.1, .text e.2)

/-- The details of a reason. -/
def details : RuleError → Entries Value
  | .emptyType path rule | .emptyItemType path rule | .emptyModifier path rule =>
    textEntries [("path", path), ("rule", rule)]
  | .namelessModifier path rule modifier =>
    textEntries [("path", path), ("rule", rule), ("modifier", modifier)]
  | .notARule path kind => textEntries [("path", path), ("rule_kind", kind)]
  | .markerNotText path => textEntries [("path", path)]
  | .markerNotObject path type => [(.text "path", .text path), (.text "rule_type", type)]
  | .noType path keys => [(.text "path", .text path), (.text "keys", texts keys)]
  | .typeNotText path display => textEntries [("path", path), ("type", display)]
  | .propsNotMapping path => textEntries [("path", path), ("rule_type", "object")]
  | .branchesNotList path => textEntries [("path", path), ("rule_type", "multi")]
  | .slotsNotList path => textEntries [("path", path), ("rule_type", "tuple")]
  | .badFields tag path problems =>
    [(.text "path", .text path), (.text "rule_type", .text tag.name),
      (.text "errors", .list (problems.map FieldProblem.report))]
  | .noPredicate path _ => textEntries [("path", path), ("rule_type", Tag.objectId.name)]
  | .rulesNotMapping kind => textEntries [("rule_kind", kind)]
  | .badStrictness display => textEntries [("pragma", "$$strict"), ("value", display)]
  | .unknownType path name =>
    [(.text "path", .text path), (.text "rule_type", .text name),
      (.text "allowed", texts (Tag.all.map Tag.name))]
  | .noConverter tag => textEntries [("rule_type", tag.name)]
  | .unknownLanguage name known =>
    [(.text "parser", .text name), (.text "allowed", texts known)]
  | .emptyUnion path => textEntries [("path", path), ("rule_type", "multi")]
  | .missingPart tag path field =>
    textEntries [("path", path), ("rule_type", tag.name), ("field", field)]
  | .noProps path => textEntries [("path", path), ("rule_type", "object")]
  | .noBranches path => textEntries [("path", path), ("rule_type", "multi")]
  | .defaultMismatch tag path _ display =>
    textEntries [("path", path), ("rule_type", tag.name), ("default", display)]
  | .defaultRejected tag path _ display check =>
    textEntries [("path", path), ("rule_type", tag.name), ("default", display)] ++
      [(.text "check", match check with
        | some check => .text check
        | none => .null)]
  | .badPatternFlag path source _ flags =>
    textEntries [("path", path), ("pattern", source), ("flags", flags)]
  | .badPattern path source reason =>
    textEntries [("path", path), ("pattern", source), ("error", reason)]
  | .noStages tag => textEntries [("rule_type", tag.name)]
  | .shapeNotFirst tag _ stages | .stagesOutOfOrder tag _ _ _ _ stages =>
    [(.text "rule_type", .text tag.name), (.text "stages", texts stages)]
  | .cannotValidate fields | .cannotExport fields => [(.text "fields", .list fields)]

end RuleError

end RuleSchema
