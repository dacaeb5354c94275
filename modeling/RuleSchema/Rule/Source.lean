import RuleSchema.Rule.Basic
import RuleSchema.Value.Entries

/-!
# The sources of rules

What a rule is normalised from: a shorthand text, a list of rules, a mapping of fields, or a rule
that is already normalised.

* `RuleSource.ofValue` takes a value as a source.
* `Rule.toValue` gives a rule with all its fields as a value, and `RuleSource.toValue` a source.
-/

namespace RuleSchema

/-- What a rule is normalised from. -/
inductive RuleSource where
  | ready (r : Rule)
  | text (s : String)
  | list (xs : List RuleSource)
  | mapping (entries : List (Value × RuleSource))
  /-- A value that is no rule. -/
  | other (v : Value)

/-! ## The fields of a rule -/

/-- A value, or null for none. -/
def optionalValue {α : Type} (f : α → Value) : Option α → Value
  | some a => f a
  | none => .null

/-- A count as a value. -/
def countValue (n : Nat) : Value := .int n

namespace PatternSpec

/-- A pattern as a value. -/
def toValue : PatternSpec → Value
  | .source s => .text s
  | .compiled s flags => .pattern s flags

end PatternSpec

namespace DeclaredStrictness

/-- A declared policy as a value. -/
def toValue : DeclaredStrictness → Value
  | .strict b => .bool b
  | .remove => .text "remove"

end DeclaredStrictness

namespace IdentityConversion

/-- A conversion as a value. -/
def toValue : IdentityConversion → Value
  | .keep => .bool false
  | .object => .bool true
  | .text => .text "hexString"

end IdentityConversion

/-- Fields by name. -/
def namedFields (es : List (String × Value)) : Entries Value :=
  es.map fun e => (.text e.1, e.2)

/-- The shared fields of a rule. -/
def CommonOptions.fields (c : CommonOptions) (convert : Value) : Entries Value :=
  namedFields
    [("optional", .bool c.optional), ("nullable", .bool c.nullable), ("convert", convert),
      ("default", c.default?.getD .null), ("description", optionalValue .text c.description?)]

/-- The fields of a text rule. -/
def StringOptions.fields (o : StringOptions) : Entries Value :=
  namedFields
    [("empty", optionalValue .bool o.empty?), ("min", optionalValue countValue o.min?),
      ("max", optionalValue countValue o.max?), ("length", optionalValue countValue o.length?),
      ("pattern", optionalValue PatternSpec.toValue o.pattern?),
      ("pattern_flags", optionalValue .text o.patternFlags?),
      ("contains", optionalValue .text o.contains?),
      ("enum", optionalValue (fun xs => .list (xs.map .text)) o.enum?),
      ("alpha", .bool o.alpha), ("numeric", .bool o.numeric), ("alphanum", .bool o.alphanum),
      ("alphadash", .bool o.alphadash), ("hex", .bool o.hex), ("single_line", .bool o.singleLine),
      ("base64", .bool o.base64), ("trim", .bool o.trim), ("trim_left", .bool o.trimLeft),
      ("trim_right", .bool o.trimRight), ("lowercase", .bool o.lowercase),
      ("uppercase", .bool o.uppercase), ("pad_start", optionalValue .int o.padStart?),
      ("pad_end", optionalValue .int o.padEnd?), ("pad_char", .text o.padChar)]

/-- The fields of a number rule. -/
def NumberOptions.fields (o : NumberOptions) : Entries Value :=
  namedFields
    [("min", optionalValue .number o.min?), ("max", optionalValue .number o.max?),
      ("equal", optionalValue .number o.equal?),
      ("not_equal", optionalValue .number o.notEqual?), ("integer", .bool o.integer),
      ("positive", .bool o.positive), ("negative", .bool o.negative)]

/-- The fields of an email rule. -/
def EmailOptions.fields (o : EmailOptions) : Entries Value :=
  namedFields
    [("empty", optionalValue .bool o.empty?), ("min", optionalValue countValue o.min?),
      ("max", optionalValue countValue o.max?), ("normalize", .bool o.normalize)]

/-- The fields of a currency rule. -/
def CurrencyOptions.fields (o : CurrencyOptions) : Entries Value :=
  namedFields
    [("currency_symbol", optionalValue .text o.symbol?),
      ("symbol_optional", .bool o.symbolOptional),
      ("thousand_separator", .text o.thousandSeparator),
      ("decimal_separator", .text o.decimalSeparator),
      ("custom_regex", optionalValue PatternSpec.toValue o.customRegex?)]

/-- The fields of an array rule. -/
def ArrayOptions.fields (o : ArrayOptions) : Entries Value :=
  namedFields
    [("empty", optionalValue .bool o.empty?), ("min", optionalValue countValue o.min?),
      ("max", optionalValue countValue o.max?), ("length", optionalValue countValue o.length?),
      ("contains", o.contains?.getD .null), ("unique", .bool o.unique),
      ("enum", optionalValue .list o.enum?)]

/-- The fields of an object rule. -/
def ObjectOptions.fields (o : ObjectOptions) : Entries Value :=
  namedFields
    [("strict", optionalValue DeclaredStrictness.toValue o.strict?),
      ("min_props", optionalValue countValue o.minProps?),
      ("max_props", optionalValue countValue o.maxProps?)]

mutual

/-- A rule with its fields as a value. -/
def Rule.toValue : Rule → Value
  | .string c o => ruleValue .string c o.fields
  | .number c o => ruleValue .number c o.fields
  | .boolean c => ruleValue .boolean c []
  | .date c => ruleValue .date c []
  | .any c => ruleValue .any c []
  | .email c o => ruleValue .email c o.fields
  | .currency c o => ruleValue .currency c o.fields
  | .class c k => ruleValue .class c [(.text "instance_of", .cls k)]
  | .enum c values => ruleValue .enum c [(.text "values", .list values)]
  | .equal c value strict =>
    ruleValue .equal c [(.text "value", value), (.text "strict", .bool strict)]
  | .forbidden c remove => ruleValue .forbidden c [(.text "remove", .bool remove)]
  | .function c => ruleValue .function c []
  | .luhn c => ruleValue .luhn c []
  | .mac c => ruleValue .mac c []
  | .url c empty? => ruleValue .url c [(.text "empty", optionalValue .bool empty?)]
  | .uuid c empty? => ruleValue .uuid c [(.text "empty", optionalValue .bool empty?)]
  | .objectId c identity conversion =>
    .rule .objectId (c.fields conversion.toValue ++ [(.text "object_id", .cls identity)])
  | .array c items o => ruleValue .array c ((.text "items", items.toValue) :: o.fields)
  | .object c props o =>
    ruleValue .object c ((.text "props", .mapping (Rule.propValues props)) :: o.fields)
  | .multi c branches =>
    ruleValue .multi c [(.text "rules", .list (Rule.toValues branches))]
  | .tuple c slots => ruleValue .tuple c [(.text "items", .list (Rule.toValues slots))]
  | .record c key value =>
    ruleValue .record c [(.text "key", key.toValue), (.text "value", value.toValue)]
where
  /-- A rule from its shared fields and its own. -/
  ruleValue (t : Tag) (c : CommonOptions) (own : Entries Value) : Value :=
    .rule t (c.fields (.bool c.convert) ++ own)

/-- Some rules as values. -/
def Rule.toValues : List Rule → List Value
  | [] => []
  | r :: rs => r.toValue :: Rule.toValues rs

/-- Named rules as values. -/
def Rule.propValues : List (String × Rule) → Entries Value
  | [] => []
  | (name, r) :: rs => (.text name, r.toValue) :: Rule.propValues rs

end

namespace RuleSource

mutual

/-- A value as a source. -/
def ofValue : Value → RuleSource
  | .text s => .text s
  | .tag t => .other (.tag t)
  | .list xs => .list (ofValues xs)
  | .mapping es => .mapping (ofEntries es)
  | v => .other v
termination_by structural x => x

/-- Some values as sources. -/
def ofValues : List Value → List RuleSource
  | [] => []
  | x :: xs => ofValue x :: ofValues xs
termination_by structural x => x

/-- The contents of some entries as sources. -/
def ofEntries : List (Value × Value) → List (Value × RuleSource)
  | [] => []
  | (k, x) :: es => (k, ofValue x) :: ofEntries es
termination_by structural x => x

end

mutual

/-- A source as a value. -/
def toValue : RuleSource → Value
  | .ready r => r.toValue
  | .text s => .text s
  | .list xs => .list (toValues xs)
  | .mapping es => .mapping (toEntries es)
  | .other v => v
termination_by structural x => x

/-- Some sources as values. -/
def toValues : List RuleSource → List Value
  | [] => []
  | x :: xs => toValue x :: toValues xs
termination_by structural x => x

/-- The contents of some entries as values. -/
def toEntries : List (Value × RuleSource) → List (Value × Value)
  | [] => []
  | (k, x) :: es => (k, toValue x) :: toEntries es
termination_by structural x => x

end

end RuleSource

end RuleSchema
