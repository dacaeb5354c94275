import RuleSchema.Rule.Strictness
import RuleSchema.Value.Basic

/-!
# Rules

A rule says which values a parameter may have.  Each type of rule has options of its own; all share
a few.  The types that contain other rules hold them as rules.

* `Rule` is the type, with one constructor for each tag.
* `Rule.isRequired` says whether an absent value must be rejected.
-/

namespace RuleSchema

/-- The options that every rule has. -/
structure CommonOptions where
  optional : Bool := false
  nullable : Bool := false
  convert : Bool := false
  /-- The value that stands for an absent one. -/
  default? : Option Value := none
  description? : Option String := none

/-- A pattern as a rule gives it: its source, or a compiled one. -/
inductive PatternSpec where
  | source (s : String)
  | compiled (source : String) (flags : PatternFlags)

/-- The options of a text. -/
structure StringOptions where
  empty? : Option Bool := none
  min? : Option Nat := none
  max? : Option Nat := none
  length? : Option Nat := none
  pattern? : Option PatternSpec := none
  patternFlags? : Option String := none
  contains? : Option String := none
  enum? : Option (List String) := none
  alpha : Bool := false
  numeric : Bool := false
  alphanum : Bool := false
  alphadash : Bool := false
  hex : Bool := false
  singleLine : Bool := false
  base64 : Bool := false
  trim : Bool := false
  trimLeft : Bool := false
  trimRight : Bool := false
  lowercase : Bool := false
  uppercase : Bool := false
  padStart? : Option Int := none
  padEnd? : Option Int := none
  padChar : String := " "

/-- The options of a number. -/
structure NumberOptions where
  min? : Option Number := none
  max? : Option Number := none
  equal? : Option Number := none
  notEqual? : Option Number := none
  integer : Bool := false
  positive : Bool := false
  negative : Bool := false

/-- The options of an email address. -/
structure EmailOptions where
  empty? : Option Bool := none
  min? : Option Nat := none
  max? : Option Nat := none
  normalize : Bool := false

/-- The options of an amount of money. -/
structure CurrencyOptions where
  symbol? : Option String := none
  symbolOptional : Bool := false
  thousandSeparator : String := ","
  decimalSeparator : String := "."
  customRegex? : Option PatternSpec := none

/-- What an identity is turned into. -/
inductive IdentityConversion where
  | keep | object | text
deriving DecidableEq

/-- The options of a list. -/
structure ArrayOptions where
  empty? : Option Bool := none
  min? : Option Nat := none
  max? : Option Nat := none
  length? : Option Nat := none
  contains? : Option Value := none
  unique : Bool := false
  enum? : Option (List Value) := none

/-- The options of an object. -/
structure ObjectOptions where
  strict? : Option DeclaredStrictness := none
  minProps? : Option Nat := none
  maxProps? : Option Nat := none

/-- A rule. -/
inductive Rule where
  | string (c : CommonOptions) (o : StringOptions)
  | number (c : CommonOptions) (o : NumberOptions)
  | boolean (c : CommonOptions)
  | date (c : CommonOptions)
  | any (c : CommonOptions)
  | email (c : CommonOptions) (o : EmailOptions)
  | currency (c : CommonOptions) (o : CurrencyOptions)
  | «class» (c : CommonOptions) (instanceOf : ClassRef)
  | enum (c : CommonOptions) (values : List Value)
  | equal (c : CommonOptions) (value : Value) (strict : Bool)
  | forbidden (c : CommonOptions) (remove : Bool)
  | function (c : CommonOptions)
  | luhn (c : CommonOptions)
  | mac (c : CommonOptions)
  | url (c : CommonOptions) (empty? : Option Bool)
  | uuid (c : CommonOptions) (empty? : Option Bool)
  | objectId (c : CommonOptions) (identity : ClassRef) (conversion : IdentityConversion)
  | array (c : CommonOptions) (items : Rule) (o : ArrayOptions)
  | object (c : CommonOptions) (props : List (String × Rule)) (o : ObjectOptions)
  | multi (c : CommonOptions) (branches : List Rule)
  | tuple (c : CommonOptions) (slots : List Rule)
  | record (c : CommonOptions) (key value : Rule)

namespace Rule

/-- The type of a rule. -/
def tag : Rule → Tag
  | .string .. => .string
  | .number .. => .number
  | .boolean _ => .boolean
  | .date _ => .date
  | .any _ => .any
  | .email .. => .email
  | .currency .. => .currency
  | .class .. => .class
  | .enum .. => .enum
  | .equal .. => .equal
  | .forbidden .. => .forbidden
  | .function _ => .function
  | .luhn _ => .luhn
  | .mac _ => .mac
  | .url .. => .url
  | .uuid .. => .uuid
  | .objectId .. => .objectId
  | .array .. => .array
  | .object .. => .object
  | .multi .. => .multi
  | .tuple .. => .tuple
  | .record .. => .record

/-- The options of a rule that every rule has. -/
def common : Rule → CommonOptions
  | .string c _ | .number c _ | .boolean c | .date c | .any c | .email c _ | .currency c _
  | .class c _ | .enum c _ | .equal c _ _ | .forbidden c _ | .function c | .luhn c | .mac c
  | .url c _ | .uuid c _ | .objectId c _ _ | .array c _ _ | .object c _ _ | .multi c _
  | .tuple c _ | .record c _ _ => c

/-- Whether a rule has a default. -/
def hasDefault (r : Rule) : Bool := r.common.default?.isSome

/-- Whether an absent value must be rejected. -/
def isRequired : Rule → Bool
  | .forbidden .. => false
  | r => !(r.common.optional || r.hasDefault)

end Rule

end RuleSchema
