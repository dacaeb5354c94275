import RuleSchema.Instant.Basic
import RuleSchema.Number.Basic
import RuleSchema.Pattern.Flags
import RuleSchema.Rule.Tag

/-!
# Values

What a rule is checked against, and what stands inside a rule where no rule is expected.  Besides
the values of a JSON document these are the values that a host program hands over directly: tuples,
bytes, instants, classes and their objects, functions, compiled patterns.  `absent` is the value of
a property that is not there; `null` is a present value.

* `Value` is the type; the keys of a mapping are values too, in the order of their insertion.
* `Value.isInstanceOf` tells whether a value belongs to a class.
* `Value.isCallable`, `Value.isTruthy`, `Value.kindName` are what messages and rules observe.
-/

namespace RuleSchema

/-- How a class of objects recognises the texts that name one of them. -/
inductive IdentityScheme where
  /-- The class has no such predicate. -/
  | none
  /-- Every text with this beginning names an object. -/
  | marked (mark : String)
  /-- Exactly the texts of this many hexadecimal digits name an object; it keeps them in lower
  case. -/
  | hexadecimal (length : Nat)
deriving DecidableEq

/-- A class of objects of the host program, by what rules can observe of it. -/
structure ObjectClass where
  name : String
  /-- The names of the classes from which this one derives. -/
  ancestors : List String
  /-- Whether its objects can be called. -/
  callable : Bool
  identity : IdentityScheme
deriving DecidableEq

/-- A class: one of the built-in kinds of values, or a class of objects. -/
inductive ClassRef where
  | int | float | bool | text | list | mapping
  | objects (c : ObjectClass)
deriving DecidableEq

namespace ClassRef

/-- The name of a class. -/
def name : ClassRef → String
  | .int => "int"
  | .float => "float"
  | .bool => "bool"
  | .text => "str"
  | .list => "list"
  | .mapping => "dict"
  | .objects c => c.name

end ClassRef

/-- A value. -/
inductive Value where
  | absent
  | null
  | bool (b : Bool)
  | number (n : Number)
  | text (s : String)
  | bytes (bs : List UInt8)
  | list (xs : List Value)
  | tuple (xs : List Value)
  | mapping (entries : List (Value × Value))
  | instant (t : Instant)
  | cls (c : ClassRef)
  | object (c : ObjectClass) (content : Value)
  /-- A function, known by its name and by which occurrence of it this is.  Called, it answers
  `result`, or counts its own calls. -/
  | func (name : String) (occurrence : Nat) (result : Option Value)
  /-- A compiled pattern. -/
  | pattern (source : String) (flags : PatternFlags)
  /-- A type tag; it is also the text of its name. -/
  | tag (t : Tag)
  /-- A normalised rule in the place of a value, with its fields by name. -/
  | rule (t : Tag) (fields : List (Value × Value))

namespace Value

/-- A whole number. -/
@[match_pattern] abbrev int (n : Int) : Value := .number (.int n)

/-- A double. -/
@[match_pattern] abbrev float (x : Binary64) : Value := .number (.float x)

instance : Inhabited Value := ⟨.null⟩

/-- The name of the class of rules with this tag. -/
def ruleKindName : Tag → String
  | .string => "StringRule"
  | .number => "NumberRule"
  | .boolean => "BooleanRule"
  | .date => "DateRule"
  | .any => "AnyRule"
  | .email => "EmailRule"
  | .currency => "CurrencyRule"
  | .class => "ClassRule"
  | .enum => "EnumRule"
  | .equal => "EqualRule"
  | .forbidden => "ForbiddenRule"
  | .function => "FunctionRule"
  | .luhn => "LuhnRule"
  | .mac => "MacRule"
  | .url => "UrlRule"
  | .uuid => "UuidRule"
  | .objectId => "ObjectIdRule"
  | .array => "ArrayRule"
  | .object => "ObjectRule"
  | .multi => "MultiRule"
  | .tuple => "TupleRule"
  | .record => "RecordRule"

/-- The name of the kind of a value in messages. -/
def kindName : Value → String
  | .absent => "_Undefined"
  | .null => "NoneType"
  | .bool _ => "bool"
  | .number (.int _) => "int"
  | .number (.float _) => "float"
  | .text _ => "str"
  | .bytes _ => "bytes"
  | .list _ => "list"
  | .tuple _ => "tuple"
  | .mapping _ => "dict"
  | .instant _ => "datetime"
  | .cls _ => "type"
  | .object c _ => c.name
  | .func .. => "Func"
  | .pattern .. => "Pattern"
  | .tag _ => "RuleType"
  | .rule t _ => ruleKindName t

/-- Whether a value is absent. -/
def isAbsent : Value → Bool
  | .absent => true
  | _ => false

/-- Whether a value is null. -/
def isNull : Value → Bool
  | .null => true
  | _ => false

/-- The text that a value is, if it is one. -/
def text? : Value → Option String
  | .text s => some s
  | .tag t => some t.name
  | _ => none

/-- The number that a value is, if it is one; the truth values are not numbers here. -/
def number? : Value → Option Number
  | .number n => some n
  | _ => none

/-- The number that a value counts as in arithmetic and order: the truth values are 0 and 1. -/
def numeric? : Value → Option Number
  | .bool b => some (.int b.toNat)
  | .number n => some n
  | _ => none

/-- The items of a list or tuple. -/
def items? : Value → Option (List Value)
  | .list xs => some xs
  | .tuple xs => some xs
  | _ => none

/-- What is met, one after the other, in a value that has parts: the items of a list or tuple, the
characters of a text, the keys of a mapping, the numbers of bytes. -/
def elements? : Value → Option (List Value)
  | .list xs => some xs
  | .tuple xs => some xs
  | .text s => some (s.toList.map fun c => .text (String.singleton c))
  | .tag t => some (t.name.toList.map fun c => .text (String.singleton c))
  | .mapping es => some (es.map Prod.fst)
  | .bytes bs => some (bs.map fun b => int b.toNat)
  | _ => none

/-- Whether a value can be called. -/
def isCallable : Value → Bool
  | .cls _ => true
  | .func .. => true
  | .object c _ => c.callable
  | _ => false

/-- Whether a value counts as true in a condition: zero, `null`, the absent value and everything
empty do not. -/
def isTruthy : Value → Bool
  | .absent => false
  | .null => false
  | .bool b => b
  | .number n => !n.isZero
  | .text s => s != ""
  | .bytes bs => !bs.isEmpty
  | .list xs => !xs.isEmpty
  | .tuple xs => !xs.isEmpty
  | .mapping es => !es.isEmpty
  | _ => true

/-- Whether a value belongs to a class. -/
def isInstanceOf (c : ClassRef) : Value → Bool
  | .bool _ => c = .bool || c = .int
  | .number (.int _) => c = .int
  | .number (.float _) => c = .float
  | .text _ => c = .text
  | .tag _ => c = .text
  | .list _ => c = .list
  | .mapping _ => c = .mapping
  | .object d _ =>
    match c with
    | .objects c => c.name = d.name || d.ancestors.contains c.name
    | _ => false
  | _ => false

/-- The empty value of a built-in class; an object of nothing for any other. -/
def emptyOf : ClassRef → Value
  | .int => .int 0
  | .float => .float (.signedZero false)
  | .bool => .bool false
  | .text => .text ""
  | .list => .list []
  | .mapping => .mapping []
  | .objects c => .object c .null

end Value

end RuleSchema
