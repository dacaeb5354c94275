/-!
# Type tags

The closed set of types a parameter rule may declare, each with its spelling in the rule language.
A tag is *composite* when rules of its type contain other rules.
-/

namespace RuleSchema

/-- The type of a rule. -/
inductive Tag where
  | string | number | boolean | date | any
  | email | currency | «class» | enum | equal | forbidden | function | luhn | mac | url | uuid
  | objectId
  | array | object | multi | tuple | record
deriving DecidableEq

namespace Tag

/-- The spelling of a tag in the rule language. -/
def name : Tag → String
  | .string => "string"
  | .number => "number"
  | .boolean => "boolean"
  | .date => "date"
  | .any => "any"
  | .email => "email"
  | .currency => "currency"
  | .class => "class"
  | .enum => "enum"
  | .equal => "equal"
  | .forbidden => "forbidden"
  | .function => "function"
  | .luhn => "luhn"
  | .mac => "mac"
  | .url => "url"
  | .uuid => "uuid"
  | .objectId => "objectID"
  | .array => "array"
  | .object => "object"
  | .multi => "multi"
  | .tuple => "tuple"
  | .record => "record"

/-- Every tag, in the order in which they are listed to users. -/
def all : List Tag :=
  [.string, .number, .boolean, .date, .any, .email, .currency, .class, .enum, .equal, .forbidden,
    .function, .luhn, .mac, .url, .uuid, .objectId, .array, .object, .multi, .tuple, .record]

/-- The tag with this spelling. -/
def ofName? (s : String) : Option Tag := all.find? fun t => t.name = s

/-- Whether rules of this type contain other rules. -/
def isComposite : Tag → Bool
  | .array | .object | .multi | .tuple | .record => true
  | _ => false

theorem mem_all (t : Tag) : t ∈ all := by cases t <;> decide

theorem ofName?_name (t : Tag) : ofName? t.name = some t := by cases t <;> decide

theorem name_of_ofName? {s : String} {t : Tag} (h : ofName? s = some t) : t.name = s := by
  simpa using List.find?_some h

end Tag

end RuleSchema
