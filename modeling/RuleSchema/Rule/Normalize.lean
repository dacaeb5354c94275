import RuleSchema.Rule.Fields
import RuleSchema.Rule.Shorthand
import RuleSchema.Rule.Source
import RuleSchema.Value.Order

/-!
# Normalising rules

A rule may be written in several ways: as a shorthand text, as a list that is read as a union, as a
mapping with a type, as a mapping of properties with a marker for its own type, or as a rule that
is already normalised.  Normalising gives one tree of rules for all of them.

The rules inside a rule are found by name in a mapping, so each entry of a mapping carries the ways
in which its content can be read: as a rule, as a list of rules, as named rules.

* `normalize` normalises a source for the place `path`.
* `Part` is an entry's content with its readings; `normalizeFields` reads the fields of a mapping.
-/

namespace RuleSchema

/-- How a source is read as a rule at a place. -/
abbrev RuleReader := String → Except (Stop RuleError) Rule

/-- The content of an entry of a rule mapping, with its readings. -/
structure Part where
  value : Value
  rule : RuleReader
  /-- The items, if the content is a list. -/
  items? : Option (List RuleReader)
  /-- The entries, if the content is a mapping. -/
  props? : Option (Entries RuleReader)

/-- Stops with a rejection. -/
def rejectRule {α : Type} (e : RuleError) : Except (Stop RuleError) α := .error (.rejected e)

/-! ## The fields of a mapping -/

/-- A rule without rules inside, from its fields. -/
def simpleRule (es : Entries Value) : Tag → Checked Rule
  | .string =>
    closed (Rule.string <$> CommonOptions.readAll es <*> StringOptions.read es)
      StringOptions.names es
  | .number =>
    closed (Rule.number <$> CommonOptions.readAll es <*> NumberOptions.read es)
      NumberOptions.names es
  | .boolean => closed (Rule.boolean <$> CommonOptions.readAll es) [] es
  | .date => closed (Rule.date <$> CommonOptions.readAll es) [] es
  | .email =>
    closed (Rule.email <$> CommonOptions.readAll es <*> EmailOptions.read es)
      EmailOptions.names es
  | .currency =>
    closed (Rule.currency <$> CommonOptions.readAll es <*> CurrencyOptions.read es)
      CurrencyOptions.names es
  | .class =>
    let field := both "instanceOf" "instance_of"
    closed (Rule.class <$> CommonOptions.readAll es <*> field.require es FieldReader.classRef)
      [field] es
  | .enum =>
    let field := own "values"
    closed (Rule.enum <$> CommonOptions.readAll es <*>
      field.require es (FieldReader.nonEmptyList FieldReader.anything)) [field] es
  | .equal =>
    closed (Rule.equal <$> CommonOptions.readAll es <*>
      (own "value").require es FieldReader.anything <*> flag es (own "strict"))
      [own "value", own "strict"] es
  | .forbidden =>
    closed (Rule.forbidden <$> CommonOptions.readAll es <*> flag es (own "remove"))
      [own "remove"] es
  | .function => closed (Rule.function <$> CommonOptions.readAll es) [] es
  | .luhn => closed (Rule.luhn <$> CommonOptions.readAll es) [] es
  | .mac => closed (Rule.mac <$> CommonOptions.readAll es) [] es
  | .url =>
    closed (Rule.url <$> CommonOptions.readAll es <*>
      optionalField es (own "empty") (FieldReader.scalar readBool)) [own "empty"] es
  | .uuid =>
    closed (Rule.uuid <$> CommonOptions.readAll es <*>
      optionalField es (own "empty") (FieldReader.scalar readBool)) [own "empty"] es
  | .objectId =>
    let field := both "ObjectID" "object_id"
    let conversion := (own "convert").read es FieldReader.conversion .keep
    let kind := match conversion with
      | .good k => k
      | .bad _ => .keep
    closed ((fun c identity => Rule.objectId c identity kind) <$>
      CommonOptions.read es ((fun k => decide (k ≠ .keep)) <$> conversion) <*>
      field.require es FieldReader.classRef) [field] es
  | _ => closed (Rule.any <$> CommonOptions.readAll es) [] es

/-- A rule, unless some of its fields are bad. -/
def finishRule (tag : Tag) (path : String) : Checked Rule → Except (Stop RuleError) Rule
  | .good r => .ok r
  | .bad problems => rejectRule (.badFields tag path problems)

/-- The values of the entries of a mapping. -/
def partValues (parts : Entries Part) : Entries Value := parts.map fun e => (e.1, e.2.value)

/-- The content of a field without which a rule means nothing. -/
def requirePart (parts : Entries Part) (field : String) (tag : Tag) (path : String) :
    Except (Stop RuleError) Part :=
  match parts.at? field with
  | some part =>
    if part.value.isNull then rejectRule (.missingPart tag path field) else .ok part
  | none => rejectRule (.missingPart tag path field)

/-- The place of an item. -/
def itemPath (path : String) (i : Nat) : String := path ++ "[" ++ toString i ++ "]"

/-- Reads rules one after the other. -/
def readRules (path : String) : Nat → List RuleReader → Except (Stop RuleError) (List Rule)
  | _, [] => .ok []
  | i, reader :: readers => do
    let r ← reader (itemPath path i)
    return r :: (← readRules path (i + 1) readers)

/-- Reads named rules one after the other. -/
def readProps (path : String) :
    Entries RuleReader → Except (Stop RuleError) (List (Value × Rule))
  | [] => .ok []
  | (key, reader) :: rest => do
    let r ← reader (path ++ "." ++ key.plainText)
    return (key, r) :: (← readProps path rest)

/-- The names of properties, which have to be texts. -/
def propNames : List (Value × Rule) → Checked (List (String × Rule))
  | [] => .good []
  | (key, r) :: rest =>
    let name : Checked String := match readText key with
      | .ok s => .good s
      | .error p => .bad [FieldReader.scalarProblem ["props", keyPlace key, "[key]"] p]
    (fun s others => (s, r) :: others) <$> name <*> propNames rest

/-- The properties of an object rule. -/
def propsPart (parts : Entries Part) (path : String) :
    Except (Stop RuleError) (Entries RuleReader) :=
  let found? := match parts.at? "props" with
    | some part => some part
    | none => parts.at? "properties"
  match found? with
  | none => rejectRule (.noProps path)
  | some part =>
    if part.value.isNull then rejectRule (.noProps path)
    else
      match part.props? with
      | some props => .ok props
      | none => rejectRule (.propsNotMapping path)

/-- The rule of one side of a record, or the rule that stands for a missing one. -/
def recordSide (parts : Entries Part) (field path : String) (missing : Rule) :
    Except (Stop RuleError) Rule :=
  match parts.at? field with
  | none => .ok missing
  | some part => if part.value.isNull then .ok missing else part.rule path

/-- Reads the fields of a rule mapping, its type left out. -/
def normalizeFields (tag : Tag) (parts : Entries Part) (path : String) :
    Except (Stop RuleError) Rule :=
  let es := partValues parts
  match tag with
  | .array => do
    let part ← requirePart parts "items" .array path
    let items ← part.rule (path ++ "[]")
    finishRule .array path (closed
      ((fun c o => Rule.array c items o) <$> CommonOptions.readAll es <*> ArrayOptions.read es)
      ArrayOptions.names es)
  | .object => do
    let readers ← propsPart parts path
    let props ← readProps path readers
    let es := (es.erase (.text "properties")).put (.text "props") .null
    finishRule .object path (closed
      ((fun c props o => Rule.object c props o) <$> CommonOptions.readAll es <*>
        propNames props <*> ObjectOptions.read es) ObjectOptions.names es)
  | .multi => do
    let part ← requirePart parts "rules" .multi path
    match part.items? with
    | none => rejectRule (.branchesNotList path)
    | some [] => rejectRule (.noBranches path)
    | some readers =>
      let branches ← readRules path 0 readers
      finishRule .multi path (closed
        ((fun c => Rule.multi c branches) <$> CommonOptions.readAll es) [own "rules"] es)
  | .tuple => do
    let part ← requirePart parts "items" .tuple path
    match part.items? with
    | none => rejectRule (.slotsNotList path)
    | some readers =>
      let slots ← readRules path 0 readers
      finishRule .tuple path (closed
        ((fun c => Rule.tuple c slots) <$> CommonOptions.readAll es) [own "items"] es)
  | .record => do
    let key ← recordSide parts "key" (path ++ "<key>") (.string {} {})
    let value ← recordSide parts "value" (path ++ "<value>") (.any {})
    finishRule .record path (closed
      ((fun c => Rule.record c key value) <$> CommonOptions.readAll es)
      [own "key", own "value"] es)
  | tag => finishRule tag path (simpleRule es tag)

/-- The type that a value names. -/
def readTag (v : Value) (path : String) : Except (Stop RuleError) Tag :=
  match v with
  | .tag t => .ok t
  | .text s =>
    match Tag.ofName? s with
    | some t => .ok t
    | none => rejectRule (.unknownType path s)
  | v => rejectRule (.typeNotText path v.display)

/-- Reads a rule mapping. -/
def normalizeMapping (parts : Entries Part) (path : String) : Except (Stop RuleError) Rule :=
  match parts.at? "type" with
  | none => rejectRule (.noType path (sortTexts (parts.keys.map Value.plainText)))
  | some type => do
    let tag ← readTag type.value path
    normalizeFields tag (parts.erase (.text "type")) path

/-! ## Shorthand texts -/

/-- The reading of a value that is no rule. -/
def notRule (v : Value) : RuleReader := fun path => rejectRule (.notARule path v.kindName)

/-- The value of a modifier with its readings. -/
def textPart (ofText : String → RuleReader) (v : Value) : Part where
  value := v
  rule := match v with
    | .text s => ofText s
    | v => notRule v
  items? := none
  props? := none

/-- Reads a shorthand text.  The texts inside one are shorter, so the first argument, the length of
the text and one, does not run out. -/
def shorthandRule : Nat → String → RuleReader
  | 0, s => fun path => rejectRule (.emptyType path s)
  | n + 1, s => fun path => do
    let es ← Shorthand.parse s path
    normalizeMapping (es.map fun e => (e.1, textPart (shorthandRule n) e.2)) path

/-- Reads a shorthand text. -/
def normalizeText (s : String) : RuleReader := shorthandRule (s.length + 1) s

/-! ## All sources -/

/-- Whether all branches may be absent. -/
def allOptional (branches : List Rule) : Bool := branches.all fun r => r.common.optional

/-- Reads a list of rules as a union. -/
def normalizeUnion (readers : List RuleReader) (path : String) :
    Except (Stop RuleError) Rule :=
  match readers with
  | [] => rejectRule (.emptyUnion path)
  | readers => do
    let branches ← readRules path 0 readers
    return .multi { optional := allOptional branches } branches

/-- Whether a key is a pragma and no name. -/
def isPragma (key : Value) : Bool := (Text.after? ['$', '$'] key.plainText.toList).isSome

/-- The properties of a mapping with a marker for its own type. -/
def markedProps (parts : Entries Part) : Part where
  value := .mapping ((partValues parts).filter fun e => !isPragma e.1)
  rule := notRule .null
  items? := none
  props? := some ((parts.filter fun e => !isPragma e.1).map fun e => (e.1, e.2.rule))

/-- Reads a mapping of properties whose own type is the shorthand under the marker. -/
def normalizeMarked (marker : Value) (parts : Entries Part) (path : String) :
    Except (Stop RuleError) Rule :=
  match marker.text? with
  | none => rejectRule (.markerNotText path)
  | some s => do
    let es ← Shorthand.parse s path
    let type := (es.at? "type").getD .null
    if !type.equals (.text Tag.object.name) then rejectRule (.markerNotObject path type)
    let own : Entries Part := es.map fun e => (e.1, textPart normalizeText e.2)
    normalizeMapping (own.put (.text "props") (markedProps parts)) path

/-- Reads a mapping. -/
def normalizeEntries (parts : Entries Part) (path : String) : Except (Stop RuleError) Rule :=
  match parts.at? "$$type" with
  | some marker => normalizeMarked marker.value parts path
  | none => normalizeMapping parts path

mutual

/-- Normalises a source for a place. -/
def normalize : RuleSource → RuleReader
  | .ready r => fun _ => .ok r
  | .text s => normalizeText s
  | .list xs => normalizeUnion (itemReaders xs)
  | .mapping es => normalizeEntries (entryParts es)
  | .other (.tag t) => normalizeText t.name
  | .other v => notRule v
termination_by structural x => x

/-- The readings of the items of a list. -/
def itemReaders : List RuleSource → List RuleReader
  | [] => []
  | x :: xs => normalize x :: itemReaders xs
termination_by structural x => x

/-- The readings of the entries of a mapping. -/
def entryReaders : List (Value × RuleSource) → Entries RuleReader
  | [] => []
  | (k, x) :: es => (k, normalize x) :: entryReaders es
termination_by structural x => x

/-- The readings of the items of a source that is a list. -/
def listReading : RuleSource → Option (List RuleReader)
  | .list xs => some (itemReaders xs)
  | _ => none
termination_by structural x => x

/-- The readings of the entries of a source that is a mapping. -/
def mappingReading : RuleSource → Option (Entries RuleReader)
  | .mapping es => some (entryReaders es)
  | _ => none
termination_by structural x => x

/-- The entries of a mapping with their readings. -/
def entryParts : List (Value × RuleSource) → Entries Part
  | [] => []
  | (k, x) :: es =>
    (k, ⟨x.toValue, normalize x, listReading x, mappingReading x⟩) :: entryParts es
termination_by structural x => x

end

end RuleSchema
