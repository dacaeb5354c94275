import RuleSchema.Text.Quoted
import RuleSchema.Text.Search
import RuleSchema.Value.Basic

/-!
# Values in messages

Every value has a *display*, which tells values of different kinds apart, and a *text*, which for
a text is the text itself.

* `Value.display` writes a value so that a reader sees its kind: texts stand between quotes.
* `Value.plainText` writes texts, tags and instants as they are and all else like `display`.
-/

namespace RuleSchema

namespace Instant

/-- A number of microseconds as a number of days, seconds and microseconds. -/
def durationDisplay (microseconds : Int) : String :=
  let days := microseconds / 86400000000
  let rest := (microseconds % 86400000000).toNat
  let parts :=
    (if days = 0 then [] else ["days=" ++ toString days]) ++
    (if rest / 1000000 = 0 then [] else ["seconds=" ++ toString (rest / 1000000)]) ++
    (if rest % 1000000 = 0 then [] else ["microseconds=" ++ toString (rest % 1000000)])
  "datetime.timedelta(" ++ Text.joinWith ", " parts ++ ")"

/-- The display of an instant. -/
def display (t : Instant) : String :=
  let seconds :=
    if t.microsecond = 0 then if t.second = 0 then [] else [t.second]
    else [t.second, t.microsecond]
  let fields := [t.year, t.month, t.day, t.hour, t.minute] ++ seconds
  let zone := match t.offset? with
    | none => []
    | some 0 => ["tzinfo=datetime.timezone.utc"]
    | some offset => ["tzinfo=datetime.timezone(" ++ durationDisplay offset ++ ")"]
  "datetime.datetime(" ++ Text.joinWith ", " (fields.map toString ++ zone) ++ ")"

end Instant

namespace PatternFlags

/-- The display of the options of a pattern, empty if there are none. -/
def display (f : PatternFlags) : String :=
  let names :=
    (if f.ignoreCase then ["re.IGNORECASE"] else []) ++
    (if f.multiline then ["re.MULTILINE"] else []) ++
    (if f.dotAll then ["re.DOTALL"] else []) ++
    (if f.verbose then ["re.VERBOSE"] else []) ++
    (if f.ascii then ["re.ASCII"] else [])
  Text.joinWith "|" names

end PatternFlags

namespace Value

/-- The display of a compiled pattern, its source cut after 200 characters. -/
def patternDisplay (source : String) (flags : PatternFlags) : String :=
  let shown := String.ofList ((Text.quoted source).toList.take 200)
  let options := flags.display
  "re.compile(" ++ shown ++ (if options = "" then "" else ", " ++ options) ++ ")"

/-- The display of a class. -/
def classDisplay : ClassRef → String
  | .objects c => "<class '__main__." ++ c.name ++ "'>"
  | c => "<class '" ++ c.name ++ "'>"

/-- The display of a tag. -/
def tagDisplay (t : Tag) : String :=
  "<RuleType." ++ String.ofList (match t with
    | .objectId => "OBJECT_ID".toList
    | t => t.name.toList.map Char.toUpper) ++ ": '" ++ t.name ++ "'>"

mutual

/-- The display of a value. -/
def display : Value → String
  | .absent => "UNDEFINED"
  | .null => "None"
  | .bool true => "True"
  | .bool false => "False"
  | .number n => n.text
  | .text s => Text.quoted s
  | .bytes bs => Text.quotedBytes bs
  | .list xs => "[" ++ Text.joinWith ", " (displayAll xs) ++ "]"
  | .tuple [x] => "(" ++ display x ++ ",)"
  | .tuple xs => "(" ++ Text.joinWith ", " (displayAll xs) ++ ")"
  | .mapping es => "\x7b" ++ Text.joinWith ", " (displayEntries es) ++ "\x7d"
  | .instant t => t.display
  | .cls c => classDisplay c
  | .object c x => c.name ++ "(" ++ display x ++ ")"
  | .func name _ _ => "<func " ++ name ++ ">"
  | .pattern source flags => patternDisplay source flags
  | .tag t => tagDisplay t
  | .rule t fields => ruleKindName t ++ "(" ++ Text.joinWith ", " (displayFields fields) ++ ")"
termination_by structural x => x

/-- The displays of some values. -/
def displayAll : List Value → List String
  | [] => []
  | x :: xs => display x :: displayAll xs
termination_by structural x => x

/-- The displays of the entries of a mapping. -/
def displayEntries : List (Value × Value) → List String
  | [] => []
  | (k, x) :: es => (display k ++ ": " ++ display x) :: displayEntries es
termination_by structural x => x

/-- The displays of the fields of a rule. -/
def displayFields : List (Value × Value) → List String
  | [] => []
  | (k, x) :: es =>
    ((match k with
      | .text s => s
      | _ => "") ++ "=" ++ display x) :: displayFields es
termination_by structural x => x

end

/-- The text of a value. -/
def plainText : Value → String
  | .text s => s
  | .tag t => "RuleType." ++ (match t with
    | .objectId => "OBJECT_ID"
    | t => String.ofList (t.name.toList.map Char.toUpper))
  | .instant t => t.textWith " "
  | .object c x =>
    match c.identity, x with
    | .hexadecimal _, .text s => s
    | _, _ => display (.object c x)
  | .rule _ fields => Text.joinWith " " (displayFields fields)
  | v => display v

/-- The displays of some values, joined by commas. -/
def displayList (xs : List Value) : String := Text.joinWith ", " (xs.map display)

end Value

end RuleSchema
