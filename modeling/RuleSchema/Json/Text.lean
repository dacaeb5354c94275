import RuleSchema.Fault
import RuleSchema.Number.Notation
import RuleSchema.Text.Quoted
import RuleSchema.Text.Search
import RuleSchema.Value.Display

/-!
# The JSON text of a value

A value is written as a JSON document in one of several styles, which differ in their separators,
in whether lines are broken and in how characters beyond ASCII are spelled.

* `Value.toJson` writes a value, or reports one that has no JSON form.
-/

namespace RuleSchema

/-- How a JSON document is laid out. -/
structure JsonStyle where
  /-- Whether characters beyond ASCII are spelled by their codes. -/
  asciiOnly : Bool
  itemSeparator : String
  keySeparator : String
  /-- What each level of a broken document is indented by; no lines are broken without it. -/
  indent? : Option String
  /-- Whether a value without a JSON form is written as its text. -/
  textForOthers : Bool

namespace JsonStyle

/-- One line without spaces. -/
def compact : JsonStyle := ⟨false, ",", ":", none, false⟩

/-- A broken document. -/
def indented (indent : String) : JsonStyle := ⟨false, ",", ": ", some indent, false⟩

/-- One line of a log. -/
def logLine : JsonStyle := ⟨true, ", ", ": ", none, true⟩

/-- A code unit of 16 bits as an escape sequence. -/
def escapeUnit (n : Nat) : String := "\\u" ++ Text.hexDigits 4 n

/-- A character inside a JSON text. -/
def charText (style : JsonStyle) (c : Char) : String :=
  let n := c.toNat
  if c = '"' then "\\\""
  else if c = '\\' then "\\\\"
  else if c = '\n' then "\\n"
  else if c = '\r' then "\\r"
  else if c = '\t' then "\\t"
  else if n = 8 then "\\b"
  else if n = 12 then "\\f"
  else if n < 32 || (style.asciiOnly && n = 127) then escapeUnit n
  else if !style.asciiOnly || n < 127 then String.singleton c
  else if n < 0x10000 then escapeUnit n
  else
    escapeUnit (0xD800 + (n - 0x10000) / 0x400) ++ escapeUnit (0xDC00 + (n - 0x10000) % 0x400)

/-- A text between double quotes. -/
def quoted (style : JsonStyle) (s : String) : String :=
  "\"" ++ String.join (s.toList.map style.charText) ++ "\""

/-- A line break and the indentation of a level; nothing if lines are not broken. -/
def lineBreak (style : JsonStyle) (level : Nat) : String :=
  match style.indent? with
  | none => ""
  | some indent => "\n" ++ String.join (List.replicate level indent)

/-- Parts between brackets. -/
def bracketed (style : JsonStyle) (level : Nat) (opening closing : String)
    (parts : List String) : String :=
  match parts with
  | [] => opening ++ closing
  | _ =>
    opening ++ style.lineBreak (level + 1) ++
      Text.joinWith (style.itemSeparator ++ style.lineBreak (level + 1)) parts ++
      style.lineBreak level ++ closing

end JsonStyle

/-- The text of a whole number that is not too long. -/
def wholeText (n : Int) : Except Fault String :=
  let text := toString n
  if digitLimit < text.length && digitLimit < Binary64.digitCount n.natAbs then
    .error .numberTooLong
  else .ok text

/-- The text of a number in a JSON document. -/
def Number.toJson : Number → Except Fault String
  | .int n => wholeText n
  | .float x => .ok (jsonNotation.text x)

namespace Value

/-- The text of a key of a JSON object. -/
def keyText : Value → Except Fault String
  | .text s => .ok s
  | .tag t => .ok t.name
  | .number n => n.toJson
  | .bool b => .ok (if b then "true" else "false")
  | .null => .ok "null"
  | v => .error (.notJsonKey v.kindName)

mutual

/-- The JSON text of a value that stands at some level of a document. -/
def jsonAt (style : JsonStyle) (level : Nat) : Value → Except Fault String
  | .null => .ok "null"
  | .bool b => .ok (if b then "true" else "false")
  | .number n => n.toJson
  | .text s => .ok (style.quoted s)
  | .tag t => .ok (style.quoted t.name)
  | .list xs => do return style.bracketed level "[" "]" (← jsonItems style (level + 1) xs)
  | .tuple xs => do return style.bracketed level "[" "]" (← jsonItems style (level + 1) xs)
  | .mapping es => do
    return style.bracketed level "\x7b" "\x7d" (← jsonEntries style (level + 1) es)
  | v =>
    if style.textForOthers then .ok (style.quoted (plainText v))
    else .error (.notJson v.kindName)
termination_by structural x => x

/-- The JSON texts of some values. -/
def jsonItems (style : JsonStyle) (level : Nat) : List Value → Except Fault (List String)
  | [] => .ok []
  | x :: xs => do
    let text ← jsonAt style level x
    return text :: (← jsonItems style level xs)
termination_by structural x => x

/-- The JSON texts of the entries of a mapping. -/
def jsonEntries (style : JsonStyle) (level : Nat) :
    List (Value × Value) → Except Fault (List String)
  | [] => .ok []
  | (k, x) :: es => do
    let key ← keyText k
    let text ← jsonAt style level x
    return (style.quoted key ++ style.keySeparator ++ text) :: (← jsonEntries style level es)
termination_by structural x => x

end

/-- The JSON text of a value. -/
def toJson (style : JsonStyle) (v : Value) : Except Fault String := jsonAt style 0 v

end Value

end RuleSchema
