import RuleSchema.Evaluation
import RuleSchema.Value.Entries

/-!
# The JSON form of a value

Some values outside JSON have a form inside it: a tuple is a list, bytes and instants are texts.
Classes, objects and functions have none, and neither has anything that contains one of them.

* `Value.jsonForm` is the form; a rejection says that there is none.
-/

namespace RuleSchema

/-- The text of an instant in a document; universal time is marked by a letter. -/
def Instant.jsonText (t : Instant) : String :=
  if t.offset? = some 0 then ({ t with offset? := none } : Instant).text ++ "Z" else t.text

namespace Value

/-- A result, or no form, or a fault. -/
abbrev Formed (α : Type) := Except (Stop Unit) α

/-- The text of bytes. -/
def bytesForm (bs : List UInt8) : Formed String :=
  match Text.ofUtf8 bs with
  | .ok s => .ok s
  | .error e => .error (.fault (.undecodable e))

mutual

/-- The text of a key. -/
def keyForm : Value → Formed String
  | .null => .ok "None"
  | .bool b => .ok (if b then "true" else "false")
  | .number n => .ok n.text
  | .text s => .ok s
  | .tag t => .ok t.name
  | .bytes bs => bytesForm bs
  | .instant t => .ok t.jsonText
  | .pattern source _ => .ok source
  | .tuple xs => do return Text.joinWith "," (← keyForms xs)
  | _ => .error (.rejected ())
termination_by structural x => x

/-- The texts of the parts of a key. -/
def keyForms : List Value → Formed (List String)
  | [] => .ok []
  | x :: xs => do return (← keyForm x) :: (← keyForms xs)
termination_by structural x => x

end

mutual

/-- The form of a value in JSON. -/
def jsonForm : Value → Formed Value
  | .null => .ok .null
  | .bool b => .ok (.bool b)
  | .number n => .ok (.number n)
  | .text s => .ok (.text s)
  | .tag t => .ok (.text t.name)
  | .bytes bs => (bytesForm bs).map .text
  | .list xs => (jsonForms xs).map .list
  | .tuple xs => (jsonForms xs).map .list
  | .mapping es => do return .mapping (Entries.ofPairs (← jsonEntryForms es))
  | .instant t => .ok (.text t.jsonText)
  | .pattern source _ => .ok (.text source)
  | .rule t fields => do
    return .mapping ((.text "type", .text t.name) :: (← jsonEntryForms fields))
  | .absent | .cls _ | .object .. | .func .. => .error (.rejected ())
termination_by structural x => x

/-- The forms of some values. -/
def jsonForms : List Value → Formed (List Value)
  | [] => .ok []
  | x :: xs => do return (← jsonForm x) :: (← jsonForms xs)
termination_by structural x => x

/-- The forms of the entries of a mapping. -/
def jsonEntryForms : List (Value × Value) → Formed (List (Value × Value))
  | [] => .ok []
  | (k, x) :: es => do
    let key ← keyForm k
    let form ← jsonForm x
    return (.text key, form) :: (← jsonEntryForms es)
termination_by structural x => x

end

/-- The form of a value, if it has one. -/
def jsonForm? (v : Value) : Except Fault (Option Value) :=
  match jsonForm v with
  | .ok form => .ok (some form)
  | .error (.rejected ()) => .ok none
  | .error (.fault f) => .error f

end Value

end RuleSchema
