import RuleSchema.Value.Display
import RuleSchema.Value.Entries

/-!
# Rejected payloads

A rejection says where in the payload the rejected value lies, which stage and which check rejected
it, and what may be said besides.

* `formatPath` writes a place as `$.items[2].id`.
* `PayloadError.under` moves a rejection one level down, when the rejected value turns out to lie under
  a key of a larger one.
* `PayloadError.details` are the entries reported with the message.
-/

namespace RuleSchema

/-- A place in a payload: the keys and indices that lead to it. -/
abbrev Path := List Value

/-- One step of a place: an index between brackets, any other key after a point. -/
def formatStep (part : Value) : String :=
  match part.numeric? with
  | some (.int _) => "[" ++ part.plainText ++ "]"
  | _ => "." ++ part.plainText

/-- The text of a place. -/
def formatPath (path : Path) : String := "$" ++ String.join (path.map formatStep)

/-- A rejection. -/
structure PayloadError where
  message : String
  path : Path := []
  stage : Option String := none
  check : Option String := none
  /-- What is reported besides the place, the stage and the check. -/
  extra : Entries Value := []

namespace PayloadError

/-- A text, or null for none. -/
def optionalText : Option String → Value
  | some s => .text s
  | none => .null

/-- The entries reported with the message. -/
def details (e : PayloadError) : Entries Value :=
  e.extra.foldl (fun es entry => es.put entry.1 entry.2)
    [(.text "path", .text (formatPath e.path)), (.text "stage", optionalText e.stage),
      (.text "check", optionalText e.check)]

/-- Whether a key names the place, the stage or the check. -/
def isOwnKey (k : Value) : Bool :=
  k.equals (.text "path") || k.equals (.text "stage") || k.equals (.text "check")

/-- The same rejection one level further down, under `key`. -/
def under (key : Value) (e : PayloadError) : PayloadError :=
  { e with path := key :: e.path, extra := e.extra.filter fun entry => !isOwnKey entry.1 }

/-- The message, after the place unless that is the whole payload. -/
def text (e : PayloadError) : String :=
  if e.path.isEmpty then e.message else formatPath e.path ++ ": " ++ e.message

end PayloadError

/-- The kinds of failures that a caller can tell apart. -/
inductive FailureClass where
  | payload | unknownTool | rule | internal
deriving DecidableEq

namespace FailureClass

/-- The code of a failure in the protocol of tool calls. -/
def code : FailureClass → Int
  | .payload => -32602
  | .unknownTool => -32601
  | .rule => -32603
  | .internal => -32603

end FailureClass

/-- The object that reports a failure to the caller of a tool.  Nothing is said about an internal
failure. -/
def errorObject (c : FailureClass) (message : String) (details : Entries Value) :
    Entries Value :=
  if c = .internal then
    [(.text "code", .int c.code), (.text "message", .text "Internal error")]
  else
    [(.text "code", .int c.code), (.text "message", .text message)] ++
      if details.isEmpty then [] else [(.text "data", .mapping details)]

end RuleSchema
