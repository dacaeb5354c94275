import RuleSchema.Instant.Moment
import RuleSchema.Json.Text
import RuleSchema.Log.Level
import RuleSchema.Log.Template
import RuleSchema.Text.LetterCase

/-!
# Log lines

A log record is shown as a document on one line: when and where it was made, how grave it is, its
message with the arguments filled in, the operation that was being compiled, the failure that it
reports and what its author has attached to it.

* `LogRecord` is the type, `LogRecord.attach` attaches something to a record.
* `LogRecord.line` is the line.
* `OperationContext` knows the operation that is being compiled.
-/

namespace RuleSchema

/-! ## The current operation -/

/-- The operation that is being compiled, and those around it. -/
structure OperationContext where
  current : String := ""
  outer : List String := []

namespace OperationContext

/-- Starts with an operation. -/
def enter (c : OperationContext) (name : String) : OperationContext := ⟨name, c.current :: c.outer⟩

/-- Comes back to the operation before. -/
def leave (c : OperationContext) : OperationContext :=
  match c.outer with
  | [] => c
  | name :: outer => ⟨name, outer⟩

/-- Renames the current operation. -/
def rename (c : OperationContext) (name : String) : OperationContext := { c with current := name }

theorem leave_enter (c : OperationContext) (name : String) : (c.enter name).leave = c := rfl

end OperationContext

/-! ## Records -/

/-- A log record.  What is attached to it may replace its parts by values of any kind. -/
structure LogRecord where
  /-- The moment at which the record was made. -/
  created : Value := .int 0
  level : Value := .text LogLevel.info.name
  logger : Value
  /-- The template of the message. -/
  template : Value
  /-- The arguments of the message: a tuple, or one mapping. -/
  arguments : Value := .tuple []
  /-- The kind and the message of the failure that the record reports. -/
  failure? : Option (String × String) := none
  file : Value
  lineNumber : Value
  function : Value := .null
  attached : Entries Value := []

/-- Why a record cannot be shown. -/
inductive LogProblem where
  | moment (p : MomentProblem)
  | template (p : TemplateProblem)
  | fault (f : Fault)

namespace LogProblem

/-- The message of a problem. -/
def message : LogProblem → String
  | .moment p => p.message
  | .template p => p.message
  | .fault f => f.message

end LogProblem

namespace LogRecord

/-- The names of parts that are not shown or cannot be replaced. -/
def reservedNames : List String :=
  ["levelno", "filename", "module", "msecs", "relativeCreated", "thread", "threadName",
    "processName", "process", "taskName", "getMessage", "message", "asctime", "exc_info",
    "exc_text", "stack_info"]

/-- Attaches a value under a name, or replaces the part of the record that has this name; nothing
in place of the failure takes the failure away. -/
def attach (r : LogRecord) (name : String) (v : Value) : LogRecord :=
  match name with
  | "created" => { r with created := v }
  | "levelname" => { r with level := v }
  | "name" => { r with logger := v }
  | "msg" => { r with template := v }
  | "args" => { r with arguments := v }
  | "pathname" => { r with file := v }
  | "lineno" => { r with lineNumber := v }
  | "funcName" => { r with function := v }
  | "exc_info" => if v.isTruthy then r else { r with failure? := none }
  | name =>
    if reservedNames.contains name then r
    else { r with attached := r.attached.put (.text name) v }

/-- The arguments that are given one by one: a mapping alone stands for itself, unless it is
empty. -/
def argumentsOf (xs : List Value) : Value :=
  match xs with
  | [.mapping (e :: es)] => .mapping (e :: es)
  | xs => .tuple xs

/-- The message with the arguments filled in, if there are some. -/
def message (r : LogRecord) : Except TemplateProblem String :=
  if r.arguments.isTruthy then renderTemplate r.template.plainText r.arguments
  else .ok r.template.plainText

/-- An entry with a text as its name. -/
def entry (name : String) (v : Value) : Value × Value := (.text name, v)

/-- The document of a record that was made while an operation was being compiled. -/
def document (r : LogRecord) (operation : String) : Except LogProblem Value := do
  let created ← (Moment.instant r.created).mapError .moment
  let message ← r.message.mapError .template
  return .mapping (
    [entry "timestamp" (.text created.text), entry "level" r.level, entry "logger" r.logger,
      entry "message" (.text message)] ++
    (if operation = "" then [] else [entry "operation" (.text operation)]) ++
    (match r.failure? with
      | some (kind, message) =>
        [entry "exception" (.mapping [entry "type" (.text kind), entry "message" (.text message)])]
      | none => []) ++
    [entry "file" r.file, entry "line" r.lineNumber, entry "function" r.function] ++
    (if r.attached.isEmpty then [] else [entry "extra" (.mapping r.attached)]))

/-- The line of a record that was made while an operation was being compiled. -/
def line (r : LogRecord) (operation : String) : Except LogProblem String := do
  ((← r.document operation).toJson .logLine).mapError .fault

end LogRecord

/-- The least level that is shown when a level is asked for by its name, in any case; an unknown
name asks for information. -/
def thresholdOf (name : String) : Nat :=
  match Text.upper name with
  | "NOTSET" => 0
  | "WARN" => LogLevel.warning.number
  | "FATAL" => LogLevel.critical.number
  | name => ((LogLevel.ofName? name).getD .info).number

end RuleSchema
