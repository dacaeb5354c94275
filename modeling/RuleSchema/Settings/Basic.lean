import RuleSchema.Evaluation
import RuleSchema.Log.Level
import RuleSchema.Rule.Fields
import RuleSchema.Rule.Strictness
import RuleSchema.Text.LetterCase

/-!
# Settings

The settings of the application are given by the environment in which it runs, or directly; what is
given directly wins.  Every setting has a default, and what no setting is named by is ignored.

* `Settings` is the type.
* `Settings.read` reads given values, and finds every problem with them.
-/

namespace RuleSchema

/-- Where the application runs. -/
inductive AppEnvironment where
  | localRun | test | prod
deriving DecidableEq

namespace AppEnvironment

/-- The name of an environment. -/
def name : AppEnvironment → String
  | .localRun => "local"
  | .test => "test"
  | .prod => "prod"

/-- Every environment. -/
def all : List AppEnvironment := [.localRun, .test, .prod]

/-- The environment with a name. -/
def ofName? (s : String) : Option AppEnvironment := all.find? fun e => e.name = s

theorem ofName?_name (e : AppEnvironment) : ofName? e.name = some e := by cases e <;> decide

end AppEnvironment

/-- The settings of the application. -/
structure Settings where
  environment : AppEnvironment := .localRun
  name : String := "toolbridge"
  logLevel : LogLevel := .info
  /-- Whether log lines are documents. -/
  structuredLogs : Bool := true
  metricsEnabled : Bool := true
  unknownKeys : UnknownKeys := .passthrough
  /-- Whether the first rule that cannot be compiled ends the compilation. -/
  failFast : Bool := false

namespace Settings

/-! ## Readers -/

/-- The problem with a value that a setting refuses. -/
def refused {α : Type} (reason : String) : Except (List FieldProblem) α :=
  FieldReader.problem ("Value error, " ++ reason) "value_error"

/-- A list of names as a text. -/
def namesText (names : List String) : String := "[" ++ Value.displayList (names.map .text) ++ "]"

/-- Reads an environment by its name in any case. -/
def readEnvironment : FieldReader AppEnvironment := fun v =>
  let s := (v.text?).getD ""
  match AppEnvironment.ofName? (Text.lower s) with
  | some e => .ok e
  | none =>
    refused ("app_env must be one of " ++ namesText (AppEnvironment.all.map AppEnvironment.name) ++
      ", got '" ++ s ++ "'")

/-- Reads a level by its name in any case, between white space. -/
def readLogLevel : FieldReader LogLevel := fun v => do
  let s ← FieldReader.scalar readText v
  match LogLevel.ofName? (Text.upper (Text.trim s)) with
  | some l => .ok l
  | none =>
    refused ("app_log_level must be one of " ++ namesText (LogLevel.all.map LogLevel.name) ++
      ", got '" ++ s ++ "'")

/-- Reads a policy for unknown keys by its name, or as rules declare it. -/
def readUnknownKeys : FieldReader UnknownKeys := fun v =>
  let s := Text.lower (Text.trim v.plainText)
  if s = "true" || s = "strict" then .ok .reject
  else if s = "false" || s = "" then .ok .passthrough
  else
    match UnknownKeys.ofName? s with
    | some u => .ok u
    | none => refused ((Value.text s).display ++ " is not a valid UnknownKeys")

/-! ## Reading -/

/-- One setting. -/
def setting {α : Type} (given : Entries Value) (name : String) (reader : FieldReader α)
    (default : α) : Checked α :=
  FieldName.read ⟨name, none⟩ given reader default

/-- Reads each setting on its own. -/
def readEach (given : Entries Value) : Checked Settings :=
  Settings.mk
    <$> setting given "app_env" readEnvironment .localRun
    <*> setting given "app_name" (FieldReader.scalar readText) "toolbridge"
    <*> setting given "app_log_level" readLogLevel .info
    <*> setting given "observability_structured_logs" (FieldReader.scalar readBool) true
    <*> setting given "metrics_enabled" (FieldReader.scalar readBool) true
    <*> setting given "schema_unknown_keys" readUnknownKeys .passthrough
    <*> setting given "schema_compile_fail_fast" (FieldReader.scalar readBool) false

/-- Reads settings.  In production the log lines must be documents. -/
def readAll (given : Entries Value) : Except (List FieldProblem) Settings :=
  match readEach given with
  | .bad problems => .error problems
  | .good s =>
    if s.environment = .prod && !s.structuredLogs then
      refused "OBSERVABILITY_STRUCTURED_LOGS must be enabled in production"
    else .ok s

/-- Reads settings.  An environment that is no text is a fault. -/
def read (given : Entries Value) : Except (Stop (List FieldProblem)) Settings :=
  match given.at? "app_env" with
  | some v =>
    if v.text?.isSome then (readAll given).mapError .rejected
    else .error (.fault (.noOperation v.kindName "lower"))
  | none => (readAll given).mapError .rejected

/-- The values that are given by environment variables, whose names may be in any case, and
directly. -/
def gather (env : List (String × String)) (direct : Entries Value) : Entries Value :=
  direct.foldl (fun es e => es.put e.1 e.2)
    (Entries.ofPairs (env.map fun e => (.text (Text.lower e.1), .text e.2)))

end Settings

end RuleSchema
