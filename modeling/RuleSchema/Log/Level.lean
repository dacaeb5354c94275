/-!
# Log levels

How grave a log line is: a number, of which five have names.
-/

namespace RuleSchema

/-- The named levels. -/
inductive LogLevel where
  | debug | info | warning | error | critical
deriving DecidableEq

namespace LogLevel

/-- The name of a level. -/
def name : LogLevel → String
  | .debug => "DEBUG"
  | .info => "INFO"
  | .warning => "WARNING"
  | .error => "ERROR"
  | .critical => "CRITICAL"

/-- The number of a level. -/
def number : LogLevel → Nat
  | .debug => 10
  | .info => 20
  | .warning => 30
  | .error => 40
  | .critical => 50

/-- Every named level, from the least grave on. -/
def all : List LogLevel := [.debug, .info, .warning, .error, .critical]

/-- The level with a name. -/
def ofName? (s : String) : Option LogLevel := all.find? fun l => l.name = s

theorem ofName?_name (l : LogLevel) : ofName? l.name = some l := by cases l <;> decide

/-- The name of a number that need not be the one of a named level. -/
def nameOf (n : Int) : String :=
  match all.find? fun l => (l.number : Int) = n with
  | some l => l.name
  | none => if n = 0 then "NOTSET" else "Level " ++ toString n

end LogLevel

end RuleSchema
