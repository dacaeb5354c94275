import RuleSchema.Text.Search

/-!
# The arguments of the program

The program takes the path of a file with operations, and possibly the path of a file for its
output.

* `Arguments.parse` reads the arguments.
-/

namespace RuleSchema

/-- What the program is asked to do. -/
inductive Request where
  /-- Say how it is called. -/
  | help
  /-- List the tools of a file. -/
  | list (operations : String) (output? : Option String)

/-- Arguments in the making. -/
structure Arguments where
  operations? : Option String := none
  output? : Option String := none
  /-- What no parameter takes. -/
  others : List String := []

namespace Arguments

/-- How the program is called. -/
def usage : String := "usage: rule-schema [-h] [-o OUTPUT] operations"

/-- What is shown when the program is asked how it is called. -/
def helpText : String :=
  usage ++ "\n\nCompile operation parameter rules and dump the resulting tool descriptions.\n\n" ++
    "positional arguments:\n  operations            JSON file listing operations\n\n" ++
    "options:\n  -h, --help            show this help message and exit\n" ++
    "  -o OUTPUT, --output OUTPUT\n                        Write tool descriptions here\n"

/-- What is said when an option stands without its value. -/
def missingOutput : String := "argument -o/--output: expected one argument"

/-- Whether an argument is an option. -/
def isOption (s : String) : Bool := s.length > 1 && s.startsWith "-"

/-- Takes an argument that is no option. -/
def addPath (a : Arguments) (s : String) : Arguments :=
  if a.operations?.isNone then { a with operations? := some s }
  else { a with others := a.others ++ [s] }

/-- What the arguments ask for. -/
def finish (a : Arguments) : Except String Request :=
  match a.operations? with
  | none => .error "the following arguments are required: operations"
  | some operations =>
    if a.others.isEmpty then .ok (.list operations a.output?)
    else .error ("unrecognized arguments: " ++ Text.joinWith " " a.others)

/-- Reads arguments after those that have been read. -/
def parseFrom (a : Arguments) : List String → Except String Request
  | [] => a.finish
  | "--" :: rest => (rest.foldl addPath a).finish
  | "-h" :: _ => .ok .help
  | "--help" :: _ => .ok .help
  | s :: rest =>
    if s = "-o" || s = "--output" then
      match rest with
      | [] => .error missingOutput
      | path :: rest =>
        if isOption path then .error missingOutput
        else parseFrom { a with output? := some path } rest
    else
      match Text.after? "--output=".toList s.toList, Text.after? ['-', 'o'] s.toList with
      | some path, _ => parseFrom { a with output? := some (String.ofList path) } rest
      | none, some path => parseFrom { a with output? := some (String.ofList path) } rest
      | none, none =>
        if isOption s then parseFrom { a with others := a.others ++ [s] } rest
        else parseFrom (a.addPath s) rest

/-- Reads the arguments of the program. -/
def parse (args : List String) : Except String Request := parseFrom {} args

end Arguments

end RuleSchema
