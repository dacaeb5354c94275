import RuleSchema.Command.Arguments
import RuleSchema.Command.Listing

/-!
# The program

Lists the tools of a file with operations, on the standard output or in another file.
-/

open RuleSchema

/-- The text of a file, if there is such a file. -/
def readFile? (path : String) : IO (Option String) := do
  try
    return some (← IO.FS.readFile path)
  catch _ => return none

/-- Writes a file, and the directories above it. -/
def writeFile (path text : String) : IO Unit := do
  let parent := "/".intercalate (pathParts path).dropLast
  if parent ≠ "" then IO.FS.createDirAll parent
  IO.FS.writeFile path text

/-- Writes a report and gives the exit code. -/
def writeReport (r : Report) : IO UInt32 := do
  match r.file? with
  | some (path, text) => writeFile path text
  | none => pure ()
  (← IO.getStdout).putStr r.output
  (← IO.getStderr).putStr r.errors
  return r.exitCode.toUInt32

/-- Runs the program. -/
def main (args : List String) : IO UInt32 := do
  match Arguments.parse args with
  | .error message =>
    IO.eprintln (Arguments.usage ++ "\nrule-schema: error: " ++ message)
    return 2
  | .ok .help =>
    IO.print Arguments.helpText
    return 0
  | .ok (.list operations output?) =>
    match runListing operations (← readFile? operations) output? with
    | .ok report => writeReport report
    | .error p =>
      IO.eprintln p.message
      return 1
