import RuleSchema.Catalog.Basic
import RuleSchema.Json.Reader

/-!
# Listing the tools of a file

A file with a JSON list of operations is turned into the list of their tool descriptions.  An
operation that cannot be compiled is left out and reported.

* `readOperations` reads the text of a file, `listTools` makes the listing.
* `Listing.report` says what is written where.
-/

namespace RuleSchema

/-- Why there is no listing. -/
inductive ListingProblem where
  /-- There is no such file. -/
  | noFile (path : String)
  /-- The file is no JSON document. -/
  | notJson (e : JsonError) (text : String)
  /-- The document is no list. -/
  | notList (path : String)
  /-- An item of the list is a value of this kind and no mapping. -/
  | notOperation (kind : String)
  | noName
  /-- An operation cannot be described. -/
  | undescribed (problems : List FieldProblem)
  | fault (f : Fault)
  /-- The output would have to be a directory. -/
  | isDirectory (path : String)
  /-- A directory is needed where a file lies. -/
  | fileExists (path : String)
  /-- A directory is needed under a file. -/
  | notDirectory (path : String)

namespace ListingProblem

/-- What is said of a value that has no fields. -/
def fieldlessText (kind : String) : String :=
  if kind = "str" then "string indices must be integers, not 'str'"
  else if kind = "list" then "list indices must be integers or slices, not str"
  else "'" ++ kind ++ "' object is not subscriptable"

/-- The message of a problem. -/
def message : ListingProblem → String
  | .noFile path => "[Errno 2] No such file or directory: " ++ Text.quoted path
  | .notJson e text =>
    match e.problem with
    | .numeralTooLong digits => (Fault.numeralTooLong digits).message
    | _ => e.message text
  | .notList path => "[ERROR] " ++ path ++ ": expected a JSON list of operations"
  | .notOperation kind => fieldlessText kind
  | .noName => Text.quoted "name"
  | .undescribed problems => Text.joinWith "; " (problems.map FieldProblem.summary)
  | .fault f => f.message
  | .isDirectory path => "[Errno 21] Is a directory: " ++ Text.quoted path
  | .fileExists path => "[Errno 17] File exists: " ++ Text.quoted path
  | .notDirectory path => "[Errno 20] Not a directory: " ++ Text.quoted path

end ListingProblem

/-! ## Reading -/

/-- An operation as an item of the list gives it. -/
def readOperation (item : Value) : Except ListingProblem Operation :=
  match item with
  | .mapping es =>
    let part (name : String) : Value := (Entries.at? es name).getD .null
    match Entries.at? es "name" with
    | none => .error .noName
    | some name =>
      .ok {
        name
        params := RuleSource.ofValue ((Entries.at? es "params").getD (.mapping []))
        toolName := part "tool_name", title := part "title", description := part "description" }
  | v => .error (.notOperation v.kindName)

/-- A text with all its line breaks as line feeds. -/
def withLineFeeds : List Char → List Char
  | '\r' :: '\n' :: s => '\n' :: withLineFeeds s
  | '\r' :: s => '\n' :: withLineFeeds s
  | c :: s => c :: withLineFeeds s
  | [] => []

/-- Reads the operations of a file with a text. -/
def readOperations (path text : String) : Except ListingProblem (List Operation) := do
  let text := String.ofList (withLineFeeds text.toList)
  match ← (Json.read text).mapError fun e => .notJson e text with
  | .list items => items.mapM readOperation
  | _ => .error (.notList path)

/-! ## Listing -/

/-- A listing of tools. -/
structure Listing where
  /-- The document with the descriptions. -/
  text : String
  build : Build

/-- The descriptions of the tools of a catalog as a document. -/
def listingText (c : Catalog) : Except Fault String :=
  dumpJson (.mapping [(.text "tools", .list (toolDocuments c))]) (some "  ")

/-- Builds a catalog of operations and lists its tools. -/
def listTools (ops : List Operation) : Except ListingProblem Listing :=
  match rebuild ops {} with
  | (.error (.rejected problems), _) => .error (.undescribed problems)
  | (.error (.fault f), _) => .error (.fault f)
  | (.ok build, c) => do return { text := ← (listingText c).mapError .fault, build }

/-! ## Paths -/

/-- A path without empty parts and parts that mean the directory itself. -/
def tidyPath (path : String) : String :=
  let parts := ((Text.splitOn '/' path.toList).filter fun p => p != [] && p != ['.']).map
    String.ofList
  let root := match path.toList with
    | ['/', '/'] => "//"
    | '/' :: '/' :: c :: _ => if c = '/' then "/" else "//"
    | '/' :: _ => "/"
    | _ => ""
  if root = "" && parts.isEmpty then "." else root ++ Text.joinWith "/" parts

/-- The parts of a path. -/
def pathParts (path : String) : List String :=
  (Text.splitOn '/' path.toList).map String.ofList

/-- What stands in the way of an output, given the path of the file with the operations. -/
def outputProblem? (operations output : String) : Option ListingProblem :=
  let parts := pathParts output
  let parent := parts.dropLast
  let last := parts.getLast?.getD ""
  if parent = pathParts operations then some (.fileExists (Text.joinWith "/" parent))
  else if (pathParts operations).isPrefixOf parent then
    some (.notDirectory (Text.joinWith "/" parent))
  else if last = "." || last = ".." || last = "" then some (.isDirectory output)
  else none

/-! ## Reporting -/

/-- What is written where, and how the program ends. -/
structure Report where
  exitCode : Nat
  output : String
  errors : String
  /-- The file that is written, and its content. -/
  file? : Option (String × String) := none

/-- The line about an operation that has been left out. -/
def failureLine (f : OperationFailure) : String :=
  "[FAIL] " ++ f.operation.plainText ++ " field=" ++ f.field.plainText ++ " " ++ f.kind ++ ": " ++
    f.message ++ "\n"

/-- The report of a listing, whose document goes to a file if one is named. -/
def Listing.report (l : Listing) (output? : Option String) : Report where
  exitCode := if l.build.failures.isEmpty then 0 else 1
  errors := String.join (l.build.failures.map failureLine)
  output := match output? with
    | none => l.text ++ "\n"
    | some path =>
      "[OK] Wrote " ++ toString l.build.registered.length ++ " tool(s) to " ++ path ++ "\n"
  file? := output?.map fun path => (path, l.text ++ "\n")

/-- The report of a listing, unless something stands in the way of its output. -/
def Listing.deliver (l : Listing) (operations : String) (output? : Option String) :
    Except ListingProblem Report :=
  match output?.bind (outputProblem? operations) with
  | some p => .error p
  | none => .ok (l.report output?)

/-- Lists the tools of a file with a text, if there is such a file. -/
def runListing (path : String) (text? : Option String) (output? : Option String) :
    Except ListingProblem Report := do
  let some text := text? | .error (.noFile path)
  let listing ← listTools (← readOperations path text)
  listing.deliver path (output?.map tidyPath)

end RuleSchema
