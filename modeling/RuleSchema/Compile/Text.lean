import RuleSchema.Format.Email
import RuleSchema.Format.Url
import RuleSchema.Format.Uuid
import RuleSchema.Pattern.Basic
import RuleSchema.Pattern.Literal
import RuleSchema.Reading.Scalar
import RuleSchema.Stage.Shape
import RuleSchema.Text.Luhn
import RuleSchema.Text.Padding

/-!
# Stages of text rules

The stages of the rules whose values are texts: plain texts, and the texts in some format.

* `Charset` are the classes of texts that a rule may ask for, each given by the pattern that
  describes it to others.
* `stringStages`, `emailStages`, `currencyStages`, `luhnStages`, `macStages`, `urlStages` and
  `uuidStages` are the stages of one type each.
-/

namespace RuleSchema

/-! ## Shapes and checks of texts -/

/-- The schema of a type. -/
def typeSchema (type : String) : Schema := keyword "type" (.text type)

/-- Reads a scalar, or rejects a value under a check. -/
def readStep {α : Type} (check : String) (reader : ScalarReader α) (toValue : α → Value) : Step :=
  fun v =>
    match reader v with
    | .ok a => pure (toValue a)
    | .error p => failCheck check p.message

/-- Accepts texts, and what reads as one if the rule converts. -/
def textStep (tag : Tag) (convert : Bool) : Step :=
  readStep (tag.name ++ ".type") (if convert then readNumericText else strictText) .text

/-- The shape of a text. -/
def textShape (r : Rule) : Shape := ⟨textStep r.tag r.common.convert, typeSchema "string"⟩

/-- A test on texts as a test on values. -/
def onText (p : String → Bool) : Value → Except Fault Bool := fun v =>
  .ok (match v.text? with
    | some s => p s
    | none => false)

/-- A change of texts as one of values. -/
def mapText (f : String → String) : Transform := fun v =>
  .ok (match v.text? with
    | some s => .text (f s)
    | none => v)

/-- The check that a text is not blank. -/
def notBlank (tag : Tag) : Check where
  name := tag.name ++ ".empty"
  test := onText fun s => Text.trim s != ""
  message := "Value must not be empty"
  schema := keyword "minLength" (.int 1)

/-- A bound as a value. -/
def bound (n : Nat) : Value := .int n

/-- The check that a text has at least some length. -/
def minLength (tag : Tag) (n : Nat) : Check where
  name := tag.name ++ ".min"
  test := onText fun s => n ≤ s.length
  message := "Value must be at least " ++ toString n ++ " characters long"
  schema := keyword "minLength" (bound n)

/-- The check that a text has at most some length. -/
def maxLength (tag : Tag) (n : Nat) : Check where
  name := tag.name ++ ".max"
  test := onText fun s => s.length ≤ n
  message := "Value must be at most " ++ toString n ++ " characters long"
  schema := keyword "maxLength" (bound n)

/-- The check that a text has a length. -/
def exactLength (n : Nat) : Check where
  name := "string.length"
  test := onText fun s => s.length = n
  message := "Value must be exactly " ++ toString n ++ " characters long"
  schema := keyword "minLength" (bound n) ++ keyword "maxLength" (bound n)

/-- The checks on the length of a text. -/
def lengthChecks (tag : Tag) (empty? : Option Bool) (min? max? : Option Nat) : List Check :=
  (if empty? = some false then [notBlank tag] else []) ++ (min?.map (minLength tag)).toList ++
    (max?.map (maxLength tag)).toList

/-- A stage of checks, if there are some. -/
def checkStages (kind : StageKind) (name : String) (checks : List Check) :
    Eval RuleError (List Stage) :=
  if checks.isEmpty then pure []
  else do return [← Eval.ofFault (Stage.ofChecks kind name checks)]

/-- A stage of transforms, if there are some. -/
def transformStages (kind : StageKind) (name : String) (transforms : List Transform) :
    List Stage :=
  if transforms.isEmpty then [] else [Stage.ofTransforms kind name transforms]

/-! ## Classes of texts -/

/-- The classes of texts that a rule may ask for. -/
inductive Charset where
  | alpha | numeric | alphanum | alphadash | hex | singleLine | base64
deriving DecidableEq

namespace Charset

/-- The name of a class. -/
def name : Charset → String
  | .alpha => "alpha"
  | .numeric => "numeric"
  | .alphanum => "alphanum"
  | .alphadash => "alphadash"
  | .hex => "hex"
  | .singleLine => "single_line"
  | .base64 => "base64"

/-- The pattern of a class. -/
def source : Charset → String
  | .alpha => "^[A-Za-z]+$"
  | .numeric => "^[0-9]+$"
  | .alphanum => "^[A-Za-z0-9]+$"
  | .alphadash => "^[A-Za-z0-9_-]+$"
  | .hex => "^[0-9a-fA-F]+$"
  | .singleLine => "^[^\\r\\n]*$"
  | .base64 =>
    "^(?:[A-Za-z0-9+/]\x7b4\x7d)*(?:[A-Za-z0-9+/]\x7b2\x7d==|[A-Za-z0-9+/]\x7b3\x7d=)?$"

/-- What is said of a text outside a class. -/
def message : Charset → String
  | .alpha => "Value must contain only alphabetic characters"
  | .numeric => "Value must contain only numeric characters"
  | .alphanum => "Value must contain only alphanumeric characters"
  | .alphadash => "Value must contain only alphanumeric characters, dashes or underscores"
  | .hex => "Value must be a valid hexadecimal string"
  | .singleLine => "Value must be a single line string"
  | .base64 => "Value must be a valid base64 string"

end Charset

/-- The classes that a text rule asks for, in the order in which they are tested. -/
def StringOptions.charsets (o : StringOptions) : List Charset :=
  [(o.alpha, Charset.alpha), (o.numeric, .numeric), (o.alphanum, .alphanum),
    (o.alphadash, .alphadash), (o.hex, .hex), (o.singleLine, .singleLine),
    (o.base64, .base64)].filterMap fun e => if e.1 then some e.2 else none

/-! ## Patterns -/

/-- Compiles the pattern of the rule at `path`. -/
def compilePattern (source : String) (path : String) : Eval RuleError Pattern :=
  Eval.ofStop (Pattern.compile source {} "" path)

/-- Compiles a pattern as a rule gives it, with some option letters. -/
def PatternSpec.compile (spec : PatternSpec) (letters? : Option String) (path : String) :
    Eval RuleError Pattern :=
  match spec with
  | .source s => Eval.ofStop (Pattern.compile s {} (letters?.getD "") path)
  | .compiled s flags => Eval.ofStop (Pattern.compile s flags (letters?.getD "") path)

/-- The schema of a pattern. -/
def patternSchema (source : String) : Schema := keyword "pattern" (.text source)

/-- The check that a text contains a match of a pattern. -/
def matchesSomewhere (p : Pattern) : Check where
  name := "string.pattern"
  test := onText p.searches
  message := "Value must match the pattern " ++ p.source
  schema := patternSchema p.source

/-- The check that a text contains another. -/
def containsText (part : String) : Check where
  name := "string.contains"
  test := onText fun s => Text.occursIn part.toList s.toList
  message := "Value must contain '" ++ part ++ "'"
  schema := patternSchema (Pattern.escapeText part)

/-- The check that a text belongs to a class. -/
def charsetCheck (path : String) (c : Charset) : Eval RuleError Check := do
  let p ← compilePattern c.source path
  return {
    name := "string." ++ c.name
    test := onText p.matchesStart
    message := c.message
    schema := patternSchema c.source }

/-- The check that a text is one of a list. -/
def oneOfTexts (path : String) (allowed : List String) : Eval RuleError Check := do
  let p ← compilePattern (Pattern.enumSource allowed) path
  return {
    name := "string.enum"
    test := onText p.matchesAll
    message := "Value must be one of: " ++ Text.joinWith ", " allowed
    schema := keyword "enum" (.list (allowed.map .text)) }

/-! ## Plain texts -/

/-- How a text is prepared. -/
def StringOptions.preparation (o : StringOptions) : List (String → String) :=
  (if o.trim then [Text.trim]
    else (if o.trimLeft then [Text.trimStart] else []) ++
      (if o.trimRight then [Text.trimEnd] else [])) ++
  (if o.lowercase then [Text.lower] else if o.uppercase then [Text.upper] else [])

/-- The checks on a text. -/
def StringOptions.checks (o : StringOptions) (path : String) : Eval RuleError (List Check) := do
  let lengths := lengthChecks .string o.empty? o.min? o.max? ++ (o.length?.map exactLength).toList
  let pattern ← match o.pattern? with
    | some spec => do pure [matchesSomewhere (← spec.compile o.patternFlags? path)]
    | none => pure []
  let parts := (o.contains?.map containsText).toList
  let classes ← o.charsets.mapM (charsetCheck path)
  let choices ← match o.enum? with
    | some (a :: as) => do pure [← oneOfTexts path (a :: as)]
    | _ => pure []
  return lengths ++ pattern ++ parts ++ classes ++ choices

/-- How a text is filled up at the end. -/
def StringOptions.padding (o : StringOptions) : List (String → String) :=
  (match o.padStart? with
    | some n => if n = 0 then [] else [fun s => Text.padStart s n o.padChar]
    | none => []) ++
  (match o.padEnd? with
    | some n => if n = 0 then [] else [fun s => Text.padEnd s n o.padChar]
    | none => [])

/-- The stages of a plain text. -/
def stringStages (r : Rule) (o : StringOptions) (path : String) : Eval RuleError (List Stage) := do
  let shape ← shapeStage r path (textShape r)
  let checks ← checkStages .validate "string.constraints" (← o.checks path)
  return shape :: transformStages .preProcess "string.normalize" (o.preparation.map mapText) ++
    checks ++ transformStages .manipulate "string.pad" (o.padding.map mapText)

/-! ## Texts in a format -/

/-- Accepts a text that is an email address. -/
def emailStep (convert trimming : Bool) : Step := fun v => do
  let v ← textStep .email convert v
  match Email.checkBare trimming ((v.text?).getD "") with
  | .ok () => return v
  | .error (some p) => failCheck "email.format" p.message
  | .error none => failCheck "email.format" "Value must be a bare email address"

/-- The schema of a text in a format. -/
def formatSchema (format : String) : Schema :=
  typeSchema "string" ++ keyword "format" (.text format)

/-- The stages of an email address. -/
def emailStages (r : Rule) (o : EmailOptions) (path : String) : Eval RuleError (List Stage) := do
  let shape ← shapeStage r path ⟨emailStep r.common.convert o.normalize, formatSchema "email"⟩
  let checks ← checkStages .validate "email.constraints"
    (lengthChecks .email o.empty? o.min? o.max?)
  let preparation := if o.normalize then [Text.trim, Text.lower] else []
  return shape :: transformStages .preProcess "email.normalize" (preparation.map mapText) ++ checks

/-- The pattern of an amount of money, and what is said of a text that does not match it. -/
def CurrencyOptions.pattern (o : CurrencyOptions) (path : String) :
    Eval RuleError (Pattern × String) :=
  match o.customRegex? with
  | some spec => do
    return (← spec.compile none path, "The value does not match the custom currency pattern")
  | none => do
    let source := Pattern.currencySource (o.symbol?.getD "") o.symbolOptional
      o.thousandSeparator o.decimalSeparator
    return (← compilePattern source path, "The value does not match the currency pattern")

/-- The stages of an amount of money. -/
def currencyStages (r : Rule) (o : CurrencyOptions) (path : String) :
    Eval RuleError (List Stage) := do
  let shape ← shapeStage r path (textShape r)
  let (p, message) ← o.pattern path
  let check : Check :=
    { name := "currency.pattern", test := onText p.searches, message
      schema := patternSchema p.source }
  return shape :: (← checkStages .validate "currency.constraints" [check])

/-- The stages of a numeral with a checksum. -/
def luhnStages (r : Rule) (path : String) : Eval RuleError (List Stage) := do
  let shape ← shapeStage r path (textShape r)
  let check : Check :=
    { name := "luhn.checksum", test := onText Text.luhnValid
      message := "Value fails the Luhn checksum" }
  return shape :: (← checkStages .refine "luhn.refine" [check])

/-- The pattern of a hardware address: pairs of digits between colons or hyphens, or fours of
digits between points. -/
def macSource : String :=
  "^((([a-fA-F0-9][a-fA-F0-9]+[-])\x7b5\x7d|([a-fA-F0-9][a-fA-F0-9]+[:])\x7b5\x7d)" ++
    "([a-fA-F0-9][a-fA-F0-9])$)" ++
    "|(^([a-fA-F0-9][a-fA-F0-9][a-fA-F0-9][a-fA-F0-9]+[.])\x7b2\x7d" ++
    "([a-fA-F0-9][a-fA-F0-9][a-fA-F0-9][a-fA-F0-9]))$"

/-- The stages of a hardware address. -/
def macStages (r : Rule) (path : String) : Eval RuleError (List Stage) := do
  let p ← compilePattern macSource path
  let shape ← shapeStage r path (textShape r)
  let check : Check :=
    { name := "mac.pattern", test := onText p.matchesStart
      message := "Invalid MAC address provided", schema := patternSchema macSource }
  return shape :: (← checkStages .validate "mac.constraints" [check])

/-- Accepts a text that passes `problem?`, or an empty one if the rule says so. -/
def formattedStep (r : Rule) (empty? : Option Bool) (problem? : String → Option String) : Step :=
  fun v => do
    let v ← textStep r.tag r.common.convert v
    let s := (v.text?).getD ""
    if s = "" && empty? = some true then return v
    else
      match problem? s with
      | none => return v
      | some message => failCheck (r.tag.name ++ ".format") message

/-- The stages of a text in a format. -/
def formattedStages (r : Rule) (empty? : Option Bool) (problem? : String → Option String)
    (format path : String) : Eval RuleError (List Stage) := do
  let shape ← shapeStage r path ⟨formattedStep r empty? problem?, formatSchema format⟩
  let checks := if empty? = some false then [notBlank r.tag] else []
  return shape :: (← checkStages .validate (r.tag.name ++ ".constraints") checks)

/-- The message of a problem, if there is one. -/
def problemText {π : Type} (message : π → String) : Except π Unit → Option String
  | .ok () => none
  | .error p => some (message p)

/-- The stages of a locator. -/
def urlStages (r : Rule) (empty? : Option Bool) (path : String) : Eval RuleError (List Stage) :=
  formattedStages r empty? (fun s => problemText Url.Problem.message (Url.check s)) "uri" path

/-- The stages of an identifier of 128 bits. -/
def uuidStages (r : Rule) (empty? : Option Bool) (path : String) : Eval RuleError (List Stage) :=
  formattedStages r empty? (fun s => problemText Uuid.Problem.message (Uuid.check s)) "uuid" path

end RuleSchema
