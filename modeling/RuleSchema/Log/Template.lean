import RuleSchema.Number.Notation
import RuleSchema.Value.Display
import RuleSchema.Fault
import RuleSchema.Value.Entries

/-!
# Message templates

A template is a text with directives, each of which stands for an argument.  A directive begins
with a percent sign.  There may follow a key between parentheses, flags, a width, a precision after
a point and a size letter without meaning; a letter says how the argument is written.  A doubled
percent sign is a percent sign.

The arguments are taken one after the other, or by their keys from a mapping.

* `Directive.parse` reads a directive.
* `renderTemplate` fills in the arguments, or says what is wrong: a `TemplateProblem`.
-/

namespace RuleSchema

/-- What is wrong with a template and its arguments. -/
inductive TemplateProblem where
  | tooFewArguments
  | tooManyArguments
  | notMapping
  | missingKey (key : String)
  | unfinishedKey
  | unfinished
  | widthTooBig
  | precisionTooBig
  /-- No directive ends with this letter, which stands at `index`. -/
  | unknownLetter (letter : Char) (index : Nat)
  /-- A width or a precision that is taken from the arguments is no whole number. -/
  | extentNotWhole
  | takenWidthTooBig
  | takenPrecisionTooBig
  | notCharacter
  | characterOutOfRange
  | notReal (letter : Char) (kind : String)
  | notWhole (letter : Char) (kind : String)
  | notFloat (kind : String)
  | undefinedNumber
  | infiniteNumber
  | fault (f : Fault)

namespace TemplateProblem

/-- A code in hexadecimal digits, without zeros in front. -/
def codeText (c : Char) : String := String.ofList (Nat.toDigits 16 c.toNat)

/-- The message of a problem. -/
def message : TemplateProblem → String
  | .tooFewArguments => "not enough arguments for format string"
  | .tooManyArguments => "not all arguments converted during string formatting"
  | .notMapping => "format requires a mapping"
  | .missingKey key => Text.quoted key
  | .unfinishedKey => "incomplete format key"
  | .unfinished => "incomplete format"
  | .widthTooBig => "width too big"
  | .precisionTooBig => "precision too big"
  | .unknownLetter letter index =>
    let shown := if 31 ≤ letter.toNat && letter.toNat ≤ 126 then letter else '?'
    "unsupported format character '" ++ String.singleton shown ++ "' (0x" ++ codeText letter ++
      ") at index " ++ toString index
  | .extentNotWhole => "* wants int"
  | .takenWidthTooBig => "Python int too large to convert to C ssize_t"
  | .takenPrecisionTooBig => "Python int too large to convert to C int"
  | .notCharacter => "%c requires int or char"
  | .characterOutOfRange => "%c arg not in range(0x110000)"
  | .notReal letter kind =>
    "%" ++ String.singleton letter ++ " format: a real number is required, not " ++ kind
  | .notWhole letter kind =>
    "%" ++ String.singleton letter ++ " format: an integer is required, not " ++ kind
  | .notFloat kind => "must be real number, not " ++ kind
  | .undefinedNumber => "cannot convert float NaN to integer"
  | .infiniteNumber => "cannot convert float infinity to integer"
  | .fault f => f.message

end TemplateProblem

/-! ## Directives -/

/-- The key of a directive. -/
inductive DirectiveKey where
  | none
  | named (key : String)
  /-- The parenthesis is not closed. -/
  | unclosed

/-- A width or a precision. -/
inductive Extent where
  | none
  | given (n : Nat)
  /-- It is taken from the arguments. -/
  | taken

/-- The flags of a directive. -/
structure DirectiveFlags where
  leftAligned : Bool := false
  plusSign : Bool := false
  blankSign : Bool := false
  alternate : Bool := false
  zeroFilled : Bool := false

/-- A directive, as far as the template goes. -/
structure Directive where
  key : DirectiveKey
  flags : DirectiveFlags
  width : Extent
  precision : Extent
  /-- The letter at its end, and the characters after it. -/
  letter? : Option (Char × List Char)

namespace Directive

/-- The characters up to the parenthesis that closes `depth` open ones, and those after it. -/
def closeKey : Nat → List Char → Option (List Char × List Char)
  | _, [] => none
  | depth, ')' :: s =>
    match depth with
    | 0 | 1 => some ([], s)
    | depth + 1 => (closeKey depth s).map fun (key, rest) => (')' :: key, rest)
  | depth, c :: s =>
    (closeKey (if c = '(' then depth + 1 else depth) s).map fun (key, rest) => (c :: key, rest)

/-- Takes a key. -/
def takeKey : List Char → DirectiveKey × List Char
  | '(' :: s =>
    match closeKey 1 s with
    | some (key, rest) => (.named (String.ofList key), rest)
    | none => (.unclosed, [])
  | s => (.none, s)

/-- Takes flags. -/
def takeFlags (f : DirectiveFlags) : List Char → DirectiveFlags × List Char
  | '-' :: s => takeFlags { f with leftAligned := true } s
  | '+' :: s => takeFlags { f with plusSign := true } s
  | ' ' :: s => takeFlags { f with blankSign := true } s
  | '#' :: s => takeFlags { f with alternate := true } s
  | '0' :: s => takeFlags { f with zeroFilled := true } s
  | s => (f, s)

/-- The number that some digits are. -/
def digitsNumber (ds : List Char) : Nat := ds.foldl (fun n d => 10 * n + (d.toNat - 48)) 0

/-- Takes an extent; no digits are `missing`. -/
def takeExtent (missing : Extent) : List Char → Extent × List Char
  | '*' :: s => (.taken, s)
  | s =>
    let ds := s.takeWhile Char.isDigit
    (if ds.isEmpty then missing else .given (digitsNumber ds), s.dropWhile Char.isDigit)

/-- Takes a precision. -/
def takePrecision : List Char → Extent × List Char
  | '.' :: s => takeExtent (.given 0) s
  | s => (.none, s)

/-- Takes a size letter, which means nothing. -/
def dropSize : List Char → List Char
  | 'h' :: s | 'l' :: s | 'L' :: s => s
  | s => s

/-- Reads a directive after its percent sign. -/
def parse (s : List Char) : Directive :=
  let (key, s) := takeKey s
  let (flags, s) := takeFlags {} s
  let (width, s) := takeExtent .none s
  let (precision, s) := takePrecision s
  let letter? := match dropSize s with
    | [] => none
    | c :: rest => some (c, rest)
  { key, flags, width, precision, letter? }

end Directive

/-! ## Arguments -/

/-- The arguments that are left. -/
structure Supply where
  left : List Value
  /-- The mapping from which arguments are taken by their keys. -/
  mapping? : Option (Entries Value) := none

/-- A step of filling in arguments. -/
abbrev Filling := StateT Supply (Except TemplateProblem)

namespace Supply

/-- The arguments of a message: a mapping stands for itself. -/
def ofArguments : Value → Supply
  | .tuple xs => ⟨xs, none⟩
  | .mapping es => ⟨[.mapping es], some es⟩
  | v => ⟨[v], none⟩

/-- Takes the next argument. -/
def take : Filling Value := do
  match (← get).left with
  | [] => throw .tooFewArguments
  | v :: left =>
    modify fun s => { s with left }
    return v

/-- Makes the argument under a key the next one and the last. -/
def select : DirectiveKey → Filling Unit
  | .none => pure ()
  | key => do
    match (← get).mapping?, key with
    | none, _ => throw .notMapping
    | some es, .named name =>
      match Entries.at? es name with
      | some v => modify fun s => { s with left := [v] }
      | none => throw (.missingKey name)
    | some _, _ => throw .unfinishedKey

/-- Takes a whole number for an extent. -/
def takeWhole : Filling Int := do
  match ← take with
  | .number (.int n) => return n
  | .bool b => return b.toNat
  | _ => throw .extentNotWhole

end Supply

/-! ## Writing -/

/-- The greatest precision. -/
def precisionLimit : Nat := 2147483647

/-- The greatest width. -/
def widthLimit : Nat := 9223372036854775807

/-- The width of a directive: a negative one that is taken aligns to the left. -/
def Directive.resolveWidth (d : Directive) : Filling (Nat × Bool) := do
  match d.width with
  | .none => return (0, d.flags.leftAligned)
  | .given n => if n ≤ widthLimit then return (n, d.flags.leftAligned) else throw .widthTooBig
  | .taken =>
    let n ← Supply.takeWhole
    if n.natAbs ≤ widthLimit then return (n.natAbs, d.flags.leftAligned || n < 0)
    else throw .takenWidthTooBig

/-- The precision of a directive, if it has one. -/
def Directive.resolvePrecision (d : Directive) : Filling (Option Nat) := do
  match d.precision with
  | .none => return none
  | .given n => if n ≤ precisionLimit then return some n else throw .precisionTooBig
  | .taken =>
    let n ← Supply.takeWhole
    if n.natAbs ≤ precisionLimit then return some n.toNat else throw .takenPrecisionTooBig

/-- A text that fills a directive. -/
structure Filled where
  sign : List Char := []
  /-- What stands between the sign and the zeros that fill it up. -/
  mark : List Char := []
  body : List Char
  /-- Whether zeros may fill it up. -/
  numeric : Bool := false

namespace Filled

/-- The text, filled up to a width. -/
def pad (f : Filled) (width : Nat) (left zeros : Bool) : List Char :=
  let missing := width - (f.sign.length + f.mark.length + f.body.length)
  if left then f.sign ++ f.mark ++ f.body ++ List.replicate missing ' '
  else if zeros && f.numeric then f.sign ++ f.mark ++ List.replicate missing '0' ++ f.body
  else List.replicate missing ' ' ++ f.sign ++ f.mark ++ f.body

/-- The sign of a number. -/
def signOf (flags : DirectiveFlags) (negative : Bool) : List Char :=
  if negative then ['-'] else if flags.plusSign then ['+'] else if flags.blankSign then [' '] else []

/-- A whole number in some base. -/
def ofWhole (flags : DirectiveFlags) (letter : Char) (precision? : Option Nat) (n : Int) :
    Filled :=
  let (base, mark) : Nat × List Char := match letter with
    | 'o' => (8, ['0', 'o'])
    | 'x' => (16, ['0', 'x'])
    | 'X' => (16, ['0', 'X'])
    | _ => (10, [])
  let ds := Nat.toDigits base n.natAbs
  let ds := if letter = 'X' then ds.map Char.toUpper else ds
  { sign := signOf flags (n < 0)
    mark := if flags.alternate then mark else []
    body := List.replicate (precision?.getD 0 - ds.length) '0' ++ ds
    numeric := true }

/-- A double. -/
def ofFloat (flags : DirectiveFlags) (letter : Char) (precision? : Option Nat) (x : Binary64) :
    Filled :=
  let style : PlaceNotation := match letter.toLower with
    | 'e' => .scientific
    | 'f' => .fixed
    | _ => .general
  let (negative, body) := match x with
    | .nan => (false, "nan".toList)
    | .infinite negative => (negative, "inf".toList)
    | .finite negative m => (negative, style.text m (precision?.getD 6) flags.alternate)
  { sign := signOf flags negative
    body := if letter.isUpper then body.map Char.toUpper else body
    numeric := true }

/-- A text, cut to a precision. -/
def ofText (precision? : Option Nat) (s : String) : Filled :=
  { body := match precision? with
      | some n => s.toList.take n
      | none => s.toList }

end Filled

/-- The text of a value; a whole number may be too long for one. -/
def shownText (v : Value) : Except TemplateProblem String :=
  match v with
  | .number (.int n) =>
    if digitLimit < Binary64.digitCount n.natAbs then .error (.fault .numberTooLong)
    else .ok (toString n)
  | v => .ok v.plainText

/-- The quoted form of a value; a whole number may be too long for one. -/
def shownForm (v : Value) : Except TemplateProblem String :=
  match v with
  | .number (.int n) => shownText (.int n)
  | v => .ok v.display

/-- A text with the characters beyond ASCII as escape sequences. -/
def asciiForm (s : String) : String :=
  String.join (s.toList.map fun c =>
    if c.toNat < 128 then String.singleton c else Text.escapeCode c.toNat)

/-- The whole number that an argument is cut to. -/
def wholeArgument (letter : Char) : Value → Except TemplateProblem Int
  | .number (.int n) => .ok n
  | .bool b => .ok b.toNat
  | .number (.float x) =>
    match x.units? with
    | some units => .ok (Int.tdiv units unitsPerOne)
    | none => .error (if x.isNaN then .undefinedNumber else .infiniteNumber)
  | v => .error (.notReal letter v.kindName)

/-- The whole number that an argument is. -/
def exactArgument (letter : Char) : Value → Except TemplateProblem Int
  | .number (.int n) => .ok n
  | .bool b => .ok b.toNat
  | v => .error (.notWhole letter v.kindName)

/-- The double that an argument is. -/
def floatArgument : Value → Except TemplateProblem Binary64
  | .number (.float x) => .ok x
  | .number (.int n) =>
    match Binary64.ofInt? n with
    | some x => .ok x
    | none => .error (.fault .tooLargeForFloat)
  | .bool b => .ok ((Binary64.ofInt? b.toNat).getD .nan)
  | v => .error (.notFloat v.kindName)

/-- The character that an argument is. -/
def characterArgument (v : Value) : Except TemplateProblem Char :=
  match v.numeric? with
  | some (.int n) =>
    if 0 ≤ n ∧ n < 0x110000 then .ok (Char.ofNat n.toNat) else .error .characterOutOfRange
  | _ =>
    match v.text?.map String.toList with
    | some [c] => .ok c
    | _ => .error .notCharacter

/-- Writes an argument as a directive asks; the directive's letter stands at `index`. -/
def fill (flags : DirectiveFlags) (precision? : Option Nat) (letter : Char) (index : Nat)
    (v : Value) : Except TemplateProblem Filled :=
  match letter with
  | 's' => return .ofText precision? (← shownText v)
  | 'r' => return .ofText precision? (← shownForm v)
  | 'a' => return .ofText precision? (asciiForm (← shownForm v))
  | 'c' => return { body := [← characterArgument v] }
  | 'd' | 'i' | 'u' => return .ofWhole flags letter precision? (← wholeArgument letter v)
  | 'o' | 'x' | 'X' => return .ofWhole flags letter precision? (← exactArgument letter v)
  | 'e' | 'E' | 'f' | 'F' | 'g' | 'G' => return .ofFloat flags letter precision? (← floatArgument v)
  | letter => .error (.unknownLetter letter index)

/-- Fills in the argument of a directive, and gives the characters after it; the template has
`size` characters. -/
def Directive.fill (d : Directive) (size : Nat) : Filling (List Char × List Char) := do
  Supply.select d.key
  let (width, left) ← d.resolveWidth
  let precision? ← d.resolvePrecision
  match d.letter? with
  | none => throw .unfinished
  | some (letter, rest) =>
    let v ← Supply.take
    let filled ← RuleSchema.fill d.flags precision? letter (size - rest.length - 1) v
    return (filled.pad width left d.flags.zeroFilled, rest)

/-- Fills in the arguments of what is left of a template of `size` characters. -/
def fillFrom (size : Nat) : Nat → List Char → Filling (List Char)
  | 0, _ => return []
  | _, [] => return []
  | fuel + 1, '%' :: '%' :: s => do return '%' :: (← fillFrom size fuel s)
  | fuel + 1, '%' :: s => do
    let (text, rest) ← (Directive.parse s).fill size
    return text ++ (← fillFrom size fuel rest)
  | fuel + 1, c :: s => do return c :: (← fillFrom size fuel s)

/-- Fills in the arguments of a template. -/
def renderTemplate (template : String) (arguments : Value) : Except TemplateProblem String := do
  let s := template.toList
  let (text, supply) ← (fillFrom s.length (s.length + 1) s).run (Supply.ofArguments arguments)
  if supply.mapping?.isNone && !supply.left.isEmpty then .error .tooManyArguments
  else return String.ofList text

end RuleSchema
