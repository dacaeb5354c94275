import RuleSchema.Host.LabelAlphabet
import RuleSchema.Host.Punycode
import RuleSchema.Text.Composition
import RuleSchema.Text.Direction
import RuleSchema.Text.Joining
import RuleSchema.Text.Mark
import RuleSchema.Text.Quoted

/-!
# Labels

A label in any script has to be in composed form and written in the characters of labels, each at a
place where it may stand; hyphens and marks may not begin it; and if it has letters of a script that
runs from right to left, its directions have to be in order.

* `Label.problem?` says what is wrong with a label.
* `Label.toAscii` writes a label in ASCII, `Label.ofAscii` reads one.
-/

namespace RuleSchema

/-- What is wrong with a label. -/
inductive LabelProblem where
  | empty | tooLong | notComposed | innerHyphens | outerHyphen | leadingMark
  /-- A character stands in no label. -/
  | character (c : Char) (position : Nat) (label : List Char)
  /-- A joiner stands where nothing is joined. -/
  | joiner (c : Char) (position : Nat) (label : List Char)
  /-- A character stands where it may not. -/
  | place (c : Char) (position : Nat) (label : List Char)
  /-- A character has no direction. -/
  | unassigned (position : Nat) (label : List Char)
  /-- The first character has no direction of its own. -/
  | startDirection (label : List Char)
  | rightDirection (position : Nat)
  | leftDirection (position : Nat)
  | mixedNumbers
  | endDirection
  | emptyCode | codeHyphen | badCode
deriving DecidableEq

namespace LabelProblem

/-- A code point as messages write it. -/
def codeText (c : Char) : String :=
  let digits := (Nat.toDigits 16 c.toNat).map Char.toUpper
  "U+" ++ String.ofList (List.replicate (4 - digits.length) '0' ++ digits)

/-- A text between quotes. -/
def shown (s : List Char) : String := Text.quoted (String.ofList s)

/-- What is wrong, as a message. -/
def message : LabelProblem → String
  | .empty => "Empty Label"
  | .tooLong => "Label too long"
  | .notComposed => "Label must be in Normalization Form C"
  | .innerHyphens => "Label has disallowed hyphens in 3rd and 4th position"
  | .outerHyphen => "Label must not start or end with a hyphen"
  | .leadingMark => "Label begins with an illegal combining character"
  | .character c position label =>
    "Codepoint " ++ codeText c ++ " at position " ++ toString position ++ " of " ++ shown label ++
      " not allowed"
  | .joiner c position label =>
    "Unknown codepoint adjacent to joiner " ++ codeText c ++ " at position " ++
      toString position ++ " in " ++ shown label
  | .place c position label =>
    "Codepoint " ++ codeText c ++ " not allowed at position " ++ toString position ++ " in " ++
      shown label
  | .unassigned position label =>
    "Unknown directionality in label " ++ shown label ++ " at position " ++ toString position
  | .startDirection label =>
    "First codepoint in label " ++ shown label ++ " must be directionality L, R or AL"
  | .rightDirection position =>
    "Invalid direction for codepoint at position " ++ toString position ++
      " in a right-to-left label"
  | .leftDirection position =>
    "Invalid direction for codepoint at position " ++ toString position ++
      " in a left-to-right label"
  | .mixedNumbers => "Can not mix numeral types in a right-to-left label"
  | .endDirection => "Label ends with illegal codepoint directionality"
  | .emptyCode => "Malformed A-label, no Punycode eligible content found"
  | .codeHyphen => "A-label must not end with a hyphen"
  | .badCode => "Invalid A-label"

end LabelProblem

namespace Label

open Text (Direction Joining directionOf joiningOf)

/-! ## Places of characters -/

/-- Whether a mark that silences a vowel comes before; `before` is reversed. -/
def followsVirama : List Char → Bool
  | c :: _ => Text.combiningClass c = Text.viramaClass
  | [] => false

/-- How the nearest character that is not looked through joins others. -/
def nearestJoining (s : List Char) : Joining :=
  match s.find? fun c => joiningOf c ≠ .transparent with
  | some c => joiningOf c
  | none => .none

/-- Whether a joiner joins something, or keeps apart what would be joined. -/
def joinerFits (c : Char) (before after : List Char) : Bool :=
  followsVirama before ||
    (c = '\u200C' && (nearestJoining before).joinsNext && (nearestJoining after).joinsPrevious)

/-- Whether a character that may stand at certain places only may stand between `before`, which is
reversed, and `after`. -/
def placeFits (c : Char) (before after : List Char) : Bool :=
  let label := before ++ after
  if c = '\u00B7' then before.head? = some 'l' && after.head? = some 'l'
  else if c = '\u0375' then after.head?.any fun d => Text.scriptOf? d = some .greek
  else if c = '\u30FB' then label.any fun d => Text.scriptOf? d = some .japanese
  else if isArabicDigit c then !label.any isEasternDigit
  else if isEasternDigit c then !label.any isArabicDigit
  else before.head?.any fun d => Text.scriptOf? d = some .hebrew

/-- What is wrong with the characters of a label of which `before`, reversed, is checked. -/
def characterProblem? (label before : List Char) : List Char → Option LabelProblem
  | [] => none
  | c :: s =>
    let position := before.length + 1
    if isLabelChar c then characterProblem? label (c :: before) s
    else if isJoiner c then
      if joinerFits c before s then characterProblem? label (c :: before) s
      else some (.joiner c position label)
    else if isContextual c then
      if placeFits c before s then characterProblem? label (c :: before) s
      else some (.place c position label)
    else some (.character c position label)

/-! ## Directions -/

/-- Whether a label has letters or digits that run from right to left. -/
def runsRight (s : List Char) : Bool :=
  s.any fun c => directionOf c = .right || directionOf c = .arabicNumber

/-- Whether a label, its marks at the end left out, ends as it may. -/
def endsWith (p : Direction → Bool) (s : List Char) : Bool :=
  match s.reverse.find? fun c => directionOf c ≠ .mark with
  | some c => p (directionOf c)
  | none => false

/-- What is wrong with the directions of a label from right to left.  Its numbers are all of one
kind, which is `number?` once there is one. -/
def rightProblem? (number? : Option Direction) (position : Nat) :
    List Char → Option LabelProblem
  | [] => none
  | c :: s =>
    match directionOf c with
    | .left | .control | .unassigned => some (.rightDirection position)
    | .arabicNumber =>
      if number? = some .europeanNumber then some .mixedNumbers
      else rightProblem? (some .arabicNumber) (position + 1) s
    | .europeanNumber =>
      if number? = some .arabicNumber then some .mixedNumbers
      else rightProblem? (some .europeanNumber) (position + 1) s
    | _ => rightProblem? number? (position + 1) s

/-- What is wrong with the directions of a label from left to right. -/
def leftProblem? (position : Nat) : List Char → Option LabelProblem
  | [] => none
  | c :: s =>
    match directionOf c with
    | .right | .arabicNumber | .control => some (.leftDirection position)
    | _ => leftProblem? (position + 1) s

/-- What is wrong with the directions of a label. -/
def directionProblem? (s : List Char) : Option LabelProblem :=
  match s.head?.map directionOf with
  | some .right =>
    rightProblem? none 1 s <|>
      if endsWith (fun d => d = .right || d = .europeanNumber || d = .arabicNumber) s then none
      else some .endDirection
  | some .left | some .unassigned =>
    leftProblem? 1 s <|>
      if endsWith (fun d => d = .left || d = .unassigned || d = .europeanNumber) s then none
      else some .endDirection
  | _ => some (.startDirection s)

/-- What is wrong with the directions of a label, if it has letters from right to left at all. -/
def mixedProblem? (s : List Char) : Option LabelProblem :=
  match s.findIdx? fun c => directionOf c = .unassigned with
  | some i => some (.unassigned (i + 1) s)
  | none => if runsRight s then directionProblem? s else none

/-! ## Labels as a whole -/

/-- The most characters of a label that is looked at. -/
def sizeLimit : Nat := 254

/-- The most characters of a label in ASCII. -/
def asciiLimit : Nat := 63

/-- What is wrong with the hyphens of a label. -/
def hyphenProblem? (s : List Char) : Option LabelProblem :=
  if (s.drop 2).take 2 = ['-', '-'] then some .innerHyphens
  else if s.head? = some '-' || s.getLast? = some '-' then some .outerHyphen
  else none

/-- What is wrong with a label. -/
def problem? (s : List Char) : Option LabelProblem :=
  if s.isEmpty then some .empty
  else if sizeLimit < s.length then some .tooLong
  else if !Text.isComposed s then some .notComposed
  else
    hyphenProblem? s <|>
      (if s.head?.any Text.isMark then some .leadingMark else none) <|>
      characterProblem? s [] s <|> mixedProblem? s

/-- Refuses a label with which something is wrong. -/
def check (s : List Char) : Except LabelProblem Unit :=
  match problem? s with
  | some p => .error p
  | none => .ok ()

/-- The mark of a label that stands for another. -/
def codeMark : List Char := ['x', 'n', '-', '-']

/-- The label that one in ASCII is or stands for. -/
def ofAscii (s : List Char) : Except LabelProblem (List Char) :=
  let s := s.map Char.toLower
  match Text.after? codeMark s with
  | none => do
    check s
    return s
  | some code =>
    if code.isEmpty then .error .emptyCode
    else if code.getLast? = some '-' then .error .codeHyphen
    else
      match Punycode.decode? code with
      | none => .error .badCode
      | some label => do
        check label
        return label

/-- A label in ASCII. -/
def toAscii (s : List Char) : Except LabelProblem (List Char) := do
  let ascii ← if s.all fun c => c.toNat < 128 then do
      let _ ← ofAscii s
      pure s
    else do
      check s
      pure (codeMark ++ Punycode.encode s)
  if asciiLimit < ascii.length then .error .tooLong else return ascii

end Label

end RuleSchema
