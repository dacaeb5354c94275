import RuleSchema.Host.Label
import RuleSchema.Host.Mapping
import RuleSchema.Text.Search
import RuleSchema.Text.Utf8

/-!
# Names of hosts

The name of a host consists of labels between points.  It may be given in any script, and is brought
to one form before it is used.  The locators of the web are lenient about the characters of labels;
mail is strict.

* `Domain.percentDecoded` resolves what is written as percent signs and digits.
* `Domain.ofWeb?` is the name that the text in a locator gives, in its one form.
* `Domain.toAscii` writes a name in ASCII, `Domain.ofAscii` reads one.
-/

namespace RuleSchema.Domain

/-! ## Percent signs -/

/-- The value of a hexadecimal digit. -/
def hexValue? (c : Char) : Option Nat :=
  if c.isDigit then some (c.toNat - 48)
  else if 'a' ≤ c && c ≤ 'f' then some (c.toNat - 87)
  else if 'A' ≤ c && c ≤ 'F' then some (c.toNat - 55)
  else none

/-- Bytes with every percent sign and two digits resolved. -/
def decodePercent : List UInt8 → List UInt8
  | [] => []
  | b :: rest =>
    if b = 0x25 then
      match rest with
      | h :: l :: rest' =>
        match hexValue? (Char.ofNat h.toNat), hexValue? (Char.ofNat l.toNat) with
        | some x, some y => UInt8.ofNat (x * 16 + y) :: decodePercent rest'
        | _, _ => b :: decodePercent (h :: l :: rest')
      | rest => b :: rest
    else b :: decodePercent rest

/-- A text with every percent sign and two digits resolved, if that is a text. -/
def percentDecoded (s : List Char) : Option (List Char) :=
  if s.contains '%' then
    match Text.ofUtf8 (decodePercent (Text.toUtf8 (String.ofList s))) with
    | .ok t => some t.toList
    | .error _ => none
  else some s

/-! ## Names in locators -/

/-- Whether an ASCII character may stand in no name. -/
def isForbidden (c : Char) : Bool :=
  c.toNat ≤ 32 || c.toNat = 127 || "%#/:<>?@[\\]^|".toList.contains c

/-- The label that one in ASCII stands for, if that has its one form and is not in ASCII itself. -/
def decodedLabel? (code : List Char) : Option (List Char) := do
  let label ← Punycode.decode? code
  if label.all fun c => c.toNat < 128 then none
  else
    match Mapping.apply label with
    | .ok form => if form = label then return label else none
    | .error _ => none

/-- A label of a name in its one form; one that stands for another is replaced by it. -/
def webLabel? (s : List Char) : Option (List Char) :=
  match Text.after? Label.codeMark s with
  | some code => decodedLabel? code
  | none => some s

/-- Whether every joiner of a label joins something; `before` is reversed. -/
def joinersFit (before : List Char) : List Char → Bool
  | [] => true
  | c :: s => (!isJoiner c || Label.joinerFits c before s) && joinersFit (c :: before) s

/-- Whether a label may be part of a name; `bidirectional` says whether some label of the name runs
from right to left. -/
def isWebLabel (bidirectional : Bool) (s : List Char) : Bool :=
  s.isEmpty ||
    (!s.head?.any Text.isMark && joinersFit [] s &&
      (!bidirectional || (Label.directionProblem? s).isNone))

/-- The name that a text gives, in its one form. -/
def ofWeb? (s : List Char) : Option (List Char) := do
  let name ← (Mapping.apply s).toOption
  let labels ← (Text.splitOn '.' name).mapM webLabel?
  if labels.all (isWebLabel (labels.any Label.runsRight)) then return name else none

/-! ## Names in mail -/

/-- A name from its labels. -/
def joinLabels (labels : List (List Char)) : List Char :=
  match labels with
  | [] => []
  | l :: ls => l ++ ls.flatMap ('.' :: ·)

/-- A name in ASCII. -/
def toAscii (s : List Char) : Except LabelProblem (List Char) := do
  return joinLabels (← (Text.splitOn '.' s).mapM Label.toAscii)

/-- The name that one in ASCII is or stands for. -/
def ofAscii (s : List Char) : Except LabelProblem (List Char) := do
  return joinLabels (← (Text.splitOn '.' s).mapM Label.ofAscii)

end RuleSchema.Domain
