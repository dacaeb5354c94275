import RuleSchema.Text.LetterCase
import RuleSchema.Text.Search

/-!
# Identifiers of 128 bits

Such an identifier is written as 32 hexadecimal digits, in five groups between hyphens or without
any.  The grouped form may stand between braces or after a mark of its own.  Rules accept the bare
grouped form alone, but tell of a problem only with texts in none of the forms.

* `Uuid.check` accepts the grouped form.
* `Uuid.form?` recognises all forms, and `Uuid.problem` says why a text has none.
-/

namespace RuleSchema.Uuid

/-- The forms of an identifier. -/
inductive Form where
  | grouped | plain | braced | marked
deriving DecidableEq

/-- Why a text is in no form of an identifier. -/
inductive Problem where
  | character (c : Char) (place : Nat)
  | length (found : Nat)
  | groupCount (found : Nat)
  | groupLength (group expected found : Nat)
  /-- The text is in a form that is not accepted here. -/
  | notGrouped
deriving DecidableEq

namespace Problem

/-- The message of a problem. -/
def message : Problem → String
  | .character c place =>
    "Input should be a valid UUID, invalid character: found \x60" ++ String.singleton c ++
      "\x60 at " ++ toString place
  | .length found => "Input should be a valid UUID, invalid length: found " ++ toString found
  | .groupCount found =>
    "Input should be a valid UUID, invalid group count: expected 5, found " ++ toString found
  | .groupLength group expected found =>
    "Input should be a valid UUID, invalid group length in group " ++ toString group ++
      ": expected " ++ toString expected ++ ", found " ++ toString found
  | .notGrouped => "Value must be a hyphenated 8-4-4-4-12 UUID"

end Problem

/-- Whether a character is a hexadecimal digit. -/
def isDigit (c : Char) : Bool :=
  c.isDigit || ('a' ≤ c && c ≤ 'f') || ('A' ≤ c && c ≤ 'F')

/-- The lengths of the groups. -/
def groupLengths : List Nat := [8, 4, 4, 4, 12]

/-- Whether a text is five groups of digits between hyphens. -/
def isGrouped (s : List Char) : Bool :=
  let groups := Text.splitOn '-' s
  groups.map List.length = groupLengths && groups.all fun g => g.all isDigit

/-- Whether a text is 32 digits. -/
def isPlain (s : List Char) : Bool := s.length = 32 && s.all isDigit

/-- The mark before the grouped form. -/
def mark : List Char := "urn:uuid:".toList

/-- What stands between braces. -/
def insideBraces? (s : List Char) : Option (List Char) :=
  match s with
  | '\x7b' :: rest => if rest.getLast? = some '\x7d' then some rest.dropLast else none
  | _ => none

/-- The form of a text. -/
def form? (s : List Char) : Option Form :=
  if isGrouped s then some .grouped
  else if isPlain s then some .plain
  else if (insideBraces? s).any isGrouped then some .braced
  else if (Text.after? mark s).any isGrouped then some .marked
  else none

/-! ## Problems -/

/-- The first character that is neither a digit nor a hyphen, with its place in bytes. -/
def badCharacter? (place : Nat) : List Char → Option Problem
  | [] => none
  | c :: s =>
    if isDigit c || c = '-' then badCharacter? (place + 1) s else some (.character c place)

/-- The first of the given groups whose length is wrong. -/
def badGroup? (group : Nat) : List Nat → List (List Char) → Option Problem
  | expected :: lengths, g :: groups =>
    if g.length = expected then badGroup? (group + 1) lengths groups
    else some (.groupLength group expected g.length)
  | _, _ => none

/-- The content of a text apart from its braces or its mark, where the content starts, and whether
there are neither. -/
def content (s : List Char) : List Char × Nat × Bool :=
  match insideBraces? s, Text.after? mark s with
  | some inside, _ => (inside, 1, false)
  | _, some rest => (rest, mark.length, false)
  | _, _ => (s, 0, true)

/-- Why a text is in no form of an identifier. -/
def problem (s : List Char) : Problem :=
  let (inside, start, bare) := content s
  let groups := Text.splitOn '-' inside
  match badCharacter? start inside with
  | some p => p
  | none =>
    if groups.length = 1 && bare then .length s.length
    else if groups.length ≠ 5 then .groupCount groups.length
    else (badGroup? 0 (groupLengths.take 4) groups).getD
      (.groupLength 4 12 (s.length - (groupLengths.take 4).foldl (· + ·) 0 - 4))

/-- Accepts the identifiers in the grouped form. -/
def check (s : String) : Except Problem Unit :=
  match form? s.toList with
  | some .grouped => .ok ()
  | some _ => .error .notGrouped
  | none => .error (problem s.toList)

end RuleSchema.Uuid
