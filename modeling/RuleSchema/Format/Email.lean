import RuleSchema.Host.AddressProblem
import RuleSchema.Host.Domain
import RuleSchema.Text.Blank
import RuleSchema.Text.CharName
import RuleSchema.Text.Printable
import RuleSchema.Text.WordChar

/-!
# Email addresses

An address is a name, the sign `@` and the name of a host.  It may be given with the name of a
person before it and between angle brackets; such a text is read too, so that callers can tell a
bare address from one with more around it.

* `Email.read` gives the address in a text, in its one form, or says what is wrong.
* `Email.checkBare` accepts texts that are an address and nothing else.
-/

namespace RuleSchema.Email

/-- Why a text is no address. -/
inductive Problem where
  | tooLong
  | lineBreak
  | noAtSign
  | afterQuote (cs : List Char)
  | nameCharacters (cs : List Char)
  | unclosedAngle
  | afterAngle
  | nameGiven
  | emptyLocal
  | localCharacters (cs : List Char)
  | quotedCharacters (cs : List Char)
  | unsafeCharacters (cs : List Char)
  | quotedLocal
  /-- A mark stands at the end of the local part. -/
  | beforeAt (mark : String)
  | atStart (mark : String)
  | twoPeriods
  /-- A mark stands at the start of the domain. -/
  | afterAt (mark : String)
  | atEnd (mark : String)
  | periodBesideHyphen
  | emptyDomain
  | badBrackets (reason : String)
  | bracketed
  | domainCharacters (cs : List Char)
  | mappedCharacters (cs : List Char)
  /-- A character has no meaning in a domain. -/
  | unmappable (c : Char) (position : Nat) (domain : List Char)
  | unmappablyLong
  | badLabel (p : LabelProblem)
  | badCode (p : LabelProblem)
  | reservedHyphens
  | domainTooLong (excess : Nat)
  | encodedTooLong (excess : Nat)
  | labelTooLong (excess : Nat)
  | noPeriod
  | noTopLevel
  | reservedDomain
  | addressTooLong (reason : String)
  /-- The composed form of the local part has a problem. -/
  | composedLocal (p : Problem)
deriving DecidableEq

namespace Problem

/-- Characters as a message shows them, sorted, each once. -/
def displays (cs : List Char) : String :=
  Text.joinWith ", " (((cs.eraseDups.map Text.charDisplay).mergeSort fun a b => !decide (b < a)))

/-- How many characters are too many. -/
def excessText (n : Nat) : String :=
  "(" ++ toString n ++ " character" ++ (if n = 1 then "" else "s") ++ " too many)"

/-- How many bytes are too many, and in which form. -/
def excessBytes (n : Nat) (form : String) : String :=
  "(" ++ toString n ++ " byte" ++ (if n = 1 then "" else "s") ++ " too many " ++ form ++ ")"

/-- What is wrong. -/
def reason : Problem → String
  | .tooLong => "Length must not exceed 2048 characters"
  | .lineBreak => "Carriage return and line feed characters are not allowed"
  | .noAtSign => "An email address must have an @-sign."
  | .afterQuote cs =>
    "Extra character(s) found after close quote: " ++
      Text.joinWith ", " (cs.map Text.charDisplay)
  | .nameCharacters cs =>
    "The display name contains invalid characters when not quoted: " ++ displays cs ++ "."
  | .unclosedAngle =>
    "An open angle bracket at the start of the email address has to be followed by a close " ++
      "angle bracket at the end."
  | .afterAngle => "There can't be anything after the email address."
  | .nameGiven =>
    "A display name and angle brackets around the email address are not permitted here."
  | .emptyLocal => "There must be something before the @-sign."
  | .localCharacters cs =>
    "The email address contains invalid characters before the @-sign: " ++ displays cs ++ "."
  | .quotedCharacters cs =>
    "The email address contains invalid characters in quotes before the @-sign: " ++
      displays cs ++ "."
  | .unsafeCharacters cs =>
    "The email address contains unsafe characters: " ++
      Text.joinWith ", " ((cs.eraseDups.mergeSort fun a b => !decide (b < a)).map
        Text.charDisplay) ++ "."
  | .quotedLocal => "Quoting the part before the @-sign is not allowed here."
  | .beforeAt mark =>
    "An email address cannot have a " ++ mark ++ " immediately before the @-sign."
  | .atStart mark => "An email address cannot start with a " ++ mark ++ "."
  | .twoPeriods => "An email address cannot have two periods in a row."
  | .afterAt mark =>
    "An email address cannot have a " ++ mark ++ " immediately after the @-sign."
  | .atEnd mark => "An email address cannot end with a " ++ mark ++ "."
  | .periodBesideHyphen =>
    "An email address cannot have a period and a hyphen next to each other."
  | .emptyDomain => "There must be something after the @-sign."
  | .badBrackets reason => reason
  | .bracketed => "A bracketed IP address after the @-sign is not allowed here."
  | .domainCharacters cs =>
    "The part after the @-sign contains invalid characters: " ++ displays cs ++ "."
  | .mappedCharacters cs =>
    "The part after the @-sign contains invalid characters after Unicode normalization: " ++
      displays cs ++ "."
  | .unmappable c position domain =>
    "The part after the @-sign contains invalid characters (Codepoint " ++
      LabelProblem.codeText c ++ " not allowed at position " ++ toString position ++ " in " ++
      LabelProblem.shown domain ++ ")."
  | .unmappablyLong => "The part after the @-sign contains invalid characters (Domain too long)."
  | .badLabel p => "The part after the @-sign is invalid (" ++ p.message ++ ")."
  | .badCode p => "The part after the @-sign is not valid IDNA (" ++ p.message ++ ")."
  | .reservedHyphens =>
    "An email address cannot have two letters followed by two dashes immediately after the " ++
      "@-sign or after a period, except Punycode."
  | .domainTooLong excess =>
    "The email address is too long after the @-sign " ++ excessText excess ++ "."
  | .encodedTooLong excess =>
    "The email address is too long after the @-sign " ++
      excessBytes excess "after IDNA encoding" ++ "."
  | .labelTooLong excess =>
    "After the @-sign, periods cannot be separated by so many characters " ++
      excessText excess ++ "."
  | .noPeriod => "The part after the @-sign is not valid. It should have a period."
  | .noTopLevel =>
    "The part after the @-sign is not valid. It is not within a valid top-level domain."
  | .reservedDomain =>
    "The part after the @-sign is a special-use or reserved name that cannot be used with email."
  | .addressTooLong reason => "The email address is too long " ++ reason ++ "."
  | .composedLocal p => "After Unicode normalization: " ++ p.reason

/-- The message of a problem. -/
def message (p : Problem) : String := "value is not a valid email address: " ++ p.reason

end Problem

/-! ## Parts of a text -/

/-- Whether a character may stand in a name without quotes, apart from the period. -/
def isAtom (c : Char) : Bool := c.isAlphanum || "!#$%&'*+-/=?^_\x60\x7b|\x7d~".toList.contains c

/-- Whether a character lies outside ASCII. -/
def isForeign (c : Char) : Bool := 128 ≤ c.toNat

/-- The number of characters before the first of `specials` that stands outside quotes.  An angle
bracket with a stroke through it is none. -/
def specialAt (specials : List Char) : (inside escaped : Bool) → List Char → Nat
  | _, _, [] => 0
  | inside, escaped, c :: s =>
    if c = '<' && s.head? = some '\u0338' then specialAt specials inside escaped s + 1
    else if inside then
      if c = '\\' && !escaped then specialAt specials true true s + 1
      else if c = '"' && !escaped then specialAt specials false false s + 1
      else specialAt specials true false s + 1
    else if c = '"' then specialAt specials true escaped s + 1
    else if specials.contains c then 0
    else specialAt specials false escaped s + 1

/-- A text cut before the first special character outside quotes. -/
def cutAtSpecial (specials : List Char) (s : List Char) :
    Except Problem (List Char × List Char) :=
  let n := specialAt specials false false s
  if n = s.length then .error .noAtSign else .ok (s.take n, s.drop n)

/-- What stands between quotes, whose first one is already read. -/
def unquotedRest (escaped : Bool) : List Char → Except Problem (List Char)
  | [] => .ok []
  | c :: s =>
    if escaped then (unquotedRest false s).map (c :: ·)
    else if c = '\\' then unquotedRest true s
    else if c = '"' then if s.isEmpty then .ok [] else .error (.afterQuote s)
    else (unquotedRest false s).map (c :: ·)

/-- A text without the quotes around it, and whether there are some. -/
def unquoted (s : List Char) : Except Problem (List Char × Bool) :=
  match s with
  | '"' :: rest => (unquotedRest false rest).map (·, true)
  | s => .ok (s, false)

/-- Whether a character is a blank inside a line. -/
def isSpace (c : Char) : Bool :=
  Text.isBlank c && 32 ≤ c.toNat && !([0x85, 0x2028, 0x2029].contains c.toNat)

/-- The characters that may change what stands around them. -/
def unsafeIn (allowBlanks : Bool) (s : List Char) : List Char :=
  (s.filter fun c => !Text.isPrintable c && !(allowBlanks && isSpace c)) ++
    match s with
    | c :: _ => if Text.isMark c then [c] else []
    | [] => []

/-- Refuses a text with characters that may change what stands around them. -/
def checkSafe (allowBlanks : Bool) (s : List Char) : Except Problem Unit :=
  match unsafeIn allowBlanks s with
  | [] => .ok ()
  | cs => .error (.unsafeCharacters cs)

/-- The parts of an address. -/
structure Parts where
  /-- Whether the name of a person or angle brackets are given. -/
  named : Bool
  name : List Char
  quoted : Bool
  domain : List Char

/-- The address between angle brackets, with the name of a person before it. -/
def readNamed (person rest : List Char) : Except Problem (List Char × List Char) := do
  let (name, quoted) ← unquoted ((person.reverse.dropWhile Text.isBlank).reverse)
  let bad := name.filter fun c => !isAtom c && c != ' '
  if !quoted && !bad.isEmpty then .error (.nameCharacters bad)
  checkSafe true name
  if !rest.contains '>' then .error .unclosedAngle
  let rest := (rest.reverse.dropWhile (· = ' ')).reverse
  if rest.getLast? ≠ some '>' then .error .afterAngle
  cutAtSpecial ['@'] (((rest.drop 1).reverse.dropWhile (· = '>')).reverse)

/-- The parts of the address in a text. -/
def readParts (s : List Char) : Except Problem Parts := do
  let (left, right) ← cutAtSpecial ['@', '<'] s
  let named := right.head? = some '<'
  let (left, right) ← if named then readNamed left right else .ok (left, right)
  let (name, quoted) ← unquoted left
  return { named, name, quoted, domain := if right.head? = some '@' then right.drop 1 else right }

/-! ## The local part -/

/-- Whether a text has two periods in a row. -/
def hasTwoPeriods (s : List Char) : Bool := Text.occursIn ['.', '.'] s

/-- The problem of a local part without quotes. -/
def localProblem? (s : List Char) : Option Problem :=
  match s.filter fun c => !(isAtom c || c = '.' || isForeign c) with
  | c :: cs => some (.localCharacters (c :: cs))
  | [] =>
    if s.getLast? = some '.' then some (.beforeAt "period")
    else if s.head? = some '.' then some (.atStart "period")
    else if hasTwoPeriods s then some .twoPeriods
    else none

/-- Checks a local part. -/
def checkLocal (s : List Char) (quoted : Bool) : Except Problem Unit :=
  if s.isEmpty then .error .emptyLocal
  else
    match localProblem? s with
    | none => checkSafe false s
    | some p =>
      if !quoted then .error p
      else
        match s.filter fun c => !(c.toNat ≠ 127 && 32 ≤ c.toNat) with
        | c :: cs => .error (.quotedCharacters (c :: cs))
        | [] => checkSafe true s

/-! ## The domain -/

/-- Whether a character may stand in a domain. -/
def isDomainChar (c : Char) : Bool := c.isAlphanum || c = '-' || c = '.' || isForeign c

/-- The problem of the periods and hyphens of a domain. -/
def dotProblem? (s : List Char) : Option Problem :=
  if s.getLast? = some '.' then some (.atEnd "period")
  else if s.head? = some '.' then some (.afterAt "period")
  else if hasTwoPeriods s then some .twoPeriods
  else if s.getLast? = some '-' then some (.atEnd "hyphen")
  else if s.head? = some '-' then some (.afterAt "hyphen")
  else if Text.occursIn ['.', '-'] s || Text.occursIn ['-', '.'] s then some .periodBesideHyphen
  else none

/-- Whether a label has two hyphens after two characters, without the mark of an encoded label. -/
def hasReservedHyphens : List Char → Bool
  | a :: b :: '-' :: '-' :: _ => !(a = 'x' && b = 'n')
  | _ => false

/-- The domains that are reserved for other uses. -/
def reservedDomains : List String :=
  ["arpa", "invalid", "local", "localhost", "onion", "test"]

/-- Whether a domain is reserved or lies within a reserved one. -/
def isReserved (s : List Char) : Bool :=
  let text := String.ofList s
  reservedDomains.any fun d => text = d || text.endsWith ("." ++ d)

/-- The most characters of a domain in ASCII. -/
def domainLimit : Nat := 253

/-- The problem of a domain in ASCII, which stands for `name`. -/
def asciiProblem? (name s : List Char) : Option Problem :=
  if domainLimit < s.length then
    some (if s = name then .domainTooLong (s.length - domainLimit)
      else .encodedTooLong (s.length - domainLimit))
  else
    match (Text.splitOn '.' s).find? fun l => Label.asciiLimit < l.length with
    | some l => some (.labelTooLong (l.length - Label.asciiLimit))
    | none =>
      if !s.contains '.' then some .noPeriod
      else if !(s.getLast?.any Char.isAlpha) then some .noTopLevel
      else if isReserved s then some .reservedDomain
      else none

/-- The problem of a domain between brackets. -/
def bracketProblem (s : List Char) : Problem :=
  if !s.isEmpty && s.all (fun c => c.isDigit || c = '.') then
    match Ipv4.problem? s with
    | some message =>
      .badBrackets ("The address in brackets after the @-sign is not valid: It is not an IPv4 " ++
        "address (" ++ message ++ ") or is missing an address literal tag.")
    | none => .bracketed
  else
    match Text.after? "IPv6:".toList s with
    | some address =>
      match Ipv6.problem? address with
      | some message =>
        .badBrackets ("The IPv6 address in brackets after the @-sign is not valid (" ++ message ++
          ").")
      | none => .bracketed
    | none =>
      if !s.contains ':' then
        .badBrackets ("The part after the @-sign in brackets is not an IPv4 address and has no " ++
          "address literal tag.")
      else
        match s.filter fun c => !(33 ≤ c.toNat && c.toNat ≤ 250) with
        | c :: cs =>
          .badBrackets ("The part after the @-sign contains invalid characters in brackets: " ++
            Problem.displays (c :: cs) ++ ".")
        | [] =>
          .badBrackets
            "The part after the @-sign contains an invalid address literal tag in brackets."

/-- The most characters of a domain that is brought to its one form. -/
def mappingLimit : Nat := 1024

/-- A domain in its one form. -/
def mapDomain (s : List Char) : Except Problem (List Char) :=
  if mappingLimit < s.length then .error .unmappablyLong
  else
    match Mapping.apply s with
    | .error (c, position) => .error (.unmappable c position s)
    | .ok name =>
      match name.filter fun c => !isDomainChar c with
      | c :: cs => .error (.mappedCharacters (c :: cs))
      | [] => .ok name

/-- A domain in its one form, in ASCII and in its own script. -/
def readName (s : List Char) : Except Problem (List Char × List Char) := do
  let name ← mapDomain s
  match dotProblem? name with
  | some p => .error p
  | none =>
    if (Text.splitOn '.' name).any hasReservedHyphens then .error .reservedHyphens
    else
      let ascii ← if name.all fun c => c.toNat < 128 then .ok name
        else (Domain.toAscii name).mapError .badLabel
      match asciiProblem? name ascii with
      | some p => .error p
      | none => return (ascii, ← (Domain.ofAscii ascii).mapError .badCode)

/-- The domain of an address in its one form, in ASCII and in its own script. -/
def readDomain (s : List Char) : Except Problem (List Char × List Char) :=
  if s.isEmpty then .error .emptyDomain
  else if s.head? = some '[' && s.getLast? = some ']' then
    .error (bracketProblem (s.drop 1).dropLast)
  else
    match s.filter fun c => !isDomainChar c with
    | c :: cs => .error (.domainCharacters (c :: cs))
    | [] => do
      checkSafe false s
      readName s

/-! ## Addresses -/

/-- The most bytes of an address. -/
def addressLimit : Nat := 254

/-- How many bytes an address has beyond the limit. -/
def excessOf (s : List Char) : Nat := (Text.toUtf8 (String.ofList s)).length - addressLimit

/-- How much an address is too long, given the excess of its bytes.  For characters of several bytes
only bounds are given: all of the excess may lie in them. -/
def excessReason (s : List Char) (excess : Nat) : String :=
  let most := s.foldl (fun n c => max n (Text.toUtf8 (String.singleton c)).length) 1
  let least := max 1 (excess / most)
  if s.all (fun c => c.toNat < 128) || least = excess then Problem.excessText excess
  else
    "(" ++ toString least ++ "-" ++ toString excess ++ " character" ++
      (if excess = 1 then "" else "s") ++ " too many)"

/-- Refuses an address that is too long, for a reason given its excess. -/
def checkLength (s : List Char) (reason : Nat → String) : Except Problem Unit :=
  match excessOf s with
  | 0 => .ok ()
  | n + 1 => .error (.addressTooLong (reason (n + 1)))

/-- An address from its parts. -/
def address (name domain : List Char) : List Char := name ++ '@' :: domain

/-- The local part in composed form. -/
def composeLocal (name : List Char) (quoted : Bool) : Except Problem (List Char) :=
  if Text.isComposed name then .ok name
  else do
    (checkLocal (Text.composed name) quoted).mapError .composedLocal
    return Text.composed name

/-- The address that a text is, without the white space around it. -/
def readAddress (s : List Char) : Except Problem (List Char) := do
  let parts ← readParts s
  checkLocal parts.name parts.quoted
  let name ← composeLocal parts.name parts.quoted
  if parts.quoted then .error .quotedLocal
  let (ascii, domain) ← readDomain parts.domain
  let given := address parts.name parts.domain
  checkLength given (excessReason given)
  checkLength (address name domain) fun n => Problem.excessBytes n "after normalization"
  checkLength (address name ascii) fun n =>
    Problem.excessBytes n "when the part after the @-sign is converted to IDNA ASCII"
  if parts.named then .error .nameGiven
  return address name domain

/-! ## Names before addresses -/

/-- Whether a character may stand in the name of a person without quotes. -/
def isNameChar (c : Char) : Bool := Text.isWordChar c || "!#$%&'*+-/=?^\x60\x7b|\x7d~".toList.contains c

/-- A text without white space at its end. -/
def trimmedEnd (s : List Char) : List Char := (s.reverse.dropWhile Text.isBlank).reverse

/-- What follows an opening angle bracket, up to the closing one that ends the text. -/
def insideAngles? : List Char → Option (List Char)
  | '<' :: rest =>
    let rest := trimmedEnd rest
    if rest.getLast? = some '>' && 2 ≤ rest.length then some rest.dropLast else none
  | _ => none

/-- What stands between the angle brackets after the last closing quote that is followed by
some. -/
def afterLastQuote? : List Char → Option (List Char)
  | [] => none
  | c :: s =>
    match afterLastQuote? s with
    | some inside => some inside
    | none => if c = '"' then insideAngles? (s.dropWhile Text.isBlank) else none

/-- What stands between angle brackets after the name of a person, if the text has that form. -/
def afterName? (s : List Char) : Option (List Char) :=
  match s.dropWhile Text.isBlank with
  | '"' :: c :: rest => afterLastQuote? (if c = '"' then rest else c :: rest)
  | s => insideAngles? (s.dropWhile fun c => isNameChar c || Text.isBlank c)

/-- The most characters of a text that is read. -/
def textLimit : Nat := 2048

/-- Reads the address in a text. -/
def read (s : String) : Except Problem String :=
  if textLimit < s.length then .error .tooLong
  else if s.toList.any fun c => c = '\n' || c = '\r' then .error .lineBreak
  else
    let inside := (afterName? s.toList).getD s.toList
    (readAddress (Text.trim (String.ofList inside)).toList).map String.ofList

/-- Accepts a text that is an address and nothing else, apart from white space if `trimming`. -/
def checkBare (trimming : Bool) (s : String) : Except (Option Problem) Unit :=
  match read s with
  | .error p => .error (some p)
  | .ok address =>
    let expected := if trimming then Text.trim s else s
    if Text.lower address = Text.lower expected then .ok () else .error none

end RuleSchema.Email
