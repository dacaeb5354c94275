import RuleSchema.Host.Address
import RuleSchema.Host.Domain

/-!
# Locators of resources

A locator starts with a scheme.  The schemes of the web are followed by a host, before which any
number of slashes may stand, and which may have a user before and a port after it; a locator of any
other scheme has a host only after two slashes.  What follows the host may be anything.

* `Url.check` accepts the locators of pages, and says what is wrong with any other text.
-/

namespace RuleSchema.Url

/-- Why a text locates no page. -/
inductive Problem where
  | empty | tooLong | noBase | emptyHost | badPort | badIpv4 | badIpv6 | badName
  | badCharacter | badScheme
deriving DecidableEq

/-- The most bytes of a locator. -/
def lengthLimit : Nat := 2083

namespace Problem

/-- The message of a problem. -/
def message : Problem → String
  | .empty => "Input should be a valid URL, input is empty"
  | .tooLong => "URL should have at most " ++ toString lengthLimit ++ " characters"
  | .noBase => "Input should be a valid URL, relative URL without a base"
  | .emptyHost => "Input should be a valid URL, empty host"
  | .badPort => "Input should be a valid URL, invalid port number"
  | .badIpv4 => "Input should be a valid URL, invalid IPv4 address"
  | .badIpv6 => "Input should be a valid URL, invalid IPv6 address"
  | .badName => "Input should be a valid URL, invalid international domain name"
  | .badCharacter => "Input should be a valid URL, invalid domain character"
  | .badScheme => "URL scheme should be 'http' or 'https'"

end Problem

/-- How the schemes differ in what follows them. -/
inductive SchemeKind where
  /-- The schemes that always have a host. -/
  | web
  | file
  | other
deriving DecidableEq

/-- The kind of a scheme. -/
def kindOf (scheme : String) : SchemeKind :=
  if ["http", "https", "ws", "wss", "ftp"].contains scheme then .web
  else if scheme = "file" then .file
  else .other

/-- A text without white space and control characters at its ends, and without line breaks and
tabulators inside. -/
def cleaned (s : String) : List Char :=
  let isEdge (c : Char) : Bool := c.toNat ≤ 32
  let trimmed := ((s.toList.dropWhile isEdge).reverse.dropWhile isEdge).reverse
  trimmed.filter fun c => c != '\t' && c != '\n' && c != '\r'

/-- Whether a character may stand in a scheme. -/
def isSchemeChar (c : Char) : Bool := c.isAlphanum || c = '+' || c = '-' || c = '.'

/-- The scheme of a text, in lower case, and what follows its colon. -/
def scheme? (s : List Char) : Option (String × List Char) :=
  let name := s.takeWhile isSchemeChar
  match name, s.drop name.length with
  | c :: _, ':' :: rest =>
    if c.isAlpha then some (String.ofList (name.map Char.toLower), rest) else none
  | _, _ => none

/-! ## Hosts -/

/-- The problem of a host between brackets. -/
def bracketProblem? (s : List Char) : Option Problem :=
  if s.getLast? = some ']' && Ipv6.isAddress (s.drop 1).dropLast then none else some .badIpv6

/-- The problem of the host of a scheme that knows names. -/
def hostProblem? (s : List Char) : Option Problem :=
  if s.head? = some '[' then bracketProblem? s
  else
    match (Domain.percentDecoded s).bind Domain.ofWeb? with
    | none => some .badName
    | some name =>
      if name.any Domain.isForbidden then some .badName
      else if name.isEmpty then some .emptyHost
      else if Ipv4.endsInNumber name && !Ipv4.isAddress name then some .badIpv4
      else none

/-- The problem of the host of a scheme that knows no names. -/
def opaqueProblem? (s : List Char) : Option Problem :=
  if s.head? = some '[' then bracketProblem? s
  else if s.any fun c => "\x00\t\n\r #/:<>?@[\\]^|".toList.contains c then some .badCharacter
  else none

/-- The characters up to the first that ends an authority. -/
def authority (kind : SchemeKind) (s : List Char) : List Char :=
  s.takeWhile fun c => !(c = '/' || c = '?' || c = '#' || (kind = .web && c = '\\'))

/-- A text cut at its last sign `@`. -/
def cutUser (s : List Char) : Option (List Char) × List Char :=
  let host := (s.reverse.takeWhile (· ≠ '@')).reverse
  if host.length = s.length then (none, s) else (some (s.take (s.length - host.length - 1)), host)

/-- A host cut off at the first colon outside brackets. -/
def cutPort (inside : Bool) : List Char → List Char × Option (List Char)
  | [] => ([], none)
  | c :: s =>
    if c = ':' && !inside then ([], some s)
    else
      let (host, port?) := cutPort (if c = '[' then true else if c = ']' then false else inside) s
      (c :: host, port?)

/-- The problem of a port, given what follows its colon. -/
def portProblem? (s : List Char) : Option Problem :=
  let digits := s.takeWhile Char.isDigit
  let number := digits.foldl (fun n c => n * 10 + (c.toNat - 48)) 0
  if 65535 < number then some .badPort
  else
    match s.drop digits.length with
    | [] => none
    | c :: _ => if c = '\\' then none else some .badPort

/-- The problem of an authority: a host, with a user before and a port after it. -/
def authorityProblem? (kind : SchemeKind) (s : List Char) : Option Problem :=
  let (user?, rest) := cutUser s
  let (host, port?) := cutPort false rest
  let hostProblem := match kind with
    | .web => if host.isEmpty then some .emptyHost else hostProblem? host
    | _ =>
      let named := match user? with
        | some user => !(user = [] || user = [':'])
        | none => false
      if host.isEmpty && (named || port?.isSome) then some .emptyHost else opaqueProblem? host
  hostProblem <|> port?.bind portProblem?

/-- Whether a text is the letter of a drive. -/
def isDrive : List Char → Bool
  | [c, d] => c.isAlpha && (d = ':' || d = '|')
  | _ => false

/-- The problem of what follows a scheme. -/
def restProblem? (kind : SchemeKind) (s : List Char) : Option Problem :=
  match kind with
  | .web => authorityProblem? .web (authority .web (s.dropWhile fun c => c = '/' || c = '\\'))
  | .file =>
    match s with
    | a :: b :: rest =>
      if (a = '/' || a = '\\') && (b = '/' || b = '\\') then
        let host := authority .web rest
        if host.isEmpty || isDrive host then none else hostProblem? host
      else none
    | _ => none
  | .other =>
    match s with
    | '/' :: '/' :: rest =>
      let host := authority .other rest
      if host = ['@'] && rest.length ≠ 1 then some .emptyHost else authorityProblem? .other host
    | _ => none

/-- Accepts the locators of pages. -/
def check (s : String) : Except Problem Unit :=
  if lengthLimit < (Text.toUtf8 s).length then .error .tooLong
  else if s = "" then .error .empty
  else
    match scheme? (cleaned s) with
    | none => .error .noBase
    | some (scheme, rest) =>
      match restProblem? (kindOf scheme) rest with
      | some p => .error p
      | none =>
        if scheme = "http" || scheme = "https" then .ok () else .error .badScheme

end RuleSchema.Url
