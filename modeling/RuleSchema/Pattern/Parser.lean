import RuleSchema.Fault
import RuleSchema.Number.Numeral
import RuleSchema.Pattern.Error
import RuleSchema.Pattern.Node

/-!
# Reading patterns

A pattern is read token by token, a token being a character or a backslash with the character
after it.  The options in force are part of the state of the reader, so that every node is built
with its options settled.

* `parse` reads a pattern and gives its tree and its options.
-/

namespace RuleSchema.Pattern

/-- A token of a pattern. -/
inductive Token where
  | char (c : Char)
  | escape (c : Char)
deriving DecidableEq

namespace Token

/-- The characters of a token. -/
def chars : Token → List Char
  | .char c => [c]
  | .escape c => ['\\', c]

/-- The text of a token. -/
def text (t : Token) : String := String.ofList t.chars

/-- The first token of a pattern. -/
def first? : List Char → Option Token
  | [] => none
  | ['\\'] => none
  | '\\' :: c :: _ => some (.escape c)
  | c :: _ => some (.char c)

end Token

/-- The number of characters that a pattern can match: at least, and at most if there is a
limit. -/
structure Width where
  least : Nat
  most? : Option Nat
deriving DecidableEq

namespace Width

def none : Width := ⟨0, some 0⟩

def one : Width := ⟨1, some 1⟩

/-- The width of one pattern after another. -/
def add (a b : Width) : Width :=
  ⟨a.least + b.least, do return (← a.most?) + (← b.most?)⟩

/-- The width of either of two patterns. -/
def either (a b : Width) : Width :=
  ⟨min a.least b.least, do return max (← a.most?) (← b.most?)⟩

/-- The width of repeated rounds. -/
def rounds (w : Width) (least : Nat) (most? : Option Nat) : Width :=
  ⟨w.least * least,
    if w.most? = some 0 then some 0 else do return (← w.most?) * (← most?)⟩

/-- Whether there is just one number of characters. -/
def isFixed (w : Width) : Bool := w.most? = some w.least

end Width

/-- The width of a pattern, the widths of the groups it refers to being given. -/
def Node.width (groups : List (Nat × Width)) : Node → Width
  | .empty | .anchor _ | .ahead .. | .behind .. => .none
  | .set _ => .one
  | .seq a b => (a.width groups).add (b.width groups)
  | .alt a b => (a.width groups).either (b.width groups)
  | .repeat _ least most? body => (body.width groups).rounds least most?
  | .group _ body => body.width groups
  | .atomic body => body.width groups
  | .reference _ index => (groups.lookup index).getD .none
  | .conditional _ yes no => (yes.width groups).either (no.width groups)

/-- Why the reading of a pattern stops. -/
inductive ParseStop where
  | problem (e : PatternError)
  /-- A number of repetitions is too large. -/
  | repetitionTooLarge
deriving DecidableEq

/-- The state of the reader. -/
structure ParseState where
  rest : List Char
  position : Nat := 0
  flags : PatternFlags
  /-- The number of groups opened so far, the whole pattern counted as one. -/
  groups : Nat := 1
  names : List (String × Nat) := []
  /-- The widths of the groups closed so far. -/
  widths : List (Nat × Width) := []
  /-- Inside a look behind, the number of groups opened before it. -/
  behindGroups? : Option Nat := none
  /-- The groups that conditions ask for, and where. -/
  conditions : List (Nat × Nat) := []
  /-- Whether some look behind has no fixed width. -/
  variableBehind : Bool := false

/-- A step of the reader. -/
abbrev Parse := StateT ParseState (Except ParseStop)

namespace Parse

variable {α : Type}

/-- Stops with a mistake found `offset` characters before the next token. -/
def fail (problem : PatternProblem) (offset : Nat) : Parse α := do
  throw (.problem ⟨problem, some ((← get).position - offset)⟩)

/-- Stops with a mistake found at a position. -/
def failAt (problem : PatternProblem) (position : Nat) : Parse α :=
  throw (.problem ⟨problem, some position⟩)

/-- The next token. -/
def peek? : Parse (Option Token) := do return Token.first? (← get).rest

/-- Reports a pattern whose next token would be a single backslash. -/
def checkEnd : Parse Unit := do
  let s ← get
  if s.rest = ['\\'] then failAt .endsInBackslash s.position

/-- Passes the next token. -/
def advance : Parse Unit := do
  let s ← get
  let n := match Token.first? s.rest with
    | some t => t.chars.length
    | none => 0
  set { s with rest := s.rest.drop n, position := s.position + n }
  checkEnd

/-- Takes the next token. -/
def next? : Parse (Option Token) := do
  let t ← peek?
  advance
  return t

/-- Passes the next token if it is the character `c`. -/
def accept (c : Char) : Parse Bool := do
  if (← peek?) = some (.char c) then
    advance
    return true
  else return false

/-- Takes up to `n` characters of a class. -/
def takeWhile (p : Char → Bool) : Nat → Parse (List Char)
  | 0 => return []
  | n + 1 => do
    match ← peek? with
    | some (.char c) =>
      if p c then
        advance
        return c :: (← takeWhile p n)
      else return []
    | _ => return []

/-- Takes a name up to its closing mark; `found` are its characters so far. -/
def takeName (mark : Char) (what : String) : Nat → List Char → Parse String
  | 0, _ => fail (.missing what) 0
  | fuel + 1, found => do
    match ← next? with
    | none =>
      if found.isEmpty then fail (.missing what) 0
      else fail (.unterminatedName (String.singleton mark)) found.length
    | some t =>
      if t = .char mark then
        if found.isEmpty then fail (.missing what) 1 else return String.ofList found
      else takeName mark what fuel (found ++ t.chars)

/-- Takes a name up to its closing mark. -/
def name (mark : Char) (what : String) : Parse String := do
  takeName mark what ((← get).rest.length + 1) []

end Parse

open Parse

/-! ## Characters and options -/

/-- Whether a character may start an identifier. -/
def startsIdentifier (c : Char) : Bool :=
  c = '_' || (Text.isAlphanumeric c && !Text.isDigit c)

/-- Whether a text is an identifier. -/
def isIdentifier (s : String) : Bool :=
  match s.toList with
  | [] => false
  | c :: cs => startsIdentifier c && cs.all Text.isWordChar

def isOctalDigit (c : Char) : Bool := '0' ≤ c && c ≤ '7'

def isHexDigit (c : Char) : Bool :=
  c.isDigit || ('a' ≤ c && c ≤ 'f') || ('A' ≤ c && c ≤ 'F')

/-- The value of a hexadecimal numeral. -/
def hexNumber (cs : List Char) : Nat :=
  cs.foldl (fun n c =>
    n * 16 + (if c.isDigit then c.toNat - 48 else c.toLower.toNat - 87)) 0

/-- The value of an octal numeral. -/
def octalNumber (cs : List Char) : Nat := cs.foldl (fun n c => n * 8 + (c.toNat - 48)) 0

/-- How characters are compared under some options. -/
def foldOf (f : PatternFlags) : Text.CaseFold :=
  if f.ignoreCase then if f.ascii then .ascii else .full else .exact

/-- The pattern of one character. -/
def literal (n : Nat) : Parse Node := do
  return .set (.single (foldOf (← get).flags) n)

/-- The class that a letter after a backslash means, and whether it is negated. -/
def category? : Char → Option (Category × Bool)
  | 'd' => some (.digit, false)
  | 'D' => some (.digit, true)
  | 's' => some (.blank, false)
  | 'S' => some (.blank, true)
  | 'w' => some (.word, false)
  | 'W' => some (.word, true)
  | _ => none

/-- The control character that a letter after a backslash means. -/
def control? : Char → Option Nat
  | 'a' => some 7
  | 'b' => some 8
  | 'f' => some 12
  | 'n' => some 10
  | 'r' => some 13
  | 't' => some 9
  | 'v' => some 11
  | '\\' => some 92
  | _ => none

/-- The text of a sequence that starts with a backslash. -/
def sequenceText (c : Char) (more : List Char) : String := String.ofList ('\\' :: c :: more)

/-- Reads the digits of a hexadecimal sequence. -/
def hexSequence (c : Char) (digits : Nat) : Parse Nat := do
  let ds ← takeWhile isHexDigit digits
  if ds.length ≠ digits then fail (.incompleteEscape (sequenceText c ds)) (2 + ds.length)
  else
    let n := hexNumber ds
    if n ≤ 0x10FFFF then return n
    else fail (.badEscape (sequenceText c ds)) (2 + ds.length)

/-- Reads the name of a character; none is known. -/
def namedSequence : Parse Nat := do
  if ← accept '\x7b' then
    let found ← name '\x7d' "character name"
    fail (.unknownCharacterName found) (found.length + 4)
  else fail (.missing "\x7b") 0

/-- Reads an octal sequence whose digits so far are `ds`. -/
def octalSequence (ds : List Char) : Parse Nat := do
  let n := octalNumber ds
  if 0o377 < n then
    fail (.octalTooLarge (String.ofList ('\\' :: ds))) (1 + ds.length)
  else return n

/-- Reads a sequence for one character that has digits, if `c` starts one. -/
def numberedSequence? (c : Char) : Parse (Option Nat) := do
  match c with
  | 'x' => return some (← hexSequence 'x' 2)
  | 'u' => return some (← hexSequence 'u' 4)
  | 'U' => return some (← hexSequence 'U' 8)
  | 'N' => return some (← namedSequence)
  | _ => return none

/-- The character that stands for itself after a backslash. -/
def plainSequence (c : Char) : Parse Nat := do
  if c.isAlpha then fail (.badEscape (sequenceText c [])) 2 else return c.toNat

/-! ## Sets of characters -/

/-- A member of a set: one code point, or a class. -/
inductive SetMember where
  | one (n : Nat)
  | category (item : SetItem)

namespace SetMember

/-- A member as a part of a set. -/
def item : SetMember → SetItem
  | .one n => .range n n
  | .category item => item

end SetMember

/-- Reads the rest of a sequence inside a set. -/
def setEscape (c : Char) : Parse SetMember := do
  match control? c, category? c with
  | some n, _ => return .one n
  | none, some (cat, negated) => return .category (.category cat negated (← get).flags.ascii)
  | none, none =>
    match ← numberedSequence? c with
    | some n => return .one n
    | none =>
      if isOctalDigit c then
        let more ← takeWhile isOctalDigit 2
        return .one (← octalSequence (c :: more))
      else if c.isDigit then fail (.badEscape (sequenceText c [])) 2
      else return .one (← plainSequence c)

/-- Reads a member of a set from its first token. -/
def setMember : Token → Parse SetMember
  | .char c => return .one c.toNat
  | .escape c => setEscape c

/-- Reads the range that ends in the token `last`. -/
def setRange (first : Token) (low : SetMember) (last : Token) : Parse SetItem := do
  let high ← setMember last
  let width := first.chars.length + 1 + last.chars.length
  match low, high with
  | .one a, .one b =>
    if b < a then fail (.badRange first.text last.text) width else return .range a b
  | _, _ => fail (.badRange first.text last.text) width

/-- Reads the members of a set that starts at `start`, after those already read. -/
def setItems (start : Nat) : Nat → List SetItem → Parse (List SetItem)
  | 0, _ => failAt .unterminatedSet start
  | fuel + 1, found => do
    match ← next? with
    | none => failAt .unterminatedSet start
    | some t =>
      if t = .char ']' && !found.isEmpty then return found
      else
        let member ← setMember t
        if ← accept '-' then
          match ← next? with
          | none => failAt .unterminatedSet start
          | some last =>
            if last = .char ']' then return found ++ [member.item, .range 45 45]
            else setItems start fuel (found ++ [← setRange t member last])
        else setItems start fuel (found ++ [member.item])

/-- Reads a set after its opening bracket. -/
def charSet : Parse Node := do
  let start := (← get).position - 1
  let negated ← accept '^'
  let items ← setItems start ((← get).rest.length + 1) []
  return .set ⟨negated, foldOf (← get).flags, items⟩

/-! ## Sequences outside sets -/

/-- Reports a reference that a look behind does not allow. -/
def checkBehind (index : Nat) : Parse Unit := do
  let s ← get
  match s.behindGroups? with
  | none => return
  | some before =>
    if (s.widths.lookup index).isNone then fail .openGroup 0
    else if before ≤ index then fail .groupOfSameLookbehind 0

/-- A reference to a group, written with `written` characters. -/
def referenceTo (index written : Nat) : Parse Node := do
  let s ← get
  if (s.widths.lookup index).isNone then fail .openGroup written
  else
    checkBehind index
    return .reference (foldOf s.flags) index

/-- Reads a reference by number, or an octal sequence, that starts with the digit `c`. -/
def numericEscape (c : Char) : Parse Node := do
  let digits ← match ← peek? with
    | some (.char d) =>
      if d.isDigit then
        advance
        pure [c, d]
      else pure [c]
    | _ => pure [c]
  let third? ← match ← peek? with
    | some (.char e) =>
      pure (if digits.length = 2 && digits.all isOctalDigit && isOctalDigit e then some e
        else none)
    | _ => pure none
  match third? with
  | some e =>
    advance
    literal (← octalSequence (digits ++ [e]))
  | none =>
    let index := Numeral.digitsValue (digits.map fun d => d.toNat - 48)
    if index < (← get).groups then referenceTo index (1 + digits.length)
    else fail (.noSuchGroup index) digits.length

/-- Reads the rest of a sequence outside a set. -/
def escape (c : Char) : Parse Node := do
  let ascii := (← get).flags.ascii
  match c with
  | 'A' => return .anchor .textStart
  | 'Z' => return .anchor .textEnd
  | 'b' => return .anchor (.wordBoundary false ascii)
  | 'B' => return .anchor (.wordBoundary true ascii)
  | _ =>
    match category? c, control? c with
    | some (cat, negated), _ => return .set ⟨false, .exact, [.category cat negated ascii]⟩
    | none, some n => literal n
    | none, none =>
      match ← numberedSequence? c with
      | some n => literal n
      | none =>
        if c = '0' then
          let more ← takeWhile isOctalDigit 2
          literal (octalNumber more)
        else if c.isDigit then numericEscape c
        else literal (← plainSequence c)

/-! ## Repetitions -/

/-- A part of a sequence, and whether it is a group of its own. -/
structure Part where
  node : Node
  grouped : Bool

/-- The part without its grouping as a sequence. -/
def sequenceOf (parts : List Part) : Node :=
  match parts with
  | [] => .empty
  | [p] => p.node
  | p :: rest => .seq p.node (sequenceOf rest)

/-- The largest number of repetitions that may be written, and one. -/
def repetitionLimit : Nat := 4294967295

/-- A number of repetitions. -/
def repetitionCount (ds : List Char) : Parse Nat := do
  let n := Numeral.digitsValue (ds.map fun d => d.toNat - 48)
  if repetitionLimit ≤ n then throw .repetitionTooLarge else return n

/-- Reads the bounds of a repetition after its opening brace; nothing if these are no bounds. -/
def bounds? : Parse (Option (Nat × Option Nat)) := do
  if (← peek?) = some (.char '\x7d') then return none
  let here := (← get).position
  let saved ← get
  let room := saved.rest.length
  let low ← takeWhile Char.isDigit room
  let comma ← accept ','
  let high ← if comma then takeWhile Char.isDigit room else pure low
  if !(← accept '\x7d') then
    set saved
    return none
  let least ← if low.isEmpty then pure 0 else repetitionCount low
  if high.isEmpty then return some (least, none)
  let most ← repetitionCount high
  if most < least then failAt .leastAboveMost here
  return some (least, some most)

/-- How a repetition chooses its rounds, by the mark after it. -/
def greedMark : Parse Greed := do
  if ← accept '?' then return .lazy
  if ← accept '+' then return .possessive
  return .greedy

/-- Repeats the last of the parts read so far, given in reverse. -/
def repeatLast (start least : Nat) (most? : Option Nat) (parts : List Part) :
    Parse (List Part) := do
  match parts with
  | [] => failAt .nothingToRepeat start
  | p :: rest =>
    let isAnchor := match p.node with
      | .anchor _ => !p.grouped
      | _ => false
    let isRepeat := match p.node with
      | .repeat .. => !p.grouped
      | _ => false
    if isAnchor then failAt .nothingToRepeat start
    else if isRepeat then failAt .multipleRepeat start
    else
      let greed ← greedMark
      return ⟨.repeat greed least most? p.node, false⟩ :: rest

/-! ## Options inside a pattern -/

/-- The letters of options. -/
def optionLetters : List Char := ['i', 'L', 'm', 's', 'x', 'a', 't', 'u']

/-- The letters of the options that choose an alphabet. -/
def alphabetLetters : List Char := ['a', 'L', 'u']

/-- The options that letters stand for. -/
def optionsOf (letters : List Char) : PatternFlags where
  ignoreCase := letters.contains 'i'
  multiline := letters.contains 'm'
  dotAll := letters.contains 's'
  verbose := letters.contains 'x'
  ascii := letters.contains 'a'

/-- Whether a token is a letter of some alphabet. -/
def isLetterToken : Token → Bool
  | .char c => startsIdentifier c && c != '_'
  | .escape _ => false

/-- Takes the next letter of an option, or one of the closing marks. -/
def optionToken (closing : List Char) (missing : String) : Parse Char := do
  match ← next? with
  | none => fail (.missing missing) 0
  | some (.char c) =>
    if closing.contains c || optionLetters.contains c then return c
    else
      fail (if isLetterToken (.char c) then .unknownOption else .missing missing) 1
  | some t => fail (.missing missing) t.chars.length

/-- Reads the letters of options to set, from the letter `c`, up to the mark after them. -/
def optionsOn : Nat → Char → List Char → Parse (List Char × Char)
  | 0, _, _ => fail .unexpectedEnd 0
  | fuel + 1, c, found => do
    if c = 'L' then fail (.bytesOption "L") 0
    else if alphabetLetters.contains c && found.any (fun d => d != c && alphabetLetters.contains d)
    then fail .incompatibleOptions 0
    else
      let d ← optionToken [')', '-', ':'] "-, : or )"
      if optionLetters.contains d then optionsOn fuel d (c :: found)
      else return (c :: found, d)

/-- Reads the letters of options to clear, from the letter `c`, up to the colon after them. -/
def optionsOff : Nat → Char → List Char → Parse (List Char)
  | 0, _, _ => fail .unexpectedEnd 0
  | fuel + 1, c, found => do
    if alphabetLetters.contains c then fail .fixedOption 0
    else
      let d ← optionToken [':'] ":"
      if d = ':' then return c :: found else optionsOff fuel d (c :: found)

/-- The options in force inside a group that sets and clears some. -/
def scopedOptions (f : PatternFlags) (on off : List Char) : PatternFlags :=
  let base := if on.any alphabetLetters.contains then { f with ascii := false } else f
  (base.union (optionsOf on)).without (optionsOf off)

/-- Reads options from their first letter or the dash before them: those set for the whole
pattern, or those set and cleared for a group. -/
def options (c : Char) : Parse (Sum (List Char) (List Char × List Char)) := do
  let room := (← get).rest.length + 1
  let (on, mark) ← if c = '-' then pure ([], '-') else optionsOn room c []
  if mark = ')' then return .inl on
  else if on.contains 't' then fail (.globalOption true) 1
  else if mark = ':' then return .inr (on, [])
  else
    let first ← optionToken [] "flag"
    let off ← optionsOff room first []
    if off.contains 't' then fail (.globalOption false) 1
    else if on.any off.contains then fail .contradictoryOption 1
    else return .inr (on, off)

/-! ## Groups -/

/-- Opens a group. -/
def openGroup (name? : Option String) : Parse Nat := do
  let s ← get
  match name? with
  | none =>
    set { s with groups := s.groups + 1 }
    return s.groups
  | some groupName =>
    match s.names.lookup groupName with
    | some previous =>
      fail (.nameTaken groupName s.groups previous) (groupName.length + 1)
    | none =>
      set { s with groups := s.groups + 1, names := (groupName, s.groups) :: s.names }
      return s.groups

/-- Closes a group. -/
def closeGroup (index : Nat) (body : Node) : Parse Unit :=
  modify fun s => { s with widths := (index, body.width s.widths) :: s.widths }

/-- Takes the name of a group up to its closing mark. -/
def groupName (mark : Char) : Parse String := do
  let found ← name mark "group name"
  if isIdentifier found then return found
  else fail (.badGroupName found) (found.length + 1)

/-- The number of a group that a condition gives as a numeral. -/
def groupNumber? (s : String) : Option Nat :=
  let cs := (Text.trim s).toList
  let cs := match cs with
    | '+' :: cs => cs
    | cs => cs
  if cs.isEmpty || !Numeral.groupedProperly Text.isDigit false cs then none
  else
    (cs.filter (· ≠ '_')).foldl (fun acc c => do
      return 10 * (← acc) + (← Text.digitValue? c)) (some 0)

/-- The largest number of groups, and one. -/
def groupLimit : Nat := 1073741823

/-- Reads the group that a condition asks for. -/
def conditionGroup : Parse Nat := do
  let found ← name ')' "group name"
  let written := found.length + 1
  if isIdentifier found then
    match (← get).names.lookup found with
    | some index => return index
    | none => fail (.unknownGroupName found) written
  else
    match groupNumber? found with
    | none => fail (.badGroupName found) written
    | some 0 => fail .zeroGroup written
    | some index =>
      if groupLimit ≤ index then fail (.noSuchGroup index) written
      else
        let s ← get
        if (s.conditions.lookup index).isNone then
          set { s with conditions := s.conditions ++ [(index, s.position - written)] }
        return index

/-- Passes a comment that starts at `start`. -/
def skipComment (start : Nat) : Nat → Parse Unit
  | 0 => failAt .unterminatedComment start
  | fuel + 1 => do
    match ← peek? with
    | none => failAt .unterminatedComment start
    | some t =>
      advance
      if t = .char ')' then return else skipComment start fuel

/-- Passes the rest of a line. -/
def skipLine : Nat → Parse Unit
  | 0 => return
  | fuel + 1 => do
    match ← next? with
    | none => return
    | some t => if t = .char '\n' then return else skipLine fuel

/-- Passes the parenthesis that closes what starts at `start`. -/
def closing (start : Nat) : Parse Unit := do
  if !(← accept ')') then failAt .unterminatedGroup start

/-- What an opening parenthesis starts. -/
inductive Opening where
  | group (name? : Option String)
  | plain
  | atomic
  | scoped (on off : List Char)
  | ahead (negated : Bool)
  | behind (negated : Bool)
  | condition (index : Nat)
  | reference (node : Node)
  | comment
  | options (on : List Char)

/-- Reads what follows `(?P`. -/
def namedOpening : Parse Opening := do
  match ← next? with
  | some (.char '<') => return .group (some (← groupName '>'))
  | some (.char '=') =>
    let found ← groupName ')'
    match (← get).names.lookup found with
    | none => fail (.unknownGroupName found) (found.length + 1)
    | some index => return .reference (← referenceTo index (found.length + 1))
  | none => fail .unexpectedEnd 0
  | some t => fail (.unknownExtension ("?P" ++ t.text)) (t.chars.length + 2)

/-- Reads what follows `(?<`. -/
def behindOpening : Parse Opening := do
  match ← next? with
  | none => fail .unexpectedEnd 0
  | some t =>
    if t = .char '=' then return .behind false
    else if t = .char '!' then return .behind true
    else fail (.unknownExtension ("?<" ++ t.text)) (t.chars.length + 2)

/-- Reads what follows an opening parenthesis at `start`. -/
def opening (start : Nat) : Parse Opening := do
  if !(← accept '?') then return .group none
  match ← next? with
  | none => fail .unexpectedEnd 0
  | some (.escape c) =>
    fail (.unknownExtension (String.ofList ['?', '\\', c])) 3
  | some (.char c) =>
    match c with
    | 'P' => namedOpening
    | ':' => return .plain
    | '>' => return .atomic
    | '=' => return .ahead false
    | '!' => return .ahead true
    | '<' => behindOpening
    | '(' =>
      let index ← conditionGroup
      checkBehind index
      return .condition index
    | '#' =>
      skipComment start ((← get).rest.length + 1)
      return .comment
    | c =>
      if c = '-' || optionLetters.contains c then
        match ← options c with
        | .inl on => return .options on
        | .inr (on, off) => return .scoped on off
      else fail (.unknownExtension (String.ofList ['?', c])) 2

/-- Runs a step under other options and restores those before it. -/
def withOptions {α : Type} (f : PatternFlags → PatternFlags) (step : Parse α) : Parse α := do
  let before := (← get).flags
  modify fun s => { s with flags := f s.flags }
  let a ← step
  modify fun s => { s with flags := before }
  return a

/-- Whether blanks and comments are skipped before the token `t`. -/
def isBlankToken (t : Token) : Bool :=
  match t with
  | .char c => c = ' ' || c = '\t' || c = '\n' || c = '\r' || c = '\x0b' || c = '\x0c'
  | .escape _ => false

/-- Runs the body of a look behind. -/
def insideBehind {α : Type} (step : Parse α) : Parse α := do
  let before := (← get).behindGroups?
  modify fun s => { s with behindGroups? := some (before.getD s.groups) }
  let a ← step
  modify fun s => { s with behindGroups? := before }
  return a

/-- A look behind at a body; one without a fixed width is noted. -/
def behindNode (negated : Bool) (body : Node) : Parse Node := do
  let width := body.width (← get).widths
  modify fun s => { s with variableBehind := s.variableBehind || !width.isFixed }
  return .behind negated width.least body

mutual

/-- Reads alternatives; `top` says whether they are the whole pattern. -/
def alternatives : Nat → Bool → Parse Node
  | 0, _ => fail .unexpectedEnd 0
  | fuel + 1, top => do
    let first ← parts fuel top []
    if ← accept '|' then return .alt first (← alternativesAfter fuel) else return first

/-- Reads the alternatives after a bar. -/
def alternativesAfter : Nat → Parse Node
  | 0 => fail .unexpectedEnd 0
  | fuel + 1 => do
    let first ← parts fuel false []
    if ← accept '|' then return .alt first (← alternativesAfter fuel) else return first

/-- Reads a sequence up to a bar or a closing parenthesis; `first` says whether the options of
the whole pattern may still be set, and `found` are the parts so far in reverse. -/
def parts : Nat → Bool → List Part → Parse Node
  | 0, _, _ => fail .unexpectedEnd 0
  | fuel + 1, first, found => do
    match ← peek? with
    | none => return sequenceOf found.reverse
    | some t =>
      if t = .char '|' || t = .char ')' then return sequenceOf found.reverse
      let start := (← get).position
      advance
      let flags := (← get).flags
      if flags.verbose && isBlankToken t then parts fuel first found
      else if flags.verbose && t = .char '#' then
        skipLine ((← get).rest.length + 1)
        parts fuel first found
      else
        match t with
        | .escape c => parts fuel first (⟨← escape c, false⟩ :: found)
        | .char '[' => parts fuel first (⟨← charSet, false⟩ :: found)
        | .char '.' => parts fuel first (⟨.set (.any flags.dotAll), false⟩ :: found)
        | .char '^' =>
          let a : Anchor := if flags.multiline then .lineStart else .textStart
          parts fuel first (⟨.anchor a, false⟩ :: found)
        | .char '$' =>
          let a : Anchor := if flags.multiline then .lineEnd else .lastLineEnd
          parts fuel first (⟨.anchor a, false⟩ :: found)
        | .char '?' => parts fuel first (← repeatLast start 0 (some 1) found)
        | .char '*' => parts fuel first (← repeatLast start 0 none found)
        | .char '+' => parts fuel first (← repeatLast start 1 none found)
        | .char '\x7b' =>
          match ← bounds? with
          | none => parts fuel first (⟨← literal 123, false⟩ :: found)
          | some (least, most?) => parts fuel first (← repeatLast start least most? found)
        | .char '(' =>
          match ← groupPart fuel start (first && found.isEmpty) with
          | none => parts fuel first found
          | some p => parts fuel first (p :: found)
        | .char c => parts fuel first (⟨← literal c.toNat, false⟩ :: found)

/-- Reads what an opening parenthesis at `start` opens; nothing for comments and options. -/
def groupPart : Nat → Nat → Bool → Parse (Option Part)
  | 0, _, _ => fail .unexpectedEnd 0
  | fuel + 1, start, atStart => do
    match ← opening start with
    | .comment => return none
    | .options on =>
      if atStart then
        modify fun s => { s with flags := s.flags.union (optionsOf on) }
        return none
      else failAt .lateOptions start
    | .reference node => return some ⟨node, false⟩
    | .group name? =>
      let index ← openGroup name?
      let body ← alternatives fuel false
      closing start
      closeGroup index body
      return some ⟨.group index body, true⟩
    | .plain =>
      let body ← alternatives fuel false
      closing start
      return some ⟨body, true⟩
    | .atomic =>
      let body ← alternatives fuel false
      closing start
      return some ⟨.atomic body, true⟩
    | .scoped on off =>
      let body ← withOptions (scopedOptions · on off) (alternatives fuel false)
      closing start
      return some ⟨body, true⟩
    | .ahead negated =>
      let body ← alternatives fuel false
      closing start
      return some ⟨.ahead negated body, true⟩
    | .behind negated =>
      let body ← insideBehind (alternatives fuel false)
      closing start
      return some ⟨← behindNode negated body, true⟩
    | .condition index =>
      let yes ← parts fuel false []
      let no ←
        if ← accept '|' then
          let no ← parts fuel false []
          if (← peek?) = some (.char '|') then fail .tooManyBranches 0
          pure no
        else pure .empty
      closing start
      return some ⟨.conditional index yes no, true⟩

end

/-- Reads a whole pattern. -/
def wholePattern : Parse Node := do
  checkEnd
  let node ← alternatives (3 * (← get).rest.length + 10) true
  let s ← get
  if (← peek?).isSome then fail .unbalancedParenthesis 0
  match s.conditions.find? fun c => s.groups ≤ c.1 with
  | some (index, position) => failAt (.noSuchGroup index) position
  | none =>
    if s.variableBehind then throw (.problem ⟨.variableLookbehind, none⟩)
    return node

/-- Reads a pattern under some options and gives its tree and all its options. -/
def parse (source : String) (flags : PatternFlags) : Except ParseStop (Node × PatternFlags) := do
  let (node, s) ← wholePattern.run { rest := source.toList, flags := flags }
  return (node, s.flags)

end RuleSchema.Pattern
