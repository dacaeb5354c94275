import RuleSchema.Text.Quoted
import RuleSchema.Text.Search

/-!
# Patterns that cannot be read

Each constructor of `PatternProblem` is one mistake in a pattern; `PatternError.message` says what
it is and at which position of the pattern it was found.
-/

namespace RuleSchema.Pattern

/-- A mistake in a pattern. -/
inductive PatternProblem where
  | endsInBackslash
  | missing (what : String)
  | unterminatedName (mark : String)
  | badGroupName (name : String)
  | incompleteEscape (sequence : String)
  | octalTooLarge (sequence : String)
  | badEscape (sequence : String)
  | unknownCharacterName (name : String)
  | openGroup
  | groupOfSameLookbehind
  | noSuchGroup (index : Nat)
  | unterminatedSet
  | badRange (first last : String)
  | leastAboveMost
  | nothingToRepeat
  | multipleRepeat
  | unexpectedEnd
  | unknownGroupName (name : String)
  | unknownExtension (sequence : String)
  | unterminatedComment
  | unterminatedGroup
  | zeroGroup
  | tooManyBranches
  | lateOptions
  | bytesOption (letter : String)
  | incompatibleOptions
  | unknownOption
  | globalOption (on : Bool)
  | fixedOption
  | contradictoryOption
  | nameTaken (name : String) (index previous : Nat)
  | unbalancedParenthesis
  | variableLookbehind
deriving DecidableEq

namespace PatternProblem

/-- The words for a mistake. -/
def text : PatternProblem → String
  | .endsInBackslash => "bad escape (end of pattern)"
  | .missing what => "missing " ++ what
  | .unterminatedName mark => "missing " ++ mark ++ ", unterminated name"
  | .badGroupName name => "bad character in group name " ++ Text.quoted name
  | .incompleteEscape sequence => "incomplete escape " ++ sequence
  | .octalTooLarge sequence =>
    "octal escape value " ++ sequence ++ " outside of range 0-0o377"
  | .badEscape sequence => "bad escape " ++ sequence
  | .unknownCharacterName name => "undefined character name " ++ Text.quoted name
  | .openGroup => "cannot refer to an open group"
  | .groupOfSameLookbehind =>
    "cannot refer to group defined in the same lookbehind subpattern"
  | .noSuchGroup index => "invalid group reference " ++ toString index
  | .unterminatedSet => "unterminated character set"
  | .badRange first last => "bad character range " ++ first ++ "-" ++ last
  | .leastAboveMost => "min repeat greater than max repeat"
  | .nothingToRepeat => "nothing to repeat"
  | .multipleRepeat => "multiple repeat"
  | .unexpectedEnd => "unexpected end of pattern"
  | .unknownGroupName name => "unknown group name " ++ Text.quoted name
  | .unknownExtension sequence => "unknown extension " ++ sequence
  | .unterminatedComment => "missing ), unterminated comment"
  | .unterminatedGroup => "missing ), unterminated subpattern"
  | .zeroGroup => "bad group number"
  | .tooManyBranches => "conditional backref with more than two branches"
  | .lateOptions => "global flags not at the start of the expression"
  | .bytesOption letter =>
    "bad inline flags: cannot use '" ++ letter ++ "' flag with a str pattern"
  | .incompatibleOptions => "bad inline flags: flags 'a', 'u' and 'L' are incompatible"
  | .unknownOption => "unknown flag"
  | .globalOption on =>
    "bad inline flags: cannot turn " ++ (if on then "on" else "off") ++ " global flag"
  | .fixedOption => "bad inline flags: cannot turn off flags 'a', 'u' and 'L'"
  | .contradictoryOption => "bad inline flags: flag turned on and off"
  | .nameTaken name index previous =>
    "redefinition of group name " ++ Text.quoted name ++ " as group " ++ toString index ++
      "; was group " ++ toString previous
  | .unbalancedParenthesis => "unbalanced parenthesis"
  | .variableLookbehind => "look-behind requires fixed-width pattern"

end PatternProblem

/-- A mistake, and where in the pattern it was found. -/
structure PatternError where
  problem : PatternProblem
  position? : Option Nat
deriving DecidableEq

/-- The line and column of a position in a text, both counted from one. -/
def lineAndColumn (s : List Char) (position : Nat) : Nat × Nat :=
  let lines := Text.splitOn '\n' (s.take position)
  (lines.length, (lines.getLast?.map List.length).getD 0 + 1)

/-- The message for a mistake in a pattern. -/
def PatternError.message (e : PatternError) (source : String) : String :=
  match e.position? with
  | none => e.problem.text
  | some position =>
    let place := e.problem.text ++ " at position " ++ toString position
    if source.toList.contains '\n' then
      let (line, column) := lineAndColumn source.toList position
      place ++ " (line " ++ toString line ++ ", column " ++ toString column ++ ")"
    else place

end RuleSchema.Pattern
