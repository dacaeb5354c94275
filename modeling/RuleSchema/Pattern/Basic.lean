import RuleSchema.Evaluation
import RuleSchema.Pattern.Matcher
import RuleSchema.Pattern.Parser
import RuleSchema.Rule.Error

/-!
# Compiled patterns

A compiled pattern keeps its source and its options beside its tree.  The rule language writes
options as letters, three of which mean something; three others are admitted and change nothing.

* `Pattern.compile` compiles a source for a rule at some path.
* `Pattern.searches`, `Pattern.matchesStart`, `Pattern.matchesAll` test a text.
-/

namespace RuleSchema

/-- A compiled pattern. -/
structure Pattern where
  source : String
  flags : PatternFlags
  node : Pattern.Node

namespace Pattern

/-- The option that a letter of the rule language sets; nothing for an unknown letter. -/
def letterFlag? : Char → Option PatternFlags
  | 'i' => some { ignoreCase := true }
  | 'm' => some { multiline := true }
  | 's' => some { dotAll := true }
  | 'g' | 'u' | 'y' => some {}
  | _ => none

/-- The options that some letters set, or the first unknown letter. -/
def letterFlags : List Char → Except Char PatternFlags
  | [] => .ok {}
  | c :: cs =>
    match letterFlag? c with
    | none => .error c
    | some f => (letterFlags cs).map f.union

/-- Compiles a source under some options. -/
def ofSource (source : String) (flags : PatternFlags) : Except ParseStop Pattern := do
  let (node, flags) ← parse source flags
  return ⟨source, flags, node⟩

/-- Compiles a source for the rule at `path`, under some options and those that `letters` set. -/
def compile (source : String) (flags : PatternFlags) (letters path : String) :
    Except (Stop RuleError) Pattern :=
  match letterFlags letters.toList with
  | .error c => .error (.rejected (.badPatternFlag path source (String.singleton c) letters))
  | .ok more =>
    match ofSource source (flags.union more) with
    | .ok p => .ok p
    | .error (.problem e) => .error (.rejected (.badPattern path source (e.message source)))
    | .error .repetitionTooLarge => .error (.fault .repetitionTooLarge)

/-- The compiled pattern that is a value. -/
def ofValue? : Value → Option Pattern
  | .pattern source flags => (ofSource source flags).toOption
  | _ => none

/-- A compiled pattern as a value. -/
def toValue (p : Pattern) : Value := .pattern p.source p.flags

/-- Whether a pattern matches somewhere in a text. -/
def searches (p : Pattern) (s : String) : Bool := p.node.search s.toList

/-- Whether a pattern matches at the start of a text. -/
def matchesStart (p : Pattern) (s : String) : Bool := p.node.matchStart s.toList

/-- Whether a pattern matches a whole text. -/
def matchesAll (p : Pattern) (s : String) : Bool := p.node.fullMatch s.toList

end Pattern

end RuleSchema
