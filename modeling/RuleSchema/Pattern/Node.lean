import RuleSchema.Pattern.Flags
import RuleSchema.Text.Blank
import RuleSchema.Text.LetterCase
import RuleSchema.Text.Digit
import RuleSchema.Text.WordChar

/-!
# Patterns

A pattern is a regular expression with captured groups, references to them, conditions on them,
and looks ahead and behind.  Every option of a pattern is settled in its tree: a set of characters
knows how it compares case, and an anchor whether it stands at lines or at the whole text.

* `CharSet.holds` tells which characters a set matches.
* `Node` is the tree of a pattern.
-/

namespace RuleSchema.Pattern

/-- A class of characters with a name. -/
inductive Category where
  | digit | blank | word
deriving DecidableEq

namespace Category

/-- Whether a character belongs to a class, over ASCII alone or over all characters. -/
def holds (ascii : Bool) (c : Char) : Category → Bool
  | .digit => if ascii then c.isDigit else Text.isDigit c
  | .blank => if ascii then c = ' ' || (9 ≤ c.toNat && c.toNat ≤ 13) else Text.isBlank c
  | .word => if ascii then c.isAlphanum || c = '_' else Text.isWordChar c

end Category

/-- A part of a set of characters. -/
inductive SetItem where
  /-- The code points from `first` to `last`. -/
  | range (first last : Nat)
  /-- A class, or everything outside it. -/
  | category (c : Category) (negated ascii : Bool)
deriving DecidableEq

/-- A set of characters. -/
structure CharSet where
  negated : Bool
  fold : Text.CaseFold
  items : List SetItem
deriving DecidableEq

namespace SetItem

/-- Whether a part holds a character, given by its lowered form. -/
def holds (fold : Text.CaseFold) (lowered : Nat) : SetItem → Bool
  | .range first last => (fold.alike lowered).any fun n => first ≤ n && n ≤ last
  | .category c negated ascii => (c.holds ascii (Char.ofNat lowered)) != negated

end SetItem

namespace CharSet

/-- Whether a set holds a character. -/
def holds (s : CharSet) (c : Char) : Bool :=
  (s.items.any fun item => item.holds s.fold (s.fold.lowered c.toNat)) != s.negated

/-- The set of one character. -/
def single (fold : Text.CaseFold) (n : Nat) : CharSet := ⟨false, fold, [.range n n]⟩

/-- Every character, or every one but the line feed. -/
def any (lineFeeds : Bool) : CharSet := ⟨true, .exact, if lineFeeds then [] else [.range 10 10]⟩

end CharSet

/-- A place that a pattern asks for. -/
inductive Anchor where
  | textStart | textEnd
  /-- The end of the text, or before a line feed that ends it. -/
  | lastLineEnd
  | lineStart | lineEnd
  /-- Between a word character and another one, or not so. -/
  | wordBoundary (negated ascii : Bool)
deriving DecidableEq

/-- How a repetition chooses its number of rounds. -/
inductive Greed where
  /-- As many as possible first. -/
  | greedy
  /-- As few as possible first. -/
  | lazy
  /-- As many as possible, and never fewer. -/
  | possessive
deriving DecidableEq

/-- A pattern. -/
inductive Node where
  | empty
  | set (s : CharSet)
  | anchor (a : Anchor)
  | seq (first second : Node)
  | alt (first second : Node)
  | repeat (greed : Greed) (least : Nat) (most? : Option Nat) (body : Node)
  | group (index : Nat) (body : Node)
  /-- A body that is not tried in another way once it has matched. -/
  | atomic (body : Node)
  /-- What must follow, or must not. -/
  | ahead (negated : Bool) (body : Node)
  /-- What must come before, or must not, with its number of characters. -/
  | behind (negated : Bool) (width : Nat) (body : Node)
  | reference (fold : Text.CaseFold) (index : Nat)
  /-- One pattern if a group has matched, another if not. -/
  | conditional (index : Nat) (yes no : Node)
deriving DecidableEq

end RuleSchema.Pattern
