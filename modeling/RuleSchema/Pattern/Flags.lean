/-!
# Options of a pattern

How a pattern reads its letters, its line anchors and its dot.  The options are set where a
pattern is compiled or by the pattern itself.
-/

namespace RuleSchema

/-- The options under which a pattern is read and matched. -/
structure PatternFlags where
  ignoreCase : Bool := false
  multiline : Bool := false
  dotAll : Bool := false
  /-- Blanks and comments in the pattern are skipped. -/
  verbose : Bool := false
  /-- The character classes hold ASCII characters only. -/
  ascii : Bool := false
deriving DecidableEq

namespace PatternFlags

/-- The options set in either of two. -/
def union (a b : PatternFlags) : PatternFlags where
  ignoreCase := a.ignoreCase || b.ignoreCase
  multiline := a.multiline || b.multiline
  dotAll := a.dotAll || b.dotAll
  verbose := a.verbose || b.verbose
  ascii := a.ascii || b.ascii

/-- The options set in the first and not in the second. -/
def without (a b : PatternFlags) : PatternFlags where
  ignoreCase := a.ignoreCase && !b.ignoreCase
  multiline := a.multiline && !b.multiline
  dotAll := a.dotAll && !b.dotAll
  verbose := a.verbose && !b.verbose
  ascii := a.ascii && !b.ascii

end PatternFlags

end RuleSchema
