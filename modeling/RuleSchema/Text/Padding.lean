/-!
# Padding

A text is filled up to a width with copies of a filler, the last of which is cut where the width
is reached.
-/

namespace RuleSchema.Text

/-- The first `n` characters of endless copies of a filler, of which `left` is still to be
copied. -/
def cycle (fill : List Char) : Nat → List Char → List Char
  | 0, _ => []
  | n + 1, c :: left => c :: cycle fill n left
  | n + 1, [] =>
    match fill with
    | [] => []
    | c :: left => c :: cycle fill n left

/-- What a text lacks to the width. -/
def padding (s : List Char) (width : Int) (fill : List Char) : List Char :=
  cycle fill (width - s.length).toNat fill

/-- A text filled up at its start. -/
def padStart (s : String) (width : Int) (fill : String) : String :=
  String.ofList (padding s.toList width fill.toList ++ s.toList)

/-- A text filled up at its end. -/
def padEnd (s : String) (width : Int) (fill : String) : String :=
  String.ofList (s.toList ++ padding s.toList width fill.toList)

end RuleSchema.Text
