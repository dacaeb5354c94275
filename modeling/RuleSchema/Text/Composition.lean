import RuleSchema.Text.Decomposition

/-!
# Canonical composition

The composed form of a text: everything is taken apart, and then each letter takes up the marks
after it for which there is one character.  Texts that look alike have the same composed form.

* `compose?` is the character for a letter and a mark.
* `composed` is the composed form of a text.
-/

namespace RuleSchema.Text

/-- The characters that are never put together again. -/
def separatedTable : List String :=
  ["344 0,614 7,7d 1,2 0,54 0,3 0,23 2,3 0,fe 1,3e6 0,a 0,5 0,5 0,5 0,d 0,a 0,2 1,2 0,9 0,12 0",
   "a 0,5 0,5 0,5 0,d 0,1b23 0,d041 0,2 0,b c,2 4,2 0,2 1,2 1,2 8,d610 6,57 5"]

/-- The runs of characters that are never put together again. -/
def separatedRuns : List Run := Run.readAll separatedTable

/-- The pairs that are put together, with the characters for them. -/
def compositions : List (Nat × Nat × Nat) :=
  decompositions.filterMap fun r =>
    match r.said with
    | [a, b] => if Run.holds separatedRuns r.first then none else some (a, b, r.first)
    | _ => none

/-- The syllable that two letters, or a syllable and a letter, make. -/
def syllable? (a b : Nat) : Option Nat :=
  if 0x1100 ≤ a && a < 0x1113 && 0x1161 ≤ b && b < 0x1176 then
    some (syllableBase + ((a - 0x1100) * 21 + (b - 0x1161)) * 28)
  else if isSyllable a && (a - syllableBase) % 28 = 0 && finalBase < b && b < finalBase + 28 then
    some (a + (b - finalBase))
  else none

/-- The character for two others. -/
def compose? (a b : Char) : Option Char :=
  match syllable? a.toNat b.toNat with
  | some n => some (Char.ofNat n)
  | none =>
    (compositions.find? fun e => e.1 = a.toNat && e.2.1 = b.toNat).map fun e =>
      Char.ofNat e.2.2

/-- Lets a letter take up what comes after it.  The marks in between, reversed, are those that it
does not take up; a mark is out of its reach behind one of the same or a higher class. -/
def composeFrom (letter : Char) (marks : List Char) : List Char → List Char
  | [] => letter :: marks.reverse
  | c :: s =>
    let within := match marks with
      | [] => true
      | m :: _ => combiningClass m < combiningClass c
    match if within then compose? letter c else none with
    | some d => composeFrom d marks s
    | none =>
      if combiningClass c = 0 then (letter :: marks.reverse) ++ composeFrom c [] s
      else composeFrom letter (c :: marks) s

/-- Puts together the characters of a decomposed text. -/
def recompose : List Char → List Char
  | [] => []
  | c :: s => if combiningClass c = 0 then composeFrom c [] s else c :: recompose s

/-- The composed form of a text. -/
def composed (s : List Char) : List Char :=
  if s.all fun c => c.toNat < 0xC0 then s else recompose (decomposed s)

/-- Whether a text is in composed form. -/
def isComposed (s : List Char) : Bool := composed s == s

end RuleSchema.Text
