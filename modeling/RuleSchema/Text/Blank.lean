/-!
# Blank characters

The white space that trimming removes and that a pattern matches with `\s`: the separators of
Unicode, the line controls of ASCII, and the four information separators of ASCII.

* `trimStart`, `trimEnd`, `trim` cut blank characters off a text.
-/

namespace RuleSchema.Text

/-- Blank characters. -/
def isBlank (c : Char) : Bool :=
  let n := c.toNat
  (9 ≤ n && n ≤ 13) || (28 ≤ n && n ≤ 32) || n == 0x85 || n == 0xA0 || n == 0x1680 ||
    (0x2000 ≤ n && n ≤ 0x200A) || n == 0x2028 || n == 0x2029 || n == 0x202F || n == 0x205F ||
    n == 0x3000

/-- White space in the narrower sense that leaves out the information separators. -/
def isWhite (c : Char) : Bool := isBlank c && !(28 ≤ c.toNat && c.toNat ≤ 31)

/-- A text without the characters of a class at its start. -/
def dropStart (p : Char → Bool) (s : String) : String := String.ofList (s.toList.dropWhile p)

/-- A text without the characters of a class at its end. -/
def dropEnd (p : Char → Bool) (s : String) : String :=
  String.ofList (s.toList.reverse.dropWhile p).reverse

/-- A text without blank characters at its start. -/
def trimStart (s : String) : String := dropStart isBlank s

/-- A text without blank characters at its end. -/
def trimEnd (s : String) : String := dropEnd isBlank s

/-- A text without blank characters at either end. -/
def trim (s : String) : String := trimEnd (trimStart s)

theorem isBlank_of_isWhite {c : Char} (h : isWhite c = true) : isBlank c = true := by
  simp [isWhite] at h
  exact h.1

theorem trimStart_toList (s : String) : (trimStart s).toList = s.toList.dropWhile isBlank := by
  simp [trimStart, dropStart]

theorem trimEnd_toList (s : String) :
    (trimEnd s).toList = (s.toList.reverse.dropWhile isBlank).reverse := by
  simp [trimEnd, dropEnd]

end RuleSchema.Text
