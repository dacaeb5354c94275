import RuleSchema.Text.Search

/-!
# Patterns made of texts

A text is made into a pattern that matches it alone by a backslash before every character that
means something in a pattern.

* `escapeText` is that pattern.
* `enumSource` matches exactly the texts of a list.
* `currencySource` matches amounts of money, with their symbol and separators.
-/

namespace RuleSchema.Pattern

/-- The characters that mean something in a pattern, or between its tokens. -/
def specialChars : List Char :=
  ['\t', '\n', '\x0b', '\x0c', '\r', ' ', '#', '$', '&', '(', ')', '*', '+', '-', '.', '?', '[',
    '\\', ']', '^', '\x7b', '|', '\x7d', '~']

/-- A character as a pattern. -/
def escapeChar (c : Char) : List Char := if specialChars.contains c then ['\\', c] else [c]

/-- A text as a pattern. -/
def escapeText (s : String) : String := String.ofList (s.toList.flatMap escapeChar)

/-- The pattern of the texts of a list. -/
def enumSource (values : List String) : String :=
  "^(?:" ++ Text.joinWith "|" (values.map escapeText) ++ ")$"

/-- The pattern of an amount, with `~1` for its symbol, `~2` for the separator of thousands and `~3`
for the decimal one. -/
def currencyTemplate : String :=
  "(?=.*\\d)^(-?~1|~1-?)(([0-9]\\d\x7b0,2\x7d(~2\\d\x7b3\x7d)*)|0)?(~3\\d\x7b1,2\x7d)?$"

/-- The pattern of a symbol.  One of several characters is grouped, so that all of it may be left
out. -/
def symbolSource (symbol : String) (isOptional : Bool) : String :=
  if symbol = "" then ""
  else
    let escaped := escapeText symbol
    (if 1 < symbol.length then "(?:" ++ escaped ++ ")" else escaped) ++
      (if isOptional then "?" else "")

/-- A text with every occurrence of `p` replaced. -/
def substitute (p replacement s : String) : String :=
  String.ofList (Text.replaceAll p.toList replacement.toList s.toList)

/-- The pattern of the amounts in a currency. -/
def currencySource (symbol : String) (isOptional : Bool) (thousands decimal : String) : String :=
  substitute "~3" (escapeText decimal)
    (substitute "~2" (escapeText thousands)
      (substitute "~1" (symbolSource symbol isOptional) currencyTemplate))

end RuleSchema.Pattern
