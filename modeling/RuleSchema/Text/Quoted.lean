import RuleSchema.Text.Printable
import RuleSchema.Number.Notation

/-!
# Quoted texts

A text in a message stands between quotes, with every character that cannot be printed spelled by
its code.  Single quotes are used unless the text holds one and no double quote.

* `quoted` writes a text, `quotedBytes` a sequence of bytes.
-/

namespace RuleSchema.Text

/-- A natural number in hexadecimal digits, filled with zeros up to `width`. -/
def hexDigits (width n : Nat) : String :=
  FloatNotation.padDigits width (String.ofList (Nat.toDigits 16 n))

/-- The quotation mark for a text. -/
def quoteMark (s : List Char) : Char :=
  if s.contains '\'' && !s.contains '"' then '"' else '\''

/-- The code of a character that cannot be printed. -/
def escapeCode (n : Nat) : String :=
  if n < 0x100 then "\\x" ++ hexDigits 2 n
  else if n < 0x10000 then "\\u" ++ hexDigits 4 n
  else "\\U" ++ hexDigits 8 n

/-- A character between the quotation marks `mark`. -/
def quotedChar (printable : Char → Bool) (mark c : Char) : String :=
  if c = mark || c = '\\' then String.ofList ['\\', c]
  else if c = '\n' then "\\n"
  else if c = '\r' then "\\r"
  else if c = '\t' then "\\t"
  else if printable c then String.singleton c
  else escapeCode c.toNat

/-- Characters between the quotation marks that suit them. -/
def quotedBy (printable : Char → Bool) (s : List Char) : String :=
  let mark := quoteMark s
  let body := s.map (quotedChar printable mark)
  String.singleton mark ++ String.join body ++ String.singleton mark

/-- A text between quotation marks. -/
def quoted (s : String) : String := quotedBy isPrintable s.toList

/-- Whether a character is a printable one of ASCII. -/
def isPlainAscii (c : Char) : Bool := 32 ≤ c.toNat && c.toNat < 127

/-- Bytes between quotation marks, those of printable ASCII characters as these characters. -/
def quotedBytes (bs : List UInt8) : String :=
  "b" ++ quotedBy isPlainAscii (bs.map fun b => Char.ofNat b.toNat)

end RuleSchema.Text
