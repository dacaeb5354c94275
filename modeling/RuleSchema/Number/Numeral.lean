import RuleSchema.Number.Binary64
import RuleSchema.Text.Blank
import RuleSchema.Text.Digit

/-!
# Numerals

Reading numbers off texts.  A numeral is a sign, digits with an optional point, and an optional
exponent; the readers of this library differ in the digits they know, in whether digits may be
grouped by underscores, and in what may be left out.
-/

namespace RuleSchema

/-- A numeral cut into its parts: the digits before and after the point, and the exponent. -/
structure Numeral where
  negative : Bool
  whole : List Nat
  fraction : List Nat
  exponent : Int

namespace Numeral

/-- The number written by a list of decimal digits. -/
def digitsValue (ds : List Nat) : Nat := ds.foldl (fun n d => 10 * n + d) 0

/-- The double nearest to a numeral. -/
def toBinary64 (n : Numeral) : Binary64 :=
  Binary64.ofDecimal n.negative (digitsValue (n.whole ++ n.fraction))
    (n.exponent - n.fraction.length)

/-- The digits at the start of a text, and the rest. -/
def takeDigits (value? : Char → Option Nat) : List Char → List Nat × List Char
  | [] => ([], [])
  | c :: s =>
    match value? c with
    | some d => let (ds, rest) := takeDigits value? s; (d :: ds, rest)
    | none => ([], c :: s)

/-- A sign at the start of a text, and the rest. -/
def takeSign : List Char → Bool × List Char
  | '-' :: s => (true, s)
  | '+' :: s => (false, s)
  | s => (false, s)

/-- The exponent part of a numeral: nothing, or a mark, a sign and digits up to the end. -/
def exponentOf? (value? : Char → Option Nat) : List Char → Option Int
  | [] => some 0
  | c :: s =>
    if c = 'e' || c = 'E' then
      let (negative, s) := takeSign s
      match takeDigits value? s with
      | ([], _) => none
      | (ds, []) => some (if negative then -(digitsValue ds : Int) else digitsValue ds)
      | _ => none
    else none

/-- A whole text read as an unsigned numeral: some digit before the exponent is required. -/
def ofUnsigned? (value? : Char → Option Nat) (negative : Bool) (s : List Char) :
    Option Numeral :=
  let (whole, rest) := takeDigits value? s
  let (fraction, rest) := match rest with
    | '.' :: rest => takeDigits value? rest
    | _ => ([], rest)
  if whole.isEmpty && fraction.isEmpty then none
  else (exponentOf? value? rest).map fun e => ⟨negative, whole, fraction, e⟩

/-- The value of an ASCII digit. -/
def asciiDigit? (c : Char) : Option Nat := if c.isDigit then some (c.toNat - 48) else none

/-- Whether underscores stand only between two digits. -/
def groupedProperly (digit : Char → Bool) : Bool → List Char → Bool
  | _, [] => true
  | before, '_' :: c :: s => before && digit c && groupedProperly digit true s
  | _, '_' :: [] => false
  | _, c :: s => groupedProperly digit (digit c) s

/-- The special values, in lower case. -/
def special? (negative : Bool) (s : String) : Option Binary64 :=
  if s = "inf" || s = "infinity" then some (.infinite negative)
  else if s = "nan" then some .nan
  else none

/-- A text in lower case, for ASCII letters. -/
def asciiLower (s : List Char) : String := String.ofList (s.map Char.toLower)

/-- Reads a double in the widest form: blank characters around it, digits of any script grouped
by underscores, and the special values in any case. -/
def readFloat? (text : String) : Option Binary64 :=
  let s := (Text.trim text).toList
  if !groupedProperly Text.isDigit false s then none
  else
    let (negative, s) := takeSign (s.filter (· ≠ '_'))
    match special? negative (asciiLower s) with
    | some x => some x
    | none => (ofUnsigned? Text.digitValue? negative s).map toBinary64

/-- Reads a double in ASCII digits without grouping. -/
def readPlainFloat? (s : List Char) : Option Binary64 :=
  let (negative, s) := takeSign s
  match special? negative (asciiLower s) with
  | some x => some x
  | none => (ofUnsigned? asciiDigit? negative s).map toBinary64

/-- Reads a whole number in ASCII digits without leading zeros, with an optional minus sign. -/
def readPlainInt? (s : List Char) : Option Int :=
  let (negative, s) := match s with
    | '-' :: s => (true, s)
    | s => (false, s)
  match takeDigits asciiDigit? s with
  | ([], _) => none
  | (0 :: _ :: _, _) => none
  | (ds, []) => some (if negative then -(digitsValue ds : Int) else digitsValue ds)
  | _ => none

end Numeral

end RuleSchema
