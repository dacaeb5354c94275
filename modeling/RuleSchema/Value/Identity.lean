import RuleSchema.Fault
import RuleSchema.Text.Search
import RuleSchema.Text.LetterCase
import RuleSchema.Value.Display

/-!
# Identities

Some classes of objects can tell whether a value names one of their objects.  An object of the
class always does; a text does when it has the form that the class expects.

* `ObjectClass.recognises?` is that judgement, for the classes that make it.
* `ObjectClass.make` builds the object of a content.
-/

namespace RuleSchema

/-- Whether a character is a hexadecimal digit. -/
def Text.isHexDigit (c : Char) : Bool :=
  c.isDigit || ('a' ≤ c && c ≤ 'f') || ('A' ≤ c && c ≤ 'F')

/-- Whether a text is a number of hexadecimal digits, possibly with a line feed after them. -/
def Text.isHexadecimal (length : Nat) (s : String) : Bool :=
  let cs := s.toList
  let digits := cs.take length
  digits.length = length && digits.all Text.isHexDigit &&
    (cs.drop length = [] || cs.drop length = ['\n'])

namespace ObjectClass

/-- Whether a value names an object of the class; nothing if the class cannot tell. -/
def recognises? (c : ObjectClass) (v : Value) : Option Bool :=
  match c.identity with
  | .none => none
  | .marked mark =>
    some (v.isInstanceOf (.objects c) ||
      (Text.after? mark.toList v.plainText.toList).isSome)
  | .hexadecimal length =>
    some (v.isInstanceOf (.objects c) ||
      match v.text? with
      | some s => Text.isHexadecimal length s
      | none => false)

/-- Whether the class can tell which values name its objects. -/
def hasPredicate (c : ObjectClass) : Bool := c.identity != .none

/-- The object of a content. -/
def make (c : ObjectClass) (content : Value) : Except Fault Value :=
  match c.identity with
  | .hexadecimal length =>
    match content.text? with
    | some s =>
      if Text.isHexadecimal length s then .ok (.object c (.text (Text.lower s)))
      else .error (.badIdentity content.display)
    | none => .error (.badIdentity content.display)
  | _ => .ok (.object c content)

end ObjectClass

end RuleSchema
