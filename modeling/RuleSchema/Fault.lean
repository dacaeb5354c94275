import RuleSchema.Text.Utf8
import RuleSchema.Text.Quoted
import RuleSchema.Value.Basic

/-!
# Faults

What stops a computation without being a judgement on a rule or a payload: a value of a kind that
an operation does not know, a number that is too large for it.
-/

namespace RuleSchema

/-- The most digits that a whole number may have where it is read or written as a text. -/
def digitLimit : Nat := 4300

/-- Why a computation cannot go on. -/
inductive Fault where
  /-- A whole number lies beyond the doubles. -/
  | tooLargeForFloat
  /-- Values of these two kinds have no order. -/
  | unordered (left right : String)
  /-- An instant with an offset and one without have no order. -/
  | unorderedClocks
  /-- A value of this kind cannot be part of a key. -/
  | unkeyable (kind : String)
  /-- A value of this kind has no JSON form. -/
  | notJson (kind : String)
  /-- A value of this kind cannot be the key of a JSON object. -/
  | notJsonKey (kind : String)
  /-- Bytes are not the encoding of a text. -/
  | undecodable (error : Text.Utf8Error)
  /-- A value of this kind has no such operation. -/
  | noOperation (kind operation : String)
  /-- A value of this kind has no elements. -/
  | noElements (kind : String)
  /-- A numeral has too many digits to be read. -/
  | numeralTooLong (digits : Nat)
  /-- A whole number has too many digits to be written. -/
  | numberTooLong
  /-- A pattern asks for too many repetitions. -/
  | repetitionTooLarge
  /-- A class refuses this content for its objects. -/
  | badIdentity (content : String)

namespace Fault

/-- The message of a fault. -/
def message : Fault → String
  | .tooLargeForFloat => "int too large to convert to float"
  | .unordered left right =>
    "'<' not supported between instances of '" ++ left ++ "' and '" ++ right ++ "'"
  | .unorderedClocks => "can't compare offset-naive and offset-aware datetimes"
  | .unkeyable kind => "unhashable type: '" ++ kind ++ "'"
  | .notJson kind => "Object of type " ++ kind ++ " is not JSON serializable"
  | .notJsonKey kind => "keys must be str, int, float, bool or None, not " ++ kind
  | .undecodable error =>
    "'utf-8' codec can't decode byte 0x" ++ Text.hexDigits 2 error.byte.toNat ++
      " in position " ++ toString error.position ++ ": invalid utf-8"
  | .noOperation kind operation =>
    "'" ++ kind ++ "' object has no attribute '" ++ operation ++ "'"
  | .noElements kind => "Value after * must be an iterable, not " ++ kind
  | .numeralTooLong digits =>
    "Exceeds the limit (" ++ toString digitLimit ++
      " digits) for integer string conversion: value has " ++ toString digits ++
      " digits; use sys.set_int_max_str_digits() to increase the limit"
  | .numberTooLong =>
    "Exceeds the limit (" ++ toString digitLimit ++
      " digits) for integer string conversion; use sys.set_int_max_str_digits() to increase " ++
      "the limit"
  | .repetitionTooLarge => "the repetition number is too large"
  | .badIdentity content => "Invalid document id: " ++ content

end Fault

end RuleSchema
