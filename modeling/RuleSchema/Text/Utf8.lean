/-!
# UTF-8

Reading a text off bytes.  A sequence of bytes is refused at the first place where no character
starts.
-/

namespace RuleSchema.Text

/-- The first byte at which no character starts, and where it stands. -/
structure Utf8Error where
  position : Nat
  byte : UInt8
deriving DecidableEq

/-- The number of bytes of the character that starts with this byte, and the range of its second
byte. -/
def sequenceShape? (b : UInt8) : Option (Nat × Nat × Nat) :=
  let n := b.toNat
  if n < 0x80 then some (1, 0, 0)
  else if n < 0xC2 then none
  else if n < 0xE0 then some (2, 0x80, 0xBF)
  else if n = 0xE0 then some (3, 0xA0, 0xBF)
  else if n = 0xED then some (3, 0x80, 0x9F)
  else if n < 0xF0 then some (3, 0x80, 0xBF)
  else if n = 0xF0 then some (4, 0x90, 0xBF)
  else if n < 0xF4 then some (4, 0x80, 0xBF)
  else if n = 0xF4 then some (4, 0x80, 0x8F)
  else none

/-- Whether the next `count` bytes continue a character, the first of them within the given
range. -/
def continues (lo hi : Nat) : Nat → List UInt8 → Bool
  | 0, _ => true
  | _, [] => false
  | count + 1, b :: rest => lo ≤ b.toNat && b.toNat ≤ hi && continues 0x80 0xBF count rest

/-- The value of the low bits of the bytes of a character. -/
def joinBits (lead : Nat) (bs : List UInt8) : Nat :=
  bs.foldl (fun n b => n * 64 + b.toNat % 64) lead

/-- Reads characters; the next `skip` bytes belong to the character read last. -/
def utf8From (position : Nat) (skip : Nat) : List UInt8 → Except Utf8Error (List Char)
  | [] => .ok []
  | b :: rest =>
    match skip with
    | skip + 1 => utf8From (position + 1) skip rest
    | 0 =>
      match sequenceShape? b with
      | none => .error ⟨position, b⟩
      | some (size, lo, hi) =>
        if continues lo hi (size - 1) rest then
          let lead := if size = 1 then b.toNat else b.toNat % (1 <<< (7 - size))
          let c := Char.ofNat (joinBits lead (rest.take (size - 1)))
          (utf8From (position + 1) (size - 1) rest).map (c :: ·)
        else .error ⟨position, b⟩

/-- Reads a text off its bytes. -/
def ofUtf8 (bs : List UInt8) : Except Utf8Error String := (utf8From 0 0 bs).map String.ofList

/-- The bytes of a text. -/
def toUtf8 (s : String) : List UInt8 := s.toUTF8.toList

end RuleSchema.Text
