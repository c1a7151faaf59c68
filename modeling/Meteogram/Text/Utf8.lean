/-!
# Lenient reading of UTF-8

Log files may hold bytes that are no UTF-8. `decodeLenient` reads them all the
same: each longest start of a character that breaks off, and each byte that
starts none, becomes one replacement character.
-/

set_option autoImplicit false

namespace Meteogram.Text

/-- A character that has begun: how many bytes are still to come, the bits
read so far, and the range in which the next byte has to be. -/
structure PartialChar where
  /-- The number of bytes still to come. -/
  missing : Nat
  /-- The value of the bits read so far. -/
  bits : Nat
  /-- The least next byte. -/
  least : Nat := 0x80
  /-- The greatest next byte. -/
  greatest : Nat := 0xBF

/-- What a first byte starts: a whole character, a partial one, or nothing. -/
def startChar (byte : Nat) : Except PartialChar (Option Char) :=
  if byte < 0x80 then .ok (some (Char.ofNat byte))
  else if byte < 0xC2 then .ok none
  else if byte < 0xE0 then .error ⟨1, byte - 0xC0, 0x80, 0xBF⟩
  else if byte = 0xE0 then .error ⟨2, 0, 0xA0, 0xBF⟩
  else if byte = 0xED then .error ⟨2, 0xD, 0x80, 0x9F⟩
  else if byte < 0xF0 then .error ⟨2, byte - 0xE0, 0x80, 0xBF⟩
  else if byte = 0xF0 then .error ⟨3, 0, 0x90, 0xBF⟩
  else if byte < 0xF4 then .error ⟨3, byte - 0xF0, 0x80, 0xBF⟩
  else if byte = 0xF4 then .error ⟨3, 4, 0x80, 0x8F⟩
  else .ok none

/-- Stands for bytes that are no character. -/
def replacementChar : Char := Char.ofNat 0xFFFD

/-- Reads the rest of the bytes after a partial character, if there is one. -/
def decodeFrom : Option PartialChar → List UInt8 → List Char
  | none, [] => []
  | some _, [] => [replacementChar]
  | state, byte :: bytes =>
    let b := byte.toNat
    let fresh (before : List Char) : List Char :=
      match startChar b with
      | .ok (some c) => before ++ c :: decodeFrom none bytes
      | .ok none => before ++ replacementChar :: decodeFrom none bytes
      | .error begun => before ++ decodeFrom (some begun) bytes
    match state with
    | none => fresh []
    | some begun =>
      if begun.least ≤ b && b ≤ begun.greatest then
        let bits := begun.bits * 64 + (b - 0x80)
        if begun.missing ≤ 1 then Char.ofNat bits :: decodeFrom none bytes
        else decodeFrom (some ⟨begun.missing - 1, bits, 0x80, 0xBF⟩) bytes
      else fresh [replacementChar]

/-- The text of the bytes, with replacement characters where they are no
UTF-8. -/
def decodeLenient (bytes : ByteArray) : List Char :=
  decodeFrom none bytes.toList

end Meteogram.Text
