/-!
# Reading UTF-8 bytes as text

`decode` reads any bytes. Where they are no UTF-8, each longest beginning of a character that cannot go on
is replaced by one replacement character, and so is each byte that begins no character.
-/

namespace SchemaSql.Text.Utf8

/-- The character that stands for bytes that are none. -/
def replacement : Char := '\uFFFD'

/-- **How a character goes on after its first byte**: the number of further bytes, the least and the
greatest second byte, and the bits of the character in the first byte. -/
structure Lead where
  more : Nat
  least : UInt8
  greatest : UInt8
  bits : Nat

/-- What a first byte says about its character. -/
def lead? (b : UInt8) : Option Lead :=
  let n := b.toNat
  if n < 0x80 then some ⟨0, 0x80, 0xBF, n⟩
  else if n < 0xC2 then none
  else if n < 0xE0 then some ⟨1, 0x80, 0xBF, n - 0xC0⟩
  else if n = 0xE0 then some ⟨2, 0xA0, 0xBF, 0⟩
  else if n = 0xED then some ⟨2, 0x80, 0x9F, 0x0D⟩
  else if n < 0xF0 then some ⟨2, 0x80, 0xBF, n - 0xE0⟩
  else if n = 0xF0 then some ⟨3, 0x90, 0xBF, 0⟩
  else if n < 0xF4 then some ⟨3, 0x80, 0xBF, n - 0xF0⟩
  else if n = 0xF4 then some ⟨3, 0x80, 0x8F, 4⟩
  else none

/-- Reads bytes with a character under way: `bits` so far, `more` bytes to come, the next of which lies
between `least` and `greatest`. With `more = 0` no character is under way. -/
def decodeFrom (bits more : Nat) (least greatest : UInt8) : List UInt8 → List Char
  | [] => if more = 0 then [] else [replacement]
  | b :: rest =>
    if more ≠ 0 ∧ least ≤ b ∧ b ≤ greatest then
      let bits := bits * 64 + (b.toNat - 0x80)
      if more = 1 then Char.ofNat bits :: decodeFrom 0 0 0x80 0xBF rest
      else decodeFrom bits (more - 1) 0x80 0xBF rest
    else
      let broken := if more = 0 then [] else [replacement]
      match lead? b with
      | none => broken ++ replacement :: decodeFrom 0 0 0x80 0xBF rest
      | some l =>
        if l.more = 0 then broken ++ Char.ofNat l.bits :: decodeFrom 0 0 0x80 0xBF rest
        else broken ++ decodeFrom l.bits l.more l.least l.greatest rest

/-- **The text of bytes.** -/
def decode (bytes : List UInt8) : List Char :=
  decodeFrom 0 0 0x80 0xBF bytes

end SchemaSql.Text.Utf8
