/-
# Percent-encoded bytes

`%` and two hexadecimal digits stand for a byte. Any other `%` stands for itself.
-/

import TokenAuthority.Text.Glyph
import TokenAuthority.Text.Quoted

namespace TokenAuthority
namespace Http
namespace Percent

/-- The value of a hexadecimal digit. -/
def digit? (b : UInt8) : Option UInt8 :=
  if 0x30 ≤ b && b ≤ 0x39 then some (b - 0x30)
  else if 0x41 ≤ b && b ≤ 0x46 then some (b - 0x37)
  else if 0x61 ≤ b && b ≤ 0x66 then some (b - 0x57)
  else none

/-- The bytes that a text of bytes stands for. -/
def decode : List UInt8 → List UInt8
  | 0x25 :: a :: b :: rest =>
    match digit? a, digit? b with
    | some high, some low => (high * 16 + low) :: decode rest
    | _, _ => 0x25 :: decode (a :: b :: rest)
  | c :: rest => c :: decode rest
  | [] => []

/-- A hexadecimal digit in upper case. -/
def digit (n : Nat) : Char :=
  (Text.hexDigit n).toUpper

/-- One byte, as it is if it may stand for itself. -/
def encodeByte (keep : UInt8 → Bool) (b : UInt8) : List Char :=
  if keep b then [Char.ofNat b.toNat]
  else ['%', digit (b.toNat / 16), digit (b.toNat % 16)]

/-- Bytes as a text; those that may stand for themselves do. -/
def encode (keep : UInt8 → Bool) (bytes : List UInt8) : List Char :=
  bytes.flatMap (encodeByte keep)

/-- The text that a percent-encoded text stands for, if it is UTF-8. -/
def decodeText? (s : String) : Option String :=
  String.fromUTF8? ⟨(decode s.toUTF8.toList).toArray⟩

end Percent
end Http
end TokenAuthority
