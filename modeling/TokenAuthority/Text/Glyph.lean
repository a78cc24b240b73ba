/-
# Text as it arrives in bytes

Bytes that are meant to be UTF-8 may hold some that belong to no character. `ofBytes` keeps both:
a well-formed sequence becomes its character and any other byte is marked as stray, so that a
reader can decide where a stray byte matters.

| first byte | length | second byte |
| --- | ---: | --- |
| `00`–`7F` | 1 | |
| `C2`–`DF` | 2 | `80`–`BF` |
| `E0` | 3 | `A0`–`BF` |
| `E1`–`EC`, `EE`, `EF` | 3 | `80`–`BF` |
| `ED` | 3 | `80`–`9F` |
| `F0` | 4 | `90`–`BF` |
| `F1`–`F3` | 4 | `80`–`BF` |
| `F4` | 4 | `80`–`8F` |
-/

namespace TokenAuthority
namespace Text

/-- One element of a text read from bytes. -/
inductive Glyph where
  /-- A character. -/
  | char (c : Char)
  /-- A byte that belongs to no character. -/
  | stray (byte : UInt8)
deriving DecidableEq, Repr

namespace Glyph

/-- The number of bytes an element stands for. -/
def byteLength : Glyph → Nat
  | char c => c.utf8Size
  | stray _ => 1

/-- The characters of a text. -/
def ofString (s : String) : List Glyph :=
  s.toList.map char

end Glyph

/-- A byte that continues a character. -/
def isContinuation (b : UInt8) : Bool :=
  0x80 ≤ b && b ≤ 0xBF

/-- The low six bits of a continuation byte. -/
def payload (b : UInt8) : Nat :=
  b.toNat % 0x40

/-- The character that starts a sequence of bytes, and how many bytes it takes. -/
def leadingChar : List UInt8 → Option (Char × Nat)
  | [] => none
  | a :: rest =>
    if a < 0x80 then some (Char.ofNat a.toNat, 1)
    else match rest with
      | [] => none
      | b :: rest =>
        if !isContinuation b then none
        else if 0xC2 ≤ a && a ≤ 0xDF then
          some (Char.ofNat ((a.toNat - 0xC0) * 0x40 + payload b), 2)
        else match rest with
          | [] => none
          | c :: rest =>
            if !isContinuation c then none
            else if 0xE0 ≤ a && a ≤ 0xEF then
              if (a = 0xE0 && b < 0xA0) || (a = 0xED && 0x9F < b) then none
              else some (Char.ofNat
                ((a.toNat - 0xE0) * 0x1000 + payload b * 0x40 + payload c), 3)
            else match rest with
              | [] => none
              | d :: _ =>
                if !isContinuation d then none
                else if 0xF0 ≤ a && a ≤ 0xF4 then
                  if (a = 0xF0 && b < 0x90) || (a = 0xF4 && 0x8F < b) then none
                  else some (Char.ofNat ((a.toNat - 0xF0) * 0x40000 + payload b * 0x1000 +
                    payload c * 0x40 + payload d), 4)
                else none

namespace Glyph

/-- Reads bytes one after another; `skip` of them belong to a character already found, and `found`
holds what was found, last first. -/
def scan (found : List Glyph) : Nat → List UInt8 → List Glyph
  | _, [] => found.reverse
  | skip + 1, _ :: rest => scan found skip rest
  | 0, b :: rest =>
    match leadingChar (b :: rest) with
    | some (c, n) => scan (char c :: found) (n - 1) rest
    | none => scan (stray b :: found) 0 rest

/-- The text that bytes stand for. -/
def ofBytes (bytes : ByteArray) : List Glyph :=
  match String.fromUTF8? bytes with
  | some s => ofString s
  | none => scan [] 0 bytes.toList

end Glyph
end Text
end TokenAuthority
