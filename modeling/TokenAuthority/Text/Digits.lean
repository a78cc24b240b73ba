/-
# Digits

| operation | rule |
| --- | --- |
| `hexDigit`, `hexDigits` | a number in hexadecimal, in lower case |
| `digitValue?` | the value of a hexadecimal digit, in either case |
| `number?` | the number that digits write in a base of at most 16 |
| `codePoint?` | the character with a number, if it is one |
-/

namespace TokenAuthority
namespace Text

/-- A hexadecimal digit, in lower case. -/
def hexDigit (n : Nat) : Char :=
  Char.ofNat (if n < 10 then 0x30 + n else 0x57 + n)

/-- The hexadecimal digits of a number, without leading zeros. -/
def hexDigits (n : Nat) : List Char :=
  Nat.toDigits 16 n

/-- The value of a hexadecimal digit. -/
def digitValue? (c : Char) : Option Nat :=
  if c.isDigit then some (c.toNat - 0x30)
  else if 'a' ≤ c && c ≤ 'f' then some (c.toNat - 0x57)
  else if 'A' ≤ c && c ≤ 'F' then some (c.toNat - 0x37)
  else none

/-- The value of a digit in a base. -/
def digitBelow? (base : Nat) (c : Char) : Option Nat :=
  (digitValue? c).filter (· < base)

/-- The number that digits write in a base; no digits write 0. -/
def number? (base : Nat) (digits : List Char) : Option Nat :=
  digits.foldlM (fun n c => (digitBelow? base c).map (n * base + ·)) 0

/-- The character with a number, if it is one. -/
def codePoint? (n : Nat) : Option Char :=
  if h : n.isValidChar then some (Char.ofNatAux n h) else none

end Text
end TokenAuthority
