/-
# Base64 for URLs, without padding

Three bytes become four characters of `A`–`Z`, `a`–`z`, `0`–`9`, `-`, `_`; one or two bytes at the
end become two or three. `n` bytes take `⌈4 n / 3⌉` characters, so 32 bytes take 43.
-/

namespace TokenAuthority
namespace Digest
namespace Base64Url

/-- The character for six bits. -/
def symbol (n : Nat) : Char :=
  if n < 26 then Char.ofNat (0x41 + n)
  else if n < 52 then Char.ofNat (0x61 + (n - 26))
  else if n < 62 then Char.ofNat (0x30 + (n - 52))
  else if n = 62 then '-'
  else '_'

/-- The text of some bytes. -/
def encode : List UInt8 → List Char
  | a :: b :: c :: rest =>
    let n := a.toNat * 0x10000 + b.toNat * 0x100 + c.toNat
    symbol (n / 0x40000) :: symbol (n / 0x1000 % 64) :: symbol (n / 0x40 % 64) ::
      symbol (n % 64) :: encode rest
  | [a, b] =>
    let n := a.toNat * 0x100 + b.toNat
    [symbol (n / 0x400), symbol (n / 0x10 % 64), symbol (n % 16 * 4)]
  | [a] => [symbol (a.toNat / 4), symbol (a.toNat % 4 * 16)]
  | [] => []

end Base64Url
end Digest
end TokenAuthority
