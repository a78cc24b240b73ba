/-
# Hosts

| host | text |
| --- | --- |
| IPv4 address | one to four numbers with points between them, octal after `0`, hexadecimal after `0x` |
| IPv6 address | groups of hexadecimal digits in brackets, of which one run of zeros may be left out |
| domain | labels with points between them, in lower case; others than ASCII as Punycode |

Where the scheme is not one of the special ones a host is an address in brackets or any text.
-/

import TokenAuthority.Http.Percent
import TokenAuthority.Text.Blank
import TokenAuthority.Text.Unprintable
import TokenAuthority.Url.Punycode

namespace TokenAuthority
namespace Url

/-- What is wrong with the text of a URL. -/
inductive Fault where
  | emptyHost
  | invalidDomainName
  | invalidPort
  | invalidIpv4
  | invalidIpv6
  | invalidDomainCharacter
  | relative
deriving DecidableEq, Repr

/-- The message of a fault. -/
def Fault.message : Fault → String
  | emptyHost => "empty host"
  | invalidDomainName => "invalid international domain name"
  | invalidPort => "invalid port number"
  | invalidIpv4 => "invalid IPv4 address"
  | invalidIpv6 => "invalid IPv6 address"
  | invalidDomainCharacter => "invalid domain character"
  | relative => "relative URL without a base"

/-- A host. -/
inductive Host where
  | domain (text : String)
  | ipv4 (address : Nat)
  | ipv6 (groups : List Nat)
deriving DecidableEq, Repr

namespace Host

/-- A number of an IPv4 address. -/
def ipv4Number? : List Char → Option Nat
  | [] => none
  | '0' :: 'x' :: rest | '0' :: 'X' :: rest => Text.number? 16 rest
  | '0' :: c :: rest => Text.number? 8 (c :: rest)
  | digits => Text.number? 10 digits

/-- The parts of a domain, without an empty one at its end. -/
def parts (domain : List Char) : List (List Char) :=
  let all := Text.fields '.' domain
  if all.getLast? = some [] then all.dropLast else all

/-- Whether the last part of a domain is a number, so that it has to be an IPv4 address. -/
def endsInNumber (domain : List Char) : Bool :=
  match (parts domain).getLast? with
  | none => false
  | some last => (last ≠ [] && last.all Char.isDigit) || (ipv4Number? last).isSome

/-- The IPv4 address that a domain writes. -/
def ipv4? (domain : List Char) : Option Nat := do
  let numbers ← (parts domain).mapM ipv4Number?
  let last ← numbers.getLast?
  let first := numbers.dropLast
  if 4 < numbers.length || first.any (255 < ·) || Nat.pow 256 (4 - first.length) ≤ last then none
  else some (last + ((first.zipIdx.map fun (n, i) => n * Nat.pow 256 (3 - i)).foldl (· + ·) 0))

/-- The number of a decimal part of an address within an IPv6 address. -/
def octet? (digits : List Char) : Option Nat :=
  if digits = [] || !digits.all Char.isDigit || (1 < digits.length && digits.head? = some '0') ||
      3 < digits.length then none
  else (Text.number? 10 digits).filter (· ≤ 255)

/-- The two groups that an IPv4 address within an IPv6 address stands for. -/
def octets? (text : List Char) : Option (List Nat) :=
  match (Text.fields '.' text).mapM octet? with
  | some [a, b, c, d] => some [a * 256 + b, c * 256 + d]
  | _ => none

/-- A group of an IPv6 address. -/
def group? (digits : List Char) : Option Nat :=
  if digits = [] || 4 < digits.length then none else Text.number? 16 digits

/-- Groups of an IPv6 address; the last may be an IPv4 address. -/
def groups? : List (List Char) → Option (List Nat)
  | [] => some []
  | [last] => if last.contains '.' then octets? last else (group? last).map ([·])
  | first :: rest => do return (← group? first) :: (← groups? rest)

/-- Splits a text at the first `::`. -/
def splitGap : List Char → List Char × Option (List Char)
  | ':' :: ':' :: rest => ([], some rest)
  | c :: rest => (c :: (splitGap rest).1, (splitGap rest).2)
  | [] => ([], none)

/-- Groups with colons between them, none for the empty text. -/
def groupList? (text : List Char) : Option (List Nat) :=
  if text = [] then some [] else groups? (Text.fields ':' text)

/-- The IPv6 address that a text writes. -/
def ipv6? (text : List Char) : Option (List Nat) :=
  match splitGap text with
  | (all, none) => (groupList? all).filter (·.length = 8)
  | (before, some after) => do
    if before.contains '.' then none
    else
      let first ← groupList? before
      let last ← groupList? after
      if 7 < first.length + last.length then none
      else some (first ++ List.replicate (8 - first.length - last.length) 0 ++ last)

/-- The characters that no domain may hold. -/
def isForbidden (c : Char) : Bool :=
  c ≤ ' ' || c = '\x7f' || "%#/:<>?@[\\]^|".toList.contains c

/-- How a character counts in a domain: capital letters count as small ones, wide forms of ASCII
characters as those, and some characters do not count at all. -/
def foldChar (c : Char) : List Char :=
  let n := c.toNat
  if n < 0x80 then [c.toLower]
  else if n = 0x3002 || n = 0xFF0E || n = 0xFF61 then ['.']
  else if 0xFF01 ≤ n && n ≤ 0xFF5E then [(Char.ofNat (n - 0xFEE0)).toLower]
  else if n = 0xAD || n = 0x200B || n = 0x2060 || n = 0xFEFF then []
  else if (0xC0 ≤ n && n ≤ 0xDE && n ≠ 0xD7) || (0x391 ≤ n && n ≤ 0x3A9) ||
      (0x410 ≤ n && n ≤ 0x42F) then [Char.ofNat (n + 0x20)]
  else if 0x400 ≤ n && n ≤ 0x40F then [Char.ofNat (n + 0x50)]
  else if 0x100 ≤ n && n ≤ 0x137 && n % 2 = 0 && n ≠ 0x130 then [Char.ofNat (n + 1)]
  else [c]

/-- A label of a domain in ASCII. -/
def label? (label : List Char) : Option (List Char) :=
  if label.all (·.toNat < 0x80) then
    match ['x', 'n', '-', '-'].isPrefixOf? label with
    | none => some label
    | some code =>
      match Punycode.decode? code with
      | some text =>
        if text.any (0x80 ≤ ·.toNat) && !text.any Text.isUnprintable &&
          text.flatMap foldChar = text then some label else none
      | none => none
  else if label.any Text.isUnprintable then none
  else some (['x', 'n', '-', '-'] ++ Punycode.encode label)

/-- A domain in ASCII. -/
def domain? (text : String) : Option (List Char) := do
  let labels ← (Text.fields '.' (text.toList.flatMap foldChar)).mapM label?
  let domain := ['.'].intercalate labels
  if domain.any isForbidden then none else some domain

/-- The text between brackets, if a text starts with one: `some none` without the other. -/
def bracketed? : List Char → Option (Option (List Char))
  | '[' :: rest =>
    match rest.reverse with
    | ']' :: inner => some (some inner.reverse)
    | _ => some none
  | _ => none

/-- The address between brackets. -/
def ofBrackets (inner : Option (List Char)) : Except Fault Host :=
  match inner.bind ipv6? with
  | some groups => .ok (ipv6 groups)
  | none => .error .invalidIpv6

/-- The host of a URL with a special scheme. -/
def ofText (text : List Char) : Except Fault Host :=
  match bracketed? text with
  | some inner => ofBrackets inner
  | none =>
    match (Http.Percent.decodeText? (String.ofList text)).bind domain? with
    | none => .error .invalidDomainName
    | some [] => .error .emptyHost
    | some name =>
      if endsInNumber name then
        match ipv4? name with
        | some address => .ok (ipv4 address)
        | none => .error .invalidIpv4
      else .ok (domain (String.ofList name))

/-- A byte that is written as it is in a host of any other URL. -/
def isPlainByte (b : UInt8) : Bool :=
  0x20 ≤ b && b < 0x7F

/-- The host of any other URL. -/
def ofOtherText (text : List Char) : Except Fault Host :=
  match bracketed? text with
  | some inner => ofBrackets inner
  | none =>
    if text.any fun c => c = Char.ofNat 0 || "\t\n\r #/:<>?@[\\]^|".toList.contains c then
      .error .invalidDomainCharacter
    else
      .ok (domain (String.ofList
        (Http.Percent.encode isPlainByte (String.ofList text).toUTF8.toList)))

/-- The place and length of the longest run of two or more zeros, the first of several. -/
def longestGap (groups : List Nat) : Option (Nat × Nat) :=
  let runs := (List.range groups.length).map fun i =>
    (i, ((groups.drop i).takeWhile (· = 0)).length)
  (runs.foldl (fun best run => if best.2 < run.2 then run else best) (0, 1)) |> fun best =>
    if best.2 < 2 then none else some best

/-- Groups with colons between them. -/
def joinGroups (groups : List Nat) : String :=
  ":".intercalate (groups.map fun n => String.ofList (Nat.toDigits 16 n))

/-- The text of a host. -/
def render : Host → String
  | domain text => text
  | ipv4 n => ".".intercalate ([3, 2, 1, 0].map fun i => toString (n / Nat.pow 256 i % 256))
  | ipv6 groups =>
    match longestGap groups with
    | none => "[" ++ joinGroups groups ++ "]"
    | some (start, length) =>
      "[" ++ joinGroups (groups.take start) ++ "::" ++ joinGroups (groups.drop (start + length)) ++
        "]"

end Host
end Url
end TokenAuthority
