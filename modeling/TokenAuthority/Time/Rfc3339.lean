/-
# Dates and times in text

Written: `YYYY-MM-DDThh:mm:ssZ` in UTC with the shortest of 0, 3, 6 and 9 fraction digits that is
exact; a year outside 0–9999 has a sign and at least four digits; a leap second is second 60.

Read, more freely:

| part | accepted |
| --- | --- |
| year | up to four digits, or a sign and any number of digits |
| month, day, hour, minute, second | one or two digits |
| separators | `-` between the parts of the date, `T`, `t` or one space, `:` between the parts of the time |
| fraction | `.` and one or more digits, of which nine count |
| offset | `Z`, `UTC` in any case, or a sign, two digits of hours, and two of minutes below 60 |

Blanks may stand before each number, before `-` and `:`, and around the offset; colons and blanks
may stand between its hours and minutes. The minus sign of an offset may be U+2212.
-/

import TokenAuthority.Text.Blank
import TokenAuthority.Time.Instant

namespace TokenAuthority
namespace Time
namespace Rfc3339

/-- A number with at least `width` digits. -/
def padded (width n : Nat) : List Char :=
  let digits := Nat.toDigits 10 n
  List.replicate (width - digits.length) '0' ++ digits

/-- A year. -/
def writeYear (year : Int) : List Char :=
  if 0 ≤ year ∧ year ≤ 9999 then padded 4 year.toNat
  else (if year < 0 then '-' else '+') :: padded 4 year.natAbs

/-- The fraction of a second. -/
def writeFraction (nano : Nat) : List Char :=
  if nano = 0 then []
  else if nano % 1000000 = 0 then '.' :: padded 3 (nano / 1000000)
  else if nano % 1000 = 0 then '.' :: padded 6 (nano / 1000)
  else '.' :: padded 9 nano

/-- An instant in UTC. -/
def write (i : Instant) : List Char :=
  let date := Date.ofDayNumber (i.second / 86400)
  let time := (i.second % 86400).toNat
  let leap := nanosPerSecond ≤ i.nano
  writeYear date.year ++ '-' :: padded 2 date.month ++ '-' :: padded 2 date.day ++
    'T' :: padded 2 (time / 3600) ++ ':' :: padded 2 (time / 60 % 60) ++
    ':' :: padded 2 (time % 60 + if leap then 1 else 0) ++
    writeFraction (if leap then i.nano - nanosPerSecond else i.nano) ++ ['Z']

/-- Drops blanks in front. -/
def skipBlank (s : List Char) : List Char :=
  s.dropWhile Text.isBlank

/-- Reads at least one and at most `width` digits. -/
def digits? (width : Nat) (s : List Char) : Option (Nat × List Char) :=
  let taken := (s.take width).takeWhile Char.isDigit
  if taken.isEmpty then none else some (Nat.ofDigitChars 10 taken 0, s.drop taken.length)

/-- Reads a number of one or two digits behind blanks. -/
def pair? (s : List Char) : Option (Nat × List Char) :=
  digits? 2 (skipBlank s)

/-- Reads the year: without a sign it has at most four digits. -/
def year? (s : List Char) : Option (Int × List Char) :=
  match skipBlank s with
  | '-' :: rest => (digits? rest.length rest).map fun (n, rest) => (-(n : Int), rest)
  | '+' :: rest => (digits? rest.length rest).map fun (n, rest) => ((n : Int), rest)
  | rest => (digits? 4 rest).map fun (n, rest) => ((n : Int), rest)

/-- Reads one character behind blanks. -/
def separator? (c : Char) (s : List Char) : Option (List Char) :=
  match skipBlank s with
  | d :: rest => if c = d then some rest else none
  | [] => none

/-- Reads the fraction of a second, in nanoseconds; there need not be one. -/
def fraction? (s : List Char) : Option (Nat × List Char) :=
  match s with
  | '.' :: rest =>
    let digits := rest.takeWhile Char.isDigit
    if digits.isEmpty then none
    else
      let counted := digits.take 9
      let nanos := Nat.ofDigitChars 10 counted 0 * Nat.pow 10 (9 - counted.length)
      some (nanos, rest.drop digits.length)
  | rest => some (0, rest)

/-- Reads exactly two digits. -/
def twoDigits? : List Char → Option (Nat × List Char)
  | a :: b :: rest =>
    if a.isDigit && b.isDigit then some (Nat.ofDigitChars 10 [a, b] 0, rest) else none
  | _ => none

/-- Reads the offset from UTC, in seconds. -/
def offset? (s : List Char) : Option (Int × List Char) :=
  match s with
  | [] => none
  | c :: rest =>
    if c = 'Z' || c = 'z' then some (0, rest)
    else if (s.take 3).map Char.toUpper = ['U', 'T', 'C'] then some (0, s.drop 3)
    else if c = '+' || c = '-' || c = '\u2212' then
      match twoDigits? rest with
      | none => none
      | some (hours, rest) =>
        match twoDigits? (rest.dropWhile fun c => c = ':' || Text.isBlank c) with
        | none => none
        | some (minutes, rest) =>
          if minutes < 60 && hours < 24 then
            let size : Int := hours * 3600 + minutes * 60
            some (if c = '+' then size else -size, rest)
          else none
    else none

/-- Reads the character between date and time. -/
def middle? : List Char → Option (List Char)
  | c :: rest => if c = 'T' || c = 't' || c = ' ' then some rest else none
  | [] => none

/-- The instant of a date and time of day at an offset, if all are in range. -/
def instant? (date : Date) (hour minute second nano : Nat) (offset : Int) : Option Instant :=
  if date.isValid && hour < 24 && minute < 60 && second ≤ 60 then
    let leap := second = 60
    let localSecond := date.dayNumber * 86400 + hour * 3600 + minute * 60 +
      (if leap then 59 else second : Nat)
    let nano := if leap then nano + nanosPerSecond else nano
    (Instant.of? localSecond nano).bind fun _ => Instant.of? (localSecond - offset) nano
  else none

/-- Reads an instant; nothing but blanks may follow it. -/
def read? (s : List Char) : Option Instant := do
  let (year, s) ← year? s
  let s ← separator? '-' s
  let (month, s) ← pair? s
  let s ← separator? '-' s
  let (day, s) ← pair? s
  let s ← middle? s
  let (hour, s) ← pair? s
  let s ← separator? ':' s
  let (minute, s) ← pair? s
  let s ← separator? ':' s
  let (second, s) ← pair? s
  let (nano, s) ← fraction? s
  let (offset, s) ← offset? (skipBlank s)
  if (skipBlank s).isEmpty then instant? ⟨year, month, day⟩ hour minute second nano offset
  else none

end Rfc3339
end Time
end TokenAuthority
