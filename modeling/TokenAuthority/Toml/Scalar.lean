/-
# TOML strings, numbers and moments

| value | forms |
| --- | --- |
| string | `"…"` and `"""…"""` with escapes, `'…'` and `'''…'''` without |
| integer | decimal with a sign, `0x…`, `0o…`, `0b…`; of 64 bits |
| float | with a fraction or an exponent, not too large; `inf`, `nan` |
| moment | a date, a time of day, or both, then also with an offset |

Single underscores may stand between the digits of a number. Each reader returns a value and what
follows it.
-/

import TokenAuthority.Text.Digits
import TokenAuthority.Toml.Value

namespace TokenAuthority
namespace Toml

/-- A space or a tab. -/
def isBlank (c : Char) : Bool :=
  c = ' ' || c = '\t'

/-- A character that may stand in a comment or between quotes. -/
def isPrintable (c : Char) : Bool :=
  c = '\t' || (' ' ≤ c && c ≠ '\x7f')

/-- What follows a line break, if a text starts with one. -/
def afterBreak? : List Char → Option (List Char)
  | '\n' :: rest => some rest
  | '\r' :: '\n' :: rest => some rest
  | _ => none

/-- A part of a string: some text, and whether the string ends behind it. -/
structure Piece where
  text : List Char := []
  rest : List Char
  isLast : Bool := false

/-- Reads pieces up to the last. -/
def pieces (next : List Char → Option Piece) :
    (fuel : Nat) → List Char → Option (List Char × List Char)
  | 0, _ => none
  | fuel + 1, text =>
    match next text with
    | none => none
    | some p =>
      if p.isLast then some (p.text, p.rest)
      else (pieces next fuel p.rest).map fun (text, rest) => (p.text ++ text, rest)

/-- The character of a code point in hexadecimal digits. -/
def hexEscape? (width : Nat) (text : List Char) : Option Piece := do
  let digits := text.take width
  if digits.length < width then none
  else return { text := [← Text.codePoint? (← Text.number? 16 digits)], rest := text.drop width }

/-- The character of an escape behind its backslash. -/
def escape? : List Char → Option Piece
  | 'b' :: rest => some { text := ['\x08'], rest }
  | 't' :: rest => some { text := ['\t'], rest }
  | 'n' :: rest => some { text := ['\n'], rest }
  | 'f' :: rest => some { text := ['\x0c'], rest }
  | 'r' :: rest => some { text := ['\r'], rest }
  | '"' :: rest => some { text := ['"'], rest }
  | '\\' :: rest => some { text := ['\\'], rest }
  | 'u' :: rest => hexEscape? 4 rest
  | 'U' :: rest => hexEscape? 8 rest
  | _ => none

/-- A piece of a string on one line. -/
def linePiece (quote : Char) : List Char → Option Piece
  | [] => none
  | c :: rest =>
    if c = quote then some { rest, isLast := true }
    else if c = '\\' && quote = '"' then escape? rest
    else if isPrintable c then some { text := [c], rest }
    else none

/-- What follows blanks and line breaks. -/
def skipBreaks : List Char → List Char
  | '\r' :: '\n' :: rest => skipBreaks rest
  | c :: rest => if isBlank c || c = '\n' then skipBreaks rest else c :: rest
  | [] => []

/-- What follows an escaped line break, if there is one behind a backslash. -/
def afterEscapedBreak? (text : List Char) : Option (List Char) :=
  (afterBreak? (text.dropWhile isBlank)).map skipBreaks

/-- A piece of a string on several lines. Up to two quotes in front of the closing three belong to
the string. -/
def blockPiece (quote : Char) : List Char → Option Piece
  | [] => none
  | c :: rest =>
    if c = quote then
      let quotes := ((c :: rest).takeWhile (· = quote)).take 5
      let rest := (c :: rest).drop quotes.length
      if 3 ≤ quotes.length then some { text := quotes.drop 3, rest, isLast := true }
      else some { text := quotes, rest }
    else match afterBreak? (c :: rest) with
      | some rest => some { text := ['\n'], rest }
      | none =>
        if c = '\\' && quote = '"' then
          match afterEscapedBreak? rest with
          | some rest => some { rest }
          | none => escape? rest
        else if isPrintable c then some { text := [c], rest }
        else none

/-- The text of a string on one line, at its opening quote. -/
def lineString? : List Char → Option (String × List Char)
  | [] => none
  | quote :: rest =>
    if quote = '"' || quote = '\'' then
      (pieces (linePiece quote) (rest.length + 1) rest).map fun (text, rest) =>
        (String.ofList text, rest)
    else none

/-- The text of a string, at its opening quotes. -/
def string? : List Char → Option (String × List Char)
  | a :: b :: c :: rest =>
    if a = b && b = c && (a = '"' || a = '\'') then
      let body := (afterBreak? rest).getD rest
      (pieces (blockPiece a) (body.length + 1) body).map fun (text, rest) =>
        (String.ofList text, rest)
    else lineString? (a :: b :: c :: rest)
  | text => lineString? text

/-- Digits with single underscores between them, and what follows. -/
def digits? (isDigit : Char → Bool) : List Char → Option (List Char × List Char)
  | [] => none
  | c :: rest =>
    if !isDigit c then none
    else match rest with
      | '_' :: more => (digits? isDigit more).map fun (ds, rest) => (c :: ds, rest)
      | d :: more =>
        if isDigit d then (digits? isDigit (d :: more)).map fun (ds, rest) => (c :: ds, rest)
        else some ([c], d :: more)
      | [] => some ([c], [])

/-- An integer, if it has 64 bits. -/
def integer? (n : Int) : Option Value :=
  if -9223372036854775808 ≤ n && n ≤ 9223372036854775807 then some (.integer n) else none

/-- An integer in a base that its prefix tells. -/
def basedInteger? (base : Nat) (text : List Char) : Option (Value × List Char) := do
  let (digits, rest) ← digits? (fun c => (Text.digitBelow? base c).isSome) text
  return (← integer? (← Text.number? base digits), rest)

/-- Whether a sign is negative, and what follows it, if there is one. -/
def sign : List Char → Bool × List Char
  | '-' :: rest => (true, rest)
  | '+' :: rest => (false, rest)
  | rest => (false, rest)

/-- The digits of a decimal integer: no others follow a zero. -/
def decimalDigits? : List Char → Option (List Char × List Char)
  | '0' :: rest => some (['0'], rest)
  | text => digits? Char.isDigit text

/-- The digits of a fraction, if there is one. -/
def fraction? : List Char → Option (Option (List Char) × List Char)
  | '.' :: rest => (digits? Char.isDigit rest).map fun (ds, rest) => (some ds, rest)
  | rest => some (none, rest)

/-- An exponent, if there is one. -/
def exponent? : List Char → Option (Option Int × List Char)
  | [] => some (none, [])
  | c :: rest =>
    if c = 'e' || c = 'E' then do
      let (isNegative, rest) := sign rest
      let (digits, rest) ← digits? Char.isDigit rest
      let n ← Text.number? 10 digits
      return (some (if isNegative then -(n : Int) else n), rest)
    else some (none, c :: rest)

/-- The least number that is too large for a float of 64 bits. -/
def floatBound : Nat :=
  Nat.pow 2 1024 - Nat.pow 2 970

/-- Whether digits with a power of ten are too large for a float of 64 bits. -/
def isHuge (digits : List Char) (exponent : Int) : Bool :=
  let significant := digits.dropWhile (· = '0')
  let width : Int := significant.length + exponent
  if significant = [] || width < 309 then false
  else if 309 < width then true
  else
    let n := (Text.number? 10 significant).getD 0
    if 0 ≤ exponent then floatBound ≤ n * Nat.pow 10 exponent.toNat
    else floatBound * Nat.pow 10 (-exponent).toNat ≤ n

/-- A number that is no word, behind its sign. -/
def decimal? (isNegative : Bool) (text : List Char) : Option (Value × List Char) := do
  let (whole, rest) ← decimalDigits? text
  let (part, rest) ← fraction? rest
  let (power, rest) ← exponent? rest
  if part.isNone && power.isNone then
    let n ← Text.number? 10 whole
    return (← integer? (if isNegative then -(n : Int) else n), rest)
  else
    let part := part.getD []
    if !isNegative && isHuge (whole ++ part) (power.getD 0 - part.length) then none
    else return (.float, rest)

/-- A number. -/
def number? : List Char → Option (Value × List Char)
  | '0' :: 'x' :: rest => basedInteger? 16 rest
  | '0' :: 'o' :: rest => basedInteger? 8 rest
  | '0' :: 'b' :: rest => basedInteger? 2 rest
  | text =>
    match sign text with
    | (_, 'i' :: 'n' :: 'f' :: rest) => some (.float, rest)
    | (_, 'n' :: 'a' :: 'n' :: rest) => some (.float, rest)
    | (isNegative, rest) => decimal? isNegative rest

/-- A number of some digits. -/
def fixed? (width : Nat) (text : List Char) : Option (Nat × List Char) :=
  let digits := text.take width
  if digits.length = width && digits.all Char.isDigit then
    (Text.number? 10 digits).map (·, text.drop width)
  else none

/-- A number of two digits within bounds. -/
def twoDigits? (low high : Nat) (text : List Char) : Option (Nat × List Char) :=
  (fixed? 2 text).filter fun (n, _) => low ≤ n && n ≤ high

/-- What follows a character, if a text starts with it. -/
def after? (c : Char) : List Char → Option (List Char)
  | d :: rest => if d = c then some rest else none
  | [] => none

/-- How many days a month has. -/
def daysOf (year month : Nat) : Nat :=
  if month = 2 then
    if year % 4 = 0 && (year % 100 ≠ 0 || year % 400 = 0) then 29 else 28
  else if [4, 6, 9, 11].contains month then 30
  else 31

/-- What follows a date. -/
def afterDate? (text : List Char) : Option (List Char) := do
  let (year, rest) ← fixed? 4 text
  let (month, rest) ← twoDigits? 1 12 (← after? '-' rest)
  let (_, rest) ← twoDigits? 1 (daysOf year month) (← after? '-' rest)
  return rest

/-- What follows a time of day. -/
def afterTime? (text : List Char) : Option (List Char) := do
  let (_, rest) ← twoDigits? 0 23 text
  let (_, rest) ← twoDigits? 0 59 (← after? ':' rest)
  let (_, rest) ← twoDigits? 0 60 (← after? ':' rest)
  match rest with
  | '.' :: c :: more => if c.isDigit then return more.dropWhile Char.isDigit else return rest
  | _ => return rest

/-- What follows an offset, if there is one. -/
def afterOffset? : List Char → Option (List Char)
  | [] => some []
  | c :: rest =>
    if c = 'Z' || c = 'z' then some rest
    else if c = '+' || c = '-' then do
      let (_, rest) ← twoDigits? 0 23 rest
      let (_, rest) ← twoDigits? 0 59 (← after? ':' rest)
      return rest
    else some (c :: rest)

/-- Whether a text starts with some digits in front of a character. -/
def startsFixed (width : Nat) (c : Char) (text : List Char) : Bool :=
  ((fixed? width text).bind fun (_, rest) => after? c rest).isSome

/-- What follows the time of day and the offset behind a date, if they are there. -/
def afterClock? : List Char → Option (List Char)
  | [] => some []
  | c :: rest =>
    if (c = 'T' || c = 't' || c = ' ') && startsFixed 2 ':' rest then do
      afterOffset? (← afterTime? rest)
    else some (c :: rest)

/-- A number or a moment. -/
def numberOrMoment? (text : List Char) : Option (Value × List Char) :=
  if startsFixed 4 '-' text then do return (.moment, ← afterClock? (← afterDate? text))
  else if startsFixed 2 ':' text then do return (.moment, ← afterTime? text)
  else number? text

end Toml
end TokenAuthority
