/-
# JSON values and their compact text

| value | text |
| --- | --- |
| number | sign, whole digits, `.` and fraction digits if any, `e` and exponent if any |
| string | `"` and `\` after a backslash; `\b`, `\t`, `\n`, `\f`, `\r`; other characters below U+0020 as `\u00xx`; all else as it is |
| array, object | no blanks; members in the order in which they are given |

A number is kept as it is written, so that `1`, `1.0` and `1e0` stay apart.
-/

import TokenAuthority.Text.Quoted

namespace TokenAuthority
namespace Json

/-- A number as it is written. -/
structure Number where
  /-- Whether a minus sign comes first. -/
  negative : Bool
  /-- The digits before the point. -/
  whole : List Char
  /-- The digits after the point, none without a point. -/
  fraction : List Char
  /-- Whether the exponent is negative, and its digits. -/
  exponent : Option (Bool × List Char)
deriving DecidableEq, Repr

namespace Number

/-- The number that a list of digits writes. -/
def ofDigits (digits : List Char) : Nat :=
  Nat.ofDigitChars 10 digits 0

/-- How an integer is written. -/
def ofInt (n : Int) : Number :=
  ⟨n < 0, Nat.toDigits 10 n.natAbs, [], none⟩

/-- The integer that a number writes, if it has neither fraction nor exponent. The text `-0` is
not taken for an integer. -/
def toInt? (n : Number) : Option Int :=
  if n.fraction.isEmpty && n.exponent.isNone then
    let size := ofDigits n.whole
    if n.negative then if size = 0 then none else some (-(size : Int)) else some size
  else none

/-- The power of ten that the exponent stands for. -/
def scale (n : Number) : Int :=
  match n.exponent with
  | none => 0
  | some (negative, digits) => if negative then -(ofDigits digits : Int) else ofDigits digits

/-- The least magnitude that rounds to infinity in binary64. -/
def overflowBound : Nat :=
  Nat.pow 2 1024 - Nat.pow 2 970

/-- Whether the magnitude is too large for a binary64 number. The count of digits settles it
except near the bound, where the two integers are compared. -/
def overflows (n : Number) : Bool :=
  let digits := (n.whole ++ n.fraction).dropWhile (· = '0')
  let power : Int := n.scale - n.fraction.length
  let size : Int := digits.length + power
  if digits.isEmpty || size < 309 then false
  else if 309 < size then true
  else if 0 ≤ power then overflowBound ≤ ofDigits digits * Nat.pow 10 power.toNat
  else overflowBound * Nat.pow 10 (-power).toNat ≤ ofDigits digits

/-- The text of a number. -/
def render (n : Number) : List Char :=
  (if n.negative then ['-'] else []) ++ n.whole ++
    (if n.fraction.isEmpty then [] else '.' :: n.fraction) ++
    match n.exponent with
    | none => []
    | some (negative, digits) => 'e' :: (if negative then ['-'] else []) ++ digits

end Number

/-- A JSON value. -/
inductive Value where
  | null
  | bool (value : Bool)
  | number (value : Number)
  | string (text : String)
  | array (items : List Value)
  | object (members : List (String × Value))
deriving Inhabited

namespace Value

/-- An integer. -/
def integer (n : Int) : Value :=
  number (Number.ofInt n)

/-- A list of strings. -/
def strings (items : List String) : Value :=
  array (items.map string)

end Value

/-- How a character is written inside a string. -/
def escapeChar (c : Char) : List Char :=
  if c = '"' then ['\\', '"']
  else if c = '\\' then ['\\', '\\']
  else if c = '\n' then ['\\', 'n']
  else if c = '\r' then ['\\', 'r']
  else if c = '\t' then ['\\', 't']
  else if c = '\x08' then ['\\', 'b']
  else if c = '\x0c' then ['\\', 'f']
  else if c.toNat < 0x20 then
    ['\\', 'u', '0', '0', Text.hexDigit (c.toNat / 16), Text.hexDigit (c.toNat % 16)]
  else [c]

/-- A string between quotes. -/
def renderString (s : String) : List Char :=
  '"' :: s.toList.flatMap escapeChar ++ ['"']

mutual

/-- The compact text of a value. -/
def renderValue : Value → List Char
  | .null => ['n', 'u', 'l', 'l']
  | .bool true => ['t', 'r', 'u', 'e']
  | .bool false => ['f', 'a', 'l', 's', 'e']
  | .number n => n.render
  | .string s => renderString s
  | .array items => '[' :: renderItems items ++ [']']
  | .object members => '\x7b' :: renderMembers members ++ ['\x7d']

/-- Items with commas between them. -/
def renderItems : List Value → List Char
  | [] => []
  | [v] => renderValue v
  | v :: rest => renderValue v ++ ',' :: renderItems rest

/-- Members with commas between them. -/
def renderMembers : List (String × Value) → List Char
  | [] => []
  | [(k, v)] => renderString k ++ ':' :: renderValue v
  | (k, v) :: rest => renderString k ++ ':' :: renderValue v ++ ',' :: renderMembers rest

end

/-- The compact text of a value. -/
def Value.render (v : Value) : String :=
  String.ofList (renderValue v)

end Json
end TokenAuthority
