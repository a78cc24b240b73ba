/-
# Quoted text

A text between double quotes in which the quote and the backslash follow a backslash, the four
characters U+0000, tab, line feed and carriage return are written `\0`, `\t`, `\n` and `\r`, and
any other unprintable character is written `\u{…}` with its code point in hexadecimal digits.
-/

import TokenAuthority.Text.Digits
import TokenAuthority.Text.Unprintable

namespace TokenAuthority
namespace Text

/-- How one character is written between the quotes. -/
def quoteChar (c : Char) : List Char :=
  if c = '"' then ['\\', '"']
  else if c = '\\' then ['\\', '\\']
  else if c = '\n' then ['\\', 'n']
  else if c = '\r' then ['\\', 'r']
  else if c = '\t' then ['\\', 't']
  else if c = Char.ofNat 0 then ['\\', '0']
  else if isUnprintable c then ['\\', 'u', '\x7b'] ++ hexDigits c.toNat ++ ['\x7d']
  else [c]

/-- The text between quotes. -/
def quote (s : String) : String :=
  String.ofList ('"' :: s.toList.flatMap quoteChar ++ ['"'])

/-- A list of quoted texts in brackets. -/
def quoteList (items : List String) : String :=
  "[" ++ ", ".intercalate (items.map quote) ++ "]"

end Text
end TokenAuthority
