/-
# Header fields

A field has a name, of which the case does not matter, and a value, which is a sequence of bytes.

| part | legal |
| --- | --- |
| name | one or more, at most 65535, of `A`–`Z`, `a`–`z`, `0`–`9` and ``!#$%&'*+-.^_`|~`` |
| value | bytes other than control characters; a tab is allowed |
-/

import TokenAuthority.Text.Blank

namespace TokenAuthority
namespace Http

/-- A header field. -/
structure Header where
  name : String
  value : List UInt8
deriving DecidableEq, Repr

/-- The bytes of a text. -/
def textBytes (s : String) : List UInt8 :=
  s.toUTF8.toList

/-- A character that may stand in the name of a method or a field. -/
def isTokenChar (c : Char) : Bool :=
  c.isAlphanum || "!#$%&'*+-.^_\x60|~".toList.contains c

/-- A name of one or more token characters. -/
def isToken (s : String) : Bool :=
  s ≠ "" && s.toList.all isTokenChar

/-- A byte that may stand in a field's value. -/
def isValueByte (b : UInt8) : Bool :=
  b = 9 || (32 ≤ b && b ≠ 127)

/-- The value of a field as a text, if its bytes are tabs and printable ASCII characters only. -/
def printable? (value : List UInt8) : Option (List Char) :=
  if value.all fun b => b = 9 || (32 ≤ b && b < 127) then
    some (value.map fun b => Char.ofNat b.toNat)
  else none

namespace Header

/-- The field with a name and a value, if both are legal. -/
def of? (name value : String) : Option Header :=
  if isToken name && Text.byteLength name ≤ 65535 && (textBytes value).all isValueByte then
    some ⟨name, textBytes value⟩
  else none

/-- Whether the field has a name, whatever its case. -/
def isNamed (h : Header) (name : String) : Bool :=
  Text.toLower h.name = Text.toLower name

/-- The first field with a name. -/
def first? (headers : List Header) (name : String) : Option Header :=
  headers.find? (·.isNamed name)

end Header
end Http
end TokenAuthority
