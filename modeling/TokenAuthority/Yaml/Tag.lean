/-
# Tags and directives

| form | handle |
| --- | --- |
| `!<uri>` | none |
| `!` | none |
| `!suffix` | `!` |
| `!!suffix` | `!!` |
| `!name!suffix` | `!name!` |

The directive `%TAG handle uri` declares a handle, `%YAML major.minor` tells the version. What a
tag says of a value does not matter here, so that only its handle is kept; but a tag or directive
that is not well-formed makes a stream unreadable.
-/

import TokenAuthority.Yaml.Scalar

namespace TokenAuthority
namespace Yaml

/-- A character of a tag's URI; brackets and commas only in the form `!<uri>`. -/
def isUriChar (isVerbatim : Bool) (c : Char) : Bool :=
  isWordChar c || ";/?:@&=+$.!~*'()".toList.contains c || (isVerbatim && ",[]".toList.contains c)

/-- How many bytes a character has whose encoding starts with a byte. -/
def encodedWidth? (byte : Nat) : Option Nat :=
  if byte < 0x80 then some 1
  else if 0xc0 ≤ byte && byte < 0xe0 then some 2
  else if 0xe0 ≤ byte && byte < 0xf0 then some 3
  else if 0xf0 ≤ byte && byte < 0xf8 then some 4
  else none

/-- How many bytes of a character are owed behind one more escaped byte. -/
def owedAfter? (owed : Nat) (byte : Nat) : Option Nat :=
  if owed = 0 then (encodedWidth? byte).map (· - 1)
  else if 0x80 ≤ byte && byte < 0xc0 then some (owed - 1)
  else none

/-- What follows a URI. `owed` bytes of an escaped character are still to come. -/
def skipUri (isVerbatim : Bool) : (owed : Nat) → List Char → Option (List Char)
  | owed, '%' :: a :: b :: rest =>
    match (Text.number? 16 [a, b]).bind (owedAfter? owed) with
    | some owed => skipUri isVerbatim owed rest
    | none => none
  | 0, c :: rest =>
    if c = '%' then none
    else if isUriChar isVerbatim c then skipUri isVerbatim 0 rest
    else some (c :: rest)
  | 0, [] => some []
  | _ + 1, _ => none

/-- What follows a URI of at least one character. -/
def skipUri? (isVerbatim : Bool) (text : List Char) : Option (List Char) :=
  (skipUri isVerbatim 0 text).filter (·.length < text.length)

/-- A handle, or what looks like one, and what follows it. -/
def tagHandle? : List Char → Option (String × List Char)
  | '!' :: text =>
    let word := text.takeWhile isWordChar
    match text.dropWhile isWordChar with
    | '!' :: rest => some (String.ofList ('!' :: word ++ ['!']), rest)
    | rest => some (String.ofList ('!' :: word), rest)
  | _ => none

/-- Whether a text that looks like a handle is one that a suffix follows. -/
def isNamedHandle (handle : String) : Bool :=
  1 < handle.length && handle.toList.getLast? = some '!'

/-- The handle of a tag, if it has one, and what follows the tag. -/
def tag? (inFlow : Bool) (text : List Char) : Option (Option String × List Char) := do
  let (handle, rest) ← match text with
    | '!' :: '<' :: uri =>
      match ← skipUri? true uri with
      | '>' :: rest => some (none, rest)
      | _ => none
    | _ => do
      let (handle, after) ← tagHandle? text
      if isNamedHandle handle then some (some handle, ← skipUri? false after)
      else
        let rest ← skipUri false 0 after
        some (if rest.length + 1 = text.length then none else some "!", rest)
  if startsSpaced rest || (inFlow && rest.head? = some ',') then some (handle, rest) else none

/-- A directive. -/
inductive Directive where
  | version (major minor : Nat)
  | tag (handle : String)
deriving DecidableEq, Repr

namespace Directive

/-- A number of at most nine digits, and what follows it. -/
def number? (text : List Char) : Option (Nat × List Char) :=
  let digits := text.takeWhile Char.isDigit
  if digits = [] || 9 < digits.length then none
  else (Text.number? 10 digits).map (·, text.dropWhile Char.isDigit)

/-- The arguments of `%YAML`. -/
def version? (text : List Char) : Option (Directive × List Char) := do
  let (major, rest) ← number? (text.dropWhile isBlank)
  let (minor, rest) ← number? (← if rest.head? = some '.' then some (rest.drop 1) else none)
  return (version major minor, rest)

/-- The arguments of `%TAG`. -/
def declaration? (text : List Char) : Option (Directive × List Char) := do
  let (handle, rest) ← tagHandle? (text.dropWhile isBlank)
  if !isNamedHandle handle && handle ≠ "!" then none
  else if !rest.head?.any isBlank then none
  else
    let rest ← skipUri? true (rest.dropWhile isBlank)
    if startsSpaced rest then some (tag handle, rest) else none

/-- A directive behind its `%`, and the lines that follow. -/
def read? (text : List Char) : Option (Directive × List Char) := do
  let name := String.ofList (text.takeWhile isWordChar)
  let rest := text.dropWhile isWordChar
  if !startsSpaced rest then none
  else
    let (directive, rest) ←
      if name = "YAML" then version? rest
      else if name = "TAG" then declaration? rest
      else none
    return (directive, ← BlockHeader.skipLine? rest)

end Directive
end Yaml
end TokenAuthority
