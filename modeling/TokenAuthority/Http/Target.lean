/-
# Request targets

| form | path |
| --- | --- |
| `/path?query#fragment` | as it stands, up to `?` or `#` |
| `*` | `*` |
| `scheme://authority/path` | what follows the authority, or `/` |
| `authority` | none: the empty path |

A target has at least one byte and at most 65534.
-/

import TokenAuthority.Http.Header

namespace TokenAuthority
namespace Http
namespace Target

/-- A character that may stand in a path. -/
def isPathChar (c : Char) : Bool :=
  '!' ≤ c && !"#<>?\x60".toList.contains c

/-- A character that may stand in a query. -/
def isQueryChar (c : Char) : Bool :=
  '!' ≤ c && !"\"#<>".toList.contains c

/-- A character that may stand in an authority. -/
def isAuthorityChar (c : Char) : Bool :=
  c.isAlphanum || "!$&'()*+,-.:;=@[]_~%".toList.contains c

/-- A character that may stand in a scheme. -/
def isSchemeChar (c : Char) : Bool :=
  c.isAlphanum || c = '+' || c = '-' || c = '.'

/-- A character behind an authority or a path. -/
def isDelimiter (c : Char) : Bool :=
  c = '/' || c = '?' || c = '#'

/-- What counts in an authority up to some character. What stands before an `@` or between brackets
counts for itself alone. -/
structure Scan where
  colons : Nat := 0
  opened : Bool := false
  closed : Bool := false
  percent : Bool := false
  /-- Whether an `@` was the last character. -/
  atSign : Bool := false

namespace Scan

/-- One character more. -/
def next (s : Scan) (c : Char) : Option Scan :=
  let s := { s with atSign := false }
  if !isAuthorityChar c then none
  else if c = ':' then
    if 8 ≤ s.colons then none else some { s with colons := s.colons + 1 }
  else if c = '[' then
    if s.percent || s.opened then none else some { s with opened := true }
  else if c = ']' then
    if !s.opened || s.closed then none
    else some { s with closed := true, colons := 0, percent := false }
  else if c = '@' then some { s with atSign := true, colons := 0, percent := false }
  else if c = '%' then some { s with percent := true }
  else some s

/-- Whether an authority may end here. -/
def isComplete (s : Scan) : Bool :=
  s.opened = s.closed && s.colons ≤ 1 && !s.atSign && !s.percent

end Scan

/-- Whether a text is an authority. -/
def isAuthority (text : List Char) : Bool :=
  text ≠ [] && match text.foldlM Scan.next {} with
    | some s => s.isComplete
    | none => false

/-- What follows the scheme, if there is one. -/
def afterScheme? (text : List Char) : Option (List Char) :=
  match text.dropWhile isSchemeChar with
  | ':' :: '/' :: '/' :: rest =>
    if 64 < (text.takeWhile isSchemeChar).length || text.length ≤ 3 then none else some rest
  | _ => none

/-- The path of a text that starts with one. -/
def pathOf? (text : List Char) : Option (List Char) :=
  let path := text.takeWhile fun c => c ≠ '?' && c ≠ '#'
  let query := ((text.drop path.length).takeWhile (· ≠ '#')).drop 1
  if path.all isPathChar && query.all isQueryChar then some path else none

/-- The path of a target, if it is one. -/
def path? (target : String) : Option String :=
  if target = "" || 65534 < Text.byteLength target then none
  else if target = "*" then some target
  else
    let text := target.toList
    if text.head? = some '/' then (pathOf? text).map String.ofList
    else match afterScheme? text with
      | some rest =>
        let authority := rest.takeWhile (!isDelimiter ·)
        if isAuthority authority then
          (pathOf? (rest.drop authority.length)).map fun path =>
            if path = [] then "/" else String.ofList path
        else none
      | none => if isAuthority text then some "" else none

end Target
end Http
end TokenAuthority
