/-
# Media types

`type/subtype; name=value; …`, where a value may stand between quotes. JSON is `application/json`,
and every `application` type with the suffix `+json`.
-/

import TokenAuthority.Http.Header

namespace TokenAuthority
namespace Http
namespace MediaType

/-- Where in a media type a reader is. The type and the subtype so far stand last first. -/
inductive Place where
  | type (read : List Char)
  | subtype (type read : List Char)
  /-- Before a parameter. -/
  | parameter (type subtype : List Char)
  | name (type subtype : List Char)
  /-- Before a value. -/
  | equals (type subtype : List Char)
  | value (type subtype : List Char)
  /-- Behind the first quote of a value; one character of it is there in any case. -/
  | quote (type subtype : List Char)
  | quoted (type subtype : List Char)
  | unquoted (type subtype : List Char)

/-- A character that may stand between quotes. -/
def isQuotable (c : Char) : Bool :=
  ' ' ≤ c && c ≠ '\x7f'

/-- One character more. -/
def step (place : Place) (c : Char) : Option Place :=
  match place with
  | .type read =>
    if isTokenChar c then some (.type (c :: read))
    else if c = '/' && read ≠ [] then some (.subtype read [])
    else none
  | .subtype t read =>
    if isTokenChar c then some (.subtype t (c :: read))
    else if c = ';' && read ≠ [] then some (.parameter t read)
    else none
  | .parameter t s =>
    if c = ' ' then some (.parameter t s)
    else if isTokenChar c then some (.name t s)
    else none
  | .name t s =>
    if isTokenChar c then some (.name t s)
    else if c = '=' then some (.equals t s)
    else none
  | .equals t s =>
    if c = '"' then some (.quote t s)
    else if isTokenChar c then some (.value t s)
    else none
  | .value t s =>
    if isTokenChar c then some (.value t s)
    else if c = ';' then some (.parameter t s)
    else none
  | .quote t s => if isQuotable c then some (.quoted t s) else none
  | .quoted t s =>
    if c = '"' then some (.unquoted t s)
    else if isQuotable c then some (.quoted t s)
    else none
  | .unquoted t s =>
    if c = ';' then some (.parameter t s)
    else if c = ' ' then some (.unquoted t s)
    else none

/-- The type and the subtype, if the media type may end here. -/
def finish : Place → Option (List Char × List Char)
  | .subtype t s | .parameter t s | .equals t s | .value t s | .unquoted t s =>
    some (t.reverse, s.reverse)
  | _ => none

/-- The type and the subtype of a media type. -/
def read? (text : List Char) : Option (List Char × List Char) :=
  (text.foldlM step (.type [])).bind finish

/-- The subtype without its suffix, and the suffix behind the last `+`. -/
def splitSuffix (subtype : List Char) : List Char × Option (List Char) :=
  let last := subtype.reverse.takeWhile (· ≠ '+')
  match subtype.reverse.drop last.length with
  | '+' :: c :: stem => ((c :: stem).reverse, some last.reverse)
  | _ => (subtype, none)

/-- Whether a text is a media type of JSON. -/
def isJson (text : List Char) : Bool :=
  match read? text with
  | none => false
  | some (type, subtype) =>
    let json := ['j', 's', 'o', 'n']
    let (stem, suffix) := splitSuffix (subtype.map Char.toLower)
    String.ofList (type.map Char.toLower) = "application" && (stem = json || suffix = some json)

end MediaType
end Http
end TokenAuthority
