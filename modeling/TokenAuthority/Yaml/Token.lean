/-
# The tokens of a YAML stream

Indentation becomes tokens that open and close block collections. A key of a mapping need not be
marked; only the colon behind it tells that it is one. Each place where a key may start is therefore
remembered, one for each open flow collection, and the token for the key is put there when the
colon is met. Such a key stays on its line and is at most 1024 characters long.

The stream's end is the end of the tokens.
-/

import TokenAuthority.Yaml.Tag

namespace TokenAuthority
namespace Yaml

/-- A token. -/
inductive Token where
  | directive (directive : Directive)
  | documentStart
  | documentEnd
  | blockSequenceStart
  | blockMappingStart
  | blockEnd
  | flowSequenceStart
  | flowSequenceEnd
  | flowMappingStart
  | flowMappingEnd
  | blockEntry
  | flowEntry
  | key
  | value
  | alias (name : String)
  | anchor (name : String)
  /-- A tag, with its handle. -/
  | tag (handle : Option String)
  /-- The text of a scalar, and whether it is plain. -/
  | scalar (text : String) (isPlain : Bool)
deriving DecidableEq, Repr

namespace Token

/-- A place where a key may start. -/
structure PossibleKey where
  place : Place
  /-- How many tokens there are in front of it. -/
  position : Nat
  /-- Whether only a key can start there. -/
  isRequired : Bool

/-- What is known in the middle of a stream. -/
structure Reading where
  rest : List Char
  place : Place := {}
  tokens : Array Token := #[]
  /-- The columns of the open block collections, innermost first. -/
  indents : List Nat := []
  /-- Where a key may have started: in the innermost collection, and in those around it, one for
  each open flow collection. -/
  possible : Option PossibleKey := none
  outer : List (Option PossibleKey) := []
  /-- Whether a key may start here. -/
  allowsKey : Bool := true

namespace Reading

/-- Whether a flow collection is open. -/
def inFlow (r : Reading) : Bool :=
  !r.outer.isEmpty

/-- The reading behind some text of which `rest` is left. -/
def leave (r : Reading) (rest : List Char) : Reading :=
  { r with rest, place := r.place.after (r.rest.take (r.rest.length - rest.length)) }

/-- One more token. -/
def push (r : Reading) (token : Token) : Reading :=
  { r with tokens := r.tokens.push token }

/-- One more token, for an indicator of some characters. -/
def indicator (r : Reading) (token : Token) (width : Nat := 1) : Reading :=
  (r.push token).leave (r.rest.drop width)

/-- Closes the block collections that are indented by more than `column`. -/
def closeBeyond (r : Reading) (isBeyond : Nat → Bool) : Reading :=
  if r.inFlow then r
  else { r with
    tokens := r.tokens ++ ((r.indents.takeWhile isBeyond).map fun _ => blockEnd).toArray
    indents := r.indents.dropWhile isBeyond }

/-- Opens a block collection at a column, if none is open there. -/
def openAt (r : Reading) (column position : Nat) (token : Token) : Reading :=
  if r.inFlow || r.indents.head?.any (column ≤ ·) then r
  else { r with
    indents := column :: r.indents
    tokens := r.tokens.insertIdxIfInBounds position token }

/-- Gives up a place where a key may have started. -/
def dropKey? : Option PossibleKey → Option (Option PossibleKey)
  | none => some none
  | some k => if k.isRequired then none else some none

/-- Gives up the last place where a key may have started. -/
def forgetKey (r : Reading) : Option Reading := do
  return { r with possible := ← dropKey? r.possible }

/-- Remembers that a key may start here. -/
def saveKey (r : Reading) : Option Reading :=
  if r.allowsKey then do
    let r ← r.forgetKey
    return { r with possible := some {
      place := r.place
      position := r.tokens.size
      isRequired := !r.inFlow && r.indents.head? = some r.place.column } }
  else some r

/-- Whether a key that started at some place cannot reach this one. -/
def isStale (r : Reading) (k : PossibleKey) : Bool :=
  k.place.line < r.place.line || k.place.index + 1024 < r.place.index

/-- A possible key, unless it is stale. -/
def keepFresh (r : Reading) : Option PossibleKey → Option (Option PossibleKey)
  | none => some none
  | some k => if r.isStale k then dropKey? (some k) else some (some k)

/-- Gives up the places from which a key cannot reach this one. -/
def forgetStale (r : Reading) : Option Reading := do
  return { r with possible := ← r.keepFresh r.possible, outer := ← r.outer.mapM r.keepFresh }

/-- The reading at the next token: behind spaces and comments. -/
def skipSpaces : (fuel : Nat) → Reading → Reading
  | 0, r => r
  | fuel + 1, r =>
    let r := if r.place.column = 0 && r.rest.head? = some '\ufeff' then r.leave (r.rest.drop 1)
      else r
    let r := r.leave (r.rest.dropWhile fun c =>
      c = ' ' || (c = '\t' && (r.inFlow || !r.allowsKey)))
    let r := if r.rest.head? = some '#' then r.leave (r.rest.dropWhile (!isBreak ·)) else r
    match r.rest with
    | [] => r
    | c :: rest =>
      if isBreak c then
        skipSpaces fuel { r.leave rest with allowsKey := r.allowsKey || !r.inFlow }
      else r

/-- In front of a document's marker or a directive: nothing is open. -/
def endBlocks (r : Reading) : Option Reading := do
  return { ← (r.closeBeyond fun _ => true).forgetKey with allowsKey := false }

/-- The start of a flow collection. -/
def openFlow (r : Reading) (token : Token) : Option Reading := do
  let r ← r.saveKey
  return { r with possible := none, outer := r.possible :: r.outer, allowsKey := true }.indicator
    token

/-- The end of a flow collection. -/
def closeFlow (r : Reading) (token : Token) : Option Reading := do
  let r ← r.forgetKey
  return { r with
    possible := r.outer.head?.getD r.possible, outer := r.outer.drop 1, allowsKey := false
    }.indicator token

/-- A comma. -/
def readFlowEntry (r : Reading) : Option Reading := do
  return { ← r.forgetKey with allowsKey := true }.indicator flowEntry

/-- A hyphen. -/
def readBlockEntry (r : Reading) : Option Reading :=
  if !r.inFlow && !r.allowsKey then none
  else do
    let r ← (r.openAt r.place.column r.tokens.size blockSequenceStart).forgetKey
    return { r with allowsKey := true }.indicator blockEntry

/-- A question mark. -/
def readKey (r : Reading) : Option Reading :=
  if !r.inFlow && !r.allowsKey then none
  else do
    let r ← (r.openAt r.place.column r.tokens.size blockMappingStart).forgetKey
    return { r with allowsKey := !r.inFlow }.indicator key

/-- A colon. -/
def readValue (r : Reading) : Option Reading :=
  match r.possible with
  | some k =>
    let r := { r with tokens := r.tokens.insertIdxIfInBounds k.position key }
    let r := r.openAt k.place.column k.position blockMappingStart
    some ({ r with possible := none, allowsKey := false }.indicator value)
  | none =>
    if !r.inFlow && !r.allowsKey then none
    else
      let r := r.openAt r.place.column r.tokens.size blockMappingStart
      some ({ r with allowsKey := !r.inFlow }.indicator value)

/-- A token at which a key may start, and what follows it. -/
def readContent (r : Reading) (token : Token) (rest : List Char) : Option Reading := do
  let r ← r.saveKey
  return ({ r with allowsKey := false }.push token).leave rest

/-- A character that may follow an anchor or an alias. -/
def endsAnchor (text : List Char) : Bool :=
  text.head?.all fun c => isSpace c || "?:,]\x7d%@\x60".toList.contains c

/-- An anchor or an alias. -/
def readAnchor (r : Reading) (token : String → Token) : Option Reading :=
  let text := r.rest.drop 1
  let name := text.takeWhile isWordChar
  let rest := text.dropWhile isWordChar
  if name = [] || !endsAnchor rest then none
  else r.readContent (token (String.ofList name)) rest

/-- A scalar between quotes. -/
def readQuoted (r : Reading) (content : Option (List Char × List Char)) : Option Reading := do
  let (text, rest) ← content
  r.readContent (scalar (String.ofList text) false) rest

/-- A block scalar. -/
def readBlock (r : Reading) (isLiteral : Bool) : Option Reading := do
  let r ← r.forgetKey
  let (text, rest) ← block isLiteral r.indents.head? (r.rest.drop 1)
  return ({ r with allowsKey := true }.push (scalar (String.ofList text) false)).leave rest

/-- A plain scalar. -/
def readPlain (r : Reading) : Option Reading := do
  let p ← plain r.inFlow ((r.indents.head?.map (· + 1)).getD 0) r.rest
  let r ← r.readContent (scalar (String.ofList p.text) true) p.rest
  return { r with allowsKey := p.endsLine }

/-- Whether a plain scalar may start with a character. -/
def startsPlain (r : Reading) (c : Char) (rest : List Char) : Bool :=
  !(isSpace c || "-?:,[]\x7b\x7d#&*!|>'\"%@\x60".toList.contains c) ||
    (c = '-' && !rest.head?.any isBlank) ||
    (!r.inFlow && (c = '?' || c = ':') && !startsSpaced rest)

/-- Reads the token that starts with a character. -/
def readToken (r : Reading) (c : Char) (rest : List Char) : Option Reading :=
  let atStart := r.place.column = 0
  if atStart && c = '%' then do
    let r ← r.endBlocks
    let (d, after) ← Directive.read? rest
    return (r.push (directive d)).leave after
  else if atStart && startsMarker '-' r.rest then
    r.endBlocks.map (·.indicator documentStart 3)
  else if atStart && startsMarker '.' r.rest then
    r.endBlocks.map (·.indicator documentEnd 3)
  else match c with
    | '[' => r.openFlow flowSequenceStart
    | '\x7b' => r.openFlow flowMappingStart
    | ']' => r.closeFlow flowSequenceEnd
    | '\x7d' => r.closeFlow flowMappingEnd
    | ',' => r.readFlowEntry
    | '*' => r.readAnchor .alias
    | '&' => r.readAnchor anchor
    | '!' => do
      let (handle, after) ← tag? r.inFlow r.rest
      r.readContent (tag handle) after
    | '\'' => r.readQuoted (singleQuoted rest)
    | '"' => r.readQuoted (doubleQuoted rest)
    | _ =>
      if c = '-' && startsSpaced rest then r.readBlockEntry
      else if c = '?' && (r.inFlow || startsSpaced rest) then r.readKey
      else if c = ':' && (r.inFlow || startsSpaced rest) then r.readValue
      else if c = '|' && !r.inFlow then r.readBlock true
      else if c = '>' && !r.inFlow then r.readBlock false
      else if r.startsPlain c rest then r.readPlain
      else none

/-- The end of the stream. -/
def finish (r : Reading) : Option Reading :=
  (r.closeBeyond fun _ => true).forgetKey

/-- Reads all tokens. -/
def readAll : (fuel : Nat) → Reading → Option (Array Token)
  | 0, _ => none
  | fuel + 1, r => do
    let r ← (skipSpaces (r.rest.length + 1) r).forgetStale
    match r.rest with
    | [] => return (← r.finish).tokens
    | c :: rest =>
      let r := r.closeBeyond (r.place.column < ·)
      readAll fuel (← r.readToken c rest)

end Reading

/-- The tokens of a text, if it is a YAML stream. -/
def ofText? (text : String) : Option (List Token) :=
  let chars := text.toList
  if chars.all isPrintable then
    let chars := unifyBreaks chars
    (Reading.readAll (chars.length + 1) { rest := chars }).map (·.toList)
  else none

end Token
end Yaml
end TokenAuthority
