/-
# The nodes of a YAML document

| node | written as |
| --- | --- |
| scalar | a text in any style; nothing at all is an empty plain scalar |
| sequence | `- item` lines, or `[item, …]` |
| mapping | `key: value` lines, or `\x7bkey: value, …\x7d`, or `key: value` as an item of `[…]` |
| alias | `*name`, for the node that `&name` marks |

A mark has a number: how many different names were marked before it in the document. An alias
stands for the number that its name has at that point, and a number for the last node that got it.
-/

import TokenAuthority.Yaml.Token

namespace TokenAuthority
namespace Yaml

/-- A node. -/
inductive Node where
  | scalar (text : String) (isPlain : Bool)
  | sequence (items : List Node)
  | mapping (entries : List (Node × Node))
  | alias (mark : Nat)
deriving Inhabited

namespace Node

/-- The node where nothing is written. -/
def empty : Node := .scalar "" true

end Node

/-- A document. -/
structure Document where
  root : Node := .empty
  /-- The marked nodes by the number of their marks. -/
  marked : List (Nat × Node) := []
  /-- How many nodes and ends of collections there are. -/
  size : Nat := 0

/-- Why a text is not a document. -/
inductive Fault where
  | malformed
  | unknownAlias (name : String)
  | severalDocuments
  | unfit
deriving DecidableEq, Repr

namespace Fault

/-- The message of a fault. -/
def message : Fault → String
  | malformed => "not a YAML stream"
  | unknownAlias name => "unknown anchor " ++ name
  | severalDocuments => "more than one document"
  | unfit => "a value of another kind was expected"

end Fault

namespace Document

/-- What is known in the middle of the tokens. -/
structure Reading where
  tokens : List Token
  /-- The handles that tags may have. -/
  handles : List String := ["!", "!!"]
  /-- How many nodes and ends of collections were read. -/
  size : Nat := 0
  /-- The names and the numbers of marks. -/
  marks : List (String × Nat) := []
  /-- The numbers of marks and the sizes at which they were met, last first. -/
  starts : List (Nat × Nat) := []
  /-- The marked nodes with the sizes at which their marks were met. -/
  nodes : List (Nat × Node) := []

/-- Programs that read tokens. -/
abbrev Reader := StateT Reading (Except Fault)

namespace Reader

/-- The next token. -/
def peek : Reader (Option Token) :=
  return (← get).tokens.head?

/-- Drops the next token. -/
def skip : Reader Unit :=
  modify fun r => { r with tokens := r.tokens.drop 1 }

/-- Drops the next token, if it is a given one. -/
def take (token : Token) : Reader Bool := do
  if (← peek) = some token then
    skip
    return true
  else return false

/-- Whether the next token is one of some. -/
def isNext (tokens : List Token) : Reader Bool :=
  return (← peek).any tokens.contains

/-- Counts a node or the end of a collection. -/
def count : Reader Unit :=
  modify fun r => { r with size := r.size + 1 }

/-- Nothing is written. -/
def nothing : Reader Node := do
  count
  return .empty

/-- Marks the node that comes next. -/
def mark (name : String) : Reader Unit :=
  modify fun r =>
    let number := r.marks.length
    { r with
      marks := (name, number) :: r.marks.filter (·.1 ≠ name)
      starts := (number, r.size) :: r.starts }

/-- The marks and the tag in front of a node. -/
structure Properties where
  anchor : Option String := none
  isTagged : Bool := false

/-- Reads a tag. -/
def readTag : Reader Bool := do
  match ← peek with
  | some (.tag handle) =>
    skip
    match handle with
    | none => return true
    | some handle =>
      if (← get).handles.contains handle then return true else throw .malformed
  | _ => return false

/-- Reads a mark. -/
def readAnchor : Reader (Option String) := do
  match ← peek with
  | some (.anchor name) =>
    skip
    return some name
  | _ => return none

/-- Reads a mark and a tag, in any order. -/
def readProperties : Reader Properties := do
  match ← readAnchor with
  | some name => return { anchor := some name, isTagged := ← readTag }
  | none =>
    if ← readTag then return { anchor := ← readAnchor, isTagged := true }
    else return {}

/-- Reads an alias. -/
def readAlias (name : String) : Reader Node := do
  skip
  match (← get).marks.lookup name with
  | none => throw (.unknownAlias name)
  | some number =>
    count
    return .alias number

/-- Keeps a marked node. -/
def keep (anchor : Option String) (start : Nat) (node : Node) : Reader Node := do
  if anchor.isSome then
    modify fun r => { r with nodes := (start, node) :: r.nodes }
  return node

mutual

/-- Reads a node. Block collections are nodes only where `inBlock` says so, and a sequence that is
indented like its key where `isIndentless` says so. -/
def node : (fuel : Nat) → (inBlock isIndentless : Bool) → Reader Node
  | 0, _, _ => throw .malformed
  | fuel + 1, inBlock, isIndentless => do
    if let some (.alias name) := ← peek then return ← readAlias name
    let properties ← readProperties
    let start := (← get).size
    if let some name := properties.anchor then mark name
    keep properties.anchor start (← content fuel inBlock isIndentless
      (properties.anchor.isSome || properties.isTagged))

/-- Reads a node behind its properties; if it has any, it may be empty. -/
def content : (fuel : Nat) → (inBlock isIndentless mayBeEmpty : Bool) → Reader Node
  | 0, _, _, _ => throw .malformed
  | fuel + 1, inBlock, isIndentless, mayBeEmpty => do
    if isIndentless && (← isNext [.blockEntry]) then
      count
      return .sequence (← indentlessItems fuel)
    match ← peek with
    | some (.scalar text isPlain) =>
      skip
      count
      return .scalar text isPlain
    | some .flowSequenceStart =>
      skip
      count
      return .sequence (← flowItems fuel true)
    | some .flowMappingStart =>
      skip
      count
      return .mapping (← flowEntries fuel true)
    | some .blockSequenceStart =>
      if inBlock then
        skip
        count
        return .sequence (← blockItems fuel)
      else absent mayBeEmpty
    | some .blockMappingStart =>
      if inBlock then
        skip
        count
        return .mapping (← blockEntries fuel)
      else absent mayBeEmpty
    | _ => absent mayBeEmpty

/-- Nothing is written where a node is wanted. -/
def absent (mayBeEmpty : Bool) : Reader Node :=
  if mayBeEmpty then nothing else throw .malformed

/-- Reads a node of a block collection, unless one of some tokens comes next. -/
def blockNode : (fuel : Nat) → (isIndentless : Bool) → List Token → Reader Node
  | 0, _, _ => throw .malformed
  | fuel + 1, isIndentless, enders => do
    if ← isNext enders then nothing else node fuel true isIndentless

/-- Reads a node of a flow collection, unless one of some tokens comes next. -/
def flowNode : (fuel : Nat) → List Token → Reader Node
  | 0, _ => throw .malformed
  | fuel + 1, enders => do
    if ← isNext enders then nothing else node fuel false false

/-- Reads the items of a block sequence. -/
def blockItems : (fuel : Nat) → Reader (List Node)
  | 0 => throw .malformed
  | fuel + 1 => do
    if ← take .blockEntry then
      let item ← blockNode fuel false [.blockEntry, .blockEnd]
      return item :: (← blockItems fuel)
    else if ← take .blockEnd then
      count
      return []
    else throw .malformed

/-- Reads the items of a sequence that is indented like its key. -/
def indentlessItems : (fuel : Nat) → Reader (List Node)
  | 0 => throw .malformed
  | fuel + 1 => do
    if ← take .blockEntry then
      let item ← blockNode fuel false [.blockEntry, .key, .value, .blockEnd]
      return item :: (← indentlessItems fuel)
    else
      count
      return []

/-- Reads the entries of a block mapping. -/
def blockEntries : (fuel : Nat) → Reader (List (Node × Node))
  | 0 => throw .malformed
  | fuel + 1 => do
    if ← take .key then
      let key ← blockNode fuel true [.key, .value, .blockEnd]
      let value ← if ← take .value then blockNode fuel true [.key, .value, .blockEnd] else nothing
      return (key, value) :: (← blockEntries fuel)
    else if ← take .blockEnd then
      count
      return []
    else throw .malformed

/-- Reads the items of a flow sequence. -/
def flowItems : (fuel : Nat) → (isFirst : Bool) → Reader (List Node)
  | 0, _ => throw .malformed
  | fuel + 1, isFirst => do
    if ← take .flowSequenceEnd then
      count
      return []
    if !isFirst && !(← take .flowEntry) then throw .malformed
    if ← take .flowSequenceEnd then
      count
      return []
    let item ← if ← take .key then pair fuel else node fuel false false
    return item :: (← flowItems fuel false)

/-- Reads an entry that is an item of a flow sequence. Where the key is missing, the token that is
found in its place is skipped. -/
def pair : (fuel : Nat) → Reader Node
  | 0 => throw .malformed
  | fuel + 1 => do
    count
    let key ←
      if ← isNext [.value, .flowEntry, .flowSequenceEnd] then
        skip
        nothing
      else node fuel false false
    let value ←
      if ← take .value then flowNode fuel [.flowEntry, .flowSequenceEnd] else nothing
    count
    return .mapping [(key, value)]

/-- Reads the entries of a flow mapping. -/
def flowEntries : (fuel : Nat) → (isFirst : Bool) → Reader (List (Node × Node))
  | 0, _ => throw .malformed
  | fuel + 1, isFirst => do
    if ← take .flowMappingEnd then
      count
      return []
    if !isFirst && !(← take .flowEntry) then throw .malformed
    if ← take .flowMappingEnd then
      count
      return []
    let entry ←
      if ← take .key then
        let key ← flowNode fuel [.value, .flowEntry, .flowMappingEnd]
        let value ←
          if ← take .value then flowNode fuel [.flowEntry, .flowMappingEnd] else nothing
        pure (key, value)
      else
        let key ← node fuel false false
        pure (key, ← nothing)
    return entry :: (← flowEntries fuel false)

end

/-- Reads the directives of a document. -/
def directives : (fuel : Nat) → (hasVersion : Bool) → (handles : List String) →
    Reader (List String)
  | 0, _, _ => throw .malformed
  | fuel + 1, hasVersion, handles => do
    match ← peek with
    | some (.directive (.version major minor)) =>
      if hasVersion || major ≠ 1 || (minor ≠ 1 && minor ≠ 2) then throw .malformed
      skip
      directives fuel true handles
    | some (.directive (.tag handle)) =>
      if handles.contains handle then throw .malformed
      skip
      directives fuel hasVersion (handle :: handles)
    | _ => return handles

/-- Drops the markers of a document's end. -/
def skipEnds : (fuel : Nat) → Reader Unit
  | 0 => pure ()
  | fuel + 1 => do
    if ← take .documentEnd then skipEnds fuel

/-- Reads the root of a document with a marker of its start. -/
def explicitRoot (fuel : Nat) : Reader Node := do
  let handles ← directives fuel false []
  if !(← take .documentStart) then throw .malformed
  modify fun r => { r with handles := r.handles ++ handles }
  match ← peek with
  | none | some (.directive _) | some .documentStart | some .documentEnd => nothing
  | _ => node fuel true false

/-- Reads the root of a document. -/
def root (fuel : Nat) : Reader Node := do
  match ← peek with
  | some (.directive _) | some .documentStart => explicitRoot fuel
  | _ => node fuel true false

/-- Reads the only document of a stream; one without any is empty. -/
def document (fuel : Nat) : Reader Document := do
  if (← peek).isNone then return {}
  let root ← root fuel
  skipEnds fuel
  match ← peek with
  | some .documentStart => throw .severalDocuments
  | some _ => throw .malformed
  | none =>
    let r ← get
    let numbers := (r.starts.map (·.1)).eraseDups
    return { root, size := r.size, marked := numbers.filterMap fun number =>
      (do r.nodes.lookup (← r.starts.lookup number) : Option Node).map (number, ·) }

end Reader

/-- The document that a text holds. -/
def ofText (text : String) : Except Fault Document :=
  match Token.ofText? text with
  | none => .error .malformed
  | some tokens =>
    ((Reader.document (4 * tokens.length + 4)).run { tokens }).map (·.1)

end Document
end Yaml
end TokenAuthority
