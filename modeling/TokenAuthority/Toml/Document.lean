/-
# TOML documents

A document is a sequence of lines: comments, headers and entries. The entries behind a header are
those of its table; its table joins the document when the next header comes, or the end. Arrays and
inline tables are nested less than 80 deep, and keys have less than 80 parts.
-/

import TokenAuthority.Toml.Scalar

namespace TokenAuthority
namespace Toml

/-- A character of a key without quotes. -/
def isBareChar (c : Char) : Bool :=
  c.isAlphanum || c = '_' || c = '-'

/-- What nesting and keys stay below. -/
def depthBound : Nat := 80

/-- One part of a key, and what follows it. -/
def keyPart? (text : List Char) : Option (String × List Char) :=
  match lineString? text with
  | some part => some part
  | none =>
    let part := text.takeWhile isBareChar
    if part = [] then none else some (String.ofList part, text.dropWhile isBareChar)

/-- The parts of a key with dots between them, and what follows them. -/
def keyParts? : (fuel : Nat) → List Char → Option (List String × List Char)
  | 0, _ => none
  | fuel + 1, text => do
    let (part, rest) ← keyPart? (text.dropWhile isBlank)
    match rest.dropWhile isBlank with
    | '.' :: rest =>
      let (parts, rest) ← keyParts? fuel rest
      return (part :: parts, rest)
    | rest => return ([part], rest)

/-- A key: the way to its table, its last part, and what follows it. -/
def key? (text : List Char) : Option (List String × String × List Char) := do
  let (parts, rest) ← keyParts? (depthBound - 1) text
  return (parts.dropLast, ← parts.getLast?, rest)

/-- What follows a comment, if there is one. -/
def skipComment (text : List Char) : List Char :=
  if text.head? = some '#' then text.dropWhile isPrintable else text

/-- What follows blanks, line breaks and comments. -/
def skipGap : (fuel : Nat) → List Char → List Char
  | 0, text => text
  | fuel + 1, text =>
    match text with
    | [] => []
    | c :: rest =>
      if c = '#' then skipGap fuel (skipComment text)
      else if isBlank c then skipGap fuel rest
      else match afterBreak? text with
        | some rest => skipGap fuel rest
        | none => text

/-- What follows blanks, line breaks and comments. -/
def afterGap (text : List Char) : List Char :=
  skipGap (text.length + 1) text

mutual

/-- A value, and what follows it. `depth` counts the arrays and inline tables around it. -/
def value? : (fuel depth : Nat) → List Char → Option (Value × List Char)
  | 0, _, _ => none
  | fuel + 1, depth, text =>
    match text with
    | '[' :: rest =>
      if depthBound ≤ depth + 1 then none
      else (items? fuel (depth + 1) (afterGap rest)).map fun (items, rest) => (.array items, rest)
    | '\x7b' :: rest =>
      if depthBound ≤ depth + 1 then none
      else match rest.dropWhile isBlank with
        | '\x7d' :: rest => some (.inline false [], rest)
        | rest => (entries? fuel (depth + 1) [] rest).map fun (entries, rest) =>
          (.inline false entries, rest)
    | 't' :: 'r' :: 'u' :: 'e' :: rest => some (.boolean true, rest)
    | 'f' :: 'a' :: 'l' :: 's' :: 'e' :: rest => some (.boolean false, rest)
    | c :: rest =>
      if c = '"' || c = '\'' then (string? (c :: rest)).map fun (s, rest) => (.string s, rest)
      else numberOrMoment? (c :: rest)
    | [] => none

/-- The items of an array, behind the gap in front of the first, up to the closing bracket. -/
def items? : (fuel depth : Nat) → List Char → Option (List Value × List Char)
  | 0, _, _ => none
  | fuel + 1, depth, text =>
    match text with
    | ']' :: rest => some ([], rest)
    | text => do
      let (item, rest) ← value? fuel depth text
      match afterGap rest with
      | ',' :: rest =>
        let (items, rest) ← items? fuel depth (afterGap rest)
        return (item :: items, rest)
      | ']' :: rest => return ([item], rest)
      | _ => none

/-- The entries of an inline table behind some that were read, up to the closing brace. -/
def entries? : (fuel depth : Nat) → Entries → List Char → Option (Entries × List Char)
  | 0, _, _, _ => none
  | fuel + 1, depth, entries, text => do
    let (path, key, rest) ← key? text
    let (value, rest) ← value? fuel depth ((← after? '=' rest).dropWhile isBlank)
    let entries ← entries.assignInline key value path
    match rest.dropWhile isBlank with
    | ',' :: rest => entries? fuel depth entries rest
    | '\x7d' :: rest => return (entries, rest)
    | _ => none

end

/-- What follows the end of a line, if nothing but a comment is left on it. -/
def afterLine? (text : List Char) : Option (List Char) :=
  match skipComment (text.dropWhile isBlank) with
  | [] => some []
  | rest => afterBreak? rest

/-- What is known in the middle of a document. -/
structure Reading where
  /-- The tables that are complete. -/
  root : Entries := []
  /-- The entries of the table that is being read. -/
  current : Entries := []
  /-- The way to that table from the root; none for the root itself. -/
  target : Option (List String × String) := none
  /-- Whether that table is one of several of its name. -/
  isRepeated : Bool := false

namespace Reading

/-- Puts the table that is being read in its place. -/
def close (r : Reading) : Option Entries :=
  match r.target with
  | none => some r.current
  | some (path, key) =>
    Entries.update false (fun _ entries =>
      if r.isRepeated then
        match entries.lookup key with
        | some (.tables items) => some (entries.set key (.tables (items ++ [r.current])))
        | some _ => none
        | none => some (entries.set key (.tables [r.current]))
      else entries.add? key (.table .header r.current)) path .header r.root

/-- The table that a path leads to, from the entries of another. -/
def find? : List String → Entries → Option Entries
  | [], entries => some entries
  | key :: path, entries =>
    match entries.lookup key with
    | some (.table _ sub) => find? path sub
    | some (.tables items) => find? path (items.getLast?.getD [])
    | _ => none

/-- Opens a table. One that other headers implied goes on with the tables that it has. -/
def openTable (r : Reading) (path : List String) (key : String) : Option Reading := do
  let root ← r.close
  let root ← Entries.update false (fun _ entries => some entries) path .header root
  let parent ← find? path root
  match parent.lookup key with
  | none => return { root, target := some (path, key) }
  | some (.table .implied current) =>
    let root ← Entries.update false (fun _ entries => some (entries.erase key)) path .header root
    return { root, current, target := some (path, key) }
  | some _ => none

/-- Opens one of several tables of a name. -/
def openRepeated (r : Reading) (path : List String) (key : String) : Option Reading := do
  let root ← r.close
  let root ← Entries.update false (fun _ entries => match entries.lookup key with
    | none => some (entries.set key (.tables []))
    | some (.tables _) => some entries
    | some _ => none) path .header root
  return { root, target := some (path, key), isRepeated := true }

/-- Reads a header behind its first bracket. -/
def header (r : Reading) : List Char → Option (Reading × List Char)
  | '[' :: text => do
    let (path, key, rest) ← key? text
    let rest ← afterLine? (← after? ']' (← after? ']' rest))
    return (← r.openRepeated path key, rest)
  | text => do
    let (path, key, rest) ← key? text
    let rest ← afterLine? (← after? ']' rest)
    return (← r.openTable path key, rest)

/-- Reads an entry. -/
def entry (r : Reading) (text : List Char) : Option (Reading × List Char) := do
  let (path, key, rest) ← key? text
  let text := (← after? '=' rest).dropWhile isBlank
  let (value, rest) ← value? (text.length + 1) 0 text
  let rest ← afterLine? rest
  return ({ r with current := ← r.current.assign path key value }, rest)

/-- Reads all lines. -/
def lines : (fuel : Nat) → Reading → List Char → Option Entries
  | 0, _, _ => none
  | fuel + 1, r, text =>
    match text.dropWhile isBlank with
    | [] => r.close
    | '#' :: rest =>
      match afterLine? ('#' :: rest) with
      | some rest => lines fuel r rest
      | none => none
    | '[' :: rest =>
      match r.header rest with
      | some (r, rest) => lines fuel r rest
      | none => none
    | rest =>
      match afterBreak? rest with
      | some rest => lines fuel r rest
      | none =>
        match r.entry rest with
        | some (r, rest) => lines fuel r rest
        | none => none

end Reading

/-- The entries of a document. A byte order mark may stand in front of it. -/
def ofText? (text : String) : Option Entries :=
  let chars := match text.toList with
    | '\ufeff' :: rest => rest
    | chars => chars
  Reading.lines (chars.length + 1) {} chars

end Toml
end TokenAuthority
