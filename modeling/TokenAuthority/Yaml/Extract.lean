/-
# What a YAML document means

| wanted | found in |
| --- | --- |
| a text | any scalar, as it is written |
| a list | a sequence, or nothing |
| a record | a mapping, an empty sequence, or nothing |

The keys of a record are texts. A key that the record does not know is passed over with its value;
one that it knows may be there only once. Aliases are followed, but no more than 100 times as often
as the document is large.
-/

import TokenAuthority.Yaml.Node

namespace TokenAuthority
namespace Yaml

/-- Programs that take values out of a document. They count the aliases that they follow. -/
abbrev Extract (α : Type) := ReaderT Document (StateT Nat (Except Fault)) α

namespace Extract

/-- Follows an alias. -/
def follow (mark : Nat) : Extract Node := do
  let document ← read
  modify (· + 1)
  if 100 * document.size < (← get) then throw .unfit
  match document.marked.lookup mark with
  | some node => return node
  | none => throw .unfit

/-- The node itself, or the one that it stands for. -/
def target : Node → Extract Node
  | .alias mark => follow mark
  | node => return node

/-- A text. -/
def text (node : Node) : Extract String := do
  match ← target node with
  | .scalar text _ => return text
  | _ => throw .unfit

/-- Whether nothing is written in the place of a node. -/
def isNothing : Node → Bool
  | .scalar text isPlain => isPlain && text = ""
  | _ => false

/-- A list. -/
def list {α : Type} (item : Node → Extract α) (node : Node) : Extract (List α) := do
  match ← target node with
  | .sequence items => items.mapM item
  | node => if isNothing node then return [] else throw .unfit

/-- A list of texts. -/
def texts : Node → Extract (List String) :=
  list text

/-- The values of a record's keys. -/
structure Fields where
  entries : List (String × Node) := []

/-- Takes up the entries of a mapping whose keys the record knows. -/
def collect (known : List String) : List (Node × Node) → Fields → Extract Fields
  | [], fields => return fields
  | (key, value) :: rest, fields => do
    let name ← text key
    if !known.contains name then collect known rest fields
    else if (fields.entries.lookup name).isSome then throw .unfit
    else collect known rest ⟨(name, value) :: fields.entries⟩

/-- A record with some keys. -/
def fields (known : List String) (node : Node) : Extract Fields := do
  match ← target node with
  | .mapping entries => collect known entries {}
  | .sequence [] => return {}
  | node => if isNothing node then return {} else throw .unfit

namespace Fields

/-- The value of a key that must be there. -/
def required {α : Type} (fields : Fields) (name : String) (value : Node → Extract α) :
    Extract α :=
  match fields.entries.lookup name with
  | some node => value node
  | none => throw .unfit

/-- The value of a key that may be missing. -/
def optional {α : Type} (fields : Fields) (name : String) (value : Node → Extract α)
    (default : α) : Extract α :=
  match fields.entries.lookup name with
  | some node => value node
  | none => return default

end Fields

/-- What a text means. -/
def ofText {α : Type} (root : Node → Extract α) (text : String) : Except Fault α := do
  let document ← Document.ofText text
  let (value, _) ← ((root document.root).run document).run 0
  return value

end Extract
end Yaml
end TokenAuthority
