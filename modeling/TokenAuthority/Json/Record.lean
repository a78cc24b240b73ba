/-
# Reading values of a known shape

A `Reader` takes a document to a value or to the first fault that it meets. A `Record` reads a
structure field by field: from an object, in the order of the text, or from an array of the fields
in their own order.

| rule | fault |
| --- | --- |
| a known key may stand only once | `unfit`, before its value is read |
| an unknown key is skipped with its value | |
| a missing field takes its default, if it has one | `unfit` |
| an array may not have more items than there are fields | `malformed` |

`Record` is an applicative functor, so that a structure is read by naming its fields in order:
`Point.mk <$> Record.field "x" Reader.string <*> Record.field "y" Reader.string`.
-/

import TokenAuthority.Json.Document
import TokenAuthority.KeyedMap

namespace TokenAuthority
namespace Json

/-- How a value is read from a document. -/
abbrev Reader (α : Type) := Document → Except Fault α

namespace Reader

/-- The fault of a document that is not of the kind that a reader wants. What cannot be read at all
is found out first. -/
def mismatch : Document → Fault
  | .broken f => f
  | .string (.error f) => f
  | .number n => if n.overflows then .malformed else .unfit
  | _ => .unfit

/-- Reads a string. -/
def string : Reader String
  | .string text => text
  | d => .error (mismatch d)

/-- Reads `true` or `false`. -/
def bool : Reader Bool
  | .bool b => .ok b
  | d => .error (mismatch d)

/-- Reads an integer in a range, both ends included. -/
def integer (low high : Int) : Reader Int
  | .number n =>
    match n.toInt? with
    | some i =>
      if n.overflows then .error .malformed
      else if low ≤ i && i ≤ high then .ok i
      else .error .unfit
    | none => .error (mismatch (.number n))
  | d => .error (mismatch d)

/-- Reads what `r` reads, or `null`. -/
def optional {α : Type} (r : Reader α) : Reader (Option α)
  | .null => .ok none
  | d => some <$> r d

/-- A fault, if there is one. -/
def unlessBroken {α : Type} (a : α) : Option Fault → Except Fault α
  | some f => .error f
  | none => .ok a

/-- Reads an array item by item. -/
def list {α : Type} (r : Reader α) : Reader (List α)
  | .array items ending => do unlessBroken (← items.mapM r) ending
  | d => .error (mismatch d)

/-- Reads an object of like members; of members with one key the last counts. -/
def map {α : Type} (r : Reader α) : Reader (KeyedMap α)
  | .object members ending => do
    let entries ← members.mapM fun (key, value) => do return (← key, ← r value)
    unlessBroken (KeyedMap.ofList entries) ending
  | d => .error (mismatch d)

/-- Reads a value and then makes something of it. -/
def andThen {α β : Type} (r : Reader α) (f : α → Option β) : Reader β := fun d => do
  match f (← r d) with
  | some b => .ok b
  | none => .error .unfit

end Reader

/-- How a structure is read: what to check its fields' values with, in order, and what to make of
them. -/
structure Record (α : Type) where
  fields : List (String × (Document → Except Fault Unit))
  build : (String → Option Document) → Except Fault α

namespace Record

instance : Functor Record where
  map f r := ⟨r.fields, fun find => f <$> r.build find⟩

instance : Applicative Record where
  pure a := ⟨[], fun _ => .ok a⟩
  seq f r := ⟨f.fields ++ (r ()).fields, fun find => do return (← f.build find) (← (r ()).build find)⟩

/-- The check that a reader makes. -/
def check {α : Type} (r : Reader α) : Document → Except Fault Unit := fun d => do
  let _ ← r d

/-- A field that must be there. -/
def required {α : Type} (name : String) (r : Reader α) : Record α :=
  ⟨[(name, check r)], fun find =>
    match find name with
    | some d => r d
    | none => .error .unfit⟩

/-- A field with a default. -/
def field {α : Type} (name : String) (r : Reader α) (default : α) : Record α :=
  ⟨[(name, check r)], fun find =>
    match find name with
    | some d => r d
    | none => .ok default⟩

/-- A field that may be missing or `null`. -/
def optional {α : Type} (name : String) (r : Reader α) : Record (Option α) :=
  field name (Reader.optional r) none

/-- Walks the members of an object: the known ones, each checked where it stands. -/
def collect (fields : List (String × (Document → Except Fault Unit))) :
    List (Except Fault String × Document) → List (String × Document) →
    Except Fault (List (String × Document))
  | [], found => .ok found
  | (key, value) :: rest, found => do
    let key ← key
    match fields.lookup key with
    | none => collect fields rest found
    | some check =>
      if (found.lookup key).isSome then .error .unfit
      else
        check value
        collect fields rest ((key, value) :: found)

/-- Pairs the items of an array with the fields, each checked where it stands. -/
def align : List (String × (Document → Except Fault Unit)) → List Document →
    Except Fault (List (String × Document))
  | _, [] => .ok []
  | [], _ :: _ => .error .malformed
  | (name, check) :: fields, item :: items => do
    check item
    return (name, item) :: (← align fields items)

/-- Reads the structure. -/
def read {α : Type} (r : Record α) : Reader α
  | .object members ending => do
    let found ← Reader.unlessBroken (← collect r.fields members []) ending
    r.build fun name => found.lookup name
  | .array items ending => do
    let found ← Reader.unlessBroken (← align r.fields items) ending
    r.build fun name => found.lookup name
  | d => .error (Reader.mismatch d)

end Record

/-- Reads a whole text: nothing but blanks may stand around the value. -/
def readText {α : Type} (r : Reader α) (text : List Text.Glyph) : Except Fault α := do
  let (d, trailing) := document text
  let a ← r d
  if trailing then .error .malformed else .ok a

end Json
end TokenAuthority
