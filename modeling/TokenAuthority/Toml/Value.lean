/-
# TOML values

A table comes into being in one of four ways, and that decides who may add to it later:

| origin | written as | a header may open it | a dotted key may add to it |
| --- | --- | --- | --- |
| header | `[key]` | no | no |
| implied | `[key.other]` | once | no, but through it |
| dotted | `key.other = …` | no | yes |
| inline | `key = \x7b…\x7d` | no | no |

Floats and moments are told apart from other values, but what they are is not kept.
-/

namespace TokenAuthority
namespace Toml

/-- How a table came into being, if not inline. -/
inductive Origin where
  | header
  | implied
  | dotted
deriving DecidableEq, Repr

/-- A value. -/
inductive Value where
  | string (text : String)
  | integer (value : Int)
  | float
  | boolean (value : Bool)
  | moment
  | array (items : List Value)
  /-- An inline table; dotted keys make further ones within it. -/
  | inline (isDotted : Bool) (entries : List (String × Value))
  | table (origin : Origin) (entries : List (String × Value))
  /-- The tables of `[[key]]`, in order. -/
  | tables (items : List (List (String × Value)))
deriving Inhabited

/-- The entries of a table, in order. -/
abbrev Entries := List (String × Value)

namespace Entries

/-- Sets the value of a key in its place, or at the end. -/
def set (entries : Entries) (key : String) (value : Value) : Entries :=
  if (entries.lookup key).isSome then
    entries.map fun e => if e.1 = key then (key, value) else e
  else entries ++ [(key, value)]

/-- The entries without a key. -/
def erase (entries : Entries) (key : String) : Entries :=
  entries.filter (·.1 ≠ key)

/-- Changes the table at the end of a path, from a table of some origin. Missing tables on the way
come into being, by dotted keys or by a header. -/
def update (isDotted : Bool) (change : Origin → Entries → Option Entries) :
    List String → Origin → Entries → Option Entries
  | [], origin, entries => change origin entries
  | key :: path, _, entries =>
    match entries.lookup key with
    | none =>
      let fresh : Origin := if isDotted then .dotted else .implied
      (update isDotted change path fresh []).map fun sub => entries.set key (.table fresh sub)
    | some (.table origin sub) =>
      if isDotted && origin = .header then none
      else (update isDotted change path origin sub).map fun sub =>
        entries.set key (.table origin sub)
    | some (.tables items) =>
      (update isDotted change path .header (items.getLast?.getD [])).map fun sub =>
        entries.set key (.tables (items.dropLast ++ [sub]))
    | some _ => none

/-- Adds an entry that is new. -/
def add? (entries : Entries) (key : String) (value : Value) : Option Entries :=
  if (entries.lookup key).isSome then none else some (entries ++ [(key, value)])

/-- Adds the entry of a dotted key to a table with a header. -/
def assign (entries : Entries) (path : List String) (key : String) (value : Value) :
    Option Entries :=
  update true (fun origin entries =>
    if decide (origin = .dotted) == path.isEmpty then none else entries.add? key value)
    path .header entries

/-- Adds the entry of a dotted key to an inline table. -/
def assignInline (key : String) (value : Value) : List String → Entries → Option Entries
  | [], entries => entries.add? key value
  | first :: path, entries =>
    match entries.lookup first with
    | none => (assignInline key value path []).map fun sub => entries.set first (.inline true sub)
    | some (.inline true sub) =>
      (assignInline key value path sub).map fun sub => entries.set first (.inline true sub)
    | some _ => none

end Entries
end Toml
end TokenAuthority
