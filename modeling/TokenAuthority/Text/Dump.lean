/-
# Values written out in full

Messages that quote a whole object write it as its type's name and its fields:
`Point { x: 1, label: Some("a") }`. Texts are quoted, lists stand in brackets, maps in braces,
and what may be absent is `None` or `Some(…)`.
-/

import TokenAuthority.Text.Quoted

namespace TokenAuthority
namespace Text

/-- What a value looks like when it is written out. -/
inductive Dump where
  /-- A text that stands for itself, such as a number. -/
  | plain (text : String)
  | text (value : String)
  | list (items : List Dump)
  | absent
  /-- A value in parentheses behind a name. -/
  | wrapped (name : String) (value : Dump)
  | map (entries : List (String × Dump))
  | record (name : String) (fields : List (String × Dump))

namespace Dump

/-- A list of texts. -/
def texts (items : List String) : Dump :=
  list (items.map text)

/-- What may be absent. -/
def optional {α : Type} (f : α → Dump) : Option α → Dump
  | none => absent
  | some a => wrapped "Some" (f a)

mutual

/-- The text of a value. -/
def render : Dump → String
  | plain s => s
  | text s => quote s
  | list items => "[" ++ ", ".intercalate (renderAll items) ++ "]"
  | absent => "None"
  | wrapped name value => name ++ "(" ++ render value ++ ")"
  | map entries => "\x7b" ++ ", ".intercalate (renderEntries entries) ++ "\x7d"
  | record name fields => name ++ " \x7b " ++ ", ".intercalate (renderFields fields) ++ " \x7d"

/-- The texts of some values. -/
def renderAll : List Dump → List String
  | [] => []
  | d :: rest => render d :: renderAll rest

/-- The texts of a map's entries. -/
def renderEntries : List (String × Dump) → List String
  | [] => []
  | (k, d) :: rest => (quote k ++ ": " ++ render d) :: renderEntries rest

/-- The texts of a record's fields. -/
def renderFields : List (String × Dump) → List String
  | [] => []
  | (k, d) :: rest => (k ++ ": " ++ render d) :: renderFields rest

end

end Dump
end Text
end TokenAuthority
