/-
# Which entries of the journal are shown

A filter is a list of directives with commas between them.

| directive | meaning |
| --- | --- |
| `level` | entries up to a level, from anywhere |
| `target=level` | entries up to a level, from targets that start so |
| `target` | all entries from targets that start so |

For each entry the directive with the longest target counts that fits; without any, the entry is
hidden. A filter without directives shows errors. Audit events have the target `audit`.
-/

import TokenAuthority.Journal
import TokenAuthority.Text.Blank
import TokenAuthority.Time.Rfc3339

namespace TokenAuthority

/-- The target and the level of an entry. Levels rise with the detail: 1 is for errors, 2 for
warnings, 3 for information; 4 and 5 are for more. -/
def Entry.origin : Entry → String × Nat
  | .message .error _ => ("server", 1)
  | .message .warning _ => ("server", 2)
  | .message .info _ => ("server", 3)
  | .audit _ => ("audit", 3)

/-- What an entry tells. -/
def Entry.text : Entry → String
  | .message _ text => text
  | .audit event => event.toJson.render

/-- The line that shows an entry, with the second when it was written. -/
def Entry.line (e : Entry) (time : Time.Instant) : String :=
  let second := (Time.Instant.of? time.second 0).getD time
  let level := match e.origin.2 with
    | 1 => "ERROR"
    | 2 => "WARN "
    | _ => "INFO "
  "[" ++ String.ofList (Time.Rfc3339.write second) ++ " " ++ level ++ " " ++ e.origin.1 ++ "] " ++
    e.text

/-- Shows entries from some targets up to a level. -/
structure LogDirective where
  /-- How the targets start. -/
  target : String
  level : Nat
deriving DecidableEq, Repr

/-- Which entries are shown. -/
structure LogFilter where
  directives : List LogDirective
deriving DecidableEq, Repr

namespace LogFilter

/-- The levels by their words, from none to all. -/
def levelWords : List String :=
  ["off", "error", "warn", "info", "debug", "trace"]

/-- The level that shows all. -/
def allLevels : Nat := 5

/-- The level of a word, in any case. -/
def level? (word : String) : Option Nat :=
  levelWords.findIdx? (· = Text.toLower word)

/-- A directive. -/
def directive? (text : String) : Option LogDirective :=
  match (Text.fields '=' text.toList).map String.ofList with
  | [word] =>
    match level? word with
    | some level => some ⟨"", level⟩
    | none => some ⟨word, allLevels⟩
  | [target, word] =>
    let word := Text.trim word
    if word = "" then some ⟨target, allLevels⟩ else (level? word).map (⟨target, ·⟩)
  | _ => none

/-- The filter with one more directive, which takes the place of one for the same targets. -/
def insert (f : LogFilter) (d : LogDirective) : LogFilter :=
  if f.directives.any (·.target = d.target) then
    ⟨f.directives.map fun e => if e.target = d.target then d else e⟩
  else ⟨f.directives ++ [d]⟩

/-- The filter of a text. -/
def ofText (text : String) : LogFilter :=
  let f := ((Text.splitList text).filterMap directive?).foldl insert ⟨[]⟩
  if f.directives = [] then ⟨[⟨"", 1⟩]⟩ else f

/-- The filter that is used when there is no other. -/
def standard : LogFilter :=
  ofText "info"

/-- The directive of two that has the longer target, the latter if they are equally long. -/
def longer (a : Option LogDirective) (b : LogDirective) : Option LogDirective :=
  match a with
  | none => some b
  | some a => if b.target.length < a.target.length then some a else some b

/-- Whether an entry is shown. -/
def shows (f : LogFilter) (e : Entry) : Bool :=
  let (target, level) := e.origin
  let fitting := f.directives.filter fun d => d.target.toList.isPrefixOf target.toList
  (fitting.foldl longer none).any fun d => level ≤ d.level

end LogFilter
end TokenAuthority
