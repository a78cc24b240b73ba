/-
# Scalars

| style | ends | line breaks |
| --- | --- | --- |
| plain | at an indicator, a comment, a less indented line | folded |
| single quoted | at the quote that is not doubled | folded |
| double quoted | at the quote that is not escaped | folded, unless escaped |
| literal block | at a less indented line | kept |
| folded block | at a less indented line | folded between lines that do not start with a blank |

Folding drops the blanks at the ends of lines, turns a single break into a space, and drops one of
several breaks (`fold`). Each reader returns the text of the scalar and what follows it.
-/

import TokenAuthority.Text.Digits
import TokenAuthority.Yaml.Char

namespace TokenAuthority
namespace Yaml

/-- What a run of spaces inside a scalar stands for. -/
def fold (run : List Char) : List Char :=
  match run.filter isBreak with
  | [] => run
  | ['\n'] => [' ']
  | '\n' :: breaks => breaks
  | breaks => breaks

/-- The character of a one-letter escape. -/
def escaped? : Char → Option Char
  | '0' => some '\x00'
  | 'a' => some '\x07'
  | 'b' => some '\x08'
  | 't' | '\t' => some '\t'
  | 'n' => some '\n'
  | 'v' => some '\x0b'
  | 'f' => some '\x0c'
  | 'r' => some '\r'
  | 'e' => some '\x1b'
  | ' ' => some ' '
  | '"' => some '"'
  | '/' => some '/'
  | '\\' => some '\\'
  | 'N' => some '\u0085'
  | '_' => some '\u00a0'
  | 'L' => some '\u2028'
  | 'P' => some '\u2029'
  | _ => none

/-- How many hexadecimal digits follow an escape. -/
def escapeWidth? : Char → Option Nat
  | 'x' => some 2
  | 'u' => some 4
  | 'U' => some 8
  | _ => none

/-- The character that an escape stands for, and what follows it. -/
def escape? : List Char → Option (Char × List Char)
  | [] => none
  | c :: rest =>
    match escapeWidth? c with
    | none => (escaped? c).map (·, rest)
    | some width => do
      let digits := rest.take width
      if digits.length < width then none
      else some (← Text.codePoint? (← Text.number? 16 digits), rest.drop width)

/-- Reading an escape takes something off the text. -/
theorem length_escape? {text rest : List Char} {c : Char} (h : escape? text = some (c, rest)) :
    rest.length < text.length := by
  unfold escape? at h
  split at h
  · cases h
  · split at h
    · obtain ⟨_, _, e⟩ := Option.map_eq_some_iff.1 h
      simp only [Prod.mk.injEq] at e
      simp [← e.2]
    · simp only [Option.bind_eq_bind] at h
      split at h
      · cases h
      · obtain ⟨_, _, h⟩ := Option.bind_eq_some_iff.1 h
        obtain ⟨_, _, h⟩ := Option.bind_eq_some_iff.1 h
        cases h
        simp only [List.length_drop, List.length_cons]
        omega

/-- The content of a single quoted scalar, up to its closing quote. -/
def singleQuoted : List Char → Option (List Char × List Char)
  | [] => none
  | c :: text =>
    if isSpace c then
      let run := c :: text.takeWhile isSpace
      let rest := text.dropWhile isSpace
      if run.any isBreak && columnAfter run = 0 && startsDocumentMarker rest then none
      else (singleQuoted rest).map fun (t, after) => (fold run ++ t, after)
    else if c = '\'' then
      match text with
      | '\'' :: rest => (singleQuoted rest).map fun (t, after) => ('\'' :: t, after)
      | rest => some ([], rest)
    else (singleQuoted text).map fun (t, after) => (c :: t, after)
termination_by text => text.length
decreasing_by
  · exact Nat.lt_succ_of_le (length_dropWhile_le _ _)
  · simp only [List.length_cons]; omega
  · exact Nat.lt_succ_self _

/-- The content of a double quoted scalar, up to its closing quote. -/
def doubleQuoted : List Char → Option (List Char × List Char)
  | [] => none
  | c :: text =>
    if isSpace c then
      let run := c :: text.takeWhile isSpace
      let rest := text.dropWhile isSpace
      if run.any isBreak && columnAfter run = 0 && startsDocumentMarker rest then none
      else (doubleQuoted rest).map fun (t, after) => (fold run ++ t, after)
    else if c = '"' then some ([], text)
    else if c = '\\' then
      if text.head?.any isBreak then
        let run := text.takeWhile isSpace
        let rest := text.dropWhile isSpace
        if columnAfter run = 0 && startsDocumentMarker rest then none
        else (doubleQuoted rest).map fun (t, after) => ((run.filter isBreak).drop 1 ++ t, after)
      else match _ : escape? text with
        | none => none
        | some (d, rest) => (doubleQuoted rest).map fun (t, after) => (d :: t, after)
    else (doubleQuoted text).map fun (t, after) => (c :: t, after)
termination_by text => text.length
decreasing_by
  · exact Nat.lt_succ_of_le (length_dropWhile_le _ _)
  · exact Nat.lt_succ_of_le (length_dropWhile_le _ _)
  · exact Nat.lt_succ_of_lt (length_escape? ‹_›)
  · exact Nat.lt_succ_self _

/-- A character in front of which a plain scalar ends. -/
def endsPlain (inFlow : Bool) (c : Char) (rest : List Char) : Bool :=
  (c = ':' && startsSpaced rest) || (inFlow && ",[]\x7b\x7d".toList.contains c)

/-- A colon that may not stand in a plain scalar inside a flow collection. -/
def isStrayColon (c : Char) (rest : List Char) : Bool :=
  c = ':' && rest.head?.any fun d => ",?[]\x7b\x7d".toList.contains d

/-- What a plain scalar takes without a space, and what follows. -/
def plainWord (inFlow : Bool) : List Char → Option (List Char × List Char)
  | [] => some ([], [])
  | c :: rest =>
    if isSpace c then some ([], c :: rest)
    else if inFlow && isStrayColon c rest then none
    else if endsPlain inFlow c rest then some ([], c :: rest)
    else (plainWord inFlow rest).map fun (word, after) => (c :: word, after)

/-- Whether a tab takes the place of indentation in a run of spaces; `column` counts from the last
break. -/
def hasStrayTab (indent : Nat) : Option Nat → List Char → Bool
  | _, [] => false
  | column, c :: rest =>
    if isBreak c then hasStrayTab indent (some 0) rest
    else match column with
      | none => hasStrayTab indent none rest
      | some k => (c = '\t' && k < indent) || hasStrayTab indent (some (k + 1)) rest

/-- A plain scalar, and what follows it. -/
structure Plain where
  text : List Char
  rest : List Char
  /-- Whether a line break was passed behind the scalar. -/
  endsLine : Bool

/-- Whether a plain scalar ends behind a run of spaces. -/
def endsPlainAfter (inFlow : Bool) (indent : Nat) (run rest : List Char) : Bool :=
  rest.head? = some '#' || (run.any isBreak &&
    ((!inFlow && columnAfter run < indent) || (columnAfter run = 0 && startsDocumentMarker rest)))

/-- What is left of a plain scalar behind a run of spaces. Its further lines are indented by
`indent` columns outside of flow collections. -/
def plainAfter (inFlow : Bool) (indent : Nat) :
    (fuel : Nat) → (run rest : List Char) → Option Plain
  | 0, _, _ => none
  | fuel + 1, run, rest =>
    let ending : Plain := ⟨[], rest, run.any isBreak⟩
    if endsPlainAfter inFlow indent run rest then some ending
    else match plainWord inFlow rest with
      | none => none
      | some ([], _) => some ending
      | some (word, after) =>
        let next := after.takeWhile isSpace
        if hasStrayTab indent none next then none
        else (plainAfter inFlow indent fuel next (after.dropWhile isSpace)).map fun p =>
          { p with text := fold run ++ word ++ p.text }

/-- A plain scalar at the start of a text. -/
def plain (inFlow : Bool) (indent : Nat) (text : List Char) : Option Plain :=
  plainAfter inFlow indent (text.length + 1) [] text

/-- What becomes of the breaks at the end of a block scalar. -/
inductive Chomping where
  | strip
  | clip
  | keep
deriving DecidableEq, Repr

/-- The header of a block scalar. -/
structure BlockHeader where
  chomping : Chomping := .clip
  /-- The indentation that is spelled out; 0 if none is. -/
  indentation : Nat := 0

namespace BlockHeader

/-- Reads a chomping indicator. -/
def readChomping (h : BlockHeader) : List Char → BlockHeader × List Char
  | '+' :: rest => ({ h with chomping := .keep }, rest)
  | '-' :: rest => ({ h with chomping := .strip }, rest)
  | rest => (h, rest)

/-- Reads an indentation indicator, which is not 0. -/
def readIndentation (h : BlockHeader) : List Char → Option (BlockHeader × List Char)
  | [] => some (h, [])
  | c :: rest =>
    if !c.isDigit then some (h, c :: rest)
    else if c = '0' then none
    else some ({ h with indentation := c.toNat - 48 }, rest)

/-- What follows a comment and the line break behind it, if nothing else is on the line. -/
def skipLine? (text : List Char) : Option (List Char) :=
  let rest := text.dropWhile isBlank
  let rest := if rest.head? = some '#' then rest.dropWhile (!isBreak ·) else rest
  match rest with
  | [] => some []
  | c :: rest => if isBreak c then some rest else none

/-- The header at the start of a text, and the lines that follow. -/
def read? (text : List Char) : Option (BlockHeader × List Char) := do
  let (h, rest) := readChomping {} text
  let isChomped := rest.length < text.length
  let (h, rest) ← h.readIndentation rest
  let (h, rest) := if isChomped then (h, rest)
    else if h.indentation = 0 then (h, rest) else h.readChomping rest
  return (h, ← skipLine? rest)

end BlockHeader

/-- The empty lines in front of a line of a block scalar. -/
structure BlockGap where
  breaks : List Char := []
  /-- The widest indentation of these lines and the next. -/
  width : Nat := 0
  /-- The column at which the next line goes on. -/
  column : Nat
  rest : List Char

/-- Reads empty lines up to a line that has more than `indent` spaces, or any if `indent` is 0. -/
def blockGap (indent : Nat) : (fuel : Nat) → List Char → Option BlockGap
  | 0, _ => none
  | fuel + 1, text =>
    let spaces := (text.takeWhile (· = ' ')).length
    let column := if indent = 0 then spaces else min indent spaces
    match text.drop column with
    | [] => some { width := column, column, rest := [] }
    | c :: rest =>
      if c = '\t' && (indent = 0 || column < indent) then none
      else if isBreak c then
        (blockGap indent fuel rest).map fun gap =>
          { gap with breaks := c :: gap.breaks, width := max column gap.width }
      else some { width := column, column, rest := c :: rest }

/-- The content of a block scalar from one of its lines on. -/
structure BlockContent where
  text : List Char := []
  /-- The break of the last line. -/
  final : List Char
  /-- The breaks of the empty lines behind it. -/
  trailing : List Char
  rest : List Char

/-- Reads lines that are indented by `indent` columns. `final` is the break of the line before, and
`wasBlank` tells whether that line starts with a blank. -/
def blockLines (isLiteral : Bool) (indent : Nat) :
    (fuel : Nat) → (final : List Char) → (wasBlank : Bool) → BlockGap → Option BlockContent
  | 0, _, _, _ => none
  | fuel + 1, final, wasBlank, gap =>
    if gap.column ≠ indent || gap.rest = [] then
      some { final, trailing := gap.breaks, rest := gap.rest }
    else
      let startsBlank := gap.rest.head?.any isBlank
      let joint :=
        if !isLiteral && final = ['\n'] && !wasBlank && !startsBlank then
          if gap.breaks = [] then [' '] else []
        else final
      let line := gap.rest.takeWhile (!isBreak ·)
      let after := gap.rest.dropWhile (!isBreak ·)
      match blockGap indent (after.length + 1) (after.drop 1) with
      | none => none
      | some next =>
        (blockLines isLiteral indent fuel (after.take 1) startsBlank next).map fun content =>
          { content with text := joint ++ gap.breaks ++ line ++ content.text }

/-- A block scalar behind its indicator, and what follows it. `indent` is the indentation of the
surrounding collection, if there is one. -/
def block (isLiteral : Bool) (indent : Option Nat) (text : List Char) :
    Option (List Char × List Char) := do
  let (header, lines) ← BlockHeader.read? text
  let spelled := if header.indentation = 0 then 0 else indent.getD 0 + header.indentation
  let gap ← blockGap spelled (lines.length + 1) lines
  let indentation :=
    if spelled = 0 then max gap.width (max 1 ((indent.map (· + 1)).getD 0)) else spelled
  let content ← blockLines isLiteral indentation (lines.length + 1) [] false gap
  return (match header.chomping with
    | .strip => content.text
    | .clip => content.text ++ content.final
    | .keep => content.text ++ content.final ++ content.trailing, content.rest)

end Yaml
end TokenAuthority
