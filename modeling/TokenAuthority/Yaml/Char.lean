/-
# The characters of a YAML stream

| class | characters |
| --- | --- |
| printable | tab, line breaks, and all but control characters, halves of pairs and U+FFFE, U+FFFF |
| blank | space and tab |
| break | line feed, and the separators U+2028 and U+2029 |
| space | blank or break |
| word | ASCII letters and digits, `_` and `-` |

A carriage return, with or without a line feed, and the character U+0085 are line feeds too
(`unifyBreaks`).
-/

namespace TokenAuthority
namespace Yaml

/-- Whether a character may stand in a stream. -/
def isPrintable (c : Char) : Bool :=
  c = '\t' || c = '\n' || c = '\r' || c = '\u0085' || (' ' ≤ c && c ≤ '~') ||
    ('\u00a0' ≤ c && c ≤ '\ufffd') || '\uffff' < c

/-- The text with line feeds in the place of the breaks that mean the same. -/
def unifyBreaks : List Char → List Char
  | [] => []
  | '\r' :: '\n' :: rest => '\n' :: unifyBreaks rest
  | c :: rest => (if c = '\r' || c = '\u0085' then '\n' else c) :: unifyBreaks rest

/-- A space or a tab. -/
def isBlank (c : Char) : Bool :=
  c = ' ' || c = '\t'

/-- A line break. -/
def isBreak (c : Char) : Bool :=
  c = '\n' || c = '\u2028' || c = '\u2029'

/-- A blank or a line break. -/
def isSpace (c : Char) : Bool :=
  isBlank c || isBreak c

/-- A character of the names of anchors, tags and directives. -/
def isWordChar (c : Char) : Bool :=
  c.isAlphanum || c = '_' || c = '-'

/-- Whether a text is empty or starts with a blank or a line break. -/
def startsSpaced (text : List Char) : Bool :=
  text.head?.all isSpace

/-- Whether a text starts with some character in front of a space. -/
def startsIndicator (c : Char) : List Char → Bool
  | d :: rest => d = c && startsSpaced rest
  | [] => false

/-- Whether a text starts with three times a character in front of a space. -/
def startsMarker (c : Char) : List Char → Bool
  | x :: y :: rest => x = c && y = c && startsIndicator c rest
  | _ => false

/-- Whether a line starts with the marker of a document's start or end. -/
def startsDocumentMarker (line : List Char) : Bool :=
  startsMarker '-' line || startsMarker '.' line

/-- The column behind a run of spaces that contains a break. -/
def columnAfter (run : List Char) : Nat :=
  (run.reverse.takeWhile (!isBreak ·)).length

/-- Leaving out a beginning makes no text longer. -/
theorem length_dropWhile_le (p : Char → Bool) (text : List Char) :
    (text.dropWhile p).length ≤ text.length :=
  (List.dropWhile_suffix p).length_le

/-- A place in a stream. -/
structure Place where
  index : Nat := 0
  line : Nat := 0
  column : Nat := 0
deriving DecidableEq, Repr

/-- The place behind some text. -/
def Place.after (p : Place) (text : List Char) : Place where
  index := p.index + text.length
  line := p.line + text.countP isBreak
  column := if text.any isBreak then columnAfter text else p.column + text.length

end Yaml
end TokenAuthority
