/-
# Blank characters and comma separated lists

| operation | rule |
| --- | --- |
| `isBlank` | the code points with the Unicode property `White_Space` |
| `trim` | drops blank characters at both ends |
| `fields` | the parts of a text between the occurrences of a separator |
| `splitList` | the trimmed, non-empty parts between commas |
-/

namespace TokenAuthority
namespace Text

/-- The code points with the property `White_Space`. -/
def isBlank (c : Char) : Bool :=
  let n := c.toNat
  (0x9 ≤ n && n ≤ 0xD) || n == 0x20 || n == 0x85 || n == 0xA0 || n == 0x1680 ||
    (0x2000 ≤ n && n ≤ 0x200A) || n == 0x2028 || n == 0x2029 || n == 0x202F || n == 0x205F ||
    n == 0x3000

/-- Drops what satisfies `p` at both ends. -/
def strip {α : Type} (p : α → Bool) (s : List α) : List α :=
  ((s.dropWhile p).reverse.dropWhile p).reverse

/-- Drops blank characters at both ends. -/
def trim (s : String) : String :=
  String.ofList (strip isBlank s.toList)

/-- The parts of a list between the occurrences of a separator; there is always one part more
than there are separators. -/
def fields {α : Type} [DecidableEq α] (separator : α) : List α → List (List α)
  | [] => [[]]
  | c :: rest =>
    if c = separator then [] :: fields separator rest
    else match fields separator rest with
      | [] => [[c]]
      | part :: parts => (c :: part) :: parts

/-- There is always a part, even if it is empty. -/
theorem fields_ne_nil {α : Type} [DecidableEq α] (separator : α) (s : List α) :
    fields separator s ≠ [] := by
  cases s with
  | nil => simp [fields]
  | cons c rest => unfold fields; split <;> (try split) <;> simp

/-- The trimmed, non-empty parts between commas. -/
def splitList (s : String) : List String :=
  ((fields ',' s.toList).map fun part => String.ofList (strip isBlank part)).filter (· ≠ "")

/-- `A`–`Z` in lower case, all else as it is. -/
def toLower (s : String) : String :=
  String.ofList (s.toList.map Char.toLower)

/-- The number of bytes of a text in UTF-8. -/
def byteLength (s : String) : Nat :=
  s.utf8ByteSize

end Text
end TokenAuthority
