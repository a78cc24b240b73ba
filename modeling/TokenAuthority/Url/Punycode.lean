/-
# Punycode

Names in a system that knows ASCII only: the ASCII characters of a label, then, behind a hyphen,
the others as differences between code points and places, in digits of base 36. How many digits a
difference takes depends on a bias that follows the sizes of the earlier ones.
-/

namespace TokenAuthority
namespace Url
namespace Punycode

/-- The letter or digit for a value below 36. -/
def digit (n : Nat) : Char :=
  Char.ofNat (if n < 26 then 0x61 + n else 0x30 + (n - 26))

/-- The value of a letter or digit. -/
def value? (c : Char) : Option Nat :=
  if 'a' ≤ c && c ≤ 'z' then some (c.toNat - 0x61)
  else if 'A' ≤ c && c ≤ 'Z' then some (c.toNat - 0x41)
  else if c.isDigit then some (c.toNat - 0x30 + 26)
  else none

/-- The least value that does not end a number at some place. -/
def threshold (place bias : Nat) : Nat :=
  if place ≤ bias then 1 else if bias + 26 ≤ place then 26 else place - bias

/-- A threshold is positive. -/
theorem one_le_threshold (place bias : Nat) : 1 ≤ threshold place bias := by
  unfold threshold
  split
  · omega
  · split <;> omega

/-- Divides a difference until it is small, and counts the places. -/
def shrink (delta place : Nat) : Nat × Nat :=
  if 455 < delta then shrink (delta / 35) (place + 36) else (delta, place)
termination_by delta
decreasing_by exact Nat.div_lt_self (by omega) (by omega)

/-- The bias after a difference, when there are `count` characters. -/
def adapt (delta count : Nat) (isFirst : Bool) : Nat :=
  let delta := if isFirst then delta / 700 else delta / 2
  let (delta, place) := shrink (delta + delta / count) 0
  place + 36 * delta / (delta + 38)

/-- The digits of a difference. -/
def digits (bias place delta : Nat) : List Char :=
  let t := threshold place bias
  if delta < t then [digit delta]
  else digit (t + (delta - t) % (36 - t)) :: digits bias (place + 36) ((delta - t) / (36 - t))
termination_by delta
decreasing_by
  have positive := one_le_threshold place bias
  calc (delta - threshold place bias) / (36 - threshold place bias)
      ≤ delta - threshold place bias := Nat.div_le_self _ _
    _ < delta := by omega

/-- Where an encoder is. -/
structure Encoder where
  /-- The text so far. -/
  text : List Char
  delta : Nat
  bias : Nat
  /-- How many characters are written. -/
  count : Nat

/-- Passes one character on the way through a label, which writes those with the code point `n`. -/
def Encoder.pass (n basic : Nat) (e : Encoder) (c : Char) : Encoder :=
  if c.toNat < n then { e with delta := e.delta + 1 }
  else if c.toNat = n then
    { text := e.text ++ digits e.bias 36 e.delta
      delta := 0
      bias := adapt e.delta (e.count + 1) (e.count = basic)
      count := e.count + 1 }
  else e

/-- Writes all characters with some code points, in increasing order; `least` is the first code
point that may still come. -/
def encodeAll (label : List Char) (basic : Nat) : List Nat → Nat → Encoder → Encoder
  | [], _, e => e
  | n :: rest, least, e =>
    let e := label.foldl (Encoder.pass n basic)
      { e with delta := e.delta + (n - least) * (e.count + 1) }
    encodeAll label basic rest (n + 1) { e with delta := e.delta + 1 }

/-- A label in ASCII. -/
def encode (label : List Char) : List Char :=
  let ascii := label.filter (·.toNat < 0x80)
  let others := ((label.map Char.toNat).filter (0x80 ≤ ·)).eraseDups.mergeSort
  let start := if ascii.isEmpty then [] else ascii ++ ['-']
  (encodeAll label ascii.length others 0x80 ⟨start, 0, 72, ascii.length⟩).text

/-- Reads a number; the rest of the text is shorter. -/
def number? (bias place weight sum : Nat) : List Char → Option (Nat × List Char)
  | [] => none
  | c :: rest => do
    let v ← value? c
    let t := threshold place bias
    let sum := sum + v * weight
    if v < t then some (sum, rest)
    else number? bias (place + 36) (weight * (36 - t)) sum rest

/-- Reading a number takes something off the text. -/
theorem length_of_number? {bias place weight sum n : Nat} {text rest : List Char}
    (h : number? bias place weight sum text = some (n, rest)) : rest.length < text.length := by
  induction text generalizing place weight sum with
  | nil => simp [number?] at h
  | cons c tail ih =>
    cases hv : value? c with
    | none => simp [number?, hv] at h
    | some v =>
      by_cases small : v < threshold place bias
      · simp [number?, hv, small] at h
        simp [h.2]
      · simp [number?, hv, small] at h
        exact Nat.lt_succ_of_lt (ih h)

/-- Reads differences and puts their characters into their places. -/
def decodeAll (text label : List Char) (point place bias : Nat) : Option (List Char) :=
  match _h : text with
  | [] => some label
  | c :: tail =>
    match read : number? bias 36 1 0 (c :: tail) with
    | none => none
    | some (delta, rest) =>
      let count := label.length + 1
      let total := place + delta
      let n := point + total / count
      if 0x10FFFF < n || (0xD800 ≤ n && n ≤ 0xDFFF) then none
      else
        decodeAll rest (label.take (total % count) ++ Char.ofNat n :: label.drop (total % count))
          n (total % count + 1) (adapt delta count (place = 0))
termination_by text.length
decreasing_by
  have := length_of_number? read
  simpa using this

/-- The label that an ASCII text stands for. -/
def decode? (text : List Char) : Option (List Char) :=
  let last := text.reverse.takeWhile (· ≠ '-')
  let ascii := (text.reverse.drop (last.length + 1)).reverse
  decodeAll last.reverse ascii 0x80 0 72

end Punycode
end Url
end TokenAuthority
