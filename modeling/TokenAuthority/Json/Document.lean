/-
# Reading JSON text

A text is read from left to right, and what is wrong with it matters only to whoever gets that
far: a reader that wants a number and finds a string gives up before the text breaks off behind
it. `Document` therefore keeps what was read up to the first fault, and the fault in the place
where it was met.

| fault | meaning |
| --- | --- |
| `malformed` | not JSON |
| `cutShort` | the text ends too early |
| `unfit` | JSON, but not what the reader wants |

The machine takes one element of the text at a time (`Machine.step`); a stack of frames holds the
arrays and objects that are still open, so that any depth of nesting is read in one loop.

Two faults count only for a reader that wants the value, not for one that skips it: an escape for
half of a surrogate pair, and a byte that belongs to no character. A number that is cut short is
`cutShort` to the one and `malformed` to the other.
-/

import TokenAuthority.Json.Value
import TokenAuthority.Text.Glyph

namespace TokenAuthority
namespace Json

open Text (Glyph)

/-- What is wrong with a text that is read. -/
inductive Fault where
  | malformed
  | cutShort
  | unfit
deriving DecidableEq, Repr, Inhabited

/-- What a text holds, up to its first fault. -/
inductive Document where
  | null
  | bool (value : Bool)
  | number (value : Number)
  /-- A string, or why it cannot be read. -/
  | string (text : Except Fault String)
  /-- The items, and the fault that kept the array from being closed. -/
  | array (items : List Document) (ending : Option Fault)
  /-- The members, and the fault that kept the object from being closed. -/
  | object (members : List (Except Fault String × Document)) (ending : Option Fault)
  /-- The place of a value that is not there. -/
  | broken (fault : Fault)
deriving Inhabited

namespace Document

mutual

/-- The document of a text that holds just a value. -/
def ofValue : Value → Document
  | .null => null
  | .bool b => bool b
  | .number n => number n
  | .string s => string (.ok s)
  | .array items => array (ofItems items) none
  | .object members => object (ofMembers members) none

/-- Item by item. -/
def ofItems : List Value → List Document
  | [] => []
  | v :: rest => ofValue v :: ofItems rest

/-- Member by member. -/
def ofMembers : List (String × Value) → List (Except Fault String × Document)
  | [] => []
  | (k, v) :: rest => (.ok k, ofValue v) :: ofMembers rest

end

mutual

/-- The value of a document without a fault. -/
def value? : Document → Option Value
  | null => some .null
  | bool b => some (.bool b)
  | number n => some (.number n)
  | string (.ok s) => some (.string s)
  | array items none => (values? items).map .array
  | object members none => (memberValues? members).map .object
  | _ => none

/-- The values of items without a fault. -/
def values? : List Document → Option (List Value)
  | [] => some []
  | d :: rest => do return (← value? d) :: (← values? rest)

/-- The values of members without a fault. -/
def memberValues? : List (Except Fault String × Document) → Option (List (String × Value))
  | [] => some []
  | (.ok k, d) :: rest => do return (k, ← value? d) :: (← memberValues? rest)
  | (.error _, _) :: _ => none

end

end Document

/-- An array or object that is not closed yet; what it holds so far stands last first. -/
inductive Frame where
  | array (items : List Document)
  | object (members : List (Except Fault String × Document))
  /-- An object whose last key still wants its value. -/
  | member (members : List (Except Fault String × Document)) (key : Except Fault String)

/-- Closes an open array or object on account of a fault. -/
def Frame.breakOff (ending : Fault) (last : Option Document) : Frame → Document
  | .array items => .array (last.toList ++ items).reverse (some ending)
  | .object members => .object members.reverse (some ending)
  | .member members key =>
    .object ((key, last.getD (.broken ending)) :: members).reverse (some ending)

/-- A string that is being read. -/
structure Quotation where
  /-- The characters so far, last first. -/
  chars : List Char
  /-- The first fault that a reader of the string meets. -/
  fault : Option Fault
  /-- Whether a byte belongs to no character, which shows when the string is closed. -/
  stray : Bool

namespace Quotation

/-- The string before its first character. -/
def start : Quotation := ⟨[], none, false⟩

/-- One character more. -/
def push (q : Quotation) (c : Char) : Quotation := { q with chars := c :: q.chars }

/-- Notes a fault, unless there is one already. -/
def note (q : Quotation) (f : Fault) : Quotation := { q with fault := q.fault <|> some f }

/-- What a reader gets once the string is closed. -/
def close (q : Quotation) : Except Fault String :=
  match q.fault with
  | some f => .error f
  | none => if q.stray then .error .malformed else .ok (String.ofList q.chars.reverse)

end Quotation

/-- Where in a string the machine is. -/
inductive Escape where
  /-- Between characters. -/
  | plain
  /-- Behind an escape for the first half of a surrogate pair. -/
  | half (first : Nat)
  /-- Behind a backslash, and before it the first half of a pair if there was one. -/
  | backslash (first : Option Nat)
  /-- Behind `\u`: how many bytes followed, and the number that they write if all are digits. -/
  | unicode (first : Option Nat) (bytes : Nat) (value : Option Nat)

/-- Where in a number the machine is. -/
inductive Place where
  | sign
  | zero
  | whole
  | point
  | fraction
  | mark
  | markSign
  | exponent
deriving DecidableEq

/-- Whether a number may end here. -/
def Place.isComplete : Place → Bool
  | .zero | .whole | .fraction | .exponent => true
  | _ => false

/-- What the machine is about to read. -/
inductive Mode where
  /-- A value. -/
  | value
  /-- The first item of an array, or its end. -/
  | firstItem
  /-- The first key of an object, or its end. -/
  | firstKey
  /-- A key, after a comma. -/
  | nextKey
  /-- The colon after a key. -/
  | colon
  /-- A comma or the end of the innermost array or object. -/
  | delimiter
  /-- The rest of a string; `key` if it is a member's. -/
  | string (key : Bool) (text : Quotation) (escape : Escape)
  /-- The rest of a number, whose digits so far stand last first. -/
  | number (place : Place) (digits : Number)
  /-- The rest of `null`, `true` or `false`. -/
  | word (rest : List Char) (result : Document)
  /-- Blanks behind the document; `trailing` once anything else came. -/
  | finished (result : Document) (trailing : Bool)
  /-- Nothing: the text broke off. -/
  | stopped (result : Document)

/-- The machine: what it is about to read, and the open arrays and objects, innermost first. -/
structure Machine where
  mode : Mode
  stack : List Frame

namespace Machine

/-- Before the first character. -/
def start : Machine := ⟨.value, []⟩

/-- Gives up: `last` stands in the innermost array or object, and all of them end with the fault
that skipping meets. -/
def breakOff (ending : Fault) : Option Document → List Frame → Document
  | last, [] => last.getD (.broken ending)
  | last, frame :: rest => breakOff ending (some (Frame.breakOff ending last frame)) rest

/-- Stops at a fault, with what stands in its place. -/
def stop (ending : Fault) (last : Option Document) (stack : List Frame) : Machine :=
  ⟨.stopped (breakOff ending last stack), []⟩

/-- Puts a finished value where it belongs. -/
def deliver (d : Document) : List Frame → Machine
  | [] => ⟨.finished d false, []⟩
  | .array items :: rest => ⟨.delimiter, .array (d :: items) :: rest⟩
  | .object members :: rest => ⟨.delimiter, .object members :: rest⟩
  | .member members key :: rest => ⟨.delimiter, .object ((key, d) :: members) :: rest⟩

/-- JSON's blanks. -/
def isSpace (c : Char) : Bool :=
  c = ' ' || c = '\n' || c = '\t' || c = '\r'

/-- The fault of a text that goes on in a way that no value starts with. -/
def noValue (stack : List Frame) : Machine :=
  stop .malformed (some (.broken .malformed)) stack

/-- The first character of a value. -/
def openValue (stack : List Frame) (c : Char) : Machine :=
  if c = '"' then ⟨.string false .start .plain, stack⟩
  else if c = '[' then ⟨.firstItem, .array [] :: stack⟩
  else if c = '\x7b' then ⟨.firstKey, .object [] :: stack⟩
  else if c = '-' then ⟨.number .sign ⟨true, [], [], none⟩, stack⟩
  else if c = '0' then ⟨.number .zero ⟨false, ['0'], [], none⟩, stack⟩
  else if c.isDigit then ⟨.number .whole ⟨false, [c], [], none⟩, stack⟩
  else if c = 'n' then ⟨.word ['u', 'l', 'l'] .null, stack⟩
  else if c = 't' then ⟨.word ['r', 'u', 'e'] (.bool true), stack⟩
  else if c = 'f' then ⟨.word ['a', 'l', 's', 'e'] (.bool false), stack⟩
  else noValue stack

/-- Ends the innermost array or object, or goes on after a comma. -/
def delimit (c : Char) : List Frame → Machine
  | .array items :: rest =>
    if c = ',' then ⟨.value, .array items :: rest⟩
    else if c = ']' then deliver (.array items.reverse none) rest
    else stop .malformed none (.array items :: rest)
  | .object members :: rest =>
    if c = ',' then ⟨.nextKey, .object members :: rest⟩
    else if c = '\x7d' then deliver (.object members.reverse none) rest
    else stop .malformed none (.object members :: rest)
  | stack => stop .malformed none stack

/-- A string that is closed. -/
def closeString (key : Bool) (q : Quotation) (stack : List Frame) : Machine :=
  if key then
    match stack with
    | .object members :: rest => ⟨.colon, .member members q.close :: rest⟩
    | _ => stop .malformed none stack
  else deliver (.string q.close) stack

/-- A string that breaks off: a reader meets the first fault noted, or this one. -/
def stopString (key : Bool) (q : Quotation) (fault : Fault) (stack : List Frame) : Machine :=
  let met := q.fault.getD fault
  if key then
    match stack with
    | .object members :: rest => stop fault none (.member members (.error met) :: rest)
    | _ => stop fault none stack
  else stop fault (some (.broken met)) stack

/-- The character behind a backslash, other than `u`. -/
def escaped? (c : Char) : Option Char :=
  if c = '"' || c = '\\' || c = '/' then some c
  else if c = 'b' then some '\x08'
  else if c = 'f' then some '\x0c'
  else if c = 'n' then some '\n'
  else if c = 'r' then some '\r'
  else if c = 't' then some '\t'
  else none

/-- The half of a surrogate pair that comes first. -/
def isFirstHalf (n : Nat) : Bool := 0xD800 ≤ n && n ≤ 0xDBFF

/-- The half of a surrogate pair that comes second. -/
def isSecondHalf (n : Nat) : Bool := 0xDC00 ≤ n && n ≤ 0xDFFF

/-- A `\u` escape that is complete. -/
def closeEscape (q : Quotation) (first : Option Nat) (n : Nat) : Quotation × Escape :=
  match first with
  | some high =>
    if isSecondHalf n then
      (q.push (Char.ofNat (0x10000 + (high - 0xD800) * 0x400 + (n - 0xDC00))), .plain)
    else (q.note .malformed, .plain)
  | none =>
    if isFirstHalf n then (q, .half n)
    else if isSecondHalf n then (q.note .malformed, .plain)
    else (q.push (Char.ofNat n), .plain)

/-- One element inside a string, between characters. -/
def plainStep (key : Bool) (q : Quotation) (stack : List Frame) : Glyph → Machine
  | .char c =>
    if c = '"' then closeString key q stack
    else if c = '\\' then ⟨.string key q (.backslash none), stack⟩
    else if c.toNat < 0x20 then stopString key q .malformed stack
    else ⟨.string key (q.push c) .plain, stack⟩
  | .stray _ => ⟨.string key { q with stray := true } .plain, stack⟩

/-- One element inside a string. -/
def stringStep (key : Bool) (q : Quotation) (stack : List Frame) (g : Glyph) : Escape → Machine
  | .plain => plainStep key q stack g
  | .half first =>
    if g = .char '\\' then ⟨.string key q (.backslash (some first)), stack⟩
    else plainStep key (q.note .malformed) stack g
  | .backslash first =>
    match g with
    | .char c =>
      if c = 'u' then ⟨.string key q (.unicode first 0 (some 0)), stack⟩
      else
        let q := if first.isSome then q.note .malformed else q
        match escaped? c with
        | some e => ⟨.string key (q.push e) .plain, stack⟩
        | none => stopString key q .malformed stack
    | .stray _ => stopString key q .malformed stack
  | .unicode first bytes value =>
    let bytes := bytes + g.byteLength
    let value := match g with
      | .char c => value.bind fun v => (Text.digitValue? c).map (v * 16 + ·)
      | .stray _ => none
    if bytes < 4 then ⟨.string key q (.unicode first bytes value), stack⟩
    else match value with
      | some n =>
        let (q, escape) := closeEscape q first n
        ⟨.string key q escape, stack⟩
      | none => stopString key q .malformed stack

/-- A number with its digits in the order in which they are written. -/
def ordered (n : Number) : Number :=
  { n with
    whole := n.whole.reverse
    fraction := n.fraction.reverse
    exponent := n.exponent.map fun e => (e.1, e.2.reverse) }

/-- The number with one digit more in its exponent. -/
def pushExponent (n : Number) (c : Char) : Number :=
  { n with exponent := some ((n.exponent.map (·.1)).getD false,
      c :: (n.exponent.map (·.2)).getD []) }

/-- Where a number goes on with a character, if it does. -/
def numberStep (place : Place) (n : Number) (c : Char) : Option (Place × Number) :=
  match place with
  | .sign =>
    if c = '0' then some (.zero, { n with whole := ['0'] })
    else if c.isDigit then some (.whole, { n with whole := [c] })
    else none
  | .zero =>
    if c = '.' then some (.point, n)
    else if c = 'e' || c = 'E' then some (.mark, n)
    else none
  | .whole =>
    if c.isDigit then some (.whole, { n with whole := c :: n.whole })
    else if c = '.' then some (.point, n)
    else if c = 'e' || c = 'E' then some (.mark, n)
    else none
  | .point =>
    if c.isDigit then some (.fraction, { n with fraction := c :: n.fraction }) else none
  | .fraction =>
    if c.isDigit then some (.fraction, { n with fraction := c :: n.fraction })
    else if c = 'e' || c = 'E' then some (.mark, n)
    else none
  | .mark =>
    if c = '+' then some (.markSign, { n with exponent := some (false, []) })
    else if c = '-' then some (.markSign, { n with exponent := some (true, []) })
    else if c.isDigit then some (.exponent, pushExponent n c)
    else none
  | .markSign | .exponent =>
    if c.isDigit then some (.exponent, pushExponent n c) else none

/-- One character between tokens: blanks are skipped. -/
def betweenStep (mode : Mode) (stack : List Frame) (c : Char) : Machine :=
  if isSpace c then ⟨mode, stack⟩
  else match mode with
    | .value => openValue stack c
    | .firstItem =>
      match stack with
      | .array items :: rest =>
        if c = ']' then deliver (.array items.reverse none) rest else openValue stack c
      | _ => noValue stack
    | .firstKey =>
      if c = '"' then ⟨.string true .start .plain, stack⟩
      else if c = '\x7d' then delimit c stack
      else stop .malformed none stack
    | .nextKey =>
      if c = '"' then ⟨.string true .start .plain, stack⟩ else stop .malformed none stack
    | .colon =>
      if c = ':' then ⟨.value, stack⟩ else noValue stack
    | .delimiter => delimit c stack
    | .finished d _ => ⟨.finished d true, stack⟩
    | mode => ⟨mode, stack⟩

/-- A byte between tokens that belongs to no character. -/
def strayStep (mode : Mode) (stack : List Frame) : Machine :=
  match mode with
  | .value | .firstItem | .colon => noValue stack
  | .finished d _ => ⟨.finished d true, stack⟩
  | .stopped d => ⟨.stopped d, stack⟩
  | _ => stop .malformed none stack

/-- What follows a number: it ends where it may, and the next element is looked at anew. -/
def afterNumber (place : Place) (n : Number) (stack : List Frame) (g : Glyph) : Machine :=
  if place.isComplete && !(place = .zero && (match g with
      | .char c => c.isDigit
      | .stray _ => false)) then
    let m := deliver (.number (ordered n)) stack
    match g with
    | .char c => betweenStep m.mode m.stack c
    | .stray _ => strayStep m.mode m.stack
  else noValue stack

/-- One element of the text. -/
def step (m : Machine) (g : Glyph) : Machine :=
  match m.mode with
  | .stopped d => ⟨.stopped d, m.stack⟩
  | .string key q escape => stringStep key q m.stack g escape
  | .number place n =>
    match g with
    | .char c =>
      match numberStep place n c with
      | some (place, n) => ⟨.number place n, m.stack⟩
      | none => afterNumber place n m.stack g
    | .stray _ => afterNumber place n m.stack g
  | .word rest d =>
    match rest, g with
    | [c], .char c' => if c = c' then deliver d m.stack else noValue m.stack
    | c :: rest, .char c' => if c = c' then ⟨.word rest d, m.stack⟩ else noValue m.stack
    | _, _ => noValue m.stack
  | mode =>
    match g with
    | .char c => betweenStep mode m.stack c
    | .stray _ => strayStep mode m.stack

/-- The end of the text: the document, and whether something else follows it. -/
def finish (m : Machine) : Document × Bool :=
  match m.mode with
  | .finished d trailing => (d, trailing)
  | .stopped d => (d, false)
  | .value | .colon | .word _ _ =>
    (breakOff .cutShort (some (.broken .cutShort)) m.stack, false)
  | .firstItem | .firstKey | .nextKey | .delimiter => (breakOff .cutShort none m.stack, false)
  | .string key q _ =>
    match (stopString key q .cutShort m.stack).mode with
    | .stopped d => (d, false)
    | _ => (.broken .cutShort, false)
  | .number place n =>
    if place.isComplete then
      let m := deliver (.number (ordered n)) m.stack
      match m.mode with
      | .finished d trailing => (d, trailing)
      | _ => (breakOff .cutShort none m.stack, false)
    else (breakOff .malformed (some (.broken .cutShort)) m.stack, false)

end Machine

/-- The document that a text holds, and whether something else follows it. -/
def document (text : List Glyph) : Document × Bool :=
  (text.foldl Machine.step Machine.start).finish

/-- The value that a text writes, if it writes one and nothing else. -/
def value? (text : List Glyph) : Option Value :=
  match document text with
  | (d, false) => d.value?
  | (_, true) => none

end Json
end TokenAuthority
