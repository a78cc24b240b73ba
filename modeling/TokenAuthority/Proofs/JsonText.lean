/-
# Written values are read back

The text of a value holds exactly the value's document and nothing behind it, provided that every
number in the value is an integer (`document_render`): strings may hold any characters, and arrays
and objects may be nested to any depth.

What the machine does with a text is told by its `outcome`. Each lemma takes one part off the front
of a text, whatever the machine has read before it and whatever follows: a character of a string,
the digits of a number, a value. Only a number is not over where its text is, so that what follows
a value must not go on with a number (`Follows`).
-/

import TokenAuthority.Json.Document

namespace TokenAuthority
namespace Json

open Text (Glyph)

/-- A value all of whose numbers are integers. -/
inductive Integral : Value → Prop where
  | null : Integral .null
  | bool (b : Bool) : Integral (.bool b)
  | integer (n : Int) : Integral (.integer n)
  | string (s : String) : Integral (.string s)
  | array {items : List Value} (h : ∀ v ∈ items, Integral v) : Integral (.array items)
  | object {members : List (String × Value)} (h : ∀ m ∈ members, Integral m.2) :
    Integral (.object members)

/-- A text that does not go on with a number that stands before it. -/
def Follows (rest : List Char) : Prop :=
  ∀ c ∈ rest.head?, c.isDigit = false ∧ c ≠ '.' ∧ c ≠ 'e' ∧ c ≠ 'E'

/-- A number may end the text. -/
theorem follows_nil : Follows [] := by
  rintro c ⟨⟩

/-- A comma ends a number. -/
theorem follows_comma (rest : List Char) : Follows (',' :: rest) := by
  rintro c ⟨⟩
  decide

/-- The end of an array ends a number. -/
theorem follows_bracket (rest : List Char) : Follows (']' :: rest) := by
  rintro c ⟨⟩
  decide

/-- The end of an object ends a number. -/
theorem follows_brace (rest : List Char) : Follows ('\x7d' :: rest) := by
  rintro c ⟨⟩
  decide

/-- A hexadecimal digit is read as the number that it is written for. -/
theorem digitValue?_hexDigit {n : Nat} (h : n < 16) :
    Text.digitValue? (Text.hexDigit n) = some n := by
  revert n
  decide

/-- A hexadecimal digit takes one byte. -/
theorem utf8Size_hexDigit {n : Nat} (h : n < 16) : (Text.hexDigit n).utf8Size = 1 := by
  revert n
  decide

/-- The digits of a positive number begin with one that is not zero. -/
theorem digits_of_pos {n : Nat} (h : 0 < n) : ∃ c digits, Nat.toDigits 10 n = c :: digits ∧
    c ≠ '0' ∧ c.isDigit = true ∧ ∀ d ∈ digits, d.isDigit = true := by
  induction n using Nat.strongRecOn with
  | ind n ih =>
    by_cases single : n < 10
    · have digit : ∀ n < 10, 0 < n → n.digitChar ≠ '0' ∧ n.digitChar.isDigit = true := by decide
      obtain ⟨first, isDigit⟩ := digit n single h
      exact ⟨n.digitChar, [], Nat.toDigits_of_lt_base single, first, isDigit, by simp⟩
    · obtain ⟨c, digits, eq, first, isDigit, others⟩ := ih (n / 10) (by omega) (by omega)
      refine ⟨c, digits ++ [(n % 10).digitChar], ?_, first, isDigit, ?_⟩
      · rw [Nat.toDigits_of_base_le (by decide) (by omega), eq, List.cons_append]
      · intro d isLater
        refine Nat.isDigit_of_mem_toDigits (b := 10) (n := n) (by decide) (by decide) ?_
        rw [Nat.toDigits_of_base_le (by decide) (by omega), eq]
        exact List.mem_cons_of_mem _ isLater

/-- A digit is none of the other characters. -/
theorem ne_of_isDigit {c d : Char} (isDigit : c.isDigit = true) (other : d.isDigit = false) :
    c ≠ d := by
  rintro rfl
  exact Bool.false_ne_true (other.symm.trans isDigit)

namespace Machine

/-- What the machine makes of the rest of a text. -/
def outcome (m : Machine) (text : List Char) : Document × Bool :=
  (text.foldl (fun m c => m.step (.char c)) m).finish

/-- Reading a text is reading its first character, and then the rest. -/
theorem outcome_cons (m : Machine) (c : Char) (rest : List Char) :
    m.outcome (c :: rest) = (m.step (.char c)).outcome rest := rfl

/-! ### Strings -/

section Strings

variable {key : Bool} {q : Quotation} {stack : List Frame} {rest : List Char}

/-- A letter behind a backslash stands for a character. -/
theorem outcome_escaped {c e : Char} (letter : c ≠ 'u') (h : escaped? c = some e) :
    outcome ⟨.string key q .plain, stack⟩ (['\\', c] ++ rest) =
      outcome ⟨.string key (q.push e) .plain, stack⟩ rest := by
  have second : step ⟨.string key q (.backslash none), stack⟩ (.char c) =
      ⟨.string key (q.push e) .plain, stack⟩ := by
    simp only [step, stringStep, if_neg letter, h, Option.isSome_none, Bool.false_eq_true,
      if_false]
  exact congrArg (outcome · rest) second

/-- A digit of a `\u` escape that is not the last. -/
theorem step_digit {bytes value n : Nat} (h : n < 16) (more : bytes < 3) :
    step ⟨.string key q (.unicode none bytes (some value)), stack⟩ (.char (Text.hexDigit n)) =
      ⟨.string key q (.unicode none (bytes + 1) (some (value * 16 + n))), stack⟩ := by
  have open' : bytes + 1 < 4 := by omega
  simp only [step, stringStep, Glyph.byteLength, utf8Size_hexDigit h, if_pos open',
    Option.bind_some, digitValue?_hexDigit h, Option.map_some]

/-- The last digit of a `\u` escape for a control character. -/
theorem step_lastDigit {value n : Nat} {c : Char} (h : n < 16) (eq : value * 16 + n = c.toNat)
    (control : c.toNat < 0x20) :
    step ⟨.string key q (.unicode none 3 (some value)), stack⟩ (.char (Text.hexDigit n)) =
      ⟨.string key (q.push c) .plain, stack⟩ := by
  have noFirst : isFirstHalf c.toNat = false := by
    simp only [isFirstHalf, Bool.and_eq_false_iff, decide_eq_false_iff_not]
    omega
  have noSecond : isSecondHalf c.toNat = false := by
    simp only [isSecondHalf, Bool.and_eq_false_iff, decide_eq_false_iff_not]
    omega
  simp only [step, stringStep, Glyph.byteLength, utf8Size_hexDigit h, Nat.lt_irrefl, if_false,
    Option.bind_some, digitValue?_hexDigit h, Option.map_some, eq, closeEscape, noFirst, noSecond,
    Bool.false_eq_true, Char.ofNat_toNat]

/-- A control character in a string is read back from its escape. -/
theorem outcome_control {c : Char} (control : c.toNat < 0x20) :
    outcome ⟨.string key q .plain, stack⟩
        (['\\', 'u', '0', '0', Text.hexDigit (c.toNat / 16), Text.hexDigit (c.toNat % 16)] ++
          rest) =
      outcome ⟨.string key (q.push c) .plain, stack⟩ rest := by
  have opens : (step ⟨.string key q .plain, stack⟩ (.char '\\')).step (.char 'u') =
      ⟨.string key q (.unicode none 0 (some 0)), stack⟩ := rfl
  have zero : '0' = Text.hexDigit 0 := rfl
  simp only [List.cons_append, List.nil_append, outcome_cons]
  rw [opens, zero, step_digit (by decide) (by decide), step_digit (by decide) (by decide),
    step_digit (by omega) (by decide), step_lastDigit (by omega) (by omega) control]

/-- What is written for a character stands for it. -/
theorem outcome_escapeChar (c : Char) :
    outcome ⟨.string key q .plain, stack⟩ (escapeChar c ++ rest) =
      outcome ⟨.string key (q.push c) .plain, stack⟩ rest := by
  unfold escapeChar
  -- seven characters have an escape of their own
  iterate 7
    split
    · subst c
      exact outcome_escaped (by decide) rfl
  split
  · rename_i control
    exact outcome_control control
  · rename_i noQuote noBackslash _ _ _ _ _ noControl
    have plain : step ⟨.string key q .plain, stack⟩ (.char c) =
        ⟨.string key (q.push c) .plain, stack⟩ := by
      simp only [step, stringStep, plainStep, if_neg noQuote, if_neg noBackslash, if_neg noControl]
    exact congrArg (outcome · rest) plain

/-- Characters in a string are read back from how they are written. -/
theorem outcome_escapeChars (chars : List Char) :
    outcome ⟨.string key q .plain, stack⟩ (chars.flatMap escapeChar ++ rest) =
      outcome ⟨.string key { q with chars := chars.reverse ++ q.chars } .plain, stack⟩ rest := by
  induction chars generalizing q with
  | nil => rfl
  | cons c chars ih =>
    rw [List.flatMap_cons, List.append_assoc, outcome_escapeChar, ih]
    simp [Quotation.push]

/-- The characters of a string and its closing quotation mark close the string. -/
theorem outcome_quoted (s : String) :
    outcome ⟨.string key .start .plain, stack⟩ (s.toList.flatMap escapeChar ++ '"' :: rest) =
      outcome (closeString key ⟨s.toList.reverse, none, false⟩ stack) rest := by
  rw [outcome_escapeChars, Quotation.start, List.append_nil]
  rfl

/-- A string without faults is what it is closed as. -/
theorem close_quotation (s : String) :
    Quotation.close ⟨s.toList.reverse, none, false⟩ = .ok s := by
  simp [Quotation.close]

/-- A string is read back from its text, and handed to what it is in. -/
theorem outcome_renderString (s : String) :
    outcome ⟨.value, stack⟩ (renderString s ++ rest) =
      outcome (deliver (.string (.ok s)) stack) rest := by
  rw [renderString, List.cons_append, List.cons_append, List.append_assoc]
  refine (outcome_quoted s).trans ?_
  rw [← close_quotation s]
  rfl

/-- A key is put where its value is to come. -/
theorem outcome_renderKey (k : String) (members : List (Except Fault String × Document)) :
    outcome ⟨.nextKey, .object members :: stack⟩ (renderString k ++ ':' :: rest) =
      outcome ⟨.value, .member members (.ok k) :: stack⟩ rest := by
  rw [renderString, List.cons_append, List.cons_append, List.append_assoc]
  refine (outcome_quoted k).trans ?_
  rw [← close_quotation k]
  rfl

end Strings

/-! ### Numbers -/

section Numbers

variable {n : Number} {stack : List Frame} {rest : List Char}

/-- A value that was delivered is followed by what stands between tokens. -/
theorem step_deliver (d : Document) (stack : List Frame) (c : Char) :
    (deliver d stack).step (.char c) =
      betweenStep (deliver d stack).mode (deliver d stack).stack c := by
  cases stack with
  | nil => rfl
  | cons frame rest => cases frame <;> rfl

/-- Digits of a whole number are read one after the other. -/
theorem outcome_wholeDigits {digits : List Char} (h : ∀ c ∈ digits, c.isDigit = true) :
    outcome ⟨.number .whole n, stack⟩ (digits ++ rest) =
      outcome ⟨.number .whole { n with whole := digits.reverse ++ n.whole }, stack⟩ rest := by
  induction digits generalizing n with
  | nil => rfl
  | cons c digits ih =>
    have first : step ⟨.number .whole n, stack⟩ (.char c) =
        ⟨.number .whole { n with whole := c :: n.whole }, stack⟩ := by
      simp only [step, numberStep, h c List.mem_cons_self, if_true]
    rw [List.cons_append, outcome_cons, first,
      ih fun c isLater => h c (List.mem_cons_of_mem _ isLater)]
    simp

/-- A whole number is over where the text does not go on with it. -/
theorem outcome_number {place : Place} (whole : place = .zero ∨ place = .whole)
    (follows : Follows rest) :
    outcome ⟨.number place n, stack⟩ rest = outcome (deliver (.number (ordered n)) stack) rest := by
  cases rest with
  | nil =>
    obtain rfl | rfl := whole
    all_goals
      cases stack with
      | nil => rfl
      | cons frame rest => cases frame <;> rfl
  | cons c rest =>
    obtain ⟨noDigit, noPoint, noMark, noMark'⟩ := follows c rfl
    rw [outcome_cons, outcome_cons, step_deliver]
    obtain rfl | rfl := whole
    all_goals
      simp [step, numberStep, afterNumber, Place.isComplete, noDigit, noPoint, noMark, noMark']

/-- A digit is no blank. -/
theorem isSpace_of_isDigit {c : Char} (isDigit : c.isDigit = true) : isSpace c = false := by
  simp [isSpace, ne_of_isDigit isDigit]

/-- The first digit of a number, if it is no zero. -/
theorem step_firstDigit {c : Char} (first : c ≠ '0') (isDigit : c.isDigit = true) :
    step ⟨.value, stack⟩ (.char c) = ⟨.number .whole ⟨false, [c], [], none⟩, stack⟩ := by
  simp [step, betweenStep, openValue, isSpace_of_isDigit isDigit, first, isDigit,
    ne_of_isDigit isDigit]

/-- An integer is written as its sign, if it is negative, and its decimal digits. -/
theorem renderInteger_eq (i : Int) :
    (Number.ofInt i).render = (if i < 0 then ['-'] else []) ++ Nat.toDigits 10 i.natAbs := by
  simp [Number.ofInt, Number.render]

/-- An integer is read back from its text, and handed to what it is in. -/
theorem outcome_renderInteger (i : Int) (follows : Follows rest) :
    outcome ⟨.value, stack⟩ ((Number.ofInt i).render ++ rest) =
      outcome (deliver (.number (Number.ofInt i)) stack) rest := by
  by_cases zero : i = 0
  · subst zero
    exact outcome_number (.inl rfl) follows
  · obtain ⟨c, digits, eq, first, isDigit, others⟩ := digits_of_pos (Int.natAbs_pos.2 zero)
    have last : outcome ⟨.number .whole ⟨i < 0, [c], [], none⟩, stack⟩ (digits ++ rest) =
        outcome (deliver (.number (Number.ofInt i)) stack) rest := by
      rw [outcome_wholeDigits others, outcome_number (.inr rfl) follows]
      simp [ordered, Number.ofInt, eq]
    rw [renderInteger_eq, eq, ← last]
    by_cases negative : i < 0
    · have second : step ⟨.number .sign ⟨true, [], [], none⟩, stack⟩ (.char c) =
          ⟨.number .whole ⟨true, [c], [], none⟩, stack⟩ := by
        simp only [step, numberStep, if_neg first, isDigit, if_true]
      rw [if_pos negative, decide_eq_true negative, ← second]
      rfl
    · rw [if_neg negative, decide_eq_false negative, ← step_firstDigit first isDigit]
      rfl

end Numbers

/-! ### Values -/

/-- A value's text is read as the value, wherever it stands. -/
def Delivers (v : Value) : Prop :=
  ∀ stack rest, Follows rest → outcome ⟨.value, stack⟩ (renderValue v ++ rest) =
    outcome (deliver (Document.ofValue v) stack) rest

section Values

variable {stack : List Frame} {rest : List Char}

/-- Items of an array are parted by a comma. -/
theorem renderItems_cons (v w : Value) (items : List Value) :
    renderItems (v :: w :: items) = renderValue v ++ ',' :: renderItems (w :: items) := by
  simp [renderItems]

/-- Members of an object are parted by a comma, and a key from its value by a colon. -/
theorem renderMembers_cons (m m' : String × Value) (members : List (String × Value)) :
    renderMembers (m :: m' :: members) =
      renderString m.1 ++ ':' :: renderValue m.2 ++ ',' :: renderMembers (m' :: members) := by
  simp [renderMembers]

/-- A value's text can be told from the end of an array, and does not begin with a blank. -/
theorem exists_renderValue_eq_cons {v : Value} (h : Integral v) :
    ∃ c text, renderValue v = c :: text ∧ isSpace c = false ∧ c ≠ ']' := by
  cases h with
  | null => exact ⟨_, _, rfl, by decide, by decide⟩
  | bool b => cases b <;> exact ⟨_, _, rfl, by decide, by decide⟩
  | integer n =>
    rw [Value.integer, renderValue, renderInteger_eq]
    by_cases negative : n < 0
    · rw [if_pos negative]
      exact ⟨_, _, rfl, by decide, by decide⟩
    · rw [if_neg negative]
      obtain ⟨c, digits, eq⟩ := List.exists_cons_of_ne_nil
        (Nat.toDigits_ne_nil (b := 10) (n := n.natAbs))
      have isDigit : c.isDigit = true :=
        Nat.isDigit_of_mem_toDigits (by decide) (by decide) (eq ▸ List.mem_cons_self)
      exact ⟨c, digits, eq, isSpace_of_isDigit isDigit, ne_of_isDigit isDigit rfl⟩
  | string s => exact ⟨_, _, rfl, by decide, by decide⟩
  | array => exact ⟨_, _, rfl, by decide, by decide⟩
  | object => exact ⟨_, _, rfl, by decide, by decide⟩

/-- The first item of an array is read like any other value. -/
theorem outcome_firstItem {v : Value} (h : Integral v) (items : List Value) :
    outcome ⟨.firstItem, .array [] :: stack⟩ (renderItems (v :: items) ++ rest) =
      outcome ⟨.value, .array [] :: stack⟩ (renderItems (v :: items) ++ rest) := by
  obtain ⟨c, text, eq, noSpace, noEnd⟩ := exists_renderValue_eq_cons h
  obtain ⟨text', eq'⟩ : ∃ text', renderItems (v :: items) = c :: text' := by
    cases items with
    | nil => exact ⟨text, by rw [renderItems, eq]⟩
    | cons w items => exact ⟨_, by rw [renderItems_cons, eq, List.cons_append]⟩
  rw [eq', List.cons_append, outcome_cons, outcome_cons]
  simp [step, betweenStep, noSpace, noEnd]

/-- Items that are read back one by one are read back as the rest of an array. -/
theorem outcome_renderItems {v : Value} {items : List Value} (h : ∀ w ∈ v :: items, Delivers w)
    (found : List Document) :
    outcome ⟨.value, .array found :: stack⟩ (renderItems (v :: items) ++ ']' :: rest) =
      outcome (deliver (.array (found.reverse ++ Document.ofItems (v :: items)) none) stack)
        rest := by
  induction items generalizing v found with
  | nil =>
    rw [renderItems, h v List.mem_cons_self _ _ (follows_bracket rest), Document.ofItems,
      Document.ofItems, ← List.reverse_cons]
    rfl
  | cons w items ih =>
    rw [renderItems_cons, List.append_assoc, List.cons_append,
      h v List.mem_cons_self _ _ (follows_comma _)]
    refine (ih (fun u isItem => h u (List.mem_cons_of_mem _ isItem))
      (Document.ofValue v :: found)).trans ?_
    simp [Document.ofItems]

/-- The first key of an object is read like any other key. -/
theorem outcome_firstKey (m : String × Value) (members : List (String × Value)) :
    outcome ⟨.firstKey, .object [] :: stack⟩ (renderMembers (m :: members) ++ rest) =
      outcome ⟨.nextKey, .object [] :: stack⟩ (renderMembers (m :: members) ++ rest) := by
  cases members with
  | nil => rfl
  | cons m' members =>
    rw [renderMembers_cons]
    rfl

/-- Members that are read back one by one are read back as the rest of an object. -/
theorem outcome_renderMembers {m : String × Value} {members : List (String × Value)}
    (h : ∀ m' ∈ m :: members, Delivers m'.2) (found : List (Except Fault String × Document)) :
    outcome ⟨.nextKey, .object found :: stack⟩ (renderMembers (m :: members) ++ '\x7d' :: rest) =
      outcome (deliver (.object (found.reverse ++ Document.ofMembers (m :: members)) none) stack)
        rest := by
  induction members generalizing m found with
  | nil =>
    rw [renderMembers, List.append_assoc, List.cons_append, outcome_renderKey,
      h m List.mem_cons_self _ _ (follows_brace rest), Document.ofMembers,
      Document.ofMembers, ← List.reverse_cons]
    rfl
  | cons m' members ih =>
    rw [renderMembers_cons, List.append_assoc, List.append_assoc, List.cons_append,
      List.cons_append, outcome_renderKey, h m List.mem_cons_self _ _ (follows_comma _)]
    refine (ih (fun u isItem => h u (List.mem_cons_of_mem _ isItem))
      ((.ok m.1, Document.ofValue m.2) :: found)).trans ?_
    simp [Document.ofMembers]

/-- **A value's text is read as the value.** -/
theorem delivers_of_integral {v : Value} (h : Integral v) : Delivers v := by
  induction h with
  | null => exact fun stack rest _ => rfl
  | bool b =>
    intro stack rest _
    cases b <;> rfl
  | integer n => exact fun stack rest follows => outcome_renderInteger n follows
  | string s => exact fun stack rest _ => outcome_renderString s
  | @array items integral ih =>
    intro stack rest _
    cases items with
    | nil => rfl
    | cons v items =>
      rw [renderValue, List.append_assoc, List.cons_append]
      change outcome ⟨.firstItem, .array [] :: stack⟩ _ = _
      rw [outcome_firstItem (integral v List.mem_cons_self)]
      exact outcome_renderItems ih []
  | @object members integral ih =>
    intro stack rest _
    cases members with
    | nil => rfl
    | cons m members =>
      rw [renderValue, List.append_assoc, List.cons_append]
      change outcome ⟨.firstKey, .object [] :: stack⟩ _ = _
      rw [outcome_firstKey]
      exact outcome_renderMembers ih []

end Values
end Machine

/-- **A text that was written for a value holds the value's document,** and nothing else. -/
theorem document_render {v : Value} (h : Integral v) :
    document (Glyph.ofString v.render) = (Document.ofValue v, false) := by
  have read := Machine.delivers_of_integral h [] [] follows_nil
  rw [List.append_nil] at read
  rw [document, Glyph.ofString, Value.render, String.toList_ofList, List.foldl_map]
  exact read
end Json
end TokenAuthority
