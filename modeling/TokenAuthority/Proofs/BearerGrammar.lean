/-
# Which header fields carry a token

A caller shows a bearer token in the first `Authorization` field. The reader of that field takes it
apart from the left; here is what it accepts, put together from its parts (`Bearer.Bears`):

| part | what it is |
| --- | --- |
| blanks | spaces and tabs, perhaps none |
| scheme | `bearer`, in any case |
| one space | |
| rest | the token, with blanks around it that are no part of it |

All bytes are tabs or printable characters of ASCII. Reader and grammar agree
(`Bearer.token?_eq_some_iff`), so a field carries one token at most. A caller whose field carries
the empty token has shown a bad credential, and one whose field carries none has shown no credential
(`RequestAuthenticator.bearer_grammar`).
-/

import Mathlib.Data.List.DropRight
import TokenAuthority.Proofs.Agreement

namespace TokenAuthority

open Http (Header)

/-! ### What stripping leaves -/

namespace Text

variable {α : Type} {p : α → Bool} {s core : List α}

/-- A list with all that is to be dropped from its ends is another one. -/
structure IsCore (p : α → Bool) (s core : List α) : Prop where
  surrounded : ∃ left right, s = left ++ core ++ right ∧ (∀ a ∈ left, p a = true) ∧
    ∀ a ∈ right, p a = true
  first : ∀ a ∈ core.head?, p a = false
  last : ∀ a ∈ core.getLast?, p a = false

/-- What is to be dropped at the front makes no difference. -/
theorem strip_append_left {left : List α} (dropped : ∀ a ∈ left, p a = true) (s : List α) :
    strip p (left ++ s) = strip p s := by
  unfold strip
  rw [List.dropWhile_append_of_pos dropped]

/-- What is to be dropped at the back makes no difference. -/
theorem strip_append_right {right : List α} (dropped : ∀ a ∈ right, p a = true) (s : List α) :
    strip p (s ++ right) = strip p s := by
  unfold strip
  rw [List.dropWhile_append]
  split
  · rename_i empty
    rw [List.isEmpty_iff.1 empty, List.dropWhile_eq_nil_iff.2 dropped]
  · rw [List.reverse_append,
      List.dropWhile_append_of_pos fun a mem => dropped a (List.mem_reverse.1 mem)]

/-- Stripping a list leaves its core. -/
theorem IsCore.strip_eq (h : IsCore p s core) : strip p s = core := by
  obtain ⟨left, right, rfl, before, after⟩ := h.surrounded
  rw [strip_append_right after, strip_append_left before, strip_eq_self h.first h.last]

/-- What a list begins with after dropping is not to be dropped. -/
theorem head?_dropWhile_eq_false {a : α} (h : a ∈ (s.dropWhile p).head?) : p a = false := by
  have kept := List.head?_dropWhile_not p s
  rw [Option.mem_def.1 h] at kept
  exact kept

/-- What is left of a list is its core. -/
theorem isCore_strip (p : α → Bool) (s : List α) : IsCore p s (strip p s) := by
  let begun := s.dropWhile p
  have isPrefix : strip p s <+: begun := List.rdropWhile_prefix p begun
  refine ⟨⟨s.takeWhile p, begun.rtakeWhile p, ?_, fun a => List.mem_takeWhile_imp,
    fun a => List.mem_rtakeWhile_imp⟩, fun a isFirst => ?_, fun a isLast => ?_⟩
  · have both : strip p s ++ begun.rtakeWhile p = begun := List.rdropWhile_append_rtakeWhile
    rw [List.append_assoc, both, List.takeWhile_append_dropWhile]
  · obtain ⟨after, split⟩ := isPrefix
    refine head?_dropWhile_eq_false (s := s) ?_
    change a ∈ begun.head?
    rw [← split, List.head?_append, Option.mem_def.1 isFirst]
    rfl
  · refine head?_dropWhile_eq_false (s := begun.reverse) ?_
    rwa [← List.getLast?_reverse]

/-- What stripping leaves is what is left without what is to be dropped at the ends. -/
theorem strip_eq_iff : strip p s = core ↔ IsCore p s core :=
  ⟨fun same => same ▸ isCore_strip p s, IsCore.strip_eq⟩

/-- Nothing is left of a list that is all to be dropped, and of no other one. -/
theorem isCore_nil_iff : IsCore p s [] ↔ ∀ a ∈ s, p a = true := by
  constructor
  · rintro ⟨⟨left, right, rfl, before, after⟩, -, -⟩ a mem
    rw [List.append_nil] at mem
    exact (List.mem_append.1 mem).elim (before a) (after a)
  · intro dropped
    exact ⟨⟨s, [], by simp, dropped, nofun⟩, nofun, nofun⟩

end Text

/-! ### The grammar of a value -/

namespace Bearer

/-- The value of a field carries a token. -/
inductive Bears (value : List UInt8) (token : String) : Prop where
  | intro {blanks scheme rest : List Char}
      (printable : ∀ b ∈ value, b = 9 ∨ (32 ≤ b ∧ b ≤ 126))
      (form : (value.map fun b => Char.ofNat b.toNat) = blanks ++ scheme ++ ' ' :: rest)
      (blank : ∀ c ∈ blanks, isBlank c = true)
      (bearer : scheme.map Char.toLower = "bearer".toList)
      (core : Text.IsCore isBlank rest token.toList)

section Scheme

variable {scheme : List Char} (bearer : scheme.map Char.toLower = "bearer".toList)
include bearer

/-- There is no blank in the scheme. -/
theorem ne_space_of_scheme : ∀ c ∈ scheme, c ≠ ' ' := by
  rintro c mem rfl
  have isLetter : Char.toLower ' ' ∈ "bearer".toList := bearer ▸ List.mem_map_of_mem mem
  exact absurd isLetter (by decide)

/-- The scheme does not begin with a blank. -/
theorem first_of_scheme (rest : List Char) : ∀ c ∈ (scheme ++ rest).head?, isBlank c = false := by
  rintro c isFirst
  cases scheme with
  | nil => cases bearer
  | cons d others =>
    obtain rfl : d = c := Option.some.inj isFirst
    have isB : d.toLower = 'b' := (List.cons.inj bearer).1
    refine Bool.eq_false_iff.2 fun blank => ?_
    obtain rfl | rfl : d = ' ' ∨ d = '\t' := by simpa [isBlank] using blank
    · exact absurd isB (by decide)
    · exact absurd isB (by decide)

end Scheme

/-- Blanks at the front are dropped, and no more. -/
theorem dropWhile_isBlank {blanks text : List Char} (blank : ∀ c ∈ blanks, isBlank c = true)
    (first : ∀ c ∈ text.head?, isBlank c = false) :
    (blanks ++ text).dropWhile isBlank = text := by
  rw [List.dropWhile_append_of_pos blank]
  cases text with
  | nil => rfl
  | cons c rest => exact List.dropWhile_cons_of_neg (by simp [first c rfl])

/-- A value is read as a text if all of its bytes are tabs or printable in ASCII. -/
theorem printable?_eq_some_iff {value : List UInt8} {text : List Char} :
    Http.printable? value = some text ↔
      (∀ b ∈ value, b = 9 ∨ (32 ≤ b ∧ b ≤ 126)) ∧
        (value.map fun b => Char.ofNat b.toNat) = text := by
  have same (b : UInt8) : (b = 9 || (32 ≤ b && b < 127)) = true ↔ b = 9 ∨ (32 ≤ b ∧ b ≤ 126) := by
    simp only [Bool.or_eq_true, Bool.and_eq_true, decide_eq_true_eq, UInt8.le_iff_toNat_le,
      UInt8.lt_iff_toNat_lt]
    exact or_congr_right (and_congr_right fun _ => Nat.lt_succ_iff)
  unfold Http.printable?
  simp only [List.all_eq_true, same]
  split
  · rename_i legal
    exact ⟨fun read => ⟨legal, Option.some.inj read⟩, fun read => congrArg some read.2⟩
  · rename_i illegal
    exact iff_of_false nofun fun read => illegal read.1

/-- **A reader of fields reads what the grammar puts together.** -/
theorem token?_eq_some_iff {value : List UInt8} {token : String} :
    token? value = some token.toList ↔ Bears value token := by
  constructor
  · intro read
    obtain ⟨text, isText, read⟩ := Option.bind_eq_some_iff.1 read
    obtain ⟨printable, same⟩ := printable?_eq_some_iff.1 isText
    let begun := text.dropWhile isBlank
    dsimp only at read
    split at read
    · cases read
    · rename_i c rest split
      split at read
      · rename_i bearer
        have space : c = ' ' := by
          have stops := Text.head?_dropWhile_eq_false (s := begun) (p := (· ≠ ' ')) (a := c)
            (by rw [split]; rfl)
          simpa using stops
        subst space
        have parts : begun.takeWhile (· ≠ ' ') ++ ' ' :: rest = begun :=
          split ▸ List.takeWhile_append_dropWhile
        have whole : text = text.takeWhile isBlank ++ begun.takeWhile (· ≠ ' ') ++ ' ' :: rest := by
          rw [List.append_assoc, parts, List.takeWhile_append_dropWhile]
        exact ⟨printable, same.trans whole, fun c => List.mem_takeWhile_imp, bearer,
          Text.strip_eq_iff.1 (Option.some.inj read)⟩
      · cases read
  · rintro ⟨printable, form, blank, bearer, core⟩
    rename_i blanks scheme rest
    have noSpace (c : Char) (mem : c ∈ scheme) : decide (c ≠ ' ') = true :=
      decide_eq_true (ne_space_of_scheme bearer c mem)
    refine Option.bind_eq_some_iff.2 ⟨_, printable?_eq_some_iff.2 ⟨printable, rfl⟩, ?_⟩
    dsimp only
    rw [form, List.append_assoc, dropWhile_isBlank blank (first_of_scheme bearer _),
      List.dropWhile_append_of_pos noSpace, List.takeWhile_append_of_pos noSpace]
    simp only [ne_eq, not_true_eq_false, decide_false, List.dropWhile_cons_of_neg,
      List.takeWhile_cons_of_neg, List.append_nil, Bool.false_eq_true, not_false_eq_true]
    exact (if_pos bearer).trans (congrArg some core.strip_eq)

/-- No token is read from a value exactly if it carries none. -/
theorem token?_eq_none_iff {value : List UInt8} :
    token? value = none ↔ ∀ token, ¬Bears value token := by
  constructor
  · intro none token bears
    rw [← token?_eq_some_iff, none] at bears
    cases bears
  · intro nothing
    cases read : token? value with
    | none => rfl
    | some token =>
      refine absurd (token?_eq_some_iff.1 ?_) (nothing (String.ofList token))
      rw [read, String.toList_ofList]

end Bearer

/-! ### The first field -/

/-- A field is the first one with a name, whose case does not matter. -/
def Http.Header.IsFirst (headers : List Header) (name : String) (field : Header) : Prop :=
  ∃ before after, headers = before ++ field :: after ∧
    Text.toLower field.name = Text.toLower name ∧
    ∀ other ∈ before, Text.toLower other.name ≠ Text.toLower name

/-- The first field of a name is the one that is found. -/
theorem Http.Header.first?_eq_some_iff {headers : List Header} {name : String} {field : Header} :
    first? headers name = some field ↔ IsFirst headers name field := by
  unfold first? IsFirst isNamed
  rw [List.find?_eq_some_iff_append]
  constructor
  · rintro ⟨named, before, after, rfl, others⟩
    exact ⟨before, after, rfl, of_decide_eq_true named, fun other mem same =>
      by simpa [same] using others other mem⟩
  · rintro ⟨before, after, rfl, named, others⟩
    exact ⟨decide_eq_true named, before, after, rfl, fun other mem =>
      by simpa using others other mem⟩

namespace Bearer

/-- The first `Authorization` field carries a token. -/
def Carries (headers : List Header) (token : String) : Prop :=
  ∃ field, Header.IsFirst headers "Authorization" field ∧ Bears field.value token

variable {headers : List Header}

/-- The first `Authorization` field is the one that is found. -/
theorem first?_eq_some_iff {field : Header} :
    Header.first? headers fieldName = some field ↔
      Header.IsFirst headers "Authorization" field := by
  have sameName : Text.toLower fieldName = Text.toLower "Authorization" := by decide
  rw [Header.first?_eq_some_iff, Header.IsFirst, sameName]
  rfl

/-- The token that is read from some fields is the one that they carry. -/
theorem bind_token?_eq_some_iff {token : String} :
    (Header.first? headers fieldName).bind (token? ·.value) = some token.toList ↔
      Carries headers token := by
  simp only [Option.bind_eq_some_iff, first?_eq_some_iff, token?_eq_some_iff, Carries]

/-- No token is read from some fields exactly if they carry none. -/
theorem bind_token?_eq_none_iff :
    (Header.first? headers fieldName).bind (token? ·.value) = none ↔
      ∀ token, ¬Carries headers token := by
  simp only [Option.bind_eq_none_iff, first?_eq_some_iff, token?_eq_none_iff, Carries, not_exists,
    not_and]
  exact ⟨fun h token field first => h field first token,
    fun h field first token => h token field first⟩

end Bearer

namespace RequestAuthenticator

variable {m : Type → Type} [Monad m]

section Carries

variable (delegate : TokenAuthenticator m) {headers : List Header} (audiences : Option Audiences)

/-- A reader of header fields hands on the token that they carry. -/
theorem bearer_of_carries {token : String} (given : token ≠ "")
    (carries : Bearer.Carries headers token) :
    bearer delegate { headers, audiences } = delegate token audiences :=
  bearer_of_token delegate given (Bearer.bind_token?_eq_some_iff.2 carries)

/-- An empty token is refused. -/
theorem bearer_of_carries_empty (carries : Bearer.Carries headers "") :
    bearer delegate { headers, audiences } = pure (.error .invalidBearerToken) := by
  unfold bearer
  rw [Bearer.bind_token?_eq_some_iff.2 carries]
  rfl

/-- A reader of header fields that carry no token has nothing to say. -/
theorem bearer_of_not_carries (nothing : ∀ token, ¬Bearer.Carries headers token) :
    bearer delegate { headers, audiences } = pure (.ok none) := by
  unfold bearer
  rw [Bearer.bind_token?_eq_none_iff.2 nothing]

end Carries

/-- **Exactly what fits the grammar is put to the delegate.** If the first `Authorization` field
carries a token that is not empty, then the delegate is asked about it, once and with the audiences
as they are, and what it says is the result. If the field carries the empty token, that is an
error, and if it carries none, or is missing, there is nothing to say; in both cases the delegate is
not asked. No other field matters. -/
theorem bearer_grammar (delegate : TokenAuthenticator m) (headers : List Header)
    (audiences : Option Audiences) :
    (∀ token, token ≠ "" → Bearer.Carries headers token →
      bearer delegate { headers, audiences } = delegate token audiences) ∧
    (Bearer.Carries headers "" →
      bearer delegate { headers, audiences } = pure (.error .invalidBearerToken)) ∧
    ((∀ token, ¬Bearer.Carries headers token) →
      bearer delegate { headers, audiences } = pure (.ok none)) ∧
    ∀ field headers', Header.IsFirst headers "Authorization" field →
      Header.IsFirst headers' "Authorization" field →
      bearer delegate { headers := headers', audiences } =
        bearer delegate { headers, audiences } := by
  refine ⟨fun token => bearer_of_carries delegate audiences,
    bearer_of_carries_empty delegate audiences, bearer_of_not_carries delegate audiences,
    fun field headers' first first' => ?_⟩
  unfold bearer
  rw [Bearer.first?_eq_some_iff.2 first, Bearer.first?_eq_some_iff.2 first']

/-- The hypotheses of `bearer_grammar` are satisfiable: of two fields the first carries `a b`,
another one carries the empty token, and one of another scheme carries none. -/
theorem bearer_grammar_fields :
    let delegate : TokenAuthenticator Task := fun token audiences =>
      .done (.ok (some { user := .named token, audiences := audiences.getD [] }))
    let field (name value : String) : Header := ⟨name, Http.textBytes value⟩
    bearer delegate {
        headers := [field "Cookie" "x", field "AUTHORIZATION" " \tbEaReR  a b\t ",
          field "authorization" "Bearer c"]
        audiences := some ["api"] } = delegate "a b" (some ["api"]) ∧
      bearer delegate { headers := [field "authorization" "bearer \t "] } =
        pure (.error .invalidBearerToken) ∧
      bearer delegate { headers := [field "authorization" "Basic c"] } = pure (.ok none) ∧
      bearer delegate { headers := [field "Authorization" "Bearer c"] } =
        bearer delegate {
          headers := [field "Authorization" "Bearer c", field "Authorization" "Basic c"] } := by
  intro delegate field
  refine ⟨?_, ?_, ?_, ?_⟩
  · obtain ⟨asked, -⟩ := bearer_grammar delegate [field "Cookie" "x",
      field "AUTHORIZATION" " \tbEaReR  a b\t ", field "authorization" "Bearer c"] (some ["api"])
    exact asked "a b" (by decide) (Bearer.bind_token?_eq_some_iff.1 (by decide +kernel))
  · obtain ⟨-, refused, -⟩ := bearer_grammar delegate [field "authorization" "bearer \t "] none
    exact refused (Bearer.bind_token?_eq_some_iff.1 (by decide +kernel))
  · obtain ⟨-, -, silent, -⟩ := bearer_grammar delegate [field "authorization" "Basic c"] none
    exact silent (Bearer.bind_token?_eq_none_iff.1 (by decide +kernel))
  · obtain ⟨-, -, -, same⟩ := bearer_grammar delegate
      [field "Authorization" "Bearer c", field "Authorization" "Basic c"] none
    exact same _ _ ⟨[], [field "Authorization" "Basic c"], rfl, rfl, by simp⟩
      ⟨[], [], rfl, rfl, by simp⟩

end RequestAuthenticator

end TokenAuthority
