/-
# The names of stored tokens

| bearer token | name of its object |
| --- | --- |
| `sha256~secret` | `sha256~` and the digest of `secret`, as Base64 for URLs |
| any other | the token itself |

`TokenName.names_apart` says that nothing else than a collision of SHA-256 gives two tokens one
object. A token keeps on which side of the table it is, so only two secrets can meet, and these meet
in the text of a digest, which is read back by `Base64Url.decode?`. For 32 bytes the text has 43
characters, of which the last stands for four bits of the digest and two bits that are zero.

A group of characters writes one number in digits of six bits (`Base64Url.number?_eq_some_iff`), so
reading and writing are both about the digits of numbers, and `Base64Url.decode?_eq_some_iff` says
that they are inverse in both directions: a text that is no one's digest is not read.
-/

import Mathlib.Data.List.Infix
import TokenAuthority.Proofs.Conduct

namespace TokenAuthority

/-! ### Reading Base64 for URLs -/

namespace Digest.Base64Url

/-- The six bits that a character stands for. -/
def value? (c : Char) : Option Nat :=
  if 'A' ≤ c ∧ c ≤ 'Z' then some (c.toNat - 0x41)
  else if 'a' ≤ c ∧ c ≤ 'z' then some (c.toNat - 0x61 + 26)
  else if '0' ≤ c ∧ c ≤ '9' then some (c.toNat - 0x30 + 52)
  else if c = '-' then some 62
  else if c = '_' then some 63
  else none

/-- The number that some characters write, the first of them its highest bits. -/
def number? (text : List Char) : Option Nat :=
  text.foldlM (fun n c => (value? c).map (n * 64 + ·)) 0

/-- The bytes of a text, if it is one of some bytes: the bits that are left over at its end are
zero. -/
def decode? : List Char → Option (List UInt8)
  | a :: b :: c :: d :: rest => do
    let n ← number? [a, b, c, d]
    let bytes ← decode? rest
    return UInt8.ofNat (n / 0x10000) :: UInt8.ofNat (n / 0x100) :: UInt8.ofNat n :: bytes
  | [a, b, c] => do
    let n ← number? [a, b, c]
    if n % 4 = 0 then some [UInt8.ofNat (n / 0x400), UInt8.ofNat (n / 4)] else none
  | [a, b] => do
    let n ← number? [a, b]
    if n % 16 = 0 then some [UInt8.ofNat (n / 16)] else none
  | [_] => none
  | [] => some []

/-- A symbol stands for its six bits. -/
theorem value?_symbol : ∀ n < 64, value? (symbol n) = some n := by
  decide

/-- Symbols are in ASCII. -/
theorem lt_of_value? {c : Char} {n : Nat} (h : value? c = some n) : c.toNat < 128 := by
  have below (last : Char) (le : c ≤ last) (ascii : last.toNat < 128) : c.toNat < 128 :=
    Nat.lt_of_le_of_lt le ascii
  unfold value? at h
  split at h
  · rename_i isUpper
    exact below 'Z' isUpper.2 (by decide)
  · split at h
    · rename_i isLower
      exact below 'z' isLower.2 (by decide)
    · split at h
      · rename_i isDigit
        exact below '9' isDigit.2 (by decide)
      · split at h
        · subst c
          decide
        · split at h
          · subst c
            decide
          · cases h

/-- A character stands for six bits if and only if it is the one that is written for them. -/
theorem value?_eq_some_iff {c : Char} {n : Nat} : value? c = some n ↔ n < 64 ∧ symbol n = c := by
  constructor
  · intro h
    have all : ∀ k < 128, ∀ n ∈ value? (Char.ofNat k), n < 64 ∧ symbol n = Char.ofNat k := by
      decide +kernel
    have read := all c.toNat (lt_of_value? h) n
    rw [c.ofNat_toNat] at read
    exact read h
  · rintro ⟨small, rfl⟩
    exact value?_symbol n small

/-- The lowest digits of a number, of six bits each. -/
def sextets : Nat → Nat → List Nat
  | 0, _ => []
  | count + 1, n => sextets count (n / 64) ++ [n % 64]

/-- A number is taken apart into as many sextets as are asked for. -/
@[simp] theorem length_sextets (count n : Nat) : (sextets count n).length = count := by
  induction count generalizing n with
  | zero => rfl
  | succ count ih => rw [sextets, List.length_append, ih, List.length_singleton]

/-- **A text writes a number if and only if its characters are those of the number's digits.** -/
theorem number?_eq_some_iff {text : List Char} {n : Nat} :
    number? text = some n ↔
      n < Nat.pow 64 text.length ∧ (sextets text.length n).map symbol = text := by
  induction text using List.reverseRecOn generalizing n with
  | nil =>
    change some 0 = some n ↔ n < 1 ∧ [] = []
    simp [eq_comm]
  | append_singleton rest c ih =>
    have length : (rest ++ [c]).length = rest.length + 1 := List.length_append
    have power : Nat.pow 64 (rest.length + 1) = Nat.pow 64 rest.length * 64 := rfl
    unfold number? at ih ⊢
    rw [List.foldlM_append, Option.bind_eq_bind, Option.bind_eq_some_iff, length, power]
    simp only [ih, List.foldlM_cons, List.foldlM_nil, Option.bind_eq_bind, Option.pure_def,
      Option.bind_eq_some_iff, Option.map_eq_some_iff, value?_eq_some_iff,
      sextets, List.map_append, List.map_singleton]
    constructor
    · rintro ⟨m, ⟨below, same⟩, _, ⟨d, ⟨small, rfl⟩, rfl⟩, ⟨⟩⟩
      have high : (m * 64 + d) / 64 = m := by omega
      have low : (m * 64 + d) % 64 = d := by omega
      exact ⟨by omega, by rw [high, low, same]⟩
    · rintro ⟨below, same⟩
      obtain ⟨same, last⟩ := List.append_inj same (by simp)
      refine ⟨n / 64, ⟨by omega, same⟩, n, ⟨n % 64, ⟨by omega, ?_⟩, by omega⟩, rfl⟩
      exact (List.cons.inj last).1

/-- A text of some length is written by the number that it writes, and this is below the power of
64. -/
theorem sextets_of_number? {text : List Char} {count n bound : Nat} (read : number? text = some n)
    (length : text.length = count) (power : Nat.pow 64 count = bound) :
    n < bound ∧ (sextets count n).map symbol = text := by
  subst length power
  exact number?_eq_some_iff.1 read

/-- A number below the power of 64 is read back from its symbols. -/
theorem number?_symbols {count n : Nat} (h : n < Nat.pow 64 count) :
    number? ((sextets count n).map symbol) = some n := by
  refine number?_eq_some_iff.2 ?_
  rw [List.length_map, length_sextets]
  exact ⟨h, rfl⟩

/-! A group of bytes is written as the digits of one number, with zero bits behind a last group that
is shorter. -/

/-- Three bytes are written by four symbols. -/
theorem encode_three (a b c : UInt8) (rest : List UInt8) :
    encode (a :: b :: c :: rest) =
      (sextets 4 (a.toNat * 0x10000 + b.toNat * 0x100 + c.toNat)).map symbol ++ encode rest := by
  have ha := a.toNat_lt
  have hb := b.toNat_lt
  have hc := c.toNat_lt
  simp only [encode, sextets, List.map_cons, List.map_nil, List.nil_append, List.cons_append,
    List.cons.injEq, and_true]
  exact ⟨congrArg symbol (by omega), congrArg symbol (by omega)⟩

/-- Two bytes at the end are written by three symbols. -/
theorem encode_two (a b : UInt8) :
    encode [a, b] = (sextets 3 ((a.toNat * 0x100 + b.toNat) * 4)).map symbol := by
  have ha := a.toNat_lt
  have hb := b.toNat_lt
  simp only [encode, sextets, List.map_cons, List.map_nil, List.nil_append, List.cons_append,
    List.cons.injEq, and_true]
  exact ⟨congrArg symbol (by omega), congrArg symbol (by omega), congrArg symbol (by omega)⟩

/-- A byte at the end is written by two symbols. -/
theorem encode_one (a : UInt8) : encode [a] = (sextets 2 (a.toNat * 16)).map symbol := by
  have ha := a.toNat_lt
  simp only [encode, sextets, List.map_cons, List.map_nil, List.nil_append, List.cons_append,
    List.cons.injEq, and_true]
  exact ⟨congrArg symbol (by omega), congrArg symbol (by omega)⟩

/-- A byte is what is left of a number by 256. -/
theorem ofNat_eq {n : Nat} {b : UInt8} (h : n % 256 = b.toNat) : UInt8.ofNat n = b := by
  rw [← UInt8.toNat_inj, UInt8.toNat_ofNat', h]

/-! The digits of a number are read as the bytes that it is made of. -/

/-- Four symbols are read as three bytes. -/
theorem decode?_four {n : Nat} (h : n < 0x1000000) (rest : List Char) :
    decode? ((sextets 4 n).map symbol ++ rest) = (decode? rest).map
      (UInt8.ofNat (n / 0x10000) :: UInt8.ofNat (n / 0x100) :: UInt8.ofNat n :: ·) := by
  change (number? ((sextets 4 n).map symbol)).bind (fun n => (decode? rest).bind fun bytes =>
    some (UInt8.ofNat (n / 0x10000) :: UInt8.ofNat (n / 0x100) :: UInt8.ofNat n :: bytes)) = _
  rw [number?_symbols h, Option.bind_some]
  cases decode? rest <;> rfl

/-- Three symbols at the end are read as two bytes, if the bits left over are zero. -/
theorem decode?_three {n : Nat} (h : n < 0x40000) (zero : n % 4 = 0) :
    decode? ((sextets 3 n).map symbol) =
      some [UInt8.ofNat (n / 0x400), UInt8.ofNat (n / 4)] := by
  change (number? ((sextets 3 n).map symbol)).bind (fun n =>
    if n % 4 = 0 then some [UInt8.ofNat (n / 0x400), UInt8.ofNat (n / 4)] else none) = _
  rw [number?_symbols h, Option.bind_some, if_pos zero]

/-- Two symbols at the end are read as one byte, if the bits left over are zero. -/
theorem decode?_two {n : Nat} (h : n < 0x1000) (zero : n % 16 = 0) :
    decode? ((sextets 2 n).map symbol) = some [UInt8.ofNat (n / 16)] := by
  change (number? ((sextets 2 n).map symbol)).bind (fun n =>
    if n % 16 = 0 then some [UInt8.ofNat (n / 16)] else none) = _
  rw [number?_symbols h, Option.bind_some, if_pos zero]

/-- Bytes are read back from how they are written. -/
theorem decode?_encode (bytes : List UInt8) : decode? (encode bytes) = some bytes := by
  induction bytes using encode.induct with
  | case1 a b c rest ih =>
    have ha := a.toNat_lt
    have hb := b.toNat_lt
    have hc := c.toNat_lt
    rw [encode_three, decode?_four (by omega), ih, Option.map_some, ofNat_eq (b := a) (by omega),
      ofNat_eq (b := b) (by omega), ofNat_eq (b := c) (by omega)]
  | case2 a b =>
    have ha := a.toNat_lt
    have hb := b.toNat_lt
    rw [encode_two, decode?_three (by omega) (by omega), ofNat_eq (b := a) (by omega),
      ofNat_eq (b := b) (by omega)]
  | case3 a =>
    have ha := a.toNat_lt
    rw [encode_one, decode?_two (by omega) (by omega), ofNat_eq (b := a) (by omega)]
  | case4 => rfl

/-- A text of bytes is how they are written. -/
theorem encode_of_decode? {text : List Char} {bytes : List UInt8} (h : decode? text = some bytes) :
    encode bytes = text := by
  induction text using decode?.induct generalizing bytes with
  | case1 a b c d rest ih =>
    obtain ⟨n, read, h⟩ := Option.bind_eq_some_iff.1 h
    obtain ⟨others, decoded, h⟩ := Option.bind_eq_some_iff.1 h
    obtain rfl := Option.some.inj h
    obtain ⟨below, written⟩ : n < 0x1000000 ∧ (sextets 4 n).map symbol = [a, b, c, d] :=
      sextets_of_number? read rfl (by decide)
    have whole : (UInt8.ofNat (n / 0x10000)).toNat * 0x10000 +
        (UInt8.ofNat (n / 0x100)).toNat * 0x100 + (UInt8.ofNat n).toNat = n := by
      simp only [UInt8.toNat_ofNat']
      omega
    rw [encode_three, whole, ih decoded]
    exact congrArg (· ++ rest) written
  | case2 a b c =>
    obtain ⟨n, read, h⟩ := Option.bind_eq_some_iff.1 h
    obtain ⟨below, written⟩ : n < 0x40000 ∧ (sextets 3 n).map symbol = [a, b, c] :=
      sextets_of_number? read rfl (by decide)
    split at h
    · obtain rfl := Option.some.inj h
      have whole : ((UInt8.ofNat (n / 0x400)).toNat * 0x100 + (UInt8.ofNat (n / 4)).toNat) * 4 =
          n := by
        simp only [UInt8.toNat_ofNat']
        omega
      rw [encode_two, whole]
      exact written
    · cases h
  | case3 a b =>
    obtain ⟨n, read, h⟩ := Option.bind_eq_some_iff.1 h
    obtain ⟨below, written⟩ : n < 0x1000 ∧ (sextets 2 n).map symbol = [a, b] :=
      sextets_of_number? read rfl (by decide)
    split at h
    · obtain rfl := Option.some.inj h
      have whole : (UInt8.ofNat (n / 16)).toNat * 16 = n := by
        simp only [UInt8.toNat_ofNat']
        omega
      rw [encode_one, whole]
      exact written
    · cases h
  | case4 c => cases h
  | case5 =>
    obtain rfl : [] = bytes := Option.some.inj h
    rfl

/-- **Exactly what is written of some bytes is read as them.** -/
theorem decode?_eq_some_iff {text : List Char} {bytes : List UInt8} :
    decode? text = some bytes ↔ encode bytes = text :=
  ⟨encode_of_decode?, fun same => same ▸ decode?_encode bytes⟩

/-- Different bytes are written differently. -/
theorem encode_injective : Function.Injective encode := fun bytes bytes' same =>
  Option.some.inj ((decode?_encode bytes).symm.trans (same ▸ decode?_encode bytes'))

/-- How many symbols some bytes are written by. -/
theorem length_encode (bytes : List UInt8) :
    (encode bytes).length = (4 * bytes.length + 2) / 3 := by
  induction bytes using encode.induct with
  | case1 a b c rest ih =>
    simp only [encode, List.length_cons, ih]
    omega
  | case2 a b => simp [encode]
  | case3 a => simp [encode]
  | case4 => rfl

/-- Bytes are written with letters and digits of ASCII, `-` and `_`. -/
def isSymbol (c : Char) : Bool :=
  c.isAlphanum || c = '-' || c = '_'

/-- Every symbol is in the alphabet. -/
theorem isSymbol_symbol : ∀ n < 64, isSymbol (symbol n) = true := by
  decide

/-- Bytes are written in the alphabet. -/
theorem all_isSymbol_encode (bytes : List UInt8) : (encode bytes).all isSymbol = true := by
  have written (count n : Nat) : ((sextets count n).map symbol).all isSymbol = true := by
    induction count generalizing n with
    | zero => rfl
    | succ count ih =>
      rw [sextets, List.map_append, List.all_append, ih]
      exact (Bool.and_true _).trans (isSymbol_symbol _ (Nat.mod_lt n (by decide)))
  induction bytes using encode.induct with
  | case1 a b c rest ih => rw [encode_three, List.all_append, written, ih]; rfl
  | case2 a b => rw [encode_two, written]
  | case3 a => rw [encode_one, written]
  | case4 => rfl

end Digest.Base64Url

/-! ### Names -/

namespace TokenName

open Digest

variable {token text text' secret secret' : String}

/-- A text behind the mark. -/
def marked (text : String) : String :=
  String.ofList mark ++ text

/-- The digest of a secret. -/
def digest (secret : String) : Vector UInt8 32 :=
  sha256 (Http.textBytes secret)

/-- A marked text is the mark and then the text. -/
theorem toList_marked (text : String) : (marked text).toList = mark ++ text.toList := by
  rw [marked, String.toList_append, String.toList_ofList]

/-- Different texts are different when they are marked. -/
theorem marked_inj : marked text = marked text' ↔ text = text' := by
  rw [← String.toList_inj, toList_marked, toList_marked, List.append_cancel_left_eq,
    String.toList_inj]

/-- A marked text begins with the mark. -/
theorem prefix_marked (text : String) : mark <+: (marked text).toList :=
  ⟨text.toList, (toList_marked text).symm⟩

/-- What begins with the mark is a marked text. -/
theorem exists_eq_marked (begins : mark <+: token.toList) : ∃ text, token = marked text := by
  obtain ⟨rest, split⟩ := begins
  refine ⟨String.ofList rest, String.toList_inj.1 ?_⟩
  rw [toList_marked, String.toList_ofList, split]

/-- A token without the mark is its own name. -/
theorem ofToken_of_unmarked (unmarked : ¬mark <+: token.toList) : ofToken token = token := by
  unfold ofToken
  cases split : mark.isPrefixOf? token.toList with
  | none => rfl
  | some secret => exact absurd ⟨secret, List.isPrefixOf?_eq_some_iff_append_eq.1 split⟩ unmarked

/-- A marked token is named by its digest. -/
theorem ofToken_marked (secret : String) :
    ofToken (marked secret) =
      marked (String.ofList (Base64Url.encode (digest secret).toList)) := by
  have split : mark.isPrefixOf? (marked secret).toList = some secret.toList :=
    List.isPrefixOf?_eq_some_iff_append_eq.2 (toList_marked secret).symm
  unfold ofToken
  rw [split]
  dsimp only
  rw [hash, String.ofList_toList, String.ofList_append]
  rfl

/-- Names have the mark exactly when their tokens do. -/
theorem prefix_ofToken_iff : mark <+: (ofToken token).toList ↔ mark <+: token.toList := by
  by_cases begins : mark <+: token.toList
  · obtain ⟨secret, rfl⟩ := exists_eq_marked begins
    rw [ofToken_marked]
    exact iff_of_true (prefix_marked _) begins
  · rw [ofToken_of_unmarked begins]

/-- **The name of a secret's object is the mark with a text from which the secret's digest is
read.** -/
theorem ofToken_marked_eq_iff :
    ofToken (marked secret) = marked text ↔
      Base64Url.decode? text.toList = some (digest secret).toList := by
  rw [ofToken_marked, marked_inj, Base64Url.decode?_eq_some_iff, ← String.toList_inj,
    String.toList_ofList]

/-- Marked tokens have one name exactly when their digests are the same. -/
theorem ofToken_marked_inj :
    ofToken (marked secret) = ofToken (marked secret') ↔ digest secret = digest secret' := by
  rw [ofToken_marked, ofToken_marked, marked_inj, String.ofList_inj]
  constructor
  · intro same
    exact Vector.toList_inj.1 (Base64Url.encode_injective same)
  · intro same
    rw [same]

/-- **Two tokens have one name if and only if they are equal, or secrets with the same digest.** -/
theorem ofToken_eq_iff {token' : String} :
    ofToken token = ofToken token' ↔ token = token' ∨ ∃ secret secret',
      token = marked secret ∧ token' = marked secret' ∧ digest secret = digest secret' := by
  constructor
  · intro same
    by_cases begins : mark <+: token.toList
    · have begins' : mark <+: token'.toList :=
        prefix_ofToken_iff.1 (same ▸ prefix_ofToken_iff.2 begins)
      obtain ⟨secret, rfl⟩ := exists_eq_marked begins
      obtain ⟨secret', rfl⟩ := exists_eq_marked begins'
      exact .inr ⟨secret, secret', rfl, rfl, ofToken_marked_inj.1 same⟩
    · have begins' : ¬mark <+: token'.toList := fun begins' =>
        begins (prefix_ofToken_iff.1 (same ▸ prefix_ofToken_iff.2 begins'))
      rw [ofToken_of_unmarked begins, ofToken_of_unmarked begins'] at same
      exact .inl same
  · rintro (rfl | ⟨secret, secret', rfl, rfl, same⟩)
    · rfl
    · exact ofToken_marked_inj.2 same

end TokenName

namespace TokenAuthenticator

/-- An authentication with a bearer token looks up the object of a name. -/
def LooksUp (bearer name : String) : Prop :=
  ∀ timeout audiences, ∃ next, (accessTokens timeout bearer audiences : Task Verdict) =
    .call (.store .accessTokens (.find name)) next

/-- A bearer token looks up the name that is made of it. -/
theorem looksUp_iff {bearer name : String} :
    LooksUp bearer name ↔ TokenName.ofToken bearer = name := by
  constructor
  · intro looksUp
    obtain ⟨next, same⟩ := looksUp none none
    rw [accessTokens_eq] at same
    injection same with call
    injection call with _ find
    injection find
  · rintro rfl timeout audiences
    exact ⟨_, accessTokens_eq timeout bearer audiences⟩

end TokenAuthenticator

namespace TokenName

open Digest TokenAuthenticator

/-- **Tokens share an object only where digests collide**: two different tokens with one name are
secrets of one digest. The name of a secret is the mark with 43 characters from which its digest is
read, and as a token it stands for its own object only if these are what their digest is written
as. -/
theorem names_apart :
    (∀ token token', ofToken token = ofToken token' ↔ token = token' ∨ ∃ secret secret',
      token = marked secret ∧ token' = marked secret' ∧ digest secret = digest secret') ∧
    (∀ token, mark <+: (ofToken token).toList ↔ mark <+: token.toList) ∧
    ∀ secret, ∃ text,
      ofToken (marked secret) = marked text ∧ (marked text).length = 50 ∧ text.length = 43 ∧
        text.toList.all Base64Url.isSymbol = true ∧
        Base64Url.decode? text.toList = some (digest secret).toList ∧
        (LooksUp (marked text) (marked text) ↔
          Base64Url.encode (digest text).toList = text.toList) := by
  refine ⟨fun token token' => ofToken_eq_iff, fun token => prefix_ofToken_iff, fun secret => ?_⟩
  let text := String.ofList (Base64Url.encode (digest secret).toList)
  have toList : text.toList = Base64Url.encode (digest secret).toList := String.toList_ofList
  have length : text.length = 43 := by
    rw [← String.length_toList, toList, Base64Url.length_encode, Vector.length_toList]
  refine ⟨text, ofToken_marked secret, ?_, length, ?_, ?_, ?_⟩
  · rw [← String.length_toList, toList_marked, List.length_append, String.length_toList, length]
    rfl
  · rw [toList]
    exact Base64Url.all_isSymbol_encode _
  · rw [toList]
    exact Base64Url.decode?_encode _
  · rw [looksUp_iff, ofToken_marked_eq_iff, Base64Url.decode?_eq_some_iff]

example : ofToken "sha256~secret" = "sha256~K7gNU3sdo-OL0wNhqoVWhr3g6s1xYv72ol_pe_Unols" := by
  decide +kernel

end TokenName
end TokenAuthority
