/-
# The paths of objects

The path of an object is that of its collection, a slash, and the object's name. A name is any text,
so it is percent-encoded there: each byte of it is written as `%` and two hexadecimal digits, or, if
the byte is a character that may stand for itself in a segment of a path, as that character.

However a name is encoded, the router takes the text for one segment, and decoding gives the name
back (`Collection.IsPathOf.route`).
-/

import Mathlib.Data.List.TakeWhile
import TokenAuthority.Http.Target
import TokenAuthority.Proofs.Agreement
import TokenAuthority.Proofs.RouteAttributes
import TokenAuthority.Proofs.WireFormat

namespace TokenAuthority

open Server (Route)

namespace Http

/-- The bytes of a string are read as the string. -/
theorem fromUTF8?_textBytes (s : String) : String.fromUTF8? ⟨(textBytes s).toArray⟩ = some s := by
  have bytes : textBytes s = s.toUTF8.data.toList := by
    change ByteArray.toList.loop s.toUTF8 0 [] = _
    rw [toList_loop, List.reverse_nil, List.nil_append, List.drop_zero]
  rw [bytes]
  exact Json.fromUTF8?_toUTF8 s

/-- Some byte is in the text of a name that is not empty. -/
theorem textBytes_ne_nil {s : String} (h : s ≠ "") : textBytes s ≠ [] := by
  intro empty
  have read := fromUTF8?_textBytes s
  rw [empty, ← show textBytes "" = [] by decide +kernel, fromUTF8?_textBytes] at read
  exact h (Option.some.inj read).symm

/-- A text of path characters is a path as a whole. -/
theorem Target.pathOf?_of_all {text : List Char} (h : ∀ c ∈ text, isPathChar c = true) :
    pathOf? text = some text := by
  have whole : text.takeWhile (fun c => c ≠ '?' && c ≠ '#') = text := by
    refine List.takeWhile_eq_self_iff.2 fun c mem => ?_
    have legal := h c mem
    simp only [Bool.and_eq_true, decide_eq_true_eq]
    constructor <;> rintro rfl <;> exact absurd legal (by decide)
  unfold pathOf?
  dsimp only
  rw [whole, List.drop_length]
  exact if_pos (by rw [List.all_eq_true.2 h]; rfl)

namespace Percent

/-- A character that may stand for itself in a segment of a path. -/
structure IsPlain (c : Char) : Prop where
  printable : IsPrintable c
  inPath : Target.isPathChar c = true
  noSlash : c ≠ '/'
  noPercent : c ≠ '%'

instance (c : Char) : Decidable (IsPlain c) :=
  decidable_of_iff (IsPrintable c ∧ Target.isPathChar c = true ∧ c ≠ '/' ∧ c ≠ '%')
    ⟨fun ⟨printable, inPath, noSlash, noPercent⟩ => ⟨printable, inPath, noSlash, noPercent⟩,
      fun ⟨printable, inPath, noSlash, noPercent⟩ => ⟨printable, inPath, noSlash, noPercent⟩⟩

/-- A text stands for bytes: each is written as a character that may stand for itself, or as `%` and
two hexadecimal digits. -/
inductive Encodes : List UInt8 → List Char → Prop where
  | nil : Encodes [] []
  | plain {c : Char} {bytes : List UInt8} {text : List Char} (plain : IsPlain c)
      (rest : Encodes bytes text) : Encodes (printableByte c :: bytes) (c :: text)
  | escaped {b : UInt8} {high low : Char} {m n : Nat} {bytes : List UInt8} {text : List Char}
      (isHigh : Text.digitValue? high = some m) (isLow : Text.digitValue? low = some n)
      (value : b.toNat = 16 * m + n) (rest : Encodes bytes text) :
      Encodes (b :: bytes) ('%' :: high :: low :: text)

/-! ### Hexadecimal digits -/

/-- Hexadecimal digits are in ASCII. -/
theorem lt_of_digitValue? {c : Char} {n : Nat} (h : Text.digitValue? c = some n) :
    c.toNat < 128 := by
  have below (first last : Char) (within : (decide (first ≤ c) && decide (c ≤ last)) = true)
      (small : last.toNat < 128) : c.toNat < 128 := by
    rw [Bool.and_eq_true, decide_eq_true_eq, decide_eq_true_eq] at within
    exact Nat.lt_of_le_of_lt within.2 small
  unfold Text.digitValue? at h
  split at h
  · rename_i isDigit
    exact below '0' '9' isDigit (by decide)
  · split at h
    · rename_i isLower
      exact below 'a' 'f' isLower (by decide)
    · split at h
      · rename_i isUpper
        exact below 'A' 'F' isUpper (by decide)
      · cases h

/-- A hexadecimal digit may stand in a segment of a path, and its byte is read as its value. -/
theorem digit?_of_digitValue? {c : Char} {n : Nat} (h : Text.digitValue? c = some n) :
    (IsPrintable c ∧ Target.isPathChar c = true ∧ c ≠ '/') ∧ n < 16 ∧
      digit? (printableByte c) = some (UInt8.ofNat n) := by
  have all : ∀ k < 128, ∀ n ∈ Text.digitValue? (Char.ofNat k),
      (IsPrintable (Char.ofNat k) ∧ Target.isPathChar (Char.ofNat k) = true ∧
        Char.ofNat k ≠ '/') ∧ n < 16 ∧
        digit? (printableByte (Char.ofNat k)) = some (UInt8.ofNat n) := by
    decide +kernel
  have named := all c.toNat (lt_of_digitValue? h) n
  rw [c.ofNat_toNat] at named
  exact named h

/-! ### Decoding -/

/-- A byte other than `%` stands for itself. -/
theorem decode_cons_of_ne {b : UInt8} (h : b ≠ 0x25) (rest : List UInt8) :
    decode (b :: rest) = b :: decode rest := by
  rw [decode]
  rintro a b' rest' same
  exact absurd same h

/-- A character that may stand for itself is not `%`. -/
theorem IsPlain.byte_ne {c : Char} (plain : IsPlain c) : printableByte c ≠ 0x25 := by
  intro same
  have number : c.toNat = '%'.toNat := by
    rw [← toNat_printableByte plain.printable.ascii, same]
    rfl
  exact plain.noPercent (Char.toNat_inj.1 number)

variable {bytes : List UInt8} {text : List Char}

/-- What is written of bytes may stand in a segment of a path. -/
theorem Encodes.legal (encodes : Encodes bytes text) :
    ∀ c ∈ text, IsPrintable c ∧ Target.isPathChar c = true ∧ c ≠ '/' := by
  induction encodes with
  | nil => exact fun _ mem => absurd mem List.not_mem_nil
  | plain plain rest ih =>
    intro d mem
    obtain rfl | mem := List.mem_cons.1 mem
    · exact ⟨plain.printable, plain.inPath, plain.noSlash⟩
    · exact ih d mem
  | escaped isHigh isLow value rest ih =>
    intro d mem
    obtain rfl | mem := List.mem_cons.1 mem
    · decide
    · obtain rfl | mem := List.mem_cons.1 mem
      · exact (digit?_of_digitValue? isHigh).1
      · obtain rfl | mem := List.mem_cons.1 mem
        · exact (digit?_of_digitValue? isLow).1
        · exact ih d mem

/-- **What is written of bytes is decoded to them.** -/
theorem Encodes.decode_eq (encodes : Encodes bytes text) :
    decode (text.map printableByte) = bytes := by
  induction encodes with
  | nil => rfl
  | plain plain rest ih => rw [List.map_cons, decode_cons_of_ne plain.byte_ne, ih]
  | @escaped b high low m n bytes text isHigh isLow value rest ih =>
    obtain ⟨-, small, readHigh⟩ := digit?_of_digitValue? isHigh
    obtain ⟨-, small', readLow⟩ := digit?_of_digitValue? isLow
    have number : UInt8.ofNat m * 16 + UInt8.ofNat n = b := by
      refine UInt8.toNat_inj.1 ?_
      rw [value, UInt8.toNat_add, UInt8.toNat_mul, UInt8.toNat_ofNat', UInt8.toNat_ofNat']
      change ((m % 256 * 16 % 256) + n % 256) % 256 = _
      omega
    change decode (0x25 :: printableByte high :: printableByte low :: text.map printableByte) = _
    rw [decode, readHigh, readLow]
    dsimp only
    rw [number, ih]

/-- A text that stands for some byte is not empty. -/
theorem Encodes.ne_nil (encodes : Encodes bytes text) (h : bytes ≠ []) : text ≠ [] := by
  cases encodes with
  | nil => exact absurd rfl h
  | plain plain rest => exact List.cons_ne_nil _ _
  | escaped isHigh isLow value rest => exact List.cons_ne_nil _ _

/-- Writing those bytes as they are that may stand for themselves is one way to encode bytes. -/
theorem encodes_encode {keep : UInt8 → Bool}
    (plain : ∀ b, keep b = true → b < 128 ∧ IsPlain (Char.ofNat b.toNat)) (bytes : List UInt8) :
    Encodes bytes (encode keep bytes) := by
  induction bytes with
  | nil => exact .nil
  | cons b rest ih =>
    unfold encode at ih ⊢
    rw [List.flatMap_cons]
    unfold encodeByte
    split
    · rename_i kept
      obtain ⟨small, plain⟩ := plain b kept
      have rest := Encodes.plain plain ih
      rwa [printableByte_ofNat small] at rest
    · have digits : ∀ n < 16, Text.digitValue? (digit n) = some n := by decide
      have bound := b.toNat_lt
      exact .escaped (digits _ (by omega)) (digits _ (by omega)) (by omega) ih

/-- The encoding of a text is decoded to it. -/
theorem Encodes.decodeText? {name : String} (encodes : Encodes (textBytes name) text) :
    decodeText? (String.ofList text) = some name := by
  have bytes := textBytes_of_ascii fun c mem => (encodes.legal c mem).1.ascii
  unfold textBytes at bytes
  unfold Percent.decodeText?
  rw [bytes, encodes.decode_eq, fromUTF8?_textBytes]

end Percent

end Http

/-! ### Routes -/

namespace Collection

/-- The path of a collection. -/
def path : Collection → String
  | accessTokens => "/apis/oauth.openshift.io/v1/oauthaccesstokens"
  | users => "/apis/user.openshift.io/v1/users"

/-- The route of an object, whose name is still encoded. -/
def objectRoute : Collection → String → Route
  | accessTokens => .accessToken
  | users => .user

/-- A path is that of the object of a name. -/
def IsPathOf (c : Collection) (name path : String) : Prop :=
  ∃ text, Http.Percent.Encodes (Http.textBytes name) text ∧
    path = c.path ++ "/" ++ String.ofList text

variable {c : Collection} {name path : String}

/-- The characters of the path of an object. -/
theorem toList_path (c : Collection) (text : List Char) :
    (c.path ++ "/" ++ String.ofList text).toList = c.path.toList ++ '/' :: text := by
  simp

/-- **The path of an object leads to it**, however its name is encoded. -/
theorem IsPathOf.route (isPath : c.IsPathOf name path) (named : name ≠ "") :
    ∃ segment, Route.ofPath path = some (c.objectRoute segment) ∧
      Http.Percent.decodeText? segment = some name := by
  obtain ⟨text, encodes, rfl⟩ := isPath
  refine ⟨String.ofList text, ?_, encodes.decodeText?⟩
  have noSlash : '/' ∉ text := fun mem => (encodes.legal _ mem).2.2 rfl
  have nonempty : String.ofList text ≠ "" := fun empty =>
    encodes.ne_nil (Http.textBytes_ne_nil named) (by simpa using congrArg String.toList empty)
  have fields : Text.fields '/' (c.path ++ "/" ++ String.ofList text).toList =
      Text.fields '/' c.path.toList ++ [text] := by
    rw [toList_path, Text.fields_append, Text.fields_of_notMem noSlash]
  unfold Route.ofPath
  rw [fields, List.map_append]
  cases c <;> exact if_neg nonempty

/-- The path of an object can be asked for, unless it is too long. -/
theorem IsPathOf.target (isPath : c.IsPathOf name path)
    (short : Text.byteLength path ≤ 65534) : Http.Target.path? path = some path := by
  obtain ⟨text, encodes, rfl⟩ := isPath
  have rooted : (c.path ++ "/" ++ String.ofList text).toList.head? = some '/' := by
    rw [toList_path]
    cases c <;> rfl
  have legal : ∀ d ∈ (c.path ++ "/" ++ String.ofList text).toList,
      Http.Target.isPathChar d = true := by
    intro d mem
    have collection : (c.path.toList ++ ['/']).all Http.Target.isPathChar = true := by
      cases c <;> decide
    rw [toList_path, ← List.singleton_append, ← List.append_assoc] at mem
    obtain mem | mem := List.mem_append.1 mem
    · exact List.all_eq_true.1 collection d mem
    · exact (encodes.legal d mem).2.1
  have other {s : String} (h : s.toList.head? ≠ some '/') :
      c.path ++ "/" ++ String.ofList text ≠ s := fun same => h (same ▸ rooted)
  unfold Http.Target.path?
  rw [if_neg (by simp [other (s := "") (by decide), short]), if_neg (other (by decide)),
    if_pos rooted, Http.Target.pathOf?_of_all legal, Option.map_some, String.ofList_toList]

end Collection

end TokenAuthority
