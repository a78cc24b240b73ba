/-
# The token that a review carries

A review puts its token into a header field, and an authenticator of tokens that stands behind a
reader of header fields (`Reviewer.behindBearer`) gets it from there. Writer and reader are not
inverse to each other. The reader knows nothing but ASCII, and takes blanks around a token for a
part of the field (`Bearer.carries_header_iff`):

| the token under review | the authenticator |
| --- | --- |
| is ASCII, without blanks at its ends | is asked about it |
| is ASCII, with blanks at its ends | is asked about what is between them |
| consists of blanks | is not asked, and the token is invalid |
| is not ASCII | is not asked, and the review is returned as it is |

All of these tokens can stand in a header field.
-/

import TokenAuthority.Proofs.BearerGrammar
import TokenAuthority.Proofs.Chaining

namespace TokenAuthority

open Http (Header)
open Resource (TokenReview)

/-! ### Texts in header fields -/

namespace Http

/-- Texts with the same bytes are the same. -/
theorem textBytes_injective {s t : String} (same : textBytes s = textBytes t) : s = t := by
  have toList (s : String) : textBytes s = s.toUTF8.data.toList := by
    rw [textBytes, ByteArray.toList, toList_loop]
    rfl
  rw [toList, toList] at same
  exact String.toByteArray_inj.1 (ByteArray.ext (Array.toList_inj.1 same))

section Printable

variable {b : UInt8} (printable : b = 9 ∨ (32 ≤ b ∧ b ≤ 126))
include printable

/-- A byte that is a tab or printable is in ASCII. -/
theorem ascii_of_printable : b < 128 := by
  obtain rfl | ⟨-, upper⟩ := printable
  · decide
  · exact UInt8.lt_of_le_of_lt upper (by decide)

/-- A byte that is a tab or printable is that of a legible character. -/
theorem isLegible_ofNat : IsLegible (Char.ofNat b.toNat) := by
  have code := toNat_ofNat_toNat (ascii_of_printable printable)
  obtain rfl | ⟨lower, upper⟩ := printable
  · exact .inl rfl
  · refine .inr ⟨?_, ?_⟩
    · rw [code]
      exact UInt8.le_iff_toNat_le.1 lower
    · rw [code]
      exact UInt8.le_iff_toNat_le.1 upper

end Printable

/-- Exactly the texts are read whose characters are all legible. -/
theorem printable?_textBytes_eq_some_iff {s : String} {text : List Char} :
    printable? (textBytes s) = some text ↔ s.toList = text ∧ ∀ c ∈ text, IsLegible c := by
  constructor
  · intro read
    obtain ⟨printable, same⟩ := Bearer.printable?_eq_some_iff.1 read
    have legible : ∀ c ∈ text, IsLegible c := by
      rw [← same]
      intro c mem
      obtain ⟨b, isByte, rfl⟩ := List.mem_map.1 mem
      exact isLegible_ofNat (printable b isByte)
    -- a text of the same bytes is the same text
    have bytes : textBytes (String.ofList text) = textBytes s := by
      rw [textBytes_of_ascii fun c mem => (legible c mem).ascii, ← same, List.map_map]
      refine (List.map_congr_left fun b isByte => ?_).trans (List.map_id _)
      exact printableByte_ofNat (ascii_of_printable (printable b isByte))
    exact ⟨by rw [← textBytes_injective bytes, String.toList_ofList], legible⟩
  · rintro ⟨rfl, legible⟩
    have read := printable?_of_isLegible legible
    rwa [String.ofList_toList] at read

end Http

namespace Bearer

variable {token : String}

/-- The field that is written for a legible token carries the token without the blanks at its ends,
and that for another one carries none. -/
theorem bears_value_iff {carried : String} : Bears (Http.textBytes (value token)) carried ↔
    (∀ c ∈ token.toList, Http.IsLegible c) ∧
      Text.IsCore isBlank token.toList carried.toList := by
  have legible_of_bears (bears : Bears (Http.textBytes (value token)) carried) :
      ∀ c ∈ token.toList, Http.IsLegible c := by
    obtain ⟨text, read, -⟩ := Option.bind_eq_some_iff.1 (token?_eq_some_iff.2 bears)
    obtain ⟨rfl, legible⟩ := Http.printable?_textBytes_eq_some_iff.1 read
    refine fun c mem => legible c ?_
    rw [value, String.toList_append]
    exact List.mem_append_right _ mem
  have same (legible : ∀ c ∈ token.toList, Http.IsLegible c) :
      Bears (Http.textBytes (value token)) carried ↔
        Text.IsCore isBlank token.toList carried.toList := by
    rw [← token?_eq_some_iff, token?_of_isLegible legible, Option.some_inj, Text.strip_eq_iff]
  exact ⟨fun bears => ⟨legible_of_bears bears, (same (legible_of_bears bears)).1 bears⟩,
    fun h => (same h.1).2 h.2⟩

/-- A token whose characters are all in ASCII. -/
def IsAscii (token : String) : Prop :=
  ∀ c ∈ token.toList, c.toNat < 128

instance (token : String) : Decidable (IsAscii token) :=
  List.decidableBAll (fun c : Char => c.toNat < 128) token.toList

/-- Of the tokens that can stand in a header field, those are legible that are in ASCII. -/
theorem forall_isLegible_iff (legal : IsLegal token) :
    (∀ c ∈ token.toList, Http.IsLegible c) ↔ IsAscii token := by
  refine ⟨fun legible c mem => (legible c mem).ascii, fun ascii c mem => ?_⟩
  have bytes := Http.textBytes_of_ascii ascii
  rw [String.ofList_toList] at bytes
  unfold IsLegal at legal
  rw [bytes, List.all_map] at legal
  have code := Http.toNat_printableByte (ascii c mem)
  have isValue : Http.printableByte c = 9 ∨
      (32 ≤ Http.printableByte c ∧ Http.printableByte c ≠ 127) := by
    simpa [Http.isValueByte] using List.all_eq_true.1 legal c mem
  obtain isTab | ⟨lower, noDelete⟩ := isValue
  · rw [isTab] at code
    exact .inl (Char.toNat_inj.1 code.symm)
  · have bound := ascii c mem
    have notDelete : c.toNat ≠ 127 := fun same => noDelete (UInt8.toNat_inj.1 (code.trans same))
    rw [UInt8.le_iff_toNat_le, code] at lower
    refine .inr ⟨lower, ?_⟩
    change c.toNat ≤ 126
    omega

/-- **What a field carries that is made for a token.** It is the token without the blanks at its
ends if the token is in ASCII, and nothing otherwise. -/
theorem carries_header_iff (legal : IsLegal token) (carried : String) :
    Carries [header token] carried ↔
      IsAscii token ∧ Text.IsCore isBlank token.toList carried.toList := by
  rw [← bind_token?_eq_some_iff, bind_token?_header, token?_eq_some_iff, bears_value_iff,
    forall_isLegible_iff legal]

end Bearer

/-! ### An authenticator of tokens behind a reader of fields -/

namespace Reviewer

/-- What takes no time is in time. -/
theorem inTime_at_once {m : Type → Type} (r : Reviewer m) (verdict : Verdict) :
    r.inTime { verdict } = verdict :=
  if_pos (Nat.zero_le _)

variable {m : Type → Type} [Monad m]

/-- An authenticator of tokens that notes the time that it takes. -/
def timing (delegate : String → Option Audiences → m Timed) : TokenAuthenticator (StateT Nat m) :=
  fun token audiences => do
    let answer ← StateT.lift (delegate token audiences)
    set answer.delay
    return answer.verdict

/-- An authenticator of tokens behind a reader of header fields, which takes no time of its own. -/
def behindBearer (delegate : String → Option Audiences → m Timed) (credentials : Credentials) :
    m Timed := do
  let (verdict, delay) ← (RequestAuthenticator.bearer (timing delegate) credentials).run 0
  return { verdict, delay }

section Behind

variable [LawfulMonad m] {delegate : String → Option Audiences → m Timed} {token : String}

/-- The authenticator behind a reader is asked for the token that the field carries. -/
theorem behindBearer_of_carries {carried : String}
    (carries : Bearer.Carries [Bearer.header token] carried) (given : carried ≠ "")
    (wanted : Audiences) : behindBearer delegate (Bearer.credentials token wanted) =
      delegate carried (if wanted.isEmpty then none else some wanted) := by
  unfold behindBearer Bearer.credentials
  rw [RequestAuthenticator.bearer_of_carries _ _ given carries]
  simp [timing]

/-- It is not asked for an empty token, which is an error. -/
theorem behindBearer_of_carries_empty (carries : Bearer.Carries [Bearer.header token] "")
    (wanted : Audiences) : behindBearer delegate (Bearer.credentials token wanted) =
      pure { verdict := .error .invalidBearerToken } := by
  unfold behindBearer Bearer.credentials
  rw [RequestAuthenticator.bearer_of_carries_empty _ _ carries]
  simp

/-- It is not asked if the field carries no token. -/
theorem behindBearer_of_not_carries
    (nothing : ∀ carried, ¬Bearer.Carries [Bearer.header token] carried)
    (wanted : Audiences) : behindBearer delegate (Bearer.credentials token wanted) =
      pure { verdict := .ok none } := by
  unfold behindBearer Bearer.credentials
  rw [RequestAuthenticator.bearer_of_not_carries _ _ nothing]
  simp

/-- An application reviews tokens by an authenticator that is placed so. -/
theorem authenticator_reviewerWith (s : Settings) (authenticate : TokenAuthenticator m) :
    (App.reviewerWith s (some authenticate)).authenticator =
      some (behindBearer fun token audiences =>
        return { verdict := ← authenticate token audiences }) := by
  refine congrArg some (funext fun credentials => ?_)
  change (RequestAuthenticator.bearer authenticate credentials >>= fun verdict =>
    pure (Timed.mk verdict 0)) = _
  unfold behindBearer RequestAuthenticator.bearer
  rcases (Header.first? credentials.headers Bearer.fieldName).bind (Bearer.token? ·.value) with
    _ | _ | ⟨c, rest⟩
  · simp
  · simp
  · simp [timing]

end Behind

section Carried

variable [Backend m] {r : Reviewer m} {review : TokenReview}

/-- Goes on with a review if the validation lets it pass, should there be one. -/
def afterValidation (validate : Option (TokenReview → m (Except Failure Unit)))
    (review : TokenReview) (next : m (Except Failure TokenReview)) :
    m (Except Failure TokenReview) :=
  match validate with
  | none => next
  | some validate => do
    match ← validate review with
    | .error failure => return .error failure
    | .ok () => next

/-- A review that names a token and no namespace is authenticated once it is validated. -/
theorem create_eq_afterValidation {ns : Option String} (cluster : namespace? ns review = none)
    (given : review.spec.token ≠ "") (validate : Option (TokenReview → m (Except Failure Unit))) :
    r.create ns review validate = afterValidation validate review (r.authenticate review) := by
  unfold create
  rw [cluster, if_neg given]
  cases validate <;> rfl

/-- A token that can stand in a header field is put into one, and the review is concluded with what
the authenticator says of it. -/
theorem authenticate_of_isLegal [LawfulMonad m] {authenticate : Credentials → m Timed}
    (configured : r.authenticator = some authenticate) (legal : Bearer.IsLegal review.spec.token) :
    r.authenticate review =
      authenticate (Bearer.credentials review.spec.token (r.wanted review)) >>= fun answer =>
        r.conclude review (r.inTime answer) := by
  unfold Reviewer.authenticate verdict
  rw [configured, Bearer.credentials?_of_isLegal legal]
  simp

/-- **What an authenticator of tokens is asked for a review.** Let it stand behind a reader of
header fields, and let the review name no namespace and have a token that can stand in a header
field. If the validation passes, then the authenticator is asked once, for the token without the
blanks at its ends and with the audiences that are wanted, and the review is concluded with its
answer; but if the token consists of blanks, the review is concluded with an error, and if it is not
in ASCII, the review is returned as it is, and the authenticator is not asked. The authenticator by
which an application reviews tokens stands behind such a reader. -/
theorem carried_token [LawfulMonad m] {delegate : String → Option Audiences → m Timed}
    (configured : r.authenticator = some (behindBearer delegate)) {ns : Option String}
    (cluster : namespace? ns review = none) (given : review.spec.token ≠ "")
    (legal : Bearer.IsLegal review.spec.token)
    (validate : Option (TokenReview → m (Except Failure Unit))) :
    let token := review.spec.token
    let wanted := if review.spec.audiences.isEmpty then r.audiences else review.spec.audiences
    let asked := if wanted.isEmpty then none else some wanted
    (Bearer.IsAscii token → ¬(∀ c ∈ token.toList, Bearer.isBlank c = true) →
      ∃ carried : String, carried ≠ "" ∧
        Text.IsCore Bearer.isBlank token.toList carried.toList ∧
        r.create ns review validate = afterValidation validate review
          (delegate carried asked >>= fun answer => r.conclude review (r.inTime answer))) ∧
    (Bearer.IsAscii token → (∀ c ∈ token.toList, Bearer.isBlank c = true) →
      r.create ns review validate = afterValidation validate review
        (r.conclude review (.error .invalidBearerToken))) ∧
    (¬Bearer.IsAscii token →
      r.create ns review validate = afterValidation validate review (pure (.ok review))) ∧
    ∀ (s : Settings) (authenticate : TokenAuthenticator m),
      (App.reviewerWith s (some authenticate)).authenticator =
        some (behindBearer fun token audiences =>
          return { verdict := ← authenticate token audiences }) := by
  intro token wanted asked
  rw [create_eq_afterValidation cluster given, authenticate_of_isLegal configured legal]
  have carries := Bearer.carries_header_iff legal
  refine ⟨fun ascii notBlank => ?_, fun ascii blank => ?_, fun foreign => ?_,
    authenticator_reviewerWith⟩
  · let carried := String.ofList (Text.strip Bearer.isBlank token.toList)
    have core : Text.IsCore Bearer.isBlank token.toList carried.toList := by
      rw [String.toList_ofList]
      exact Text.isCore_strip _ _
    have nonempty : carried ≠ "" := by
      intro empty
      rw [empty] at core
      exact notBlank (Text.isCore_nil_iff.1 core)
    refine ⟨carried, nonempty, core, ?_⟩
    rw [behindBearer_of_carries ((carries carried).2 ⟨ascii, core⟩) nonempty]
    rfl
  · have core : Text.IsCore Bearer.isBlank token.toList "".toList := Text.isCore_nil_iff.2 blank
    rw [behindBearer_of_carries_empty ((carries "").2 ⟨ascii, core⟩), pure_bind, inTime_at_once]
  · have nothing (carried : String) : ¬Bearer.Carries [Bearer.header token] carried :=
      fun carries' => foreign ((carries carried).1 carries').1
    rw [behindBearer_of_not_carries nothing, pure_bind, inTime_at_once]
    rfl

/-- The hypotheses of `carried_token` are satisfiable: an authenticator is asked about a token with
blanks at its ends, and not about blanks or a letter that is not in ASCII. -/
theorem carried_token_blanks :
    let delegate : String → Option Audiences → Task Timed := fun token audiences =>
      .done { verdict := .ok (some { user := .named token, audiences := audiences.getD [] }) }
    let r : Reviewer Task := { authenticator := some (behindBearer delegate), audiences := ["api"] }
    r.create none (.forToken " a b\t") = (delegate "a b" (some ["api"])).bind (fun answer =>
        r.conclude (.forToken " a b\t") (r.inTime answer)) ∧
      r.create none (.forToken "\t ") =
        r.conclude (.forToken "\t ") (.error .invalidBearerToken) ∧
      r.create none (.forToken "tök") = .done (.ok (.forToken "tök")) := by
  intro delegate r
  have handled (token : String) (given : token ≠ "") (legal : Bearer.IsLegal token) :=
    @carried_token Task _ _ r (.forToken token) _ delegate rfl none rfl given legal none
  obtain ⟨asked, -⟩ := handled " a b\t" (by decide) (by decide +kernel)
  obtain ⟨-, blank, -⟩ := handled "\t " (by decide) (by decide +kernel)
  obtain ⟨-, -, foreign, -⟩ := handled "tök" (by decide) (by decide +kernel)
  refine ⟨?_, blank (by decide +kernel) (List.all_eq_true.1 (by decide +kernel)),
    foreign (by decide +kernel)⟩
  have notBlank : ¬∀ c ∈ " a b\t".toList, Bearer.isBlank c = true := by
    rw [← List.all_eq_true]
    decide +kernel
  obtain ⟨carried, -, core, created⟩ := asked (by decide +kernel) notBlank
  have same : Text.strip Bearer.isBlank " a b\t".toList = "a b".toList := by decide +kernel
  obtain rfl : "a b" = carried := String.toList_inj.1 (same.symm.trans core.strip_eq)
  exact created

/-- Tokens that can stand in a header field may be altered on the way: an authenticator that knows
just the token under review is not asked about it, and one that knows another token accepts it. -/
theorem carried_token_altered :
    let delegate (known : String) : String → Option Audiences → Task Timed := fun token _ =>
      .done { verdict := .ok (if token = known then some { user := .named "alice" } else none) }
    let authenticated (known token : String) : Option Bool :=
      ((create { authenticator := some (behindBearer (delegate known)) } none
        (.forToken token)).run .aliceHolds).1.bind (·.toOption.map (·.status.authenticated))
    (∀ token ∈ [" tok ", "\t", "tök"], token ≠ "" ∧ Bearer.IsLegal token ∧
      authenticated token token = some false) ∧
    authenticated "tok" " tok " = some true := by
  decide +kernel

end Carried

end Reviewer

end TokenAuthority
