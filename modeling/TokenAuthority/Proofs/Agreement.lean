/-
# A caller's token and a token under review

A stored token is authenticated when a caller carries it, and when it is put under review. It is
`TokenAuthenticator.accessTokens` that decides in both cases, but different things are around it:

| step | for a caller | for a review |
| --- | --- | --- |
| the token is read from | a header field | a header field that is made for it |
| before | configured tokens are looked up | audiences are asked for |
| after | | the verdict is given these audiences, they are checked, and the status is written |

None of it matters. Without a configured token, and if the review names no audiences, both come to
the same verdict, and leave the same stores (`App.review_agrees`).
-/

import TokenAuthority.Proofs.Audience
import TokenAuthority.Proofs.Overflow

namespace TokenAuthority

open Http (Header)
open Resource (AccessToken TokenReview TokenReviewStatus)

/-! ### Tokens in header fields -/

namespace Http

/-- The loop reads what is left behind what it has read. -/
theorem toList_loop (bytes : ByteArray) (i : Nat) (read : List UInt8) :
    ByteArray.toList.loop bytes i read = read.reverse ++ bytes.data.toList.drop i := by
  fun_induction ByteArray.toList.loop bytes i read with
  | case1 i read inside ih =>
    have length : i < bytes.data.toList.length := by simpa using inside
    have byte : bytes.get! i = bytes.data.toList[i] := by
      simp only [ByteArray.get!, Array.getElem_toList]
      exact getElem!_pos bytes.data i (by simpa using inside)
    rw [ih, List.drop_eq_getElem_cons length, byte, List.reverse_cons, List.append_assoc,
      List.singleton_append]
  | case2 i read outside =>
    rw [List.drop_eq_nil_of_le (by simpa using outside), List.append_nil]

/-- The bytes of a text are those of its characters. -/
theorem textBytes_ofList (text : List Char) :
    textBytes (String.ofList text) = text.flatMap String.utf8EncodeChar := by
  change ByteArray.toList.loop _ 0 [] = _
  rw [toList_loop]
  exact List.toList_data_toByteArray

/-- Whether a character is a printable one of ASCII. -/
def IsPrintable (c : Char) : Prop :=
  ' '.toNat ≤ c.toNat ∧ c.toNat ≤ '~'.toNat

instance (c : Char) : Decidable (IsPrintable c) :=
  inferInstanceAs (Decidable (' '.toNat ≤ c.toNat ∧ c.toNat ≤ '~'.toNat))

/-- A text is found printable character by character. -/
theorem isPrintable_of_all {text : List Char} (h : text.all (decide <| IsPrintable ·) = true) :
    ∀ c ∈ text, IsPrintable c :=
  fun c mem => of_decide_eq_true (List.all_eq_true.1 h c mem)

/-- The byte of a printable character. -/
def printableByte (c : Char) : UInt8 :=
  UInt8.ofNat c.toNat

/-- Printable characters are between the blank and the tilde. -/
theorem IsPrintable.bounds {c : Char} (h : IsPrintable c) : 32 ≤ c.toNat ∧ c.toNat ≤ 126 :=
  h

/-- A character of ASCII takes one byte. -/
theorem textBytes_of_ascii {text : List Char} (ascii : ∀ c ∈ text, c.toNat < 128) :
    textBytes (String.ofList text) = text.map printableByte := by
  rw [textBytes_ofList]
  induction text with
  | nil => rfl
  | cons c rest ih =>
    have byte : String.utf8EncodeChar c = [printableByte c] :=
      if_pos (Nat.le_of_lt_succ (ascii c List.mem_cons_self))
    rw [List.flatMap_cons, byte, ih fun d mem => ascii d (List.mem_cons_of_mem _ mem)]
    rfl

/-- A character of ASCII and its byte have the same number. -/
theorem toNat_printableByte {c : Char} (ascii : c.toNat < 128) :
    (printableByte c).toNat = c.toNat :=
  Nat.mod_eq_of_lt (by omega)

/-- The character of a byte of ASCII has its code. -/
theorem toNat_ofNat_toNat {b : UInt8} (ascii : b < 128) :
    (Char.ofNat b.toNat).toNat = b.toNat := by
  have bound : b.toNat < 128 := UInt8.lt_iff_toNat_lt.1 ascii
  unfold Char.ofNat
  rw [dif_pos (.inl (by omega))]
  rfl

/-- The byte of the character of a byte of ASCII is that byte. -/
theorem printableByte_ofNat {b : UInt8} (ascii : b < 128) :
    printableByte (Char.ofNat b.toNat) = b := by
  unfold printableByte
  rw [toNat_ofNat_toNat ascii, UInt8.ofNat_toNat]

/-- Printable characters are in ASCII. -/
theorem IsPrintable.ascii {c : Char} (h : IsPrintable c) : c.toNat < 128 := by
  have bounds := h.bounds
  omega

/-- The bytes of printable characters are between the blank and the tilde. -/
theorem IsPrintable.byte_bounds {c : Char} (h : IsPrintable c) :
    32 ≤ printableByte c ∧ printableByte c < 127 := by
  have bounds := h.bounds
  rw [UInt8.le_iff_toNat_le, UInt8.lt_iff_toNat_lt, toNat_printableByte h.ascii]
  exact ⟨bounds.1, Nat.lt_succ_of_le bounds.2⟩

/-- A character that a reader of fields knows: a tab or a printable one of ASCII. -/
def IsLegible (c : Char) : Prop :=
  c = '\t' ∨ IsPrintable c

/-- Characters that a reader of fields knows are in ASCII. -/
theorem IsLegible.ascii {c : Char} (h : IsLegible c) : c.toNat < 128 := by
  obtain rfl | printable := h
  · decide
  · exact printable.ascii

/-- A legible text is read from its bytes. -/
theorem printable?_of_isLegible {text : List Char} (h : ∀ c ∈ text, IsLegible c) :
    printable? (textBytes (String.ofList text)) = some text := by
  have legal : (text.map printableByte).all fun b => b = 9 || (32 ≤ b && b < 127) := by
    refine List.all_eq_true.2 fun b isByte => ?_
    obtain ⟨c, mem, rfl⟩ := List.mem_map.1 isByte
    obtain rfl | printable := h c mem
    · decide
    · simp [printable.byte_bounds]
  have read : (text.map printableByte).map (fun b => Char.ofNat b.toNat) = text := by
    rw [List.map_map]
    refine (List.map_congr_left fun c mem => ?_).trans (List.map_id text)
    exact (congrArg Char.ofNat (toNat_printableByte (h c mem).ascii)).trans c.ofNat_toNat
  rw [textBytes_of_ascii fun c mem => (h c mem).ascii]
  unfold printable?
  rw [if_pos legal, read]

/-- Printable characters may stand in the value of a field. -/
theorem isValueByte_of_isPrintable {text : List Char} (h : ∀ c ∈ text, IsPrintable c) :
    (textBytes (String.ofList text)).all isValueByte = true := by
  rw [textBytes_of_ascii fun c mem => (h c mem).ascii]
  refine List.all_eq_true.2 fun b isByte => ?_
  obtain ⟨c, mem, rfl⟩ := List.mem_map.1 isByte
  obtain ⟨lower, upper⟩ := (h c mem).byte_bounds
  have noDelete : printableByte c ≠ 127 := fun same => absurd upper (by rw [same]; decide)
  simp [isValueByte, lower, noDelete]

end Http

/-- A token of printable characters, without blanks at its ends. -/
structure Bearer.IsPlain (token : String) : Prop where
  nonempty : token ≠ ""
  printable : ∀ c ∈ token.toList, Http.IsPrintable c
  first : token.toList.head? ≠ some ' '
  last : token.toList.getLast? ≠ some ' '

namespace Bearer

/-- The field that carries a token. -/
def header (token : String) : Header :=
  ⟨fieldName, Http.textBytes (value token)⟩

variable {token : String}

/-- The value of the field that carries a plain token is printable. -/
theorem IsPlain.value (plain : IsPlain token) :
    ∀ c ∈ "Bearer ".toList ++ token.toList, Http.IsPrintable c := by
  intro c mem
  obtain mem | mem := List.mem_append.1 mem
  · exact Http.isPrintable_of_all (by decide) c mem
  · exact plain.printable c mem

/-- The value of the field that carries a token, character by character. -/
theorem value_eq (token : String) :
    value token = String.ofList ("Bearer ".toList ++ token.toList) := by
  rw [String.ofList_append, String.ofList_toList, String.ofList_toList]
  rfl

/-- A field can be made for the token. -/
theorem IsPlain.header (plain : IsPlain token) :
    Header.of? fieldName (Bearer.value token) = some (Bearer.header token) := by
  have legal := Http.isValueByte_of_isPrintable plain.value
  rw [← value_eq] at legal
  unfold Header.of?
  rw [if_pos (by rw [legal]; decide +kernel)]
  rfl

/-- What is read from the field is the token without the blanks at its ends. -/
theorem token?_of_isLegible (legible : ∀ c ∈ token.toList, Http.IsLegible c) :
    token? (Http.textBytes (Bearer.value token)) = some (Text.strip isBlank token.toList) := by
  have legible (c : Char) (mem : c ∈ "Bearer ".toList ++ token.toList) : Http.IsLegible c := by
    obtain mem | mem := List.mem_append.1 mem
    · exact .inr (Http.isPrintable_of_all (by decide) c mem)
    · exact legible c mem
  have read := Http.printable?_of_isLegible legible
  rw [← value_eq] at read
  unfold token?
  rw [read]
  rfl

/-- What is read from the field is the token. -/
theorem IsPlain.token? (plain : IsPlain token) :
    Bearer.token? (Http.textBytes (Bearer.value token)) = some token.toList := by
  have noBlank (c : Char) (mem : c ∈ token.toList) (noSpace : c ≠ ' ') : isBlank c = false := by
    have noTab : c ≠ '\t' := by
      rintro rfl
      exact absurd (plain.printable _ mem).1 (by decide)
    simp [isBlank, noSpace, noTab]
  have stripped : Text.strip isBlank token.toList = token.toList := by
    refine Text.strip_eq_self (fun c isFirst => ?_) fun c isLast => ?_
    · refine noBlank c (List.mem_of_head? isFirst) ?_
      rintro rfl
      exact plain.first isFirst
    · refine noBlank c (List.mem_of_getLast? isLast) ?_
      rintro rfl
      exact plain.last isLast
  rw [token?_of_isLegible fun c mem => .inr (plain.printable c mem), stripped]

end Bearer

/-! ### What is around the check of stored tokens -/

/-- The token that the first field carries is put to the delegate. -/
theorem RequestAuthenticator.bearer_of_token {m : Type → Type} [Monad m]
    (delegate : TokenAuthenticator m) {credentials : Credentials} {token : String}
    (given : token ≠ "") (carried : (Header.first? credentials.headers Bearer.fieldName).bind
      (Bearer.token? ·.value) = some token.toList) :
    bearer delegate credentials = delegate token credentials.audiences := by
  unfold bearer
  rw [carried]
  split
  · rename_i missing
    cases missing
  · rename_i empty
    exact absurd (String.toList_eq_nil_iff.1 (Option.some.inj empty)) given
  · rename_i same
    rw [← Option.some.inj same, String.ofList_toList]

/-- From a single field that carries a token, that field is read. -/
theorem Bearer.bind_token?_header (token : String) :
    (Header.first? [header token] fieldName).bind (Bearer.token? ·.value) =
      Bearer.token? (Http.textBytes (value token)) := by
  have first : Header.first? [header token] fieldName = some (header token) :=
    List.find?_cons_of_pos (decide_eq_true rfl)
  rw [first]
  rfl

/-- A plain token in a header field is handed on as it is. -/
theorem RequestAuthenticator.bearer_of_isPlain {token : String} (plain : Bearer.IsPlain token)
    (delegate : TokenAuthenticator Task) (audiences : Option Audiences) :
    bearer delegate { headers := [Bearer.header token], audiences } = delegate token audiences :=
  bearer_of_token delegate plain.nonempty ((Bearer.bind_token?_header token).trans plain.token?)

namespace TokenAuthenticator

/-- Of one member the union makes nothing else. -/
theorem firstAccepted_singleton (member : TokenAuthenticator Task) (token : String)
    (audiences : Option Audiences) :
    firstAccepted token audiences [member] [] = member token audiences := by
  refine Eq.trans (congrArg (Task.bind _) (funext fun verdict => ?_)) (Task.bind_done _)
  rcases verdict with e | _ | accepted <;> rfl

/-- Tokens that are not configured are left to the other members. -/
theorem union_static (tokens : List StaticToken) (member : TokenAuthenticator Task) {token : String}
    (unlisted : ∀ entry ∈ tokens, entry.token ≠ token) (audiences : Option Audiences) :
    union [static tokens, member] token audiences = member token audiences := by
  have missing : StaticToken.lookup? tokens token = none := by
    unfold StaticToken.lookup?
    split
    · rfl
    · simpa using unlisted
  rw [← firstAccepted_singleton member]
  unfold union
  rw [firstAccepted]
  unfold static
  rw [missing]
  rfl

/-- If all of its audiences are asked for, a token is accepted for them; all else is the same. -/
theorem audienceAgnostic_own (own : Audiences) (delegate : TokenAuthenticator Task)
    (token : String) :
    ∃ f : Accepted → Accepted, (∀ accepted, (f accepted).user = accepted.user) ∧
      (own ≠ [] → ∀ accepted, (f accepted).audiences = own) ∧
      audienceAgnostic own delegate token (if own.isEmpty then none else some own) =
        (delegate token none).bind fun verdict => .done (verdict.map (·.map f)) := by
  cases empty : own.isEmpty with
  | true =>
    refine ⟨id, fun _ => rfl, fun nonempty => absurd (List.isEmpty_iff.1 empty) nonempty, ?_⟩
    refine (Task.bind_done _).symm.trans (congrArg (Task.bind _) (funext fun verdict => ?_))
    rcases verdict with e | _ | accepted <;> rfl
  | false =>
    refine ⟨fun accepted => { accepted with audiences := own }, fun _ => rfl, fun _ _ => rfl, ?_⟩
    have shared : own.shared own = own := by simp [Audiences.shared]
    unfold audienceAgnostic
    simp [empty, shared]

end TokenAuthenticator

/-! ### The same verdict -/

/-- A status tells a verdict: whom it accepts, or its error. -/
def Resource.TokenReviewStatus.Tells (status : TokenReviewStatus) : Verdict → Prop
  | .ok (some accepted) =>
    status.authenticated = true ∧ status.error = none ∧
      status.user = some {
        username := accepted.user.name
        uid := accepted.user.uid
        groups := accepted.user.groups
        extra := accepted.user.extra }
  | .ok none => status.authenticated = false ∧ status.error = none ∧ status.user = none
  | .error e => status.authenticated = false ∧ status.error = some e.message ∧ status.user = none

namespace Reviewer

/-- What a review of a token without audiences comes to is what an authenticator says of it that is
asked for all audiences of the server. -/
theorem verdict_forToken {r : Reviewer Task} {token : String} (plain : Bearer.IsPlain token)
    {delegate : TokenAuthenticator Task}
    (configured : r.authenticator = some fun credentials =>
      return { verdict := ← RequestAuthenticator.bearer delegate credentials }) :
    r.verdict (.forToken token) =
      delegate token (if r.audiences.isEmpty then none else some r.audiences) := by
  have legal : credentials? token r.audiences = some {
      headers := [Bearer.header token]
      audiences := if r.audiences.isEmpty then none else some r.audiences } := by
    unfold credentials?
    rw [plain.header]
    rfl
  rw [verdict_of_legal configured legal, RequestAuthenticator.bearer_of_isPlain plain,
    Task.bind_eq, Task.bind_assoc]
  refine Eq.trans (congrArg (Task.bind _) (funext fun verdict => ?_)) (Task.bind_done _)
  exact congrArg Task.done (if_pos (Nat.zero_le _))

/-- What a review of a token comes to that was accepted for the audiences of the server, or not at
all. -/
theorem exists_conclusion_forToken {r : Reviewer Task} (exposes : r.exposesErrors = true)
    {f : Accepted → Accepted} (user : ∀ accepted, (f accepted).user = accepted.user)
    (audiences : r.audiences ≠ [] → ∀ accepted, (f accepted).audiences = r.audiences)
    (token : String) (verdict : Verdict) :
    ∃ review, r.conclusion (.forToken token) (verdict.map (·.map f)) = .ok review ∧
      review.status.Tells verdict := by
  rcases verdict with e | _ | accepted
  · exact ⟨_, rfl, rfl, congrArg some (if_pos exposes), rfl⟩
  · exact ⟨_, rfl, rfl, rfl, rfl⟩
  · have shares (wants : r.audiences ≠ []) :
        ∃ audience ∈ r.audiences, audience ∈ (f accepted).audiences := by
      obtain ⟨audience, mem⟩ := List.exists_mem_of_ne_nil _ wants
      exact ⟨audience, mem, (audiences wants accepted).symm ▸ mem⟩
    refine ⟨_, conclusion_accepted shares, rfl, rfl, ?_⟩
    unfold accept
    rw [user]

/-- A review is always concluded, and the stores are left. -/
theorem exists_run_conclude (r : Reviewer Task) (review : TokenReview) (verdict : Verdict)
    (w : World) :
    ∃ w', (r.conclude review verdict).run w = (some (r.conclusion review verdict), w') ∧
      w.SameStores w' := by
  obtain silent | ⟨severity, text, noted⟩ := r.conclude_cases review verdict
  · rw [silent]
    exact ⟨w, rfl, .refl w⟩
  · rw [noted]
    exact ⟨_, rfl, w.sameStores_perform rfl⟩

end Reviewer

namespace App

/-- **A caller's token and a token under review are authenticated alike.** Let an application review
tokens by its own stored tokens, and tell errors. A token of printable characters without blanks at
its ends, that is not a configured one, is authenticated for a caller who carries it, and is
reviewed, each in the same world. Unless a span of the stored token cannot be added up, both come to
a result, the review tells the verdict on the caller, and the same stores are left. -/
theorem review_agrees {s : Settings} {tokens : List StaticToken} {policy : List PolicyRule}
    {post : Webhook.Transport Task} {configuration : String → ExceptT String Task (Option String)}
    {app : App Task} {w₀ w₀' : World}
    (assembled : (assemble s tokens policy post configuration).run w₀ = (some (.ok app), w₀'))
    (backend : s.tokenReview.backend = .accessTokens)
    (exposes : s.tokenReview.exposesErrors = true) {token : String} (plain : Bearer.IsPlain token)
    (unlisted : ∀ entry ∈ tokens, entry.token ≠ token) {w : World}
    (sums : ∀ stored, w.accessTokens.find? (TokenName.ofToken token) = some stored →
      stored.inForce? w.clock ≠ none) :
    ∃ verdict review w₁ w₂,
      (app.authenticator { headers := [Bearer.header token] }).run w = (some verdict, w₁) ∧
      (app.reviewer.create none (.forToken token)).run w = (some (.ok review), w₂) ∧
      review.status.Tells verdict ∧ w₁.SameStores w₂ := by
  obtain ⟨authenticator, reviewer⟩ := parts_of_assemble_accessTokens assembled backend
  rw [authenticator, reviewer]
  let own : Audiences := s.tokenReview.audienceList
  let r : Reviewer Task := reviewerWith s (some (.audienceAgnostic own (storedTokens s)))
  -- the verdict of the stored tokens is that on the caller
  obtain ⟨verdict, w₁, ran⟩ : ∃ verdict w₁,
      (storedTokens s token none : Task Verdict).run w = (some verdict, w₁) := by
    have result : ((storedTokens s token none : Task Verdict).run w).1 ≠ none := by
      rw [storedTokens, Ne, TokenAuthenticator.run_accessTokens_eq_none_iff]
      rintro ⟨stored, found, undecided⟩
      exact sums stored found undecided
    obtain ⟨verdict, said⟩ := Option.ne_none_iff_exists'.1 result
    exact ⟨verdict, _, Prod.ext said rfl⟩
  have caller : (callerAuthenticator s tokens { headers := [Bearer.header token] } : Task Verdict) =
      storedTokens s token none := by
    unfold callerAuthenticator
    rw [RequestAuthenticator.bearer_of_isPlain plain, TokenAuthenticator.union_static _ _ unlisted]
  -- the review comes to the same but for the audiences, which pass the check
  obtain ⟨f, user, audiences, agnostic⟩ :=
    TokenAuthenticator.audienceAgnostic_own own (storedTokens s) token
  have reviews : r.verdict (.forToken token) = (storedTokens s token none : Task Verdict).bind
      fun verdict => .done (verdict.map (·.map f)) :=
    (Reviewer.verdict_forToken plain rfl).trans agnostic
  obtain ⟨review, concluded, tells⟩ :=
    Reviewer.exists_conclusion_forToken (r := r) exposes user audiences token verdict
  obtain ⟨w₂, told, same⟩ := r.exists_run_conclude (.forToken token) (verdict.map (·.map f)) w₁
  refine ⟨verdict, review, w₁, w₂, ?_, ?_, tells, same⟩
  · exact (congrArg (Task.run · w) caller).trans ran
  · rw [concluded] at told
    rw [Reviewer.create_eq_authenticate rfl plain.nonempty]
    refine Eq.trans ?_ told
    change ((r.verdict _).bind (r.conclude _)).run w = _
    rw [reviews, Task.bind_assoc, Task.run_bind_of_some ran]
    rfl

/-- The hypotheses of `review_agrees` are satisfiable: the stored token of `alice` is accepted for a
caller, and so it is under review. -/
theorem review_agrees_alice :
    ∃ review w', ((selfContained {} [.admin] []).reviewer.create none (.forToken "tok")).run
        .aliceHolds = (some (.ok review), w') ∧
      review.status.authenticated = true ∧
      review.status.user.map (·.username) = some "alice" := by
  obtain ⟨w₀', assembled⟩ := run_assemble_selfContained (s := {}) rfl (by decide +kernel) [.admin]
    [] (fun _ _ _ => .done none) .aliceHolds
  have plain : Bearer.IsPlain "tok" := ⟨by decide, Http.isPrintable_of_all (by decide), by decide,
    by decide⟩
  have unlisted : ∀ entry ∈ [StaticToken.admin], entry.token ≠ "tok" := by decide
  obtain ⟨verdict, review, w₁, w₂, caller, created, tells, -⟩ :=
    review_agrees assembled rfl rfl plain unlisted World.inForce?_aliceHolds
  have accepts : (((selfContained {} [.admin] []).authenticator
      { headers := [Bearer.header "tok"] }).run .aliceHolds).1.bind Verdict.user? =
      some { name := "alice" } := by decide +kernel
  rw [caller] at accepts
  rcases verdict with e | _ | accepted
  · cases accepts
  · cases accepts
  · obtain ⟨authenticated, -, user⟩ := tells
    have isAlice : accepted.user = { name := "alice" } := Option.some.inj accepts
    rw [isAlice] at user
    exact ⟨review, w₂, created, authenticated, congrArg (Option.map (·.username)) user⟩

end App

end TokenAuthority
