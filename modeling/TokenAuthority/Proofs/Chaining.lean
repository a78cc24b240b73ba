/-
# A server that asks another one

A server may leave a token to another server of the same kind, which reviews it
(`Reviewer.remote`). Two programs then stand back to back, each with a writer and a reader of its
own, and the verdict of the far authenticator reaches the near one as if there were nothing between
them (`TokenAuthenticator.webhook_transparent`):

| the far authenticator | the near one |
| --- | --- |
| has nothing to say | has nothing to say |
| ends in an error | ends in an error with its message |
| accepts for an audience that is wanted, or none is | accepts the same |
| accepts for other audiences only | ends in an error, as the answer is 500 |

It is not asked about an empty token, which is answered 400, nor about one that cannot stand in a
header field.
-/

import TokenAuthority.Proofs.Agreement
import TokenAuthority.Proofs.WireFormat

namespace TokenAuthority

open Http (Request Response)
open Resource (TokenReview TokenReviewStatus)

namespace AuthenticationError

/-- An error always says something. -/
theorem message_ne_empty (e : AuthenticationError) : e.message ≠ "" := by
  cases e with
  | store error => cases error <;> simp [message, StoreError.message]
  | _ => simp [message]

end AuthenticationError

namespace Reviewer

/-- The response to a review. -/
def response : Except Failure TokenReview → Response
  | .ok review => .json 201 review.toJson
  | .error failure => .ofFailure failure

section

variable {m : Type → Type} [Monad m] [Backend m]

/-- Answers a body that holds a review, whatever its size. -/
def respond (r : Reviewer m) (body : ByteArray) : m Response :=
  match Json.readText TokenReview.record.read (Text.Glyph.ofBytes body) with
  | .ok review => return response (← r.create none review)
  | .error .unfit => return Server.BodyError.unfit.response
  | .error _ => return Server.BodyError.malformed.response

/-- A server as it is reached by another one. -/
def remote (r : Reviewer m) : Webhook.Transport m := fun _ _ review => do
  let response ← r.respond review.toJson.render.toUTF8
  return some ⟨response.status, response.body.toUTF8⟩

end

end Reviewer

/-- An application answers a body that is not too large so. -/
theorem App.createTokenReview_eq_respond (app : App Task) {request : Request}
    (json : Server.announcesJson request.headers = true)
    (small : request.body.size ≤ Server.bodyLimit) :
    app.createTokenReview none request = app.reviewer.respond request.body := by
  unfold App.createTokenReview Reviewer.respond Server.readBody
  rw [json, if_neg (by simp), if_neg (Nat.not_lt.2 small)]
  cases Json.readText TokenReview.record.read (Text.Glyph.ofBytes request.body) with
  | error fault => cases fault <;> rfl
  | ok review =>
    refine congrArg (Task.bind _) (funext fun outcome => ?_)
    cases outcome <;> rfl

/-! ### What comes back -/

namespace Webhook

/-- What an answered review is read as. -/
def reading : Except Failure TokenReview → Verdict
  | .ok review => verdict review.status
  | .error failure =>
    .error (.webhook ("request failed with status: " ++ Http.statusText failure.reason.code))

/-- An error counts unless its text is empty. -/
theorem verdict_of_error {status : TokenReviewStatus} (unset : status.authenticated = false)
    {text : String} (error : status.error = some text) (nonempty : text ≠ "") :
    verdict status = .error (.webhook text) := by
  unfold verdict
  simp [unset, error, Option.filter_some, nonempty]

/-- A response is read as what it was written from. -/
theorem readReply_response (outcome : Except Failure TokenReview) :
    readReply ⟨(Reviewer.response outcome).status, (Reviewer.response outcome).body.toUTF8⟩ =
      reading outcome := by
  cases outcome with
  | ok review =>
    have body : (Reviewer.response (.ok review)).body = review.toJson.render := rfl
    unfold readReply
    rw [body, review.recovers.readText (.refl _)]
    rfl
  | error failure =>
    obtain ⟨reason, text⟩ := failure
    cases reason <;> rfl

/-- What is asked. -/
theorem request_eq (token : String) (audiences : Option Audiences) :
    request token audiences = { spec := { token, audiences := audiences.getD [] } } := by
  cases audiences <;> rfl

end Webhook

namespace Reviewer

variable {r : Reviewer Task}

/-- A review that is posted is the one that is answered. -/
theorem respond_toJson (r : Reviewer Task) (review : TokenReview) :
    r.respond review.toJson.render.toUTF8 =
      (r.create none review).bind fun outcome => .done (response outcome) := by
  unfold respond
  rw [review.recovers.readText (.refl _)]
  rfl

/-- Nothing is lost on the way to a server and back. -/
theorem webhook_remote_eq (r : Reviewer Task) {url : Url} (usable : Webhook.unusable? url = none)
    (timeout : Nat) (token : String) (audiences : Option Audiences) :
    TokenAuthenticator.webhook r.remote url timeout token audiences =
      (r.create none (Webhook.request token audiences)).bind fun outcome =>
        .done (Webhook.reading outcome) := by
  unfold TokenAuthenticator.webhook remote
  rw [usable]
  dsimp only
  rw [respond_toJson]
  simp only [Task.bind_eq, Task.bind_assoc, Task.done_bind, Task.pure_eq,
    Webhook.readReply_response]

/-- What a verdict is at the other end of the chain. -/
def relayed (wanted : Audiences) : Verdict → Verdict
  | .ok none => .ok none
  | .error e => .error (.webhook e.message)
  | .ok (some accepted) =>
    if wanted = [] ∨ ∃ audience ∈ wanted, audience ∈ accepted.audiences then .ok (some accepted)
    else .error (.webhook "request failed with status: 500 Internal Server Error")

/-- What a concluded review is read as is its verdict, as far as it comes through. -/
theorem reading_conclusion (exposes : r.exposesErrors = true) {review : TokenReview}
    (blank : review.status = {}) (verdict : Verdict) :
    Webhook.reading (r.conclusion review verdict) = relayed (r.wanted review) verdict := by
  rcases verdict with e | _ | accepted
  · have told : r.errorText e = e.message := if_pos exposes
    refine Webhook.verdict_of_error (by rw [blank]) ?_ e.message_ne_empty
    exact congrArg some told
  · simp [conclusion, Webhook.reading, Webhook.verdict, relayed, blank]
  · unfold conclusion relayed
    dsimp only
    by_cases good : r.wanted review = [] ∨ ∃ audience ∈ r.wanted review,
        audience ∈ accepted.audiences
    · rw [if_pos good, if_neg]
      · rfl
      · rintro ⟨wants, none⟩
        obtain empty | ⟨audience, isWanted, isTold⟩ := good
        · exact wants empty
        · exact Audiences.shared_eq_nil_iff.1 none audience isWanted isTold
    · rw [if_neg good, if_pos]
      · rfl
      · obtain ⟨wants, none⟩ := not_or.1 good
        refine ⟨wants, Audiences.shared_eq_nil_iff.2 fun audience isWanted isTold => ?_⟩
        exact none ⟨audience, isWanted, isTold⟩

end Reviewer

/-! ### Tokens that can stand in a header field -/

namespace Bearer

/-- A token whose bytes may all stand in a header field. -/
def IsLegal (token : String) : Prop :=
  (Http.textBytes token).all Http.isValueByte = true

instance (token : String) : Decidable (IsLegal token) :=
  inferInstanceAs (Decidable (_ = true))

/-- The value of the field that carries a token, byte by byte. -/
theorem textBytes_value (token : String) :
    Http.textBytes (value token) = Http.textBytes "Bearer " ++ Http.textBytes token := by
  have bytes (s : String) : Http.textBytes s = s.toList.flatMap String.utf8EncodeChar := by
    rw [← Http.textBytes_ofList, String.ofList_toList]
  rw [bytes, bytes, bytes, value, String.toList_append, List.flatMap_append]

/-- A token whose bytes are legal stands in a header field. -/
theorem header_of_isLegal {token : String} (legal : IsLegal token) :
    Http.Header.of? fieldName (value token) = some (header token) := by
  have bytes : (Http.textBytes (value token)).all Http.isValueByte = true := by
    rw [textBytes_value, List.all_append, legal]
    decide +kernel
  unfold Http.Header.of?
  rw [if_pos (by rw [bytes]; decide +kernel)]
  rfl

/-- A token with an illegal byte stands in no header field. -/
theorem header_of_not_isLegal {token : String} (illegal : ¬IsLegal token) :
    Http.Header.of? fieldName (value token) = none := by
  have bytes : (Http.textBytes (value token)).all Http.isValueByte = false := by
    rw [textBytes_value, List.all_append, Bool.eq_false_iff.2 illegal, Bool.and_false]
  unfold Http.Header.of?
  rw [if_neg (by rw [bytes, Bool.and_false]; exact Bool.false_ne_true)]

/-- What an authenticator is handed for a token: the field that carries it and the audiences that
are wanted, if any are. -/
def credentials (token : String) (wanted : Audiences) : Credentials :=
  { headers := [header token], audiences := if wanted.isEmpty then none else some wanted }

/-- An authenticator is handed a token whose bytes are legal. -/
theorem credentials?_of_isLegal {token : String} (legal : IsLegal token) (wanted : Audiences) :
    Reviewer.credentials? token wanted = some (credentials token wanted) := by
  unfold Reviewer.credentials?
  rw [header_of_isLegal legal]
  rfl

/-- No authenticator is handed a token with an illegal byte. -/
theorem credentials?_of_not_isLegal {token : String} (illegal : ¬IsLegal token)
    (wanted : Audiences) : Reviewer.credentials? token wanted = none := by
  unfold Reviewer.credentials?
  rw [header_of_not_isLegal illegal]
  rfl

end Bearer

/-! ### The chain -/

namespace Reviewer

variable {r : Reviewer Task}

/-- A review with a token is concluded with a verdict, and what comes back is this verdict. -/
theorem run_webhook_remote (exposes : r.exposesErrors = true) {url : Url}
    (usable : Webhook.unusable? url = none) (timeout : Nat) {token : String} (given : token ≠ "")
    (audiences : Option Audiences) {w w₁ : World} {verdict : Verdict}
    (ran : (r.verdict (Webhook.request token audiences)).run w = (some verdict, w₁)) :
    ∃ w', (TokenAuthenticator.webhook r.remote url timeout token audiences).run w =
        (some (relayed (r.wanted (Webhook.request token audiences)) verdict), w') ∧
      w₁.SameStores w' := by
  obtain ⟨w', concluded, same⟩ :=
    r.exists_run_conclude (Webhook.request token audiences) verdict w₁
  have cluster : namespace? none (Webhook.request token audiences) = none := by
    rw [Webhook.request_eq]
    rfl
  have blank : (Webhook.request token audiences).status = {} := by
    rw [Webhook.request_eq]
  have reviewed : (Webhook.request token audiences).spec.token ≠ "" := by
    rw [Webhook.request_eq]
    exact given
  have authenticated : (r.authenticate (Webhook.request token audiences)).run w =
      (some (r.conclusion (Webhook.request token audiences) verdict), w') :=
    (Task.run_bind_of_some ran).trans concluded
  refine ⟨w', ?_, same⟩
  rw [webhook_remote_eq r usable, create_eq_authenticate cluster reviewed,
    Task.run_bind_of_some authenticated, reading_conclusion exposes blank]
  rfl

end Reviewer

namespace TokenAuthenticator

/-- **A server that asks another one says what the other's authenticator says.** Let the far server
have an authenticator and tell errors. The audiences that are wanted are those that the near one is
asked for, or else those of the far one. An empty token is refused with status 400, and one that
cannot stand in a header field as an invalid bearer token. For any other the far authenticator is
asked, with the token in a header field and the audiences that are wanted. If it answers in time,
the near one says that it has nothing to say if the far one has not, tells its error, or accepts
the same with all that is known of the user; but it fails with status 500 if audiences are wanted
and what was accepted shares none of them. The stores are left as the far authenticator leaves them.
An application with the far reviewer answers like the far server, up to the size of a body that it
takes. -/
theorem webhook_transparent {r : Reviewer Task} {authenticate : Credentials → Task Timed}
    (configured : r.authenticator = some authenticate) (exposes : r.exposesErrors = true)
    {url : Url} (usable : Webhook.unusable? url = none) (timeout : Nat) (token : String)
    (audiences : Option Audiences) :
    let asked := audiences.getD []
    let wanted := if asked.isEmpty then r.audiences else asked
    let near := webhook r.remote url timeout token audiences
    (token = "" →
      near = .done (.error (.webhook "request failed with status: 400 Bad Request"))) ∧
    (token ≠ "" → ¬Bearer.IsLegal token → ∀ w, ∃ w',
      near.run w = (some (.error (.webhook "invalid bearer token")), w') ∧ w.SameStores w') ∧
    (token ≠ "" → Bearer.IsLegal token → ∀ w answer w₁,
      (authenticate (Bearer.credentials token wanted)).run w = (some answer, w₁) →
      answer.delay ≤ r.timeout → ∃ w',
        near.run w = (some (Reviewer.relayed wanted answer.verdict), w') ∧ w₁.SameStores w') ∧
    ∀ (app : App Task) (request : Request), app.reviewer = r →
      Server.announcesJson request.headers = true → request.body.size ≤ Server.bodyLimit →
      app.createTokenReview none request = r.respond request.body := by
  intro asked wanted near
  have isWanted : r.wanted (Webhook.request token audiences) = wanted := by
    rw [Webhook.request_eq]
    rfl
  have isToken : (Webhook.request token audiences).spec.token = token := by
    rw [Webhook.request_eq]
  refine ⟨?_, ?_, ?_, ?_⟩
  · rintro rfl
    have refused : r.create none (Webhook.request "" audiences) =
        .done (.error (.badRequest "token is required for TokenReview in authentication")) := by
      rw [Webhook.request_eq]
      rfl
    exact (r.webhook_remote_eq usable timeout "" audiences).trans (by rw [refused]; rfl)
  · intro given illegal w
    have ran : (r.verdict (Webhook.request token audiences)).run w =
        (some (.error .invalidBearerToken), w) := by
      unfold Reviewer.verdict
      rw [configured, isToken, Bearer.credentials?_of_not_isLegal illegal]
      rfl
    exact Reviewer.run_webhook_remote exposes usable timeout given audiences ran
  · intro given legal w answer w₁ answered inTime
    have handed : Reviewer.credentials? (Webhook.request token audiences).spec.token
        (r.wanted (Webhook.request token audiences)) =
          some (Bearer.credentials token wanted) := by
      rw [isToken, isWanted, Bearer.credentials?_of_isLegal legal]
    have ran : (r.verdict (Webhook.request token audiences)).run w = (some answer.verdict, w₁) := by
      rw [Reviewer.verdict_of_legal configured handed, Task.run_bind_of_some answered]
      rw [Reviewer.inTime, if_pos inTime]
      rfl
    rw [← isWanted]
    exact Reviewer.run_webhook_remote exposes usable timeout given audiences ran
  · rintro app request rfl json small
    exact app.createTokenReview_eq_respond json small

/-- The hypotheses of `webhook_transparent` are satisfiable: a far server that knows the tokens of
`alice` for two audiences is asked for nothing, for an illegal token, for one of its audiences and
for another one. -/
theorem webhook_transparent_alice :
    let alice : Accepted := {
      user := {
        name := "alice"
        uid := "u1"
        groups := ["staff"]
        extra := .ofList [("scopes", ["user:full", ""]), ("", [])] }
      audiences := ["api", "web"] }
    let r : Reviewer Task :=
      { authenticator := some fun _ => .done { verdict := .ok (some alice) } }
    let url : Url := { scheme := "https", host := some (.domain "far.example") }
    let near := webhook r.remote url 5
    let w : World := ⟨.epoch, { capacity := 1 }, { capacity := 1 }, []⟩
    near "" none = .done (.error (.webhook "request failed with status: 400 Bad Request")) ∧
      (∃ w', (near "a\nb" none).run w = (some (.error (.webhook "invalid bearer token")), w')) ∧
      (∃ w', (near "abc" (some ["web", "ops"])).run w = (some (.ok (some alice)), w')) ∧
      ∃ w', (near "abc" (some ["ops"])).run w =
        (some (.error (.webhook "request failed with status: 500 Internal Server Error")), w') := by
  intro alice r url near w
  have usable : Webhook.unusable? url = none := by decide
  have transparent (token : String) (audiences : Option Audiences) :=
    webhook_transparent (r := r) rfl rfl usable 5 token audiences
  have legal : Bearer.IsLegal "abc" := by decide +kernel
  refine ⟨(transparent "" none).1 rfl, ?_, ?_, ?_⟩
  · obtain ⟨w', ran, -⟩ := (transparent "a\nb" none).2.1 (by decide) (by decide +kernel) w
    exact ⟨w', ran⟩
  · obtain ⟨w', ran, -⟩ :=
      (transparent "abc" (some ["web", "ops"])).2.2.1 (by decide) legal w _ w rfl (Nat.zero_le _)
    exact ⟨w', ran⟩
  · obtain ⟨w', ran, -⟩ :=
      (transparent "abc" (some ["ops"])).2.2.1 (by decide) legal w _ w rfl (Nat.zero_le _)
    exact ⟨w', ran⟩

end TokenAuthenticator
end TokenAuthority
