/-
# Reviewing a token

The steps, in order:

| step | on failure |
| --- | --- |
| the review names no namespace | 400 |
| it carries a token | 400 |
| the caller's validation | its failure |
| without an authenticator the review is returned as it is | |
| the token can stand in a header field | status error |
| the authenticator answers in time and without error | status error |
| it accepts the token; otherwise the review is returned as it is | |
| its audiences have one that is wanted, if any are | 500 |

Wanted are the audiences that the review names, or else those of the server.
-/

import TokenAuthority.Authentication.Combine
import TokenAuthority.Resource.TokenReview
import TokenAuthority.Text.Quoted

namespace TokenAuthority

open Resource (TokenReview TokenReviewUser)

/-- A verdict, and how many milliseconds it takes. -/
structure Timed where
  verdict : Verdict
  delay : Nat := 0

/-- How a server reviews tokens. -/
structure Reviewer (m : Type → Type) where
  authenticator : Option (Credentials → m Timed)
  /-- The audiences of the server. -/
  audiences : Audiences := []
  /-- How many milliseconds a review may take. -/
  timeout : Nat := 10000
  /-- Whether the status tells the error that authentication met. -/
  exposesErrors : Bool := true

namespace Reviewer

variable {m : Type → Type}

/-- What the status says when errors are not told. -/
def genericError : String := "token authentication failed"

/-- The namespace that a review names, in the request or in its metadata. -/
def namespace? (requested : Option String) (review : TokenReview) : Option String :=
  requested.filter (· ≠ "") <|> review.metadata.namespaceName.filter (· ≠ "")

/-- The audiences that a review wants. -/
def wanted (r : Reviewer m) (review : TokenReview) : Audiences :=
  if review.spec.audiences.isEmpty then r.audiences else review.spec.audiences

/-- What is handed to the authenticator, if the token can stand in a header field. -/
def credentials? (token : String) (wanted : Audiences) : Option Credentials :=
  (Http.Header.of? Bearer.fieldName (Bearer.value token)).map fun header =>
    { headers := [header], audiences := if wanted.isEmpty then none else some wanted }

/-- What authentication comes to within the time that it may take. -/
def inTime (r : Reviewer m) (answer : Timed) : Verdict :=
  if answer.delay ≤ r.timeout then answer.verdict else .error .timeout

/-- The review of an accepted token. -/
def accept (review : TokenReview) (accepted : Accepted) : TokenReview :=
  { review with
    status := { review.status with
      authenticated := true
      user := some {
        username := accepted.user.name
        uid := accepted.user.uid
        groups := accepted.user.groups
        extra := accepted.user.extra }
      audiences := accepted.audiences } }

/-- The text of an error in a status. -/
def errorText (r : Reviewer m) (e : AuthenticationError) : String :=
  if r.exposesErrors then e.message else genericError

variable [Monad m] [Backend m]

/-- The review whose authentication failed. -/
def fail (r : Reviewer m) (review : TokenReview) (e : AuthenticationError) : m TokenReview := do
  Backend.warn ("Token review authentication failed: " ++ e.message)
  return { review with status := { review.status with error := some (r.errorText e) } }

/-- The review with the verdict of the authenticator. -/
def conclude (r : Reviewer m) (review : TokenReview) :
    Verdict → m (Except Failure TokenReview)
  | .error e => return .ok (← r.fail review e)
  | .ok none => return .ok review
  | .ok (some accepted) => do
    let wanted := r.wanted review
    if !wanted.isEmpty && (wanted.shared accepted.audiences).isEmpty then
      Backend.error ("Error validating audience. wanted=" ++ Text.quoteList wanted ++ ", got=" ++
        Text.quoteList accepted.audiences)
      return .error (.internal "error validating audiences")
    else return .ok (accept review accepted)

/-- What the authentication of a review's token comes to. Without an authenticator there is nothing
to say. -/
def verdict (r : Reviewer m) (review : TokenReview) : m Verdict :=
  match r.authenticator with
  | none => return .ok none
  | some authenticator =>
    match credentials? review.spec.token (r.wanted review) with
    | none => return .error .invalidBearerToken
    | some credentials => return r.inTime (← authenticator credentials)

/-- Authenticates the token of a review. -/
def authenticate (r : Reviewer m) (review : TokenReview) : m (Except Failure TokenReview) := do
  r.conclude review (← r.verdict review)

/-- Reviews a token. -/
def create (r : Reviewer m) (requestedNamespace : Option String) (review : TokenReview)
    (validate : Option (TokenReview → m (Except Failure Unit)) := none) :
    m (Except Failure TokenReview) := do
  if let some ns := namespace? requestedNamespace review then
    return .error (.badRequest ("namespace is not allowed on this type: " ++ ns))
  if review.spec.token = "" then
    return .error (.badRequest "token is required for TokenReview in authentication")
  match validate with
  | none => r.authenticate review
  | some validate =>
    match ← validate review with
    | .error failure => return .error failure
    | .ok () => r.authenticate review

end Reviewer
end TokenAuthority
