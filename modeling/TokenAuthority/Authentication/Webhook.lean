/-
# A remote reviewer

A token can be reviewed by another server: a review is posted to its URL, and the review that comes
back tells the verdict.

| what comes back | verdict |
| --- | --- |
| nothing | an error |
| a status code other than 2xx | an error |
| a body that is no review | an error |
| not authenticated, with an error | that error |
| not authenticated | nothing to say |
| authenticated | accepted |
-/

import TokenAuthority.Authentication.Basic
import TokenAuthority.Http.StatusLine
import TokenAuthority.Resource.TokenReview
import TokenAuthority.Url.Basic

namespace TokenAuthority

open Resource (TokenReview TokenReviewStatus)

namespace Webhook

/-- What a remote server answers. -/
structure Reply where
  status : Nat
  body : ByteArray

/-- Posts a review to a URL and waits for the answer for some seconds; `none` if none comes. -/
abbrev Transport (m : Type → Type) := Url → Nat → TokenReview → m (Option Reply)

/-- The review of a token for some audiences, if any are asked for. -/
def request (token : String) (audiences : Option Audiences) : TokenReview :=
  let review := TokenReview.forToken token
  match audiences with
  | some audiences => review.withAudiences audiences
  | none => review

/-- The URL of a remote server, or why there is none. -/
def url (text : String) : Except AuthenticationError Url :=
  match Url.read text with
  | .ok url => .ok url
  | .error fault => .error (.webhook ("invalid URL " ++ text ++ ": " ++ fault.message))

/-- What a status says. -/
def verdict (status : TokenReviewStatus) : Verdict :=
  if status.authenticated then
    let user := status.user.getD { username := "" }
    .ok (some {
      user := { name := user.username, uid := user.uid, groups := user.groups, extra := user.extra }
      audiences := status.audiences })
  else match status.error.filter (· ≠ "") with
    | some text => .error (.webhook text)
    | none => .ok none

/-- What a reply says. -/
def readReply (reply : Reply) : Verdict :=
  if 200 ≤ reply.status && reply.status < 300 then
    match Json.readText TokenReview.record.read (Text.Glyph.ofBytes reply.body) with
    | .ok review => verdict review.status
    | .error _ => .error (.webhook "invalid response: error decoding response body")
  else .error (.webhook ("request failed with status: " ++ Http.statusText reply.status))

/-- The URL without user and password, which are sent in a header field. -/
def withoutCredentials (url : Url) : Url :=
  { url with username := "", password := "" }

/-- The URL that cannot be posted to, as it is told, if it is one: posting takes HTTP and a host. -/
def unusable? (url : Url) : Option Url :=
  if url.host.all (· = .domain "") then some url
  else if url.scheme = "http" || url.scheme = "https" then none
  else some (withoutCredentials url)

end Webhook

/-- Accepts what a remote server accepts. -/
def TokenAuthenticator.webhook {m : Type → Type} [Monad m] (post : Webhook.Transport m) (url : Url)
    (timeout : Nat) : TokenAuthenticator m := fun token audiences => do
  match Webhook.unusable? url with
  | some url => return .error (.webhook ("builder error for url (" ++ url.render ++ ")"))
  | none =>
    match ← post url timeout (Webhook.request token audiences) with
    | some reply => return Webhook.readReply reply
    | none =>
      return .error (.webhook
        ("error sending request for url (" ++ (Webhook.withoutCredentials url).render ++ ")"))

end TokenAuthority
