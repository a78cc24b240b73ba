/-
# Access tokens

An access token was issued to a user through a client. Two spans limit its use, both counted in
seconds from its creation, and both are off when zero or negative:

| span | set by | when it is over |
| --- | --- | --- |
| `expiresIn` | the issuer | the token is expired |
| `inactivityTimeout` | the issuer, then each use | the token is timed out |

The end of a span need not be representable: a span has at most 9223372036854775 seconds, and the
calendar ends with the year 262142. Whoever asks then gets no answer (`none`).
-/

import TokenAuthority.Resource.Metadata

namespace TokenAuthority
namespace Resource

open Json (Value Reader Record)
open Time (Instant)

/-- An access token. -/
structure AccessToken where
  apiVersion : String := "oauth.openshift.io/v1"
  kind : String := "OAuthAccessToken"
  metadata : Metadata := {}
  /-- The client that asked for the token. -/
  clientName : String := ""
  /-- Seconds after which the token expires. -/
  expiresIn : Int64 := 0
  scopes : List String := []
  redirectUri : String := ""
  /-- The user to whom the token was issued. -/
  userName : String := ""
  /-- The identifier of that user. -/
  userUid : String := ""
  authorizeToken : String := ""
  refreshToken : String := ""
  /-- Seconds after which the token times out. -/
  inactivityTimeout : Int32 := 0
deriving DecidableEq, Repr, Inhabited

/-- Reads an integer of 64 bits. -/
def readInt64 : Reader Int64 := fun d =>
  Int64.ofInt <$> Reader.integer (-9223372036854775808) 9223372036854775807 d

/-- Reads an integer of 32 bits. -/
def readInt32 : Reader Int32 := fun d =>
  Int32.ofInt <$> Reader.integer (-2147483648) 2147483647 d

namespace AccessToken

/-- How an access token is read. -/
def record : Record AccessToken :=
  AccessToken.mk <$> Record.field "apiVersion" Reader.string "oauth.openshift.io/v1"
    <*> Record.field "kind" Reader.string "OAuthAccessToken"
    <*> Record.field "metadata" Metadata.record.read {}
    <*> Record.field "clientName" Reader.string ""
    <*> Record.field "expiresIn" readInt64 0
    <*> Record.field "scopes" texts []
    <*> Record.field "redirectUri" Reader.string ""
    <*> Record.field "userName" Reader.string ""
    <*> Record.field "userUID" Reader.string ""
    <*> Record.field "authorizeToken" Reader.string ""
    <*> Record.field "refreshToken" Reader.string ""
    <*> Record.field "inactivityTimeoutSeconds" readInt32 0

/-- An access token in JSON. -/
def toJson (t : AccessToken) : Value :=
  members [
    ("apiVersion", some (.string t.apiVersion)),
    ("kind", some (.string t.kind)),
    ("metadata", some t.metadata.toJson),
    ("clientName", some (.string t.clientName)),
    ("expiresIn", some (.integer t.expiresIn.toInt)),
    ("scopes", textsUnlessEmpty t.scopes),
    ("redirectUri", textUnlessEmpty t.redirectUri),
    ("userName", some (.string t.userName)),
    ("userUID", some (.string t.userUid)),
    ("authorizeToken", textUnlessEmpty t.authorizeToken),
    ("refreshToken", textUnlessEmpty t.refreshToken),
    ("inactivityTimeoutSeconds", some (.integer t.inactivityTimeout.toInt))]

/-- An access token written out. -/
def dump (t : AccessToken) : Text.Dump :=
  .record "OAuthAccessToken" [
    ("api_version", .text t.apiVersion),
    ("kind", .text t.kind),
    ("metadata", t.metadata.dump),
    ("client_name", .text t.clientName),
    ("expires_in", .plain (toString t.expiresIn.toInt)),
    ("scopes", .texts t.scopes),
    ("redirect_uri", .text t.redirectUri),
    ("user_name", .text t.userName),
    ("user_uid", .text t.userUid),
    ("authorize_token", .text t.authorizeToken),
    ("refresh_token", .text t.refreshToken),
    ("inactivity_timeout_seconds", .plain (toString t.inactivityTimeout.toInt))]

/-- The time from which the spans count; a token that carries none counts from now. -/
def created (t : AccessToken) (now : Instant) : Instant :=
  t.metadata.created.getD now

/-- Seconds since the token was created, negative if that lies ahead. -/
def age (t : AccessToken) (now : Instant) : Int :=
  now.secondsSince (t.created now)

/-- The longest span, in seconds. -/
def longestSpan : Int := 9223372036854775

/-- The end of a span of seconds, if it can be represented. -/
def spanEnd? (start : Instant) (seconds : Int) : Option Instant :=
  if seconds ≤ longestSpan then start.after? seconds else none

/-- Whether a span is over. A span that is zero or negative never is. -/
def spanIsOver? (start : Instant) (seconds : Int) (now : Instant) : Option Bool :=
  if 0 < seconds then (spanEnd? start seconds).map (·.notAfter now) else some false

/-- Whether the token is expired. -/
def isExpired? (t : AccessToken) (now : Instant) : Option Bool :=
  spanIsOver? (t.created now) t.expiresIn.toInt now

/-- Whether the token is timed out. -/
def isTimedOut? (t : AccessToken) (now : Instant) : Option Bool :=
  spanIsOver? (t.created now) t.inactivityTimeout.toInt now

/-- The token used just now, which must be used again within a number of seconds: the span counts
from the creation, and stops at the largest that can be stored. -/
def used (t : AccessToken) (now : Instant) (timeout : UInt64) : AccessToken :=
  let seconds := min ((t.age now).toNat + timeout.toNat) (UInt64.size - 1)
  { t with inactivityTimeout := if seconds < 2147483648 then Int32.ofNat seconds else Int32.maxValue }

end AccessToken
end Resource
end TokenAuthority
